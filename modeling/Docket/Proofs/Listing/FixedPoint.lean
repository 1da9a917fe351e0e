/-
A listing of JSON as the listing of issues.  The records that it shows are
linked already, they stand in order, the query keeps each of them and the
limit lets all of them through, so each step of listing them again leaves
them as they are.

Main statements: linking what was linked changes nothing, with the same
pull requests or none; a listing of JSON, put in place of the issues that
it was made from, is listed as itself.
-/
import Docket.Proofs.Listing.Linking
import Docket.Proofs.Record.RoundTrip

namespace Docket

variable {pulls pulls' : List Pull} {issues records shown : List Record} {limit : Option Nat}

-- ============================================================= linking

/-- Records taken from linked ones are left alone when they are linked
again, to the same pull requests or to none. -/
theorem linkPulls_of_sublist (hshown : shown.Sublist (linkPulls issues pulls))
    (hpulls : pulls' = pulls ∨ pulls' = []) : linkPulls shown pulls' = shown := by
  have hlinked : ∀ r ∈ shown, r.link pulls' = r := by
    intro r hr
    obtain ⟨issue, -, rfl⟩ :=
      List.mem_map.1 ((linkPulls_perm issues pulls).mem_iff.1 (hshown.subset hr))
    rcases hpulls with rfl | rfl
    · exact Record.link_twice _ issue
    · exact Record.link_nil _
  have hmap : shown.map (Record.link pulls') = shown := by
    rw [List.map_congr_left hlinked, List.map_id']
  unfold linkPulls sortRecords
  rw [hmap]
  exact List.mergeSort_of_pairwise ((pairwise_linkPulls issues pulls).sublist hshown)

-- ================================================= keeping and cutting

/-- A limit lets through some of the records, in their order. -/
theorem cutTo_sublist (limit : Option Nat) (records : List Record) :
    (cutTo limit records).Sublist records := by
  cases limit with
  | none => exact List.Sublist.refl _
  | some n => exact List.take_sublist n records

/-- What a limit let through, it lets through again. -/
theorem cutTo_cutTo (limit : Option Nat) (records : List Record) :
    cutTo limit (cutTo limit records) = cutTo limit records := by
  cases limit with
  | none => rfl
  | some n => exact List.take_of_length_le (List.length_take_le n records)

/-- A query keeps some of the records, in their order. -/
theorem Query.keep_sublist (q : Query) (records : List Record) :
    (q.keep records).Sublist records :=
  List.filter_sublist

/-- A query keeps what is taken from what it kept. -/
theorem Query.keep_of_sublist {q : Query} (h : shown.Sublist (q.keep records)) :
    q.keep shown = shown := by
  have hkept : ∀ r ∈ shown, (q.filters.all fun f => f.holds r) = true :=
    fun r hr => (List.mem_filter.1 (h.subset hr)).2
  exact List.filter_eq_self.2 hkept

-- ============================================================= listing

variable {files files' : Files} {config : Config} {text : String} {q : Query}

/-- All that a listing of JSON prints is one array. -/
theorem output_showList_json (hq : Query.parse text = .ok q)
    (hl : (loadRecords files config).result = .ok records) :
    (showList files config text .json limit).output
      = (encodeRecords (cutTo limit (q.keep records))).pretty ++ "\n" := by
  unfold Run.output
  rw [printed_showList hq hl]
  simp [report, String.join]

/-- The bare numbers of records do not tell how many there were. -/
theorem printed_showList_id (hq : Query.parse text = .ok q)
    (hl : (loadRecords files config).result = .ok records) :
    (showList files config text .id limit).printed
      = (cutTo limit (q.keep records)).map fun r => numeralText r.number.toNat :=
  printed_showList hq hl

/-- Where the issues listing is what a listing of JSON printed and the pull
requests are the same or missing, the records that were shown are loaded. -/
theorem loadRecords_again (hl : (loadRecords files config).result = .ok records)
    (hshown : shown.Sublist records)
    (hissues : files'.entry config.issuesPath = .text ((encodeRecords shown).pretty ++ "\n"))
    (hpulls : files'.entry config.pullsPath = files.entry config.pullsPath
      ∨ files'.isFile config.pullsPath = false) :
    (loadRecords files' config).result = .ok shown := by
  obtain ⟨-, issues, pulls, -, hold, rfl⟩ := loadRecords_eq_ok_iff.1 hl
  have hread := readListing_written hissues
  obtain ⟨pulls', hnew, hpulls⟩ : ∃ pulls', (loadPulls files' config).result = .ok pulls'
      ∧ (pulls' = pulls ∨ pulls' = []) := by
    rw [result_loadPulls] at hold ⊢
    rcases hpulls with hsame | hgone
    · refine ⟨pulls, ?_, Or.inl rfl⟩
      rw [Files.isFile_congr hsame, readListing_congr hsame]
      exact hold
    · exact ⟨[], by rw [hgone]; rfl, Or.inr rfl⟩
  exact loadRecords_eq_ok_iff.2 ⟨isFile_of_readListing hread, shown, pulls', hread, hnew,
    (linkPulls_of_sublist hshown hpulls).symm⟩

/-- A listing of JSON is a fixed point.  Where it ends well, its output can
stand in place of the issues listing, with the pull requests as they were or
without any: the same query with the same limit ends well again and prints
the same output, and the listing of bare numbers ends well on both and
prints the same as well. -/
theorem showList_fixed_point
    (hok : (showList files config text .json limit).result = .ok ())
    (hissues : files'.entry config.issuesPath
      = .text (showList files config text .json limit).output)
    (hpulls : files'.entry config.pullsPath = files.entry config.pullsPath
      ∨ files'.isFile config.pullsPath = false) :
    (showList files' config text .json limit).result = .ok ()
      ∧ (showList files' config text .json limit).output
        = (showList files config text .json limit).output
      ∧ (showList files config text .id limit).result = .ok ()
      ∧ (showList files' config text .id limit).result = .ok ()
      ∧ (showList files' config text .id limit).output
        = (showList files config text .id limit).output := by
  obtain ⟨q, records, hq, hl⟩ := exists_of_showList hok
  have hkept : (cutTo limit (q.keep records)).Sublist (q.keep records) := cutTo_sublist _ _
  rw [output_showList_json hq hl] at hissues ⊢
  have hagain := loadRecords_again hl (hkept.trans (q.keep_sublist records)) hissues hpulls
  have hsame : cutTo limit (q.keep (cutTo limit (q.keep records)))
      = cutTo limit (q.keep records) := by
    rw [Query.keep_of_sublist hkept, cutTo_cutTo]
  refine ⟨result_showList hq hagain, ?_, result_showList hq hl, result_showList hq hagain, ?_⟩
  · rw [output_showList_json hq hagain, hsame]
  · unfold Run.output
    rw [printed_showList_id hq hagain, printed_showList_id hq hl, hsame]

/-- Three issues, of which two link to the url `u`. -/
def linkingIssues : String :=
  "[\x7b\"number\":7,\"pull_request\":\x7b\"url\":\"u\"\x7d\x7d,"
    ++ "\x7b\"number\":4,\"pull_request\":\x7b\"url\":\"u\"\x7d\x7d,\x7b\"number\":2\x7d]"

/-- Two pull requests with the url `u`, of which the last one is merged. -/
def linkedPulls : String :=
  "[\x7b\"url\":\"u\"\x7d,\x7b\"url\":\"u\",\"merged_at\":\"today\"\x7d]"

/-- Files with these two listings. -/
def linkedFiles : Files where
  entry path :=
    if path = "./issues.json" then .text linkingIssues
    else if path = "./pulls.json" then .text linkedPulls
    else .missing

/-- Files with nothing but the first merged issue, as it is listed. -/
def listedFiles : Files where
  entry path :=
    if path = "./issues.json" then
      .text (showList linkedFiles .standard "merged" .json (some 1)).output
    else .missing

/-- The issues are loaded in the order of their numbers, two of them with
the merged pull request. -/
theorem loadRecords_linkedFiles :
    (loadRecords linkedFiles .standard).result
      = .ok [.ofNumber 2,
        { Record.ofNumber 4 with pull := some ⟨some "u", none, none, some "today"⟩ },
        { Record.ofNumber 7 with pull := some ⟨some "u", none, none, some "today"⟩ }] := by
  have hissues : readRecords? linkingIssues
      = some [{ Record.ofNumber 7 with pull := some ⟨some "u", none, none, none⟩ },
        { Record.ofNumber 4 with pull := some ⟨some "u", none, none, none⟩ }, .ofNumber 2] := by
    decide +kernel
  have hpulls : readPulls? linkedPulls
      = some [⟨some "u", none, none, none⟩, ⟨some "u", none, none, some "today"⟩] := by
    decide +kernel
  have hpath := Config.standard_paths
  have hloaded : (loadPulls linkedFiles .standard).result
      = .ok [⟨some "u", none, none, none⟩, ⟨some "u", none, none, some "today"⟩] := by
    rw [result_loadPulls, if_pos (by decide), hpath.2]
    exact readListing_eq_ok_iff.2 ⟨_, rfl, hpulls⟩
  rw [loadRecords_eq_ok_iff, hpath.1]
  refine ⟨by decide, _, _, readListing_eq_ok_iff.2 ⟨_, rfl, hissues⟩, hloaded, ?_⟩
  simp [linkPulls, sortRecords, Record.link, Record.target?, pullAt?, Record.ofNumber,
    List.mergeSort]

/-- A merged issue that was linked, cut from two and put in place of the
issues, is listed as itself when the pull requests are gone. -/
theorem showList_fixed_point_merged :
    (showList linkedFiles .standard "merged" .json (some 1)).result = .ok ()
      ∧ listedFiles.entry Config.standard.issuesPath
        = .text (showList linkedFiles .standard "merged" .json (some 1)).output
      ∧ listedFiles.isFile Config.standard.pullsPath = false
      ∧ (showList listedFiles .standard "merged" .json (some 1)).output
        = (showList linkedFiles .standard "merged" .json (some 1)).output
      ∧ (showList listedFiles .standard "merged" .id (some 1)).output = "4\n" := by
  have hq : Query.parse "merged" = .ok ⟨[.merged], ""⟩ := by cbv
  have hok : (showList linkedFiles .standard "merged" .json (some 1)).result = .ok () :=
    result_showList hq loadRecords_linkedFiles
  have hpath := Config.standard_paths.1
  have hissues : listedFiles.entry Config.standard.issuesPath
      = .text (showList linkedFiles .standard "merged" .json (some 1)).output := by
    rw [hpath]
    rfl
  have hgone : listedFiles.isFile Config.standard.pullsPath = false := by decide
  obtain ⟨-, hjson, -, -, hid⟩ := showList_fixed_point hok hissues (Or.inr hgone)
  refine ⟨hok, hissues, hgone, hjson, ?_⟩
  rw [hid]
  unfold Run.output
  rw [printed_showList_id hq loadRecords_linkedFiles]
  decide +kernel

end Docket
