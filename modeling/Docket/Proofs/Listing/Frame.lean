/-
What the pull requests of a listing can change.  Linking gives an issue that
has a pull request another one, and an issue that has none is left without
one; no other field is touched.  Only a filter that asks whether a pull
request was merged looks further than that, so every other filter holds of
a linked issue if it holds of the issue.

Filtering therefore commutes with linking: with the link of each issue,
since the filter holds before and after, and with the sort, which only
rearranges what has different numbers (`Rearranged.filter`).

Main statements: without `merged`, filtering the linked issues is linking
the filtered ones; whatever the pull requests are, the same issues are kept
in the same order; and so a listing shows the same issues whether the pull
requests are there or not.
-/
import Docket.Proofs.Listing.FixedPoint

namespace Docket

-- ================================================ statement vocabulary

/-- The filter asks, at some depth, whether a pull request was merged. -/
def Filter.asksMerged : Filter → Bool
  | merged => true
  | or f g => f.asksMerged || g.asksMerged
  | and f g => f.asksMerged || g.asksMerged
  | not f => f.asksMerged
  | _ => false

/-- The second record is the first one with another pull request, if that
has one. -/
def SameButPull (r s : Record) : Prop :=
  ∃ pull : Option Pull, s = { r with pull := pull } ∧ pull.isSome = r.pull.isSome

/-- Of a configuration, other files hold the same issues, and pull requests
are read in both, or their listing is missing. -/
structure OtherPulls (files files' : Files) (config : Config) : Prop where
  issues : files'.entry config.issuesPath = files.entry config.issuesPath
  readable : ∃ pulls, (loadPulls files config).result = .ok pulls
  readable' : ∃ pulls, (loadPulls files' config).result = .ok pulls

variable {r s t : Record} {records records' issues : List Record} {pulls pulls' : List Pull}
  {fs : List Filter} {files files' : Files} {config : Config} {text : String} {q : Query}
  {limit : Option Nat}

-- ==================================================== linking an issue

theorem SameButPull.symm (h : SameButPull r s) : SameButPull s r := by
  obtain ⟨pull, rfl, hsome⟩ := h
  exact ⟨r.pull, rfl, hsome.symm⟩

theorem SameButPull.trans (h : SameButPull r s) (h' : SameButPull s t) : SameButPull r t := by
  obtain ⟨pull, rfl, hsome⟩ := h
  obtain ⟨pull', rfl, hsome'⟩ := h'
  exact ⟨pull', rfl, hsome'.trans hsome⟩

/-- Linking changes an issue in its pull request only, and only if it has
one. -/
theorem Record.sameButPull_link (pulls : List Pull) (issue : Record) :
    SameButPull issue (issue.link pulls) := by
  cases htarget : issue.target? pulls with
  | none =>
      rw [link_eq_self htarget]
      exact ⟨issue.pull, rfl, rfl⟩
  | some pull =>
      rw [link_of_target? htarget]
      refine ⟨some pull, rfl, ?_⟩
      -- what links somewhere has a pull request to begin with
      unfold target? at htarget
      obtain ⟨link, hlink, -⟩ := Option.bind_eq_some_iff.1 htarget
      rw [hlink]
      rfl

/-- A filter that does not ask for `merged` only sees whether there is a
pull request. -/
theorem SameButPull.holds_eq (h : SameButPull r s) {f : Filter} (hf : f.asksMerged = false) :
    f.holds s = f.holds r := by
  obtain ⟨pull, rfl, hsome⟩ := h
  induction f with
  | pull => exact hsome
  | issue =>
      show pull.isNone = r.pull.isNone
      rw [← Option.not_isSome, ← Option.not_isSome, hsome]
  | merged => cases hf
  | or f g ihf ihg =>
      simp only [Filter.asksMerged, Bool.or_eq_false_iff] at hf
      simp only [Filter.holds, ihf hf.1, ihg hf.2]
  | and f g ihf ihg =>
      simp only [Filter.asksMerged, Bool.or_eq_false_iff] at hf
      simp only [Filter.holds, ihf hf.1, ihg hf.2]
  | not f ih =>
      simp only [Filter.asksMerged] at hf
      simp only [Filter.holds, ih hf]
  | _ => rfl

-- ===================================================== linking issues

/-- What is kept of a rearranged list is rearranged. -/
theorem Rearranged.filter (h : Rearranged records records') (p : Record → Bool) :
    Rearranged (records.filter p) (records'.filter p) := by
  intro n
  rw [List.filter_comm, h n, List.filter_comm]

/-- Filtering a sorted list is sorting the filtered one. -/
theorem evaluate_sortRecords (fs : List Filter) (records : List Record) :
    evaluate fs (sortRecords records) = sortRecords (evaluate fs records) := by
  have hkept : Rearranged (sortRecords (evaluate fs records)) (evaluate fs (sortRecords records)) :=
    (rearranged_sortRecords _).symm.trans ((rearranged_sortRecords records).filter _)
  exact hkept.eq_of_ordered (ordered_sortRecords _) ((ordered_sortRecords records).filter _)

/-- Sorting does not see what keeps the numbers of records. -/
theorem sortRecords_map {f : Record → Record} (hf : ∀ r, (f r).number = r.number)
    (records : List Record) : sortRecords (records.map f) = (sortRecords records).map f := by
  have hsorted : Rearranged ((sortRecords records).map f) (sortRecords (records.map f)) :=
    ((rearranged_sortRecords records).map hf).symm.trans (rearranged_sortRecords _)
  refine hsorted.eq_of_ordered ?_ (ordered_sortRecords _)
  rw [List.pairwise_map]
  refine (ordered_sortRecords records).imp fun {r s} hle => ?_
  rw [hf, hf]
  exact hle

/-- Linking issues is linking each of the sorted ones. -/
theorem linkPulls_eq_map (issues : List Record) (pulls : List Pull) :
    linkPulls issues pulls = (sortRecords issues).map (Record.link pulls) :=
  sortRecords_map (Record.number_link pulls) issues

/-- Without `merged`, filtering linked issues is linking filtered ones. -/
theorem evaluate_map_link (hfs : ∀ f ∈ fs, f.asksMerged = false) (issues : List Record)
    (pulls : List Pull) :
    evaluate fs (issues.map (Record.link pulls)) = (evaluate fs issues).map (Record.link pulls) := by
  have hlink : ∀ issue : Record,
      (fs.all fun f => f.holds (issue.link pulls)) = fs.all fun f => f.holds issue := by
    intro issue
    rw [Bool.eq_iff_iff, List.all_eq_true, List.all_eq_true]
    refine forall₂_congr fun f hf => ?_
    rw [(issue.sameButPull_link pulls).holds_eq (hfs f hf)]
  unfold evaluate
  rw [List.filter_map]
  exact congrArg _ (List.filter_congr fun issue _ => hlink issue)

theorem evaluate_linkPulls (hfs : ∀ f ∈ fs, f.asksMerged = false) (issues : List Record)
    (pulls : List Pull) :
    evaluate fs (linkPulls issues pulls) = linkPulls (evaluate fs issues) pulls := by
  unfold linkPulls
  rw [evaluate_sortRecords, evaluate_map_link hfs]

/-- The issues that are kept do not depend on the pull requests. -/
theorem evaluate_linkPulls_eq_map (hfs : ∀ f ∈ fs, f.asksMerged = false) (issues : List Record)
    (pulls : List Pull) :
    evaluate fs (linkPulls issues pulls)
      = (evaluate fs (sortRecords issues)).map (Record.link pulls) := by
  rw [linkPulls_eq_map, evaluate_map_link hfs]

/-- Issues linked to different pull requests are the same but for those. -/
theorem forall₂_map_link (records : List Record) (pulls pulls' : List Pull) :
    List.Forall₂ SameButPull (records.map (Record.link pulls))
      (records.map (Record.link pulls')) := by
  rw [List.forall₂_map_left_iff, List.forall₂_map_right_iff, List.forall₂_same]
  intro issue _
  exact (issue.sameButPull_link pulls).symm.trans (issue.sameButPull_link pulls')

-- ============================================================= listing

/-- A limit lets through as many records of another kind. -/
theorem cutTo_map (limit : Option Nat) (f : Record → Record) (records : List Record) :
    cutTo limit (records.map f) = (cutTo limit records).map f := by
  cases limit with
  | none => rfl
  | some n => exact List.map_take.symm

/-- The bare numbers of linked issues are those of the issues. -/
theorem report_id_map_link (records : List Record) (pulls : List Pull) (matched : Nat) :
    report .id (records.map (Record.link pulls)) matched = report .id records matched := by
  unfold report
  dsimp only
  rw [List.map_map]
  refine List.map_congr_left fun issue _ => ?_
  rw [Function.comp_apply, Record.number_link]

/-- With other pull requests, records are loaded as before or in neither
case, and from the same issues. -/
theorem OtherPulls.cases_loadRecords (h : OtherPulls files files' config) :
    (∃ problem, (loadRecords files config).result = .error problem
        ∧ (loadRecords files' config).result = .error problem)
      ∨ ∃ issues pulls pulls', (loadRecords files config).result = .ok (linkPulls issues pulls)
        ∧ (loadRecords files' config).result = .ok (linkPulls issues pulls') := by
  obtain ⟨hissues, ⟨pulls, hpulls⟩, ⟨pulls', hpulls'⟩⟩ := h
  rw [result_loadRecords, result_loadRecords, Files.isFile_congr hissues,
    readListing_congr hissues, hpulls, hpulls']
  by_cases hfile : files.isFile config.issuesPath = true
  · rw [if_pos hfile, if_pos hfile]
    cases readListing readRecords? files config.issuesPath with
    | error problem => exact Or.inl ⟨problem, rfl, rfl⟩
    | ok issues => exact Or.inr ⟨issues, pulls, pulls', rfl, rfl⟩
  · rw [if_neg hfile, if_neg hfile]
    exact Or.inl ⟨_, rfl, rfl⟩

/-- With other pull requests, a listing without `merged` ends the same and
prints the same bare numbers. -/
theorem OtherPulls.showList_same (h : OtherPulls files files' config) (hq : Query.parse text = .ok q)
    (hfs : ∀ f ∈ q.filters, f.asksMerged = false) (format : OutputFormat)
    (limit : Option Nat) :
    (showList files' config text format limit).result
        = (showList files config text format limit).result
      ∧ (showList files' config text .id limit).output
        = (showList files config text .id limit).output := by
  rcases h.cases_loadRecords with ⟨problem, hload, hload'⟩ | ⟨issues, pulls, pulls', hload, hload'⟩
  · have hsame := hload'.trans hload.symm
    exact ⟨(showList_congr hsame).1, Run.output_congr (showList_congr hsame).2⟩
  · refine ⟨(result_showList hq hload').trans (result_showList hq hload).symm, ?_⟩
    refine Run.output_congr ?_
    rw [printed_showList hq hload', printed_showList hq hload]
    unfold Query.keep
    rw [evaluate_linkPulls_eq_map hfs, evaluate_linkPulls_eq_map hfs, cutTo_map, cutTo_map,
      report_id_map_link, report_id_map_link]
    rfl

/-- With other pull requests, a query without `merged` keeps the same issues,
and of these a limit lets the same ones through. -/
theorem OtherPulls.keep_same (h : OtherPulls files files' config)
    (hfs : ∀ f ∈ q.filters, f.asksMerged = false)
    (hload : (loadRecords files config).result = .ok records)
    (hload' : (loadRecords files' config).result = .ok records') (limit : Option Nat) :
    (q.keep records').length = (q.keep records).length
      ∧ List.Forall₂ SameButPull (cutTo limit (q.keep records))
        (cutTo limit (q.keep records')) := by
  rcases h.cases_loadRecords with ⟨problem, hfails, -⟩ | ⟨issues, pulls, pulls', hlinked, hlinked'⟩
  · cases hload.symm.trans hfails
  · cases hload.symm.trans hlinked
    cases hload'.symm.trans hlinked'
    unfold Query.keep
    rw [evaluate_linkPulls_eq_map hfs, evaluate_linkPulls_eq_map hfs, cutTo_map, cutTo_map,
      List.length_map, List.length_map]
    exact ⟨rfl, forall₂_map_link _ pulls pulls'⟩

-- ==================================================== pulls and filters

/-- Pull requests matter to `merged` only.  For filters that do not ask for
it, filtering linked issues is linking filtered ones; whatever the pull
requests are, the same issues are kept in the same order, and each of them
differs in its pull request at most.  So, with other pull requests that can
be read or with none, a listing of a query without `merged` ends the same,
prints the same bare numbers, and shows as many of as many records, which
are the same in the same order but for their pull requests. -/
theorem pulls_seen_by_merged_only :
    (∀ (issues : List Record) (pulls : List Pull) (fs : List Filter),
      (∀ f ∈ fs, f.asksMerged = false) →
      evaluate fs (linkPulls issues pulls) = linkPulls (evaluate fs issues) pulls)
      ∧ (∀ (issues : List Record) (fs : List Filter), (∀ f ∈ fs, f.asksMerged = false) →
        ∃ kept : List Record, kept.Sublist (sortRecords issues) ∧ ∀ pulls,
          evaluate fs (linkPulls issues pulls) = kept.map (Record.link pulls)
            ∧ ∀ pulls', List.Forall₂ SameButPull (evaluate fs (linkPulls issues pulls))
              (evaluate fs (linkPulls issues pulls')))
      ∧ ∀ (files files' : Files) (config : Config) (text : String) (q : Query),
        OtherPulls files files' config → Query.parse text = .ok q →
        (∀ f ∈ q.filters, f.asksMerged = false) →
        ∀ (format : OutputFormat) (limit : Option Nat),
          (showList files' config text format limit).result
              = (showList files config text format limit).result
            ∧ (showList files' config text .id limit).output
              = (showList files config text .id limit).output
            ∧ ∀ records records', (loadRecords files config).result = .ok records →
              (loadRecords files' config).result = .ok records' →
              (q.keep records').length = (q.keep records).length
                ∧ List.Forall₂ SameButPull (cutTo limit (q.keep records))
                  (cutTo limit (q.keep records')) := by
  refine ⟨fun issues pulls fs hfs => evaluate_linkPulls hfs issues pulls,
    fun issues fs hfs => ⟨evaluate fs (sortRecords issues), List.filter_sublist,
      fun pulls => ⟨evaluate_linkPulls_eq_map hfs issues pulls, fun pulls' => ?_⟩⟩,
    fun files files' config text q h hq hfs format limit => ?_⟩
  · rw [evaluate_linkPulls_eq_map hfs, evaluate_linkPulls_eq_map hfs]
    exact forall₂_map_link _ pulls pulls'
  · obtain ⟨hresult, houtput⟩ := h.showList_same hq hfs format limit
    exact ⟨hresult, houtput, fun records records' hload hload' => h.keep_same hfs hload hload' limit⟩

/-- The files with two issues of one number, without their pull requests. -/
def untiedFiles : Files where
  entry path := if path = "./pulls.json" then .missing else tiedFiles.entry path

/-- Two of four issues carry a pull request that is there or not; a query for
them keeps both in either case, in the order of their numbers. -/
theorem pulls_seen_by_merged_only_tied :
    (∀ f ∈ [Filter.and .pull (.not (.number 2))], f.asksMerged = false)
      ∧ evaluate [.and .pull (.not (.number 2))] (linkPulls tiedIssues tiedPulls)
        = linkPulls [{ Record.ofNumber 7 with pull := some ⟨some "u", none, none, none⟩ },
          { Record.ofNumber 4 with title := some "a", pull := some ⟨some "v", none, none, none⟩ }]
          tiedPulls
      ∧ OtherPulls tiedFiles untiedFiles .standard
      ∧ (showList untiedFiles .standard "pr" .text (some 2)).result
        = (showList tiedFiles .standard "pr" .text (some 2)).result
      ∧ (showList untiedFiles .standard "pr" .id (some 2)).output
        = (showList tiedFiles .standard "pr" .id (some 2)).output := by
  have hasks : ∀ f ∈ [Filter.and .pull (.not (.number 2))], f.asksMerged = false := by
    intro f hf
    rw [List.mem_singleton.1 hf]
    rfl
  have hpaths := Config.standard_paths
  have hother : OtherPulls tiedFiles untiedFiles .standard := by
    refine ⟨?_, ⟨tiedPulls, ?_⟩, [], ?_⟩
    · rw [hpaths.1]
      rfl
    · rw [result_loadPulls, if_pos (by decide), hpaths.2]
      exact readListing_eq_ok_iff.2 ⟨_, rfl, by decide +kernel⟩
    · rw [result_loadPulls, if_neg (by decide)]
  have hq : Query.parse "pr" = .ok ⟨[.pull], ""⟩ := by cbv
  have hpr : ∀ f ∈ [Filter.pull], f.asksMerged = false := by
    intro f hf
    rw [List.mem_singleton.1 hf]
    rfl
  obtain ⟨hresult, houtput, -⟩ :=
    pulls_seen_by_merged_only.2.2 _ _ _ _ _ hother hq hpr .text (some 2)
  exact ⟨hasks, pulls_seen_by_merged_only.1 tiedIssues tiedPulls _ hasks, hother, hresult, houtput⟩

end Docket
