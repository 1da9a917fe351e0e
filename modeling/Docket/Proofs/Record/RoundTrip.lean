/-
Records that are written are read back.  Every encoding is an object with a
place for each known field, in which a value may be missing; reading it
gives the value of each place, and the decoder of a field turns around its
encoder, also where a value may be left out or null.

Main statements: each encoding is decoded to what was encoded; the text of
a listing is read as its records, and so is a file with the report of JSON
on them.
-/
import Docket.Record.Codec
import Docket.Proofs.Json.RoundTrip
import Docket.Proofs.Listing.Showing

namespace Docket

namespace Json

variable {α : Type} {decode : Json → Option α} {encode : α → Json}

-- ============================================================= fields

/-- An object with a place for every name, whose value may be missing. -/
def ofPlaces (places : List (String × Option Json)) : Json :=
  record (places.flatMap fun p => given p.1 p.2)

/-- The members of an object are found by their names. -/
theorem member?_record (name : String) (members : List (String × Json)) :
    member? name (record members) = members.lookup name := by
  unfold record member?
  dsimp only
  induction members with
  | nil => rfl
  | cons m members ih =>
      rw [List.map_cons, List.find?_cons, List.lookup_cons]
      by_cases hname : name = m.1
      · simp [hname]
      · have hne : (some m.1 == some name) = false := by simp [Ne.symm hname]
        rw [beq_eq_false_iff_ne.2 hname, hne]
        exact ih

/-- The fields of an object are looked up among its members, if no field is
given twice. -/
theorem fields?_record {names : List String} {members : List (String × Json)}
    (honce : ∀ name ∈ names, (members.map Prod.fst).count name ≤ 1) :
    fields? names (record members) = some (names.map fun name => members.lookup name) := by
  have hvalues := funext fun name => member?_record name members
  unfold record at hvalues ⊢
  unfold fields?
  dsimp only
  rw [hvalues]
  refine if_pos ?_
  simp only [Bool.and_eq_true, List.all_eq_true, decide_eq_true_eq]
  constructor
  · intro m hm
    obtain ⟨n, -, rfl⟩ := List.mem_map.1 hm
    rfl
  · intro name hname
    have hcount := honce name hname
    rw [List.count, List.countP_map] at hcount
    rw [List.countP_map]
    exact hcount

/-- Every member stands in a place of its name, and in the order of the
places. -/
theorem map_fst_flatMap_given (places : List (String × Option Json)) :
    ((places.flatMap fun p => given p.1 p.2).map Prod.fst).Sublist (places.map Prod.fst) := by
  induction places with
  | nil => exact List.Sublist.refl _
  | cons p places ih =>
      rw [List.flatMap_cons, List.map_append, List.map_cons]
      cases p.2 with
      | none => exact ih.cons _
      | some v => exact ih.cons_cons _

/-- The value of a place is what its name leads to. -/
theorem lookup_flatMap_given {places : List (String × Option Json)}
    (hnames : (places.map Prod.fst).Nodup) {p : String × Option Json} (hp : p ∈ places) :
    (places.flatMap fun p => given p.1 p.2).lookup p.1 = p.2 := by
  induction places with
  | nil => cases hp
  | cons q places ih =>
      obtain ⟨hq, hnames⟩ := List.nodup_cons.1 hnames
      rw [List.flatMap_cons, List.lookup_append]
      rcases List.mem_cons.1 hp with rfl | hp
      · cases hv : p.2 with
        | some v => simp [given]
        | none =>
            -- the name stands in no other place
            have hnone : (places.flatMap fun p => given p.1 p.2).lookup p.1 = none := by
              rw [List.lookup_eq_none_iff]
              intro m hm
              have hmem := (map_fst_flatMap_given places).subset (List.mem_map_of_mem hm)
              exact bne_iff_ne.2 fun h => hq (h ▸ hmem)
            rw [hnone]
            rfl
      · have hne : p.1 ≠ q.1 := fun h => hq (h ▸ List.mem_map_of_mem hp)
        rw [ih hnames hp]
        cases q.2 with
        | none => rfl
        | some v => simp [given, List.lookup_cons, beq_eq_false_iff_ne.2 hne]

/-- The fields of an object with places are the values of its places. -/
theorem fields?_ofPlaces {places : List (String × Option Json)}
    (hnames : (places.map Prod.fst).Nodup) :
    fields? (places.map Prod.fst) (ofPlaces places) = some (places.map Prod.snd) := by
  have hnodup := (map_fst_flatMap_given places).nodup hnames
  unfold ofPlaces
  rw [fields?_record fun name _ => List.nodup_iff_count.1 hnodup name, List.map_map]
  refine congrArg some (List.map_congr_left fun p hp => ?_)
  exact lookup_flatMap_given hnames hp

/-- An object with clean values in its places is clean. -/
theorem clean_ofPlaces {places : List (String × Option Json)}
    (each : ∀ p ∈ places, ∀ v ∈ p.2, Clean v) : Clean (ofPlaces places) := by
  refine .record fun m hm => ?_
  obtain ⟨p, hp, hm⟩ := List.mem_flatMap.1 hm
  have hvalues := each p hp
  cases hv : p.2 with
  | none =>
      rw [hv] at hm
      cases hm
  | some v =>
      rw [hv] at hm
      rw [List.mem_singleton.1 hm]
      exact hvalues v hv

-- ============================================================= values

/-- A value that may be missing is read back. -/
theorem optional_map (hdecode : ∀ a, decode (encode a) = some a) (hnull : ∀ a, encode a ≠ null)
    (value : Option α) : optional decode (value.map encode) = some value := by
  cases value with
  | none => rfl
  | some a =>
      unfold optional
      rw [Option.map_some]
      split
      · next h => cases h
      · next h => exact absurd (Option.some.inj h) (hnull a)
      · next v h =>
        rw [← Option.some.inj h, hdecode]
        rfl

/-- A value or null is read back. -/
theorem optional_orNull (hdecode : ∀ a, decode (encode a) = some a)
    (hnull : ∀ a, encode a ≠ null) (value : Option α) :
    optional decode (some (orNull (value.map encode))) = some value := by
  cases value with
  | none => rfl
  | some a => exact optional_map hdecode hnull (some a)

/-- The values of a list are read back. -/
theorem mapM_map (hdecode : ∀ a, decode (encode a) = some a) (values : List α) :
    (values.map encode).mapM decode = some values := by
  induction values with
  | nil => rfl
  | cons a values ih => simp [hdecode, ih]

end Json

open Json

-- ============================================================ records

/-- A text is read back. -/
theorem asText?_text (s : String) : asText? (text s) = some s := rfl

/-- A number of 64 bits is read back. -/
theorem asWord?_natural (n : UInt64) : asWord? (natural n.toNat) = some n := by
  have hlt : n.toNat < wordLimit := n.toNat_lt
  calc asWord? (natural n.toNat)
      = some (UInt64.ofNat n.toNat) := if_pos hlt
    _ = some n := by rw [UInt64.ofNat_toNat]

/-- A user has a place for each field. -/
theorem User.encode_eq (u : User) :
    u.encode = ofPlaces [("login", some (text u.login)), ("html_url", u.htmlUrl.map text),
      ("avatar_url", u.avatarUrl.map text)] := by
  simp [User.encode, ofPlaces, given]

/-- A user is read back. -/
theorem User.decode?_encode (u : User) : User.decode? u.encode = some u := by
  have hfields : fields? ["login", "html_url", "avatar_url"] u.encode
      = some [some (text u.login), u.htmlUrl.map text, u.avatarUrl.map text] := by
    rw [User.encode_eq]
    exact fields?_ofPlaces (by simp)
  have htext := optional_map asText?_text nofun
  unfold User.decode?
  rw [hfields]
  simp [required, asText?_text, htext]

/-- A label has a place for each field. -/
theorem Label.encode_eq (l : Label) :
    l.encode = ofPlaces [("name", some (text l.name)), ("color", l.color.map text)] := by
  simp [Label.encode, ofPlaces, given]

/-- A label is read back. -/
theorem Label.decode?_encode (l : Label) : Label.decode? l.encode = some l := by
  have hfields : fields? ["name", "color"] l.encode
      = some [some (text l.name), l.color.map text] := by
    rw [Label.encode_eq]
    exact fields?_ofPlaces (by simp)
  have htext := optional_map asText?_text nofun
  unfold Label.decode?
  rw [hfields]
  simp [required, asText?_text, htext]

/-- A pull request has a place for each field. -/
theorem Pull.encode_eq (p : Pull) :
    p.encode = ofPlaces [("url", p.url.map text), ("html_url", p.htmlUrl.map text),
      ("number", p.number.map fun n => natural n.toNat), ("merged_at", p.mergedAt.map text)] := by
  simp [Pull.encode, ofPlaces]

/-- A pull request is read back. -/
theorem Pull.decode?_encode (p : Pull) : Pull.decode? p.encode = some p := by
  have hfields : fields? ["url", "html_url", "number", "merged_at"] p.encode
      = some [p.url.map text, p.htmlUrl.map text, p.number.map fun n => natural n.toNat,
        p.mergedAt.map text] := by
    rw [Pull.encode_eq]
    exact fields?_ofPlaces (by simp)
  have htext := optional_map asText?_text nofun
  have hword := optional_map asWord?_natural nofun
  unfold Pull.decode?
  rw [hfields]
  simp [htext, hword]

namespace Record

/-- A record gives every field. -/
theorem encode_eq (r : Record) :
    r.encode = ofPlaces [("number", some (natural r.number.toNat)),
      ("title", some (orNull (r.title.map text))), ("body", some (orNull (r.body.map text))),
      ("state", some (orNull (r.state.map text))),
      ("html_url", some (orNull (r.htmlUrl.map text))),
      ("user", some (orNull (r.user.map User.encode))),
      ("assignees", some (array (r.assignees.map User.encode))),
      ("labels", some (array (r.labels.map Label.encode))),
      ("closed_at", some (orNull (r.closedAt.map text))),
      ("pull_request", some (orNull (r.pull.map Pull.encode)))] := rfl

/-- A record is read back. -/
theorem decode?_encode (r : Record) : decode? r.encode = some r := by
  have hfields : fields? fieldNames r.encode
      = some [some (natural r.number.toNat), some (orNull (r.title.map text)),
        some (orNull (r.body.map text)), some (orNull (r.state.map text)),
        some (orNull (r.htmlUrl.map text)), some (orNull (r.user.map User.encode)),
        some (array (r.assignees.map User.encode)), some (array (r.labels.map Label.encode)),
        some (orNull (r.closedAt.map text)), some (orNull (r.pull.map Pull.encode))] := by
    rw [encode_eq]
    exact fields?_ofPlaces (by simp)
  have htext := optional_orNull asText?_text nofun
  have huser := optional_orNull User.decode?_encode nofun r.user
  have hpull := optional_orNull Pull.decode?_encode nofun r.pull
  have hassignees : listed User.decode? (some (array (r.assignees.map User.encode)))
      = some r.assignees := mapM_map User.decode?_encode r.assignees
  have hlabels : listed Label.decode? (some (array (r.labels.map Label.encode)))
      = some r.labels := mapM_map Label.decode?_encode r.labels
  unfold decode?
  rw [hfields]
  simp [required, asWord?_natural, htext, huser, hpull, hassignees, hlabels]

end Record

-- =========================================================== listings

/-- A value or null is clean. -/
theorem clean_orNull {α : Type} {encode : α → Json} (each : ∀ a, Clean (encode a))
    (value : Option α) : Clean (orNull (value.map encode)) := by
  cases value with
  | none => exact .null
  | some a => exact each a

/-- The array of clean values is clean. -/
theorem clean_array {α : Type} {encode : α → Json} (each : ∀ a, Clean (encode a))
    (values : List α) : Clean (array (values.map encode)) := by
  refine .array fun v hv => ?_
  obtain ⟨a, -, rfl⟩ := List.mem_map.1 hv
  exact each a

/-- The encoding of a user is clean. -/
theorem User.clean_encode (u : User) : Clean u.encode := by
  rw [User.encode_eq]
  exact clean_ofPlaces (by simp [Clean.text])

/-- The encoding of a label is clean. -/
theorem Label.clean_encode (l : Label) : Clean l.encode := by
  rw [Label.encode_eq]
  exact clean_ofPlaces (by simp [Clean.text])

/-- The encoding of a pull request is clean. -/
theorem Pull.clean_encode (p : Pull) : Clean p.encode := by
  rw [Pull.encode_eq]
  exact clean_ofPlaces (by simp [Clean.text, Clean.natural])

/-- The encoding of a record is clean. -/
theorem Record.clean_encode (r : Record) : Clean r.encode := by
  have htext := clean_orNull Clean.text
  have huser := clean_orNull User.clean_encode r.user
  have hpull := clean_orNull Pull.clean_encode r.pull
  have hassignees := clean_array User.clean_encode r.assignees
  have hlabels := clean_array Label.clean_encode r.labels
  rw [Record.encode_eq]
  exact clean_ofPlaces (by simp [Clean.natural, htext, huser, hpull, hassignees, hlabels])

/-- The encoding of a listing is clean. -/
theorem clean_encodeRecords (records : List Record) : Clean (encodeRecords records) :=
  clean_array Record.clean_encode records

/-- The text of a listing, with spacing behind it, is read as its records. -/
theorem readRecords?_pretty (records : List Record) {back : String}
    (hback : IsSpacing back.toList) :
    readRecords? ((encodeRecords records).pretty ++ back) = some records := by
  have hrecords : recordsOf? (encodeRecords records) = some records :=
    mapM_map Record.decode?_encode records
  unfold readRecords?
  rw [(clean_encodeRecords records).ofString?_pretty hback]
  exact hrecords

/-- What is printed for records as JSON: their array and a line end. -/
theorem output_report_json (records : List Record) (matched : Nat) :
    (Run.print (report .json records matched)).output
      = (encodeRecords records).pretty ++ "\n" := by
  simp [Run.output, Run.printed_print, report, String.join]

/-- A file with the array of records and a line end is read as those
records. -/
theorem readListing_written {files : Files} {path : String} {records : List Record}
    (h : files.entry path = .text ((encodeRecords records).pretty ++ "\n")) :
    readListing readRecords? files path = .ok records := by
  obtain ⟨-, htext⟩ := Files.isFile_and_read?_of_text h
  refine readListing_eq_ok_iff.2 ⟨_, htext, readRecords?_pretty records fun c hc => ?_⟩
  rw [List.mem_singleton.1 hc]
  rfl

/-- Records that are printed as JSON are read back, whatever is in them and
however many there were to choose from: a file with what was printed is a
listing of exactly these records.  So other records are printed as another
text. -/
theorem report_json_reads_back (records : List Record) (matched : Nat) :
    (∀ files path,
      files.entry path = .text (Run.print (report .json records matched)).output →
      readListing readRecords? files path = .ok records)
      ∧ ∀ records' matched', (Run.print (report .json records' matched')).output
        = (Run.print (report .json records matched)).output → records' = records := by
  have hread : ∀ (records : List Record) (matched : Nat) (files : Files) (path : String),
      files.entry path = .text (Run.print (report .json records matched)).output →
      readListing readRecords? files path = .ok records := by
    intro records matched files path hentry
    rw [output_report_json] at hentry
    exact readListing_written hentry
  refine ⟨hread records matched, fun records' matched' hsame => ?_⟩
  -- one file cannot be a listing of both
  let files : Files := ⟨fun _ => .text (Run.print (report .json records matched)).output⟩
  have hone := hread records matched files "" rfl
  have hother := hread records' matched' files "" (congrArg Entry.text hsame.symm)
  exact Except.ok.inj (hother.symm.trans hone)

/-- A record with the highest number, texts that need escapes or are empty,
a pull request that is there but has nothing in it, and users and labels
with and without their further fields. -/
def Record.intricate : Record where
  number := 18446744073709551615
  title := some "\"quoted\" \\ \x08\n\t\x00\x7fé\u2028😀"
  body := some ""
  state := none
  htmlUrl := some "/"
  user := some ⟨"", none, some "null"⟩
  assignees := [⟨"a", some "", none⟩, ⟨"a", some "", none⟩]
  labels := [⟨"", none⟩, ⟨"b", some ""⟩]
  closedAt := some "never"
  pull := some ⟨none, none, none, none⟩

/-- An intricate record between bare ones, and another record that differs
in its empty pull request alone. -/
theorem report_json_reads_back_intricate :
    (∃ files : Files, files.entry "issues.json"
        = .text (Run.print (report .json [.ofNumber 0, .intricate, .ofNumber 0] 9)).output
      ∧ readListing readRecords? files "issues.json"
        = .ok [.ofNumber 0, .intricate, .ofNumber 0])
      ∧ (Run.print (report .json [{ Record.intricate with pull := none }] 1)).output
        ≠ (Run.print (report .json [.intricate] 1)).output := by
  refine ⟨⟨⟨fun _ => .text _⟩, rfl, (report_json_reads_back _ _).1 _ _ rfl⟩, fun hsame => ?_⟩
  have hrecords := (report_json_reads_back _ _).2 _ _ hsame
  exact absurd hrecords (by decide)

end Docket
