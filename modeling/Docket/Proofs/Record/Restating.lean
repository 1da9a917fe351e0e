/-
What decoding a record leaves out of account.  A shape says what a decoder
looks at: in an object at fields, each of which has to be given or may be
left out or null, in a list at its items, and elsewhere at the whole value.
An edit of that shape puts members in another order, adds a member of another
name, or adds a null for a field that was left out, in the value itself or
further inside; a value restates another when edits and edits taken back lead
from one to the other.

A decoder of fields sees an object through the values that it finds in their
places, so one edit does not matter to it as soon as it does not matter to
the decoder of any place; that is shown once for all objects, and then read
off for a user, a label, a pull request and a record.

Main statement: restated records and listings are decoded to the same, or
refused as before.  Two things are not left out of account: a second member
of one known name, even where both are null, and a name that spells no text.
-/
import Mathlib.Data.List.Nodup
import Mathlib.Logic.Relation
import Docket.Record.Codec

namespace Docket

namespace Json

-- ============================================================== shapes

/-- Whether a field has to be given, or may be left out or null. -/
inductive Presence where
  | needed
  | free
deriving DecidableEq, Repr

/-- What a decoder looks at in a value: all of it, the items of a list, or
some fields of an object and what there is to look at in their values. -/
inductive Shape where
  | leaf
  | list (item : Shape)
  | object (fields : List (String × Presence × Shape))

/-- One change that a decoder of that shape leaves out of account. -/
inductive Edit : Shape → Json → Json → Prop
  /-- The members of an object in another order. -/
  | shuffled {fields : List (String × Presence × Shape)}
      {members members' : List (Option String × Json)} (h : members.Perm members') :
      Edit (.object fields) (.object members) (.object members')
  /-- A further member of a name that is no field, whatever it holds. -/
  | unknown {fields : List (String × Presence × Shape)}
      {members : List (Option String × Json)} (name : String) (value : Json)
      (h : name ∉ fields.map Prod.fst) :
      Edit (.object fields) (.object members) (.object ((some name, value) :: members))
  /-- A null for a field that was left out. -/
  | nulled {fields : List (String × Presence × Shape)}
      {members : List (Option String × Json)} (name : String) (shape : Shape)
      (hfield : (name, .free, shape) ∈ fields) (habsent : some name ∉ members.map Prod.fst) :
      Edit (.object fields) (.object members) (.object ((some name, null) :: members))
  /-- A change in the value of a field. -/
  | member {fields : List (String × Presence × Shape)}
      {members : List (Option String × Json)} {name : String} (presence : Presence)
      {shape : Shape} {v w : Json} (hfield : (name, presence, shape) ∈ fields)
      (h : Edit shape v w) :
      Edit (.object fields) (.object ((some name, v) :: members))
        (.object ((some name, w) :: members))
  /-- A change in an item of a list. -/
  | item {shape : Shape} {v w : Json} (before behind : List Json) (h : Edit shape v w) :
      Edit (.list shape) (.array (before ++ v :: behind)) (.array (before ++ w :: behind))

/-- One value says the same as another to a decoder of that shape: edits,
made or taken back, lead from one to the other. -/
def Restates (shape : Shape) : Json → Json → Prop := Relation.EqvGen (Edit shape)

variable {shape : Shape} {presence : Presence} {u v w : Json} {name : String}
  {names : List String} {members members' : List (Option String × Json)} {α : Type}
  {decode : Json → Option α}

theorem Restates.of_edit (h : Edit shape v w) : Restates shape v w := .rel _ _ h

theorem Restates.back (h : Restates shape v w) : Restates shape w v := .symm _ _ h

theorem Restates.chain (h : Restates shape u v) (h' : Restates shape v w) :
    Restates shape u w := .trans _ _ _ h h'

/-- A decoder leaves the edits of a shape out of account. -/
def Heeds (shape : Shape) (decode : Json → Option α) : Prop :=
  ∀ v w, Edit shape v w → decode w = decode v

/-- What leaves single edits out of account takes restated values for the
same. -/
theorem Heeds.restates (hdecode : Heeds shape decode) (h : Restates shape v w) :
    decode w = decode v := by
  induction h with
  | rel v w h => exact hdecode v w h
  | refl => rfl
  | symm _ _ _ ih => exact ih.symm
  | trans _ _ _ _ _ ih ih' => exact ih'.trans ih

/-- No edit makes or changes a null. -/
theorem Edit.eq_null_iff (h : Edit shape v w) : w = null ↔ v = null := by
  cases h with
  | _ => simp

/-- All of a leaf counts. -/
theorem heeds_leaf (decode : Json → Option α) : Heeds .leaf decode := by
  intro v w h
  cases h

-- ============================================== the values of the fields

/-- The only element of a kind is found wherever it stands. -/
theorem find?_perm {β : Type} {p : β → Bool} {xs ys : List β} (h : xs.Perm ys)
    (hone : xs.countP p ≤ 1) : ys.find? p = xs.find? p := by
  have hfilter := h.filter p
  rw [List.countP_eq_length_filter] at hone
  rw [← List.head?_filter, ← List.head?_filter]
  rcases hxs : xs.filter p with _ | ⟨x, _ | ⟨x', rest⟩⟩
  · rw [hxs] at hfilter
    rw [hfilter.symm.eq_nil]
  · rw [hxs] at hfilter
    rw [hfilter.symm.eq_singleton]
  · rw [hxs] at hone
    simp only [List.length_cons] at hone
    omega

/-- The order of members does not matter. -/
theorem fields?_perm (h : members.Perm members') :
    fields? names (object members') = fields? names (object members) := by
  have hcount : ∀ name : String, members'.countP (fun m => m.1 == some name)
      = members.countP fun m => m.1 == some name := fun name => (h.countP_eq _).symm
  have hall : (members'.all fun m => m.1.isSome) = members.all fun m => m.1.isSome := h.symm.all_eq
  unfold fields?
  simp only [hcount, hall]
  split
  · next hgood =>
    rw [Bool.and_eq_true, List.all_eq_true, List.all_eq_true] at hgood
    refine congrArg some (List.map_congr_left fun name hname => ?_)
    exact congrArg (Option.map Prod.snd) (find?_perm h (of_decide_eq_true (hgood.2 name hname)))
  · rfl

/-- Every name spells a text, and no field is given twice. -/
def admits (names : List String) (members : List (Option String × Json)) : Bool :=
  members.all (fun m => m.1.isSome)
    && names.all fun name => members.countP (fun m => m.1 == some name) ≤ 1

theorem fields?_object (names : List String) (members : List (Option String × Json)) :
    fields? names (object members)
      = if admits names members then some (names.map fun name => member? name (object members))
        else none := rfl

theorem member?_cons (name n : String) (v : Json) (members : List (Option String × Json)) :
    member? n (object ((some name, v) :: members))
      = if name = n then some v else member? n (object members) := by
  unfold member?
  by_cases hn : name = n
  · simp [hn]
  · simp [hn]

/-- A name that no member has leads to no value. -/
theorem member?_of_absent (h : some name ∉ members.map Prod.fst) :
    member? name (object members) = none := by
  unfold member?
  rw [Option.map_eq_none_iff, List.find?_eq_none]
  intro m hm hname
  exact h (beq_iff_eq.1 hname ▸ List.mem_map_of_mem hm)

theorem countP_eq_zero_iff :
    members.countP (fun m => m.1 == some name) = 0 ↔ some name ∉ members.map Prod.fst := by
  rw [List.countP_eq_zero, List.mem_map]
  constructor
  · rintro h ⟨m, hm, hname⟩
    exact h m hm (beq_iff_eq.2 hname)
  · intro h m hm hname
    exact h ⟨m, hm, beq_iff_eq.1 hname⟩

/-- A member goes with others unless it is one of them again. -/
theorem admits_cons (names : List String) (name : String) (v : Json)
    (members : List (Option String × Json)) :
    admits names ((some name, v) :: members) = true
      ↔ admits names members = true ∧ (name ∈ names → some name ∉ members.map Prod.fst) := by
  unfold admits
  simp only [Bool.and_eq_true, List.all_eq_true, decide_eq_true_eq, List.countP_cons,
    List.forall_mem_cons, Option.isSome_some, true_and, and_assoc]
  refine and_congr_right fun _ => ?_
  rw [← countP_eq_zero_iff]
  constructor
  · intro h
    refine ⟨fun n hn => ?_, fun hname => ?_⟩
    · have := h n hn
      omega
    · have := h name hname
      simp only [beq_self_eq_true, if_true] at this
      omega
  · rintro ⟨hone, hnew⟩ n hn
    by_cases hname : name = n
    · rw [← hname, hnew (hname ▸ hn)]
      simp
    · simpa [hname] using hone n hn

/-- A member of another name does not matter. -/
theorem fields?_cons_unknown (value : Json) (h : name ∉ names) :
    fields? names (object ((some name, value) :: members)) = fields? names (object members) := by
  have hother : ∀ n ∈ names, name ≠ n := by
    rintro n hn rfl
    exact h hn
  have hadmits : admits names ((some name, value) :: members) = admits names members := by
    rw [Bool.eq_iff_iff, admits_cons]
    exact and_iff_left fun hname => absurd hname h
  have hvalues : (names.map fun n => member? n (object ((some name, value) :: members)))
      = names.map fun n => member? n (object members) := by
    refine List.map_congr_left fun n hn => ?_
    rw [member?_cons, if_neg (hother n hn)]
  rw [fields?_object, fields?_object, hadmits, hvalues]

/-- What two objects may have in the place of one field, when one is an edit
of the other. -/
inductive SamePlace : Presence × Shape → Option Json → Option Json → Prop
  | same (field : Presence × Shape) (value : Option Json) : SamePlace field value value
  | nulled (shape : Shape) : SamePlace (.free, shape) none (some null)
  | given (presence : Presence) {shape : Shape} {v w : Json} (h : Edit shape v w) :
      SamePlace (presence, shape) (some v) (some w)

/-- What is built from the values of fields leaves edits in their places out
of account. -/
def HeedsPlaces (fields : List (String × Presence × Shape))
    (build : List (Option Json) → Option α) : Prop :=
  ∀ value value' : String → Option Json,
    (∀ field ∈ fields, SamePlace field.2 (value field.1) (value' field.1)) →
    build ((fields.map Prod.fst).map value') = build ((fields.map Prod.fst).map value)

/-- Objects with the same in every place come to the same. -/
theorem bind_fields_congr {fields : List (String × Presence × Shape)}
    {build : List (Option Json) → Option α} (hbuild : HeedsPlaces fields build)
    (hadmits : admits (fields.map Prod.fst) members' = admits (fields.map Prod.fst) members)
    (hplaces : ∀ field ∈ fields,
      SamePlace field.2 (member? field.1 (object members)) (member? field.1 (object members'))) :
    (fields? (fields.map Prod.fst) (object members')).bind build
      = (fields? (fields.map Prod.fst) (object members)).bind build := by
  rw [fields?_object, fields?_object, hadmits]
  split
  · exact hbuild _ _ hplaces
  · rfl

/-- A decoder of an object's fields leaves edits out of account, if the
decoders of its places do. -/
theorem heeds_object {fields : List (String × Presence × Shape)}
    {build : List (Option Json) → Option α} (hnames : (fields.map Prod.fst).Nodup)
    (hbuild : HeedsPlaces fields build) :
    Heeds (.object fields) fun v => (fields? (fields.map Prod.fst) v).bind build := by
  -- a field is told by its name
  have hfield : ∀ {f g : String × Presence × Shape}, f ∈ fields → g ∈ fields → f.1 = g.1 →
      f = g := fun hf hg => List.inj_on_of_nodup_map hnames hf hg
  intro v w h
  cases h with
  | shuffled h =>
      exact congrArg (Option.bind · build) (fields?_perm h)
  | unknown name value h =>
      exact congrArg (Option.bind · build) (fields?_cons_unknown value h)
  | @nulled _ members name shape hmem habsent =>
      have hnone : member? name (object members) = none := member?_of_absent habsent
      apply bind_fields_congr hbuild
      · rw [Bool.eq_iff_iff, admits_cons]
        exact and_iff_left fun _ => habsent
      · intro field hin
        rw [member?_cons]
        by_cases hname : name = field.1
        · rw [if_pos hname, ← hname, hnone, ← hfield hmem hin hname]
          exact .nulled shape
        · rw [if_neg hname]
          exact .same _ _
  | @member _ members name presence shape v w hmem h =>
      apply bind_fields_congr hbuild
      · rw [Bool.eq_iff_iff, admits_cons, admits_cons]
      · intro field hin
        rw [member?_cons, member?_cons]
        by_cases hname : name = field.1
        · rw [if_pos hname, if_pos hname, ← hfield hmem hin hname]
          exact .given presence h
        · rw [if_neg hname, if_neg hname]
          exact .same _ _

-- ================================================== decoders of a field

variable {value value' : Option Json}

/-- A decoder of a list leaves edits of its items out of account. -/
theorem heeds_list (hdecode : Heeds shape decode) :
    Heeds (.list shape) (fun v => do (← v.asArray?).mapM decode) := by
  intro v w h
  cases h with
  | @item _ v w before behind h =>
      show (before ++ w :: behind).mapM decode = (before ++ v :: behind).mapM decode
      rw [List.mapM_append, List.mapM_append, List.mapM_cons, List.mapM_cons, hdecode v w h]

/-- A field that has to be given comes to the same in the same place. -/
theorem SamePlace.required_eq (hdecode : Heeds shape decode)
    (h : SamePlace (.needed, shape) value value') :
    required decode value' = required decode value := by
  cases h with
  | same => rfl
  | given _ h => exact hdecode _ _ h

/-- What is read where a null counts as nothing comes to the same in the
same place. -/
theorem SamePlace.eq_of_free {β : Type} {read : Option Json → Option β} {g : Json → Option β}
    (hnull : read (some null) = read none) (hread : ∀ v, v ≠ null → read (some v) = g v)
    (hg : Heeds shape g) (h : SamePlace (presence, shape) value value') :
    read value' = read value := by
  cases h with
  | same => rfl
  | nulled => exact hnull
  | @given _ _ v w h =>
      by_cases hv : v = null
      · rw [hv, h.eq_null_iff.2 hv]
      · have hw : w ≠ null := fun hw => hv (h.eq_null_iff.1 hw)
        rw [hread v hv, hread w hw, hg v w h]

/-- A field that may be left out comes to the same in the same place. -/
theorem SamePlace.optional_eq (hdecode : Heeds shape decode)
    (h : SamePlace (presence, shape) value value') :
    optional decode value' = optional decode value := by
  apply h.eq_of_free rfl (g := fun v => (decode v).map some)
  · intro v hv
    unfold optional
    split
    · next hnone => cases hnone
    · next hnull => exact absurd (Option.some.inj hnull) hv
    · next w hw => rw [Option.some.inj hw]
  · intro v w hvw
    exact congrArg (Option.map some) (hdecode v w hvw)

/-- A list comes to the same in the same place. -/
theorem SamePlace.listed_eq (hdecode : Heeds shape decode)
    (h : SamePlace (presence, .list shape) value value') :
    listed decode value' = listed decode value := by
  refine h.eq_of_free rfl ?_ (heeds_list hdecode)
  intro v hv
  cases v with
  | null => exact absurd rfl hv
  | _ => rfl

end Json

open Json

-- ============================================================ the shapes

/-- What is looked at in a user. -/
def User.shape : Shape :=
  .object [("login", .needed, .leaf), ("html_url", .free, .leaf), ("avatar_url", .free, .leaf)]

/-- What is looked at in a label. -/
def Label.shape : Shape := .object [("name", .needed, .leaf), ("color", .free, .leaf)]

/-- What is looked at in a pull request. -/
def Pull.shape : Shape :=
  .object [("url", .free, .leaf), ("html_url", .free, .leaf), ("number", .free, .leaf),
    ("merged_at", .free, .leaf)]

/-- What is looked at in a record: every field but the number may be left
out. -/
def Record.shape : Shape :=
  .object [("number", .needed, .leaf), ("title", .free, .leaf), ("body", .free, .leaf),
    ("state", .free, .leaf), ("html_url", .free, .leaf), ("user", .free, User.shape),
    ("assignees", .free, .list User.shape), ("labels", .free, .list Label.shape),
    ("closed_at", .free, .leaf), ("pull_request", .free, Pull.shape)]

theorem User.heeds_decode? : Heeds User.shape User.decode? := by
  refine heeds_object (by simp) ?_
  intro value value' h
  simp only [List.forall_mem_cons] at h
  obtain ⟨hlogin, hhtmlUrl, havatarUrl, -⟩ := h
  have hlogin := hlogin.required_eq (heeds_leaf asText?)
  have hhtmlUrl := hhtmlUrl.optional_eq (heeds_leaf asText?)
  have havatarUrl := havatarUrl.optional_eq (heeds_leaf asText?)
  simp only [List.map_cons, List.map_nil]
  rw [hlogin, hhtmlUrl, havatarUrl]

theorem Label.heeds_decode? : Heeds Label.shape Label.decode? := by
  refine heeds_object (by simp) ?_
  intro value value' h
  simp only [List.forall_mem_cons] at h
  obtain ⟨hname, hcolor, -⟩ := h
  have hname := hname.required_eq (heeds_leaf asText?)
  have hcolor := hcolor.optional_eq (heeds_leaf asText?)
  simp only [List.map_cons, List.map_nil]
  rw [hname, hcolor]

theorem Pull.heeds_decode? : Heeds Pull.shape Pull.decode? := by
  refine heeds_object (by simp) ?_
  intro value value' h
  simp only [List.forall_mem_cons] at h
  obtain ⟨hurl, hhtmlUrl, hnumber, hmergedAt, -⟩ := h
  have hurl := hurl.optional_eq (heeds_leaf asText?)
  have hhtmlUrl := hhtmlUrl.optional_eq (heeds_leaf asText?)
  have hnumber := hnumber.optional_eq (heeds_leaf asWord?)
  have hmergedAt := hmergedAt.optional_eq (heeds_leaf asText?)
  simp only [List.map_cons, List.map_nil]
  rw [hurl, hhtmlUrl, hnumber, hmergedAt]

theorem Record.heeds_decode? : Heeds Record.shape Record.decode? := by
  refine heeds_object (by simp) ?_
  intro value value' h
  simp only [List.forall_mem_cons] at h
  obtain ⟨hnumber, htitle, hbody, hstate, hhtmlUrl, huser, hassignees, hlabels, hclosedAt,
    hpull, -⟩ := h
  have hnumber := hnumber.required_eq (heeds_leaf asWord?)
  have htitle := htitle.optional_eq (heeds_leaf asText?)
  have hbody := hbody.optional_eq (heeds_leaf asText?)
  have hstate := hstate.optional_eq (heeds_leaf asText?)
  have hhtmlUrl := hhtmlUrl.optional_eq (heeds_leaf asText?)
  have huser := huser.optional_eq User.heeds_decode?
  have hassignees := hassignees.listed_eq User.heeds_decode?
  have hlabels := hlabels.listed_eq Label.heeds_decode?
  have hclosedAt := hclosedAt.optional_eq (heeds_leaf asText?)
  have hpull := hpull.optional_eq Pull.heeds_decode?
  simp only [List.map_cons, List.map_nil]
  rw [hnumber, htitle, hbody, hstate, hhtmlUrl, huser, hassignees, hlabels, hclosedAt, hpull]

theorem heeds_recordsOf? : Heeds (.list Record.shape) recordsOf? :=
  heeds_list Record.heeds_decode?

-- =========================================================== the theorem

/-- An object with members that do not go together is no record. -/
theorem Record.decode?_of_not_admits {members : List (Option String × Json)}
    (h : ¬ admits fieldNames members = true) : decode? (.object members) = none := by
  unfold decode?
  rw [fields?_object, if_neg h]
  rfl

/-- Decoding leaves the order of members, members of other names and nulls
for fields that may be left out, wherever they stand, out of account: a
restated user, label, pull request or record comes to the same, or to
nothing if the first one did, and so does the text of a listing.  A record
in which a known name is given twice is refused whatever stands there, and
so is one with a name that spells no text. -/
theorem decoding_overlooks :
    (∀ v w, Restates Record.shape v w → Record.decode? w = Record.decode? v)
      ∧ (∀ v w, Restates User.shape v w → User.decode? w = User.decode? v)
      ∧ (∀ v w, Restates Label.shape v w → Label.decode? w = Label.decode? v)
      ∧ (∀ v w, Restates Pull.shape v w → Pull.decode? w = Pull.decode? v)
      ∧ (∀ text text' v w, Json.ofString? text = some v → Json.ofString? text' = some w →
          Restates (.list Record.shape) v w → readRecords? text' = readRecords? text)
      ∧ (∀ members name value, name ∈ Record.fieldNames → some name ∈ members.map Prod.fst →
          Record.decode? (.object ((some name, value) :: members)) = none)
      ∧ ∀ members value, Record.decode? (.object ((none, value) :: members)) = none := by
  refine ⟨fun v w => Record.heeds_decode?.restates, fun v w => User.heeds_decode?.restates,
    fun v w => Label.heeds_decode?.restates, fun v w => Pull.heeds_decode?.restates, ?_, ?_, ?_⟩
  · intro text text' v w hv hw h
    unfold readRecords?
    rw [hv, hw]
    exact heeds_recordsOf?.restates h
  · intro members name value hname hmem
    apply Record.decode?_of_not_admits
    rw [admits_cons]
    exact fun h => h.2 hname hmem
  · intro members value
    apply Record.decode?_of_not_admits
    simp [admits]

/-- A record in few words. -/
def terse : Json :=
  .object [(some "title", .null), (some "user", .object [(some "login", .text "a")]),
    (some "labels", .array [.object [(some "name", .text "x")]]), (some "number", .natural 7)]

/-- The same in more words: with a null body in place of the title, in
another order, and with members that are no fields, one of them twice. -/
def wordy : Json :=
  .object [(some "number", .natural 7),
    (some "user", .object [(some "type", .bool true), (some "login", .text "a")]),
    (some "labels", .array [.object [(some "color", .null), (some "name", .text "x")]]),
    (some "body", .null), (some "id", .array [.numeral "-1"]), (some "id", .string none)]

theorem restates_wordy : Restates Record.shape terse wordy := by
  have huser : Edit User.shape (.object [(some "login", .text "a")])
      (.object [(some "type", .bool true), (some "login", .text "a")]) :=
    .unknown "type" _ (by simp)
  have hlabel : Edit Label.shape (.object [(some "name", .text "x")])
      (.object [(some "color", .null), (some "name", .text "x")]) :=
    .nulled "color" .leaf (by simp) (by simp)
  apply Restates.chain (.back (.of_edit (.nulled "title" .leaf (by simp) (by simp))))
  apply Restates.chain (.of_edit (.member .free (by simp) huser))
  apply Restates.chain (.of_edit (.shuffled (.swap _ _ _)))
  apply Restates.chain (.of_edit (.member .free (by simp) (hlabel.item [] [])))
  apply Restates.chain (.of_edit (.nulled "body" .leaf (by simp) (by simp)))
  apply Restates.chain (.of_edit (.unknown "id" (.array [.numeral "-1"]) (by simp)))
  apply Restates.chain (.of_edit (.unknown "id" (.string none) (by simp)))
  exact .of_edit (.shuffled (List.reverse_perm _).symm)

/-- The record in more words is the one in few; what is no record stays none
in more words, and so do a user, a label and a pull request; a listing that
is told in more words is read as before; and a second null, or half of a
surrogate pair as a name, makes a record refused. -/
theorem decoding_overlooks_wordy :
    Record.decode? wordy
        = some { Record.ofNumber 7 with user := some (.ofLogin "a"), labels := [.ofName "x"] }
      ∧ Record.decode? (.object [(some "id", .natural 1)]) = none
      ∧ User.decode? (.object [(some "html_url", .null)]) = none
      ∧ Label.decode? (.object [(some "id", .natural 1), (some "name", .text "x")])
        = some (.ofName "x")
      ∧ Pull.decode? (.object [(some "url", .null), (some "number", .numeral "1.0")]) = none
      ∧ readRecords? "[\x7b\"id\":\"\",\"number\":1\x7d]" = some [.ofNumber 1]
      ∧ Record.decode? (.object [(some "title", .null), (some "number", .natural 7),
          (some "title", .null)]) = none
      ∧ Record.decode? (.object [(none, .null), (some "number", .natural 7)]) = none := by
  obtain ⟨hrecord, huser, hlabel, hpull, htext, htwice, hname⟩ := decoding_overlooks
  refine ⟨?_, ?_, ?_, ?_, ?_, ?_, htwice _ _ _ (by simp [Record.fieldNames]) (by simp), hname _ _⟩
  · rw [hrecord _ _ restates_wordy]
    rfl
  · rw [hrecord (.object []) _ (.of_edit (.unknown "id" _ (by simp)))]
    rfl
  · rw [huser _ _ (.of_edit (.nulled "html_url" .leaf (by simp) (by simp)))]
    rfl
  · rw [hlabel _ _ (.of_edit (.unknown "id" _ (by simp)))]
    rfl
  · rw [hpull _ _ (.of_edit (.nulled "url" .leaf (by simp) (by simp)))]
    rfl
  · rw [htext "[\x7b\"number\":1\x7d]" _ _ _ (by with_unfolding_all rfl)
      (by with_unfolding_all rfl) (.of_edit (.item [] [] (.unknown "id" _ (by simp))))]
    decide +kernel

/-- A second null title is not left out of account: beside another one it
makes the record refused.  Nor is a member whose name is half of a surrogate
pair. -/
theorem second_null_counts :
    readRecords? "[\x7b\"number\":1,\"title\":null,\"title\":null\x7d]" = none
      ∧ readRecords? "[\x7b\"number\":1,\"title\":null\x7d]" = some [.ofNumber 1]
      ∧ readRecords? "[\x7b\"number\":1,\"\\ud800\":0\x7d]" = none
      ∧ readRecords? "[\x7b\"number\":1\x7d]" = some [.ofNumber 1] := by
  refine ⟨?_, ?_, ?_, ?_⟩ <;> decide +kernel

end Docket
