/-
JSON that is written is read back.  The writer spells every value whose
numbers are plain natural ones and whose strings spell texts; along such a
value each reader finds what the writer wrote, in any layout, up to a text
that does not go on with a number.

Main statements: a clean value is found where it was written, on one line
or laid out over many; its text is the text of that value alone.
-/
import Docket.Proofs.Json.Reading

namespace Docket.Json

variable {w k : List Char} {v : Json} {c : Char}

-- ========================================================= clean values

/-- A value without a number that is no plain natural one and without a
string that spells no text. -/
inductive Clean : Json → Prop
  | null : Clean null
  | bool (b : Bool) : Clean (bool b)
  | natural (n : Nat) : Clean (natural n)
  | text (s : String) : Clean (text s)
  | array {items : List Json} (each : ∀ v ∈ items, Clean v) : Clean (array items)
  | record {members : List (String × Json)} (each : ∀ m ∈ members, Clean m.2) :
      Clean (record members)

/-- Spacing goes on with no number. -/
theorem ends_of_isSpacing (hc : isSpacing c = true) :
    isDigit c = false ∧ c ≠ '.' ∧ c ≠ 'e' ∧ c ≠ 'E' := by
  simp only [isSpacing, Bool.or_eq_true, beq_iff_eq] at hc
  rcases hc with ((rfl | rfl) | rfl) | rfl <;> decide

/-- A digit is no spacing. -/
theorem isSpacing_of_isDigit (hc : isDigit c = true) : isSpacing c = false := by
  cases hspacing : isSpacing c with
  | false => rfl
  | true =>
      have hends := ends_of_isSpacing hspacing
      rw [hc] at hends
      cases hends.1

/-- A clean value begins with a character that is no spacing and closes
nothing. -/
theorem Clean.exists_write (h : Clean v) (layout : Layout) :
    ∃ c cs, write layout v = c :: cs ∧ isSpacing c = false ∧ c ≠ ']' := by
  cases h with
  | null => exact ⟨'n', _, by rw [write], rfl, by decide⟩
  | bool b =>
      cases b with
      | true => exact ⟨'t', _, by rw [write], rfl, by decide⟩
      | false => exact ⟨'f', _, by rw [write], rfl, by decide⟩
  | natural n =>
      obtain ⟨d, ds, hds, hd⟩ := exists_numeral_eq_cons n
      refine ⟨d, ds, by rw [write, hds], isSpacing_of_isDigit hd, ?_⟩
      rintro rfl
      cases hd
  | text s => exact ⟨'"', _, by rw [Json.text, write]; rfl, rfl, by decide⟩
  | @array items each =>
      cases items with
      | nil => exact ⟨'[', _, by rw [write], rfl, by decide⟩
      | cons item items => exact ⟨'[', _, by rw [write]; simp; rfl, rfl, by decide⟩
  | @record members each =>
      cases members with
      | nil => exact ⟨'\x7b', _, by rw [Json.record, List.map_nil, write], rfl, by decide⟩
      | cons m members =>
          exact ⟨'\x7b', _, by rw [Json.record, List.map_cons, write]; simp; rfl, rfl, by decide⟩

-- ===================================================== what is written

/-- Items that are written in front of a text. -/
theorem writeItems_append (layout : Layout) (item : Json) (items : List Json) (k : List Char) :
    writeItems layout (item :: items) ++ k
      = ',' :: (layout.start ++ (write layout item ++ (writeItems layout items ++ k))) := by
  simp [writeItems]

/-- Members that are written in front of a text. -/
theorem writeMembers_append (layout : Layout) (name : Option String) (v : Json)
    (members : List (Option String × Json)) (k : List Char) :
    writeMembers layout ((name, v) :: members) ++ k
      = ',' :: (layout.start ++ (writeString name ++ (layout.colon ++ (write layout v
        ++ (writeMembers layout members ++ k))))) := by
  simp [writeMembers]

/-- An array that is written in front of a text. -/
theorem write_array_append (layout : Layout) (item : Json) (items : List Json) (k : List Char) :
    write layout (array (item :: items)) ++ k
      = '[' :: (layout.deeper.start ++ (write layout.deeper item
        ++ (writeItems layout.deeper items ++ (layout.start ++ ']' :: k)))) := by
  simp [write]

/-- An object that is written in front of a text. -/
theorem write_object_append (layout : Layout) (name : Option String) (v : Json)
    (members : List (Option String × Json)) (k : List Char) :
    write layout (object ((name, v) :: members)) ++ k
      = '\x7b' :: (layout.deeper.start ++ (writeString name ++ (layout.deeper.colon
        ++ (write layout.deeper v ++ (writeMembers layout.deeper members
          ++ (layout.start ++ '\x7d' :: k)))))) := by
  simp [write]

-- ================================================== where numbers end

/-- Spacing and a character that goes on with no number end one. -/
theorem endsNumber_append (hw : IsSpacing w)
    (hc : isDigit c = false ∧ c ≠ '.' ∧ c ≠ 'e' ∧ c ≠ 'E') (k : List Char) :
    EndsNumber (w ++ c :: k) := by
  intro d hd
  cases w with
  | nil =>
      obtain rfl : c = d := by simpa using hd
      exact hc
  | cons e w =>
      obtain rfl : e = d := by simpa using hd
      exact ends_of_isSpacing (hw e List.mem_cons_self)

/-- Written items end a number in front of them. -/
theorem endsNumber_writeItems (layout : Layout) (items : List Json) (hw : IsSpacing w)
    (k : List Char) : EndsNumber (writeItems layout items ++ (w ++ ']' :: k)) := by
  cases items with
  | nil =>
      rw [writeItems]
      exact endsNumber_append hw (by decide) k
  | cons item items =>
      rw [writeItems]
      exact endsNumber_append (w := []) nofun (by decide) _

/-- Written members end a number in front of them. -/
theorem endsNumber_writeMembers (layout : Layout) (members : List (Option String × Json))
    (hw : IsSpacing w) (k : List Char) :
    EndsNumber (writeMembers layout members ++ (w ++ '\x7d' :: k)) := by
  cases members with
  | nil =>
      rw [writeMembers]
      exact endsNumber_append hw (by decide) k
  | cons m members =>
      rw [writeMembers]
      exact endsNumber_append (w := []) nofun (by decide) _

-- ===================================================== what is read back

/-- The value is found wherever it was written. -/
def ReadBack (v : Json) : Prop :=
  ∀ (layout : Layout) (w k : List Char), IsSpacing w → EndsNumber k →
    Finds (readValue (w ++ (write layout v ++ k))) v k

/-- Items behind the first one are read back, if each of them is. -/
theorem finds_writeItems {items : List Json} (each : ∀ v ∈ items, ReadBack v)
    (layout : Layout) (hw : IsSpacing w) (k : List Char) :
    Finds (readItems false (writeItems layout items ++ (w ++ ']' :: k))) items k := by
  induction items with
  | nil =>
      rw [writeItems]
      exact finds_items_close hw false k
  | cons item items ih =>
      have hitem := each item List.mem_cons_self layout layout.start _ (isSpacing_start layout)
        (endsNumber_writeItems layout items hw k)
      have hitems := ih fun v hv => each v (List.mem_cons_of_mem _ hv)
      rw [writeItems_append]
      exact finds_items_next hitem hitems

/-- The name of a member is found behind its layout, up to the spacing in
front of its value. -/
theorem finds_writeString (layout : Layout) (hw : IsSpacing w) (s : String) (k : List Char) :
    ∃ gap, IsSpacing gap
      ∧ Finds (memberName (w ++ (writeString (some s) ++ (layout.colon ++ k)))) (some s)
        (gap ++ k) := by
  cases layout with
  | line => exact ⟨[], nofun, finds_memberName hw s k⟩
  | indented level =>
      refine ⟨[' '], ?_, finds_memberName hw s (' ' :: k)⟩
      intro c hc
      rw [List.mem_singleton.1 hc]
      rfl

/-- Members behind the first one are read back, if their values are. -/
theorem finds_writeMembers {members : List (String × Json)}
    (each : ∀ m ∈ members, ReadBack m.2) (layout : Layout) (hw : IsSpacing w) (k : List Char) :
    Finds (readMembers false
        (writeMembers layout (members.map fun m => (some m.1, m.2)) ++ (w ++ '\x7d' :: k)))
      (members.map fun m => (some m.1, m.2)) k := by
  induction members with
  | nil =>
      rw [List.map_nil, writeMembers]
      exact finds_members_close hw false k
  | cons m members ih =>
      obtain ⟨gap, hgap, hname⟩ := finds_writeString layout (isSpacing_start layout) m.1
        (write layout m.2 ++ (writeMembers layout (members.map fun m => (some m.1, m.2))
          ++ (w ++ '\x7d' :: k)))
      have hvalue := each m List.mem_cons_self layout gap _ hgap
        (endsNumber_writeMembers layout (members.map fun m => (some m.1, m.2)) hw k)
      have hmembers := ih fun m hm => each m (List.mem_cons_of_mem _ hm)
      rw [List.map_cons, writeMembers_append]
      exact finds_members_next hname hvalue hmembers

/-- An array of values that are read back is read back. -/
theorem readBack_array {items : List Json} (clean : ∀ v ∈ items, Clean v)
    (each : ∀ v ∈ items, ReadBack v) : ReadBack (array items) := by
  intro layout w k hw hk
  cases items with
  | nil =>
      rw [write]
      exact finds_readValue_array hw (finds_items_close (w := []) nofun true k)
  | cons item items =>
      have hback := isSpacing_start layout
      have hfirst := each item List.mem_cons_self layout.deeper layout.deeper.start _
        (isSpacing_start _) (endsNumber_writeItems layout.deeper items hback k)
      have hitems := finds_writeItems (fun v hv => each v (List.mem_cons_of_mem _ hv))
        layout.deeper hback k
      -- the first item begins with no bracket
      obtain ⟨c, cs, hwrite, hspacing, hne⟩ :=
        (clean item List.mem_cons_self).exists_write layout.deeper
      have hclose : token ']' (layout.deeper.start ++ (write layout.deeper item
          ++ (writeItems layout.deeper items ++ (layout.start ++ ']' :: k)))) = none := by
        rw [hwrite]
        exact token_eq_none (isSpacing_start _) hspacing hne _
      rw [write_array_append]
      exact finds_readValue_array hw (finds_items_first hclose hfirst hitems)

/-- An object whose values are read back is read back. -/
theorem readBack_record {members : List (String × Json)}
    (each : ∀ m ∈ members, ReadBack m.2) : ReadBack (record members) := by
  intro layout w k hw hk
  cases members with
  | nil =>
      rw [record, List.map_nil, write]
      exact finds_readValue_object hw (finds_members_close (w := []) nofun true k)
  | cons m members =>
      have hback := isSpacing_start layout
      obtain ⟨gap, hgap, hname⟩ := finds_writeString layout.deeper
        (isSpacing_start layout.deeper) m.1
        (write layout.deeper m.2
          ++ (writeMembers layout.deeper (members.map fun m => (some m.1, m.2))
            ++ (layout.start ++ '\x7d' :: k)))
      have hvalue := each m List.mem_cons_self layout.deeper gap _ hgap
        (endsNumber_writeMembers layout.deeper (members.map fun m => (some m.1, m.2)) hback k)
      have hmembers := finds_writeMembers (fun m hm => each m (List.mem_cons_of_mem _ hm))
        layout.deeper hback k
      have hclose : token '\x7d' (layout.deeper.start ++ (writeString (some m.1)
          ++ (layout.deeper.colon ++ (write layout.deeper m.2
            ++ (writeMembers layout.deeper (members.map fun m => (some m.1, m.2))
              ++ (layout.start ++ '\x7d' :: k)))))) = none :=
        token_eq_none (isSpacing_start _) (d := '"') rfl (by decide) _
      rw [record, List.map_cons, write_object_append]
      exact finds_readValue_object hw (finds_members_first hclose hname hvalue hmembers)

/-- A value that is written as a word is read back. -/
theorem readBack_word (c : Char) (cs : List Char)
    (hc : isSpacing c = false ∧ c ≠ '[' ∧ c ≠ '\x7b')
    (hwrite : ∀ layout, write layout v = c :: cs)
    (hscalar : ∀ k, scalar (c :: (cs ++ k)) = word (c :: cs) v (c :: (cs ++ k))) :
    ReadBack v := by
  intro layout w k hw hk
  have hword : Finds (scalar (c :: (cs ++ k))) v k := by
    rw [hscalar]
    exact finds_word (List.cons_ne_nil c cs) v k
  rw [hwrite]
  exact finds_readValue_scalar hw hc.1 hc.2.1 hc.2.2 hword

/-- A number is read back. -/
theorem readBack_natural (n : Nat) : ReadBack (natural n) := by
  intro layout w k hw hk
  obtain ⟨d, ds, hds, hd⟩ := exists_numeral_eq_cons n
  have hscalar := finds_numeral n hk
  rw [write, hds]
  rw [hds] at hscalar
  refine finds_readValue_scalar hw (isSpacing_of_isDigit hd) ?_ ?_ hscalar
  · rintro rfl
    cases hd
  · rintro rfl
    cases hd

/-- Every clean value is read back. -/
theorem Clean.readBack (h : Clean v) : ReadBack v := by
  induction h with
  | null =>
      exact readBack_word 'n' ['u', 'l', 'l'] (by decide) (fun _ => by rw [write])
        fun k => by rw [scalar]
  | bool b =>
      cases b with
      | true =>
          exact readBack_word 't' ['r', 'u', 'e'] (by decide) (fun _ => by rw [write])
            fun k => by rw [scalar]
      | false =>
          exact readBack_word 'f' ['a', 'l', 's', 'e'] (by decide) (fun _ => by rw [write])
            fun k => by rw [scalar]
  | natural n => exact readBack_natural n
  | text s =>
      intro layout w k hw hk
      have hscalar := finds_string s k
      rw [Json.text, write]
      exact finds_readValue_scalar hw rfl (by decide) (by decide) hscalar
  | array each ih => exact readBack_array each ih
  | record each ih => exact readBack_record ih

/-- The text of a clean value, with spacing behind it, is that value. -/
theorem Clean.ofString?_pretty (h : Clean v) {back : String} (hback : IsSpacing back.toList) :
    ofString? (v.pretty ++ back) = some v := by
  have hends : EndsNumber back.toList :=
    fun c hc => ends_of_isSpacing (hback c (List.mem_of_head? hc))
  obtain ⟨hshort, hfound⟩ : Finds (readValue (write (.indented 0) v ++ back.toList)) v
      back.toList := h.readBack (.indented 0) [] back.toList nofun hends
  have hskip : skipSpacing back.toList = [] := List.dropWhile_eq_nil_iff.2 hback
  unfold ofString? ofList? pretty
  rw [String.toList_append, String.toList_ofList, hfound]
  show (if (skipSpacing back.toList).isEmpty then some v else none) = some v
  rw [hskip]
  rfl

theorem Clean.ofString?_pretty_self (h : Clean v) : ofString? v.pretty = some v := by
  have hread := h.ofString?_pretty (show IsSpacing "".toList from nofun)
  rwa [String.append_empty] at hread

end Docket.Json
