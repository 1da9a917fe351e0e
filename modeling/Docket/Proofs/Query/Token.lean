/-
Tokens.  What the steps of a cursor read, said of the text alone: a name is
a letter, or a letter and further characters up to a letter or digit; a
number is a run of digits; a text argument ends in front of the next `)`.

Main statements: each step reads the longest piece of its kind and skips
the blanks behind it, and it reads nothing exactly when the text in front
begins with no such piece.
-/
import Docket.Proofs.Text.Longest
import Docket.Query.Cursor

namespace Docket

open Cursor

variable {w k t : List Char} {c c' : Cursor} {s : String} {ch : Char}

-- ========================================================== characters

/-- A digit may end a name. -/
theorem isNameEnd_of_isDigit (h : isDigit ch = true) : isNameEnd ch = true := by
  unfold isNameEnd
  rw [h, Bool.or_true]

/-- A letter may end a name. -/
theorem isNameEnd_of_isLetter (h : isLetter ch = true) : isNameEnd ch = true := by
  unfold isNameEnd
  rw [h, Bool.true_or]

/-- What may end a name may stand inside. -/
theorem isNamePart_of_isNameEnd (h : isNameEnd ch = true) : isNamePart ch = true := by
  unfold isNamePart
  rw [h, Bool.true_or, Bool.true_or]

/-- No name holds a blank. -/
theorem isBlank_of_isNamePart (h : isNamePart ch = true) : isBlank ch = false := by
  cases hb : isBlank ch with
  | false => rfl
  | true =>
      exfalso
      simp only [isNamePart, isNameEnd, isLetter, isDigit, Bool.or_eq_true, Bool.and_eq_true,
        decide_eq_true_eq, beq_iff_eq, Char.le_def, UInt32.le_iff_toNat_le,
        ← Char.toNat_inj, Char.toNat, Char.reduceVal, UInt32.reduceToNat] at h
      simp only [isBlank, Bool.or_eq_true, Bool.and_eq_true, decide_eq_true_eq,
        beq_iff_eq, Char.toNat] at hb
      omega

/-- No number holds a blank. -/
theorem isBlank_of_isDigit (h : isDigit ch = true) : isBlank ch = false :=
  isBlank_of_isNamePart (isNamePart_of_isNameEnd (isNameEnd_of_isDigit h))

/-- A blank is no part of a name. -/
theorem isNamePart_of_isBlank (h : isBlank ch = true) : isNamePart ch = false := by
  cases hn : isNamePart ch with
  | false => rfl
  | true =>
      rw [isBlank_of_isNamePart hn] at h
      cases h

/-- A blank is no digit. -/
theorem isDigit_of_isBlank (h : isBlank ch = true) : isDigit ch = false := by
  cases hd : isDigit ch with
  | false => rfl
  | true =>
      rw [isBlank_of_isDigit hd] at h
      cases h

/-- A digit is no letter. -/
theorem isLetter_of_isDigit (h : isDigit ch = true) : isLetter ch = false := by
  cases hl : isLetter ch with
  | false => rfl
  | true =>
      exfalso
      simp only [isDigit, isLetter, Bool.or_eq_true, Bool.and_eq_true, decide_eq_true_eq,
        Char.le_def, UInt32.le_iff_toNat_le, Char.reduceVal, UInt32.reduceToNat] at h hl
      omega

-- =============================================================== names

/-- A name: a letter, or a letter and characters of names up to one that
may end a name. -/
inductive IsName : List Char → Prop
  | letter {a : Char} (ha : isLetter a = true) : IsName [a]
  | long {a z : Char} {m : List Char} (ha : isLetter a = true)
      (hm : ∀ d ∈ m, isNamePart d = true) (hz : isNameEnd z = true) : IsName (a :: (m ++ [z]))

/-- A name by its characters: the first is a letter, all are characters of
names and the last may end one. -/
theorem isName_iff :
    IsName w ↔ (∃ a ∈ w.head?, isLetter a = true) ∧ (∀ d ∈ w, isNamePart d = true)
      ∧ ∃ z ∈ w.getLast?, isNameEnd z = true := by
  constructor
  · intro h
    cases h with
    | @letter a ha =>
        have hz := isNameEnd_of_isLetter ha
        refine ⟨⟨a, rfl, ha⟩, fun d hd => ?_, a, rfl, hz⟩
        rw [List.mem_singleton.1 hd]
        exact isNamePart_of_isNameEnd hz
    | @long a z m ha hm hz =>
        refine ⟨⟨a, rfl, ha⟩, fun d hd => ?_, z, by simp [List.getLast?_cons], hz⟩
        rcases List.mem_cons.1 hd with rfl | hd
        · exact isNamePart_of_isNameEnd (isNameEnd_of_isLetter ha)
        · rcases List.mem_append.1 hd with hd | hd
          · exact hm d hd
          · rw [List.mem_singleton.1 hd]
            exact isNamePart_of_isNameEnd hz
  · rintro ⟨⟨a, ha, hletter⟩, hall, z, hz, hend⟩
    cases w with
    | nil => cases ha
    | cons d w =>
        obtain rfl : d = a := by simpa using ha
        rcases List.eq_nil_or_concat w with rfl | ⟨m, y, rfl⟩
        · exact .letter hletter
        · rw [List.concat_eq_append] at hz hall ⊢
          obtain rfl : y = z := by simpa [List.getLast?_cons] using hz
          exact .long hletter (fun d hd => hall d (by simp [hd])) hend

/-- The longest name, as taken from the right of a run of name
characters. -/
theorem nameOf_eq (cs : List Char) :
    nameOf cs = if cs.head?.any isLetter then
        (cs.takeWhile isNamePart).rdropWhile (fun d => !isNameEnd d)
      else [] := rfl

/-- The name in front of a text is a part of it. -/
theorem nameOf_prefix (cs : List Char) : nameOf cs <+: cs := by
  rw [nameOf_eq]
  split
  · exact (List.rdropWhile_prefix _ _).trans (List.takeWhile_prefix _)
  · exact List.nil_prefix

/-- What `nameOf` finds is a name. -/
theorem isName_nameOf {cs : List Char} (hne : nameOf cs ≠ []) : IsName (nameOf cs) := by
  have hhead : (nameOf cs).head? = cs.head? := by
    obtain ⟨r, hr⟩ := nameOf_prefix cs
    conv_rhs => rw [← hr]
    rw [List.head?_append_of_ne_nil _ hne]
  rw [nameOf_eq] at hne hhead ⊢
  split at hne
  · next hletter =>
    rw [if_pos hletter] at hhead ⊢
    obtain ⟨a, ha, hletter⟩ := (Option.any_eq_true ..).1 hletter
    refine isName_iff.2 ⟨⟨a, ?_, hletter⟩, fun d hd => ?_, ?_⟩
    · rw [hhead]
      exact ha
    · exact List.mem_takeWhile_imp ((List.rdropWhile_prefix _ _).subset hd)
    · refine ⟨_, List.getLast?_eq_some_getLast hne, ?_⟩
      simpa using List.rdropWhile_last_not _ _ hne
  · exact absurd rfl hne

/-- Every name in front of a text is a part of the one `nameOf` finds. -/
theorem prefix_nameOf {v cs : List Char} (hv : IsName v) (h : v <+: cs) : v <+: nameOf cs := by
  obtain ⟨⟨a, ha, hletter⟩, hall, z, hz, hend⟩ := isName_iff.1 hv
  have hne : v ≠ [] := by rintro rfl; cases ha
  obtain ⟨r, rfl⟩ := h
  have hhead : (v ++ r).head?.any isLetter = true := by
    rw [List.head?_append_of_ne_nil _ hne, Option.mem_def.1 ha]
    exact hletter
  rw [nameOf_eq, if_pos hhead, List.takeWhile_append_of_pos hall]
  -- dropping from the right stops at the end of `v` or before
  have hstop : v.rdropWhile (fun d => !isNameEnd d) = v := by
    refine List.rdropWhile_eq_self_iff.2 fun _ => ?_
    rw [List.getLast?_eq_some_getLast hne] at hz
    obtain rfl := Option.some.inj hz
    simp [hend]
  unfold List.rdropWhile at hstop ⊢
  rw [List.reverse_append, List.dropWhile_append]
  split
  · exact ⟨[], by rw [hstop, List.append_nil]⟩
  · rw [List.reverse_append, List.reverse_reverse]
    exact List.prefix_append _ _

/-- The longest name in front of a text is the one `nameOf` finds. -/
theorem longest_isName_iff : Longest IsName w k ↔ w ≠ [] ∧ nameOf (w ++ k) = w := by
  constructor
  · rintro ⟨hw, hmax⟩
    have hpre := prefix_nameOf hw (List.prefix_append w k)
    obtain ⟨u, hu⟩ := hpre
    have hne : w ≠ [] := by rintro rfl; cases hw
    refine ⟨hne, ?_⟩
    cases u with
    | nil => rw [← hu, List.append_nil]
    | cons d u =>
        have hname : IsName (nameOf (w ++ k)) := isName_nameOf (by rw [← hu]; simp)
        have hk := nameOf_prefix (w ++ k)
        rw [← hu] at hname hk
        exact absurd hname (hmax _ (by simp) ((List.prefix_append_right_inj w).1 hk))
  · rintro ⟨hne, hw⟩
    have hname : IsName w := by
      have hfound : nameOf (w ++ k) ≠ [] := by
        rw [hw]
        exact hne
      have h := isName_nameOf hfound
      rwa [hw] at h
    refine ⟨hname, fun u hu hk hwu => ?_⟩
    have hle := (prefix_nameOf hwu ((List.prefix_append_right_inj w).2 hk)).length_le
    rw [hw, List.length_append] at hle
    have hpos := List.length_pos_iff.2 hu
    omega

/-- A name in front of a character of no name is the longest one. -/
theorem IsName.longest (hw : IsName w) (hk : ∀ d ∈ k.head?, isNamePart d = false) :
    Longest IsName w k :=
  Longest.of_class (fun d _ h => (isName_iff.1 h).2.1 d (by simp)) hw hk

/-- Behind a longest name stands neither a letter nor a digit. -/
theorem Longest.head?_of_isName (h : Longest IsName w k) :
    ∀ d ∈ k.head?, isNameEnd d = false := by
  refine h.head? fun d hd => ?_
  obtain ⟨⟨a, ha, hletter⟩, hall, -⟩ := isName_iff.1 h.1
  refine isName_iff.2 ⟨⟨a, ?_, hletter⟩, fun e he => ?_, d, by simp, hd⟩
  · have hne : w ≠ [] := by rintro rfl; cases ha
    rw [List.head?_append_of_ne_nil _ hne]
    exact ha
  · rcases List.mem_append.1 he with he | he
    · exact hall e he
    · rw [List.mem_singleton.1 he]
      exact isNamePart_of_isNameEnd hd

-- ======================================================= cursor steps

/-- Dropping the characters of a part in front, and the blanks behind. -/
theorem Cursor.drop_append (w k : List Char) :
    (⟨w ++ k⟩ : Cursor).drop w.length = ⟨trimStart k⟩ := by
  unfold Cursor.drop
  rw [List.drop_left]

/-- A longest name in front is read. -/
theorem Cursor.name?_append (h : Longest IsName w k) :
    (⟨w ++ k⟩ : Cursor).name? = some (String.ofList w, ⟨trimStart k⟩) := by
  obtain ⟨hne, hw⟩ := longest_isName_iff.1 h
  unfold Cursor.name?
  split
  · next hnil => exact absurd (hw.symm.trans hnil) hne
  · rw [hw, drop_append]

/-- A name that was read is the longest one in front. -/
theorem Cursor.exists_of_name? (h : c.name? = some (s, c')) :
    ∃ k, c.rest = s.toList ++ k ∧ Longest IsName s.toList k ∧ c' = ⟨trimStart k⟩ := by
  unfold Cursor.name? at h
  split at h
  · cases h
  · next hne =>
    obtain ⟨k, hk⟩ := nameOf_prefix c.rest
    cases h
    rw [String.toList_ofList]
    refine ⟨k, hk.symm, longest_isName_iff.2 ⟨hne, by rw [hk]⟩, ?_⟩
    obtain ⟨cs⟩ := c
    rw [← drop_append (nameOf cs) k, hk]

/-- No name is read exactly in front of something other than a letter. -/
theorem Cursor.name?_eq_none_iff :
    c.name? = none ↔ ∀ a ∈ c.rest.head?, isLetter a = false := by
  have hiff : c.name? = none ↔ nameOf c.rest = [] := by
    unfold Cursor.name?
    cases nameOf c.rest with
    | nil => simp
    | cons d ds => simp
  rw [hiff]
  constructor
  · intro hnil a ha
    cases hletter : isLetter a with
    | false => rfl
    | true =>
        have hpre : [a] <+: c.rest := by
          cases hc : c.rest with
          | nil => rw [hc] at ha; cases ha
          | cons d cs =>
              rw [hc] at ha
              obtain rfl : d = a := by simpa using ha
              exact ⟨cs, rfl⟩
        have h := prefix_nameOf (.letter hletter) hpre
        rw [hnil] at h
        exact absurd (List.prefix_nil.1 h) (by simp)
  · intro h
    rw [nameOf_eq, if_neg]
    rw [Option.any_eq_true]
    rintro ⟨a, ha, hletter⟩
    rw [h a ha] at hletter
    cases hletter

/-- A longest digit run in front is read. -/
theorem Cursor.digits?_append (h : Longest IsDigits w k) :
    (⟨w ++ k⟩ : Cursor).digits? = some (w, ⟨trimStart k⟩) := by
  obtain ⟨⟨hne, hall⟩, hk⟩ := longest_isDigits_iff.1 h
  have hw : (w ++ k).takeWhile isDigit = w := takeWhile_run hall hk
  unfold Cursor.digits?
  split
  · next hnil => exact absurd (hw.symm.trans hnil) hne
  · rw [hw, drop_append]

/-- A digit run that was read is the longest one in front. -/
theorem Cursor.exists_of_digits? (h : c.digits? = some (w, c')) :
    ∃ k, c.rest = w ++ k ∧ Longest IsDigits w k ∧ c' = ⟨trimStart k⟩ := by
  unfold Cursor.digits? at h
  split at h
  · cases h
  · next hne =>
    have hsplit := List.takeWhile_append_dropWhile (p := isDigit) (l := c.rest)
    cases h
    refine ⟨c.rest.dropWhile isDigit, hsplit.symm, longest_isDigits_iff.2 ⟨⟨hne, ?_⟩, ?_⟩, ?_⟩
    · exact fun d hd => List.mem_takeWhile_imp hd
    · exact head?_dropWhile isDigit c.rest
    · obtain ⟨cs⟩ := c
      rw [← drop_append (cs.takeWhile isDigit), hsplit]

/-- No digit run is read exactly in front of something other than a
digit. -/
theorem Cursor.digits?_eq_none_iff :
    c.digits? = none ↔ ∀ d ∈ c.rest.head?, isDigit d = false := by
  unfold Cursor.digits?
  cases hc : c.rest with
  | nil => simp
  | cons d cs =>
      cases hd : isDigit d with
      | false => simp [hd]
      | true => simp [hd]

/-- A text argument is what stands in front of the next `)`, trimmed. -/
theorem Cursor.upToClose?_append (ht : ')' ∉ t) :
    (⟨t ++ ')' :: k⟩ : Cursor).upToClose? = some (String.ofList (trim t), ⟨')' :: k⟩) := by
  have htake : (t ++ ')' :: k).takeWhile (· != ')') = t := by
    refine takeWhile_run (fun d hd => ?_) (outside_cons rfl k)
    have hne : d ≠ ')' := by rintro rfl; exact ht hd
    simpa using hne
  have hclose : trimStart (')' :: k) = ')' :: k := trimStart_eq_self (outside_cons rfl k)
  unfold Cursor.upToClose?
  simp only [htake]
  rw [if_pos (by simp), drop_append, hclose]

/-- Without a `)` behind it, no text argument is read. -/
theorem Cursor.upToClose?_eq_none (h : ')' ∉ c.rest) : c.upToClose? = none := by
  have htake : c.rest.takeWhile (· != ')') = c.rest := by
    rw [List.takeWhile_eq_self_iff]
    intro d hd
    have hne : d ≠ ')' := by rintro rfl; exact h hd
    simpa using hne
  unfold Cursor.upToClose?
  simp only [htake]
  rw [if_neg (by omega)]

/-- A text argument that was read stands in front of a `)`, the first one
there is. -/
theorem Cursor.exists_of_upToClose? (h : c.upToClose? = some (s, c')) :
    ∃ t k, c.rest = t ++ ')' :: k ∧ ')' ∉ t ∧ s = String.ofList (trim t) ∧ c' = ⟨')' :: k⟩ := by
  by_cases hmem : ')' ∈ c.rest
  · obtain ⟨t, k, hsplit, ht⟩ := List.eq_append_cons_of_mem hmem
    obtain ⟨cs⟩ := c
    obtain rfl : cs = t ++ ')' :: k := hsplit
    rw [upToClose?_append ht] at h
    cases h
    exact ⟨t, k, rfl, ht, rfl, rfl⟩
  · rw [upToClose?_eq_none hmem] at h
    cases h

/-- No text argument is read exactly when no `)` stands behind. -/
theorem Cursor.upToClose?_eq_none_iff : c.upToClose? = none ↔ ')' ∉ c.rest := by
  refine ⟨fun h hmem => ?_, upToClose?_eq_none⟩
  obtain ⟨t, k, hsplit, ht⟩ := List.eq_append_cons_of_mem hmem
  obtain ⟨cs⟩ := c
  obtain rfl : cs = t ++ ')' :: k := hsplit
  rw [upToClose?_append ht] at h
  cases h

/-- A separator in front is read. -/
theorem Cursor.separator?_cons (ch : Char) (k : List Char) :
    (⟨ch :: k⟩ : Cursor).separator? ch = some ⟨trimStart k⟩ := by
  unfold Cursor.separator?
  rw [if_pos (show (⟨ch :: k⟩ : Cursor).peek = some ch from rfl)]
  rfl

/-- A separator that was read was in front. -/
theorem Cursor.exists_of_separator? (h : c.separator? ch = some c') :
    ∃ k, c.rest = ch :: k ∧ c' = ⟨trimStart k⟩ := by
  obtain ⟨cs⟩ := c
  unfold Cursor.separator? at h
  split at h
  · next hp =>
    cases cs with
    | nil => cases hp
    | cons d cs =>
        obtain rfl : d = ch := by simpa [peek] using hp
        cases h
        exact ⟨cs, rfl, rfl⟩
  · cases h

/-- A separator is missed exactly when another character is in front. -/
theorem Cursor.separator?_eq_none_iff : c.separator? ch = none ↔ c.peek ≠ some ch := by
  unfold Cursor.separator?
  split
  · next h => simp [h]
  · next h => simp [h]

end Docket
