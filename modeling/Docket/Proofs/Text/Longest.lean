/-
Longest pieces.  A piece `w` of a text, with `k` behind it, is the longest
one of its kind when it is of that kind and no part of `k` can be added to
it.  Blank runs and digit runs are kinds; names are another one, in
`Proofs/Query/Token`.

Main statements: a run of characters of a class is longest exactly when the
character behind it is outside the class; what stands behind a character
that no piece of the kind holds has no say in which piece is longest; and
trimming at the end takes away the blanks that stand there.
-/
import Docket.Text.Blank
import Docket.Text.Decimal
import Mathlib.Data.List.DropRight

namespace Docket

variable {P : List Char → Prop} {p : Char → Bool} {w k b cs : List Char}

-- ====================================================== longest pieces

/-- `w`, with `k` behind it, is the longest piece with the property `P`: no
part of `k` can be added to it. -/
def Longest (P : List Char → Prop) (w k : List Char) : Prop :=
  P w ∧ ∀ u, u ≠ [] → u <+: k → ¬ P (w ++ u)

/-- A run of blanks, which may be empty. -/
def IsBlanks (w : List Char) : Prop := ∀ c ∈ w, isBlank c = true

/-- A run of digits, which may not be empty. -/
def IsDigits (w : List Char) : Prop := w ≠ [] ∧ ∀ c ∈ w, isDigit c = true

/-- With less text behind it, a longest piece stays longest. -/
theorem Longest.cut {r : List Char} (h : Longest P w (k ++ r)) : Longest P w k :=
  ⟨h.1, fun u hne hu => h.2 u hne (hu.trans (List.prefix_append k r))⟩

/-- Behind a character that no piece of the kind holds, any text may
follow. -/
theorem Longest.extend {c : Char} (hc : ∀ v, P v → c ∉ v) (h : Longest P w k)
    (r : List Char) : Longest P w (k ++ c :: r) := by
  refine ⟨h.1, fun u hne hu hP => ?_⟩
  rcases List.prefix_or_prefix_of_prefix hu (List.prefix_append k (c :: r)) with hk | hk
  · exact h.2 u hne hk hP
  · -- `u` goes beyond `k`, so it is `k` alone or it holds `c`
    obtain ⟨v, rfl⟩ := hk
    rw [List.prefix_append_right_inj] at hu
    cases v with
    | nil => exact h.2 k (by simpa using hne) (List.prefix_refl k) (by simpa using hP)
    | cons d v =>
        have hd : d = c := (List.cons_prefix_cons.1 hu).1
        exact hc _ hP (by simp [hd])

/-- A piece is longest when its additions all begin in a class and the next
character is outside of it. -/
theorem Longest.of_class (hP : ∀ d u, P (w ++ d :: u) → p d = true) (hw : P w)
    (hk : ∀ c ∈ k.head?, p c = false) : Longest P w k := by
  refine ⟨hw, fun u hne hu hPu => ?_⟩
  cases u with
  | nil => exact hne rfl
  | cons d u =>
      obtain ⟨r, rfl⟩ := hu
      have hd : p d = false := hk d rfl
      rw [hP d u hPu] at hd
      cases hd

/-- Behind a longest piece stands no character that could be added to it. -/
theorem Longest.head? (hP : ∀ d, p d = true → P (w ++ [d])) (h : Longest P w k) :
    ∀ c ∈ k.head?, p c = false := by
  intro c hc
  cases k with
  | nil => cases hc
  | cons d k =>
      obtain rfl : d = c := by simpa using hc
      cases hd : p d with
      | false => rfl
      | true => exact absurd (hP d hd) (h.2 [d] (by simp) ⟨k, rfl⟩)

/-- A text begins outside of a class when its first character is. -/
theorem outside_cons {d : Char} (hd : p d = false) (k : List Char) :
    ∀ c ∈ (d :: k).head?, p c = false := by
  intro c hc
  obtain rfl : d = c := by simpa using hc
  exact hd

-- ============================================================== runs

/-- A run in front of a character outside its class is what `takeWhile`
takes. -/
theorem takeWhile_run (hw : ∀ c ∈ w, p c = true) (hk : ∀ c ∈ k.head?, p c = false) :
    (w ++ k).takeWhile p = w := by
  rw [List.takeWhile_append_of_pos hw]
  cases k with
  | nil => simp
  | cons d k => rw [List.takeWhile_cons, hk d rfl]; simp

/-- What `dropWhile` leaves begins outside the class. -/
theorem head?_dropWhile (p : Char → Bool) (cs : List Char) :
    ∀ c ∈ (cs.dropWhile p).head?, p c = false := by
  intro c hc
  have h := List.head?_dropWhile_not p cs
  rw [Option.mem_def.1 hc] at h
  simpa using h

/-- A run of blanks is longest when no blank follows. -/
theorem longest_isBlanks_iff :
    Longest IsBlanks b k ↔ IsBlanks b ∧ ∀ c ∈ k.head?, isBlank c = false := by
  constructor
  · intro h
    refine ⟨h.1, h.head? fun d hd c hc => ?_⟩
    rcases List.mem_append.1 hc with hc | hc
    · exact h.1 c hc
    · rw [List.mem_singleton.1 hc]
      exact hd
  · rintro ⟨hb, hk⟩
    exact Longest.of_class (fun d u h => h d (by simp)) hb hk

/-- A run of digits is longest when no digit follows. -/
theorem longest_isDigits_iff :
    Longest IsDigits w k ↔ IsDigits w ∧ ∀ c ∈ k.head?, isDigit c = false := by
  constructor
  · intro h
    refine ⟨h.1, h.head? fun d hd => ⟨by simp, fun c hc => ?_⟩⟩
    rcases List.mem_append.1 hc with hc | hc
    · exact h.1.2 c hc
    · rw [List.mem_singleton.1 hc]
      exact hd
  · rintro ⟨hw, hk⟩
    exact Longest.of_class (fun d u h => h.2 d (by simp)) hw hk

-- ========================================================== blank runs

/-- A text is its longest run of blanks in front and what trimming there
leaves. -/
theorem exists_longest_blanks (cs : List Char) :
    ∃ b, cs = b ++ trimStart cs ∧ Longest IsBlanks b (trimStart cs) := by
  refine ⟨cs.takeWhile isBlank, (takeWhile_append_trimStart cs).symm, ?_⟩
  refine longest_isBlanks_iff.2 ⟨fun _ hc => ?_, fun _ hc => head?_trimStart hc⟩
  exact List.mem_takeWhile_imp hc

/-- A longest run of blanks is what trimming at the front takes away. -/
theorem Longest.trimStart_eq (h : Longest IsBlanks b k) : trimStart (b ++ k) = k := by
  obtain ⟨hb, hk⟩ := longest_isBlanks_iff.1 h
  rw [trimStart_append_of_blank hb, trimStart_eq_self hk]

/-- No blanks at all are a run of blanks. -/
theorem isBlanks_nil : IsBlanks [] := fun _ hc => nomatch hc

/-- A run of blanks is longest in front of a character that is none. -/
theorem longest_blanks_cons {d : Char} (hb : IsBlanks b) (hd : isBlank d = false)
    (k : List Char) : Longest IsBlanks b (d :: k) :=
  longest_isBlanks_iff.2 ⟨hb, outside_cons hd k⟩

/-- Two splittings of one text into a longest run of blanks and the rest
are one. -/
theorem Longest.blanks_unique {b' k' : List Char} (h : Longest IsBlanks b k)
    (h' : Longest IsBlanks b' k') (he : b ++ k = b' ++ k') : b = b' ∧ k = k' := by
  have hk : k = k' := by
    rw [← h.trimStart_eq, he, h'.trimStart_eq]
  subst hk
  exact ⟨List.append_cancel_right he, rfl⟩

/-- Blanks at the end are trimmed away there. -/
theorem trimEnd_append_of_blank (hb : IsBlanks b) (cs : List Char) :
    trimEnd (cs ++ b) = trimEnd cs := by
  have hr : IsBlanks b.reverse := fun c hc => hb c (List.mem_reverse.1 hc)
  unfold trimEnd
  rw [List.reverse_append, trimStart_append_of_blank hr]

/-- Nothing is trimmed at the end of a text that does not end in a
blank. -/
theorem trimEnd_eq_self (h : ∀ c ∈ cs.getLast?, isBlank c = false) : trimEnd cs = cs := by
  have hr : ∀ c ∈ cs.reverse.head?, isBlank c = false := by
    rw [List.head?_reverse]
    exact h
  unfold trimEnd
  rw [trimStart_eq_self hr, List.reverse_reverse]

/-- A text is what trimming at its end leaves, and blanks. -/
theorem exists_trimEnd_append (cs : List Char) : ∃ b, IsBlanks b ∧ cs = trimEnd cs ++ b :=
  ⟨cs.rtakeWhile isBlank, fun _ hc => List.mem_rtakeWhile_imp hc,
    List.rdropWhile_append_rtakeWhile.symm⟩

/-- A text is what trimming leaves, with blanks on both sides. -/
theorem exists_blanks_trim (cs : List Char) :
    ∃ lead back, IsBlanks lead ∧ IsBlanks back ∧ cs = lead ++ (trim cs ++ back) := by
  obtain ⟨lead, hcs, hlead⟩ := exists_longest_blanks cs
  obtain ⟨back, hback, htrim⟩ := exists_trimEnd_append (trimStart cs)
  refine ⟨lead, back, hlead.1, hback, ?_⟩
  conv => lhs; rw [hcs, htrim]
  rfl

/-- Blanks at the end do not change what trimming leaves. -/
theorem trim_append_of_blank (hb : IsBlanks b) (cs : List Char) : trim (cs ++ b) = trim cs := by
  unfold trim
  by_cases hcs : IsBlanks cs
  · have hall : IsBlanks (cs ++ b) := fun c hc => (List.mem_append.1 hc).elim (hcs c) (hb c)
    have hl := trimStart_append_of_blank hall []
    have hr := trimStart_append_of_blank hcs []
    rw [List.append_nil] at hl hr
    rw [hl, hr]
  · have hne : cs.dropWhile isBlank ≠ [] := by
      intro h
      exact hcs (List.dropWhile_eq_nil_iff.1 h)
    have hstart : trimStart (cs ++ b) = trimStart cs ++ b := by
      unfold trimStart
      rw [List.dropWhile_append, if_neg (by simpa using hne)]
    rw [hstart, trimEnd_append_of_blank hb]

/-- A text that is its own trim begins with no blank. -/
theorem head?_of_trim_eq (h : trim cs = cs) : ∀ c ∈ cs.head?, isBlank c = false := by
  intro c hc
  have hne : cs ≠ [] := by rintro rfl; cases hc
  -- only its end is trimmed further, so it is in front of what trimming there leaves
  have hfront : trim cs <+: trimStart cs := List.rdropWhile_prefix isBlank (trimStart cs)
  rw [h] at hfront
  obtain ⟨r, hr⟩ := hfront
  have hhead : (trimStart cs).head? = cs.head? := by
    conv => lhs; rw [← hr]
    exact List.head?_append_of_ne_nil _ hne
  exact head?_trimStart (hhead.trans hc)

/-- Trimming a text that begins with no blank is trimming at its end. -/
theorem trim_eq_trimEnd (h : ∀ c ∈ cs.head?, isBlank c = false) : trim cs = trimEnd cs := by
  unfold trim
  rw [trimStart_eq_self h]

end Docket
