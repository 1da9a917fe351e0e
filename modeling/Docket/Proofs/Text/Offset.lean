/-
Places in a text, by the number of bytes in front of them.  A character
starts at some of these places only, and a text can be cut there without
tearing one.

Main statements: dropping bytes takes away the shortest whole characters
that take up so many bytes; these are at most three bytes more, and no
character starts in between.
-/
import Docket.Text.Width

namespace Docket

variable {w v cs : List Char} {n : Nat}

-- =============================================================== widths

theorem byteWidth_append (as bs : List Char) :
    byteWidth (as ++ bs) = byteWidth as + byteWidth bs := by
  induction as with
  | nil => simp [byteWidth]
  | cons a as ih => rw [List.cons_append, byteWidth, byteWidth, ih, Nat.add_assoc]

/-- The width of a text is the size of its string. -/
theorem utf8ByteSize_ofList (cs : List Char) : (String.ofList cs).utf8ByteSize = byteWidth cs := by
  induction cs with
  | nil => rfl
  | cons c cs ih =>
      rw [← List.singleton_append, String.ofList_append, String.utf8ByteSize_append, ih,
        ← String.singleton_eq_ofList, String.utf8ByteSize_singleton, byteWidth_append]
      rfl

/-- Of two parts in front of a text, the narrower one is in front of the
other. -/
theorem prefix_of_byteWidth_le (hw : w <+: cs) (hv : v <+: cs) (h : byteWidth w ≤ byteWidth v) :
    w <+: v := by
  rcases List.prefix_or_prefix_of_prefix hw hv with hwv | ⟨u, rfl⟩
  · exact hwv
  · rw [byteWidth_append] at h
    cases u with
    | nil => simp
    | cons d u =>
        have hd := d.utf8Size_pos
        rw [byteWidth] at h
        omega

-- ====================================================== shortest spans

/-- `w` is the shortest part in front of `cs` that takes up `n` bytes. -/
structure ShortestSpan (n : Nat) (w cs : List Char) : Prop where
  front : w <+: cs
  wide : n ≤ byteWidth w
  least : ∀ v, v <+: cs → n ≤ byteWidth v → w <+: v

/-- Dropping bytes takes away the shortest part in front that takes up so
many bytes, or as many as there are. -/
theorem exists_span_dropBytes (n : Nat) (cs : List Char) :
    ∃ w, cs = w ++ dropBytes n cs ∧ ShortestSpan (min n (byteWidth cs)) w cs := by
  induction cs generalizing n with
  | nil =>
      refine ⟨[], by cases n <;> rfl, List.nil_prefix, ?_, fun v _ _ => List.nil_prefix⟩
      exact Nat.min_le_right _ _
  | cons c cs ih =>
      cases n with
      | zero =>
          refine ⟨[], rfl, List.nil_prefix, ?_, fun v _ _ => List.nil_prefix⟩
          exact Nat.min_le_left _ _
      | succ n =>
          obtain ⟨w, hcs, hspan⟩ := ih (n + 1 - c.utf8Size)
          have hwide := hspan.wide
          refine ⟨c :: w, congrArg (c :: ·) hcs, (List.prefix_cons_inj c).2 hspan.front, ?_,
            fun v hfront hv => ?_⟩
          · simp only [byteWidth]
            omega
          · have hc := c.utf8Size_pos
            simp only [byteWidth] at hv
            cases v with
            | nil =>
                simp only [byteWidth] at hv
                omega
            | cons d v =>
                obtain ⟨rfl, hbehind⟩ := List.cons_prefix_cons.1 hfront
                simp only [byteWidth] at hv
                exact (List.prefix_cons_inj d).2 (hspan.least v hbehind (by omega))

namespace ShortestSpan

/-- A character may take up four bytes, so whole characters take up at most
three more than are asked for. -/
theorem byteWidth_le (h : ShortestSpan n w cs) : byteWidth w ≤ n + 3 := by
  rcases List.eq_nil_or_concat w with rfl | ⟨v, d, rfl⟩
  · exact Nat.zero_le _
  · rw [List.concat_eq_append] at h ⊢
    -- without its last character, the part would be too narrow
    have hnarrow : byteWidth v < n := by
      refine Nat.lt_of_not_le fun hwide => ?_
      have hv : v <+: cs := (List.prefix_append v [d]).trans h.front
      have hle := (h.least v hv hwide).length_le
      rw [List.length_append, List.length_singleton] at hle
      omega
    have hd := d.utf8Size_le_four
    rw [byteWidth_append, byteWidth, byteWidth]
    omega

/-- The shortest part is so behind any front, too. -/
theorem behind (h : ShortestSpan n w cs) (front : List Char) :
    ShortestSpan (byteWidth front + n) (front ++ w) (front ++ cs) := by
  have hwide := h.wide
  refine ⟨(List.prefix_append_right_inj front).2 h.front, ?_, fun v hv hv' => ?_⟩
  · rw [byteWidth_append]
    omega
  · have hfront : front <+: v :=
      prefix_of_byteWidth_le (List.prefix_append front cs) hv (by omega)
    obtain ⟨u, rfl⟩ := hfront
    rw [byteWidth_append] at hv'
    rw [List.prefix_append_right_inj] at hv ⊢
    exact h.least u hv (by omega)

end ShortestSpan

-- ============================================================== offsets

/-- A character starts behind so many bytes, or the text ends there, when a
part in front takes them up. -/
theorem isValid_ofList_iff : String.Pos.Raw.isValid (String.ofList cs) ⟨n⟩ = true
    ↔ ∃ v, v <+: cs ∧ byteWidth v = n := by
  rw [String.Pos.Raw.isValid_eq_true_iff, String.Pos.Raw.isValid_ofList]
  constructor
  · rintro ⟨i, hi⟩
    refine ⟨cs.take i, List.take_prefix i cs, ?_⟩
    rw [← utf8ByteSize_ofList]
    exact hi.symm
  · rintro ⟨v, hv, rfl⟩
    refine ⟨v.length, ?_⟩
    rw [← List.prefix_iff_eq_take.1 hv, utf8ByteSize_ofList]

/-- No character starts between the bytes that are asked for and the end of
the characters that take them up. -/
theorem ShortestSpan.not_isValid {m : Nat} (h : ShortestSpan n w cs) (hn : n ≤ m)
    (hm : m < byteWidth w) :
    String.Pos.Raw.isValid (String.ofList cs) ⟨m⟩ = false := by
  rw [← Bool.not_eq_true, isValid_ofList_iff]
  rintro ⟨v, hv, rfl⟩
  obtain ⟨u, rfl⟩ := h.least v hv hn
  rw [byteWidth_append] at hm
  omega

/-- Cut a text behind its first `n` bytes, unless a character would be torn
or the text is shorter than that. -/
def cutAt? : Nat → List Char → Option (List Char × List Char)
  | 0, cs => some ([], cs)
  | _ + 1, [] => none
  | n + 1, c :: cs =>
    if c.utf8Size ≤ n + 1 then
      (cutAt? (n + 1 - c.utf8Size) cs).map fun (front, behind) => (c :: front, behind)
    else none

/-- Behind the width of a part in front, a text is cut behind that part. -/
theorem cutAt?_byteWidth (w k : List Char) : cutAt? (byteWidth w) (w ++ k) = some (w, k) := by
  induction w with
  | nil => simp [byteWidth, cutAt?]
  | cons c w ih =>
      have hc := c.utf8Size_pos
      obtain ⟨n, hn⟩ : ∃ n, byteWidth (c :: w) = n + 1 :=
        ⟨byteWidth (c :: w) - 1, by rw [byteWidth]; omega⟩
      rw [byteWidth] at hn
      have hrest : n + 1 - c.utf8Size = byteWidth w := by omega
      rw [List.cons_append, byteWidth, hn, cutAt?, if_pos (by omega), hrest, ih]
      rfl

end Docket
