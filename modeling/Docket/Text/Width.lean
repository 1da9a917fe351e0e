/-
Texts measured in the bytes of their UTF-8 form.  Characters stay whole:
a cut that would fall inside a character takes that character too.

Main statements: dropping bytes leaves a suffix, and dropping as many as a
part in front takes up drops that part.
-/

namespace Docket

/-- The number of bytes of a text's UTF-8 form. -/
def byteWidth : List Char → Nat
  | [] => 0
  | c :: cs => c.utf8Size + byteWidth cs

/-- The bytes of a text. -/
def bytesOf (text : String) : List UInt8 := text.toUTF8.data.toList

/-- Drop the shortest run of whole characters that spans `n` bytes, or
everything when the text is shorter than that. -/
def dropBytes : Nat → List Char → List Char
  | 0, cs => cs
  | _ + 1, [] => []
  | n + 1, c :: cs => dropBytes (n + 1 - c.utf8Size) cs

/-- Dropping bytes leaves a suffix. -/
theorem dropBytes_suffix (n : Nat) (cs : List Char) :
    dropBytes n cs <:+ cs := by
  induction cs generalizing n with
  | nil => cases n <;> exact List.suffix_refl _
  | cons c cs ih =>
    cases n with
    | zero => exact List.suffix_refl _
    | succ n => exact (ih _).trans (List.suffix_cons ..)

/-- Dropping the exact width of a front part drops that part. -/
theorem dropBytes_byteWidth_append (as bs : List Char) :
    dropBytes (byteWidth as) (as ++ bs) = bs := by
  induction as with
  | nil => cases bs <;> rfl
  | cons a as ih =>
    have ha : 0 < a.utf8Size := Char.utf8Size_pos a
    obtain ⟨k, hk⟩ : ∃ k, byteWidth (a :: as) = k + 1 :=
      ⟨byteWidth (a :: as) - 1, by simp only [byteWidth]; omega⟩
    have hrest : k + 1 - a.utf8Size = byteWidth as := by
      rw [← hk]
      simp only [byteWidth]
      omega
    rw [hk]
    show dropBytes (k + 1 - a.utf8Size) (as ++ bs) = bs
    rw [hrest, ih]

end Docket
