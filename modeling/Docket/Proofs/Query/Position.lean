/-
Advancing a cursor by bytes that are counted in a word.  A cursor in its
text is the number of bytes that it has passed.  To advance it, bytes are
added to that number, but not beyond the end of the text; then it goes on
byte by byte until a character starts, and past the blanks there.

# Why no character is torn and no sum wraps around

The bytes of a text can be counted in a word, so a sum that has stopped at
the greatest word lies behind the end of the text all the same, and the end
is taken instead (`toNat_landing`).  From there on every index lies within
the text: going on ends behind the shortest run of whole characters that
takes up the bytes, three bytes further at most, and no character starts in
between (`toStart_eq`, by induction on the steps).

Main statement: advancing by index and dropping whole characters from the
text that is left are the same.
-/
import Docket.Proofs.Text.Longest
import Docket.Proofs.Text.Offset
import Docket.Query.Move

namespace Docket

-- ================================================ statement vocabulary

/-- A cursor in its text, that is, with what it has passed.  The bytes of the
text can be counted in a word. -/
structure Position extends Cursor where
  passed : List Char
  fits : byteWidth (passed ++ rest) < UInt64.size

namespace Position

/-- The whole text. -/
def text (p : Position) : String := String.ofList (p.passed ++ p.rest)

/-- The number of bytes that have been passed. -/
def index (p : Position) : UInt64 := UInt64.ofNat (byteWidth p.passed)

/-- The position behind a part in front of what is left. -/
def pass (p : Position) {w k : List Char} (h : p.rest = w ++ k) : Position where
  rest := k
  passed := p.passed ++ w
  fits := by
    rw [List.append_assoc, ← h]
    exact p.fits

end Position

/-- The sum of two words, or the greatest word if they have none. -/
def saturatingAdd (a b : UInt64) : UInt64 :=
  if a.toNat + b.toNat < UInt64.size then a + b else UInt64.ofNat (UInt64.size - 1)

/-- The index `n` bytes on, or that of the end of the text if it comes
first. -/
def landing (text : String) (index n : UInt64) : UInt64 :=
  let size := UInt64.ofNat text.utf8ByteSize
  if saturatingAdd index n ≤ size then saturatingAdd index n else size

/-- Go on byte by byte until a character starts or the text ends.  Nothing
comes of it if that takes more steps than are allowed. -/
def toStart (text : String) : Nat → UInt64 → Option UInt64
  | 0, index => if String.Pos.Raw.isValid text ⟨index.toNat⟩ then some index else none
  | steps + 1, index =>
    if String.Pos.Raw.isValid text ⟨index.toNat⟩ then some index
    else toStart text steps (index + 1)

/-- Pass the blanks behind an index, at which the text can be cut. -/
def passBlanks (text : String) (index : UInt64) : Option UInt64 :=
  (cutAt? index.toNat text.toList).map fun parts =>
    index + (UInt64.ofNat (byteWidth parts.2) - UInt64.ofNat (byteWidth (trimStart parts.2)))

/-- Advance an index by `n` bytes, with so many steps allowed to the start of
a character. -/
def advanceWithin (allowed : Nat) (text : String) (index n : UInt64) : Option UInt64 :=
  (toStart text allowed (landing text index n)).bind (passBlanks text)

-- ================================================================ words

variable {text : String} {index start n : UInt64} {steps : Nat}

theorem toNat_saturatingAdd (a b : UInt64) :
    (saturatingAdd a b).toNat = min (a.toNat + b.toNat) (UInt64.size - 1) := by
  have hsize : UInt64.size = 2 ^ 64 := rfl
  unfold saturatingAdd
  split
  · next hsum =>
    rw [UInt64.toNat_add, Nat.mod_eq_of_lt (hsize ▸ hsum)]
    omega
  · rw [UInt64.toNat_ofNat_of_lt' (by omega)]
    omega

/-- Going on never leads out of the text, however far it is to be. -/
theorem toNat_landing (hfits : text.utf8ByteSize < UInt64.size) :
    (landing text index n).toNat = min (index.toNat + n.toNat) text.utf8ByteSize := by
  have hsum := toNat_saturatingAdd index n
  have hend : (UInt64.ofNat text.utf8ByteSize).toNat = text.utf8ByteSize :=
    UInt64.toNat_ofNat_of_lt' hfits
  unfold landing
  dsimp only
  split
  · next hle =>
    rw [UInt64.le_iff_toNat_le] at hle
    omega
  · next hgt =>
    rw [UInt64.le_iff_toNat_le] at hgt
    omega

theorem toStart_of_isValid (h : String.Pos.Raw.isValid text ⟨index.toNat⟩ = true) (allowed : Nat) :
    toStart text allowed index = some index := by
  cases allowed with
  | zero => rw [toStart, if_pos h]
  | succ allowed => rw [toStart, if_pos h]

/-- Where no character starts before `start`, going on from `index` comes to
`start` if enough steps are allowed, and otherwise to nothing. -/
theorem toStart_eq (hstart : start.toNat = index.toNat + steps)
    (hvalid : String.Pos.Raw.isValid text ⟨start.toNat⟩ = true)
    (htorn : ∀ k < steps, String.Pos.Raw.isValid text ⟨index.toNat + k⟩ = false) (allowed : Nat) :
    toStart text allowed index = if allowed < steps then none else some start := by
  induction steps generalizing index allowed with
  | zero =>
      obtain rfl : start = index := UInt64.toNat_inj.1 hstart
      rw [toStart_of_isValid hvalid, if_neg (Nat.not_lt_zero allowed)]
  | succ steps ih =>
      have hfirst := htorn 0 (Nat.succ_pos steps)
      rw [Nat.add_zero] at hfirst
      cases allowed with
      | zero =>
          rw [toStart, hfirst, if_pos (Nat.succ_pos steps)]
          rfl
      | succ allowed =>
          -- `start` is a word and lies behind, so the next index does not wrap
          have hnext : (index + 1).toNat = index.toNat + 1 := by
            have hlt := start.toNat_lt
            rw [UInt64.toNat_add]
            exact Nat.mod_eq_of_lt (by rw [UInt64.toNat_one]; omega)
          have hbehind : ∀ k < steps,
              String.Pos.Raw.isValid text ⟨(index + 1).toNat + k⟩ = false := by
            intro k hk
            have hk := htorn (k + 1) (by omega)
            rwa [hnext, Nat.add_assoc, Nat.add_comm 1]
          rw [toStart, hfirst, if_neg Bool.false_ne_true, ih (by omega) hbehind]
          simp only [Nat.add_lt_add_iff_right]

-- ============================================================= positions

namespace Position

variable (p : Position) {dropped blanks w k : List Char}

theorem toNat_index : p.index.toNat = byteWidth p.passed := by
  have hfits := p.fits
  rw [byteWidth_append] at hfits
  exact UInt64.toNat_ofNat_of_lt' (by omega)

theorem utf8ByteSize_text : p.text.utf8ByteSize = byteWidth p.passed + byteWidth p.rest := by
  unfold text
  rw [utf8ByteSize_ofList, byteWidth_append]

theorem text_pass (h : p.rest = w ++ k) : (p.pass h).text = p.text := by
  unfold text pass
  rw [List.append_assoc, ← h]

theorem toNat_index_pass (h : p.rest = w ++ k) :
    (p.pass h).index.toNat = p.index.toNat + byteWidth w := by
  rw [toNat_index, toNat_index, pass, byteWidth_append]

theorem toNat_landing_eq (n : UInt64) : (landing p.text p.index n).toNat
    = byteWidth p.passed + min n.toNat (byteWidth p.rest) := by
  have hfits : p.text.utf8ByteSize < UInt64.size := by
    rw [utf8ByteSize_text, ← byteWidth_append]
    exact p.fits
  rw [toNat_landing hfits, toNat_index, utf8ByteSize_text]
  omega

/-- Going on to the start of a character ends behind the shortest run of
whole characters that takes up the bytes. -/
theorem exists_toStart_eq (h : p.rest = dropped ++ k)
    (hspan : ShortestSpan (min n.toNat (byteWidth p.rest)) dropped p.rest) :
    ∃ steps ≤ 3, (p.pass h).index.toNat = (landing p.text p.index n).toNat + steps
      ∧ ∀ allowed, toStart p.text allowed (landing p.text p.index n)
        = if allowed < steps then none else some (p.pass h).index := by
  have hlanding := p.toNat_landing_eq n
  have hbehind := hspan.behind p.passed
  rw [← hlanding] at hbehind
  have hwide := hbehind.wide
  have hmost := hbehind.byteWidth_le
  have hindex : (p.pass h).index.toNat = byteWidth (p.passed ++ dropped) := toNat_index _
  refine ⟨byteWidth (p.passed ++ dropped) - (landing p.text p.index n).toNat, by omega,
    by omega, toStart_eq (by omega) ?_ fun k hk => ?_⟩
  · exact isValid_ofList_iff.2 ⟨_, hbehind.front, hindex.symm⟩
  · exact hbehind.not_isValid (by omega) (by omega)

/-- The blanks in front are passed. -/
theorem passBlanks_eq (h : p.rest = blanks ++ k) (hlongest : Longest IsBlanks blanks k) :
    passBlanks p.text p.index = some (p.pass h).index := by
  have htrim : trimStart p.rest = k := by
    rw [h]
    exact hlongest.trimStart_eq
  have hfits := p.fits
  have hwidth : byteWidth p.rest = byteWidth blanks + byteWidth k := by
    rw [h, byteWidth_append]
  rw [byteWidth_append, hwidth] at hfits
  have hrest : (UInt64.ofNat (byteWidth p.rest)).toNat = byteWidth p.rest :=
    UInt64.toNat_ofNat_of_lt' (by omega)
  have hk : (UInt64.ofNat (byteWidth k)).toNat = byteWidth k :=
    UInt64.toNat_ofNat_of_lt' (by omega)
  have hblanks : (UInt64.ofNat (byteWidth p.rest) - UInt64.ofNat (byteWidth k)).toNat
      = byteWidth blanks := by
    rw [UInt64.toNat_sub_of_le _ _ (UInt64.le_iff_toNat_le.2 (by omega))]
    omega
  have hindex := p.toNat_index
  have hsize : UInt64.size = 2 ^ 64 := rfl
  unfold passBlanks
  rw [text, String.toList_ofList, hindex, cutAt?_byteWidth, Option.map_some]
  dsimp only
  rw [htrim]
  refine congrArg some (UInt64.toNat_inj.1 ?_)
  rw [UInt64.toNat_add, hblanks, toNat_index_pass, Nat.mod_eq_of_lt (by omega)]

end Position

/-- Advancing by `n` bytes drops the shortest run of whole characters that
takes up `n` bytes, or all bytes that are left, then the longest run of
blanks behind it, and nothing else; what was dropped is passed, and the text
is the same.

By index, the sum is exact up to the end of the text, where it stops.  Going
on to the start of a character takes at most three steps, each to the next
index, and ends when it is allowed that many; it gives the index behind the
characters that are dropped, which lies within the text, and the blanks are
passed from there. -/
theorem advance_drops_whole_characters (p : Position) (n : UInt64) :
    ∃ (dropped blanks : List Char) (q : Position) (steps : Nat) (start : UInt64),
      p.rest = dropped ++ (blanks ++ q.rest)
        ∧ ShortestSpan (min n.toNat (byteWidth p.rest)) dropped p.rest
        ∧ Longest IsBlanks blanks q.rest
        ∧ p.act (.advance n.toNat) = (.done, q.toCursor)
        ∧ q.passed = p.passed ++ (dropped ++ blanks)
        ∧ (landing p.text p.index n).toNat = min (p.index.toNat + n.toNat) p.text.utf8ByteSize
        ∧ steps ≤ 3
        ∧ (∀ allowed, toStart p.text allowed (landing p.text p.index n)
          = if allowed < steps then none else some start)
        ∧ start.toNat = (landing p.text p.index n).toNat + steps
        ∧ start.toNat = p.index.toNat + byteWidth dropped
        ∧ start.toNat ≤ p.text.utf8ByteSize
        ∧ (∀ allowed, advanceWithin allowed p.text p.index n
          = if allowed < steps then none else some q.index)
        ∧ q.index.toNat = start.toNat + byteWidth blanks := by
  obtain ⟨dropped, hrest, hspan⟩ := exists_span_dropBytes n.toNat p.rest
  obtain ⟨blanks, hblanks, hlongest⟩ := exists_longest_blanks (dropBytes n.toNat p.rest)
  obtain ⟨steps, hsteps, hindex, hstart⟩ := p.exists_toStart_eq hrest hspan
  have hpassed := p.toNat_index_pass hrest
  have hwidth : byteWidth dropped ≤ byteWidth p.rest := by
    rw [hrest, byteWidth_append]
    exact Nat.le_add_right _ _
  have hlanding := p.toNat_landing_eq n
  refine ⟨dropped, blanks, (p.pass hrest).pass hblanks, steps, (p.pass hrest).index, ?_, hspan,
    hlongest, rfl, List.append_assoc _ _ _, ?_, hsteps, hstart, hindex, hpassed, ?_,
    fun allowed => ?_, (p.pass hrest).toNat_index_pass hblanks⟩
  · conv => lhs; rw [hrest, hblanks]
    rfl
  · rw [hlanding, p.toNat_index, p.utf8ByteSize_text]
    omega
  · rw [hpassed, p.toNat_index, p.utf8ByteSize_text]
    omega
  · unfold advanceWithin
    rw [hstart]
    split
    · rfl
    · rw [Option.bind_some, ← p.text_pass hrest]
      exact (p.pass hrest).passBlanks_eq hblanks hlongest

/-- One byte on lies inside of a character of three bytes, and two steps lead
out of it; from there the blank is passed. -/
example : advanceWithin 1 "€ x" 0 1 = none ∧ advanceWithin 2 "€ x" 0 1 = some 4 := by
  decide +kernel

end Docket
