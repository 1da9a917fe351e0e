/-
What a reader finds: a value at the front of a text, with the text behind
it.  That text is always shorter, so that readers may call each other on
what is left until nothing is.  A reader that may skip nothing at all
gives back a rest, which is not longer.
-/

namespace Docket

/-- Something read from the front of a text, and the text behind it. -/
structure Found (α : Type) (start : List Char) where
  value : α
  rest : List Char
  shorter : rest.length < start.length

/-- What is left of a text, which may be all of it. -/
abbrev Rest (start : List Char) := { rest : List Char // rest.length ≤ start.length }

namespace Rest

/-- All of a text. -/
def whole (cs : List Char) : Rest cs := ⟨cs, Nat.le_refl _⟩

/-- A text without the longest run of characters of one kind in front. -/
def past (skipped : Char → Bool) (cs : List Char) : Rest cs :=
  ⟨cs.dropWhile skipped, (List.dropWhile_sublist _).length_le⟩

/-- What is left behind a place is left behind every earlier place. -/
def since {start mid : List Char} (rest : Rest mid) (h : mid.length ≤ start.length) :
    Rest start :=
  let ⟨left, hleft⟩ := rest
  ⟨left, Nat.le_trans hleft h⟩

end Rest

namespace Found

variable {α β : Type} {start mid : List Char}

/-- What was found behind a place was found behind every earlier place. -/
def since (found : Found α mid) (h : mid.length ≤ start.length) : Found α start :=
  ⟨found.value, found.rest, Nat.lt_of_lt_of_le found.shorter h⟩

/-- The text behind what was found. -/
def behind (found : Found α start) : Rest start := ⟨found.rest, Nat.le_of_lt found.shorter⟩

/-- Change what was found. -/
def map (f : α → β) (found : Found α start) : Found β start :=
  ⟨f found.value, found.rest, found.shorter⟩

end Found

/-- Read a spelling that is known beforehand and not empty. -/
def spelled? (spelling cs : List Char) : Option (Found Unit cs) :=
  if h : 0 < spelling.length ∧ 0 < cs.length ∧ spelling.isPrefixOf cs then
    some ⟨(), cs.drop spelling.length, by simp only [List.length_drop]; omega⟩
  else none

end Docket
