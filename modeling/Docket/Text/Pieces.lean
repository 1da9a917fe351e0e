/-
Texts cut into pieces at every occurrence of one character.  There is
always at least one piece, and empty pieces count.

Main statements: putting the pieces together again gives the text; a text
in front of the character is cut on its own; there is one piece more than
there are cuts.
-/

namespace Docket

/-- The pieces of a text between the occurrences of `sep`. -/
def pieces (sep : Char) : List Char → List (List Char)
  | [] => [[]]
  | c :: cs =>
    if c = sep then [] :: pieces sep cs
    else
      match pieces sep cs with
      | [] => [[c]]
      | part :: parts => (c :: part) :: parts

/-- Pieces with `sep` between them. -/
def glue (sep : Char) : List (List Char) → List Char
  | [] => []
  | [part] => part
  | part :: parts => part ++ sep :: glue sep parts

/-- There is always a first piece. -/
theorem pieces_ne_nil (sep : Char) (cs : List Char) : pieces sep cs ≠ [] := by
  cases cs with
  | nil => simp [pieces]
  | cons c cs =>
    simp only [pieces]
    split
    · simp
    · split <;> simp

/-- Putting the pieces together again gives the text. -/
theorem glue_pieces (sep : Char) (cs : List Char) : glue sep (pieces sep cs) = cs := by
  induction cs with
  | nil => rfl
  | cons c cs ih =>
    simp only [pieces]
    cases hs : pieces sep cs with
    | nil => exact absurd hs (pieces_ne_nil sep cs)
    | cons part parts =>
      rw [hs] at ih
      split
      · next hc => rw [hc, ← ih]; rfl
      · next hc =>
        rw [← ih]
        cases parts with
        | nil => rfl
        | cons p ps => rfl

/-- A text that does not hold the character is one piece. -/
theorem pieces_of_not_mem {sep : Char} {cs : List Char} (h : sep ∉ cs) :
    pieces sep cs = [cs] := by
  induction cs with
  | nil => rfl
  | cons c cs ih =>
    simp only [List.mem_cons, not_or] at h
    simp only [pieces]
    rw [if_neg (Ne.symm h.1), ih h.2]

/-- A text in front of the character is cut on its own. -/
theorem pieces_append_sep (sep : Char) (cs rest : List Char) :
    pieces sep (cs ++ sep :: rest) = pieces sep cs ++ pieces sep rest := by
  induction cs with
  | nil => simp [pieces]
  | cons c cs ih =>
    rw [List.cons_append, pieces, pieces, ih]
    by_cases hc : c = sep
    · rw [if_pos hc, if_pos hc, List.cons_append]
    · rw [if_neg hc, if_neg hc]
      cases hs : pieces sep cs with
      | nil => exact absurd hs (pieces_ne_nil sep cs)
      | cons part parts => rfl

/-- A text in front of the character is the first piece. -/
theorem pieces_append_cons {sep : Char} {cs : List Char} (h : sep ∉ cs) (rest : List Char) :
    pieces sep (cs ++ sep :: rest) = cs :: pieces sep rest := by
  rw [pieces_append_sep, pieces_of_not_mem h, List.singleton_append]

/-- There is one piece more than there are cuts. -/
theorem length_pieces (sep : Char) (cs : List Char) :
    (pieces sep cs).length = cs.count sep + 1 := by
  induction cs with
  | nil => rfl
  | cons c cs ih =>
    rw [pieces, List.count_cons]
    by_cases hc : c = sep
    · simp [hc, ih]
    · rw [if_neg hc]
      cases hs : pieces sep cs with
      | nil => exact absurd hs (pieces_ne_nil sep cs)
      | cons part parts =>
        rw [hs] at ih
        simpa [hc] using ih

/-- The pieces of texts that each end in the character are those of each
text, and an empty one at the end. -/
theorem pieces_flatMap_ended (sep : Char) (texts : List (List Char)) :
    pieces sep (texts.flatMap fun cs => cs ++ [sep]) = texts.flatMap (pieces sep) ++ [[]] := by
  induction texts with
  | nil => rfl
  | cons cs texts ih =>
    rw [List.flatMap_cons, List.append_assoc, List.singleton_append, pieces_append_sep, ih,
      List.flatMap_cons, List.append_assoc]

/-- Behind the first piece, every piece comes with the character in front. -/
theorem glue_cons (sep : Char) (part : List Char) (parts : List (List Char)) :
    glue sep (part :: parts) = part ++ parts.flatMap (sep :: ·) := by
  induction parts generalizing part with
  | nil => simp [glue]
  | cons next parts ih =>
    rw [glue, ih next, List.flatMap_cons, List.cons_append]
    intro h
    cases h

/-- Pieces hold no other characters than the text. -/
theorem mem_of_mem_pieces {sep c : Char} {cs part : List Char} (hpart : part ∈ pieces sep cs)
    (hc : c ∈ part) : c ∈ cs := by
  rw [← glue_pieces sep cs]
  generalize pieces sep cs = parts at hpart
  induction parts with
  | nil => cases hpart
  | cons first parts ih =>
    rw [glue_cons, List.mem_append]
    rcases List.mem_cons.1 hpart with rfl | hpart
    · exact Or.inl hc
    · exact Or.inr (List.mem_flatMap.2 ⟨part, hpart, List.mem_cons_of_mem _ hc⟩)

end Docket
