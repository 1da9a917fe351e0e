/-
Blank characters and trimming.  A character is blank when it carries the
Unicode property White_Space; queries, timestamps, shell lines and help
texts all agree on that one class.  Texts are handled as character lists
here, so that a trimmed text is a plain `dropWhile` at either end.

Main statements: trimming at the front is idempotent, never leaves a
blank in front, and splits the text into a blank run and the rest.
-/

namespace Docket

/-- The Unicode property White_Space. -/
def isBlank (c : Char) : Bool :=
  let n := c.toNat
  (0x09 ≤ n && n ≤ 0x0D) || n == 0x20 || n == 0x85 || n == 0xA0
    || n == 0x1680 || (0x2000 ≤ n && n ≤ 0x200A) || n == 0x2028
    || n == 0x2029 || n == 0x202F || n == 0x205F || n == 0x3000

/-- Drop the blanks in front. -/
def trimStart (cs : List Char) : List Char := cs.dropWhile isBlank

/-- Drop the blanks at the end. -/
def trimEnd (cs : List Char) : List Char := (trimStart cs.reverse).reverse

/-- Drop the blanks at both ends. -/
def trim (cs : List Char) : List Char := trimEnd (trimStart cs)

/-- `trim` on a string. -/
def trimText (s : String) : String := String.ofList (trim s.toList)

-- ============================================== trimming at the front

/-- Trimming at the front never lengthens a text. -/
theorem length_trimStart_le (cs : List Char) :
    (trimStart cs).length ≤ cs.length :=
  (List.dropWhile_sublist _).length_le

/-- A text is its leading blanks followed by its trimmed rest. -/
theorem takeWhile_append_trimStart (cs : List Char) :
    cs.takeWhile isBlank ++ trimStart cs = cs :=
  List.takeWhile_append_dropWhile

/-- What trimming at the front leaves is a suffix of the text. -/
theorem trimStart_suffix (cs : List Char) : trimStart cs <:+ cs :=
  List.dropWhile_suffix _

/-- A text that does not start with a blank is left alone. -/
theorem trimStart_eq_self {cs : List Char}
    (h : ∀ c ∈ cs.head?, isBlank c = false) : trimStart cs = cs := by
  cases cs with
  | nil => rfl
  | cons c cs => simp [trimStart, h c rfl]

/-- After trimming, no blank is in front. -/
theorem head?_trimStart {cs : List Char} {c : Char}
    (h : (trimStart cs).head? = some c) : isBlank c = false := by
  induction cs with
  | nil => simp [trimStart] at h
  | cons d cs ih =>
    cases hd : isBlank d with
    | true =>
      refine ih ?_
      simpa [trimStart, List.dropWhile_cons, hd] using h
    | false =>
      have hcd : d = c := by
        simpa [trimStart, List.dropWhile_cons, hd] using h
      exact hcd ▸ hd

/-- Trimming twice is trimming once. -/
theorem trimStart_trimStart (cs : List Char) :
    trimStart (trimStart cs) = trimStart cs :=
  trimStart_eq_self fun _ h => head?_trimStart h

/-- Blanks put in front are trimmed away. -/
theorem trimStart_append_of_blank {bs : List Char}
    (h : ∀ c ∈ bs, isBlank c = true) (cs : List Char) :
    trimStart (bs ++ cs) = trimStart cs := by
  induction bs with
  | nil => rfl
  | cons b bs ih =>
    have hb : isBlank b = true := h b (List.mem_cons_self ..)
    have hbs := ih fun c hc => h c (List.mem_cons_of_mem _ hc)
    simpa [trimStart, List.dropWhile_cons, hb] using hbs

-- ====================================================== splitting words

/-- The maximal blank-free pieces of a text, in order. -/
def words (cs : List Char) : List (List Char) :=
  match _h : trimStart cs with
  | [] => []
  | c :: rest =>
    (c :: rest).takeWhile (fun d => !isBlank d)
      :: words ((c :: rest).dropWhile (fun d => !isBlank d))
termination_by cs.length
decreasing_by
  have hc : isBlank c = false := head?_trimStart (by rw [_h]; rfl)
  have hle : (c :: rest).length ≤ cs.length := _h ▸ length_trimStart_le cs
  have hdrop : ((c :: rest).dropWhile (fun d => !isBlank d)).length
      ≤ rest.length := by
    rw [List.dropWhile_cons]
    simpa [hc] using (List.dropWhile_sublist _).length_le
  simp only [List.length_cons] at hle
  omega

end Docket
