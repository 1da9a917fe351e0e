/-
Where moves lead a cursor.  A cursor only moves on: what is left behind a
move is an end of what was left in front of it, and blanks in front are
always skipped.

# Why a cursor never goes back

Every step passes a piece in front and skips the blanks behind it
(`Onward.past`), or it stays.  That also holds of a reader that fails: it
stops behind the last token that it read, and no reader goes back to try
something else, so the place of a failure is further on than the start
(`onward_of_readFilter_error`, by induction on the text left).  Moves then
only lead on, one by one (`onward_act`) and in any number (`onward_after`).

Main statement: after any moves, what is left is an end of the text that
begins with no blank, further moves pass a piece in front of it, and a token
that is not there is looked for without moving.
-/
import Docket.Proofs.Query.Padding
import Docket.Query.Move

namespace Docket

open Cursor

variable {c c' c'' : Cursor} {w k : List Char} {name : FilterName} {kind : ArgKind} {arg : Arg}
  {args : List Arg} {f : Filter} {e : Failure} {move : Move} {input : String}

-- ================================================ statement vocabulary

/-- The number of bytes of a text that a cursor has passed. -/
def Cursor.offset (input : String) (c : Cursor) : Nat :=
  input.utf8ByteSize - c.remaining.utf8ByteSize

/-- The move looks for one token. -/
def Move.isToken : Move → Bool
  | .name | .number | .text | .separator _ => true
  | _ => false

/-- The move found nothing, or it failed. -/
def Reply.isRefusal : Reply → Bool
  | .nothing | .failed _ => true
  | _ => false

/-- `c'` is where `c` is, or further on: an end of the text is left, and no
blank comes in front. -/
structure Cursor.Onward (c c' : Cursor) : Prop where
  suffix : c'.rest <:+ c.rest
  settled : c.Settled → c'.Settled

-- ============================================================ further on

theorem Cursor.Onward.refl (c : Cursor) : Onward c c := ⟨List.suffix_refl c.rest, id⟩

theorem Cursor.Onward.trans (h : Onward c c') (h' : Onward c' c'') : Onward c c'' :=
  ⟨h'.suffix.trans h.suffix, fun hc => h'.settled (h.settled hc)⟩

/-- Behind a piece in front, and the blanks behind it, a cursor is further
on. -/
theorem Cursor.Onward.past (hrest : c.rest = w ++ k) : Onward c ⟨trimStart k⟩ := by
  have hk : k <:+ c.rest := ⟨w, hrest.symm⟩
  exact ⟨(trimStart_suffix k).trans hk, fun _ => settled_trimStart k⟩

theorem Cursor.onward_skip (c : Cursor) : Onward c c.skip :=
  Onward.past (w := []) rfl

/-- However many bytes are dropped, whole characters are. -/
theorem Cursor.onward_advance (c : Cursor) (n : Nat) : Onward c (c.advance n) := by
  obtain ⟨w, hw⟩ := dropBytes_suffix n c.rest
  exact Onward.past hw.symm

-- ================================================================ tokens

theorem Cursor.onward_of_name? {word : String} (h : c.name? = some (word, c')) :
    Onward c c' := by
  obtain ⟨k, hrest, -, rfl⟩ := exists_of_name? h
  exact Onward.past hrest

theorem Cursor.onward_of_digits? (h : c.digits? = some (w, c')) : Onward c c' := by
  obtain ⟨k, hrest, -, rfl⟩ := exists_of_digits? h
  exact Onward.past hrest

theorem Cursor.onward_of_upToClose? {s : String} (h : c.upToClose? = some (s, c')) :
    Onward c c' := by
  obtain ⟨t, k, hrest, -, -, rfl⟩ := exists_of_upToClose? h
  exact ⟨⟨t, hrest.symm⟩, fun _ => outside_cons rfl k⟩

theorem Cursor.onward_of_separator? {ch : Char} (h : c.separator? ch = some c') :
    Onward c c' := by
  obtain ⟨k, hrest, rfl⟩ := exists_of_separator? h
  exact Onward.past (w := [ch]) hrest

-- =============================================================== readers

theorem Cursor.onward_of_readNumber {n : UInt64} (h : c.readNumber = .ok (some (n, c'))) :
    Onward c c' := by
  obtain ⟨ds, hds, -, -⟩ := exists_of_readNumber h
  exact onward_of_digits? hds

theorem Cursor.onward_of_readFilter (h : c.readFilter = .ok (some (f, c'))) : Onward c c' := by
  obtain ⟨w, k, hrest, -, rfl⟩ := derived c f c' h
  exact Onward.past hrest

theorem Cursor.onward_of_readArgument (h : c.readArgument name kind = .ok (arg, c')) :
    Onward c c' := by
  cases kind with
  | string =>
      rw [readArgument_string] at h
      split at h
      · next s place hs =>
        cases h
        exact onward_of_upToClose? hs
      · cases h
  | integer =>
      rw [readArgument_integer] at h
      split at h
      · next n place hn =>
        cases h
        exact onward_of_readNumber hn
      · cases h
      · cases h
  | filter =>
      rw [readArgument_filter] at h
      split at h
      · next f place hf =>
        cases h
        exact onward_of_readFilter hf
      · cases h
      · cases h

/-- A list of arguments that was read is passed. -/
theorem Cursor.onward_of_readArguments : ∀ (kinds : List ArgKind) (first : Bool) (c : Cursor)
    (args : List Arg), c.readArguments name first kinds = .ok (args, c') → Onward c c' := by
  intro kinds
  induction kinds with
  | nil =>
      intro first c args h
      cases first with
      | true =>
          rw [readArguments_none] at h
          cases h
          exact Onward.refl _
      | false =>
          obtain ⟨-, hsep⟩ := exists_of_readArguments_close h
          exact onward_of_separator? hsep
  | cons kind kinds ih =>
      intro first c args h
      obtain ⟨inside, arg, place, rest, hsep, harg, hrest, -⟩ := exists_of_readArguments_cons h
      have hinside := onward_of_separator? hsep
      have hplace := onward_of_readArgument harg
      exact (hinside.trans hplace).trans (ih false place rest hrest)

-- ============================================== readers that fail

/-- A number that does not fit is not passed. -/
theorem Cursor.place_of_readNumber_error (h : c.readNumber = .error e) : e.place = c := by
  obtain ⟨ds, place, -, -, rfl⟩ := exists_of_readNumber_error h
  rfl

/-- Where an expression at `c` fails is further on. -/
def Cursor.FailsOnward (c : Cursor) : Prop :=
  ∀ e, c.readFilter = .error e → Onward c e.place

/-- Where a list of arguments fails is further on, if that holds of the
expressions behind its first separator. -/
theorem Cursor.onward_of_readArguments_error {n : Nat}
    (hn : ∀ c : Cursor, c.size < n → c.FailsOnward) :
    ∀ (kinds : List ArgKind) (first : Bool) (c : Cursor), c.size ≤ n →
      c.readArguments name first kinds = .error e → Onward c e.place := by
  intro kinds
  induction kinds with
  | nil =>
      intro first c hle h
      cases first with
      | true =>
          rw [readArguments_none] at h
          cases h
      | false =>
          obtain ⟨-, rfl⟩ := readArguments_close_error h
          exact Onward.refl c
  | cons kind kinds ih =>
      intro first c hle h
      rcases cases_of_readArguments_error h with ⟨-, rfl⟩ | ⟨inside, hsep, harg⟩
      · exact Onward.refl c
      have hsize := size_of_separator? hsep
      have hinside := onward_of_separator? hsep
      rcases harg with harg | ⟨arg, place, harg, hrest⟩
      · apply hinside.trans
        rcases cases_of_readArgument_error harg with
          ⟨-, -, rfl⟩ | ⟨-, rfl⟩ | hnumber | hfilter
        · exact Onward.refl inside
        · exact Onward.refl inside
        · rw [place_of_readNumber_error hnumber]
          exact Onward.refl inside
        · exact hn inside (by omega) e hfilter
      · have hplace := size_of_readArgument harg
        apply hinside.trans
        apply (onward_of_readArgument harg).trans
        exact ih false place (by omega) hrest

/-- An expression that fails stops where it was met, which is further on. -/
theorem Cursor.onward_of_readFilter_error (c : Cursor) : c.FailsOnward := by
  induction c using induction_behind with
  | step c ih =>
      intro e h
      rcases cases_of_readFilter_error h with hnumber | ⟨word, place, hname, hbehind⟩
      · rw [place_of_readNumber_error hnumber]
        exact Onward.refl c
      have hsize := size_of_name? hname
      apply (onward_of_name? hname).trans
      rcases hbehind with ⟨-, rfl⟩ | ⟨name, -, hargs | ⟨args, last, fault, hargs, -, rfl⟩⟩
      · exact Onward.refl place
      · exact onward_of_readArguments_error (fun c' hc' => ih c' (by omega)) name.params true
          place (Nat.le_refl _) hargs
      · exact onward_of_readArguments name.params true place args hargs

-- ================================================================= moves

theorem Cursor.act_number (c : Cursor) : c.act .number = match c.readNumber with
    | .ok (some (n, place)) => (.number n, place)
    | .ok none => (.nothing, c)
    | .error e => e.reply := by
  simp only [act]
  unfold readNumber
  cases c.number with
  | error e => rfl
  | ok r => cases r <;> rfl

/-- The text in front of a `)` is read where there is one, and missed
elsewhere. -/
theorem Cursor.text_eq (c : Cursor) :
    (∃ s place h, c.upToClose? = some (s, place) ∧ c.text = .ok ⟨s, place, h⟩)
      ∨ (c.upToClose? = none ∧ c.text = .error ⟨.unterminatedString, c⟩) := by
  unfold text
  split
  · next s place h => exact Or.inl ⟨s, place, size_of_upToClose? h, h, rfl⟩
  · next h => exact Or.inr ⟨h, rfl⟩

theorem Cursor.act_text (c : Cursor) : c.act .text = match c.upToClose? with
    | some (s, place) => (.text s, place)
    | none => (.failed .unterminatedString, c) := by
  simp only [act]
  rcases text_eq c with ⟨s, place, hle, h, htext⟩ | ⟨h, htext⟩
  · rw [h, htext]
  · rw [h, htext]
    rfl

theorem Cursor.act_separator (c : Cursor) (ch : Char) :
    c.act (.separator ch) = match c.separator? ch with
      | some place => (.done, place)
      | none => (.failed (.expectedSeparator ch c.peek), c) := by
  simp only [act]
  rcases separator_eq c ch with ⟨place, hle, h, hsep⟩ | ⟨h, hsep⟩
  · rw [h, hsep]
  · rw [h, hsep]
    rfl

theorem Cursor.act_filter (c : Cursor) : c.act .filter = match c.readFilter with
    | .ok (some (f, place)) => (.filter f, place)
    | .ok none => (.nothing, c)
    | .error e => e.reply := by
  simp only [act]
  unfold readFilter
  cases c.filter with
  | error e => rfl
  | ok r => cases r <;> rfl

/-- Every move leads on. -/
theorem Cursor.onward_act (c : Cursor) (move : Move) : Onward c (c.act move).2 := by
  cases move with
  | peek => exact Onward.refl c
  | isEmpty => exact Onward.refl c
  | skip => exact onward_skip c
  | advance n => exact onward_advance c n
  | name =>
      simp only [act]
      split
      · next word place hname => exact onward_of_name? hname
      · exact Onward.refl c
  | number =>
      rw [act_number]
      split
      · next n place hnumber => exact onward_of_readNumber hnumber
      · exact Onward.refl c
      · next e hnumber =>
        show Onward c e.place
        rw [place_of_readNumber_error hnumber]
        exact Onward.refl c
  | text =>
      rw [act_text]
      split
      · next s place hclose => exact onward_of_upToClose? hclose
      · exact Onward.refl c
  | separator ch =>
      rw [act_separator]
      split
      · next place hsep => exact onward_of_separator? hsep
      · exact Onward.refl c
  | filter =>
      rw [act_filter]
      split
      · next f place hfilter => exact onward_of_readFilter hfilter
      · exact Onward.refl c
      · next e hfilter => exact onward_of_readFilter_error c e hfilter

/-- Moves lead on, however many. -/
theorem Cursor.onward_after (c : Cursor) (moves : List Move) : Onward c (c.after moves) := by
  induction moves generalizing c with
  | nil => exact Onward.refl c
  | cons move moves ih => exact (onward_act c move).trans (ih (c.act move).2)

/-- A cursor stays where it is when the token it looks for is not there. -/
theorem Cursor.act_of_refusal (htoken : move.isToken = true)
    (hrefusal : (c.act move).1.isRefusal = true) : (c.act move).2 = c := by
  cases move with
  | peek => cases htoken
  | isEmpty => cases htoken
  | skip => cases htoken
  | advance n => cases htoken
  | filter => cases htoken
  | name =>
      simp only [act] at hrefusal ⊢
      split at hrefusal
      · cases hrefusal
      · rfl
  | number =>
      rw [act_number] at hrefusal ⊢
      split at hrefusal
      · cases hrefusal
      · rfl
      · next e hnumber => exact place_of_readNumber_error hnumber
  | text =>
      rw [act_text] at hrefusal ⊢
      split at hrefusal
      · cases hrefusal
      · rfl
  | separator ch =>
      rw [act_separator] at hrefusal ⊢
      split at hrefusal
      · cases hrefusal
      · rfl

-- ================================================================ places

/-- What stands in front of the rest of a text are the bytes that a cursor
has passed. -/
theorem Cursor.offset_of_front {front : String} (h : input = front ++ c.remaining) :
    c.offset input = front.utf8ByteSize := by
  have hsize : input.utf8ByteSize = front.utf8ByteSize + c.remaining.utf8ByteSize := by
    rw [h, String.utf8ByteSize_append]
  unfold offset
  omega

/-- A cursor starts behind the blanks in front of its text. -/
theorem Cursor.exists_front_ofString (input : String) :
    ∃ front, input = front ++ (Cursor.ofString input).remaining := by
  have hsplit := takeWhile_append_trimStart input.toList
  refine ⟨String.ofList (input.toList.takeWhile isBlank), ?_⟩
  show input = _ ++ String.ofList (trimStart input.toList)
  rw [← String.ofList_append, hsplit, String.ofList_toList]

/-- A place further on is behind a piece of the text. -/
theorem Cursor.Onward.exists_passed (h : Onward c c') :
    ∃ passed, c.remaining = passed ++ c'.remaining := by
  obtain ⟨w, hw⟩ := h.suffix
  refine ⟨String.ofList w, ?_⟩
  unfold remaining
  rw [← hw, String.ofList_append]

/-- All moves lead to places in the text. -/
theorem Cursor.exists_front_after (input : String) (moves : List Move) :
    ∃ front, input = front ++ ((Cursor.ofString input).after moves).remaining := by
  obtain ⟨front, hfront⟩ := exists_front_ofString input
  obtain ⟨passed, hpassed⟩ := (onward_after (Cursor.ofString input) moves).exists_passed
  refine ⟨front ++ passed, ?_⟩
  rw [String.append_assoc, ← hpassed]
  exact hfront

theorem Cursor.isEmpty_eq (c : Cursor) : c.isEmpty = decide (c.remaining = "") := by
  obtain ⟨cs⟩ := c
  cases cs with
  | nil => rfl
  | cons ch cs => simp [isEmpty, remaining]

/-- Behind any moves, be they good, idle or failures, a cursor stands in its
text: what is left is an end of the text that starts at a whole character
and with no blank, and the offset is that of its start.  Looking at the
cursor shows that end.  Further moves pass a piece in front of it, so the
offset never goes back, and a token that is not there is looked for without
moving. -/
theorem cursor_only_moves_on (input : String) (moves : List Move) :
    let c := (Cursor.ofString input).after moves
    (∃ front, input = front ++ c.remaining ∧ c.offset input = front.utf8ByteSize)
      ∧ String.Pos.Raw.IsValid input ⟨c.offset input⟩
      ∧ c.offset input ≤ input.utf8ByteSize
      ∧ (∀ ch ∈ c.remaining.toList.head?, isBlank ch = false)
      ∧ c.act .isEmpty = (.truth (decide (c.remaining = "")), c)
      ∧ c.act .peek = (c.remaining.toList.head?.elim .nothing .character, c)
      ∧ (∀ more, ∃ passed, c.remaining = passed ++ (c.after more).remaining
        ∧ (c.after more).offset input = c.offset input + passed.utf8ByteSize)
      ∧ ∀ move, move.isToken = true → (c.act move).1.isRefusal = true → (c.act move).2 = c := by
  intro c
  obtain ⟨front, hfront⟩ := exists_front_after input moves
  have hoffset : c.offset input = front.utf8ByteSize := offset_of_front hfront
  have hsettled : c.Settled :=
    (onward_after (Cursor.ofString input) moves).settled (settled_trimStart input.toList)
  have hrest : c.remaining.toList = c.rest := String.toList_ofList
  refine ⟨⟨front, hfront, hoffset⟩, ?_, Nat.sub_le _ _, ?_, ?_, ?_, fun more => ?_,
    fun move htoken hrefusal => act_of_refusal htoken hrefusal⟩
  · rw [String.Pos.Raw.isValid_iff_exists_append]
    refine ⟨front, c.remaining, hfront, ?_⟩
    rw [hoffset]
    rfl
  · rw [hrest]
    exact hsettled
  · show (Reply.truth c.isEmpty, c) = _
    rw [isEmpty_eq]
  · rw [hrest]
    rfl
  · obtain ⟨passed, hpassed⟩ := (onward_after c more).exists_passed
    have hbehind : input = (front ++ passed) ++ (c.after more).remaining := by
      rw [String.append_assoc, ← hpassed]
      exact hfront
    refine ⟨passed, hpassed, ?_⟩
    rw [offset_of_front hbehind, hoffset, String.utf8ByteSize_append]

/-- A text with a character of two bytes, and moves of which the first one
ends inside of it, the second finds nothing and the last one fails. -/
def brokenMoves : String × List Move :=
  (" é(x label(", [.advance 1, .filter, .separator '(', .filter])

/-- The last move fails behind the name that it does not know. -/
theorem after_brokenMoves :
    (Cursor.ofString brokenMoves.1).after brokenMoves.2
      = ⟨['l', 'a', 'b', 'e', 'l', '(']⟩ := by
  have hadvance : ((Cursor.ofString brokenMoves.1).act (.advance 1)).2
      = ⟨['(', 'x', ' ', 'l', 'a', 'b', 'e', 'l', '(']⟩ := by decide
  have hnothing : ((⟨['(', 'x', ' ', 'l', 'a', 'b', 'e', 'l', '(']⟩ : Cursor).act .filter).2
      = ⟨['(', 'x', ' ', 'l', 'a', 'b', 'e', 'l', '(']⟩ := by
    rw [act_filter, readFilter_eq_none_iff.2 ⟨by decide, by decide⟩]
  have hopen : ((⟨['(', 'x', ' ', 'l', 'a', 'b', 'e', 'l', '(']⟩ : Cursor).act
      (.separator '(')).2 = ⟨['x', ' ', 'l', 'a', 'b', 'e', 'l', '(']⟩ := by
    rw [act_separator, separator?_cons]
    rfl
  have hname : (⟨['x', ' ', 'l', 'a', 'b', 'e', 'l', '(']⟩ : Cursor).name?
      = some ("x", ⟨['l', 'a', 'b', 'e', 'l', '(']⟩) := by decide
  have hunknown : ((⟨['x', ' ', 'l', 'a', 'b', 'e', 'l', '(']⟩ : Cursor).act .filter).2
      = ⟨['l', 'a', 'b', 'e', 'l', '(']⟩ := by
    rw [act_filter, readFilter_eq, hname]
    rfl
  show ((((((Cursor.ofString brokenMoves.1).act (.advance 1)).2.act .filter).2.act
    (.separator '(')).2).act .filter).2 = _
  rw [hadvance, hnothing, hopen, hunknown]

/-- Behind these moves six of the twelve bytes are passed; no number is
there, and looking for one leaves the cursor in front of the letter. -/
theorem cursor_only_moves_on_broken :
    (Cursor.ofString brokenMoves.1).after brokenMoves.2 = ⟨['l', 'a', 'b', 'e', 'l', '(']⟩
      ∧ ((Cursor.ofString brokenMoves.1).after brokenMoves.2).offset brokenMoves.1 = 6
      ∧ 'l' ∈ ((Cursor.ofString brokenMoves.1).after brokenMoves.2).remaining.toList.head?
      ∧ isBlank 'l' = false
      ∧ Move.isToken .number = true
      ∧ (((Cursor.ofString brokenMoves.1).after brokenMoves.2).act .number).1.isRefusal = true
      ∧ (((Cursor.ofString brokenMoves.1).after brokenMoves.2).act .number).2
        = (Cursor.ofString brokenMoves.1).after brokenMoves.2 := by
  have hrefusal : (((Cursor.ofString brokenMoves.1).after brokenMoves.2).act .number).1.isRefusal
      = true := by
    rw [after_brokenMoves, act_number, readNumber_eq_none_iff.2 (by decide)]
    rfl
  have hhead : 'l' ∈ ((Cursor.ofString brokenMoves.1).after brokenMoves.2).remaining.toList.head? := by
    rw [after_brokenMoves]
    decide
  obtain ⟨-, -, -, hblank, -, -, -, hstays⟩ := cursor_only_moves_on brokenMoves.1 brokenMoves.2
  refine ⟨after_brokenMoves, ?_, hhead, hblank 'l' hhead, rfl, hrefusal,
    hstays .number rfl hrefusal⟩
  rw [after_brokenMoves]
  decide

end Docket
