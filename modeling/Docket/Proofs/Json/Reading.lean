/-
What the readers of JSON find, piece by piece: tokens behind spacing,
string literals as they are written, numerals, and the lists of items and
members.  Each lemma says what a reader finds in front of a text that is
left as it is, so that they compose along what was written.

Main statements: a written string literal spells its text; a numeral in
front of a character that goes on with no number is its number; and how
items and members are found one after the other.
-/
import Docket.Json.Reader
import Docket.Json.Writer
import Docket.Proofs.Text.Longest

namespace Docket

/-- The reader finds `a` and leaves `rest`. -/
def Finds {α : Type} {cs : List Char} (found : Option (Found α cs)) (a : α)
    (rest : List Char) : Prop := ∃ h, found = some ⟨a, rest, h⟩

namespace Json

variable {w k cs rest inside place : List Char} {c d : Char} {v : Json}

-- ============================================================== spacing

/-- A run of spacing, which may be empty. -/
def IsSpacing (w : List Char) : Prop := ∀ c ∈ w, isSpacing c = true

/-- Spacing in front is skipped. -/
theorem skipSpacing_append (hw : IsSpacing w) (hd : isSpacing d = false) (k : List Char) :
    skipSpacing (w ++ d :: k) = d :: k := by
  unfold skipSpacing
  rw [List.dropWhile_append_of_pos hw, List.dropWhile_cons, hd]
  rfl

/-- A layout puts spacing in front of its items. -/
theorem isSpacing_start (layout : Layout) : IsSpacing layout.start := by
  intro c hc
  cases layout with
  | line => cases hc
  | indented level =>
      rcases List.mem_cons.1 hc with rfl | hc
      · rfl
      · rw [(List.mem_replicate.1 hc).2]
        rfl

/-- A token is found behind spacing. -/
theorem finds_token (hw : IsSpacing w) (hc : isSpacing c = false) (k : List Char) :
    Finds (token c (w ++ c :: k)) () k := by
  have hskip := skipSpacing_append hw hc k
  unfold token
  dsimp only
  split
  · next e r h =>
    obtain ⟨rfl, rfl⟩ := List.cons.inj (hskip.symm.trans h)
    rw [if_pos rfl]
    exact ⟨_, rfl⟩
  · next h =>
    rw [hskip] at h
    cases h

/-- Another character is no token. -/
theorem token_eq_none (hw : IsSpacing w) (hd : isSpacing d = false) (hne : d ≠ c)
    (k : List Char) : token c (w ++ d :: k) = none := by
  have hskip := skipSpacing_append hw hd k
  unfold token
  dsimp only
  split
  · next e r h =>
    obtain ⟨rfl, rfl⟩ := List.cons.inj (hskip.symm.trans h)
    exact if_neg hne
  · rfl

-- ====================================================== string literals

/-- A hexadecimal digit that was written has its value. -/
theorem hexValue?_hexDigit : ∀ n < 16, hexValue? (hexDigit n) = some n := by
  decide

/-- The escape of a control character stands for it. -/
theorem unitPiece?_control (hc : c.toNat < 32) :
    unitPiece? '0' '0' (hexDigit (c.toNat / 16)) (hexDigit (c.toNat % 16))
      = some (.char c) := by
  have hzero : hexValue? '0' = some 0 := by decide
  have hhigh := hexValue?_hexDigit (c.toNat / 16) (by omega)
  have hlow := hexValue?_hexDigit (c.toNat % 16) (by omega)
  have hvalue : 16 * (c.toNat / 16) + c.toNat % 16 = c.toNat := by omega
  have hhex : hexadecimal? ['0', '0', hexDigit (c.toNat / 16), hexDigit (c.toNat % 16)]
      = some c.toNat := by
    simp [hexadecimal?, hzero, hhigh, hlow, hvalue]
  unfold unitPiece?
  rw [hhex]
  show (if 0xD800 ≤ c.toNat ∧ c.toNat < 0xE000 then some (Piece.unit c.toNat)
    else some (Piece.char (Char.ofNat c.toNat))) = _
  rw [if_neg (by omega), Char.ofNat_toNat]

/-- A character that was written is read as itself. -/
theorem readPieces_escapeChar (c : Char) (k : List Char) :
    readPieces (escapeChar c ++ k) = (readPieces k).map fun r => (.char c :: r.1, r.2) := by
  have hletter : ∀ e, e ≠ 'u' → escaped? e = some c →
      readPieces ('\\' :: e :: k) = (readPieces k).map fun r => (.char c :: r.1, r.2) := by
    intro e he hescaped
    rw [readPieces]
    · rw [hescaped]
      cases readPieces k <;> rfl
    · rintro a b c' d r rfl
      exact absurd rfl he
  unfold escapeChar
  split
  · next h => exact hletter '"' (by decide) (by rw [h]; rfl)
  split
  · next h => exact hletter '\\' (by decide) (by rw [h]; rfl)
  split
  · next h => exact hletter 'b' (by decide) (by rw [h]; rfl)
  split
  · next h => exact hletter 'f' (by decide) (by rw [h]; rfl)
  split
  · next h => exact hletter 'n' (by decide) (by rw [h]; rfl)
  split
  · next h => exact hletter 'r' (by decide) (by rw [h]; rfl)
  split
  · next h => exact hletter 't' (by decide) (by rw [h]; rfl)
  split
  · next h =>
    simp only [List.cons_append, List.nil_append]
    rw [readPieces, unitPiece?_control h]
    cases readPieces k <;> rfl
  · next hquote hslash _ _ _ _ _ hcontrol =>
    rw [List.singleton_append, readPieces]
    · rw [if_neg hcontrol]
      cases readPieces k <;> rfl
    · exact fun h => hquote h
    · exact fun _ _ _ _ _ h => absurd h hslash
    · exact fun _ _ h => absurd h hslash

/-- A text that was written is read as its characters. -/
theorem readPieces_flatMap (cs k : List Char) :
    readPieces (cs.flatMap escapeChar ++ '"' :: k) = some (cs.map Piece.char, k) := by
  induction cs with
  | nil => simp [readPieces]
  | cons c cs ih =>
      rw [List.flatMap_cons, List.append_assoc, readPieces_escapeChar, ih]
      rfl

/-- Characters spell the text that they make up. -/
theorem joinPieces_map (cs : List Char) : joinPieces (cs.map Piece.char) = some cs := by
  induction cs with
  | nil => rfl
  | cons c cs ih =>
      rw [List.map_cons, joinPieces, ih]
      rfl

/-- Behind its opening quote, a written string literal spells its text. -/
theorem finds_stringTail (s : String) (k : List Char) :
    Finds (stringTail (s.toList.flatMap escapeChar ++ '"' :: k)) (some s) k := by
  have hpieces := readPieces_flatMap s.toList k
  unfold stringTail
  split
  · next pieces rest h =>
    obtain ⟨rfl, rfl⟩ := Prod.mk.inj (Option.some.inj (hpieces.symm.trans h))
    simp only [joinPieces_map, Option.map_some, String.ofList_toList]
    exact ⟨_, rfl⟩
  · next h =>
    rw [hpieces] at h
    cases h

-- ============================================================= numerals

/-- No number goes on into the text. -/
def EndsNumber (k : List Char) : Prop :=
  ∀ c ∈ k.head?, isDigit c = false ∧ c ≠ '.' ∧ c ≠ 'e' ∧ c ≠ 'E'

/-- A numeral is a number by the rules of JSON, and goes no further. -/
theorem numberOf?_numeral (n : Nat) (hk : EndsNumber k) :
    numberOf? (Docket.numeral n ++ k) = some (Docket.numeral n) := by
  have hall := isDigit_of_mem_numeral n
  have hne := numeral_ne_nil n
  have hwhole : (Docket.numeral n ++ k).takeWhile isDigit = Docket.numeral n :=
    takeWhile_run hall fun c hc => (hk c hc).1
  have hsign : ((Docket.numeral n ++ k).take 1).filter (· == '-') = [] := by
    rw [List.filter_eq_nil_iff]
    intro c hc hminus
    obtain ⟨d, ds, hds, hd⟩ := exists_numeral_eq_cons n
    rw [hds] at hc
    obtain rfl : c = d := by simpa using hc
    rw [beq_iff_eq.1 hminus] at hd
    cases hd
  have hzero : ((Docket.numeral n).length > 1 && (Docket.numeral n).head? == some '0') = false := by
    by_cases hn : 10 ≤ n
    · have h := head?_numeral hn
      simp [h]
    · rw [Docket.numeral, if_pos (by omega)]
      rfl
  have hfraction : fractionOf? k = some [] := by
    unfold fractionOf?
    split
    · next rest => exact absurd rfl (hk '.' rfl).2.1
    · rfl
  have hexponent : exponentOf? k = some [] := by
    unfold exponentOf?
    split
    · rfl
    · next e rest =>
      have he := hk e rfl
      exact if_neg (by simp [he])
  unfold numberOf?
  simp only [hsign, List.length_nil, List.drop_zero, hwhole, hzero, Bool.or_false,
    List.isEmpty_eq_false_iff.2 hne, Bool.false_eq_true, if_false, List.drop_left, hfraction,
    hexponent, Option.bind_eq_bind, Option.bind_some, List.nil_append, List.append_nil]

/-- A numeral is read as its number. -/
theorem finds_number (n : Nat) (hk : EndsNumber k) :
    Finds (number (Docket.numeral n ++ k)) (natural n) k := by
  have hpos := List.length_pos_iff.2 (numeral_ne_nil n)
  have hvalue : ofNumber (Docket.numeral n) = natural n := by
    unfold ofNumber
    rw [if_pos (List.all_eq_true.2 (isDigit_of_mem_numeral n)), decimal_numeral]
  unfold number
  rw [numberOf?_numeral n hk]
  dsimp only
  rw [dif_pos ⟨hpos, by rw [List.length_append]; omega⟩]
  simp only [hvalue, List.drop_left]
  exact ⟨_, rfl⟩

-- ============================================================== scalars

/-- A spelling in front is read. -/
theorem finds_spelled? (hw : w ≠ []) (k : List Char) : Finds (spelled? w (w ++ k)) () k := by
  have hpos := List.length_pos_iff.2 hw
  unfold spelled?
  rw [dif_pos ⟨hpos, by rw [List.length_append]; omega, by simp⟩]
  simp only [List.drop_left]
  exact ⟨_, rfl⟩

/-- A word that stands for a value is read as it. -/
theorem finds_word (hw : w ≠ []) (v : Json) (k : List Char) :
    Finds (word w v (w ++ k)) v k := by
  obtain ⟨h, hfound⟩ := finds_spelled? hw k
  unfold word
  rw [hfound]
  exact ⟨h, rfl⟩

/-- A written string literal is read as its text. -/
theorem finds_string (s : String) (k : List Char) :
    Finds (scalar (writeString (some s) ++ k)) (text s) k := by
  obtain ⟨h, hfound⟩ := finds_stringTail s k
  have hwritten : writeString (some s) ++ k
      = '"' :: (s.toList.flatMap escapeChar ++ '"' :: k) := by simp [writeString]
  rw [hwritten, scalar, hfound]
  exact ⟨_, rfl⟩

/-- A numeral is read as a number among scalars. -/
theorem finds_numeral (n : Nat) (hk : EndsNumber k) :
    Finds (scalar (Docket.numeral n ++ k)) (natural n) k := by
  obtain ⟨d, ds, hds, hd⟩ := exists_numeral_eq_cons n
  have hscalar : scalar (Docket.numeral n ++ k) = number (Docket.numeral n ++ k) := by
    rw [hds, List.cons_append]
    -- a digit begins neither a literal nor a word
    rw [scalar]
    all_goals
      intro rest h
      rw [(List.cons.inj h).1] at hd
      cases hd
  rw [hscalar]
  exact finds_number n hk

-- ======================================================= lists of things

/-- A scalar is found behind spacing. -/
theorem finds_readValue_scalar (hw : IsSpacing w) (hc : isSpacing c = false) (hopen : c ≠ '[')
    (hbrace : c ≠ '\x7b') (h : Finds (scalar (c :: cs)) v rest) :
    Finds (readValue (w ++ c :: cs)) v rest := by
  obtain ⟨hshort, hfound⟩ := h
  have hskip := skipSpacing_append hw hc cs
  have hsince : ∀ mid, mid = c :: cs → ∀ hle : mid.length ≤ (w ++ c :: cs).length,
      Finds ((scalar mid).map fun found => found.since hle) v rest := by
    rintro _ rfl hle
    rw [hfound]
    exact ⟨_, rfl⟩
  rw [readValue, token_eq_none hw hc hopen, token_eq_none hw hc hbrace]
  exact hsince _ hskip _

/-- An array is found where its items are, behind its bracket. -/
theorem finds_readValue_array {items : List Json} (hw : IsSpacing w)
    (h : Finds (readItems true inside) items rest) :
    Finds (readValue (w ++ '[' :: inside)) (array items) rest := by
  obtain ⟨hitems, hfound⟩ := h
  obtain ⟨hopen, htoken⟩ := finds_token hw (c := '[') rfl inside
  rw [readValue, htoken]
  dsimp only
  rw [hfound]
  exact ⟨_, rfl⟩

/-- An object is found where its members are, behind its brace. -/
theorem finds_readValue_object {members : List (Option String × Json)} (hw : IsSpacing w)
    (h : Finds (readMembers true inside) members rest) :
    Finds (readValue (w ++ '\x7b' :: inside)) (object members) rest := by
  obtain ⟨hmembers, hfound⟩ := h
  obtain ⟨hopen, htoken⟩ := finds_token hw (c := '\x7b') rfl inside
  rw [readValue, token_eq_none hw (by decide) (by decide), htoken]
  dsimp only
  rw [hfound]
  exact ⟨_, rfl⟩

variable {item : Json} {items : List Json} {name : Option String}
  {members : List (Option String × Json)} {middle : List Char}

/-- The items of an array end at its bracket. -/
theorem finds_items_close (hw : IsSpacing w) (first : Bool) (k : List Char) :
    Finds (readItems first (w ++ ']' :: k)) [] k := by
  obtain ⟨hclose, htoken⟩ := finds_token hw (c := ']') rfl k
  rw [readItems, htoken]
  exact ⟨_, rfl⟩

/-- The first item has nothing in front of it. -/
theorem finds_items_first (hclose : token ']' cs = none) (hitem : Finds (readValue cs) item place)
    (hitems : Finds (readItems false place) items rest) :
    Finds (readItems true cs) (item :: items) rest := by
  obtain ⟨hplace, hitem⟩ := hitem
  obtain ⟨hrest, hitems⟩ := hitems
  rw [readItems, hclose]
  show Finds ((readValue cs).bind _) _ _
  rw [hitem]
  show Finds ((readItems false place).bind _) _ _
  rw [hitems]
  exact ⟨_, rfl⟩

/-- Each further item has a comma in front of it. -/
theorem finds_items_next (hitem : Finds (readValue cs) item place)
    (hitems : Finds (readItems false place) items rest) :
    Finds (readItems false (',' :: cs)) (item :: items) rest := by
  obtain ⟨hplace, hitem⟩ := hitem
  obtain ⟨hrest, hitems⟩ := hitems
  have hspacing : IsSpacing [] := nofun
  obtain ⟨hcomma, htoken⟩ : Finds (token ',' (',' :: cs)) () cs := finds_token hspacing rfl cs
  have hclose : token ']' (',' :: cs) = none :=
    token_eq_none hspacing (d := ',') rfl (by decide) cs
  have hnext : nextItem false (',' :: cs) = some ⟨cs, Nat.le_of_lt hcomma⟩ := by
    show (token ',' (',' :: cs)).map Found.behind = _
    rw [htoken]
    rfl
  rw [readItems, hclose]
  show Finds ((nextItem false (',' :: cs)).bind _) _ _
  rw [hnext]
  show Finds ((readValue cs).bind _) _ _
  rw [hitem]
  show Finds ((readItems false place).bind _) _ _
  rw [hitems]
  exact ⟨_, rfl⟩

/-- A written name and a colon behind it are found. -/
theorem finds_memberName (hw : IsSpacing w) (s : String) (k : List Char) :
    Finds (memberName (w ++ (writeString (some s) ++ ':' :: k))) (some s) k := by
  have hspacing : IsSpacing [] := nofun
  obtain ⟨hquote, htoken⟩ := finds_token hw (c := '"') rfl
    (s.toList.flatMap escapeChar ++ '"' :: ':' :: k)
  obtain ⟨hstring, htail⟩ := finds_stringTail s (':' :: k)
  obtain ⟨hcolon, hbehind⟩ : Finds (token ':' (':' :: k)) () k := finds_token hspacing rfl k
  have hwritten : w ++ (writeString (some s) ++ ':' :: k)
      = w ++ '"' :: (s.toList.flatMap escapeChar ++ '"' :: ':' :: k) := by simp [writeString]
  rw [hwritten]
  unfold memberName
  rw [htoken]
  show Finds ((stringTail _).bind _) _ _
  rw [htail]
  rw [Option.bind_some]
  dsimp only
  rw [hbehind]
  exact ⟨_, rfl⟩

/-- The members of an object end at its brace. -/
theorem finds_members_close (hw : IsSpacing w) (first : Bool) (k : List Char) :
    Finds (readMembers first (w ++ '\x7d' :: k)) [] k := by
  obtain ⟨hclose, htoken⟩ := finds_token hw (c := '\x7d') rfl k
  rw [readMembers, htoken]
  exact ⟨_, rfl⟩

/-- The first member has nothing in front of it. -/
theorem finds_members_first (hclose : token '\x7d' cs = none)
    (hname : Finds (memberName cs) name middle) (hvalue : Finds (readValue middle) v place)
    (hmembers : Finds (readMembers false place) members rest) :
    Finds (readMembers true cs) ((name, v) :: members) rest := by
  obtain ⟨hmiddle, hname⟩ := hname
  obtain ⟨hplace, hvalue⟩ := hvalue
  obtain ⟨hrest, hmembers⟩ := hmembers
  rw [readMembers, hclose]
  show Finds ((memberName cs).bind _) _ _
  rw [hname]
  show Finds ((readValue middle).bind _) _ _
  rw [hvalue]
  show Finds ((readMembers false place).bind _) _ _
  rw [hmembers]
  exact ⟨_, rfl⟩

/-- Each further member has a comma in front of it. -/
theorem finds_members_next (hname : Finds (memberName cs) name middle)
    (hvalue : Finds (readValue middle) v place)
    (hmembers : Finds (readMembers false place) members rest) :
    Finds (readMembers false (',' :: cs)) ((name, v) :: members) rest := by
  obtain ⟨hmiddle, hname⟩ := hname
  obtain ⟨hplace, hvalue⟩ := hvalue
  obtain ⟨hrest, hmembers⟩ := hmembers
  have hspacing : IsSpacing [] := nofun
  obtain ⟨hcomma, htoken⟩ : Finds (token ',' (',' :: cs)) () cs := finds_token hspacing rfl cs
  have hclose : token '\x7d' (',' :: cs) = none :=
    token_eq_none hspacing (d := ',') rfl (by decide) cs
  have hnext : nextItem false (',' :: cs) = some ⟨cs, Nat.le_of_lt hcomma⟩ := by
    show (token ',' (',' :: cs)).map Found.behind = _
    rw [htoken]
    rfl
  rw [readMembers, hclose]
  show Finds ((nextItem false (',' :: cs)).bind _) _ _
  rw [hnext]
  show Finds ((memberName cs).bind _) _ _
  rw [hname]
  show Finds ((readValue middle).bind _) _ _
  rw [hvalue]
  show Finds ((readMembers false place).bind _) _ _
  rw [hmembers]
  exact ⟨_, rfl⟩

end Json

end Docket
