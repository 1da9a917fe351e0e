/-
Names as words of a regular language.  A name is a letter, or a letter and
characters of names up to a letter or digit; what a cursor reads is the
longest one in front.

# How a name is found

Names are found by bytes: the first one that is part of no name ends the
run, and the last letter or digit in the run ends the name.  Only bytes of
their own stand for letters, digits, `-` and `_`, and a character of more
bytes begins with none of these, so bytes and characters come to the same
name (`takeWhile_flatMap_utf8`, `scanName_eq`).

Main statement: a name that was read is the longest word of the language in
front, its bytes are those that the scan counts, and nothing is read exactly
where no word is in front, that is, where no letter is.
-/
import Docket.Proofs.Query.Token
import Docket.Proofs.Text.Offset
import Docket.Query.Move
import Mathlib.Computability.Language

namespace Docket

open Cursor
open scoped Computability

variable {p : Char → Bool} {ch : Char} {w k cs : List Char} {c place : Cursor} {word : String}

-- ================================================ statement vocabulary

/-- The texts of one character out of a class. -/
def oneOf (p : Char → Bool) : Language Char := {w | ∃ ch, p ch = true ∧ w = [ch]}

/-- The names, `[A-Za-z]([A-Za-z0-9_-]*[A-Za-z0-9])?`. -/
def names : Language Char := oneOf isLetter * (1 + (oneOf isNamePart)∗ * oneOf isNameEnd)

/-- The byte stands for a character out of a class. -/
def byteIs (p : Char → Bool) (b : UInt8) : Bool := p (Char.ofUInt8 b)

/-- The number of bytes of the name in front of some bytes, if there is one:
up to the last letter or digit in front of the first byte that is part of no
name. -/
def scanName (bytes : List UInt8) : Option Nat :=
  if bytes.head?.any (byteIs isLetter) then
    let run := (bytes.findIdx? fun b => !byteIs isNamePart b).getD bytes.length
    some (((bytes.take run).reverse.findIdx? (byteIs isNameEnd)).elim 1 (run - ·))
  else none

-- ============================================================ languages

theorem singleton_mem_oneOf : [ch] ∈ oneOf p ↔ p ch = true := by
  constructor
  · rintro ⟨d, hd, hch⟩
    cases hch
    exact hd
  · exact fun h => ⟨ch, h, rfl⟩

/-- Texts of characters out of a class are texts of the class again and
again. -/
theorem mem_kstar_oneOf : w ∈ (oneOf p)∗ ↔ ∀ ch ∈ w, p ch = true := by
  rw [Language.mem_kstar]
  constructor
  · rintro ⟨parts, rfl, hparts⟩ ch hch
    obtain ⟨part, hpart, hch⟩ := List.mem_flatten.1 hch
    obtain ⟨d, hd, rfl⟩ := hparts part hpart
    rwa [List.mem_singleton.1 hch]
  · intro h
    have hw : w = (w.map ([·])).flatten := by
      rw [← List.flatMap_def, List.flatMap_singleton']
    refine ⟨w.map ([·]), hw, fun part hpart => ?_⟩
    obtain ⟨ch, hch, rfl⟩ := List.mem_map.1 hpart
    exact ⟨ch, h ch hch, rfl⟩

/-- The words of the language are the names. -/
theorem mem_names_iff : w ∈ names ↔ IsName w := by
  unfold names
  constructor
  · intro h
    obtain ⟨first, ⟨a, ha, rfl⟩, rest, hrest, rfl⟩ := Language.mem_mul.1 h
    rcases (Language.mem_add _ _ _).1 hrest with hnone | hmore
    · rw [(Language.mem_one rest).1 hnone]
      exact .letter ha
    · obtain ⟨m, hm, last, ⟨z, hz, rfl⟩, rfl⟩ := Language.mem_mul.1 hmore
      exact .long ha (mem_kstar_oneOf.1 hm) hz
  · intro h
    cases h with
    | letter ha =>
        exact Language.append_mem_mul (singleton_mem_oneOf.2 ha) (Or.inl Language.nil_mem_one)
    | long ha hm hz =>
        refine Language.append_mem_mul (singleton_mem_oneOf.2 ha) (Or.inr ?_)
        exact Language.append_mem_mul (mem_kstar_oneOf.2 hm) (singleton_mem_oneOf.2 hz)

-- ================================================================ bytes

theorem bytesOf_ofList (cs : List Char) :
    bytesOf (String.ofList cs) = cs.flatMap String.utf8EncodeChar := by
  unfold bytesOf
  rw [String.toUTF8_eq_toByteArray, String.toByteArray_ofList]
  exact List.toList_data_toByteArray

/-- Characters of names are ASCII. -/
theorem toNat_lt_of_isNamePart (h : isNamePart ch = true) : ch.toNat < 128 := by
  simp only [isNamePart, isNameEnd, isLetter, isDigit, Bool.or_eq_true, Bool.and_eq_true,
    decide_eq_true_eq, beq_iff_eq, Char.le_def, UInt32.le_iff_toNat_le, ← Char.toNat_inj,
    Char.toNat, Char.reduceVal, UInt32.reduceToNat] at h
  unfold Char.toNat
  omega

/-- An ASCII character is one byte. -/
theorem utf8EncodeChar_of_lt (h : ch.toNat < 128) :
    String.utf8EncodeChar ch = [ch.toUInt8] := by
  unfold Char.toNat at h
  unfold String.utf8EncodeChar
  dsimp only
  rw [if_pos (by omega)]
  rfl

/-- The character that a byte stands for has its number. -/
theorem toNat_ofUInt8 (b : UInt8) : (Char.ofUInt8 b).toNat = b.toNat := by
  unfold Char.toNat Char.ofUInt8
  exact UInt8.toNat_toUInt32 b

/-- An ASCII character is that of its byte. -/
theorem ofUInt8_toUInt8 (h : ch.toNat < 128) : Char.ofUInt8 ch.toUInt8 = ch := by
  have hbyte : ch.toUInt8.toNat = ch.toNat % 2 ^ 8 := UInt32.toNat_toUInt8 ch.val
  refine Char.toNat_inj.1 ?_
  rw [toNat_ofUInt8, hbyte]
  omega

/-- Any other character begins with a byte that stands for no ASCII
character. -/
theorem exists_utf8EncodeChar_cons (h : 128 ≤ ch.toNat) :
    ∃ b bs, String.utf8EncodeChar ch = b :: bs ∧ 128 ≤ (Char.ofUInt8 b).toNat := by
  have hval : ch.val.toNat = ch.toNat := rfl
  simp only [toNat_ofUInt8]
  unfold String.utf8EncodeChar
  dsimp only
  split
  · omega
  · split
    · refine ⟨_, _, rfl, ?_⟩
      rw [UInt8.toNat_ofNat']
      omega
    · split
      · refine ⟨_, _, rfl, ?_⟩
        rw [UInt8.toNat_ofNat']
        omega
      · refine ⟨_, _, rfl, ?_⟩
        rw [UInt8.toNat_ofNat']
        omega

/-- The bytes in front that stand for characters out of an ASCII class are
those of the characters in front out of the class. -/
theorem takeWhile_flatMap_utf8 (hp : ∀ ch, p ch = true → ch.toNat < 128) (cs : List Char) :
    (cs.flatMap String.utf8EncodeChar).takeWhile (byteIs p)
      = (cs.takeWhile p).map Char.toUInt8 := by
  induction cs with
  | nil => rfl
  | cons ch cs ih =>
      rw [List.flatMap_cons]
      by_cases hch : ch.toNat < 128
      · have hbyte : byteIs p ch.toUInt8 = p ch := by
          unfold byteIs
          rw [ofUInt8_toUInt8 hch]
        rw [utf8EncodeChar_of_lt hch, List.singleton_append, List.takeWhile_cons,
          List.takeWhile_cons, hbyte]
        cases p ch with
        | false => rfl
        | true => exact congrArg (ch.toUInt8 :: ·) ih
      · obtain ⟨b, bs, hbytes, hb⟩ := exists_utf8EncodeChar_cons (Nat.le_of_not_lt hch)
        have hout : p ch = false := Bool.eq_false_iff.2 fun h => hch (hp ch h)
        have hbout : byteIs p b = false := Bool.eq_false_iff.2 fun h => by
          have hlt := hp _ h
          omega
        rw [hbytes, List.cons_append, List.takeWhile_cons, hbout, List.takeWhile_cons, hout]
        rfl

/-- Something in front is out of a class when a run of the class is. -/
theorem any_head?_eq {α : Type} (q : α → Bool) (l : List α) :
    l.head?.any q = !(l.takeWhile q).isEmpty := by
  cases l with
  | nil => rfl
  | cons a l =>
      rw [List.takeWhile_cons]
      cases h : q a with
      | false => simp [h]
      | true => simp [h]

theorem findIdx?_map_toUInt8 (h : ∀ ch ∈ cs, ch.toNat < 128) :
    (cs.map Char.toUInt8).findIdx? (byteIs p) = cs.findIdx? p := by
  induction cs with
  | nil => rfl
  | cons ch cs ih =>
      have hbyte : byteIs p ch.toUInt8 = p ch := by
        unfold byteIs
        rw [ofUInt8_toUInt8 (h ch List.mem_cons_self)]
      rw [List.map_cons, List.findIdx?_cons, List.findIdx?_cons, hbyte,
        ih fun d hd => h d (List.mem_cons_of_mem ch hd)]

-- =============================================================== scan

/-- What dropping at the end leaves, counted from the end. -/
theorem length_rdropWhile_not {i : Nat} (h : w.reverse.findIdx? p = some i) :
    (w.rdropWhile fun ch => !p ch).length = w.length - i := by
  obtain ⟨-, hi⟩ := List.findIdx?_eq_some_iff_findIdx_eq.1 h
  unfold List.rdropWhile
  rw [List.length_reverse, List.dropWhile_eq_drop_findIdx_not, List.length_drop,
    List.length_reverse]
  simp only [Bool.not_not]
  rw [hi]

/-- A letter in front is in the run of characters of names. -/
theorem exists_nameEnd_of_letter (h : cs.head?.any isLetter = true) :
    ∃ ch, ch ∈ (cs.takeWhile isNamePart).reverse ∧ isNameEnd ch = true := by
  obtain ⟨a, ha, hletter⟩ := (Option.any_eq_true ..).1 h
  have hend := isNameEnd_of_isLetter hletter
  refine ⟨a, List.mem_reverse.2 ?_, hend⟩
  cases cs with
  | nil => cases ha
  | cons d cs =>
      obtain rfl : d = a := Option.some.inj ha
      rw [List.takeWhile_cons, isNamePart_of_isNameEnd hend]
      exact List.mem_cons_self

/-- The scan counts the characters of the name in front. -/
theorem scanName_eq (cs : List Char) : scanName (cs.flatMap String.utf8EncodeChar)
    = if cs.head?.any isLetter then some (nameOf cs).length else none := by
  have hletter : ∀ ch, isLetter ch = true → ch.toNat < 128 := fun ch h =>
    toNat_lt_of_isNamePart (isNamePart_of_isNameEnd (isNameEnd_of_isLetter h))
  have hhead : (cs.flatMap String.utf8EncodeChar).head?.any (byteIs isLetter)
      = cs.head?.any isLetter := by
    rw [any_head?_eq, any_head?_eq, takeWhile_flatMap_utf8 hletter, List.isEmpty_map]
  have hrun := takeWhile_flatMap_utf8 (fun ch => toNat_lt_of_isNamePart) cs
  rw [List.takeWhile_eq_take_findIdx_not] at hrun
  have hlength := congrArg List.length hrun
  rw [List.length_take_of_le List.findIdx_le_length, List.length_map] at hlength
  unfold scanName
  rw [hhead]
  split
  · next h =>
    rw [← List.findIdx_eq_getD_findIdx?]
    dsimp only
    have hascii : ∀ ch ∈ (cs.takeWhile isNamePart).reverse, ch.toNat < 128 := fun ch hch =>
      toNat_lt_of_isNamePart (List.mem_takeWhile_imp (List.mem_reverse.1 hch))
    have hlast := List.findIdx?_eq_some_of_exists (exists_nameEnd_of_letter h)
    rw [hrun, hlength, ← List.map_reverse, findIdx?_map_toUInt8 hascii, hlast, nameOf_eq,
      if_pos h, length_rdropWhile_not hlast]
    rfl
  · rfl

/-- A name has as many bytes as characters. -/
theorem IsName.byteWidth_eq (h : IsName w) : byteWidth w = w.length := by
  have hparts := (isName_iff.1 h).2.1
  clear h
  induction w with
  | nil => rfl
  | cons ch w ih =>
      have hch := toNat_lt_of_isNamePart (hparts ch List.mem_cons_self)
      have hone : ch.utf8Size = 1 := by
        rw [← String.length_utf8EncodeChar, utf8EncodeChar_of_lt hch, List.length_singleton]
      rw [byteWidth, hone, ih fun d hd => hparts d (List.mem_cons_of_mem ch hd),
        List.length_cons, Nat.add_comm]

/-- A name that was read has as many bytes as the scan counts. -/
theorem scanName_of_name? (h : c.name? = some (word, place)) :
    scanName (bytesOf c.remaining) = some word.utf8ByteSize := by
  obtain ⟨k, hrest, hlongest, -⟩ := exists_of_name? h
  obtain ⟨hne, hname⟩ := longest_isName_iff.1 hlongest
  obtain ⟨a, ha, hletter⟩ := (isName_iff.1 hlongest.1).1
  have hhead : (word.toList ++ k).head?.any isLetter = true := by
    rw [List.head?_append_of_ne_nil _ hne, Option.mem_def.1 ha]
    exact hletter
  have hwidth := hlongest.1.byteWidth_eq
  rw [← utf8ByteSize_ofList, String.ofList_toList] at hwidth
  unfold remaining
  rw [bytesOf_ofList, scanName_eq, hrest, if_pos hhead, hname, hwidth]

/-- Where no name is read, the scan finds none. -/
theorem scanName_of_name?_eq_none (h : c.name? = none) :
    scanName (bytesOf c.remaining) = none := by
  have hhead := name?_eq_none_iff.1 h
  unfold remaining
  rw [bytesOf_ofList, scanName_eq, if_neg]
  rw [Option.any_eq_true]
  rintro ⟨a, ha, hletter⟩
  rw [hhead a ha] at hletter
  cases hletter

-- =============================================================== names

theorem Cursor.act_name_eq_iff :
    c.act .name = (.name word, place) ↔ c.name? = some (word, place) := by
  simp only [act]
  cases c.name? with
  | none => simp
  | some step => simp [Prod.ext_iff]

theorem Cursor.act_name_eq_nothing_iff : c.act .name = (.nothing, c) ↔ c.name? = none := by
  simp only [act]
  cases c.name? with
  | none => simp
  | some step => simp

/-- A name is the longest one in front when no word in front is longer. -/
theorem longest_isName_iff_length : Longest IsName w k
    ↔ w ∈ names ∧ ∀ v ∈ names, v <+: w ++ k → v.length ≤ w.length := by
  constructor
  · intro h
    have hname := (longest_isName_iff.1 h).2
    refine ⟨mem_names_iff.2 h.1, fun v hv hfront => ?_⟩
    have hle := (prefix_nameOf (mem_names_iff.1 hv) hfront).length_le
    rwa [hname] at hle
  · rintro ⟨hw, hmost⟩
    refine ⟨mem_names_iff.1 hw, fun u hne hu hwu => ?_⟩
    have hle := hmost (w ++ u) (mem_names_iff.2 hwu) ((List.prefix_append_right_inj w).2 hu)
    have hpos := List.length_pos_iff.2 hne
    rw [List.length_append] at hle
    omega

/-- No name is in front exactly where no letter is. -/
theorem no_names_iff : (∀ v ∈ names, ¬v <+: cs) ↔ ∀ a ∈ cs.head?, isLetter a = false := by
  constructor
  · intro h a ha
    refine Bool.eq_false_iff.2 fun hletter => h [a] (mem_names_iff.2 (.letter hletter)) ?_
    cases cs with
    | nil => cases ha
    | cons d cs =>
        obtain rfl : d = a := Option.some.inj ha
        exact List.prefix_append [d] cs
  · rintro h v hv ⟨k, rfl⟩
    obtain ⟨a, ha, hletter⟩ := (isName_iff.1 (mem_names_iff.1 hv)).1
    have hne : v ≠ [] := by rintro rfl; cases ha
    rw [h a (by rwa [List.head?_append_of_ne_nil _ hne])] at hletter
    cases hletter

/-- A name is read exactly where it is the longest one in front. -/
theorem Cursor.name?_eq_some_iff : c.name? = some (word, place)
    ↔ ∃ k, c.rest = word.toList ++ k ∧ Longest IsName word.toList k ∧ place = ⟨trimStart k⟩ := by
  refine ⟨exists_of_name?, ?_⟩
  rintro ⟨k, hrest, hlongest, rfl⟩
  obtain ⟨cs⟩ := c
  obtain rfl : cs = word.toList ++ k := hrest
  rw [name?_append hlongest, String.ofList_toList]

/-- The cursor is advanced by the bytes of the name. -/
theorem Cursor.advance_of_name? (h : c.name? = some (word, place)) :
    c.advance word.utf8ByteSize = place := by
  obtain ⟨k, hrest, -, rfl⟩ := exists_of_name? h
  have hwidth := utf8ByteSize_ofList word.toList
  rw [String.ofList_toList] at hwidth
  unfold advance
  rw [hrest, hwidth, dropBytes_byteWidth_append]

/-- Reading a name reads the longest name in front, and passes it and the
blanks behind it; nothing is read, and the cursor stays, exactly where no name
is in front, that is, where no letter is.  The scan by bytes finds nothing in
the same places, and elsewhere it counts the bytes of the name that was read,
by which the cursor is advanced. -/
theorem name_is_longest_match (c : Cursor) :
    (∀ word place, c.act .name = (.name word, place) ↔ ∃ k,
      c.rest = word.toList ++ k ∧ word.toList ∈ names
        ∧ (∀ v ∈ names, v <+: c.rest → v.length ≤ word.length) ∧ place = ⟨trimStart k⟩)
      ∧ (c.act .name = (.nothing, c) ↔ ∀ v ∈ names, ¬v <+: c.rest)
      ∧ ((∀ v ∈ names, ¬v <+: c.rest) ↔ ∀ a ∈ c.peek, isLetter a = false)
      ∧ ((∃ word place, c.act .name = (.name word, place)) ∨ c.act .name = (.nothing, c))
      ∧ (c.act .name = (.nothing, c) ↔ scanName (bytesOf c.remaining) = none)
      ∧ ∀ word place, c.act .name = (.name word, place) →
        scanName (bytesOf c.remaining) = some word.utf8ByteSize
          ∧ place = c.advance word.utf8ByteSize := by
  refine ⟨fun word place => ?_, ?_, no_names_iff, ?_, ?_, fun word place h => ?_⟩
  · rw [act_name_eq_iff, name?_eq_some_iff]
    refine exists_congr fun k => and_congr_right fun hrest => ?_
    rw [longest_isName_iff_length, hrest, String.length_toList, and_assoc]
  · rw [act_name_eq_nothing_iff, name?_eq_none_iff, no_names_iff]
  · rw [act_name_eq_nothing_iff]
    cases h : c.name? with
    | none => exact Or.inr rfl
    | some step => exact Or.inl ⟨step.1, step.2, act_name_eq_iff.2 h⟩
  · rw [act_name_eq_nothing_iff]
    cases h : c.name? with
    | none => exact iff_of_true rfl (scanName_of_name?_eq_none h)
    | some step =>
        obtain ⟨word, place⟩ := step
        rw [scanName_of_name? h]
        simp
  · have hname := act_name_eq_iff.1 h
    exact ⟨scanName_of_name? hname, (advance_of_name? hname).symm⟩

/-- A name stops in front of the signs behind its last letter, and a character
of two bytes stops the scan; so no name in front has more than four
characters. -/
theorem name_is_longest_match_trailing :
    let c : Cursor := ⟨"v2-x_-é open".toList⟩
    c.act .name = (.name "v2-x", ⟨"_-é open".toList⟩)
      ∧ (∀ v ∈ names, v <+: c.rest → v.length ≤ 4)
      ∧ scanName (bytesOf c.remaining) = some 4
      ∧ c.advance 4 = ⟨"_-é open".toList⟩ := by
  intro c
  have hread : c.act .name = (.name "v2-x", ⟨"_-é open".toList⟩) := by decide
  obtain ⟨hiff, -, -, -, -, hbytes⟩ := name_is_longest_match c
  obtain ⟨k, -, -, hmost, -⟩ := (hiff _ _).1 hread
  obtain ⟨hscan, hplace⟩ := hbytes _ _ hread
  exact ⟨hread, hmost, hscan, hplace.symm⟩

end Docket
