/-
Timestamps as they are written, and the instants they stand for.  A date of
four, two and two digits and a time of day in pairs of digits can be put
together with a `T` and a `Z` behind, with a `T` alone, or with a blank, and
each of the three ways has its own reader.  The exact one is tried first and
refuses what has no offset at its end; of the loose ones, the one with the
`T` refuses the blank.  So every text is left to the reader that is meant for
it, and all of them read the same date and the same time.

The readers are followed on a written piece with any text behind it, from the
digits up: a number (`number_zeroPadded`), a date (`date_append`), a time of day
(`clock_append`), an offset (`offset_append`).

Main statements: the three ways of writing a date and a time are read as one
instant; an offset behind it is taken off; a date alone is its midnight; and
blanks around a timestamp do not count.
-/
import Docket.Proofs.Query.Token
import Docket.Proofs.Text.Padded
import Docket.Proofs.Time.Calendar
import Docket.Time.Timestamp

namespace Docket

-- ================================================ statement vocabulary

/-- A date of a year of four digits, and a time of day with the digits of a
fraction of its second; there are none where the second is not divided. -/
structure Civil where
  year : Nat
  month : Nat
  day : Nat
  hour : Nat
  minute : Nat
  second : Nat
  fraction : List Char
  year_lt : year < 10000
  month_pos : 1 ≤ month
  month_le : month ≤ 12
  day_pos : 1 ≤ day
  day_le : day ≤ daysInMonth year month
  hour_lt : hour < 24
  minute_lt : minute < 60
  second_le : second ≤ 60
  isDigit_fraction : ∀ d ∈ fraction, isDigit d = true
  length_fraction_le : fraction.length ≤ 9

/-- A difference from universal time, in hours and minutes. -/
structure Offset where
  ahead : Bool
  hours : Nat
  minutes : Nat
  hours_lt : hours < 24
  minutes_lt : minutes < 60

namespace Civil

/-- Its date. -/
def date (c : Civil) : Date := ⟨c.year, c.month, c.day⟩

/-- The date as it is written. -/
def dateText (c : Civil) : List Char :=
  zeroPadded 4 c.year ++ '-' :: (zeroPadded 2 c.month ++ '-' :: zeroPadded 2 c.day)

/-- The fraction as it is written behind the second. -/
def fractionText (c : Civil) : List Char :=
  if c.fraction = [] then [] else '.' :: c.fraction

/-- The time of day as it is written. -/
def timeText (c : Civil) : List Char :=
  zeroPadded 2 c.hour ++ ':' :: (zeroPadded 2 c.minute ++ ':' ::
    (zeroPadded 2 c.second ++ c.fractionText))

/-- The timestamp with a date and a time of day, something between them and
something behind. -/
def text (c : Civil) (between : Char) (behind : List Char) : String :=
  String.ofList (c.dateText ++ between :: (c.timeText ++ behind))

/-- The fraction in nanoseconds. -/
def nanos (c : Civil) : Nat := decimal c.fraction * Nat.pow 10 (9 - c.fraction.length)

/-- The instant in universal time.  The sixtieth second of a minute shares
the number of the one before it and adds a thousand million nanoseconds. -/
def instant (c : Civil) : Instant :=
  ⟨86400 * c.date.dayNumber + 3600 * c.hour + 60 * c.minute + (min c.second 59 : Nat),
    c.nanos + if c.second = 60 then 1000000000 else 0⟩

end Civil

namespace Offset

/-- The difference as it is written. -/
def text (o : Offset) : List Char :=
  (if o.ahead then '+' else '-') :: (zeroPadded 2 o.hours ++ ':' :: zeroPadded 2 o.minutes)

/-- The difference in seconds. -/
def seconds (o : Offset) : Int :=
  if o.ahead then 3600 * o.hours + 60 * o.minutes else -(3600 * o.hours + 60 * o.minutes)

end Offset

variable {c : Civil} {o : Offset} {k : List Char} {d : Char} {least width n : Nat}

-- ================================================== civil times exist

namespace Civil

/-- All of its numbers but the year have two digits. -/
theorem lt_hundred (c : Civil) :
    c.month < 100 ∧ c.day < 100 ∧ c.hour < 100 ∧ c.minute < 100 ∧ c.second < 100 := by
  have hmonth : daysInMonth c.year c.month ≤ 31 := by
    unfold daysInMonth
    repeat' split
    all_goals omega
  obtain ⟨hm, hd⟩ := And.intro c.month_le c.day_le
  obtain ⟨hh, hmin, hs⟩ := And.intro c.hour_lt (And.intro c.minute_lt c.second_le)
  omega

/-- The fraction of a second is less than a second. -/
theorem nanos_lt (c : Civil) : c.nanos < 1000000000 := by
  have hvalue : decimal c.fraction < Nat.pow 10 c.fraction.length := decimal_lt c.isDigit_fraction
  have hscale : 0 < Nat.pow 10 (9 - c.fraction.length) := Nat.pow_pos (by decide)
  have hlength : c.fraction.length + (9 - c.fraction.length) = 9 := by
    have hle := c.length_fraction_le
    omega
  calc c.nanos
      < Nat.pow 10 c.fraction.length * Nat.pow 10 (9 - c.fraction.length) :=
        Nat.mul_lt_mul_of_pos_right hvalue hscale
    _ = Nat.pow 10 (c.fraction.length + (9 - c.fraction.length)) := (Nat.pow_add 10 _ _).symm
    _ = 1000000000 := by rw [hlength]

/-- A second that is not divided has no nanoseconds past it. -/
theorem nanos_of_nil (h : c.fraction = []) : c.nanos = 0 := by
  have hnone : decimal [] = 0 := rfl
  rw [nanos, h, hnone, Nat.zero_mul]

/-- Every written date exists. -/
theorem isValid_date (c : Civil) : c.date.isValid = true := by
  refine Date.isValid_iff.2 ⟨?_, ?_, c.month_pos, c.month_le, c.day_pos, c.day_le⟩
  · show (-262143 : Int) ≤ c.year
    omega
  · show (c.year : Int) ≤ 262142
    have hyear := c.year_lt
    omega

/-- A written date and time of day stand for an instant. -/
theorem ofCivil?_eq (c : Civil) (ahead : Int) :
    Instant.ofCivil? c.date ⟨c.hour, c.minute, c.second, c.nanos⟩ ahead
      = some ⟨c.instant.seconds - ahead, c.instant.nanos⟩ := by
  have hclock : (⟨c.hour, c.minute, c.second, c.nanos⟩ : Clock).isValid = true := by
    simp [Clock.isValid, c.hour_lt, c.minute_lt, c.second_le, c.nanos_lt]
  have hseconds : 86400 * c.date.dayNumber
      + (Clock.seconds ⟨c.hour, c.minute, c.second, c.nanos⟩ : Nat) = c.instant.seconds := by
    simp only [Clock.seconds, instant]
    omega
  unfold Instant.ofCivil?
  rw [isValid_date, hclock, hseconds]
  rfl

/-- The midnight that its date begins with. -/
def midnight (c : Civil) : Civil where
  __ := c
  hour := 0
  minute := 0
  second := 0
  fraction := []
  hour_lt := by decide
  minute_lt := by decide
  second_le := by decide
  isDigit_fraction := List.forall_mem_nil _
  length_fraction_le := by decide

theorem instant_midnight (c : Civil) : c.midnight.instant = ⟨86400 * c.date.dayNumber, 0⟩ := by
  have hseconds : c.midnight.instant.seconds = 86400 * c.date.dayNumber := by
    show 86400 * c.date.dayNumber + 3600 * (0 : Nat) + 60 * (0 : Nat) + (min 0 59 : Nat) = _
    omega
  have hnanos : c.midnight.instant.nanos = 0 := by
    have hsecond : ¬ c.midnight.second = 60 := Nat.ne_of_lt (show 0 < 60 by decide)
    show c.midnight.nanos + (if c.midnight.second = 60 then 1000000000 else 0) = 0
    rw [nanos_of_nil rfl, if_neg hsecond]
  rw [← hseconds, ← hnanos]

end Civil

-- ============================================================== digits

/-- A digit is no sign. -/
theorem ne_sign_of_isDigit (hd : isDigit d = true) : d ≠ '-' ∧ d ≠ '+' := by
  constructor <;>
  · rintro rfl
    revert hd
    decide

/-- A text that begins with a numeral begins with no blank. -/
theorem trimStart_zeroPadded (width n : Nat) (k : List Char) :
    trimStart (zeroPadded (width + 1) n ++ k) = zeroPadded (width + 1) n ++ k := by
  obtain ⟨d, ds, hds, hd⟩ := exists_zeroPadded_eq_cons width n
  rw [hds]
  exact trimStart_eq_self (outside_cons (isBlank_of_isDigit hd) _)

namespace Timestamp

/-- A character in front is read. -/
theorem char_cons (d : Char) (k : List Char) : char d (d :: k) = some k := if_pos rfl

/-- A numeral of as many digits as may be read is read, whatever follows. -/
theorem number_zeroPadded (hleast : least ≤ width) (hn : n < Nat.pow 10 width) (k : List Char) :
    number least width (zeroPadded width n ++ k) = some (n, k) := by
  have htake : (zeroPadded width n ++ k).take width = zeroPadded width n :=
    List.take_left' (length_zeroPadded width n)
  have hdrop : (zeroPadded width n ++ k).drop width = k :=
    List.drop_left' (length_zeroPadded width n)
  have hdigits : (zeroPadded width n).takeWhile isDigit = zeroPadded width n :=
    List.takeWhile_eq_self_iff.2 isDigit_of_mem_zeroPadded
  unfold number
  dsimp only
  rw [htake, hdigits, length_zeroPadded, if_pos hleast, hdrop, decimal_zeroPadded hn]

/-- A pair of digits is read, whatever follows. -/
theorem number_pair (hn : n < 100) (k : List Char) :
    number 2 2 (zeroPadded 2 n ++ k) = some (n, k) :=
  number_zeroPadded (Nat.le_refl 2) hn k

/-- Where blanks and shorter numerals are allowed, pairs of digits are read
too. -/
theorem shortNumber_zeroPadded (hn : n < 100) (k : List Char) :
    shortNumber (zeroPadded 2 n ++ k) = some (n, k) := by
  unfold shortNumber
  rw [trimStart_zeroPadded]
  exact number_zeroPadded (by decide) hn k

/-- A year of four digits has no sign. -/
theorem year_zeroPadded (hn : n < 10000) (k : List Char) :
    year (zeroPadded 4 n ++ k) = some ((n : Int), k) := by
  obtain ⟨d, ds, hds, hd⟩ := exists_zeroPadded_eq_cons 3 n
  obtain ⟨hminus, hplus⟩ := ne_sign_of_isDigit hd
  have hnumber : number 1 4 (zeroPadded 4 n ++ k) = some (n, k) :=
    number_zeroPadded (by decide) hn k
  unfold year
  rw [trimStart_zeroPadded]
  rw [hds, List.cons_append] at hnumber ⊢
  dsimp only
  split
  · next heq => exact absurd (List.cons.inj heq).1 hminus
  · next heq => exact absurd (List.cons.inj heq).1 hplus
  · rw [hnumber]
    rfl

-- ======================================================= dates and times

/-- A written date with more text behind. -/
theorem dateText_append (c : Civil) (k : List Char) :
    c.dateText ++ k
      = zeroPadded 4 c.year ++ '-' ::
          (zeroPadded 2 c.month ++ '-' :: (zeroPadded 2 c.day ++ k)) := by
  simp [Civil.dateText]

/-- A written time of day with more text behind. -/
theorem timeText_append (c : Civil) (k : List Char) :
    c.timeText ++ k
      = zeroPadded 2 c.hour ++ ':' :: (zeroPadded 2 c.minute ++ ':' ::
          (zeroPadded 2 c.second ++ (c.fractionText ++ k))) := by
  simp [Civil.timeText]

/-- A date is read as it is written, whatever follows. -/
theorem date_append (c : Civil) (k : List Char) : date (c.dateText ++ k) = some (c.date, k) := by
  obtain ⟨hmonth, hday, -⟩ := c.lt_hundred
  rw [dateText_append]
  unfold date
  simp only [year_zeroPadded c.year_lt, char_cons, shortNumber_zeroPadded hmonth,
    shortNumber_zeroPadded hday, Option.bind_eq_bind, Option.bind_some]
  rfl

/-- A fraction may end in front of the text: it begins neither with a digit
nor with a point. -/
def EndsFraction (k : List Char) : Prop := ∀ d ∈ k.head?, isDigit d = false ∧ d ≠ '.'

theorem endsFraction_nil : EndsFraction [] := fun d hd => absurd hd (Option.not_mem_none d)

theorem endsFraction_cons (hdigit : isDigit d = false) (hpoint : d ≠ '.') (k : List Char) :
    EndsFraction (d :: k) := by
  intro e he
  obtain rfl : d = e := Option.some.inj he
  exact ⟨hdigit, hpoint⟩

/-- A fraction is read as it is written, unless more of it follows. -/
theorem fraction_append (hk : EndsFraction k) :
    fraction (c.fractionText ++ k) = some (c.nanos, k) := by
  unfold Civil.fractionText Civil.nanos
  by_cases hnone : c.fraction = []
  · rw [if_pos hnone, hnone, List.nil_append]
    unfold fraction
    split
    · next rest => exact absurd rfl (hk '.' rfl).2
    · rfl
  · have hrun : (c.fraction ++ k).takeWhile isDigit = c.fraction :=
      takeWhile_run c.isDigit_fraction fun d hd => (hk d hd).1
    have hkept : c.fraction.take 9 = c.fraction := List.take_of_length_le c.length_fraction_le
    rw [if_neg hnone, List.cons_append]
    show nanoseconds (c.fraction ++ k) = _
    unfold nanoseconds
    dsimp only
    rw [hrun, hkept, List.drop_left, if_neg (by simpa using hnone)]

/-- A time of day is read as it is written, unless more of its fraction
follows. -/
theorem clock_append (hk : EndsFraction k) :
    clock (c.timeText ++ k) = some (⟨c.hour, c.minute, c.second, c.nanos⟩, k) := by
  obtain ⟨-, -, hhour, hminute, hsecond⟩ := c.lt_hundred
  rw [timeText_append]
  unfold clock
  simp only [shortNumber_zeroPadded hhour, shortNumber_zeroPadded hminute,
    shortNumber_zeroPadded hsecond, char_cons, fraction_append hk,
    Option.bind_eq_bind, Option.bind_some]

/-- An offset is read as it is written. -/
theorem offset_append (o : Offset) (k : List Char) :
    offset (o.text ++ k) = some (o.seconds, k) := by
  have hhours : o.hours < 100 := Nat.lt_trans o.hours_lt (by decide)
  have hminutes : o.minutes < 100 := Nat.lt_trans o.minutes_lt (by decide)
  have htext : o.text ++ k = (if o.ahead then '+' else '-') ::
      (zeroPadded 2 o.hours ++ ':' :: (zeroPadded 2 o.minutes ++ k)) := by
    simp [Offset.text]
  rw [htext]
  unfold offset Offset.seconds
  cases o.ahead <;>
    simp [number_pair hhours, number_pair hminutes, char_cons, o.hours_lt, o.minutes_lt]

-- ============================================================= readers

/-- Without an offset at the end, nothing is in the exact notation. -/
theorem offset_nil : offset [] = none := rfl

/-- Where a step of a reader succeeds, what follows it is read. -/
theorem bind_of_eq {α β : Type} {x : Option α} {a : α} (h : x = some a) (f : α → Option β) :
    (x >>= f) = f a := by
  rw [h]
  rfl

/-- The exact reader takes a date and a time with a `T` or a blank between
them and asks for an offset behind. -/
theorem readExact_append {sep : Char} (hsep : sep = 'T' ∨ sep = ' ') (hk : EndsFraction k) :
    readExact (c.dateText ++ sep :: (c.timeText ++ k))
      = (offset k).bind fun (seconds, rest) =>
          if rest.isEmpty then
            Instant.ofCivil? c.date ⟨c.hour, c.minute, c.second, c.nanos⟩ seconds
          else none := by
  obtain ⟨hmonth, hday, hhour, hminute, hsecond⟩ := c.lt_hundred
  have hyear := number_zeroPadded (Nat.le_refl 4) c.year_lt
  rw [dateText_append, timeText_append]
  unfold readExact
  -- one step of the reader after another, so that nothing is rewritten inside of what follows
  apply (bind_of_eq (hyear _) _).trans
  apply (bind_of_eq (char_cons '-' _) _).trans
  apply (bind_of_eq (number_pair hmonth _) _).trans
  apply (bind_of_eq (char_cons '-' _) _).trans
  apply (bind_of_eq (number_pair hday _) _).trans
  -- the reader looks at what stands between date and time
  rcases hsep with rfl | rfl
  all_goals
    apply (bind_of_eq (number_pair hhour _) _).trans
    apply (bind_of_eq (char_cons ':' _) _).trans
    apply (bind_of_eq (number_pair hminute _) _).trans
    apply (bind_of_eq (char_cons ':' _) _).trans
    apply (bind_of_eq (number_pair hsecond _) _).trans
    exact bind_of_eq (fraction_append hk) _

/-- The exact reader does not take a date alone. -/
theorem readExact_dateText (c : Civil) : readExact c.dateText = none := by
  obtain ⟨hmonth, hday, -⟩ := c.lt_hundred
  have hyear := number_zeroPadded (Nat.le_refl 4) c.year_lt
  have htext := dateText_append c []
  rw [List.append_nil] at htext
  rw [htext]
  unfold readExact
  apply (bind_of_eq (hyear _) _).trans
  apply (bind_of_eq (char_cons '-' _) _).trans
  apply (bind_of_eq (number_pair hmonth _) _).trans
  apply (bind_of_eq (char_cons '-' _) _).trans
  exact bind_of_eq (number_pair hday _) _

/-- A loose reader reads a date and leaves the rest to what reads between. -/
theorem readLoose_append (between : List Char → Option (List Char)) (c : Civil) (k : List Char) :
    readLoose between (c.dateText ++ k)
      = (between k).bind fun rest => (clock rest).bind fun (time, rest) =>
          if rest.isEmpty then Instant.ofCivil? c.date time 0 else none := by
  unfold readLoose
  simp only [date_append, Option.bind_eq_bind, Option.bind_some]

/-- There is no time of day in no text. -/
theorem clock_nil : clock [] = none := rfl

-- ============================================================ whole texts

/-- Blanks around a timestamp do not count. -/
theorem read_between_blanks {lead back : List Char} (hlead : IsBlanks lead) (hback : IsBlanks back)
    (cs : List Char) : read (lead ++ cs ++ back) = read cs := by
  have htrim : trim (lead ++ cs ++ back) = trim cs := by
    rw [trim_append_of_blank hback]
    unfold trim
    rw [trimStart_append_of_blank hlead]
  unfold read
  rw [htrim]

/-- The text ends in a character that is no blank. -/
def EndsTight (cs : List Char) : Prop := ∃ d, cs.getLast? = some d ∧ isBlank d = false

theorem EndsTight.append (front : List Char) (h : EndsTight k) : EndsTight (front ++ k) := by
  obtain ⟨d, hd, hblank⟩ := h
  refine ⟨d, ?_, hblank⟩
  rw [List.getLast?_append, hd]
  rfl

theorem endsTight_zeroPadded (width n : Nat) : EndsTight (zeroPadded (width + 1) n) := by
  refine ⟨digit (n % 10), List.getLast?_concat, ?_⟩
  exact isBlank_of_isDigit (digit_spec (n % 10) (Nat.mod_lt n (by decide))).1

theorem endsTight_dateText (c : Civil) : EndsTight c.dateText := by
  have h := (endsTight_zeroPadded 1 c.day).append
    (zeroPadded 4 c.year ++ '-' :: (zeroPadded 2 c.month ++ ['-']))
  simpa [Civil.dateText] using h

theorem endsTight_offset (o : Offset) : EndsTight o.text := by
  have h := (endsTight_zeroPadded 1 o.minutes).append
    ((if o.ahead then '+' else '-') :: (zeroPadded 2 o.hours ++ [':']))
  simpa [Offset.text] using h

theorem endsTight_timeText (c : Civil) : EndsTight c.timeText := by
  have hsecond : EndsTight (zeroPadded 2 c.second ++ c.fractionText) := by
    unfold Civil.fractionText
    by_cases hnone : c.fraction = []
    · rw [if_pos hnone, List.append_nil]
      exact endsTight_zeroPadded 1 c.second
    · rw [if_neg hnone]
      have hlast := c.isDigit_fraction _ (List.getLast_mem hnone)
      have hdigits : EndsTight c.fraction :=
        ⟨_, List.getLast?_eq_some_getLast hnone, isBlank_of_isDigit hlast⟩
      exact (hdigits.append ['.']).append _
  have h := hsecond.append (zeroPadded 2 c.hour ++ ':' :: (zeroPadded 2 c.minute ++ [':']))
  simpa [Civil.timeText] using h

/-- A text with a written date in front begins with no blank, so nothing of it
is trimmed if it ends with none. -/
theorem trim_dateText_append (h : EndsTight (c.dateText ++ k)) :
    trim (c.dateText ++ k) = c.dateText ++ k := by
  have hstart : trimStart (c.dateText ++ k) = c.dateText ++ k := by
    rw [dateText_append, trimStart_zeroPadded]
  obtain ⟨d, hd, hblank⟩ := h
  unfold trim
  rw [hstart]
  refine trimEnd_eq_self fun e he => ?_
  obtain rfl : d = e := Option.some.inj (hd.symm.trans he)
  exact hblank

/-- A text with an offset at its end is read by the exact reader. -/
theorem read_offset {seconds : Int} (hoffset : offset k = some (seconds, []))
    (hk : EndsFraction k) (hend : EndsTight k) :
    read (c.dateText ++ 'T' :: (c.timeText ++ k))
      = some ⟨c.instant.seconds - seconds, c.instant.nanos⟩ := by
  have htight : EndsTight (c.dateText ++ 'T' :: (c.timeText ++ k)) :=
    ((hend.append c.timeText).append ['T']).append c.dateText
  have hexact : readExact (c.dateText ++ 'T' :: (c.timeText ++ k))
      = some ⟨c.instant.seconds - seconds, c.instant.nanos⟩ := by
    rw [readExact_append (.inl rfl) hk, hoffset, ← c.ofCivil?_eq]
    rfl
  unfold read
  rw [trim_dateText_append htight]
  dsimp only
  rw [hexact]
  rfl

/-- A text without an offset is not in the exact notation. -/
theorem readExact_timeText {sep : Char} (hsep : sep = 'T' ∨ sep = ' ') (c : Civil) :
    readExact (c.dateText ++ sep :: c.timeText) = none := by
  have h := readExact_append (c := c) (k := []) hsep endsFraction_nil
  rw [List.append_nil, offset_nil] at h
  exact h

/-- What reads between a date and a time of day lets a loose reader take
both. -/
theorem readLoose_timeText {between : List Char → Option (List Char)} {sep : Char}
    (h : between (sep :: c.timeText) = some c.timeText) :
    readLoose between (c.dateText ++ sep :: c.timeText) = some c.instant := by
  have hclock := clock_append (c := c) (k := []) endsFraction_nil
  rw [List.append_nil] at hclock
  rw [readLoose_append, h, Option.bind_some, hclock, Option.bind_some]
  have hinstant := c.ofCivil?_eq 0
  rw [Int.sub_zero] at hinstant
  exact hinstant

theorem read_timeText {sep : Char} (hsep : sep = 'T' ∨ sep = ' ') (c : Civil) :
    read (c.dateText ++ sep :: c.timeText) = some c.instant := by
  have htight : EndsTight (c.dateText ++ sep :: c.timeText) :=
    ((endsTight_timeText c).append [sep]).append c.dateText
  unfold read
  rw [trim_dateText_append htight]
  dsimp only
  rw [readExact_timeText hsep]
  rcases hsep with rfl | rfl
  · rw [readLoose_timeText (char_cons 'T' _)]
    rfl
  · -- the reader that wants a `T` finds a blank, the next one skips it
    have hrefuses : readLoose (char 'T') (c.dateText ++ ' ' :: c.timeText) = none := by
      rw [readLoose_append]
      rfl
    have hskips : trimStart (' ' :: c.timeText) = c.timeText := by
      have htime := timeText_append c []
      rw [List.append_nil] at htime
      show trimStart c.timeText = c.timeText
      rw [htime, trimStart_zeroPadded]
    have hreads : readLoose (fun cs => some (trimStart cs)) (c.dateText ++ ' ' :: c.timeText)
        = some c.instant := readLoose_timeText (congrArg some hskips)
    rw [hrefuses, hreads]
    rfl

/-- Behind a date alone, what separates it from a time of day is missing or has
no time of day behind. -/
theorem readLoose_dateText (between : List Char → Option (List Char))
    (h : between [] = none ∨ between [] = some []) (c : Civil) :
    readLoose between c.dateText = none := by
  have hread := readLoose_append between c []
  rw [List.append_nil] at hread
  rw [hread]
  rcases h with hnone | hsome
  · rw [hnone]
    rfl
  · rw [hsome, Option.bind_some, clock_nil]
    rfl

/-- The reader of dates takes the midnight of one. -/
theorem readDate_dateText (c : Civil) :
    readDate c.dateText = some ⟨86400 * c.date.dayNumber, 0⟩ := by
  have hread := date_append c []
  have hmidnight := c.midnight.ofCivil?_eq 0
  rw [List.append_nil] at hread
  rw [Civil.nanos_of_nil (c := c.midnight) rfl, c.instant_midnight, Int.sub_zero] at hmidnight
  unfold readDate
  rw [hread]
  exact hmidnight

/-- A date alone is left to the reader of dates, the last one. -/
theorem read_dateText (c : Civil) : read c.dateText = some ⟨86400 * c.date.dayNumber, 0⟩ := by
  have htrim := trim_dateText_append (c := c) (k := [])
  have hmark := readLoose_dateText (char 'T') (.inl rfl) c
  have hblanks := readLoose_dateText (fun cs => some (trimStart cs)) (.inr rfl) c
  rw [List.append_nil] at htrim
  unfold read
  rw [htrim (endsTight_dateText c)]
  dsimp only
  rw [readExact_dateText, hmark, hblanks, readDate_dateText]
  rfl

-- =========================================================== notations

theorem ofString?_ofList (cs : List Char) : ofString? (String.ofList cs) = read cs := by
  unfold ofString?
  rw [String.toList_ofList]

/-- With a `Z` behind, a date and a time are in universal time. -/
theorem ofString?_zulu (c : Civil) : ofString? (c.text 'T' ['Z']) = some c.instant := by
  have hoffset : offset ['Z'] = some (0, []) := rfl
  have hread := read_offset (c := c) hoffset (endsFraction_cons rfl (by decide) [])
    ⟨'Z', rfl, rfl⟩
  rw [Int.sub_zero] at hread
  rw [Civil.text, ofString?_ofList]
  exact hread

/-- With nothing behind, too. -/
theorem ofString?_loose {sep : Char} (hsep : sep = 'T' ∨ sep = ' ') (c : Civil) :
    ofString? (c.text sep []) = some c.instant := by
  rw [Civil.text, ofString?_ofList, List.append_nil]
  exact read_timeText hsep c

/-- An offset behind a date and a time is taken off. -/
theorem ofString?_offset (c : Civil) (o : Offset) :
    ofString? (c.text 'T' o.text) = some ⟨c.instant.seconds - o.seconds, c.instant.nanos⟩ := by
  have hoffset := offset_append o []
  have hsign : EndsFraction o.text := by
    unfold Offset.text
    cases o.ahead
    · exact endsFraction_cons rfl (by decide) _
    · exact endsFraction_cons rfl (by decide) _
  rw [List.append_nil] at hoffset
  rw [Civil.text, ofString?_ofList]
  exact read_offset hoffset hsign (endsTight_offset o)

/-- A date alone is its midnight. -/
theorem ofString?_date (c : Civil) :
    ofString? (String.ofList c.dateText) = some ⟨86400 * c.date.dayNumber, 0⟩ := by
  rw [ofString?_ofList]
  exact read_dateText c

/-- The midnight of a date, written out. -/
theorem text_midnight (c : Civil) :
    String.ofList c.dateText ++ "T00:00:00Z" = c.midnight.text 'T' ['Z'] := by
  have hfraction : c.midnight.fractionText = [] := if_pos rfl
  have htime : 'T' :: (c.midnight.timeText ++ ['Z']) = "T00:00:00Z".toList := by
    rw [Civil.timeText, hfraction]
    show 'T' :: (zeroPadded 2 0 ++ ':' :: (zeroPadded 2 0 ++ ':' :: (zeroPadded 2 0 ++ []))
      ++ ['Z']) = _
    decide
  have hdate : c.midnight.dateText = c.dateText := rfl
  rw [Civil.text, htime, hdate, String.ofList_append, String.ofList_toList]

/-- Blanks around a timestamp do not count. -/
theorem ofString?_between_blanks {lead back : String} (hlead : IsBlanks lead.toList)
    (hback : IsBlanks back.toList) (text : String) :
    ofString? (lead ++ text ++ back) = ofString? text := by
  unfold ofString?
  rw [String.toList_append, String.toList_append]
  exact read_between_blanks hlead hback text.toList

end Timestamp

-- ============================================== the notations agree

/-- Of a date of a year of four digits and a time of day, the three notations
in universal time are read as one instant: the days since the first of January
1970 in seconds, the seconds of the day, and the fraction in nanoseconds, with
a thousand million of these for a leap second.  An offset behind is taken
off, a date alone is its midnight, and blanks around a text do not count. -/
theorem timestamp_notations_agree (c : Civil) (o : Offset) :
    (Timestamp.ofString? (c.text 'T' ['Z']) = some c.instant
      ∧ Timestamp.ofString? (c.text 'T' []) = some c.instant
      ∧ Timestamp.ofString? (c.text ' ' []) = some c.instant)
    ∧ Timestamp.ofString? (c.text 'T' o.text)
        = some ⟨c.instant.seconds - o.seconds, c.instant.nanos⟩
    ∧ (Timestamp.ofString? (String.ofList c.dateText) = some ⟨86400 * c.date.dayNumber, 0⟩
      ∧ Timestamp.ofString? (String.ofList c.dateText ++ "T00:00:00Z")
        = some ⟨86400 * c.date.dayNumber, 0⟩)
    ∧ (Date.dayNumber ⟨1970, 1, 1⟩ = 0
      ∧ ∀ d : Date, d.isValid = true → d.next.dayNumber = d.dayNumber + 1)
    ∧ ∀ lead text back : String, IsBlanks lead.toList → IsBlanks back.toList →
        Timestamp.ofString? (lead ++ text ++ back) = Timestamp.ofString? text := by
  have hmidnight : Timestamp.ofString? (String.ofList c.dateText ++ "T00:00:00Z")
      = some ⟨86400 * c.date.dayNumber, 0⟩ := by
    rw [Timestamp.text_midnight, Timestamp.ofString?_zulu, c.instant_midnight]
  refine ⟨⟨Timestamp.ofString?_zulu c, ?_, ?_⟩, Timestamp.ofString?_offset c o,
    ⟨Timestamp.ofString?_date c, hmidnight⟩, ⟨Date.dayNumber_epoch, fun _ => Date.dayNumber_next⟩,
    fun lead text back hlead hback => Timestamp.ofString?_between_blanks hlead hback text⟩
  · exact Timestamp.ofString?_loose (.inl rfl) c
  · exact Timestamp.ofString?_loose (.inr rfl) c

/-- The last second of 2016, which was a leap second, and a quarter of a second
in it. -/
def lastOf2016 : Civil where
  year := 2016
  month := 12
  day := 31
  hour := 23
  minute := 59
  second := 60
  fraction := ['2', '5']
  year_lt := by decide
  month_pos := by decide
  month_le := by decide
  day_pos := by decide
  day_le := by decide
  hour_lt := by decide
  minute_lt := by decide
  second_le := by decide
  isDigit_fraction := by simp [isDigit]
  length_fraction_le := by decide

/-- Clocks that are five hours and a half ahead. -/
def fiveAndAHalfAhead : Offset := ⟨true, 5, 30, by decide, by decide⟩

theorem timestamp_notations_agree_leap_second :
    Timestamp.ofString? "2016-12-31T23:59:60.25Z" = some ⟨1483228799, 1250000000⟩
    ∧ Timestamp.ofString? "2016-12-31T23:59:60.25" = some ⟨1483228799, 1250000000⟩
    ∧ Timestamp.ofString? "2016-12-31 23:59:60.25" = some ⟨1483228799, 1250000000⟩
    ∧ Timestamp.ofString? "2016-12-31T23:59:60.25+05:30" = some ⟨1483208999, 1250000000⟩
    ∧ Timestamp.ofString? ("\t" ++ "2016-12-31" ++ " ") = some ⟨1483142400, 0⟩ := by
  obtain ⟨⟨hzulu, hnone, hblank⟩, hahead, ⟨hdate, -⟩, -, hspaced⟩ :=
    timestamp_notations_agree lastOf2016 fiveAndAHalfAhead
  have htab : IsBlanks "\t".toList ∧ IsBlanks " ".toList := by
    simp [IsBlanks, isBlank]
  have htexts : lastOf2016.text 'T' ['Z'] = "2016-12-31T23:59:60.25Z"
      ∧ lastOf2016.text 'T' [] = "2016-12-31T23:59:60.25"
      ∧ lastOf2016.text ' ' [] = "2016-12-31 23:59:60.25"
      ∧ lastOf2016.text 'T' fiveAndAHalfAhead.text = "2016-12-31T23:59:60.25+05:30"
      ∧ String.ofList lastOf2016.dateText = "2016-12-31" := by decide
  have hinstant : lastOf2016.instant = ⟨1483228799, 1250000000⟩ := by decide +kernel
  have hmidnight : 86400 * lastOf2016.date.dayNumber = 1483142400 := by decide +kernel
  have hoffset : fiveAndAHalfAhead.seconds = 19800 := by decide
  obtain ⟨htzulu, htnone, htblank, htahead, htdate⟩ := htexts
  rw [htzulu, hinstant] at hzulu
  rw [htnone, hinstant] at hnone
  rw [htblank, hinstant] at hblank
  rw [htahead, hinstant, hoffset] at hahead
  rw [htdate, hmidnight] at hdate
  exact ⟨hzulu, hnone, hblank, hahead, (hspaced "\t" "2016-12-31" " " htab.1 htab.2).trans hdate⟩

end Docket
