/-
Queries for what was closed since some time follow the order of time.  They
compare instants, strictly; and of timestamps of one form, in universal time
and without a fraction, the instants are ordered as the texts themselves are,
because each of their numbers has a fixed width and comes before the smaller
ones.

A text that is read as a timestamp holds no `)`, since no reader of
`Time/Timestamp` goes past one (`not_mem_of_read`), so it can stand in the
brackets of a query.

Main statements: a query with one such timestamp keeps a record closed at
another one exactly if that comes later in the order of texts; of the records
closed at two times, each kept by the query for the other, there is exactly
one, unless the times are equal; and a query for an earlier time keeps more.
-/
import Docket.Proofs.Query.Catalogue
import Docket.Proofs.Time.Notation

namespace Docket

-- ================================================ statement vocabulary

/-- A text such as `2020-01-01T12:00:00`, maybe with a `Z` behind: a date of
a year of four digits, and a time of day without a fraction. -/
def IsPlainTime (text : String) : Prop :=
  ∃ c : Civil, c.fraction = [] ∧ (text = c.text 'T' [] ∨ text = c.text 'T' ['Z'])

/-- The part of such a text in front of the `Z`. -/
def stamp (text : String) : List Char := text.toList.take 19

/-- Exactly one of the three. -/
def ExactlyOne (p q r : Prop) : Prop :=
  p ∧ ¬ q ∧ ¬ r ∨ ¬ p ∧ q ∧ ¬ r ∨ ¬ p ∧ ¬ q ∧ r

variable {c e : Civil} {i j : Instant} {k rest cs : List Char} {n least most : Nat}

-- ============================================== texts as time passes

/-- A date and a time of day come before others: by the date, then by the
hour, the minute and the second. -/
def Civil.Before (c e : Civil) : Prop :=
  c.date.Earlier e.date ∨ c.date = e.date
    ∧ (c.hour < e.hour ∨ c.hour = e.hour
      ∧ (c.minute < e.minute ∨ c.minute = e.minute ∧ c.second < e.second))

/-- The characters of a time without a fraction. -/
theorem Civil.stamp_text (hc : c.fraction = []) (behind : List Char) :
    stamp (c.text 'T' behind)
      = zeroPadded 4 c.year ++ '-' :: (zeroPadded 2 c.month ++ '-' :: (zeroPadded 2 c.day
          ++ 'T' :: (zeroPadded 2 c.hour ++ ':' :: (zeroPadded 2 c.minute
            ++ ':' :: zeroPadded 2 c.second)))) := by
  have hfraction : c.fractionText = [] := if_pos hc
  have htext : (c.text 'T' behind).toList = (c.dateText ++ 'T' :: c.timeText) ++ behind := by
    simp [Civil.text]
  have hlength : (c.dateText ++ 'T' :: c.timeText).length = 19 := by
    simp [Civil.dateText, Civil.timeText, hfraction]
  rw [stamp, htext, List.take_left' hlength]
  simp [Civil.dateText, Civil.timeText, hfraction]

/-- The stamp of one time comes before that of another in the order of texts
if the one time comes before the other. -/
theorem Civil.stamp_lt_iff (hc : c.fraction = []) (he : e.fraction = []) (k l : List Char) :
    stamp (c.text 'T' k) < stamp (e.text 'T' l) ↔ c.Before e := by
  obtain ⟨hmonth, hday, hhour, hminute, hsecond⟩ := c.lt_hundred
  obtain ⟨hmonth', hday', hhour', hminute', hsecond'⟩ := e.lt_hundred
  rw [stamp_text hc, stamp_text he,
    zeroPadded_append_lt_iff c.year_lt e.year_lt, cons_lt_cons_self_iff,
    zeroPadded_append_lt_iff hmonth hmonth', cons_lt_cons_self_iff,
    zeroPadded_append_lt_iff hday hday', cons_lt_cons_self_iff,
    zeroPadded_append_lt_iff hhour hhour', cons_lt_cons_self_iff,
    zeroPadded_append_lt_iff hminute hminute', cons_lt_cons_self_iff,
    zeroPadded_lt_iff hsecond hsecond']
  simp only [Civil.Before, Date.Earlier, Civil.date, Date.mk.injEq]
  omega

/-- Without a fraction only a leap second has nanoseconds. -/
theorem Civil.nanos_instant (hc : c.fraction = []) :
    c.instant.nanos = if c.second = 60 then 1000000000 else 0 := by
  show c.nanos + (if c.second = 60 then 1000000000 else 0) = _
  rw [nanos_of_nil hc, Nat.zero_add]

/-- The instant of one time comes before that of another if the one time comes
before the other.  A leap second has the seconds of the second before it, so
between these two the nanoseconds decide. -/
theorem Civil.instant_before_iff (hc : c.fraction = []) (he : e.fraction = []) :
    c.instant.before e.instant = true ↔ c.Before e := by
  have hday := Date.dayNumber_lt_iff c.isValid_date e.isValid_date
  have hsame := Date.dayNumber_inj c.isValid_date e.isValid_date
  obtain ⟨hhour, hminute, hsecond⟩ := And.intro c.hour_lt (And.intro c.minute_lt c.second_le)
  obtain ⟨hhour', hminute', hsecond'⟩ := And.intro e.hour_lt (And.intro e.minute_lt e.second_le)
  unfold Instant.before Civil.Before
  rw [Bool.or_eq_true, Bool.and_eq_true, decide_eq_true_eq, decide_eq_true_eq, decide_eq_true_eq,
    nanos_instant hc, nanos_instant he, ← hday, ← hsame]
  simp only [Civil.instant]
  split <;> split <;> omega

-- ============================================ readers and brackets

namespace Timestamp

-- No reader goes past a `)`: one that stands in a text still stands in what the
-- reader leaves of it.  So a reader that leaves nothing has met none.

theorem mem_of_append (hmem : ')' ∈ cs ++ k) (hcs : ')' ∉ cs) : ')' ∈ k :=
  (List.mem_append.1 hmem).resolve_left hcs

theorem mem_of_cons {ch : Char} (hch : ch ≠ ')') (hmem : ')' ∈ ch :: cs) : ')' ∈ cs :=
  (List.mem_cons.1 hmem).resolve_left hch.symm

theorem mem_of_char {ch : Char} (hch : ch ≠ ')') (h : char ch cs = some k) (hmem : ')' ∈ cs) :
    ')' ∈ k := by
  cases cs with
  | nil => cases h
  | cons c cs =>
      have hread : (if c = ch then some cs else none) = some k := h
      by_cases hc : c = ch
      · rw [if_pos hc] at hread
        obtain rfl := Option.some.inj hread
        exact mem_of_cons (hc ▸ hch) hmem
      · rw [if_neg hc] at hread
        cases hread

theorem mem_of_trimStart (hmem : ')' ∈ cs) : ')' ∈ trimStart cs := by
  rw [← takeWhile_append_trimStart cs] at hmem
  refine mem_of_append hmem fun htaken => ?_
  exact absurd (List.mem_takeWhile_imp htaken) (by decide)

/-- A run of digits in front holds none. -/
theorem mem_drop_digits {ds : List Char} (hds : ∀ d ∈ ds, isDigit d = true) (hfront : ds <+: cs)
    (hmem : ')' ∈ cs) : ')' ∈ cs.drop ds.length := by
  rw [← List.prefix_iff_eq_append.1 hfront] at hmem
  refine mem_of_append hmem fun htaken => ?_
  exact absurd (hds _ htaken) (by decide)

theorem mem_of_number (h : number least most cs = some (n, k)) (hmem : ')' ∈ cs) : ')' ∈ k := by
  have hfront : (cs.take most).takeWhile isDigit <+: cs :=
    (List.takeWhile_prefix _).trans (List.take_prefix _ _)
  have hrest := mem_drop_digits (fun _ => List.mem_takeWhile_imp) hfront hmem
  unfold number at h
  dsimp only at h
  by_cases hleast : least ≤ ((cs.take most).takeWhile isDigit).length
  · rw [if_pos hleast] at h
    obtain ⟨-, rfl⟩ := Prod.mk.inj (Option.some.inj h)
    exact hrest
  · rw [if_neg hleast] at h
    cases h

theorem mem_of_fraction (h : fraction cs = some (n, k)) (hmem : ')' ∈ cs) : ')' ∈ k := by
  unfold fraction at h
  split at h
  · next rest =>
      have hrest : ')' ∈ rest := mem_of_cons (by decide) hmem
      have hdigits := mem_drop_digits (fun _ => List.mem_takeWhile_imp)
        (List.takeWhile_prefix isDigit) hrest
      unfold nanoseconds at h
      dsimp only at h
      by_cases hnone : (rest.takeWhile isDigit).isEmpty = true
      · rw [if_pos hnone] at h
        cases h
      · rw [if_neg hnone] at h
        obtain ⟨-, rfl⟩ := Prod.mk.inj (Option.some.inj h)
        exact hdigits
  · obtain ⟨-, rfl⟩ := Prod.mk.inj (Option.some.inj h)
    exact hmem

theorem mem_of_shortNumber (h : shortNumber cs = some (n, k)) (hmem : ')' ∈ cs) : ')' ∈ k :=
  mem_of_number h (mem_of_trimStart hmem)

theorem mem_of_year {y : Int} (h : year cs = some (y, k)) (hmem : ')' ∈ cs) : ')' ∈ k := by
  have hstart := mem_of_trimStart hmem
  unfold year at h
  dsimp only at h
  split at h
  all_goals
    rw [Option.map_eq_some_iff] at h
    obtain ⟨⟨n, rest⟩, hnumber, hpair⟩ := h
    obtain ⟨-, rfl⟩ := Prod.mk.inj hpair
  · next heq =>
      rw [heq] at hstart
      exact mem_of_number hnumber (mem_of_cons (by decide) hstart)
  · next heq =>
      rw [heq] at hstart
      exact mem_of_number hnumber (mem_of_cons (by decide) hstart)
  · exact mem_of_number hnumber hstart

theorem mem_of_date {d : Date} (h : date cs = some (d, k)) (hmem : ')' ∈ cs) : ')' ∈ k := by
  simp only [date, Option.bind_eq_bind, Option.bind_eq_some_iff, Prod.exists] at h
  obtain ⟨y, cs₁, hyear, cs₂, hmark, m, cs₃, hmonth, cs₄, hmark', n, cs₅, hday, hdone⟩ := h
  obtain ⟨-, rfl⟩ := Prod.mk.inj (Option.some.inj hdone)
  have h₂ := mem_of_char (by decide) hmark (mem_of_year hyear hmem)
  have h₄ := mem_of_char (by decide) hmark' (mem_of_shortNumber hmonth h₂)
  exact mem_of_shortNumber hday h₄

theorem mem_of_clock {t : Clock} (h : clock cs = some (t, k)) (hmem : ')' ∈ cs) : ')' ∈ k := by
  simp only [clock, Option.bind_eq_bind, Option.bind_eq_some_iff, Prod.exists] at h
  obtain ⟨hour, cs₁, hhour, cs₂, hmark, minute, cs₃, hminute, cs₄, hmark', second, cs₅, hsecond,
    nanos, cs₆, hfraction, hdone⟩ := h
  obtain ⟨-, rfl⟩ := Prod.mk.inj (Option.some.inj hdone)
  have h₂ := mem_of_char (by decide) hmark (mem_of_shortNumber hhour hmem)
  have h₄ := mem_of_char (by decide) hmark' (mem_of_shortNumber hminute h₂)
  exact mem_of_fraction hfraction (mem_of_shortNumber hsecond h₄)

theorem mem_of_offset {seconds : Int} (h : offset cs = some (seconds, k)) (hmem : ')' ∈ cs) :
    ')' ∈ k := by
  unfold offset at h
  split at h
  · next rest =>
      obtain ⟨-, rfl⟩ := Prod.mk.inj (Option.some.inj h)
      exact mem_of_cons (by decide) hmem
  · next rest =>
      obtain ⟨-, rfl⟩ := Prod.mk.inj (Option.some.inj h)
      exact mem_of_cons (by decide) hmem
  · next sign rest _ _ =>
      have hbracket : sign ≠ ')' := by
        rintro rfl
        simp at h
      have hrest := mem_of_cons hbracket hmem
      -- whichever sign it is, two numbers follow
      split at h
      case' isFalse => split at h
      case isFalse.isFalse => cases h
      all_goals
        simp only [Option.bind_eq_bind, Option.bind_some, Option.bind_eq_some_iff, Prod.exists] at h
        obtain ⟨hours, cs₁, hhours, cs₂, hmark, minutes, cs₃, hminutes, hdone⟩ := h
        have h₂ := mem_of_char (by decide) hmark (mem_of_number hhours hrest)
        split at hdone
        · obtain ⟨-, rfl⟩ := Prod.mk.inj (Option.some.inj hdone)
          exact mem_of_number hminutes h₂
        · cases hdone
  · cases h

/-- Where a reader has come to the end of a text, there was no `)` in it. -/
theorem not_mem_of_end {x : Option Instant} (h : (if cs.isEmpty then x else none) = some i)
    (hmem : ')' ∈ cs) : False := by
  cases cs with
  | nil => cases hmem
  | cons d ds => cases h

theorem not_mem_of_readExact (h : readExact cs = some i) : ')' ∉ cs := by
  intro hmem
  unfold readExact at h
  obtain ⟨⟨y, cs₁⟩, hyear, h⟩ := Option.bind_eq_some_iff.1 h
  obtain ⟨cs₂, hmark, h⟩ := Option.bind_eq_some_iff.1 h
  obtain ⟨⟨m, cs₃⟩, hmonth, h⟩ := Option.bind_eq_some_iff.1 h
  obtain ⟨cs₄, hmark', h⟩ := Option.bind_eq_some_iff.1 h
  obtain ⟨⟨n, cs₅⟩, hday, h⟩ := Option.bind_eq_some_iff.1 h
  have h₂ := mem_of_char (by decide) hmark (mem_of_number hyear hmem)
  have h₄ := mem_of_char (by decide) hmark' (mem_of_number hmonth h₂)
  have h₅ := mem_of_number hday h₄
  dsimp only at h
  split at h
  case h_4 => cases h
  all_goals
    have hrest := mem_of_cons (by decide) h₅
    obtain ⟨rest, hsep, h⟩ := Option.bind_eq_some_iff.1 h
    obtain rfl := Option.some.inj hsep
    obtain ⟨⟨hour, cs₆⟩, hhour, h⟩ := Option.bind_eq_some_iff.1 h
    obtain ⟨cs₇, hcolon, h⟩ := Option.bind_eq_some_iff.1 h
    obtain ⟨⟨minute, cs₈⟩, hminute, h⟩ := Option.bind_eq_some_iff.1 h
    obtain ⟨cs₉, hcolon', h⟩ := Option.bind_eq_some_iff.1 h
    obtain ⟨⟨second, cs₁₀⟩, hsecond, h⟩ := Option.bind_eq_some_iff.1 h
    obtain ⟨⟨nanos, cs₁₁⟩, hfraction, h⟩ := Option.bind_eq_some_iff.1 h
    obtain ⟨⟨seconds, cs₁₂⟩, hoffset, hdone⟩ := Option.bind_eq_some_iff.1 h
    have h₇ := mem_of_char (by decide) hcolon (mem_of_number hhour hrest)
    have h₉ := mem_of_char (by decide) hcolon' (mem_of_number hminute h₇)
    have h₁₁ := mem_of_fraction hfraction (mem_of_number hsecond h₉)
    exact not_mem_of_end hdone (mem_of_offset hoffset h₁₁)

/-- A loose reader does not take a `)` if what it reads between does not. -/
theorem not_mem_of_readLoose {between : List Char → Option (List Char)}
    (hbetween : ∀ cs k, between cs = some k → ')' ∈ cs → ')' ∈ k)
    (h : readLoose between cs = some i) : ')' ∉ cs := by
  intro hmem
  simp only [readLoose, Option.bind_eq_bind, Option.bind_eq_some_iff, Prod.exists] at h
  obtain ⟨d, cs₁, hdate, cs₂, hsep, t, cs₃, hclock, hdone⟩ := h
  have h₂ := hbetween cs₁ cs₂ hsep (mem_of_date hdate hmem)
  exact not_mem_of_end hdone (mem_of_clock hclock h₂)

theorem not_mem_of_readDate (h : readDate cs = some i) : ')' ∉ cs := by
  intro hmem
  simp only [readDate, Option.bind_eq_bind, Option.bind_eq_some_iff, Prod.exists] at h
  obtain ⟨d, cs₁, hdate, hdone⟩ := h
  exact not_mem_of_end hdone (mem_of_date hdate hmem)

/-- What one of the four readers takes holds no `)`. -/
theorem not_mem_of_read (h : read cs = some i) : ')' ∉ trim cs := by
  unfold read at h
  simp only [Option.orElse_eq_orElse, Option.orElse_eq_or, Option.or_eq_some_iff] at h
  rcases h with hexact | ⟨-, hmark | ⟨-, hblank | ⟨-, hdate⟩⟩⟩
  · exact not_mem_of_readExact hexact
  · exact not_mem_of_readLoose (fun cs k hsep => mem_of_char (by decide) hsep) hmark
  · refine not_mem_of_readLoose (fun cs k hsep hmem => ?_) hblank
    obtain rfl := Option.some.inj hsep
    exact mem_of_trimStart hmem
  · exact not_mem_of_readDate hdate

/-- A text that is read as a timestamp holds no `)`. -/
theorem not_mem_of_ofString? {s : String} (h : ofString? s = some i) : ')' ∉ s.toList := by
  obtain ⟨lead, back, hlead, hback, hs⟩ := exists_blanks_trim s.toList
  have hnone : ∀ {b}, IsBlanks b → ')' ∉ b := fun hb hmem => absurd (hb _ hmem) (by decide)
  rw [hs, List.mem_append, List.mem_append]
  rintro (hmem | hmem | hmem)
  · exact hnone hlead hmem
  · exact not_mem_of_read h hmem
  · exact hnone hback hmem

/-- A text is read as what trimming leaves of it. -/
theorem ofString?_trimText (s : String) : ofString? (trimText s) = ofString? s := by
  obtain ⟨lead, back, hlead, hback, hs⟩ := exists_blanks_trim s.toList
  have hread := read_between_blanks hlead hback (trim s.toList)
  rw [List.append_assoc, ← hs] at hread
  rw [trimText, ofString?_ofList, ← hread]
  rfl

end Timestamp

-- ============================================== queries by closing time

/-- A query for what was closed since a time that can be read is read as one
filter for that time. -/
theorem Query.parse_closedSince_of_time {s : String} (h : Timestamp.ofString? s = some i) :
    Query.parse (FilterName.closedSince.call s) = .ok ⟨[.closedSince i], ""⟩ := by
  rw [parse_closedSince (Timestamp.not_mem_of_ofString? h), Timestamp.ofString?_trimText, h]

/-- Of a record closed at a time that can be read, the filter compares it. -/
theorem Filter.holds_closedSince {r : Record} {s : String} (hclosed : r.closedAt = some s)
    (h : Timestamp.ofString? s = some j) : (Filter.closedSince i).holds r = i.before j := by
  have htime : r.closedTime = some j := by
    rw [Record.closedTime, hclosed, Option.bind_some, h]
  show r.closedTime.any i.before = i.before j
  rw [htime]
  rfl

/-- A filter for an earlier time holds wherever one for a later time does. -/
theorem Filter.holds_closedSince_mono {r : Record} (hij : i.before j = false)
    (h : (Filter.closedSince i).holds r = true) : (Filter.closedSince j).holds r = true := by
  have hany : r.closedTime.any i.before = true := h
  show r.closedTime.any j.before = true
  cases htime : r.closedTime with
  | none =>
      rw [htime] at hany
      cases hany
  | some t =>
      rw [htime] at hany
      have hit : i.before t = true := hany
      show j.before t = true
      rcases Instant.before_trichotomy i j with hlt | rfl | hgt
      · rw [hij] at hlt
        cases hlt
      · exact hit
      · exact Instant.before_trans hgt hit

/-- Of two instants one is before the other, unless they are one. -/
theorem Instant.exactlyOne_before (i j : Instant) :
    ExactlyOne (i.before j = true) (j.before i = true) (i = j) := by
  unfold ExactlyOne
  have hirrefl : ∀ t : Instant, ¬ t.before t = true := fun t h => by
    rw [before_irrefl] at h
    cases h
  rcases before_trichotomy i j with hlt | rfl | hgt
  · refine .inl ⟨hlt, fun hgt => hirrefl i (before_trans hlt hgt), ?_⟩
    rintro rfl
    exact hirrefl i hlt
  · exact .inr (.inr ⟨hirrefl i, hirrefl i, rfl⟩)
  · refine .inr (.inl ⟨fun hlt => hirrefl i (before_trans hlt hgt), hgt, ?_⟩)
    rintro rfl
    exact hirrefl i hgt

theorem IsPlainTime.exists_instant {text : String} (h : IsPlainTime text) :
    ∃ c : Civil, c.fraction = [] ∧ Timestamp.ofString? text = some c.instant
      ∧ ∃ behind, text = c.text 'T' behind := by
  obtain ⟨c, hc, rfl | rfl⟩ := h
  · exact ⟨c, hc, Timestamp.ofString?_loose (.inl rfl) c, [], rfl⟩
  · exact ⟨c, hc, Timestamp.ofString?_zulu c, ['Z'], rfl⟩

/-- `closed_since` is the order of time, strictly.  A query for a plain time is
read, with nothing left over, as one filter, which keeps a record closed at
another plain time exactly if that comes later in the order of texts.  For
any two texts that are read as times, of the records closed at either exactly
one is kept by the query for the other, unless the times are the same; and if
the second time is not later than the first, the query for it keeps all that
the query for the first does. -/
theorem closed_since_chronological :
    (∀ since : String, IsPlainTime since →
      ∃ f, Query.parse (FilterName.closedSince.call since) = .ok ⟨[f], ""⟩
        ∧ ∀ (r : Record) (closed : String), r.closedAt = some closed → IsPlainTime closed →
          (f.holds r = true ↔ stamp since < stamp closed))
    ∧ ∀ (s t : String) (i j : Instant), Timestamp.ofString? s = some i →
      Timestamp.ofString? t = some j →
      ∃ f g, Query.parse (FilterName.closedSince.call s) = .ok ⟨[f], ""⟩
        ∧ Query.parse (FilterName.closedSince.call t) = .ok ⟨[g], ""⟩
        ∧ (∀ r r' : Record, r.closedAt = some s → r'.closedAt = some t →
          ExactlyOne (f.holds r' = true) (g.holds r = true) (i = j))
        ∧ (i.before j = false → ∀ r : Record, f.holds r = true → g.holds r = true) := by
  constructor
  · intro since hsince
    obtain ⟨c, hc, htime, behind, rfl⟩ := hsince.exists_instant
    refine ⟨_, Query.parse_closedSince_of_time htime, fun r closed hr hclosed => ?_⟩
    obtain ⟨e, he, htime', behind', rfl⟩ := hclosed.exists_instant
    rw [Filter.holds_closedSince hr htime', Civil.instant_before_iff hc he,
      Civil.stamp_lt_iff hc he]
  · intro s t i j hs ht
    refine ⟨_, _, Query.parse_closedSince_of_time hs, Query.parse_closedSince_of_time ht,
      fun r r' hr hr' => ?_, fun hij r => Filter.holds_closedSince_mono hij⟩
    rw [Filter.holds_closedSince hr' ht, Filter.holds_closedSince hr hs]
    exact Instant.exactlyOne_before i j

/-- The leap second that 2016 ended with. -/
theorem isPlainTime_leapSecond : IsPlainTime "2016-12-31T23:59:60" :=
  ⟨⟨2016, 12, 31, 23, 59, 60, [], by decide, by decide, by decide, by decide, by decide, by decide,
    by decide, by decide, List.forall_mem_nil _, by decide⟩, rfl, .inl (by decide)⟩

/-- The second behind it. -/
theorem isPlainTime_newYear : IsPlainTime "2017-01-01T00:00:00Z" :=
  ⟨⟨2017, 1, 1, 0, 0, 0, [], by decide, by decide, by decide, by decide, by decide, by decide,
    by decide, by decide, List.forall_mem_nil _, by decide⟩, rfl, .inr (by decide)⟩

theorem closed_since_chronological_new_year :
    (∃ f, Query.parse "closed_since(2016-12-31T23:59:60)" = .ok ⟨[f], ""⟩
      ∧ ∀ r : Record, r.closedAt = some "2017-01-01T00:00:00Z" → f.holds r = true)
    ∧ ∃ f g, Query.parse "closed_since(2017-01-01)" = .ok ⟨[f], ""⟩
      ∧ Query.parse "closed_since(2017-01-01T01:00:00+01:00)" = .ok ⟨[g], ""⟩
      ∧ ∀ r r' : Record, r.closedAt = some "2017-01-01" →
        r'.closedAt = some "2017-01-01T01:00:00+01:00" →
        f.holds r' = false ∧ g.holds r = false := by
  obtain ⟨horder, htimes⟩ := closed_since_chronological
  constructor
  · have hleap := isPlainTime_leapSecond
    have hnew := isPlainTime_newYear
    have hlater : stamp "2016-12-31T23:59:60" < stamp "2017-01-01T00:00:00Z" := by decide
    obtain ⟨f, hparse, hkeeps⟩ := horder _ hleap
    exact ⟨f, hparse, fun r hr => (hkeeps r _ hr hnew).2 hlater⟩
  · have hdate : Timestamp.ofString? "2017-01-01" = some ⟨1483228800, 0⟩ := by decide +kernel
    have hahead : Timestamp.ofString? "2017-01-01T01:00:00+01:00" = some ⟨1483228800, 0⟩ := by
      decide +kernel
    obtain ⟨f, g, hparse, hparse', hone, -⟩ := htimes _ _ _ _ hdate hahead
    refine ⟨f, g, hparse, hparse', fun r r' hr hr' => ?_⟩
    rcases hone r r' hr hr' with ⟨-, -, hne⟩ | ⟨-, -, hne⟩ | ⟨hf, hg, -⟩
    · exact absurd rfl hne
    · exact absurd rfl hne
    · exact ⟨Bool.eq_false_iff.2 hf, Bool.eq_false_iff.2 hg⟩

end Docket
