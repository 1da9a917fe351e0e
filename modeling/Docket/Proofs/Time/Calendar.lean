/-
The calendar as an order of days.  Every date is followed by another one,
and day numbers count these steps from the first of January 1970.  So they
grow with the date: within a month with the day, from month to month by the
lengths of the months between, and from year to year.

Main statements: the day number of the next date is one more; and one date
has a smaller day number than another exactly if it is earlier, by its year,
then its month, then its day.
-/
import Docket.Time.Calendar

namespace Docket

variable {y y' : Int} {m m' : Nat} {d e : Date}

namespace Date

-- ================================================ statement vocabulary

/-- The date after a date. -/
def next (d : Date) : Date :=
  if d.day < daysInMonth d.year d.month then ⟨d.year, d.month, d.day + 1⟩
  else if d.month < 12 then ⟨d.year, d.month + 1, 1⟩
  else ⟨d.year + 1, 1, 1⟩

/-- The first date is earlier: by its year, or in the same year by its
month, or in the same month by its day. -/
def Earlier (d e : Date) : Prop :=
  d.year < e.year
    ∨ d.year = e.year ∧ (d.month < e.month ∨ d.month = e.month ∧ d.day < e.day)

-- ============================================================ counting

theorem isValid_iff : d.isValid = true ↔ firstYear ≤ d.year ∧ d.year ≤ lastYear
    ∧ 1 ≤ d.month ∧ d.month ≤ 12 ∧ 1 ≤ d.day ∧ d.day ≤ daysInMonth d.year d.month := by
  unfold isValid
  simp only [Bool.and_eq_true, decide_eq_true_eq, and_assoc]

/-- Days are counted from the first of January 1970. -/
theorem dayNumber_epoch : dayNumber ⟨1970, 1, 1⟩ = 0 := by decide

/-- December has 31 days in every year. -/
theorem daysInMonth_december (y : Int) : daysInMonth y 12 = 31 := rfl

/-- Day numbers count the steps from date to date. -/
theorem dayNumber_next (h : d.isValid = true) : d.next.dayNumber = d.dayNumber + 1 := by
  obtain ⟨y, m, n⟩ := d
  obtain ⟨-, -, hm, hm', hn, hn'⟩ := isValid_iff.1 h
  dsimp only at hm hm' hn hn'
  obtain ⟨n, rfl⟩ : ∃ k, n = k + 1 := ⟨n - 1, by omega⟩
  obtain ⟨m, rfl⟩ : ∃ k, m = k + 1 := ⟨m - 1, by omega⟩
  unfold next
  dsimp only
  by_cases hday : n + 1 < daysInMonth y (m + 1)
  · rw [if_pos hday]
    exact dayNumber_succ_day y (m + 1) n
  · have hlast : n + 1 = daysInMonth y (m + 1) := by omega
    rw [if_neg hday, hlast]
    by_cases hmonth : m + 1 < 12
    · rw [if_pos hmonth]
      exact dayNumber_succ_month y m
    · obtain rfl : m = 11 := by omega
      rw [if_neg hmonth, daysInMonth_december]
      exact dayNumber_succ_year y

-- ============================================================ ordering

/-- A month ends before a later one begins. -/
theorem daysBeforeMonth_add_le (y : Int) (hm : 1 ≤ m) (h : m < m') :
    daysBeforeMonth y m + daysInMonth y m ≤ daysBeforeMonth y m' := by
  induction m' with
  | zero => omega
  | succ m' ih =>
      have hstep : daysBeforeMonth y (m' + 1) = daysBeforeMonth y m' + daysInMonth y m' := by
        cases m' with
        | zero => omega
        | succ m' => rfl
      rw [hstep]
      rcases Nat.lt_or_ge m m' with hlt | hge
      · have hbefore := ih hlt
        omega
      · obtain rfl : m = m' := by omega
        exact Nat.le_refl _

/-- A year begins no later than a later one. -/
theorem daysBeforeYear_mono (h : y ≤ y') : daysBeforeYear y ≤ daysBeforeYear y' := by
  simp only [daysBeforeYear]
  omega

/-- No date of a year comes after its last day. -/
theorem dayNumber_le_december (hm : 1 ≤ d.month) (hm' : d.month ≤ 12)
    (hn : d.day ≤ daysInMonth d.year d.month) : d.dayNumber ≤ dayNumber ⟨d.year, 12, 31⟩ := by
  have hlast := daysInMonth_december d.year
  simp only [dayNumber]
  rcases Nat.lt_or_ge d.month 12 with hlt | hge
  · have hbefore := daysBeforeMonth_add_le d.year hm hlt
    omega
  · have htwelve : d.month = 12 := by omega
    rw [htwelve] at hn ⊢
    omega

/-- An earlier date has a smaller day number. -/
theorem dayNumber_lt_of_earlier (hd : d.isValid = true) (he : e.isValid = true)
    (h : d.Earlier e) : d.dayNumber < e.dayNumber := by
  obtain ⟨-, -, hm, hm', hn, hn'⟩ := isValid_iff.1 hd
  obtain ⟨-, -, hem, -, hen, -⟩ := isValid_iff.1 he
  rcases h with hyear | ⟨hyear, hmonth | ⟨hmonth, hday⟩⟩
  · -- a whole year ends between the two dates
    have hend := dayNumber_le_december hm hm' hn'
    have hnew := dayNumber_succ_year d.year
    have hmono : daysBeforeYear (d.year + 1) ≤ daysBeforeYear e.year :=
      daysBeforeYear_mono (by omega)
    have hfirst : daysBeforeMonth (d.year + 1) 1 = 0 := rfl
    simp only [dayNumber] at hend hnew ⊢
    omega
  · have hbefore := daysBeforeMonth_add_le d.year hm hmonth
    simp only [dayNumber, ← hyear]
    omega
  · simp only [dayNumber, ← hyear, ← hmonth]
    omega

/-- Of two different dates one is earlier. -/
theorem earlier_trichotomy (d e : Date) : d.Earlier e ∨ d = e ∨ e.Earlier d := by
  obtain ⟨y, m, n⟩ := d
  obtain ⟨y', m', n'⟩ := e
  simp only [Earlier, Date.mk.injEq]
  omega

/-- Dates are ordered as their day numbers. -/
theorem dayNumber_lt_iff (hd : d.isValid = true) (he : e.isValid = true) :
    d.dayNumber < e.dayNumber ↔ d.Earlier e := by
  refine ⟨fun h => ?_, dayNumber_lt_of_earlier hd he⟩
  rcases earlier_trichotomy d e with hlt | rfl | hgt
  · exact hlt
  · omega
  · have hafter := dayNumber_lt_of_earlier he hd hgt
    omega

/-- Different dates have different day numbers. -/
theorem dayNumber_inj (hd : d.isValid = true) (he : e.isValid = true) :
    d.dayNumber = e.dayNumber ↔ d = e := by
  refine ⟨fun h => ?_, fun h => h ▸ rfl⟩
  rcases earlier_trichotomy d e with hlt | heq | hgt
  · have hbefore := dayNumber_lt_of_earlier hd he hlt
    omega
  · exact heq
  · have hafter := dayNumber_lt_of_earlier he hd hgt
    omega

end Date

end Docket
