/-
Instants: points in time as whole seconds since the start of 1970 and the
nanoseconds past them.  Inside a leap second, which shares the number of
the second before it, the nanoseconds run on from a thousand million.

Main statements: being before is a strict order, and of two different
instants one is before the other.
-/
import Docket.Time.Calendar

namespace Docket

/-- A point in time. -/
structure Instant where
  seconds : Int
  nanos : Nat
deriving DecidableEq, Repr

namespace Instant

/-- The first instant is strictly earlier. -/
def before (a b : Instant) : Bool :=
  a.seconds < b.seconds || (a.seconds = b.seconds && a.nanos < b.nanos)

/-- No instant is before itself. -/
theorem before_irrefl (a : Instant) : a.before a = false := by
  simp [before]

/-- Of two different instants one is before the other. -/
theorem before_trichotomy (a b : Instant) :
    a.before b = true ∨ a = b ∨ b.before a = true := by
  rcases a with ⟨s, n⟩
  rcases b with ⟨t, m⟩
  simp only [before, Instant.mk.injEq, Bool.or_eq_true, Bool.and_eq_true, decide_eq_true_eq]
  omega

/-- Being before is transitive. -/
theorem before_trans {a b c : Instant} (hab : a.before b = true) (hbc : b.before c = true) :
    a.before c = true := by
  simp only [before, Bool.or_eq_true, Bool.and_eq_true, decide_eq_true_eq] at *
  omega

end Instant

/-- A time of day: hour, minute, second (60 in a leap second) and the
nanoseconds past it. -/
structure Clock where
  hour : Nat
  minute : Nat
  second : Nat
  nanos : Nat
deriving DecidableEq, Repr

namespace Clock

/-- The time exists on a clock. -/
def isValid (t : Clock) : Bool :=
  t.hour < 24 && t.minute < 60 && t.second ≤ 60 && t.nanos < 1000000000

/-- Seconds past midnight; a leap second counts as the one before it. -/
def seconds (t : Clock) : Nat := 3600 * t.hour + 60 * t.minute + min t.second 59

/-- Nanoseconds past that second. -/
def fraction (t : Clock) : Nat := t.nanos + if t.second = 60 then 1000000000 else 0

end Clock

/-- The instant of a date and a time of day that is `offset` seconds ahead
of universal time, if they exist. -/
def Instant.ofCivil? (d : Date) (t : Clock) (offset : Int) : Option Instant :=
  if d.isValid && t.isValid then
    some ⟨86400 * d.dayNumber + t.seconds - offset, t.fraction⟩
  else none

end Docket
