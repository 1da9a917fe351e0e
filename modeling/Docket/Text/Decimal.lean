/-
Decimal numerals.  A run of ASCII digits has a value, leading zeros
allowed, and every natural number has one canonical numeral without them.

Main statements: the canonical numeral is a non-empty digit run, reads back
as its number and has no leading zero.
-/

namespace Docket

/-- One of `0` to `9`. -/
def isDigit (c : Char) : Bool := '0' ≤ c && c ≤ '9'

/-- The value of one digit. -/
def digitValue (c : Char) : Nat := c.toNat - '0'.toNat

/-- The value of a digit run read from the left, on top of `start`. -/
def decimalFrom (start : Nat) (ds : List Char) : Nat :=
  ds.foldl (fun n d => 10 * n + digitValue d) start

/-- The value of a digit run. -/
def decimal (ds : List Char) : Nat := decimalFrom 0 ds

/-- The digit of a value below ten. -/
def digit (n : Nat) : Char := Char.ofNat ('0'.toNat + n)

/-- The canonical numeral of a number: no leading zero but in `0`. -/
def numeral (n : Nat) : List Char :=
  if n < 10 then [digit n] else numeral (n / 10) ++ [digit (n % 10)]

/-- `numeral` as a string. -/
def numeralText (n : Nat) : String := String.ofList (numeral n)

/-- The least number that does not fit in 64 bits. -/
def wordLimit : Nat := 18446744073709551616

-- ================================================ numerals read back

/-- The digit of a value below ten is a digit of that value. -/
theorem digit_spec : ∀ n < 10, isDigit (digit n) = true ∧ digitValue (digit n) = n := by
  decide

/-- Reading a run in two parts. -/
theorem decimalFrom_append (start : Nat) (as bs : List Char) :
    decimalFrom start (as ++ bs) = decimalFrom (decimalFrom start as) bs :=
  List.foldl_append

/-- A numeral reads back as its number. -/
theorem decimal_numeral (n : Nat) : decimal (numeral n) = n := by
  induction n using Nat.strongRecOn with
  | _ n ih =>
    rw [numeral]
    split
    · next h => simp [decimal, decimalFrom, digit_spec n h]
    · next h =>
      have hq := ih (n / 10) (by omega)
      have hr := (digit_spec (n % 10) (by omega)).2
      simp only [decimal] at hq ⊢
      rw [decimalFrom_append, hq]
      simp only [decimalFrom, List.foldl_cons, List.foldl_nil, hr]
      omega

/-- A numeral holds digits only. -/
theorem isDigit_of_mem_numeral (n : Nat) : ∀ c ∈ numeral n, isDigit c = true := by
  induction n using Nat.strongRecOn with
  | _ n ih =>
    intro c hc
    rw [numeral] at hc
    split at hc
    · next h =>
      rw [List.mem_singleton.1 hc]
      exact (digit_spec n h).1
    · next h =>
      rcases List.mem_append.1 hc with hc | hc
      · exact ih (n / 10) (by omega) c hc
      · rw [List.mem_singleton.1 hc]
        exact (digit_spec (n % 10) (by omega)).1

/-- A numeral is not empty. -/
theorem numeral_ne_nil (n : Nat) : numeral n ≠ [] := by
  rw [numeral]
  split <;> simp

/-- A numeral begins with a digit. -/
theorem exists_numeral_eq_cons (n : Nat) : ∃ d ds, numeral n = d :: ds ∧ isDigit d = true := by
  obtain ⟨d, ds, hds⟩ := List.exists_cons_of_ne_nil (numeral_ne_nil n)
  exact ⟨d, ds, hds, isDigit_of_mem_numeral n d (by rw [hds]; simp)⟩

/-- A numeral of more than one digit does not begin with a zero. -/
theorem head?_numeral {n : Nat} (h : 10 ≤ n) : (numeral n).head? ≠ some '0' := by
  induction n using Nat.strongRecOn with
  | _ n ih =>
    have hdigit : ∀ m < 10, 0 < m → digit m ≠ '0' := by decide
    have hfront : (numeral (n / 10)).head? ≠ some '0' := by
      by_cases hq : 10 ≤ n / 10
      · exact ih (n / 10) (by omega) hq
      · rw [numeral, if_pos (by omega)]
        have hne := hdigit (n / 10) (by omega) (by omega)
        simpa using hne
    obtain ⟨d, ds, hds⟩ := List.exists_cons_of_ne_nil (numeral_ne_nil (n / 10))
    rw [numeral, if_neg (by omega)]
    rw [hds] at hfront ⊢
    exact hfront

end Docket
