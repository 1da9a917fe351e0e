/-
Numbers written with a fixed number of digits, zeros in front where there
are not enough.  Such a numeral is as long as it is said to be, so where it
ends does not depend on the text behind it, and the order of numerals as
texts is that of their numbers.

Main statements: a numeral of so many digits has the value of its number;
of two texts that begin with pieces of one length, the first pieces decide
the order unless they are equal; and numerals are ordered as their numbers.
-/
import Docket.Text.Decimal
import Mathlib.Data.List.Induction

namespace Docket

/-- The last `width` digits of a number. -/
def zeroPadded : Nat → Nat → List Char
  | 0, _ => []
  | width + 1, n => zeroPadded width (n / 10) ++ [digit (n % 10)]

-- ============================================================== digits

@[simp]
theorem length_zeroPadded (width n : Nat) : (zeroPadded width n).length = width := by
  induction width generalizing n with
  | zero => rfl
  | succ width ih => simp [zeroPadded, ih]

theorem isDigit_of_mem_zeroPadded {width n : Nat} : ∀ c ∈ zeroPadded width n, isDigit c = true := by
  induction width generalizing n with
  | zero => intro c hc; cases hc
  | succ width ih =>
      intro c hc
      rcases List.mem_append.1 hc with hc | hc
      · exact ih c hc
      · rw [List.mem_singleton.1 hc]
        exact (digit_spec (n % 10) (Nat.mod_lt n (by decide))).1

/-- A numeral with at least one digit begins with one. -/
theorem exists_zeroPadded_eq_cons (width n : Nat) :
    ∃ c cs, zeroPadded (width + 1) n = c :: cs ∧ isDigit c = true := by
  cases hp : zeroPadded (width + 1) n with
  | nil =>
      have hlength := length_zeroPadded (width + 1) n
      rw [hp] at hlength
      cases hlength
  | cons c cs => exact ⟨c, cs, rfl, isDigit_of_mem_zeroPadded c (by rw [hp]; simp)⟩

/-- A digit has a value below ten. -/
theorem digitValue_lt {c : Char} (h : isDigit c = true) : digitValue c < 10 := by
  unfold isDigit at h
  rw [Bool.and_eq_true, decide_eq_true_eq, decide_eq_true_eq] at h
  have hle : c.toNat ≤ '9'.toNat := h.2
  have hnine : '9'.toNat = 57 ∧ '0'.toNat = 48 := by decide
  unfold digitValue
  omega

/-- The value of a digit run with one more digit behind. -/
theorem decimal_concat (ds : List Char) (c : Char) :
    decimal (ds ++ [c]) = 10 * decimal ds + digitValue c := by
  unfold decimal
  rw [decimalFrom_append]
  rfl

/-- The value of a digit run is bounded by its length. -/
theorem decimal_lt {ds : List Char} (h : ∀ c ∈ ds, isDigit c = true) :
    decimal ds < Nat.pow 10 ds.length := by
  induction ds using List.reverseRecOn with
  | nil => decide
  | append_singleton ds c ih =>
      have hds := ih fun d hd => h d (List.mem_append_left _ hd)
      have hc := digitValue_lt (h c (by simp))
      have hpow : Nat.pow 10 (ds ++ [c]).length = Nat.pow 10 ds.length * 10 := by
        rw [List.length_append]
        rfl
      rw [decimal_concat, hpow]
      omega

/-- A numeral has the value of its number, if that has no more digits. -/
theorem decimal_zeroPadded {width n : Nat} (h : n < Nat.pow 10 width) :
    decimal (zeroPadded width n) = n := by
  induction width generalizing n with
  | zero =>
      have hzero : n < 1 := h
      obtain rfl : n = 0 := by omega
      rfl
  | succ width ih =>
      have hpow : n < Nat.pow 10 width * 10 := h
      have hfront : n / 10 < Nat.pow 10 width := by omega
      have hlast := (digit_spec (n % 10) (Nat.mod_lt n (by decide))).2
      rw [zeroPadded, decimal_concat, ih hfront, hlast]
      omega

-- =============================================================== order

/-- Of texts that begin with pieces of one length, those pieces decide the
order, unless they are equal. -/
theorem append_lt_append_iff {as bs xs ys : List Char} (h : as.length = bs.length) :
    as ++ xs < bs ++ ys ↔ as < bs ∨ as = bs ∧ xs < ys := by
  induction as generalizing bs with
  | nil =>
      cases bs with
      | nil => simp
      | cons b bs => cases h
  | cons a as ih =>
      cases bs with
      | nil => cases h
      | cons b bs =>
          have hlength : as.length = bs.length := Nat.succ.inj h
          rw [List.cons_append, List.cons_append, List.cons_lt_cons_iff, List.cons_lt_cons_iff,
            ih hlength, List.cons.injEq]
          grind

/-- Digits are ordered as their values. -/
theorem digit_lt_iff : ∀ m < 10, ∀ n < 10, digit m < digit n ↔ m < n := by
  decide

theorem zeroPadded_inj {width m n : Nat} (hm : m < Nat.pow 10 width) (hn : n < Nat.pow 10 width) :
    zeroPadded width m = zeroPadded width n ↔ m = n := by
  constructor
  · intro heq
    rw [← decimal_zeroPadded hm, heq, decimal_zeroPadded hn]
  · rintro rfl
    rfl

/-- Numerals of one length are ordered as their numbers. -/
theorem zeroPadded_lt_iff {width m n : Nat} (hm : m < Nat.pow 10 width)
    (hn : n < Nat.pow 10 width) : zeroPadded width m < zeroPadded width n ↔ m < n := by
  induction width generalizing m n with
  | zero =>
      have hzero : m < 1 ∧ n < 1 := ⟨hm, hn⟩
      have hnone : ¬ m < n := by omega
      simp [zeroPadded, hnone]
  | succ width ih =>
      have hpow : m < Nat.pow 10 width * 10 ∧ n < Nat.pow 10 width * 10 := ⟨hm, hn⟩
      have hm' : m / 10 < Nat.pow 10 width := by omega
      have hn' : n / 10 < Nat.pow 10 width := by omega
      have hlast : [digit (m % 10)] < [digit (n % 10)] ↔ m % 10 < n % 10 := by
        rw [List.cons_lt_cons_iff,
          digit_lt_iff _ (Nat.mod_lt m (by decide)) _ (Nat.mod_lt n (by decide))]
        simp
      rw [zeroPadded, zeroPadded, append_lt_append_iff (by simp), ih hm' hn',
        zeroPadded_inj hm' hn', hlast]
      omega

/-- Texts that begin with numerals of one length are ordered by their
numbers, and where these are equal by what stands behind. -/
theorem zeroPadded_append_lt_iff {width m n : Nat} {xs ys : List Char}
    (hm : m < Nat.pow 10 width) (hn : n < Nat.pow 10 width) :
    zeroPadded width m ++ xs < zeroPadded width n ++ ys ↔ m < n ∨ m = n ∧ xs < ys := by
  rw [append_lt_append_iff (by simp), zeroPadded_lt_iff hm hn, zeroPadded_inj hm hn]

/-- Texts that begin with the same character are ordered by what stands
behind. -/
theorem cons_lt_cons_self_iff (c : Char) (xs ys : List Char) : c :: xs < c :: ys ↔ xs < ys := by
  rw [List.cons_lt_cons_iff]
  constructor
  · rintro (hlt | ⟨-, hrest⟩)
    · exact absurd hlt (Char.lt_irrefl c)
    · exact hrest
  · intro hrest
    exact .inr ⟨rfl, hrest⟩

end Docket
