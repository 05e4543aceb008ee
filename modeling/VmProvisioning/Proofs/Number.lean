import Mathlib.Algebra.Order.Ring.Nat
import Mathlib.Data.List.TakeWhile
import Mathlib.Tactic.NormNum
import Mathlib.Tactic.Positivity
import VmProvisioning.Number.Decimal
import VmProvisioning.Text.Blank

/-!
# Exact doubles and the digits of naturals

A number up to `2 ^ 53` is a double whatever the power of two that it is multiplied by, so that
rounding leaves it alone. A natural of that size is read back from its decimal digits without a
loss.

## Main results

* `nearestUnits_eq_self`: rounding leaves numbers up to `2 ^ 53` alone
* `Decimal.read?_toDigits`: naturals are read back from their digits
* `Decimal.units?_eq_some`: naturals up to `2 ^ 53` are doubles
-/

namespace VmProvisioning

/-! ## Rounding -/

/-- A quotient that is whole is not rounded. -/
theorem divideToEven_mul {q den : Nat} (hden : 0 < den) : divideToEven (q * den) den = q := by
  simp [divideToEven, Nat.mul_div_cancel q hden, hden.ne']

theorem nearestUnits_of_lt {m e : Nat} (hm : m < 2 ^ 53) :
    nearestUnits (m * Nat.pow 2 e) 1 = m * Nat.pow 2 e := by
  rw [Nat.pow_eq]
  have hlog : (m * 2 ^ e).log2 + 1 - 53 ≤ e := by
    rcases Nat.eq_zero_or_pos m with rfl | hpos
    · simp
    · have hne : m * 2 ^ e ≠ 0 := by positivity
      have hlt : m * 2 ^ e < 2 ^ (53 + e) := by
        rw [pow_add]
        exact Nat.mul_lt_mul_of_pos_right hm (by positivity)
      have := (Nat.log2_lt hne).mpr hlt
      omega
  -- The step divides the power of two.
  obtain ⟨q, hq⟩ : 2 ^ ((m * 2 ^ e).log2 + 1 - 53) ∣ m * 2 ^ e :=
    Dvd.dvd.mul_left (pow_dvd_pow 2 hlog) m
  simp only [nearestUnits, Nat.div_one, Nat.one_mul, Nat.pow_eq]
  generalize 2 ^ ((m * 2 ^ e).log2 + 1 - 53) = step at *
  rcases Nat.eq_zero_or_pos step with rfl | hpos
  · simp_all
  · rw [hq, Nat.mul_comm step q, divideToEven_mul hpos]

/-- **Rounding leaves numbers up to `2 ^ 53` alone**, also after multiplication by a power of
two. -/
theorem nearestUnits_eq_self {m e : Nat} (hm : m ≤ 2 ^ 53) :
    nearestUnits (m * Nat.pow 2 e) 1 = m * Nat.pow 2 e := by
  rcases hm.lt_or_eq with hlt | rfl
  · exact nearestUnits_of_lt hlt
  -- The last of them has one binary digit before its zeros.
  · have hpow : 2 ^ 53 * Nat.pow 2 e = 1 * Nat.pow 2 (53 + e) := by
      rw [Nat.one_mul, Nat.pow_eq, Nat.pow_eq, pow_add]
    rw [hpow, nearestUnits_of_lt (by decide)]

theorem exists_unitsPerOne_eq : ∃ e, unitsPerOne = Nat.pow 2 e := by
  unfold unitsPerOne
  generalize 1074 = e
  exact ⟨e, rfl⟩

/-- A double is too large from a power of two beyond `2 ^ 53` on. -/
theorem exists_overflowUnits_eq : ∃ e, 53 < e ∧ overflowUnits = Nat.pow 2 e * unitsPerOne := by
  have hlt : 53 < 1024 := by decide
  unfold overflowUnits unitsPerOne
  generalize 1024 = e at hlt ⊢
  generalize 1074 = one
  exact ⟨e, hlt, pow_add 2 e one⟩

theorem unitsPerOne_pos : 0 < unitsPerOne := by
  obtain ⟨e, he⟩ := exists_unitsPerOne_eq
  rw [he]
  exact Nat.pow_pos (by decide)

/-- Naturals up to `2 ^ 53` are not rounded, also after multiplication by a power of two. -/
theorem nearestUnits_mul_unitsPerOne {n e : Nat} (h : n ≤ 2 ^ 53) :
    nearestUnits (n * unitsPerOne * Nat.pow 2 e) 1 = n * unitsPerOne * Nat.pow 2 e := by
  obtain ⟨one, hone⟩ := exists_unitsPerOne_eq
  have hpow : n * unitsPerOne * Nat.pow 2 e = n * Nat.pow 2 (one + e) := by
    rw [hone, Nat.mul_assoc]
    exact congrArg (n * ·) (pow_add 2 one e).symm
  rw [hpow, nearestUnits_eq_self h]

/-- Naturals up to `2 ^ 53` are not too large for a double. -/
theorem mul_unitsPerOne_lt_overflowUnits {n : Nat} (h : n ≤ 2 ^ 53) :
    n * unitsPerOne < overflowUnits := by
  obtain ⟨e, hlt, he⟩ := exists_overflowUnits_eq
  rw [he]
  have hpow : 2 ^ 53 < Nat.pow 2 e := Nat.pow_lt_pow_right (by decide) hlt
  exact Nat.mul_lt_mul_of_pos_right (h.trans_lt hpow) unitsPerOne_pos

/-! ## Digits -/

theorem toNat_mem_of_isDigit {c : Char} (h : c.isDigit = true) : 48 ≤ c.toNat ∧ c.toNat ≤ 57 := by
  simpa [Char.isDigit, UInt32.le_iff_toNat_le] using h

theorem isBlank_of_isDigit {c : Char} (h : c.isDigit = true) : Text.isBlank c = false := by
  have hrange := toNat_mem_of_isDigit h
  simp [Text.isBlank]
  omega

theorem toLower_of_isDigit {c : Char} (h : c.isDigit = true) : c.toLower = c := by
  have hrange := toNat_mem_of_isDigit h
  refine dif_neg ?_
  simp [UInt32.le_iff_toNat_le]
  omega

theorem isDigit_of_mem_toDigits {n : Nat} {c : Char} (h : c ∈ Nat.toDigits 10 n) :
    c.isDigit = true :=
  Nat.isDigit_of_mem_toDigits (by decide) (by decide) h

/-- A natural begins with a digit. -/
theorem exists_toDigits_eq_cons (n : Nat) :
    ∃ c rest, Nat.toDigits 10 n = c :: rest ∧ c.isDigit = true := by
  obtain ⟨c, rest, hdigits⟩ := List.exists_cons_of_ne_nil (Nat.toDigits_ne_nil (n := n) (b := 10))
  exact ⟨c, rest, hdigits, isDigit_of_mem_toDigits (hdigits ▸ List.mem_cons_self)⟩

namespace Decimal

theorem ofDigits_eq_ofDigitChars (digits : List Char) :
    ofDigits digits = Nat.ofDigitChars 10 digits 0 := by
  simp only [ofDigits, Nat.ofDigitChars_eq_foldl, Nat.mul_comm]

/-- A digit is no sign. -/
theorem readSign_of_isDigit {c : Char} {rest : List Char} (h : c.isDigit = true) :
    readSign (c :: rest) = (false, c :: rest) := by
  unfold readSign
  split
  · next heq => cases heq; cases h
  · next heq => cases heq; cases h
  · rfl

/-- A text of digits has neither fraction nor exponent. -/
theorem readMagnitude?_of_digits {digits : List Char} (hne : digits ≠ [])
    (hall : ∀ c ∈ digits, c.isDigit = true) :
    readMagnitude? digits = some (ofDigits digits, 0) := by
  simp [readMagnitude?, List.takeWhile_eq_self_iff.mpr hall, List.dropWhile_eq_nil_iff.mpr hall,
    readExponent?, hne]

/-- **A natural is read back from its digits.** -/
theorem read?_toDigits (n : Nat) : read? (Nat.toDigits 10 n) = some (.finite false n 0) := by
  have hmagnitude : readMagnitude? (Nat.toDigits 10 n) = some (n, 0) := by
    rw [readMagnitude?_of_digits Nat.toDigits_ne_nil fun c hc => isDigit_of_mem_toDigits hc,
      ofDigits_eq_ofDigitChars, Nat.ofDigitChars_ten_toDigits]
  -- A digit does not begin the name of a value that is not finite.
  obtain ⟨c, rest, hdigits, hdigit⟩ := exists_toDigits_eq_cons n
  have hn : c ≠ 'n' := by
    rintro rfl
    cases hdigit
  have hi : c ≠ 'i' := by
    rintro rfl
    cases hdigit
  rw [hdigits] at hmagnitude ⊢
  simp [read?, readSign_of_isDigit hdigit, toLower_of_isDigit hdigit, hn, hi, hmagnitude]

/-- **A natural up to `2 ^ 53` is a double.** -/
theorem units?_eq_some {n : Nat} (h : n ≤ 2 ^ 53) : units? n 0 = some (n * unitsPerOne) := by
  rcases Nat.eq_zero_or_pos n with rfl | hpos
  · simp [units?]
  have hlength : (Nat.toDigits 10 n).length ≤ 16 :=
    (Nat.length_toDigits_le_iff (by decide) (by decide)).mpr (h.trans_lt (by norm_num))
  have hfinite := Nat.not_le.mpr (mul_unitsPerOne_lt_overflowUnits h)
  have hsmall : ¬ (n = 0 ∨ ((Nat.toDigits 10 n).length : Int) + 0 ≤ -324) := by omega
  have hlarge : ¬ (310 ≤ ((Nat.toDigits 10 n).length : Int) + 0) := by omega
  have hexact : nearestUnits (n * unitsPerOne) 1 = n * unitsPerOne := by
    simpa using nearestUnits_mul_unitsPerOne (e := 0) h
  simp only [units?, if_neg hsmall, if_neg hlarge, Int.lt_irrefl, if_false, Int.toNat_zero,
    Nat.pow_eq, pow_zero, Nat.mul_one, hexact, if_neg hfinite]

end Decimal

end VmProvisioning
