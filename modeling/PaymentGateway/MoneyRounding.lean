/-
# Amounts from decimals

`app/core/money.py` promises exact arithmetic.  `Money.from_decimal` divides by the quantum of
the currency in the default context of `decimal` and rounds the quotient to an integer after
that, so an amount of more than 28 digits is rounded twice.  Most amounts do not notice
(`fromText_rounds_iff`): only if the first rounding takes one to the middle between two minor
units does the second one forget which of them was nearer (`fromText_misreads`).
-/
import PaymentGateway.Core.Decimals

namespace PaymentGateway

open Transact

namespace Decimal

/-- The place of the last digit of `d · 10 ^ e` that division keeps. -/
def place (d : Decimal) (e : ℕ) : ℚ := 10 ^ (d.exp + e + (digits d.coeff - precision : ℕ))

/-- Division drops digits of `d · 10 ^ e`, all of them after the point, and is left with the
middle between two integers, of which the nearer one is odd. -/
def Misread (d : Decimal) (e : ℕ) : Prop :=
  precision < digits d.coeff ∧ d.place e < 1 ∧ ∃ q : ℤ,
    (|d.value * 10 ^ e - (q + 1 / 2)| < d.place e / 2 ∨
      |d.value * 10 ^ e - (q + 1 / 2)| = d.place e / 2 ∧ d.place e ≠ 1 / 10) ∧
    (d.value * 10 ^ e < q + 1 / 2 ∧ Odd q ∨ q + 1 / 2 < d.value * 10 ^ e ∧ Even q)

/-- The number with the point moved by so many places. -/
def moved (d : Decimal) (e : ℕ) : Decimal := ⟨d.negative, d.coeff, d.exp + e⟩

lemma value_moved (d : Decimal) (e : ℕ) : (d.moved e).value = d.value * 10 ^ e := by
  have hsign : (d.moved e).sign = d.sign := rfl
  rw [value_eq, value_eq, hsign, moved, zpow_add₀ (by norm_num : (10 : ℚ) ≠ 0), zpow_natCast]
  ring

lemma ulp_moved (d : Decimal) (e : ℕ) : (d.moved e).ulp = d.place e := rfl

/-- Nothing is dropped: the number is a multiple of its last place. -/
lemma halfEven_div_ulp {d : Decimal} (h : d.excess = 0) :
    (halfEven (d.value / d.ulp) : ℚ) = d.value / d.ulp := by
  have hint : d.value / d.ulp = (d.sign * d.coeff : ℤ) := by
    rw [value_eq, ulp, h, Nat.cast_zero, add_zero, ← mul_assoc,
      mul_div_cancel_right₀ _ (zpow_pos (by norm_num) _).ne']
    push_cast
    rfl
  rw [hint, halfEven_intCast]

/-- The middle that the first rounding may take a number to. -/
lemma roundsAway_moved {d : Decimal} {e i : ℕ} (hdrop : precision < digits d.coeff)
    (hplace : d.place e = 1 / (2 * (5 * 10 ^ i : ℤ))) :
    RoundsAway (5 * 10 ^ i) (d.value * 10 ^ e * (2 * (5 * 10 ^ i : ℤ))) ↔ d.Misread e := by
  have hh : (0 : ℤ) < 5 * 10 ^ i := by positivity
  have hhalf : d.place e / 2 = 1 / (4 * (5 * 10 ^ i : ℤ)) := by
    rw [hplace, div_div]
    ring
  have hlt : d.place e < 1 := by
    rw [hplace, div_lt_one (by positivity)]
    have hone : (1 : ℤ) < 2 * (5 * 10 ^ i) := by omega
    exact_mod_cast hone
  have heven : Even (5 * 10 ^ i : ℤ) ↔ d.place e ≠ 1 / 10 := by
    rw [hplace]
    cases i with
    | zero => exact iff_of_false (by decide) (not_not.2 (by norm_num))
    | succ i =>
        refine iff_of_true (by simp [Int.even_pow, show Even (10 : ℤ) by decide]) ?_
        have hne : (2 * (5 * 10 ^ (i + 1)) : ℤ) ≠ 10 := by
          rw [pow_succ]
          have hpos : (0 : ℤ) < 10 ^ i := by positivity
          omega
        intro heq
        rw [div_eq_div_iff (by positivity) (by norm_num), one_mul, one_mul] at heq
        exact hne (by exact_mod_cast heq.symm)
  rw [roundsAway_iff hh, Misread, hhalf]
  simp only [hdrop, hlt, heven, true_and]

/-- A place after the point is one over an even number. -/
lemma exists_place_eq {d : Decimal} {e : ℕ} (h : d.place e < 1) :
    ∃ i : ℕ, d.place e = 1 / (2 * (5 * 10 ^ i : ℤ)) := by
  have hneg : d.exp + e + (digits d.coeff - precision : ℕ) < 0 := by
    by_contra hle
    exact absurd h (not_lt.2 (one_le_zpow₀ (by norm_num) (not_lt.1 hle)))
  obtain ⟨i, hi⟩ := Int.eq_ofNat_of_zero_le
    (by omega : 0 ≤ -(d.exp + e + (digits d.coeff - precision : ℕ)) - 1)
  refine ⟨i, ?_⟩
  rw [place, show d.exp + e + (digits d.coeff - precision : ℕ) = -((i + 1 : ℕ) : ℤ) by omega,
    zpow_neg, zpow_natCast, pow_succ, one_div]
  push_cast
  ring

/-- What division keeps of a number, rounded. -/
lemma halfEven_fix_iff {d r : Decimal} {e : ℕ} (h : (d.moved e).fix.quantize 0 = .ok r) :
    halfEven (d.moved e).fix.value = halfEven (d.value * 10 ^ e) ↔ ¬ d.Misread e := by
  have hpos := (d.moved e).ulp_pos
  rw [value_fix]
  rcases Nat.eq_zero_or_pos (d.moved e).excess with hexact | hdrop
  · rw [halfEven_div_ulp hexact, div_mul_cancel₀ _ hpos.ne', value_moved]
    exact iff_of_true rfl fun hmis => absurd hmis.1 (not_lt.2 (Nat.sub_eq_zero_iff_le.1 hexact))
  have hdigits : precision < digits d.coeff := Nat.lt_of_sub_pos hdrop
  rcases (ulp_le_one hdrop h).lt_or_eq with hlt | hone
  · -- the integers are a coarser grid than the places that division keeps
    obtain ⟨i, hi⟩ := exists_place_eq hlt
    rw [ulp_moved, hi, value_moved, one_div, div_inv_eq_mul, ← div_eq_mul_inv]
    have htwice := halfEven_twice_iff (by positivity : (0 : ℤ) < 5 * 10 ^ i)
      (d.value * 10 ^ e * (2 * (5 * 10 ^ i : ℤ)))
    have hne : (2 * (5 * 10 ^ i : ℤ) : ℚ) ≠ 0 := by positivity
    rw [mul_div_cancel_right₀ _ hne, roundsAway_moved hdigits hi] at htwice
    exact htwice
  · rw [hone, div_one, mul_one, halfEven_intCast, value_moved]
    exact iff_of_true rfl fun hmis => hmis.2.1.ne ((ulp_moved d e).symm.trans hone)

end Decimal

namespace Money

/-- An amount is the exact number of minor units, rounded to the nearest and to the even one of
two, if and only if division does not hide which one is nearer. -/
theorem fromText_rounds_iff (text : String) {currency : Currency} {d : Decimal} {m : Money}
    (hd : Decimal.ofText text = some d) (hm : fromText text currency = .ok m) :
    m.minorUnits = halfEven (d.value * 10 ^ currency.exponent) ↔
      ¬ d.Misread currency.exponent := by
  simp only [fromText, hd, fromDecimal, Decimal.div_powerOfTen, sub_neg_eq_add] at hm
  obtain ⟨r, hr, rfl⟩ : ∃ r, (d.moved currency.exponent).fix.quantize 0 = .ok r ∧
      (⟨r.toInt, currency⟩ : Money) = m := by
    generalize hq : (Decimal.fix _).quantize 0 = q at hm
    cases q with
    | error => cases hm
    | ok r => exact ⟨r, hq, Except.ok.inj hm⟩
  rw [Decimal.quantize_zero hr]
  exact Decimal.halfEven_fix_iff hr

/-- Three digits do not reach the end of the context. -/
theorem fromText_rounds_demo :
    (1234 : ℤ) = halfEven ((⟨false, 12345, -3⟩ : Decimal).value * 10 ^ Currency.usd.exponent) ↔
      ¬ (⟨false, 12345, -3⟩ : Decimal).Misread Currency.usd.exponent :=
  fromText_rounds_iff "12.345" (m := ⟨1234, .usd⟩) (by decide +kernel) (by decide +kernel)

/-- An amount below the middle between one yen and two: the first rounding takes it there, and
the second one takes it up. -/
theorem fromText_misreads :
    ∃ d, Decimal.ofText "1.4999999999999999999999999999" = some d ∧
      fromText "1.4999999999999999999999999999" .jpy = .ok ⟨2, .jpy⟩ ∧
      halfEven (d.value * 10 ^ Currency.jpy.exponent) = 1 := by
  refine ⟨⟨false, 14999999999999999999999999999, -28⟩, by decide +kernel, by decide +kernel, ?_⟩
  refine halfEven_of_abs_lt (abs_lt.2 ?_)
  norm_num [Decimal.value, Currency.exponent]

end Money

end PaymentGateway
