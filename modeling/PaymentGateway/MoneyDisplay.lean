/-
# Amounts on display

A response shows every amount of a payment as `Money.format` writes it, also the amounts
captured and refunded, which start at zero.  The text is read back by `Money.from_decimal`
(`fromText_toDecimal`), but it has a fixed point only while `str` writes no exponent: with the
eight places of a coin, that takes a hundred units (`displayed_iff`).
-/
import PaymentGateway.Core.DecimalText

namespace PaymentGateway

namespace Decimal

/-- What fits the context is left alone by `quantize` to its own exponent. -/
lemma quantize_self {d : Decimal} (h : digits d.coeff ≤ precision) : d.quantize d.exp = .ok d := by
  obtain ⟨negative, coeff, exp⟩ := d
  rw [quantize]
  by_cases hzero : coeff = 0
  · rw [hzero] at h
    simp only [hzero, if_true, if_neg (not_lt.2 h)]
  · simp only [hzero, if_false, le_refl, if_true, sub_self, Int.toNat_zero, pow_zero, mul_one,
      if_neg (not_lt.2 h)]

/-- A number with a fixed point: a digit before it at least, and exactly `e` digits after it. -/
def FixedPoint (e : ℕ) (text : List Char) : Prop :=
  ∃ (negative : Bool) (int frac : List Char),
    text = Numeral.signText negative ++ int ++ Numeral.pointText frac ∧
      int ≠ [] ∧ (∀ c ∈ int, c.isDigit = true) ∧
      frac.length = e ∧ ∀ c ∈ frac, c.isDigit = true

/-- There is no exponent in it. -/
lemma FixedPoint.not_mem {e : ℕ} {text : List Char} (h : FixedPoint e text) : 'E' ∉ text := by
  obtain ⟨negative, int, frac, rfl, -, hint, -, hfrac⟩ := h
  rw [List.mem_append, List.mem_append]
  rintro ((hsign | hdigit) | hpoint)
  · exact absurd (Numeral.eq_of_mem_signText hsign) (by decide)
  · exact absurd (hint _ hdigit) (by decide)
  · exact absurd (Numeral.mem_pointText hfrac hpoint) (by decide)

/-- `str` writes a number with a fixed point if and only if the number is plain. -/
lemma fixedPoint_str_iff {d : Decimal} {e : ℕ} (he : d.exp = -e) :
    FixedPoint e d.str.toList ↔ d.IsPlain := by
  obtain ⟨u, htext, hnumber, hplain⟩ := d.exists_numeral
  rw [← hplain, htext]
  constructor
  · intro hfixed
    by_contra hne
    refine hfixed.not_mem ?_
    rw [Numeral.text, Numeral.expText, if_neg hne]
    simp
  · intro hzero
    refine ⟨u.negative, u.int, u.frac, ?_, u.int_ne, u.isDigit_int, ?_, u.isDigit_frac⟩
    · rw [Numeral.text, hzero, Numeral.expText, if_pos rfl, List.append_nil]
    · have hexp := congrArg Decimal.exp hnumber
      simp only [Numeral.number, hzero, he] at hexp
      omega

end Decimal

namespace Money

variable {m : Money}

/-- An amount that the context of `decimal` holds is converted exactly. -/
lemma toDecimal_eq (h : m.minorUnits.natAbs < 10 ^ Decimal.precision) :
    m.toDecimal = .ok ⟨decide (m.minorUnits < 0), m.minorUnits.natAbs, -m.currency.exponent⟩ := by
  have hfit : Decimal.digits m.minorUnits.natAbs ≤ Decimal.precision :=
    (Decimal.digits_le_iff (by decide)).2 h
  have hmul : (Decimal.ofInt m.minorUnits).mul (.powerOfTen (-m.currency.exponent)) =
      ⟨decide (m.minorUnits < 0), m.minorUnits.natAbs, -m.currency.exponent⟩ := by
    simp only [Decimal.mul, Decimal.ofInt, Decimal.powerOfTen, Bool.bne_false, mul_one, zero_add]
    exact Decimal.fix_of_le hfit
  rw [toDecimal]
  simp only [hmul]
  exact Decimal.quantize_self (d := ⟨_, _, -m.currency.exponent⟩) hfit

/-- **The number of minor units is read back.** -/
theorem fromText_toDecimal {d : Decimal} (h : m.minorUnits.natAbs < 10 ^ Decimal.precision)
    (hd : m.toDecimal = .ok d) : fromText d.str m.currency = .ok m := by
  rw [toDecimal_eq h] at hd
  have hfit : Decimal.digits m.minorUnits.natAbs ≤ Decimal.precision :=
    (Decimal.digits_le_iff (by decide)).2 h
  have hscaled : d.div (.powerOfTen (-m.currency.exponent)) =
      ⟨decide (m.minorUnits < 0), m.minorUnits.natAbs, 0⟩ := by
    rw [Decimal.div_powerOfTen, ← Except.ok.inj hd]
    simp only [sub_self]
    exact Decimal.fix_of_le hfit
  have hint : (⟨decide (m.minorUnits < 0), m.minorUnits.natAbs, 0⟩ : Decimal).quantize 0 =
      .ok ⟨decide (m.minorUnits < 0), m.minorUnits.natAbs, 0⟩ := Decimal.quantize_self hfit
  have hunits : (⟨decide (m.minorUnits < 0), m.minorUnits.natAbs, 0⟩ : Decimal).toInt =
      m.minorUnits := by
    rw [Decimal.toInt_eq _ rfl, Decimal.sign]
    simp only [decide_eq_true_eq]
    split <;> omega
  simp only [fromText, Decimal.ofText_str, fromDecimal, hscaled, hint, Except.map, hunits]

/-- The display of an amount: a number with a fixed point and as many places as the currency
has, and the currency.  The number is read back. -/
def Displayed (m : Money) : Prop :=
  ∃ number : String, m.format = .ok (number ++ " " ++ m.currency.code) ∧
    Decimal.FixedPoint m.currency.exponent number.toList ∧
    fromText number m.currency = .ok m

lemma displayed_iff_isPlain (h : m.minorUnits.natAbs < 10 ^ Decimal.precision) :
    m.Displayed ↔
      (⟨decide (m.minorUnits < 0), m.minorUnits.natAbs,
        -m.currency.exponent⟩ : Decimal).IsPlain := by
  have hd := toDecimal_eq h
  rw [← Decimal.fixedPoint_str_iff rfl]
  constructor
  · rintro ⟨number, hformat, hfixed, -⟩
    rw [format, hd] at hformat
    have htext := congrArg String.toList (Except.ok.inj hformat)
    simp only [String.toList_append] at htext
    rwa [List.append_cancel_right (List.append_cancel_right htext)]
  · exact fun hfixed => ⟨_, by rw [format, hd]; rfl, hfixed, fromText_toDecimal h hd⟩

/-- Eight places take three digits; the other currencies have fewer places. -/
lemma isPlain_iff (m : Money) :
    (⟨decide (m.minorUnits < 0), m.minorUnits.natAbs, -m.currency.exponent⟩ : Decimal).IsPlain ↔
      m.currency.exponent ≠ 8 ∨ 100 ≤ m.minorUnits.natAbs := by
  have hpos := Decimal.digits_pos m.minorUnits.natAbs
  have hthree : 2 < Decimal.digits m.minorUnits.natAbs ↔ 100 ≤ m.minorUnits.natAbs :=
    Decimal.lt_digits_iff (by decide)
  have hplaces : m.currency.exponent = 8 ∨ m.currency.exponent ≤ 6 := by
    cases m.currency <;> decide
  rw [Decimal.IsPlain, ← hthree]
  dsimp only
  omega

/-- An amount of up to `10 ^ 12` minor units is shown with a fixed point if and only if the
currency has fewer than eight places or there are a hundred units. -/
theorem displayed_iff (h : m.minorUnits.natAbs ≤ 10 ^ 12) :
    m.Displayed ↔ m.currency.exponent ≠ 8 ∨ 100 ≤ m.minorUnits.natAbs := by
  rw [displayed_iff_isPlain (h.trans_lt (by decide)), isPlain_iff]

/-- The example of the source. -/
theorem displayed_demo :
    (⟨1234, .usd⟩ : Money).Displayed ↔ Currency.usd.exponent ≠ 8 ∨ 100 ≤ (1234 : ℤ).natAbs :=
  displayed_iff (by decide)

/-- What has been refunded of a payment in coins, at first. -/
theorem zero_not_displayed :
    (⟨0, .btc⟩ : Money).format = .ok "0E-8 BTC" ∧ ¬ (⟨0, .btc⟩ : Money).Displayed := by
  refine ⟨by decide +kernel, ?_⟩
  rw [displayed_iff_isPlain (by decide), isPlain_iff]
  decide

end Money

end PaymentGateway
