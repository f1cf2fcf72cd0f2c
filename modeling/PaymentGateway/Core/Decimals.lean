/-
# Decimals read and divided

What `Money.from_decimal` uses of `decimal`, beside what `Money.format` does: the constructor
from a text, division in the default context and the conversion to an integer.  The
constructor is exact.  Division by a power of ten moves the point and rounds to 28 digits
(`div_powerOfTen`, `value_fix`), and `quantize` rounds to an integer (`quantize_zero`).

The context bounds exponents by a million, too.  A result beyond that is refused, or is zero
after `quantize`; here it is as well.
-/
import Mathlib.Algebra.Order.Field.Power
import PaymentGateway.Core.Money
import PaymentGateway.Core.Numerals
import PaymentGateway.Lib.HalfEven

namespace PaymentGateway

open Transact

namespace Decimal

/-! ## The constructor -/

/-- The digits at the front, and what follows them. -/
def spanDigits (cs : List Char) : List Char × List Char :=
  (cs.takeWhile Char.isDigit, cs.dropWhile Char.isDigit)

/-- The exponent of a numeral, which nothing may follow.  Without the letter it is zero, and with
it at least one digit is asked for. -/
def readExponent : List Char → Option ℤ
  | [] => some 0
  | c :: cs =>
      if c = 'e' ∨ c = 'E' then
        let (negative, ds) := match cs with
          | '-' :: ds => (true, ds)
          | '+' :: ds => (false, ds)
          | ds => (false, ds)
        if ds ≠ [] ∧ ds.all Char.isDigit = true then
          some (if negative then -(Nat.ofDigitChars 10 ds 0 : ℤ) else Nat.ofDigitChars 10 ds 0)
        else none
      else none

/-- The digits after a point, if there is one, and what follows them. -/
def readPoint : List Char → List Char × List Char
  | '.' :: cs => spanDigits cs
  | cs => ([], cs)

/-- A numeral without its sign: digits with or without a point, and an exponent. -/
def readUnsigned (negative : Bool) (cs : List Char) : Option Decimal :=
  let (int, rest) := spanDigits cs
  let (frac, rest) := readPoint rest
  if int ++ frac = [] then none
  else (readExponent rest).map fun e =>
    ⟨negative, Nat.ofDigitChars 10 (int ++ frac) 0, e - frac.length⟩

/-- An optional sign, and what follows it. -/
def readSigned : List Char → Option Decimal
  | '-' :: cs => readUnsigned true cs
  | '+' :: cs => readUnsigned false cs
  | cs => readUnsigned false cs

/-- What the constructor reads: white space around the numeral and underscores do not count,
and digits are those of any script. -/
def normalised (s : String) : List Char := ((strip s.toList).filter (· ≠ '_')).map toAscii

/-- `Decimal(s)`, where that is a finite number.  The constructor also refuses an exponent beyond
the limits of its platform, of eighteen digits; here there are no such limits. -/
def ofText (s : String) : Option Decimal := readSigned (normalised s)

/-- The text of a quiet NaN, with or without a sign and a payload of digits. -/
def isNaN (cs : List Char) : Bool :=
  let unsigned := match cs with
    | '-' :: cs | '+' :: cs => cs
    | cs => cs
  (unsigned.take 3).map Char.toLower = ['n', 'a', 'n'] && (unsigned.drop 3).all Char.isDigit

/-! ## Division and conversion -/

/-- At most `k` zeros are taken from the end of the coefficient, and the exponent grows with
each. -/
def stripZeros : ℕ → Decimal → Decimal
  | 0, d => d
  | k + 1, d =>
      if d.coeff % 10 = 0 then stripZeros k ⟨d.negative, d.coeff / 10, d.exp + 1⟩ else d

/-- `a / b`, for a `b` other than zero: two digits more than the context has are computed, and
a remainder is kept in the last of them, so that rounding sees it. -/
def div (a b : Decimal) : Decimal :=
  let negative := a.negative != b.negative
  if a.coeff = 0 then fix ⟨negative, 0, a.exp - b.exp⟩
  else
    let shift : ℤ := digits b.coeff - digits a.coeff + precision + 1
    let n := a.coeff * 10 ^ shift.toNat
    let d := b.coeff * 10 ^ (-shift).toNat
    let q : Decimal := ⟨negative, n / d, a.exp - b.exp - shift⟩
    if n % d = 0 then fix (stripZeros shift.toNat q)
    else fix (if q.coeff % 5 = 0 then ⟨q.negative, q.coeff + 1, q.exp⟩ else q)

/-- `int(d)`: the digits behind the point are cut off, towards zero. -/
def toInt (d : Decimal) : ℤ :=
  let magnitude : ℕ :=
    if 0 ≤ d.exp then d.coeff * 10 ^ d.exp.toNat else d.coeff / 10 ^ (-d.exp).toNat
  if d.negative then -magnitude else magnitude

/-- The rational number that the decimal denotes. -/
def value (d : Decimal) : ℚ := (if d.negative then -1 else 1) * (d.coeff * 10 ^ d.exp)

end Decimal

namespace Money

/-- `Money.from_decimal(amount, currency)`, of a finite number: divided by the currency's unit,
and then rounded to an integer. -/
def fromDecimal (amount : Decimal) (currency : Currency) : Except Exn Money :=
  ((amount.div (.powerOfTen (-currency.exponent))).quantize 0).map fun scaled =>
    ⟨scaled.toInt, currency⟩

/-- `Money.from_decimal(amount, currency)`, of a text.  A quiet NaN comes as far as `int`. -/
def fromText (amount : String) (currency : Currency) : Except Exn Money :=
  match Decimal.ofText amount with
  | some d => fromDecimal d currency
  | none =>
      .error (.python (if Decimal.isNaN (Decimal.normalised amount) then .valueError
        else .invalidOperation))

end Money

example : Decimal.ofText " -1_2.345e1\n" = some ⟨true, 12345, -2⟩ := by decide +kernel

example : Money.fromText "12.355" .usd = .ok ⟨1236, .usd⟩ := by decide +kernel

namespace Decimal

/-! ## Digits -/

lemma digits_le_iff {n k : ℕ} (hk : 0 < k) : digits n ≤ k ↔ n < 10 ^ k := Nat.length_repr_le_iff hk

lemma lt_digits_iff {n k : ℕ} (hk : 0 < k) : k < digits n ↔ 10 ^ k ≤ n := by
  rw [← not_le, digits_le_iff hk, not_lt]

lemma digits_pos (n : ℕ) : 0 < digits n := Nat.length_repr_pos

lemma digits_eq {n k : ℕ} (hk : 0 < k) (hlo : 10 ^ k ≤ n) (hhi : n < 10 ^ (k + 1)) :
    digits n = k + 1 :=
  le_antisymm ((digits_le_iff (Nat.succ_pos k)).2 hhi) ((lt_digits_iff hk).2 hlo)

/-- A coefficient without its last digits. -/
lemma digits_div {n m k : ℕ} (hk : 0 < k) (hn : digits n = k + 1 + m) :
    digits (n / 10 ^ m) = k + 1 := by
  refine digits_eq hk ?_ ?_
  · rw [Nat.le_div_iff_mul_le (Nat.pow_pos (by decide)), ← pow_add]
    exact (lt_digits_iff (by omega)).1 (by omega)
  · rw [Nat.div_lt_iff_lt_mul (Nat.pow_pos (by decide)), ← pow_add]
    exact (digits_le_iff (by omega)).1 hn.le

/-! ## Rounding -/

/-- Division of natural numbers, rounded. -/
lemma divHalfEven_eq (n : ℕ) {d : ℕ} (hd : 0 < d) :
    (divHalfEven n d : ℤ) = halfEven ((n : ℚ) / d) := by
  have hd' : (0 : ℚ) < d := by exact_mod_cast hd
  have hn : (n : ℚ) = d * (n / d : ℕ) + (n % d : ℕ) := by exact_mod_cast (Nat.div_add_mod n d).symm
  have hlt : ((n % d : ℕ) : ℚ) < d := by exact_mod_cast Nat.mod_lt n hd
  have hpos : (0 : ℚ) ≤ (n % d : ℕ) := Nat.cast_nonneg _
  have hfloor : ⌊(n : ℚ) / d⌋ = ((n / d : ℕ) : ℤ) := by
    rw [Int.floor_eq_iff, le_div_iff₀ hd', div_lt_iff₀ hd', Int.cast_natCast]
    constructor <;> linarith
  have hrest : (n : ℚ) / d - ((n / d : ℕ) : ℤ) = (n % d : ℕ) / d := by
    rw [eq_div_iff hd'.ne', sub_mul, div_mul_cancel₀ _ hd'.ne', Int.cast_natCast]
    linarith
  have hdown : (n : ℚ) / d - ((n / d : ℕ) : ℤ) < 1 / 2 ↔ 2 * (n % d) < d := by
    rw [hrest, div_lt_iff₀ hd', ← @Nat.cast_lt ℚ]
    push_cast
    constructor <;> intro h <;> linarith
  have hup : 1 / 2 < (n : ℚ) / d - ((n / d : ℕ) : ℤ) ↔ d < 2 * (n % d) := by
    rw [hrest, lt_div_iff₀ hd', ← @Nat.cast_lt ℚ]
    push_cast
    constructor <;> intro h <;> linarith
  have heven : Even ((n / d : ℕ) : ℤ) ↔ n / d % 2 = 0 := by
    rw [Int.even_coe_nat, Nat.even_iff]
  rw [divHalfEven, halfEven, hfloor]
  simp only [hdown, hup, heven]
  split
  · rfl
  split
  · push_cast
    rfl
  split
  · rfl
  · push_cast
    rfl

@[simp] lemma dropDigits_negative (d : Decimal) (k : ℕ) :
    (d.dropDigits k).negative = d.negative := rfl

@[simp] lemma dropDigits_coeff (d : Decimal) (k : ℕ) :
    (d.dropDigits k).coeff = divHalfEven d.coeff (10 ^ k) := rfl

@[simp] lemma dropDigits_exp (d : Decimal) (k : ℕ) : (d.dropDigits k).exp = d.exp + k := rfl

/-- Nothing is dropped. -/
lemma dropDigits_zero (d : Decimal) : d.dropDigits 0 = d := by
  have hone : divHalfEven d.coeff 1 = d.coeff := by
    have hcast := divHalfEven_eq d.coeff Nat.one_pos
    rw [Nat.cast_one, div_one] at hcast
    exact_mod_cast hcast.trans (halfEven_intCast d.coeff)
  rw [dropDigits, pow_zero, hone, Nat.cast_zero, add_zero]

/-- What fits the context is kept. -/
lemma fix_of_le {d : Decimal} (h : digits d.coeff ≤ precision) : d.fix = d := by
  rw [fix, Nat.sub_eq_zero_of_le h, dropDigits_zero, Nat.sub_eq_zero_of_le h, dropDigits_zero]

/-- A number without its last `m` digits, of which the last digit left keeps a remainder. -/
def sticky (n m : ℕ) : ℕ :=
  if n % 10 ^ m ≠ 0 ∧ n / 10 ^ m % 5 = 0 then n / 10 ^ m + 1 else n / 10 ^ m

/-- Rounding to two digits less sees what the digits before it were. -/
lemma divHalfEven_sticky (n m : ℕ) :
    divHalfEven (sticky n m) 100 = divHalfEven n (10 ^ m * 100) := by
  have hpos : 0 < 10 ^ m := Nat.pow_pos (by decide)
  have hmod := Nat.mod_lt n hpos
  have hdiv : n / (10 ^ m * 100) = n / 10 ^ m / 100 := (Nat.div_div_eq_div_mul n _ _).symm
  have hrest : n % (10 ^ m * 100) = 10 ^ m * (n / 10 ^ m % 100) + n % 10 ^ m := by
    rw [Nat.mod_mul]
    omega
  rw [divHalfEven, divHalfEven, hdiv, hrest, sticky]
  generalize n / 10 ^ m = q at *
  generalize n % 10 ^ m = r at *
  generalize 10 ^ m = p at *
  have hlt : q % 100 < 50 → 2 * (p * (q % 100) + r) < p * 100 := fun h => by nlinarith
  have hgt : 50 < q % 100 → p * 100 < 2 * (p * (q % 100) + r) := fun h => by nlinarith
  have hmid : q % 100 = 50 → 2 * (p * (q % 100) + r) = p * 100 + 2 * r := fun h => by
    rw [h]
    ring
  -- a multiple of five is the only digit that the remainder could take across a middle
  generalize p * (q % 100) + r = s at *
  split_ifs <;> omega

lemma digits_sticky {n m k : ℕ} (hk : 0 < k) (hn : digits n = k + 1 + m) :
    digits (sticky n m) = k + 1 := by
  have hdiv := digits_div hk hn
  rw [sticky]
  split
  case isFalse => exact hdiv
  case isTrue h =>
    have hlo := (lt_digits_iff hk).1 (by omega : k < digits (n / 10 ^ m))
    have hhi := (digits_le_iff (Nat.succ_pos k)).1 hdiv.le
    rw [pow_succ] at hhi
    refine digits_eq hk (by omega) ?_
    rw [pow_succ]
    omega

/-- The digits that the context drops. -/
def excess (d : Decimal) : ℕ := digits d.coeff - precision

/-- The place of the last digit that the context keeps: one unit of it is what a rounding is
measured in. -/
def ulp (d : Decimal) : ℚ := 10 ^ (d.exp + d.excess)

lemma ulp_pos (d : Decimal) : 0 < d.ulp := zpow_pos (by norm_num) _

lemma stripZeros_mul (negative : Bool) (c k : ℕ) (e : ℤ) :
    stripZeros k ⟨negative, c * 10 ^ k, e⟩ = ⟨negative, c, e + k⟩ := by
  induction k generalizing e with
  | zero => simp [stripZeros]
  | succ k ih =>
      rw [stripZeros, if_pos (by rw [pow_succ, ← mul_assoc, Nat.mul_mod_left]), pow_succ,
        ← mul_assoc, Nat.mul_div_cancel _ (by decide : 0 < 10), ih]
      simp only [mk.injEq, true_and]
      push_cast
      ring

/-- Digits that the context drops anyway. -/
lemma fix_sticky {negative : Bool} {c m : ℕ} {e : ℤ} (hc : digits c = precision + 2 + m) :
    fix ⟨negative, sticky c m, e + m⟩ = fix ⟨negative, c, e⟩ := by
  have hs : digits (sticky c m) = precision + 2 := digits_sticky (by decide) (by omega)
  have hdrop : dropDigits ⟨negative, sticky c m, e + m⟩ 2 =
      dropDigits ⟨negative, c, e⟩ (m + 2) := by
    simp only [dropDigits, mk.injEq, true_and]
    refine ⟨?_, by push_cast; ring⟩
    rw [pow_add]
    exact divHalfEven_sticky c m
  rw [fix, fix]
  simp only [hs, hc, Nat.add_sub_cancel_left, Nat.add_assoc]
  rw [hdrop, Nat.add_comm m 2]

/-- Division by a power of ten moves the point and rounds once. -/
lemma div_powerOfTen (a : Decimal) (x : ℤ) :
    a.div (powerOfTen x) = fix ⟨a.negative, a.coeff, a.exp - x⟩ := by
  have hone : digits 1 = 1 := rfl
  by_cases hzero : a.coeff = 0
  · rw [div, if_pos hzero, hzero]
    simp [powerOfTen]
  rw [div, if_neg hzero]
  have hsign : (a.negative != false) = a.negative := by simp
  simp only [powerOfTen, hsign, one_mul, hone]
  rcases le_or_gt (digits a.coeff) (precision + 2) with hle | hgt
  · -- the quotient is exact, with zeros at its end
    obtain ⟨k, hk⟩ := Nat.exists_eq_add_of_le hle
    have hshift : ((1 : ℕ) : ℤ) - digits a.coeff + precision + 1 = k := by omega
    rw [hshift, Int.toNat_natCast, Int.toNat_neg_natCast, pow_zero, Nat.div_one,
      if_pos (Nat.mod_one _), stripZeros_mul]
    congr 2
    omega
  · obtain ⟨m, hm⟩ := Nat.exists_eq_add_of_le hgt.le
    have hshift : ((1 : ℕ) : ℤ) - digits a.coeff + precision + 1 = -(m : ℤ) := by omega
    rw [hshift, Int.toNat_neg_natCast, neg_neg, Int.toNat_natCast, pow_zero, mul_one,
      sub_neg_eq_add, ← fix_sticky hm, sticky]
    by_cases hrest : a.coeff % 10 ^ m = 0
    · rw [if_pos hrest, stripZeros, if_neg fun h => h.1 hrest]
    · rw [if_neg hrest]
      split
      · rw [if_pos ⟨hrest, ‹_›⟩]
      · rw [if_neg fun h => absurd h.2 ‹_›]

/-! ## Values -/

/-- The sign of a number. -/
def sign (d : Decimal) : ℤ := if d.negative then -1 else 1

lemma value_eq (d : Decimal) : d.value = d.sign * (d.coeff * 10 ^ d.exp) := by
  rw [value, sign]
  split <;> simp

lemma halfEven_sign_mul (d : Decimal) (x : ℚ) : halfEven (d.sign * x) = d.sign * halfEven x := by
  rw [sign]
  split
  · rw [Int.cast_neg, Int.cast_one, neg_one_mul, neg_one_mul, halfEven_neg]
  · rw [Int.cast_one, one_mul, one_mul]

@[simp] lemma sign_dropDigits (d : Decimal) (k : ℕ) : (d.dropDigits k).sign = d.sign := by
  rw [sign, sign, dropDigits_negative]

/-- Dropping digits rounds to a multiple of the place of the last one left. -/
lemma value_dropDigits (d : Decimal) (k : ℕ) :
    (d.dropDigits k).value = halfEven (d.value / 10 ^ (d.exp + k)) * 10 ^ (d.exp + k) := by
  have hten : (10 : ℚ) ≠ 0 := by norm_num
  have hplace : d.value / 10 ^ (d.exp + k) = d.sign * (d.coeff / 10 ^ k : ℚ) := by
    rw [value_eq, zpow_add₀ hten, zpow_natCast]
    field_simp
  have hcoeff : (divHalfEven d.coeff (10 ^ k) : ℤ) = halfEven (d.coeff / 10 ^ k : ℚ) := by
    rw [divHalfEven_eq _ (Nat.pow_pos (by decide)), Nat.cast_pow, Nat.cast_ofNat]
  rw [hplace, halfEven_sign_mul, ← hcoeff, value_eq, sign_dropDigits]
  simp only [dropDigits_coeff, dropDigits_exp, Int.cast_mul, Int.cast_natCast]
  ring

lemma divHalfEven_le (n d : ℕ) : divHalfEven n d ≤ n / d + 1 := by
  rw [divHalfEven]
  split_ifs <;> omega

lemma le_divHalfEven (n d : ℕ) : n / d ≤ divHalfEven n d := by
  rw [divHalfEven]
  split_ifs <;> omega

lemma fix_eq (d : Decimal) :
    d.fix = (d.dropDigits d.excess).dropDigits (d.dropDigits d.excess).excess := rfl

/-- What the context keeps has as many digits as it has. -/
lemma digits_quotient {d : Decimal} (h : 0 < d.excess) :
    digits (d.coeff / 10 ^ d.excess) = precision := by
  have hdigits : digits d.coeff = 27 + 1 + d.excess := by
    simp only [excess, precision] at *
    omega
  exact digits_div (by decide) hdigits

/-- Rounding to the context leaves a coefficient that fits, or carries into one digit more. -/
lemma fix_cases (d : Decimal) :
    d.fix = d.dropDigits d.excess ∨
      (d.dropDigits d.excess).coeff = 10 ^ precision ∧
        d.fix = ⟨d.negative, 10 ^ (precision - 1), d.exp + d.excess + 1⟩ := by
  by_cases hfit : digits (d.dropDigits d.excess).coeff ≤ precision
  · left
    have hrest : (d.dropDigits d.excess).excess = 0 := Nat.sub_eq_zero_of_le hfit
    rw [fix_eq, hrest, dropDigits_zero]
  · right
    have hdrop : 0 < d.excess := by
      rw [Nat.pos_iff_ne_zero]
      intro hzero
      rw [hzero, dropDigits_zero] at hfit
      exact hfit (Nat.sub_eq_zero_iff_le.1 hzero)
    have hlt : d.coeff / 10 ^ d.excess < 10 ^ precision :=
      (digits_le_iff (by decide)).1 (digits_quotient hdrop).le
    have hle : (d.dropDigits d.excess).coeff ≤ d.coeff / 10 ^ d.excess + 1 := by
      rw [dropDigits_coeff]
      exact divHalfEven_le _ _
    have hge : 10 ^ precision ≤ (d.dropDigits d.excess).coeff :=
      (lt_digits_iff (by decide)).1 (not_le.1 hfit)
    have hcoeff : (d.dropDigits d.excess).coeff = 10 ^ precision :=
      le_antisymm (hle.trans (Nat.succ_le_of_lt hlt)) hge
    refine ⟨hcoeff, ?_⟩
    have hrest : (d.dropDigits d.excess).excess = 1 := by
      rw [excess, hcoeff]
      rfl
    rw [fix_eq, hrest, dropDigits, hcoeff, dropDigits_negative, dropDigits_exp]
    rfl

/-- Rounding to the context rounds to a multiple of its last place. -/
lemma value_fix (d : Decimal) : d.fix.value = halfEven (d.value / d.ulp) * d.ulp := by
  rw [ulp, ← value_dropDigits]
  rcases fix_cases d with hfit | ⟨hcoeff, hcarry⟩
  · rw [hfit]
  · have hsign : (⟨d.negative, 10 ^ (precision - 1), d.exp + d.excess + 1⟩ : Decimal).sign =
        d.sign := rfl
    rw [hcarry, value_eq, value_eq, hcoeff, hsign, sign_dropDigits]
    simp only [dropDigits_exp, precision]
    rw [zpow_add_one₀ (by norm_num : (10 : ℚ) ≠ 0)]
    push_cast
    ring

/-- What `quantize` returns fits the context. -/
lemma quantize_ok {d r : Decimal} {e : ℤ} (h : d.quantize e = .ok r) :
    digits r.coeff ≤ precision ∧ (d.coeff = 0 ∧ r = ⟨d.negative, 0, e⟩ ∨
      d.coeff ≠ 0 ∧ e ≤ d.exp ∧ r = ⟨d.negative, d.coeff * 10 ^ (d.exp - e).toNat, e⟩ ∨
      d.exp < e ∧ r = d.dropDigits (e - d.exp).toNat) := by
  have hguard : ∀ x : Decimal,
      (if precision < digits x.coeff then Except.error (.python .invalidOperation)
        else .ok x : Except Exn Decimal) = .ok r → digits r.coeff ≤ precision ∧ x = r := by
    intro x hx
    split at hx
    · cases hx
    · cases hx
      exact ⟨not_lt.1 ‹_›, rfl⟩
  obtain ⟨hfit, rfl⟩ := hguard _ h
  refine ⟨hfit, ?_⟩
  split_ifs with hzero hexp
  · exact Or.inl ⟨hzero, rfl⟩
  · exact Or.inr (Or.inl ⟨hzero, hexp, rfl⟩)
  · exact Or.inr (Or.inr ⟨not_le.1 hexp, rfl⟩)

lemma toInt_eq (d : Decimal) (h : d.exp = 0) : d.toInt = d.sign * d.coeff := by
  rw [toInt, sign, h]
  split <;> simp

/-- The integer that `quantize` returns. -/
lemma quantize_zero {d r : Decimal} (h : d.quantize 0 = .ok r) : r.toInt = halfEven d.value := by
  obtain ⟨-, ⟨hzero, rfl⟩ | ⟨-, hexp, rfl⟩ | ⟨hexp, rfl⟩⟩ := quantize_ok h
  · have hvalue : d.value = (0 : ℤ) := by
      rw [value_eq, hzero, Nat.cast_zero, zero_mul, mul_zero, Int.cast_zero]
    rw [hvalue, halfEven_intCast, toInt_eq _ rfl, Nat.cast_zero, mul_zero]
  · obtain ⟨k, hk⟩ := Int.eq_ofNat_of_zero_le hexp
    have hsign : (⟨d.negative, d.coeff * 10 ^ (d.exp - 0).toNat, 0⟩ : Decimal).sign = d.sign := rfl
    rw [toInt_eq _ rfl, hsign, value_eq, halfEven_sign_mul, hk, sub_zero, Int.toNat_natCast,
      zpow_natCast]
    have hcast : (d.coeff * 10 ^ k : ℚ) = ((d.coeff * 10 ^ k : ℕ) : ℤ) := by
      push_cast
      rfl
    rw [hcast, halfEven_intCast]
  · obtain ⟨k, hk⟩ := Int.eq_ofNat_of_zero_le (by omega : 0 ≤ 0 - d.exp)
    have hplace : d.exp + (k : ℤ) = 0 := by omega
    have hint : (d.dropDigits k).exp = 0 := hplace
    have hvalue := value_dropDigits d k
    rw [hplace, zpow_zero, div_one, mul_one, value_eq, hint, zpow_zero, mul_one] at hvalue
    rw [hk, Int.toNat_natCast, toInt_eq _ hint]
    exact_mod_cast hvalue

/-- A number that is returned keeps no place before the point. -/
lemma ulp_le_one {d r : Decimal} (hd : 0 < d.excess) (h : d.fix.quantize 0 = .ok r) :
    d.ulp ≤ 1 := by
  have hfull : 10 ^ (precision - 1) ≤ d.fix.coeff ∧ d.exp + d.excess ≤ d.fix.exp := by
    rcases fix_cases d with hfit | ⟨-, hcarry⟩
    · have hge : 10 ^ (precision - 1) ≤ d.coeff / 10 ^ d.excess :=
        (lt_digits_iff (by decide)).1 (digits_quotient hd).ge
      have hle : d.coeff / 10 ^ d.excess ≤ (d.dropDigits d.excess).coeff := by
        rw [dropDigits_coeff]
        exact le_divHalfEven _ _
      rw [hfit]
      exact ⟨hge.trans hle, le_refl _⟩
    · rw [hcarry]
      exact ⟨le_refl _, by simp⟩
  by_contra hulp
  have hplace : 0 < d.exp + d.excess := by
    by_contra hle
    exact hulp (zpow_le_one_of_nonpos₀ (by norm_num) (not_lt.1 hle))
  obtain ⟨hfit, ⟨hzero, -⟩ | ⟨-, -, rfl⟩ | ⟨hexp, -⟩⟩ := quantize_ok h
  · rw [hzero] at hfull
    exact absurd hfull.1 (by decide)
  · obtain ⟨k, hk⟩ := Int.eq_ofNat_of_zero_le (by omega : 0 ≤ d.fix.exp - 1)
    have hlarge : 10 ^ precision ≤ d.fix.coeff * 10 ^ (d.fix.exp - 0).toNat := by
      rw [show (d.fix.exp - 0).toNat = k + 1 by omega, show precision = precision - 1 + 1 from rfl,
        pow_succ, pow_succ, ← mul_assoc]
      exact Nat.mul_le_mul_right _
        (hfull.1.trans (Nat.le_mul_of_pos_right _ (Nat.pow_pos (by decide))))
    exact absurd hfit (not_le.2 ((lt_digits_iff (by decide)).2 hlarge))
  · omega

end Decimal

end PaymentGateway
