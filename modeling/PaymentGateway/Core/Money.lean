/-
# Money

`app/core/money.py`: an amount is an integer number of minor units of a supported currency.
A currency code that `Money` would refuse cannot be written down here: `Currency` lists the
keys of `CURRENCY_EXPONENTS`.

`Money.format` goes through `decimal.Decimal`, so the part of that module which it uses is
defined first: exact integers, `scaleb`, multiplication in the default context of 28 digits,
`quantize` and `str`.
-/
import PaymentGateway.Core.Errors

namespace PaymentGateway

/-! ## Decimals -/

/-- A finite `decimal.Decimal`: `±coeff · 10 ^ exp`.  Numbers that are equal may have different
exponents, and zero has a sign. -/
structure Decimal where
  negative : Bool
  coeff : ℕ
  exp : ℤ
deriving DecidableEq, Repr

namespace Decimal

/-- The digits of the default context, `getcontext().prec`. -/
def precision : ℕ := 28

/-- The number of digits of a coefficient; zero has one. -/
def digits (n : ℕ) : ℕ := (Nat.repr n).length

/-- `n / d` rounded to an integer, where ties go to the even one: `ROUND_HALF_EVEN` on a
coefficient. -/
def divHalfEven (n d : ℕ) : ℕ :=
  let q := n / d
  let r := n % d
  if 2 * r < d then q else if d < 2 * r then q + 1 else if q % 2 = 0 then q else q + 1

/-- `Decimal(n)` -/
def ofInt (n : ℤ) : Decimal := ⟨decide (n < 0), n.natAbs, 0⟩

/-- `Decimal(1).scaleb(e)` -/
def powerOfTen (e : ℤ) : Decimal := ⟨false, 1, e⟩

/-- The coefficient and exponent with the exponent raised by `k`; what is dropped is rounded half
to even. -/
def dropDigits (d : Decimal) (k : ℕ) : Decimal :=
  ⟨d.negative, divHalfEven d.coeff (10 ^ k), d.exp + k⟩

/-- Rounding to the precision of the context.  Rounding up may carry into one digit more. -/
def fix (d : Decimal) : Decimal :=
  let r := d.dropDigits (digits d.coeff - precision)
  r.dropDigits (digits r.coeff - precision)

/-- `a * b`: the exact product, rounded to the precision of the context. -/
def mul (a b : Decimal) : Decimal := fix ⟨a.negative != b.negative, a.coeff * b.coeff, a.exp + b.exp⟩

/-- `d.quantize(Decimal(1).scaleb(e))`: the same number with the exponent `e`.  A coefficient
that the context cannot hold raises. -/
def quantize (d : Decimal) (e : ℤ) : Except Exn Decimal :=
  let r : Decimal :=
    if d.coeff = 0 then ⟨d.negative, 0, e⟩
    else if e ≤ d.exp then ⟨d.negative, d.coeff * 10 ^ (d.exp - e).toNat, e⟩
    else d.dropDigits (e - d.exp).toNat
  if precision < digits r.coeff then .error (.python .invalidOperation) else .ok r

/-- `str(d)`: plain notation, or scientific notation when the exponent is positive or the
value is small. -/
def str (d : Decimal) : String :=
  let ds := Nat.repr d.coeff
  let n : ℤ := ds.length
  let left := d.exp + n
  let dot := if d.exp ≤ 0 ∧ -6 < left then left else 1
  let int := if dot ≤ 0 then "0" else
    if n ≤ dot then ds ++ String.ofList (List.replicate (dot - n).toNat '0')
    else String.ofList (ds.toList.take dot.toNat)
  let frac := if dot ≤ 0 then "." ++ String.ofList (List.replicate (-dot).toNat '0') ++ ds else
    if n ≤ dot then "" else "." ++ String.ofList (ds.toList.drop dot.toNat)
  let exp := if left = dot then "" else
    "E" ++ (if left - dot < 0 then "-" else "+") ++ Nat.repr (left - dot).natAbs
  (if d.negative then "-" else "") ++ int ++ frac ++ exp

end Decimal

/-! ## Currencies and amounts -/

/-- A key of `CURRENCY_EXPONENTS`, which is what the validation of a currency lets through. -/
inductive Currency where
  | usd | eur | gbp | cad | aud | try_ | aed | sar | inr | jpy | btc | eth | usdt
deriving DecidableEq, Repr

namespace Currency

/-- The value of the member: the code of ISO 4217. -/
def code : Currency → String
  | usd => "USD"
  | eur => "EUR"
  | gbp => "GBP"
  | cad => "CAD"
  | aud => "AUD"
  | try_ => "TRY"
  | aed => "AED"
  | sar => "SAR"
  | inr => "INR"
  | jpy => "JPY"
  | btc => "BTC"
  | eth => "ETH"
  | usdt => "USDT"

/-- `CURRENCY_EXPONENTS[code]`: how many digits a minor unit stands behind the point. -/
def exponent : Currency → ℕ
  | jpy => 0
  | btc | eth => 8
  | usdt => 6
  | _ => 2

end Currency

/-- `Money`: an immutable, exact amount, as an integer number of minor units of a currency. -/
structure Money where
  minorUnits : ℤ
  currency : Currency
deriving DecidableEq, Repr

namespace Money

/-- `Money.is_positive` -/
def isPositive (m : Money) : Prop := 0 < m.minorUnits

instance (m : Money) : Decidable m.isPositive := inferInstanceAs (Decidable (0 < m.minorUnits))

/-- `Money.to_decimal`: the minor units, scaled by the currency's exponent and quantized to it.
-/
def toDecimal (m : Money) : Except Exn Decimal :=
  let exp := m.currency.exponent
  ((Decimal.ofInt m.minorUnits).mul (.powerOfTen (-exp))).quantize (-exp)

/-- `Money.format`: a human-readable string, e.g.  `"12.34 USD"`. -/
def format (m : Money) : Except Exn String :=
  m.toDecimal.map fun d => d.str ++ " " ++ m.currency.code

end Money

end PaymentGateway
