/-
# Numerals of decimals

`str` writes a decimal as a numeral: digits, a point and digits after it, and an exponent if
the number is large or small.  The parts of a numeral determine the number (`Numeral.number`),
the constructor reads it from their text (`ofText_text`), and `str` writes the text of a numeral
of the number (`exists_numeral`).  So `str` loses nothing (`ofText_str`), and its exponent is
left out exactly if the number has none (`exists_numeral`).
-/
import PaymentGateway.Core.Decimals

namespace PaymentGateway

namespace Decimal

/-- The parts of a numeral as the constructor reads it: a sign, the digits in front of the point
and behind it, and an exponent. -/
structure Numeral where
  negative : Bool
  int : List Char
  frac : List Char
  exp : ℤ
  int_ne : int ≠ []
  isDigit_int : ∀ c ∈ int, c.isDigit = true
  isDigit_frac : ∀ c ∈ frac, c.isDigit = true

namespace Numeral

/-- The sign that is written: a minus, or nothing. -/
def signText (negative : Bool) : List Char := if negative then ['-'] else []

/-- The point and the digits after it, if there are any. -/
def pointText (frac : List Char) : List Char := if frac = [] then [] else '.' :: frac

/-- The exponent, if it is not zero. -/
def expText (k : ℤ) : List Char :=
  if k = 0 then [] else 'E' :: (if k < 0 then '-' else '+') :: Nat.toDigits 10 k.natAbs

variable (u : Numeral)

/-- The characters of the numeral: the sign, the digits before the point, the point with what
follows it, and the exponent. -/
def text : List Char := signText u.negative ++ u.int ++ pointText u.frac ++ expText u.exp

/-- The decimal that the numeral denotes: all its digits as one coefficient, and the exponent
less the number of digits behind the point. -/
def number : Decimal :=
  ⟨u.negative, Nat.ofDigitChars 10 (u.int ++ u.frac) 0, u.exp - u.frac.length⟩

/-! ## What the constructor reads -/

lemma readExponent_expText (k : ℤ) : readExponent (expText k) = some k := by
  rw [expText]
  split
  case isTrue hzero => rw [hzero, readExponent]
  case isFalse =>
    have hdigits : Nat.toDigits 10 k.natAbs ≠ [] ∧
        (Nat.toDigits 10 k.natAbs).all Char.isDigit = true :=
      ⟨Nat.toDigits_ne_nil, List.all_eq_true.2 fun c hc => isDigit_of_mem_toDigits hc⟩
    split
    case isTrue hneg =>
      rw [readExponent, if_pos (Or.inr rfl)]
      simp only [hdigits, if_true, Nat.ofDigitChars_ten_toDigits, and_self, not_false_eq_true,
        ne_eq]
      congr 1
      omega
    case isFalse hneg =>
      rw [readExponent, if_pos (Or.inr rfl)]
      simp only [hdigits, if_true, Nat.ofDigitChars_ten_toDigits, and_self, not_false_eq_true,
        ne_eq]
      simp only [Bool.false_eq_true, if_false]
      congr 1
      omega

/-- The text starts with no digit, so that digits in front of it end there. -/
def Stops (cs : List Char) : Prop := ∀ c ∈ cs.head?, c.isDigit = false

lemma spanDigits_append {ds cs : List Char} (hds : ∀ c ∈ ds, c.isDigit = true) (hcs : Stops cs) :
    spanDigits (ds ++ cs) = (ds, cs) := by
  rw [spanDigits, List.takeWhile_append_of_pos hds, List.dropWhile_append_of_pos hds]
  cases cs with
  | nil => simp
  | cons c cs =>
      have hc : c.isDigit = false := hcs c rfl
      simp [hc]

lemma stops_expText (k : ℤ) : Stops (expText k) := by
  rw [expText, Stops]
  split
  · simp
  · intro c hc
    cases hc
    rfl

lemma readPoint_text (frac : List Char) (hfrac : ∀ c ∈ frac, c.isDigit = true) (k : ℤ) :
    readPoint (pointText frac ++ expText k) = (frac, expText k) := by
  rw [pointText]
  split
  case isTrue hnil =>
    rw [hnil, List.nil_append, expText]
    split <;> rfl
  case isFalse =>
    rw [List.cons_append, readPoint]
    exact spanDigits_append hfrac (stops_expText k)

lemma stops_text (frac : List Char) (k : ℤ) : Stops (pointText frac ++ expText k) := by
  rw [pointText]
  split
  · exact stops_expText k
  · intro c hc
    cases hc
    rfl

/-- The digits before the point, those after it, and the exponent. -/
lemma readUnsigned_text (negative : Bool) :
    readUnsigned negative (u.int ++ pointText u.frac ++ expText u.exp) =
      some ⟨negative, Nat.ofDigitChars 10 (u.int ++ u.frac) 0, u.exp - u.frac.length⟩ := by
  have hne : u.int ++ u.frac ≠ [] := List.append_ne_nil_of_left_ne_nil u.int_ne _
  rw [readUnsigned, List.append_assoc, spanDigits_append u.isDigit_int (stops_text _ _)]
  simp only [readPoint_text _ u.isDigit_frac, if_neg hne, readExponent_expText, Option.map_some]

/-- The sign is not a digit, and the first digit is not a sign. -/
lemma readSigned_text : readSigned u.text = some u.number := by
  obtain ⟨c, cs, hint⟩ := List.exists_cons_of_ne_nil u.int_ne
  have hc : c.isDigit = true := u.isDigit_int c (hint ▸ List.mem_cons_self)
  have hread := u.readUnsigned_text u.negative
  rw [text, signText, number]
  by_cases hneg : u.negative = true
  · rw [if_pos hneg, hneg]
    rw [hneg] at hread
    exact hread
  · rw [if_neg hneg, List.nil_append, ← hread, hint, Bool.eq_false_iff.2 hneg]
    rw [List.append_assoc, List.cons_append, readSigned]
    · rintro ds h
      cases h
      cases hc
    · rintro ds h
      cases h
      cases hc

lemma eq_of_mem_signText {negative : Bool} {c : Char} (hc : c ∈ signText negative) : c = '-' := by
  rw [signText] at hc
  split at hc
  · exact List.mem_singleton.1 hc
  · cases hc

lemma mem_pointText {frac : List Char} (hfrac : ∀ c ∈ frac, c.isDigit = true) {c : Char}
    (hc : c ∈ pointText frac) : c.isDigit = true ∨ c = '.' := by
  rw [pointText] at hc
  split at hc
  · cases hc
  · rcases List.mem_cons.1 hc with rfl | hdigit
    · exact Or.inr rfl
    · exact Or.inl (hfrac c hdigit)

lemma mem_expText {k : ℤ} {c : Char} (hc : c ∈ expText k) :
    c.isDigit = true ∨ c = '-' ∨ c = '+' ∨ c = 'E' := by
  rw [expText] at hc
  split at hc
  · cases hc
  rcases List.mem_cons.1 hc with rfl | hc
  · exact Or.inr (Or.inr (Or.inr rfl))
  rcases List.mem_cons.1 hc with rfl | hdigit
  · split
    · exact Or.inr (Or.inl rfl)
    · exact Or.inr (Or.inr (Or.inl rfl))
  · exact Or.inl (isDigit_of_mem_toDigits hdigit)

/-- The characters of a numeral. -/
lemma mem_text {c : Char} (hc : c ∈ u.text) :
    c.isDigit = true ∨ c = '-' ∨ c = '+' ∨ c = '.' ∨ c = 'E' := by
  rw [text, List.mem_append, List.mem_append, List.mem_append] at hc
  rcases hc with ((hsign | hint) | hpoint) | hexp
  · exact Or.inr (Or.inl (eq_of_mem_signText hsign))
  · exact Or.inl (u.isDigit_int c hint)
  · have hchar := mem_pointText u.isDigit_frac hpoint
    tauto
  · have hchar := mem_expText hexp
    tauto

/-- No white space, no underscore, and digits of one script. -/
lemma normalised_text : normalised (String.ofList u.text) = u.text := by
  have hcode : ∀ c ∈ u.text, 43 ≤ c.toNat ∧ c.toNat ≤ 69 := by
    intro c hc
    rcases u.mem_text hc with hdigit | rfl | rfl | rfl | rfl
    · have hrange := Char.isDigit_iff_toNat.1 hdigit
      have hzero : ('0' : Char).toNat = 48 := rfl
      have hnine : ('9' : Char).toNat = 57 := rfl
      omega
    all_goals decide
  have hstrip : strip u.text = u.text := stripBy_of_forall fun c hc => by
    have hrange := hcode c hc
    simp only [isSpace, Bool.or_eq_false_iff, Bool.and_eq_false_iff, decide_eq_false_iff_not]
    omega
  have hfilter : u.text.filter (· ≠ '_') = u.text := List.filter_eq_self.2 fun c hc => by
    have hrange := hcode c hc
    refine decide_eq_true ?_
    rintro rfl
    exact absurd hrange.2 (by decide)
  rw [normalised, String.toList_ofList, hstrip, hfilter]
  conv_rhs => rw [← List.map_id u.text]
  refine List.map_congr_left fun c hc => ?_
  rw [toAscii, if_pos (by have hrange := hcode c hc; omega), id]

/-- A numeral is read. -/
theorem ofText_text : ofText (String.ofList u.text) = some u.number := by
  rw [ofText, normalised_text, readSigned_text]

end Numeral

/-! ## What `str` writes -/

/-- The number is written without an exponent. -/
def IsPlain (d : Decimal) : Prop := d.exp ≤ 0 ∧ -6 < d.exp + digits d.coeff

lemma toList_exp (left dot : ℤ) :
    (if left = dot then "" else
      "E" ++ (if left - dot < 0 then "-" else "+") ++ Nat.repr (left - dot).natAbs).toList =
      Numeral.expText (left - dot) := by
  rw [Numeral.expText]
  by_cases hzero : left = dot
  · rw [if_pos hzero, if_pos (sub_eq_zero.2 hzero), String.toList_empty]
  · rw [if_neg hzero, if_neg (sub_ne_zero.2 hzero), String.toList_append, String.toList_append,
      Nat.toList_repr]
    by_cases hneg : left - dot < 0
    · rw [if_pos hneg, if_pos hneg]
      rfl
    · rw [if_neg hneg, if_neg hneg]
      rfl

lemma toList_sign (negative : Bool) :
    (if negative = true then "-" else "").toList = Numeral.signText negative := by
  cases negative <;> rfl

/-- `str` writes a numeral of the number, and an exponent if the number is not plain. -/
lemma exists_numeral (d : Decimal) :
    ∃ u : Numeral, d.str.toList = u.text ∧ u.number = d ∧ (u.exp = 0 ↔ d.IsPlain) := by
  have hdigits : ∀ c ∈ Nat.toDigits 10 d.coeff, c.isDigit = true :=
    fun c hc => isDigit_of_mem_toDigits hc
  have hread := @Nat.ofDigitChars_ten_toDigits d.coeff
  have hlength : (Nat.toDigits 10 d.coeff).length = digits d.coeff := by
    rw [digits, ← String.length_toList, Nat.toList_repr]
  have hpos := digits_pos d.coeff
  have hne : Nat.toDigits 10 d.coeff ≠ [] := Nat.toDigits_ne_nil
  rw [str]
  simp only [← String.length_toList, Nat.toList_repr, hlength]
  generalize hdot : (if d.exp ≤ 0 ∧ -6 < d.exp + digits d.coeff then d.exp + digits d.coeff
    else 1) = dot
  have hle : dot ≤ digits d.coeff := by
    rw [← hdot]
    split <;> omega
  have hplain : d.exp + digits d.coeff - dot = 0 ↔ d.IsPlain := by
    rw [IsPlain, ← hdot]
    by_cases h : d.exp ≤ 0 ∧ -6 < d.exp + digits d.coeff
    · rw [if_pos h]
      exact iff_of_true (sub_self _) h
    · rw [if_neg h]
      omega
  rw [String.toList_append, String.toList_append, String.toList_append, toList_exp, toList_sign]
  rcases le_or_gt dot 0 with hsmall | hpoint
  · -- zeros stand between the point and the digits
    refine ⟨⟨d.negative, ['0'], List.replicate (-dot).toNat '0' ++ Nat.toDigits 10 d.coeff,
      d.exp + digits d.coeff - dot, List.cons_ne_nil _ _, ?_, ?_⟩, ?_, ?_, hplain⟩
    · intro c hc
      rw [List.mem_singleton.1 hc]
      rfl
    · intro c hc
      rcases List.mem_append.1 hc with hzero | hdigit
      · rw [(List.mem_replicate.1 hzero).2]
        rfl
      · exact hdigits c hdigit
    · rw [if_pos hsmall, if_pos hsmall, Numeral.text, Numeral.pointText,
        if_neg (List.append_ne_nil_of_right_ne_nil _ hne)]
      simp only [String.toList_append, String.toList_ofList, Nat.toList_repr]
      rfl
    · simp only [Numeral.number, Nat.ofDigitChars_append, Nat.ofDigitChars_replicate_zero,
        List.length_append, List.length_replicate, hlength]
      have hzero : Nat.ofDigitChars 10 ['0'] 0 = 0 := rfl
      rw [hzero, mul_zero, hread]
      congr 1
      omega
  rcases lt_or_ge dot (digits d.coeff) with hinside | hend
  · -- the point stands between the digits
    have hdrop : (Nat.toDigits 10 d.coeff).drop dot.toNat ≠ [] := by
      rw [Ne, List.drop_eq_nil_iff, hlength]
      omega
    refine ⟨⟨d.negative, (Nat.toDigits 10 d.coeff).take dot.toNat,
      (Nat.toDigits 10 d.coeff).drop dot.toNat, d.exp + digits d.coeff - dot, ?_,
      fun c hc => hdigits c (List.mem_of_mem_take hc),
      fun c hc => hdigits c (List.mem_of_mem_drop hc)⟩, ?_, ?_, hplain⟩
    · rw [Ne, List.take_eq_nil_iff]
      rintro (hzero | hnil)
      · omega
      · exact hne hnil
    · rw [if_neg (not_le.2 hpoint), if_neg (not_le.2 hpoint), if_neg (not_le.2 hinside),
        if_neg (not_le.2 hinside), Numeral.text, Numeral.pointText, if_neg hdrop]
      simp only [String.toList_append, String.toList_ofList]
      rfl
    · simp only [Numeral.number, List.take_append_drop, hread, List.length_drop, hlength]
      congr 1
      omega
  · refine ⟨⟨d.negative, Nat.toDigits 10 d.coeff, [], d.exp + digits d.coeff - dot, hne, hdigits,
      fun c hc => absurd hc List.not_mem_nil⟩, ?_, ?_, hplain⟩
    · rw [if_neg (not_le.2 hpoint), if_neg (not_le.2 hpoint), if_pos hend, if_pos hend,
        String.toList_append, String.toList_ofList, Nat.toList_repr,
        show (dot - digits d.coeff).toNat = 0 by omega, Numeral.text, Numeral.pointText, if_pos rfl]
      simp
    · simp only [Numeral.number, List.append_nil, hread, List.length_nil]
      congr 1
      omega

/-- **What `str` writes is read back.** -/
theorem ofText_str (d : Decimal) : ofText d.str = some d := by
  obtain ⟨u, htext, hnumber, -⟩ := d.exists_numeral
  rw [← String.ofList_toList (s := d.str), htext, u.ofText_text, hnumber]

end Decimal

end PaymentGateway
