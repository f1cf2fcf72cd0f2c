/-
# Numerals

Python's `int(s)` and `str(n)`.  A numeral may have white space around it, a sign, digits of any
script, and single underscores between them; neither function handles a number of more than
4300 digits.  What is printed is read back (`intOfText_toString`), and what is read can be
printed (`intOfText_lt`).

Decimal digits are those of Unicode 15.0.
-/
import Mathlib.Algebra.Order.Ring.Int
import Mathlib.Data.List.TakeDrop
import PaymentGateway.Core.Errors

namespace PaymentGateway

/-! ## Characters -/

/-- `c.isspace()`, which also holds of the white space beyond ASCII. -/
def isSpace (c : Char) : Bool :=
  (9 ≤ c.toNat && c.toNat ≤ 13) || (28 ≤ c.toNat && c.toNat ≤ 32) || c.toNat = 0x85 ||
    c.toNat = 0xa0 || c.toNat = 0x1680 || (0x2000 ≤ c.toNat && c.toNat ≤ 0x200a) ||
    c.toNat = 0x2028 || c.toNat = 0x2029 || c.toNat = 0x202f || c.toNat = 0x205f ||
    c.toNat = 0x3000

/-- The characters without those at both ends that satisfy `p`. -/
def stripBy (p : Char → Bool) (s : List Char) : List Char :=
  ((s.dropWhile p).reverse.dropWhile p).reverse

/-- `s.strip()` -/
def strip (s : List Char) : List Char := stripBy isSpace s

/-- The zeros of the scripts, each followed by the other nine digits. -/
def decimalZeros : List ℕ :=
  [0x30, 0x660, 0x6f0, 0x7c0, 0x966, 0x9e6, 0xa66, 0xae6, 0xb66, 0xbe6, 0xc66, 0xce6, 0xd66, 0xde6,
    0xe50, 0xed0, 0xf20, 0x1040, 0x1090, 0x17e0, 0x1810, 0x1946, 0x19d0, 0x1a80, 0x1a90, 0x1b50,
    0x1bb0, 0x1c40, 0x1c50, 0xa620, 0xa8d0, 0xa900, 0xa9d0, 0xa9f0, 0xaa50, 0xabf0, 0xff10, 0x104a0,
    0x10d30, 0x11066, 0x110f0, 0x11136, 0x111d0, 0x112f0, 0x11450, 0x114d0, 0x11650, 0x116c0,
    0x11730, 0x118e0, 0x11950, 0x11c50, 0x11d50, 0x11da0, 0x11f50, 0x16a60, 0x16ac0, 0x16b50,
    0x1d7ce, 0x1d7d8, 0x1d7e2, 0x1d7ec, 0x1d7f6, 0x1e140, 0x1e2f0, 0x1e4f0, 0x1e950, 0x1fbf0]

/-- `unicodedata.decimal(c)` -/
def decimal (c : Char) : Option ℕ :=
  (decimalZeros.find? fun first => first ≤ c.toNat && c.toNat < first + 10).map (c.toNat - ·)

/-- What `int` reads in the place of a character: ASCII is kept, white space becomes a blank and
a digit of any script its ASCII digit.  Anything else is unreadable. -/
def toAscii (c : Char) : Char :=
  if c.toNat < 127 then c
  else if isSpace c then ' '
  else
    match decimal c with
    | some d => Char.ofNat (48 + d)
    | none => '?'

/-- The white space of C, which `int` skips at both ends once the text is ASCII. -/
def isAsciiSpace (c : Char) : Bool := c = ' ' || (9 ≤ c.toNat && c.toNat ≤ 13)

/-! ## Numerals -/

/-- The limit on the digits of `int(s)` and `str(n)`, `sys.get_int_max_str_digits()` by default.
-/
def maxStrDigits : ℕ := 4300

/-- The decimal digits of a literal, with single underscores between them. -/
def digitsValue : List Char → Option ℕ → Option ℕ
  | [], n => n
  | c :: cs, n =>
      if c.isDigit then digitsValue cs (some (10 * n.getD 0 + (c.toNat - '0'.toNat)))
      else
        match c, n, cs with
        | '_', some _, d :: _ => if d.isDigit then digitsValue cs n else none
        | _, _, _ => none

/-- A decimal literal with its sign, with single underscores between the digits. -/
def signedValue : List Char → Option ℤ
  | '-' :: cs => (digitsValue cs none).map fun n : ℕ => -(n : ℤ)
  | '+' :: cs => (digitsValue cs none).map fun n : ℕ => (n : ℤ)
  | cs => (digitsValue cs none).map fun n : ℕ => (n : ℤ)

/-- `int(s)`, or nothing where that raises: the text is no literal, or has more digits than the
limit. -/
def intOfText (s : String) : Option ℤ :=
  let cs := stripBy isAsciiSpace (s.toList.map toAscii)
  if maxStrDigits < (cs.filter Char.isDigit).length then none else signedValue cs

/-- `str(n)`, which raises where the digits are more than the limit. -/
def strOfInt (n : ℤ) : Except Exn String :=
  if 10 ^ maxStrDigits ≤ n.natAbs then .error (.python .valueError) else .ok (toString n)

/-! ## What is read -/

lemma digitsValue_cons_of_isDigit {c : Char} (h : c.isDigit = true) (cs : List Char)
    (n : Option ℕ) :
    digitsValue (c :: cs) n = digitsValue cs (some (10 * n.getD 0 + (c.toNat - '0'.toNat))) := by
  conv_lhs => unfold digitsValue
  exact if_pos h

/-- Digits after digits. -/
lemma digitsValue_of_isDigit {cs : List Char} (h : ∀ c ∈ cs, c.isDigit = true) (n : ℕ) :
    digitsValue cs (some n) = some (Nat.ofDigitChars 10 cs n) := by
  induction cs generalizing n with
  | nil => rfl
  | cons c cs ih =>
    rw [digitsValue_cons_of_isDigit (h c List.mem_cons_self), Option.getD_some,
      Nat.ofDigitChars_cons]
    exact ih (fun d hd => h d (List.mem_cons_of_mem c hd)) _

lemma isDigit_of_mem_toDigits {n : ℕ} {c : Char} (hc : c ∈ Nat.toDigits 10 n) :
    c.isDigit = true :=
  Nat.isDigit_of_mem_toDigits (by decide) (by decide) hc

lemma digitsValue_toDigits (n : ℕ) : digitsValue (Nat.toDigits 10 n) none = some n := by
  have hdigit : ∀ c ∈ Nat.toDigits 10 n, c.isDigit = true := fun c hc => isDigit_of_mem_toDigits hc
  have hread := @Nat.ofDigitChars_ten_toDigits n
  cases hdigits : Nat.toDigits 10 n with
  | nil => exact absurd hdigits Nat.toDigits_ne_nil
  | cons c cs =>
    rw [hdigits] at hdigit hread
    rw [digitsValue_cons_of_isDigit (hdigit c List.mem_cons_self), Option.getD_none,
      digitsValue_of_isDigit fun d hd => hdigit d (List.mem_cons_of_mem c hd),
      ← Nat.ofDigitChars_cons, hread]

/-- The letters of a printed number. -/
def isNumeral (c : Char) : Bool := c.isDigit || c = '-'

lemma isNumeral_toNat {c : Char} (h : isNumeral c = true) :
    c.toNat = 45 ∨ 48 ≤ c.toNat ∧ c.toNat ≤ 57 := by
  rw [isNumeral, Bool.or_eq_true, decide_eq_true_eq] at h
  rcases h with hdigit | rfl
  · rw [Char.isDigit, Bool.and_eq_true, decide_eq_true_eq, decide_eq_true_eq] at hdigit
    exact Or.inr ⟨hdigit.1, hdigit.2⟩
  · exact Or.inl rfl

lemma toList_toString_int (n : ℤ) : (toString n).toList =
    if n < 0 then '-' :: Nat.toDigits 10 n.natAbs else Nat.toDigits 10 n.natAbs := by
  cases n with
  | ofNat m =>
    rw [if_neg (by simp)]
    exact Nat.toList_repr
  | negSucc m =>
    rw [if_pos (Int.negSucc_lt_zero m)]
    show ("-" ++ (m + 1).repr : String).toList = _
    rw [String.toList_append, Nat.toList_repr]
    rfl

lemma isNumeral_of_mem {n : ℤ} : ∀ c ∈ (toString n).toList, isNumeral c = true := by
  intro c hc
  rw [toList_toString_int] at hc
  split at hc
  · rcases List.mem_cons.1 hc with rfl | hc
    · rfl
    · rw [isNumeral, isDigit_of_mem_toDigits hc, Bool.true_or]
  · rw [isNumeral, isDigit_of_mem_toDigits hc, Bool.true_or]

lemma signedValue_cons_of_isDigit {c : Char} (h : c.isDigit = true) (cs : List Char) :
    signedValue (c :: cs) = (digitsValue (c :: cs) none).map fun n : ℕ => (n : ℤ) := by
  unfold signedValue
  split
  · rename_i heq
    obtain ⟨rfl, -⟩ := List.cons.inj heq
    cases h
  · rename_i heq
    obtain ⟨rfl, -⟩ := List.cons.inj heq
    cases h
  · rfl

/-- A printed number is read back. -/
lemma signedValue_toString (n : ℤ) : signedValue (toString n).toList = some n := by
  rw [toList_toString_int]
  by_cases hneg : n < 0
  · rw [if_pos hneg, signedValue, digitsValue_toDigits]
    show some (-(n.natAbs : ℤ)) = some n
    congr 1
    omega
  · have hread : signedValue (Nat.toDigits 10 n.natAbs) =
        (digitsValue (Nat.toDigits 10 n.natAbs) none).map fun n : ℕ => (n : ℤ) := by
      cases hdigits : Nat.toDigits 10 n.natAbs with
      | nil => exact absurd hdigits Nat.toDigits_ne_nil
      | cons c cs =>
        have hmem : c ∈ Nat.toDigits 10 n.natAbs := by
          rw [hdigits]
          exact List.mem_cons_self
        exact signedValue_cons_of_isDigit (isDigit_of_mem_toDigits hmem) cs
    rw [if_neg hneg, hread, digitsValue_toDigits]
    show some (n.natAbs : ℤ) = some n
    congr 1
    omega

lemma toString_int_injective {m n : ℤ} (h : toString m = toString n) : m = n := by
  have hread := signedValue_toString m
  rw [h, signedValue_toString] at hread
  exact (Option.some.inj hread).symm

lemma stripBy_of_forall {p : Char → Bool} {s : List Char} (h : ∀ c ∈ s, p c = false) :
    stripBy p s = s := by
  have hdrop : ∀ t : List Char, (∀ c ∈ t, p c = false) → t.dropWhile p = t := by
    intro t ht
    cases t with
    | nil => rfl
    | cons c t => rw [List.dropWhile_cons_of_neg (by simp [ht c List.mem_cons_self])]
  rw [stripBy, hdrop s h, hdrop s.reverse fun c hc => h c (List.mem_reverse.1 hc),
    List.reverse_reverse]

lemma toAscii_of_isNumeral {c : Char} (h : isNumeral c = true) : toAscii c = c := by
  have hcode := isNumeral_toNat h
  rw [toAscii, if_pos (by omega)]

lemma isAsciiSpace_of_isNumeral {c : Char} (h : isNumeral c = true) : isAsciiSpace c = false := by
  have hcode := isNumeral_toNat h
  have hspace : c ≠ ' ' := by
    rintro rfl
    cases h
  rw [isAsciiSpace, Bool.or_eq_false_iff, Bool.and_eq_false_iff, decide_eq_false_iff_not,
    decide_eq_false_iff_not, decide_eq_false_iff_not]
  exact ⟨hspace, Or.inr (by omega)⟩

/-- **What is printed is read back.** -/
theorem intOfText_toString {n : ℤ} (h : n.natAbs < 10 ^ maxStrDigits) :
    intOfText (toString n) = some n := by
  have hascii : (toString n).toList.map toAscii = (toString n).toList := by
    calc (toString n).toList.map toAscii = (toString n).toList.map id :=
          List.map_congr_left fun c hc => toAscii_of_isNumeral (isNumeral_of_mem c hc)
      _ = (toString n).toList := List.map_id _
  have hstrip : stripBy isAsciiSpace (toString n).toList = (toString n).toList :=
    stripBy_of_forall fun c hc => isAsciiSpace_of_isNumeral (isNumeral_of_mem c hc)
  have hdigits : (toString n).toList.filter Char.isDigit = Nat.toDigits 10 n.natAbs := by
    have hall : (Nat.toDigits 10 n.natAbs).filter Char.isDigit = Nat.toDigits 10 n.natAbs :=
      List.filter_eq_self.2 fun c hc => isDigit_of_mem_toDigits hc
    rw [toList_toString_int]
    split
    · exact hall
    · exact hall
  have hcount : ¬ maxStrDigits < (Nat.toDigits 10 n.natAbs).length :=
    not_lt.2 ((Nat.length_toDigits_le_iff (by decide) (by decide)).2 h)
  rw [intOfText, hascii, hstrip, hdigits, if_neg hcount, signedValue_toString]

lemma isDigit_sub_le {c : Char} (h : c.isDigit = true) : c.toNat - '0'.toNat ≤ 9 := by
  have hcode := (Char.isDigit_iff_toNat.1 h).2
  show c.toNat - 48 ≤ 9
  have hnine : ('9' : Char).toNat = 57 := rfl
  omega

/-- The digits of a literal bound its value. -/
lemma digitsValue_lt {cs : List Char} {n : Option ℕ} {m : ℕ} (h : digitsValue cs n = some m) :
    m < (n.getD 0 + 1) * 10 ^ (cs.filter Char.isDigit).length := by
  induction cs generalizing n with
  | nil =>
    have hn : n = some m := h
    rw [hn]
    simp
  | cons c cs ih =>
    by_cases hdigit : c.isDigit = true
    · rw [digitsValue_cons_of_isDigit hdigit] at h
      have hrest := ih h
      have hle := isDigit_sub_le hdigit
      rw [List.filter_cons_of_pos hdigit, List.length_cons, Nat.pow_succ', ← Nat.mul_assoc]
      refine hrest.trans_le (Nat.mul_le_mul_right _ ?_)
      rw [Option.getD_some]
      omega
    · -- an underscore stands between digits
      unfold digitsValue at h
      rw [if_neg hdigit] at h
      rw [List.filter_cons_of_neg hdigit]
      split at h
      · split at h
        · exact ih h
        · cases h
      · cases h

lemma signedValue_lt {cs : List Char} {n : ℤ} (h : signedValue cs = some n) :
    n.natAbs < 10 ^ (cs.filter Char.isDigit).length := by
  have hvalue : ∀ {cs : List Char} {f : ℕ → ℤ}, (∀ m, (f m).natAbs = m) →
      (digitsValue cs none).map f = some n → n.natAbs < 10 ^ (cs.filter Char.isDigit).length := by
    intro cs f hf hmap
    obtain ⟨m, hm, rfl⟩ := Option.map_eq_some_iff.1 hmap
    have hlt := digitsValue_lt hm
    rw [hf]
    simpa using hlt
  unfold signedValue at h
  split at h
  · rw [List.filter_cons_of_neg (by decide)]
    refine hvalue (fun m => ?_) h
    omega
  · rw [List.filter_cons_of_neg (by decide)]
    refine hvalue (fun m => ?_) h
    omega
  · refine hvalue (fun m => ?_) h
    omega

/-- What is read can be printed. -/
theorem intOfText_lt {s : String} {n : ℤ} (h : intOfText s = some n) :
    n.natAbs < 10 ^ maxStrDigits := by
  rw [intOfText] at h
  split at h
  · cases h
  · rename_i hcount
    exact (signedValue_lt h).trans_le (Nat.pow_le_pow_right (by decide) (not_lt.1 hcount))

end PaymentGateway
