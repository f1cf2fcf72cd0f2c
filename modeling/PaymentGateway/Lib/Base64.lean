/-
# Base64 with the URL-safe alphabet

The encoder, and the lenient decoder of Python's `binascii`: characters outside the alphabet
are skipped, a pad ends the text once its quad is complete, and both alphabets are read.
Decoding undoes encoding (`decode_encode`).
-/
import Mathlib.Data.List.Basic

namespace Transact

namespace Base64

/-- The alphabet of `urlsafe_b64encode`, in the order of the digits. -/
def alphabet : List Char :=
  "ABCDEFGHIJKLMNOPQRSTUVWXYZabcdefghijklmnopqrstuvwxyz0123456789-_".toList

/-- The character of a digit: its place in the alphabet.  No digit is beyond it, so the default
is never taken. -/
def symbol (d : ℕ) : Char := alphabet.getD d '='

/-- The digit of a character.  `urlsafe_b64decode` first replaces the two characters for URLs, so
that those of the ordinary alphabet are read too. -/
def value (c : Char) : Option ℕ :=
  if c = '+' then some 62 else if c = '/' then some 63
  else if c ∈ alphabet then some (alphabet.idxOf c) else none

/-- The characters of `base64.urlsafe_b64encode`: four for three bytes, and what is left over is
filled up with `=`. -/
def encodeChars : List UInt8 → List Char
  | a :: b :: c :: bs =>
      symbol (a.toNat / 4) :: symbol (a.toNat % 4 * 16 + b.toNat / 16) ::
        symbol (b.toNat % 16 * 4 + c.toNat / 64) :: symbol (c.toNat % 64) :: encodeChars bs
  | [a, b] =>
      [symbol (a.toNat / 4), symbol (a.toNat % 4 * 16 + b.toNat / 16),
        symbol (b.toNat % 16 * 4), '=']
  | [a] => [symbol (a.toNat / 4), symbol (a.toNat % 4 * 16), '=', '=']
  | [] => []

/-- `binascii.a2b_base64`: the characters that are left, the place in the current quad, the
bits that are left over from it, and the pads seen in it. -/
def decodeChars : List Char → ℕ → ℕ → ℕ → Option (List UInt8)
  | [], quad, _, _ => if quad = 0 then some [] else none
  | c :: cs, quad, left, pads =>
      if c = '=' then
        if quad < 2 then decodeChars cs quad left pads
        else if 4 ≤ quad + (pads + 1) then some []
        else decodeChars cs quad left (pads + 1)
      else
        match value c with
        | none => decodeChars cs quad left pads
        | some d =>
            match quad with
            | 0 => decodeChars cs 1 d 0
            | 1 => (decodeChars cs 2 (d % 16) 0).map (UInt8.ofNat (left * 4 + d / 16) :: ·)
            | 2 => (decodeChars cs 3 (d % 4) 0).map (UInt8.ofNat (left * 16 + d / 4) :: ·)
            | _ => (decodeChars cs 0 0 0).map (UInt8.ofNat (left * 64 + d) :: ·)

/-- `base64.urlsafe_b64encode`, with the padding. -/
def encode (bytes : List UInt8) : String := String.ofList (encodeChars bytes)

/-- `base64.urlsafe_b64decode`; a text that is not ASCII is refused. -/
def decode (text : String) : Option (List UInt8) :=
  if text.toList.all (·.toNat < 128) then decodeChars text.toList 0 0 0 else none

/-! ## Decoding undoes encoding -/

lemma value_symbol :
    ∀ d < 64, value (symbol d) = some d ∧ symbol d ≠ '=' ∧ (symbol d).toNat < 128 := by
  decide +kernel

section

variable {d : ℕ} (hd : d < 64) (cs : List Char) (left pads : ℕ)

include hd

lemma decodeChars_first :
    decodeChars (symbol d :: cs) 0 left pads = decodeChars cs 1 d 0 := by
  obtain ⟨hvalue, hpad, -⟩ := value_symbol d hd
  simp only [decodeChars, if_neg hpad, hvalue]

lemma decodeChars_second {a : UInt8} (ha : left * 4 + d / 16 = a.toNat) :
    decodeChars (symbol d :: cs) 1 left pads = (decodeChars cs 2 (d % 16) 0).map (a :: ·) := by
  obtain ⟨hvalue, hpad, -⟩ := value_symbol d hd
  simp only [decodeChars, if_neg hpad, hvalue, ha, UInt8.ofNat_toNat]

lemma decodeChars_third {a : UInt8} (ha : left * 16 + d / 4 = a.toNat) :
    decodeChars (symbol d :: cs) 2 left pads = (decodeChars cs 3 (d % 4) 0).map (a :: ·) := by
  obtain ⟨hvalue, hpad, -⟩ := value_symbol d hd
  simp only [decodeChars, if_neg hpad, hvalue, ha, UInt8.ofNat_toNat]

lemma decodeChars_fourth {a : UInt8} (ha : left * 64 + d = a.toNat) :
    decodeChars (symbol d :: cs) 3 left pads = (decodeChars cs 0 0 0).map (a :: ·) := by
  obtain ⟨hvalue, hpad, -⟩ := value_symbol d hd
  simp only [decodeChars, if_neg hpad, hvalue, ha, UInt8.ofNat_toNat]

end

lemma decodeChars_encodeChars (bytes : List UInt8) :
    decodeChars (encodeChars bytes) 0 0 0 = some bytes := by
  -- one quad at a time; the bits of a byte are joined from two digits
  induction bytes using encodeChars.induct with
  | case1 a b c bs ih =>
    have ha := a.toNat_lt
    have hb := b.toNat_lt
    have hc := c.toNat_lt
    rw [encodeChars, decodeChars_first (by omega),
      decodeChars_second (by omega) _ _ _ (a := a) (by omega),
      decodeChars_third (by omega) _ _ _ (a := b) (by omega),
      decodeChars_fourth (by omega) _ _ _ (a := c) (by omega), ih]
    rfl
  | case2 a b =>
    have ha := a.toNat_lt
    have hb := b.toNat_lt
    rw [encodeChars, decodeChars_first (by omega),
      decodeChars_second (by omega) _ _ _ (a := a) (by omega),
      decodeChars_third (by omega) _ _ _ (a := b) (by omega)]
    rfl
  | case3 a =>
    have ha := a.toNat_lt
    rw [encodeChars, decodeChars_first (by omega),
      decodeChars_second (by omega) _ _ _ (a := a) (by omega)]
    rfl
  | case4 => rfl

lemma encodeChars_ascii (bytes : List UInt8) : ∀ c ∈ encodeChars bytes, c.toNat < 128 := by
  induction bytes using encodeChars.induct with
  | case1 a b c bs ih =>
    have ha := a.toNat_lt
    have hb := b.toNat_lt
    have hc := c.toNat_lt
    intro x hx
    simp only [encodeChars, List.mem_cons] at hx
    rcases hx with rfl | rfl | rfl | rfl | hx
    · exact (value_symbol _ (by omega)).2.2
    · exact (value_symbol _ (by omega)).2.2
    · exact (value_symbol _ (by omega)).2.2
    · exact (value_symbol _ (by omega)).2.2
    · exact ih x hx
  | case2 a b =>
    have ha := a.toNat_lt
    have hb := b.toNat_lt
    intro x hx
    simp only [encodeChars, List.mem_cons, List.not_mem_nil, or_false] at hx
    rcases hx with rfl | rfl | rfl | rfl
    · exact (value_symbol _ (by omega)).2.2
    · exact (value_symbol _ (by omega)).2.2
    · exact (value_symbol _ (by omega)).2.2
    · decide
  | case3 a =>
    have ha := a.toNat_lt
    intro x hx
    simp only [encodeChars, List.mem_cons, List.not_mem_nil, or_false] at hx
    rcases hx with rfl | rfl | rfl | rfl
    · exact (value_symbol _ (by omega)).2.2
    · exact (value_symbol _ (by omega)).2.2
    · decide
    · decide
  | case4 =>
    intro x hx
    cases hx

theorem decode_encode (bytes : List UInt8) : decode (encode bytes) = some bytes := by
  have hascii : (encode bytes).toList.all (·.toNat < 128) = true := by
    rw [encode, String.toList_ofList, List.all_eq_true]
    exact fun c hc => decide_eq_true (encodeChars_ascii bytes c hc)
  rw [decode, if_pos hascii, encode, String.toList_ofList, decodeChars_encodeChars]

end Base64

end Transact
