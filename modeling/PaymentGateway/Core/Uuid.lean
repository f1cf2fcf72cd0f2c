/-
# UUIDs

A `uuid.UUID` is its 32 hexadecimal digits.  `str` writes them in the groups of 8, 4, 4, 4
and 12; it is injective (`Uuid.str_injective`), which is what makes a refund's request body
tell the payments apart.
-/
import Mathlib.Data.String.Basic
import Mathlib.Data.List.Basic

namespace PaymentGateway

/-- A UUID: 32 hexadecimal digits. -/
structure Uuid where
  digits : List (Fin 16)
  length_eq : digits.length = 32
deriving DecidableEq, Repr

namespace Uuid

/-- The lower-case hexadecimal digit. -/
def hexDigit (d : Fin 16) : Char := Nat.digitChar d

lemma hexDigit_injective : Function.Injective hexDigit := by
  have h : ∀ d e, hexDigit d = hexDigit e → d = e := by decide
  exact fun d e => h d e

lemma hexDigit_ne_dash (d : Fin 16) : hexDigit d ≠ '-' := by revert d; decide

/-- The UUID with the given value. -/
def ofNat (n : ℕ) : Uuid :=
  ⟨(List.range 32).map fun i => ⟨n / 16 ^ (31 - i) % 16, Nat.mod_lt _ (by decide)⟩, by simp⟩

/-- The characters of `str(u)`. -/
def chars (u : Uuid) : List Char :=
  let cs := u.digits.map hexDigit
  cs.take 8 ++ '-' :: ((cs.drop 8).take 4 ++ '-' :: ((cs.drop 12).take 4 ++
    '-' :: ((cs.drop 16).take 4 ++ '-' :: cs.drop 20)))

/-- `str(u)`, in the form with four dashes. -/
def str (u : Uuid) : String := String.ofList u.chars

/-- Without its dashes, the text of a UUID is its digits. -/
lemma filter_chars (u : Uuid) : u.chars.filter (· ≠ '-') = u.digits.map hexDigit := by
  have hkeep : ∀ cs : List (Fin 16), (cs.map hexDigit).filter (· ≠ '-') = cs.map hexDigit := by
    intro cs
    apply List.filter_eq_self.2
    intro c hc
    obtain ⟨d, -, rfl⟩ := List.mem_map.1 hc
    simpa using hexDigit_ne_dash d
  have hsplit (n m : ℕ) (cs : List (Fin 16)) :
      (cs.drop n).take m ++ cs.drop (n + m) = cs.drop n := by
    rw [← List.drop_drop, List.take_append_drop]
  simp only [chars, List.filter_append, List.filter_cons, ← List.map_take, ← List.map_drop, hkeep]
  simp only [ne_eq, not_true_eq_false, decide_false, Bool.false_eq_true, if_false,
    ← List.map_append]
  rw [hsplit 16 4, hsplit 12 4, hsplit 8 4, List.take_append_drop]

lemma length_str (u : Uuid) : u.str.length = 36 := by
  rw [str, String.length_ofList, chars]
  simp only [List.length_append, List.length_cons, List.length_take, List.length_drop,
    List.length_map, u.length_eq]
  omega

lemma str_injective : Function.Injective str := by
  intro u v huv
  have hchars : u.chars = v.chars := String.ofList_injective huv
  have hdigits : u.digits = v.digits := by
    apply List.map_injective_iff.2 hexDigit_injective
    rw [← filter_chars u, ← filter_chars v, hchars]
  cases u
  cases v
  simpa using hdigits

end Uuid

end PaymentGateway
