/-
# JSON values

The values that `json.loads` gives and `json.dumps` takes: request bodies, a payment's
free-form metadata, a provider's response.  A Python dict is the list of its items in
insertion order.  `Json.canon` sorts the items of every dict by key, so two values have the
same canonical form exactly when they are equal up to the order of their keys; that is the
notion of an equal body that `sort_keys=True` computes.  `Json.modelDump` is what pydantic's
`model_dump(mode="json")` makes of a value: a float that JSON has no number for becomes `null`.
-/
import Mathlib.Data.List.Sort
import Mathlib.Data.String.Basic

namespace PaymentGateway

/-- A Python float: `json.loads` also accepts `NaN` and `Infinity`.  Of the two zeros,
`finite 0` is `0.0`; they are equal numbers, but `json.dumps` writes them differently. -/
inductive PyFloat where
  | finite (x : Rat)
  | negZero
  | infinite (negative : Bool)
  | nan
deriving DecidableEq, Repr

/-- A JSON value, with Python's distinction between integers and floats.  The items of an object
are kept in their order. -/
inductive Json where
  | null
  | bool (b : Bool)
  | int (n : Int)
  | float (x : PyFloat)
  | str (s : String)
  | arr (xs : List Json)
  | obj (fields : List (String × Json))
deriving Repr

instance : Inhabited Json := ⟨.null⟩

instance : Coe String Json := ⟨.str⟩

namespace Json

/-! ## Equality is decidable -/

mutual

/-- Structural equality: the order of the items counts, and no value equals one of another type.
-/
def beq : Json → Json → Bool
  | .null, .null => true
  | .bool a, .bool b => a == b
  | .int a, .int b => a == b
  | .float a, .float b => a == b
  | .str a, .str b => a == b
  | .arr xs, .arr ys => beqList xs ys
  | .obj fs, .obj gs => beqFields fs gs
  | _, _ => false

/-- Structural equality of the elements. -/
def beqList : List Json → List Json → Bool
  | [], [] => true
  | x :: xs, y :: ys => beq x y && beqList xs ys
  | _, _ => false

/-- Structural equality of the items, in their order. -/
def beqFields : List (String × Json) → List (String × Json) → Bool
  | [], [] => true
  | (k, x) :: fs, (l, y) :: gs => k == l && beq x y && beqFields fs gs
  | _, _ => false

end

mutual

lemma beq_iff : ∀ a b : Json, beq a b = true ↔ a = b
  | .null, b => by cases b <;> simp [beq]
  | .bool _, b => by cases b <;> simp [beq]
  | .int _, b => by cases b <;> simp [beq]
  | .float _, b => by cases b <;> simp [beq]
  | .str _, b => by cases b <;> simp [beq]
  | .arr xs, b => by cases b <;> simp [beq, beqList_iff xs]
  | .obj fs, b => by cases b <;> simp [beq, beqFields_iff fs]

lemma beqList_iff : ∀ xs ys : List Json, beqList xs ys = true ↔ xs = ys
  | [], ys => by cases ys <;> simp [beqList]
  | x :: xs, ys => by cases ys <;> simp [beqList, beq_iff x, beqList_iff xs]

lemma beqFields_iff : ∀ fs gs : List (String × Json), beqFields fs gs = true ↔ fs = gs
  | [], gs => by cases gs <;> simp [beqFields]
  | (k, x) :: fs, gs => by
    cases gs <;> simp [beqFields, beq_iff x, beqFields_iff fs, Prod.ext_iff, and_assoc]

end

instance : DecidableEq Json := fun a b => decidable_of_iff _ (beq_iff a b)

/-! ## What the code does with a value -/

/-- Python's truth value: `None`, a zero of any type and what is empty are false. -/
def truthy : Json → Bool
  | .null => false
  | .bool b => b
  | .int n => n ≠ 0
  | .float x => x ≠ .finite 0 ∧ x ≠ .negZero
  | .str s => s ≠ ""
  | .arr xs => !xs.isEmpty
  | .obj fs => !fs.isEmpty

/-- `a or b`: the first value if it is true in Python's sense, and else the second. -/
def orElse (a b : Json) : Json := if a.truthy then a else b

/-- `d.get(key)` on the items of a dict. -/
def lookup (fields : List (String × Json)) (key : String) : Option Json :=
  (fields.find? fun f => f.1 = key).map Prod.snd

mutual

/-- `model_dump(mode="json")` of a free-form value: `ser_json_inf_nan` is left at `"null"`, so
NaN and the infinities become `None`, at every level. -/
def modelDump : Json → Json
  | .float (.infinite _) => .null
  | .float .nan => .null
  | .arr xs => .arr (modelDumpItems xs)
  | .obj fs => .obj (modelDumpFields fs)
  | j => j

/-- The elements of a list, each as `modelDump` gives it. -/
def modelDumpItems : List Json → List Json
  | [] => []
  | x :: xs => x.modelDump :: modelDumpItems xs

/-- The items of a dict, each value as `modelDump` gives it. -/
def modelDumpFields : List (String × Json) → List (String × Json)
  | [] => []
  | (k, x) :: fs => (k, x.modelDump) :: modelDumpFields fs

end

mutual

/-- The value with the items of every dict sorted by key, at every level. -/
def canon : Json → Json
  | .arr xs => .arr (canonList xs)
  | .obj fs => .obj ((canonFields fs).insertionSort fun f g => f.1 ≤ g.1)
  | j => j

/-- The elements of a list, each in its canonical form; their order stays. -/
def canonList : List Json → List Json
  | [] => []
  | x :: xs => x.canon :: canonList xs

/-- The items of a dict, each value in its canonical form, and not sorted yet. -/
def canonFields : List (String × Json) → List (String × Json)
  | [] => []
  | (k, x) :: fs => (k, x.canon) :: canonFields fs

end

end Json

end PaymentGateway
