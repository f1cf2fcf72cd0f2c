/-
# A text of JSON values

`Json.text` writes a value as `json.dumps` does with `separators=(",", ":")`, on values without
floats, which are written as fractions.  It is injective (`Json.text_injective`): a text ends
where its value ends, and its first character tells the kind of the value.  Together with
`Json.canon`, which sorts the keys, it is a serialisation that is injective up to the order of
keys.
-/
import Mathlib.Algebra.Order.Ring.Int
import Mathlib.Data.Rat.Defs
import PaymentGateway.Core.Json

namespace PaymentGateway

namespace Json

/-! ## The text -/

/-- `str(n)` of a natural number, in decimal digits. -/
def natText (n : ℕ) : List Char := Nat.toDigits 10 n

/-- `str(n)` of an integer, with a minus sign before a negative one. -/
def intText (n : ℤ) : List Char := if n < 0 then '-' :: natText n.natAbs else natText n.natAbs

/-- What is written for a float.  The shortest decimal that `repr` prints is replaced by the
reduced fraction: both determine the float, and a zero keeps its sign in either. -/
def floatText : PyFloat → List Char
  | .finite x => intText x.num ++ '/' :: natText x.den
  | .negZero => "-0.0".toList
  | .infinite false => "Infinity".toList
  | .infinite true => "-Infinity".toList
  | .nan => "NaN".toList

/-- The letter that stands for a character behind a backslash, for the seven characters that have
one. -/
def shortEscape (c : Char) : Option Char :=
  if c = '"' then some '"'
  else if c = '\\' then some '\\'
  else if c = '\n' then some 'n'
  else if c = '\r' then some 'r'
  else if c = '\t' then some 't'
  else if c = '\x08' then some 'b'
  else if c = '\x0c' then some 'f'
  else none

/-- `format(n, "04x")`, of a number below `0x10000` -/
def hex4 (n : ℕ) : List Char :=
  [n / 4096 % 16, n / 256 % 16, n / 16 % 16, n % 16].map Nat.digitChar

/-- The code units of a character in UTF-16: a pair of surrogates for one beyond the basic plane.
-/
def utf16 (c : Char) : List ℕ :=
  if c.toNat < 0x10000 then [c.toNat]
  else [0xd800 + (c.toNat - 0x10000) / 1024, 0xdc00 + (c.toNat - 0x10000) % 1024]

/-- A code unit of UTF-16 behind a backslash and a `u`, in four hexadecimal digits. -/
def escapeUnit (u : ℕ) : List Char := '\\' :: 'u' :: hex4 u

/-- A character as `ensure_ascii` writes it: itself if it is printable ASCII, a short escape
where there is one, and its code units otherwise. -/
def escapeChar (c : Char) : List Char :=
  match shortEscape c with
  | some e => ['\\', e]
  | none => if ' ' ≤ c ∧ c ≤ '~' then [c] else (utf16 c).flatMap escapeUnit

/-- The characters of a string, each as `ensure_ascii` writes it. -/
def escape (cs : List Char) : List Char := cs.flatMap escapeChar

/-- A string between quotation marks, followed by `rest`. -/
def strText (s : String) (rest : List Char) : List Char := '"' :: (escape s.toList ++ '"' :: rest)

mutual

/-- The characters of `json.dumps(value, separators=(",", ":"))`, but for the digits of floats,
which stand between parentheses.  A container is its elements, each with a comma before it,
without the first comma. -/
def chars : Json → List Char
  | .null => "null".toList
  | .bool true => "true".toList
  | .bool false => "false".toList
  | .int n => intText n
  | .float x => '(' :: (floatText x ++ [')'])
  | .str s => strText s []
  | .arr xs => '[' :: (charsList xs).drop 1 ++ [']']
  | .obj fs => '\x7b' :: (charsFields fs).drop 1 ++ ['\x7d']

/-- The elements, each with a comma before it. -/
def charsList : List Json → List Char
  | [] => []
  | x :: xs => ',' :: (x.chars ++ charsList xs)

/-- The fields, each with a comma before it: the key as a string, a colon and the value. -/
def charsFields : List (String × Json) → List Char
  | [] => []
  | (k, x) :: fs => ',' :: (strText k (':' :: x.chars) ++ charsFields fs)

end

/-- The text of the value. -/
def text (j : Json) : String := String.ofList j.chars

/-! ## Where a text ends -/

/-- Two texts whose letters satisfy `p`, and what follows them does not, are told apart. -/
lemma append_inj_of_all {p : Char → Bool} {l l' s s' : List Char} (hl : ∀ c ∈ l, p c = true)
    (hl' : ∀ c ∈ l', p c = true) (hs : ∀ c ∈ s.head?, p c = false)
    (hs' : ∀ c ∈ s'.head?, p c = false) (h : l ++ s = l' ++ s') : l = l' ∧ s = s' := by
  induction l generalizing l' with
  | nil =>
    cases l' with
    | nil => exact ⟨rfl, h⟩
    | cons c l' =>
      have hno := hs c (by simp [show s = c :: (l' ++ s') from h])
      rw [hl' c (by simp)] at hno
      cases hno
  | cons c l ih =>
    cases l' with
    | nil =>
      have hno := hs' c (by simp [show s' = c :: (l ++ s) from h.symm])
      rw [hl c (by simp)] at hno
      cases hno
    | cons c' l' =>
      simp only [List.cons_append, List.cons.injEq] at h
      obtain ⟨rfl, h⟩ := h
      obtain ⟨rfl, rfl⟩ := ih (fun d hd => hl d (List.mem_cons_of_mem c hd))
        (fun d hd => hl' d (List.mem_cons_of_mem c hd)) h
      exact ⟨rfl, rfl⟩

/-- A number is followed by nothing, or by a character that ends a value. -/
def Ends (s : List Char) : Prop := ∀ c ∈ s.head?, c = ',' ∨ c = ']' ∨ c = '\x7d'

/-- The characters of an integer's text. -/
def isNumeric (c : Char) : Bool := c.isDigit || c = '-'

lemma Ends.not_numeric {s : List Char} (hs : Ends s) : ∀ c ∈ s.head?, isNumeric c = false := by
  intro c hc
  rcases hs c hc with rfl | rfl | rfl <;> rfl

/-! ## Numbers -/

lemma natText_injective : Function.Injective natText := by
  intro m n h
  have hread := congrArg (fun cs => Nat.ofDigitChars 10 cs 0) h
  simpa [natText, Nat.ofDigitChars_ten_toDigits] using hread

lemma isDigit_of_mem_natText {n : ℕ} {c : Char} (hc : c ∈ natText n) : c.isDigit = true :=
  Nat.isDigit_of_mem_toDigits (by decide) (by decide) hc

lemma not_mem_natText {n : ℕ} : '-' ∉ natText n := fun h =>
  absurd (isDigit_of_mem_natText h) (by decide)

lemma isNumeric_of_mem_intText {n : ℤ} : ∀ c ∈ intText n, isNumeric c = true := by
  intro c hc
  rw [intText] at hc
  split at hc
  · rcases List.mem_cons.1 hc with rfl | hc
    · rfl
    · simp [isNumeric, isDigit_of_mem_natText hc]
  · simp [isNumeric, isDigit_of_mem_natText hc]

lemma intText_injective : Function.Injective intText := by
  intro m n h
  unfold intText at h
  split at h <;> split at h
  · have habs := natText_injective (List.cons.inj h).2
    omega
  · exact absurd (h ▸ List.mem_cons_self) not_mem_natText
  · exact absurd (h ▸ List.mem_cons_self) not_mem_natText
  · have habs := natText_injective h
    omega

lemma slash_mem_floatText (x : Rat) : '/' ∈ floatText (.finite x) :=
  List.mem_append.2 (Or.inr List.mem_cons_self)

lemma head_slash_not_numeric (n : ℕ) :
    ∀ c ∈ ('/' :: natText n).head?, isNumeric c = false := by
  intro c hc
  obtain rfl : '/' = c := by simpa using hc
  rfl

lemma floatText_finite (x : Rat) :
    floatText (.finite x) = intText x.num ++ '/' :: natText x.den := rfl

lemma floatText_finite_injective {x y : Rat}
    (h : floatText (.finite x) = floatText (.finite y)) : x = y := by
  rw [floatText_finite, floatText_finite] at h
  have hparts := append_inj_of_all isNumeric_of_mem_intText isNumeric_of_mem_intText
    (head_slash_not_numeric x.den) (head_slash_not_numeric y.den) h
  have hnum := intText_injective hparts.1
  have hden := natText_injective (List.cons.inj hparts.2).2
  exact Rat.ext hnum hden

lemma floatText_injective : Function.Injective floatText := by
  intro x y h
  -- only a fraction has a slash, and the other texts are fixed
  rcases x with x | _ | x | _ <;> rcases y with y | _ | y | _
  · rw [floatText_finite_injective h]
  · exact absurd (h ▸ slash_mem_floatText x) (by decide)
  · exact absurd (h ▸ slash_mem_floatText x) (by cases y <;> decide)
  · exact absurd (h ▸ slash_mem_floatText x) (by decide)
  · exact absurd (h ▸ slash_mem_floatText y) (by decide)
  · rfl
  · cases y <;> exact absurd h (by decide)
  · exact absurd h (by decide)
  · exact absurd (h ▸ slash_mem_floatText y) (by cases x <;> decide)
  · cases x <;> exact absurd h (by decide)
  · cases x <;> cases y <;> first | rfl | exact absurd h (by decide)
  · cases x <;> exact absurd h (by decide)
  · exact absurd (h ▸ slash_mem_floatText y) (by decide)
  · exact absurd h (by decide)
  · cases y <;> exact absurd h (by decide)
  · rfl

/-- The letters of a float's text. -/
def isFloatChar (c : Char) : Bool := c ≠ ')'

lemma isFloatChar_of_mem_floatText {x : PyFloat} : ∀ c ∈ floatText x, isFloatChar c = true := by
  intro c hc
  have hno : ∀ {c : Char}, isNumeric c = true ∨ c = '/' → isFloatChar c = true := by
    rintro c (hnum | rfl)
    · have hne : c ≠ ')' := by
        rintro rfl
        exact absurd hnum (by decide)
      simpa [isFloatChar] using hne
    · rfl
  rcases x with x | _ | x | _
  · rw [floatText_finite] at hc
    rcases List.mem_append.1 hc with hc | hc
    · exact hno (Or.inl (isNumeric_of_mem_intText c hc))
    · rcases List.mem_cons.1 hc with rfl | hc
      · exact hno (Or.inr rfl)
      · exact hno (Or.inl (by simp [isNumeric, isDigit_of_mem_natText hc]))
  · have hall : (floatText .negZero).all isFloatChar = true := by decide
    exact List.all_eq_true.1 hall c hc
  · have hall : (floatText (.infinite x)).all isFloatChar = true := by cases x <;> decide
    exact List.all_eq_true.1 hall c hc
  · have hall : (floatText .nan).all isFloatChar = true := by decide
    exact List.all_eq_true.1 hall c hc

/-! ## Strings -/

/-- The character that a letter stands for. -/
def shortChar (e : Char) : Char :=
  if e = 'n' then '\n'
  else if e = 'r' then '\r'
  else if e = 't' then '\t'
  else if e = 'b' then '\x08'
  else if e = 'f' then '\x0c'
  else e

lemma shortChar_of_shortEscape {c e : Char} (h : shortEscape c = some e) :
    shortChar e = c ∧ e ≠ 'u' := by
  unfold shortEscape at h
  split_ifs at h with h₁ h₂ h₃ h₄ h₅ h₆ h₇ <;> cases h <;> subst_vars <;> decide

lemma digitChar_injective {m n : ℕ} (hm : m < 16) (hn : n < 16)
    (h : Nat.digitChar m = Nat.digitChar n) : m = n := by
  have hall : ∀ m n : Fin 16, Nat.digitChar m = Nat.digitChar n → m = n := by decide
  exact congrArg Fin.val (hall ⟨m, hm⟩ ⟨n, hn⟩ h)

lemma hex4_cancel {m n : ℕ} {s t : List Char} (hm : m < 0x10000) (hn : n < 0x10000)
    (h : hex4 m ++ s = hex4 n ++ t) : m = n ∧ s = t := by
  simp only [hex4, List.map_cons, List.map_nil, List.cons_append, List.nil_append,
    List.cons.injEq] at h
  obtain ⟨h₁, h₂, h₃, h₄, hst⟩ := h
  have hd₁ := digitChar_injective (Nat.mod_lt _ (by decide)) (Nat.mod_lt _ (by decide)) h₁
  have hd₂ := digitChar_injective (Nat.mod_lt _ (by decide)) (Nat.mod_lt _ (by decide)) h₂
  have hd₃ := digitChar_injective (Nat.mod_lt _ (by decide)) (Nat.mod_lt _ (by decide)) h₃
  have hd₄ := digitChar_injective (Nat.mod_lt _ (by decide)) (Nat.mod_lt _ (by decide)) h₄
  exact ⟨by omega, hst⟩

lemma escapeUnit_cancel {u v : ℕ} {s t : List Char} (hu : u < 0x10000) (hv : v < 0x10000)
    (h : escapeUnit u ++ s = escapeUnit v ++ t) : u = v ∧ s = t :=
  hex4_cancel hu hv (List.cons.inj (List.cons.inj h).2).2

/-- A character is no surrogate. -/
lemma toNat_bounds (c : Char) : c.toNat < 0xd800 ∨ 0xdfff < c.toNat ∧ c.toNat < 0x110000 := c.valid

lemma units_cancel {c d : Char} {s t : List Char}
    (h : (utf16 c).flatMap escapeUnit ++ s = (utf16 d).flatMap escapeUnit ++ t) :
    c = d ∧ s = t := by
  have hc := toNat_bounds c
  have hd := toNat_bounds d
  unfold utf16 at h
  split at h <;> split at h <;>
    simp only [List.flatMap_cons, List.flatMap_nil, List.append_nil, List.append_assoc] at h
  · obtain ⟨heq, hst⟩ := escapeUnit_cancel (by omega) (by omega) h
    exact ⟨Char.toNat_inj.1 heq, hst⟩
  · -- a character is no surrogate
    obtain ⟨heq, -⟩ := escapeUnit_cancel (by omega) (by omega) h
    omega
  · obtain ⟨heq, -⟩ := escapeUnit_cancel (by omega) (by omega) h
    omega
  · obtain ⟨hhigh, hrest⟩ := escapeUnit_cancel (by omega) (by omega) h
    obtain ⟨hlow, hst⟩ := escapeUnit_cancel (by omega) (by omega) hrest
    exact ⟨Char.toNat_inj.1 (by omega), hst⟩

lemma exists_units (c : Char) : ∃ rest, (utf16 c).flatMap escapeUnit = '\\' :: 'u' :: rest := by
  unfold utf16
  split
  · exact ⟨_, rfl⟩
  · exact ⟨_, rfl⟩

/-- The three ways in which a character is written. -/
lemma escapeChar_cases (c : Char) :
    (∃ e, shortChar e = c ∧ e ≠ 'u' ∧ escapeChar c = ['\\', e]) ∨
      (c ≠ '"' ∧ c ≠ '\\' ∧ escapeChar c = [c]) ∨
      escapeChar c = (utf16 c).flatMap escapeUnit := by
  rw [escapeChar]
  cases hshort : shortEscape c with
  | some e =>
    obtain ⟨hchar, hu⟩ := shortChar_of_shortEscape hshort
    exact Or.inl ⟨e, hchar, hu, rfl⟩
  | none =>
    dsimp only
    split
    · refine Or.inr (Or.inl ⟨?_, ?_, rfl⟩)
      · rintro rfl
        cases hshort
      · rintro rfl
        cases hshort
    · exact Or.inr (Or.inr rfl)

/-- A text of escaped characters tells its first character. -/
lemma escapeChar_cancel {c d : Char} {s t : List Char}
    (h : escapeChar c ++ s = escapeChar d ++ t) : c = d ∧ s = t := by
  obtain ⟨restc, hrestc⟩ := exists_units c
  obtain ⟨restd, hrestd⟩ := exists_units d
  rcases escapeChar_cases c with ⟨e, rfl, he, hc⟩ | ⟨-, hc', hc⟩ | hc <;>
    rcases escapeChar_cases d with ⟨f, rfl, hf, hd⟩ | ⟨-, hd', hd⟩ | hd <;> rw [hc, hd] at h
  · obtain ⟨rfl, hst⟩ := List.cons.inj (List.cons.inj h).2
    exact ⟨rfl, hst⟩
  · exact absurd (List.cons.inj h).1.symm hd'
  · rw [hrestd] at h
    exact absurd (List.cons.inj (List.cons.inj h).2).1 he
  · exact absurd (List.cons.inj h).1 hc'
  · obtain ⟨rfl, hst⟩ := List.cons.inj h
    exact ⟨rfl, hst⟩
  · rw [hrestd] at h
    exact absurd (List.cons.inj h).1 hc'
  · rw [hrestc] at h
    exact absurd (List.cons.inj (List.cons.inj h).2).1.symm hf
  · rw [hrestc] at h
    exact absurd (List.cons.inj h).1.symm hd'
  · exact units_cancel h

/-- An escaped text does not begin with a quote. -/
lemma escape_append_ne {c : Char} {cs s t : List Char} : escape (c :: cs) ++ s ≠ '"' :: t := by
  intro h
  rw [escape, List.flatMap_cons] at h
  obtain ⟨rest, hrest⟩ := exists_units c
  rcases escapeChar_cases c with ⟨e, -, -, hc⟩ | ⟨hquote, -, hc⟩ | hc
  · rw [hc] at h
    exact absurd (List.cons.inj h).1 (by decide)
  · rw [hc] at h
    exact hquote (List.cons.inj h).1
  · rw [hc, hrest] at h
    exact absurd (List.cons.inj h).1 (by decide)

lemma escape_cancel {cs ds s t : List Char}
    (h : escape cs ++ '"' :: s = escape ds ++ '"' :: t) : cs = ds ∧ s = t := by
  induction cs generalizing ds with
  | nil =>
    cases ds with
    | nil => exact ⟨rfl, (List.cons.inj h).2⟩
    | cons d ds => exact absurd h.symm escape_append_ne
  | cons c cs ih =>
    rcases ds with _ | ⟨d, ds⟩
    · exact absurd h escape_append_ne
    rw [escape, escape, List.flatMap_cons, List.flatMap_cons, List.append_assoc,
      List.append_assoc] at h
    obtain ⟨rfl, hrest⟩ := escapeChar_cancel h
    obtain ⟨rfl, rfl⟩ := ih hrest
    exact ⟨rfl, rfl⟩

lemma strText_cancel {a b : String} {s t : List Char} (h : strText a s = strText b t) :
    a = b ∧ s = t := by
  have hcancel := escape_cancel (List.cons.inj h).2
  exact ⟨String.toList_injective hcancel.1, hcancel.2⟩

lemma strText_append (a : String) (s t : List Char) : strText a s ++ t = strText a (s ++ t) := by
  simp [strText]

/-! ## Kinds -/

/-- The kind of a value, as its first character tells it. -/
def kind : Json → ℕ
  | .null => 0
  | .bool _ => 1
  | .int _ => 2
  | .float _ => 3
  | .str _ => 4
  | .arr _ => 5
  | .obj _ => 6

/-- The kind of the value whose text starts with this character, and 7 where no value's does. -/
def kindOfChar (c : Char) : ℕ :=
  if isNumeric c then 2
  else if c = 'n' then 0
  else if c = 't' ∨ c = 'f' then 1
  else if c = '(' then 3
  else if c = '"' then 4
  else if c = '[' then 5
  else if c = '\x7b' then 6
  else 7

lemma kindOfChar_of_numeric {c : Char} (hc : isNumeric c = true) : kindOfChar c = 2 := if_pos hc

lemma intText_ne_nil (n : ℤ) : intText n ≠ [] := by
  rw [intText]
  split
  · exact List.cons_ne_nil _ _
  · exact Nat.toDigits_ne_nil

lemma exists_chars_eq (j : Json) : ∃ c cs, j.chars = c :: cs ∧ kindOfChar c = j.kind := by
  rcases j with _ | b | n | x | a | xs | fs
  · exact ⟨'n', "ull".toList, rfl, rfl⟩
  · cases b
    · exact ⟨'f', "alse".toList, rfl, rfl⟩
    · exact ⟨'t', "rue".toList, rfl, rfl⟩
  · obtain ⟨c, cs, hcs⟩ := List.exists_cons_of_ne_nil (intText_ne_nil n)
    have hc : isNumeric c = true := isNumeric_of_mem_intText (n := n) c (by simp [hcs])
    exact ⟨c, cs, hcs, kindOfChar_of_numeric hc⟩
  · exact ⟨'(', _, rfl, rfl⟩
  · exact ⟨'"', _, rfl, rfl⟩
  · exact ⟨'[', _, rfl, rfl⟩
  · exact ⟨'\x7b', _, rfl, rfl⟩

lemma kind_eq_of_chars {a b : Json} {s t : List Char} (h : a.chars ++ s = b.chars ++ t) :
    a.kind = b.kind := by
  obtain ⟨c, cs, hc, hkc⟩ := exists_chars_eq a
  obtain ⟨d, ds, hd, hkd⟩ := exists_chars_eq b
  rw [hc, hd] at h
  rw [← hkc, ← hkd, (List.cons.inj h).1]

/-- A value does not begin with a closing bracket. -/
lemma chars_append_ne {j : Json} {s t : List Char} : j.chars ++ s ≠ ']' :: t := by
  intro h
  obtain ⟨c, cs, hc, hk⟩ := exists_chars_eq j
  rw [hc] at h
  obtain rfl := (List.cons.inj h).1
  have hno : kindOfChar ']' = 7 := by decide
  cases j <;> rw [hno] at hk <;> exact absurd hk (by simp [kind])

/-! ## Values -/

lemma chars_arr_append (xs : List Json) (s : List Char) :
    (Json.arr xs).chars ++ s = '[' :: ((charsList xs).drop 1 ++ ']' :: s) := by
  simp [chars]

lemma chars_obj_append (fs : List (String × Json)) (s : List Char) :
    (Json.obj fs).chars ++ s = '\x7b' :: ((charsFields fs).drop 1 ++ '\x7d' :: s) := by
  simp [chars]

lemma chars_float_append (x : PyFloat) (s : List Char) :
    (Json.float x).chars ++ s = '(' :: (floatText x ++ ')' :: s) := by
  simp [chars]

lemma charsList_cons_append (x : Json) (xs : List Json) (s : List Char) :
    charsList (x :: xs) ++ s = ',' :: (x.chars ++ (charsList xs ++ s)) := by
  simp [charsList]

lemma charsFields_cons_append (k : String) (x : Json) (fs : List (String × Json)) (s : List Char) :
    charsFields ((k, x) :: fs) ++ s =
      ',' :: strText k (':' :: (x.chars ++ (charsFields fs ++ s))) := by
  simp [charsFields, strText_append]

/-- The comma before the first element may be put back. -/
lemma charsList_of_drop {xs ys : List Json} {s t : List Char}
    (h : (charsList xs).drop 1 ++ ']' :: s = (charsList ys).drop 1 ++ ']' :: t) :
    charsList xs ++ ']' :: s = charsList ys ++ ']' :: t := by
  rcases xs with _ | ⟨x, xs⟩ <;> rcases ys with _ | ⟨y, ys⟩
  · exact h
  · have htext : y.chars ++ (charsList ys ++ ']' :: t) = ']' :: s := by
      simpa [charsList] using h.symm
    exact absurd htext chars_append_ne
  · have htext : x.chars ++ (charsList xs ++ ']' :: s) = ']' :: t := by
      simpa [charsList] using h
    exact absurd htext chars_append_ne
  · exact congrArg (',' :: ·) h

lemma charsFields_of_drop {fs gs : List (String × Json)} {s t : List Char}
    (h : (charsFields fs).drop 1 ++ '\x7d' :: s = (charsFields gs).drop 1 ++ '\x7d' :: t) :
    charsFields fs ++ '\x7d' :: s = charsFields gs ++ '\x7d' :: t := by
  rcases fs with _ | ⟨⟨k, x⟩, fs⟩ <;> rcases gs with _ | ⟨⟨l, y⟩, gs⟩
  · exact h
  · exact absurd (List.cons.inj h).1 (by decide)
  · exact absurd (List.cons.inj h).1 (by decide)
  · exact congrArg (',' :: ·) h

lemma ends_charsList {xs : List Json} {s : List Char} : Ends (charsList xs ++ ']' :: s) := by
  cases xs <;> simp [Ends, charsList]

lemma ends_charsFields {fs : List (String × Json)} {s : List Char} :
    Ends (charsFields fs ++ '\x7d' :: s) := by
  rcases fs with _ | ⟨⟨k, x⟩, fs⟩ <;> simp [Ends, charsFields]

mutual

/-- A text tells the value that it begins with. -/
lemma chars_cancel : ∀ (a b : Json) (s t : List Char), Ends s → Ends t →
    a.chars ++ s = b.chars ++ t → a = b ∧ s = t
  | .null, b, s, t, _, _, h => by
    have hkind := kind_eq_of_chars h
    cases b with
    | null => exact ⟨rfl, List.append_cancel_left h⟩
    | _ => simp [kind] at hkind
  | .bool p, b, s, t, _, _, h => by
    have hkind := kind_eq_of_chars h
    cases b with
    | bool q =>
      cases p <;> cases q
      · exact ⟨rfl, List.append_cancel_left h⟩
      · exact absurd (List.cons.inj h).1 (by decide)
      · exact absurd (List.cons.inj h).1 (by decide)
      · exact ⟨rfl, List.append_cancel_left h⟩
    | _ => simp [kind] at hkind
  | .int m, b, s, t, hs, ht, h => by
    have hkind := kind_eq_of_chars h
    cases b with
    | int n =>
      -- the digits end where the rest begins, since a rest never begins with a digit
      have hparts := append_inj_of_all isNumeric_of_mem_intText isNumeric_of_mem_intText
        hs.not_numeric ht.not_numeric h
      exact ⟨congrArg Json.int (intText_injective hparts.1), hparts.2⟩
    | _ => simp [kind] at hkind
  | .float x, b, s, t, _, _, h => by
    have hkind := kind_eq_of_chars h
    cases b with
    | float y =>
      -- a float is written between two delimiters that its own text does not use
      rw [chars_float_append, chars_float_append] at h
      have hparts := append_inj_of_all isFloatChar_of_mem_floatText isFloatChar_of_mem_floatText
        (by simp [isFloatChar]) (by simp [isFloatChar]) (List.cons.inj h).2
      exact ⟨congrArg Json.float (floatText_injective hparts.1), (List.cons.inj hparts.2).2⟩
    | _ => simp [kind] at hkind
  | .str u, b, s, t, _, _, h => by
    have hkind := kind_eq_of_chars h
    cases b with
    | str v =>
      rw [chars, chars, strText_append, strText_append] at h
      obtain ⟨rfl, hrest⟩ := strText_cancel h
      exact ⟨rfl, hrest⟩
    | _ => simp [kind] at hkind
  | .arr xs, b, s, t, _, _, h => by
    have hkind := kind_eq_of_chars h
    cases b with
    | arr ys =>
      rw [chars_arr_append, chars_arr_append] at h
      obtain ⟨rfl, hrest⟩ := charsList_cancel xs ys s t (charsList_of_drop (List.cons.inj h).2)
      exact ⟨rfl, hrest⟩
    | _ => simp [kind] at hkind
  | .obj fs, b, s, t, _, _, h => by
    have hkind := kind_eq_of_chars h
    cases b with
    | obj gs =>
      rw [chars_obj_append, chars_obj_append] at h
      obtain ⟨rfl, hrest⟩ :=
        charsFields_cancel fs gs s t (charsFields_of_drop (List.cons.inj h).2)
      exact ⟨rfl, hrest⟩
    | _ => simp [kind] at hkind

lemma charsList_cancel : ∀ (xs ys : List Json) (s t : List Char),
    charsList xs ++ ']' :: s = charsList ys ++ ']' :: t → xs = ys ∧ s = t
  | [], [], _, _, h => ⟨rfl, (List.cons.inj h).2⟩
  | [], _ :: _, _, _, h => absurd (List.cons.inj h).1 (by decide)
  | _ :: _, [], _, _, h => absurd (List.cons.inj h).1 (by decide)
  | x :: xs, y :: ys, s, t, h => by
    rw [charsList_cons_append, charsList_cons_append] at h
    obtain ⟨rfl, hrest⟩ :=
      chars_cancel x y _ _ ends_charsList ends_charsList (List.cons.inj h).2
    obtain ⟨rfl, rfl⟩ := charsList_cancel xs ys s t hrest
    exact ⟨rfl, rfl⟩

lemma charsFields_cancel : ∀ (fs gs : List (String × Json)) (s t : List Char),
    charsFields fs ++ '\x7d' :: s = charsFields gs ++ '\x7d' :: t → fs = gs ∧ s = t
  | [], [], _, _, h => ⟨rfl, (List.cons.inj h).2⟩
  | [], (_, _) :: _, _, _, h => absurd (List.cons.inj h).1 (by decide)
  | (_, _) :: _, [], _, _, h => absurd (List.cons.inj h).1 (by decide)
  | (k, x) :: fs, (l, y) :: gs, s, t, h => by
    rw [charsFields_cons_append, charsFields_cons_append] at h
    obtain ⟨rfl, hvalue⟩ := strText_cancel (List.cons.inj h).2
    obtain ⟨rfl, hrest⟩ :=
      chars_cancel x y _ _ ends_charsFields ends_charsFields (List.cons.inj hvalue).2
    obtain ⟨rfl, rfl⟩ := charsFields_cancel fs gs s t hrest
    exact ⟨rfl, rfl⟩

end

lemma text_injective : Function.Injective text := by
  intro a b h
  have hchars : a.chars ++ [] = b.chars ++ [] := by
    rw [String.ofList_injective h]
  exact (chars_cancel a b [] [] (by simp [Ends]) (by simp [Ends]) hchars).1

/-- The text of the canonical form. -/
def canonText (j : Json) : String := j.canon.text

lemma canonText_eq_iff {a b : Json} : a.canonText = b.canonText ↔ a.canon = b.canon :=
  text_injective.eq_iff

end Json

end PaymentGateway
