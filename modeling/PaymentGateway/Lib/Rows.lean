/-
# Lists of rows with distinct keys

A table is a list of rows, and an `UPDATE … WHERE key = …` maps a function over the rows with
that key.  When the keys are distinct it changes one row and keeps the others.
-/
import Mathlib.Data.List.Forall2
import Mathlib.Data.List.Nodup

namespace Transact

variable {A K : Type*} [DecidableEq K] {key : A → K} {rows : List A}

/-- The rows after `f` was applied to those with the key `k`, in their places.  Where keys are
unique that is one row at most. -/
def updateAt (key : A → K) (k : K) (f : A → A) (rows : List A) : List A :=
  rows.map fun a => if key a = k then f a else a

/-- An update that keeps a column keeps the list of its values. -/
lemma map_updateAt {B : Type*} {g : A → B} {k : K} {f : A → A} (hf : ∀ a, g (f a) = g a) :
    (updateAt key k f rows).map g = rows.map g := by
  rw [updateAt, List.map_map]
  apply List.map_congr_left
  intro a _
  by_cases ha : key a = k
  · simp [ha, hf]
  · simp [ha]

/-- An update that keeps the keys keeps the list of keys. -/
lemma map_key_updateAt {k : K} {f : A → A} (hf : ∀ a, key (f a) = key a) :
    (updateAt key k f rows).map key = rows.map key := map_updateAt hf

omit [DecidableEq K] in
lemma eq_of_key_eq (hrows : (rows.map key).Nodup) {a b : A} (ha : a ∈ rows) (hb : b ∈ rows)
    (hab : key a = key b) : a = b :=
  List.inj_on_of_nodup_map hrows ha hb hab

omit [DecidableEq K] in
/-- A new row whose key is new. -/
lemma nodup_key_concat (hrows : (rows.map key).Nodup) {a : A} (h : ∀ b ∈ rows, key b ≠ key a) :
    ((rows ++ [a]).map key).Nodup := by
  rw [List.map_append, List.map_singleton, ← List.concat_eq_append]
  refine List.Nodup.concat (fun hmem => ?_) hrows
  obtain ⟨b, hb, heq⟩ := List.mem_map.1 hmem
  exact h b hb heq

/-- Every row after an update was there before it, as it is or as it was updated. -/
lemma exists_of_mem_updateAt {k : K} {f : A → A} {b : A} (hb : b ∈ updateAt key k f rows) :
    ∃ a ∈ rows, key a = k ∧ b = f a ∨ key a ≠ k ∧ b = a := by
  obtain ⟨a, ha, rfl⟩ := List.mem_map.1 hb
  by_cases hk : key a = k
  · exact ⟨a, ha, Or.inl ⟨hk, if_pos hk⟩⟩
  · exact ⟨a, ha, Or.inr ⟨hk, if_neg hk⟩⟩

lemma mem_updateAt_self {a : A} (ha : a ∈ rows) (f : A → A) : f a ∈ updateAt key (key a) f rows :=
  List.mem_map.2 ⟨a, ha, if_pos rfl⟩

/-- After an update of the row `a` the rows are its new version and the others. -/
lemma mem_updateAt (hrows : (rows.map key).Nodup) {a : A} (ha : a ∈ rows) {f : A → A} {b : A} :
    b ∈ updateAt key (key a) f rows ↔ b = f a ∨ b ∈ rows ∧ key b ≠ key a := by
  simp only [updateAt, List.mem_map]
  constructor
  · rintro ⟨c, hc, rfl⟩
    by_cases hca : key c = key a
    · obtain rfl := eq_of_key_eq hrows hc ha hca
      exact Or.inl (by simp)
    · exact Or.inr ⟨by simpa [hca] using hc, by simp [hca]⟩
  · rintro (rfl | ⟨hb, hne⟩)
    · exact ⟨a, ha, by simp⟩
    · exact ⟨b, hb, by simp [hne]⟩

/-- An update of a row that is not there changes nothing. -/
lemma updateAt_of_forall_ne {k : K} {f : A → A} (h : ∀ a ∈ rows, key a ≠ k) :
    updateAt key k f rows = rows := by
  rw [updateAt]
  conv_rhs => rw [← List.map_id rows]
  exact List.map_congr_left fun a ha => by simp [h a ha]

lemma updateAt_append {k : K} {f : A → A} (xs ys : List A) :
    updateAt key k f (xs ++ ys) = updateAt key k f xs ++ updateAt key k f ys := by
  simp [updateAt]

/-- An update of rows that a filter drops, before it and after it. -/
lemma filter_updateAt {P : A → Bool} {k : K} {f : A → A}
    (h : ∀ a ∈ rows, key a = k → P a = false ∧ P (f a) = false) :
    (updateAt key k f rows).filter P = rows.filter P := by
  induction rows with
  | nil => rfl
  | cons a rows ih =>
    have hrest := ih fun b hb => h b (List.mem_cons_of_mem a hb)
    rw [updateAt] at hrest ⊢
    rw [List.map_cons, List.filter_cons, List.filter_cons, hrest]
    by_cases hk : key a = k
    · obtain ⟨hbefore, hafter⟩ := h a List.mem_cons_self hk
      simp [hk, hbefore, hafter]
    · simp [hk]

omit [DecidableEq K] in
/-- A row found by its key and a further condition is the row with that key. -/
lemma mem_of_filter_eq_singleton {P : A → Bool} {a : A} (h : rows.filter P = [a]) :
    a ∈ rows ∧ P a = true := by
  have ha : a ∈ rows.filter P := by simp [h]
  exact List.mem_filter.1 ha

/-- The rows with the key of a row are that row. -/
lemma filter_key_eq (hrows : (rows.map key).Nodup) {a : A} (ha : a ∈ rows) :
    rows.filter (fun b => key b = key a) = [a] := by
  induction rows with
  | nil => cases ha
  | cons c rows ih =>
    rw [List.map_cons, List.nodup_cons] at hrows
    rcases List.mem_cons.1 ha with rfl | ha
    · have hrest : rows.filter (fun b => key b = key a) = [] := by
        rw [List.filter_eq_nil_iff]
        intro b hb hba
        exact hrows.1 (List.mem_map.2 ⟨b, hb, of_decide_eq_true hba⟩)
      rw [List.filter_cons_of_pos (by simp), hrest]
    · have hne : key c ≠ key a := fun hca => hrows.1 (hca ▸ List.mem_map_of_mem ha)
      rw [List.filter_cons_of_neg (by simpa using hne), ih hrows.2 ha]

/-- The first row with a key is the row with that key. -/
lemma find?_key_eq_some (hrows : (rows.map key).Nodup) {k : K} {a : A} :
    rows.find? (fun b => key b = k) = some a ↔ a ∈ rows ∧ key a = k := by
  constructor
  · intro h
    exact ⟨List.mem_of_find?_eq_some h, by simpa using List.find?_some h⟩
  · rintro ⟨ha, rfl⟩
    have hsome : (rows.find? fun b => key b = key a).isSome :=
      List.find?_isSome.2 ⟨a, ha, by simp⟩
    obtain ⟨b, hb⟩ := Option.isSome_iff_exists.1 hsome
    have hkey : key b = key a := by simpa using List.find?_some hb
    rw [hb, eq_of_key_eq hrows (List.mem_of_find?_eq_some hb) ha hkey]

/-- At most one row has a given key. -/
lemma length_filter_key_le (hrows : (rows.map key).Nodup) (k : K) :
    (rows.filter fun b => key b = k).length ≤ 1 := by
  by_cases hk : ∃ a ∈ rows, key a = k
  · obtain ⟨a, ha, rfl⟩ := hk
    rw [filter_key_eq hrows ha]
    exact Nat.le_refl 1
  · have hnil : rows.filter (fun b => key b = k) = [] := by
      rw [List.filter_eq_nil_iff]
      intro b hb hbk
      exact hk ⟨b, hb, of_decide_eq_true hbk⟩
    rw [hnil]
    exact Nat.zero_le 1

omit [DecidableEq K] in
/-- Two lists that are related row by row, each with one more row. -/
lemma forall₂_concat {B : Type*} {R : A → B → Prop} {rows' : List B} {a : A} {b : B} :
    List.Forall₂ R (rows ++ [a]) (rows' ++ [b]) ↔ List.Forall₂ R rows rows' ∧ R a b := by
  rw [← List.forall₂_reverse_iff, List.reverse_append, List.reverse_append]
  simp [List.forall₂_reverse_iff, and_comm]

/-- An update of the first of two lists that are related row by row. -/
lemma forall₂_updateAt {B : Type*} {R S : A → B → Prop} {rows' : List B} {k : K} {f : A → A}
    (h : List.Forall₂ R rows rows')
    (hf : ∀ a ∈ rows, ∀ b, R a b → S (if key a = k then f a else a) b) :
    List.Forall₂ S (updateAt key k f rows) rows' := by
  induction h with
  | nil => exact .nil
  | @cons a b rows rows' hab _ ih =>
    refine .cons (hf a List.mem_cons_self b hab) (ih ?_)
    exact fun c hc => hf c (List.mem_cons_of_mem a hc)

omit [DecidableEq K] in
/-- Two lists that are related row by row: every row of the second has one of the first. -/
lemma exists_of_forall₂ {B : Type*} {R : A → B → Prop} {rows' : List B}
    (h : List.Forall₂ R rows rows') {b : B} (hb : b ∈ rows') : ∃ a ∈ rows, R a b := by
  induction h with
  | nil => cases hb
  | @cons a c rows rows' hac _ ih =>
    rcases List.mem_cons.1 hb with rfl | hb
    · exact ⟨a, List.mem_cons_self, hac⟩
    · obtain ⟨a', ha', hR⟩ := ih hb
      exact ⟨a', List.mem_cons_of_mem _ ha', hR⟩

end Transact
