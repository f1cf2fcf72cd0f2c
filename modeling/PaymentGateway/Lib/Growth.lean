/-
# Tables that grow

A table from which nothing is deleted: later on it holds the old rows, each of them changed in
a way that `R` permits, followed by new rows that satisfy `N` (`Grows R N`).  With the equality
for `R` the table is append-only.

Growing is reflexive and transitive where `R` is and keeps `N`, so it may be used as the relation
between the stores of a run; appending rows and updating one of them are instances of it.
-/
import PaymentGateway.Lib.Rows

namespace Transact

variable {A K : Type*} {R : A → A → Prop} {N : A → Prop} {xs ys zs : List A}

/-- The old rows come first, changed along `R`, and then the new ones. -/
def Grows (R : A → A → Prop) (N : A → Prop) (xs ys : List A) : Prop :=
  ∃ old new, ys = old ++ new ∧ List.Forall₂ R xs old ∧ ∀ a ∈ new, N a

lemma grows_of_forall₂ (h : List.Forall₂ R xs ys) : Grows R N xs ys :=
  ⟨ys, [], by simp, h, by simp⟩

lemma Grows.refl (hR : ∀ a, R a a) (xs : List A) : Grows R N xs xs :=
  grows_of_forall₂ (List.forall₂_same.2 fun a _ => hR a)

/-- Row by row, one change after another is a change. -/
lemma forall₂_trans (hR : ∀ a b c, R a b → R b c → R a c) (h : List.Forall₂ R xs ys)
    (h' : List.Forall₂ R ys zs) : List.Forall₂ R xs zs := by
  induction h generalizing zs with
  | nil => exact h'
  | cons hab _ ih =>
    cases h' with
    | cons hbc h' => exact .cons (hR _ _ _ hab hbc) (ih h')

/-- What `N` demands of a new row, its later versions satisfy as well. -/
lemma Grows.trans (hR : ∀ a b c, R a b → R b c → R a c) (hN : ∀ a b, N a → R a b → N b)
    (h : Grows R N xs ys) (h' : Grows R N ys zs) : Grows R N xs zs := by
  obtain ⟨old, new, rfl, hold, hnew⟩ := h
  obtain ⟨old', new', rfl, hold', hnew'⟩ := h'
  -- the rows of `ys` that were new by then are new rows of `zs`
  have hfirst := List.forall₂_take old.length hold'
  have hlast := List.forall₂_drop old.length hold'
  rw [List.take_left] at hfirst
  rw [List.drop_left] at hlast
  refine ⟨old'.take old.length, old'.drop old.length ++ new', ?_, ?_, ?_⟩
  · rw [← List.append_assoc, List.take_append_drop]
  · exact forall₂_trans hR hold hfirst
  · intro c hc
    rcases List.mem_append.1 hc with hc | hc
    · obtain ⟨b, hb, hbc⟩ := exists_of_forall₂ hlast hc
      exact hN b c (hnew b hb) hbc
    · exact hnew' c hc

lemma grows_append (hR : ∀ a, R a a) {new : List A} (hN : ∀ a ∈ new, N a) :
    Grows R N xs (xs ++ new) :=
  ⟨xs, new, rfl, List.forall₂_same.2 fun a _ => hR a, hN⟩

lemma grows_updateAt [DecidableEq K] {key : A → K} {k : K} {f : A → A} (hR : ∀ a, R a a)
    (hf : ∀ a, R a (f a)) : Grows R N xs (updateAt key k f xs) := by
  refine grows_of_forall₂ ?_
  rw [updateAt, List.forall₂_map_right_iff, List.forall₂_same]
  intro a _
  split
  · exact hf a
  · exact hR a

lemma Grows.mono {R' : A → A → Prop} {N' : A → Prop} (h : Grows R N xs ys)
    (hR : ∀ a b, R a b → R' a b) (hN : ∀ a, N a → N' a) : Grows R' N' xs ys := by
  obtain ⟨old, new, rfl, hold, hnew⟩ := h
  exact ⟨old, new, rfl, hold.imp fun a b => hR a b, fun a ha => hN a (hnew a ha)⟩

/-- No row is lost. -/
lemma Grows.exists_of_mem (h : Grows R N xs ys) {a : A} (ha : a ∈ xs) : ∃ b ∈ ys, R a b := by
  obtain ⟨old, new, rfl, hold, -⟩ := h
  obtain ⟨b, hb, hab⟩ := exists_of_forall₂ hold.flip ha
  exact ⟨b, List.mem_append_left _ hb, hab⟩

/-- Every row was there before, or it is new. -/
lemma Grows.old_or_new (h : Grows R N xs ys) {b : A} (hb : b ∈ ys) :
    (∃ a ∈ xs, R a b) ∨ N b := by
  obtain ⟨old, new, rfl, hold, hnew⟩ := h
  rcases List.mem_append.1 hb with hb | hb
  · exact Or.inl (exists_of_forall₂ hold hb)
  · exact Or.inr (hnew b hb)

end Transact
