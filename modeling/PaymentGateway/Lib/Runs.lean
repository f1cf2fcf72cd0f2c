/-
# Runs of a transition system

A transition system is given by a total step function `step : S → L → S`: the label says
which move is taken and with which input, and a move that is not enabled leaves the state
as it is.  A run is a list of labels, so that "for every run" and "for every interleaving"
are quantifiers over lists.

Three notions are set up, all by recursion over the labels:

* `Always P` : the predicate `P` holds of every state of the run;
* `Obeys ok` : every move of the run is allowed by `ok` in the state it is taken from;
* `EachStep R` : the relation `R` holds between the two states of every step.

The rules are `always_of_obeys` (an invariant kept by the allowed moves holds along every
run that obeys them), `always_iff_obeys` (the allowed moves are exactly the ones along
which a predicate survives) and `rel_of_hidden` (a run and the run without some of its moves
cannot be told apart).
-/
import Mathlib.Data.List.Basic

namespace Transact

variable {S L : Type*} {step : S → L → S}

/-- The state that the moves `ls` lead to from `s`, one after the other. -/
def run (step : S → L → S) (s : S) (ls : List L) : S := ls.foldl step s

@[simp] lemma run_nil (s : S) : run step s [] = s := rfl

@[simp] lemma run_cons (s : S) (l : L) (ls : List L) :
    run step s (l :: ls) = run step (step s l) ls := rfl

lemma run_append (s : S) (ls ms : List L) :
    run step s (ls ++ ms) = run step (run step s ls) ms := by
  simp [run, List.foldl_append]

/-- `P` holds of every state of the run from `s`, the first and the last one included. -/
def Always (step : S → L → S) (P : S → Prop) : S → List L → Prop
  | s, [] => P s
  | s, l :: ls => P s ∧ Always step P (step s l) ls

/-- Every move of the run from `s` is allowed by `ok` in the state it is taken from. -/
def Obeys (step : S → L → S) (ok : S → L → Prop) : S → List L → Prop
  | _, [] => True
  | s, l :: ls => ok s l ∧ Obeys step ok (step s l) ls

instance decidableObeys {ok : S → L → Prop} [∀ s l, Decidable (ok s l)] :
    ∀ (s : S) (ls : List L), Decidable (Obeys step ok s ls)
  | _, [] => isTrue trivial
  | s, l :: ls =>
      @instDecidableAnd _ _ inferInstance (decidableObeys (step s l) ls)

/-- `R` relates the state before and the state after every step of the run from `s`. -/
def EachStep (step : S → L → S) (R : S → S → Prop) : S → List L → Prop :=
  Obeys step fun s l => R s (step s l)

lemma Always.head {P : S → Prop} {s : S} {ls : List L} (h : Always step P s ls) : P s := by
  cases ls with
  | nil => exact h
  | cons l ls => exact h.1

lemma Always.mono {P Q : S → Prop} (hPQ : ∀ s, P s → Q s) {s : S} {ls : List L}
    (h : Always step P s ls) : Always step Q s ls := by
  induction ls generalizing s with
  | nil => exact hPQ s h
  | cons l ls ih => exact ⟨hPQ s h.1, ih h.2⟩

lemma Obeys.mono {ok ok' : S → L → Prop} (hok : ∀ s l, ok s l → ok' s l) {s : S}
    {ls : List L} (h : Obeys step ok s ls) : Obeys step ok' s ls := by
  induction ls generalizing s with
  | nil => trivial
  | cons l ls ih => exact ⟨hok s l h.1, ih h.2⟩

/-- A predicate that holds all along a run holds at its end, and at the end of each of its
prefixes. -/
lemma Always.run_prefix {P : S → Prop} {s : S} {ls ms : List L}
    (h : Always step P s (ls ++ ms)) : P (run step s ls) := by
  induction ls generalizing s with
  | nil => exact h.head
  | cons l ls ih => exact ih h.2

lemma Always.last {P : S → Prop} {s : S} {ls : List L} (h : Always step P s ls) :
    P (run step s ls) := by
  have h' : Always step P s (ls ++ []) := by simpa using h
  exact h'.run_prefix

/-- The rest of a run obeys what the whole run obeys. -/
lemma Obeys.rest {ok : S → L → Prop} {s : S} {ls ms : List L}
    (h : Obeys step ok s (ls ++ ms)) : Obeys step ok (run step s ls) ms := by
  induction ls generalizing s with
  | nil => exact h
  | cons l ls ih => exact ih h.2

/-- A condition on the labels alone. -/
lemma obeys_of_forall {ok : L → Prop} {s : S} {ls : List L} (h : ∀ l ∈ ls, ok l) :
    Obeys step (fun _ l => ok l) s ls := by
  induction ls generalizing s with
  | nil => trivial
  | cons l ls ih =>
    exact ⟨h l (by simp), ih fun m hm => h m (List.mem_cons_of_mem l hm)⟩

/-- **Invariant rule.**  An invariant that every allowed move keeps holds along every run
whose moves are all allowed. -/
theorem always_of_obeys {I : S → Prop} {ok : S → L → Prop}
    (keep : ∀ s l, I s → ok s l → I (step s l)) {s : S} {ls : List L} (h0 : I s)
    (h : Obeys step ok s ls) : Always step I s ls := by
  induction ls generalizing s with
  | nil => exact h0
  | cons l ls ih => exact ⟨h0, ih (keep s l h0 h.1) h.2⟩

/-- The invariant rule where every move is allowed. -/
theorem always_of_step {I : S → Prop} (keep : ∀ s l, I s → I (step s l)) {s : S}
    (h0 : I s) (ls : List L) : Always step I s ls := by
  induction ls generalizing s with
  | nil => exact h0
  | cons l ls ih => exact ⟨h0, ih (keep s l h0)⟩

/-- What every allowed move satisfies out of a state satisfying the invariant, all moves of a
run satisfy whose moves are all allowed. -/
theorem obeys_of_obeys {I : S → Prop} {ok ok' : S → L → Prop}
    (keep : ∀ s l, I s → ok s l → I (step s l)) (hok : ∀ s l, I s → ok s l → ok' s l) {s : S}
    {ls : List L} (h0 : I s) (h : Obeys step ok s ls) : Obeys step ok' s ls := by
  induction ls generalizing s with
  | nil => trivial
  | cons l ls ih => exact ⟨hok s l h0 h.1, ih (keep s l h0 h.1) h.2⟩

lemma Obeys.and {ok ok' : S → L → Prop} {s : S} {ls : List L} (h : Obeys step ok s ls)
    (h' : Obeys step ok' s ls) : Obeys step (fun s l => ok s l ∧ ok' s l) s ls := by
  induction ls generalizing s with
  | nil => trivial
  | cons l ls ih => exact ⟨⟨h.1, h'.1⟩, ih h.2 h'.2⟩

/-- If a predicate that holds after a step tells that the step was allowed, then it holds all
along a run only if all moves are allowed. -/
theorem obeys_of_always {I P : S → Prop} {ok : S → L → Prop}
    (keep : ∀ s l, I s → I (step s l)) (hok : ∀ s l, I s → P (step s l) → ok s l) {s : S}
    {ls : List L} (h0 : I s) (h : Always step P s ls) : Obeys step ok s ls := by
  induction ls generalizing s with
  | nil => trivial
  | cons l ls ih => exact ⟨hok s l h0 h.2.head, ih (keep s l h0) h.2⟩

/-- A relation that holds of every step out of a state satisfying the invariant holds of
every step of a run that obeys the rules under which the invariant is kept. -/
theorem eachStep_of_obeys {I : S → Prop} {ok : S → L → Prop} {R : S → S → Prop}
    (keep : ∀ s l, I s → ok s l → I (step s l)) (hR : ∀ s l, I s → ok s l → R s (step s l))
    {s : S} {ls : List L} (h0 : I s) (h : Obeys step ok s ls) : EachStep step R s ls :=
  obeys_of_obeys keep hR h0 h

/-- A reflexive and transitive relation that holds of every allowed step out of a state
satisfying the invariant relates the first state of a run to its last. -/
theorem run_of_obeys {I : S → Prop} {ok : S → L → Prop} {R : S → S → Prop}
    (refl : ∀ s, R s s) (trans : ∀ a b c, R a b → R b c → R a c)
    (keep : ∀ s l, I s → ok s l → I (step s l)) (hR : ∀ s l, I s → ok s l → R s (step s l))
    {s : S} {ls : List L} (h0 : I s) (h : Obeys step ok s ls) : R s (run step s ls) := by
  induction ls generalizing s with
  | nil => exact refl s
  | cons l ls ih => exact trans _ _ _ (hR s l h0 h.1) (ih (keep s l h0 h.1) h.2)

/-- **Unwinding rule.**  A run is related to the run without its hidden moves, if the hidden
moves keep the relation on their own, and the visible ones when both runs take them.  The
relation may speak of the moves that are still to come. -/
theorem rel_of_hidden {R : List L → S → S → Prop} {visible : L → Bool} {ok : S → L → Prop}
    (hidden : ∀ l ls s s', R (l :: ls) s s' → ok s l → visible l = false → R ls (step s l) s')
    (shown : ∀ l ls s s', R (l :: ls) s s' → ok s l → visible l = true →
      R ls (step s l) (step s' l)) {s s' : S} {ls : List L} (h0 : R ls s s')
    (h : Obeys step ok s ls) : R [] (run step s ls) (run step s' (ls.filter visible)) := by
  induction ls generalizing s s' with
  | nil => exact h0
  | cons l ls ih =>
    cases hl : visible l with
    | false =>
      rw [List.filter_cons_of_neg (by simp [hl])]
      exact ih (hidden l ls s s' h0 h.1 hl) h.2
    | true =>
      rw [List.filter_cons_of_pos hl]
      exact ih (shown l ls s s' h0 h.1 hl) h.2

/-- **Exactness rule.**  If the allowed moves keep an invariant under which `P` holds, and
every other move out of the invariant breaks `P`, then `P` holds all along a run exactly
when all its moves are allowed. -/
theorem always_iff_obeys {I P : S → Prop} {ok : S → L → Prop} (good : ∀ s, I s → P s)
    (keep : ∀ s l, I s → ok s l → I (step s l))
    (bad : ∀ s l, I s → ¬ ok s l → ¬ P (step s l)) {s : S} (h0 : I s) (ls : List L) :
    Always step P s ls ↔ Obeys step ok s ls := by
  constructor
  · intro h
    induction ls generalizing s with
    | nil => trivial
    | cons l ls ih =>
      have hok : ok s l := by
        by_contra hno
        exact bad s l h0 hno h.2.head
      exact ⟨hok, ih (keep s l h0 hok) h.2⟩
  · intro h
    exact (always_of_obeys keep h0 h).mono good

end Transact
