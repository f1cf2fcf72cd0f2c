/-
# What a program calls

A bound on the outside calls of a program, over all its paths: `CostAtMost cost p n` says that
the costs of the calls of `p` sum up to at most `n`.  It goes through a sequence, a caught
exception (`Prog.attempt`) and a program that runs inside another one (`Prog.embed`), and is
carried over to the world that a run leaves by `CostAtMost.world`; with the bound zero it says
that all calls are free, and what these preserve the run preserves (`CostAtMost.keeps`).

`Prog.firstCall` is the first call that a program makes; a program that makes one call at
most acts on the world through that call alone (`Prog.world_run_of_once`).
-/
import PaymentGateway.Lib.Paths

namespace Transact

namespace Prog

variable {D W : Type} {Op Op' : Type → Type} {ε α β : Type}

/-! ## Caught exceptions -/

/-- `try: … except BaseException as e: …`, as a value: the program that returns what the given
one returns or raises, and never raises itself. -/
def attempt : Prog D Op ε α → Prog D Op ε (Except ε α)
  | .ret a => .ret (.ok a)
  | .raise e => .ret (.error e)
  | .read q k => .read q fun x => (k x).attempt
  | .write f k => .write f k.attempt
  | .call op k => .call op fun r => (k r).attempt

/-- What was written and called before the exception stays. -/
lemma run_attempt (handle : Handler Op ε W) (p : Prog D Op ε α) (d : D) (w : W) :
    p.attempt.run handle d w =
      ⟨.ok (p.run handle d w).answer, (p.run handle d w).store, (p.run handle d w).world,
        (p.run handle d w).calls⟩ := by
  induction p generalizing d w with
  | ret a => rfl
  | raise e => rfl
  | read q k ih => exact ih (q d) d w
  | write f k ih => exact ih (f d) w
  | call op k ih => simp only [attempt, run_call, ih]

lemma run_attempt_bind (handle : Handler Op ε W) (p : Prog D Op ε α)
    (f : Except ε α → Prog D Op ε β) (d : D) (w : W) :
    (p.attempt >>= f).run handle d w =
      { (f (p.run handle d w).answer).run handle (p.run handle d w).store
          (p.run handle d w).world with
        calls := (p.run handle d w).calls ++ ((f (p.run handle d w).answer).run handle
          (p.run handle d w).store (p.run handle d w).world).calls } := by
  rw [run_bind, run_attempt]
  rfl

/-! ## What a run leaves, its calls apart -/

/-- The answer, the store and the world that a run leaves. -/
def exec (handle : Handler Op ε W) (p : Prog D Op ε α) (d : D) (w : W) : Except ε α × D × W :=
  ((p.run handle d w).answer, (p.run handle d w).store, (p.run handle d w).world)

section Exec

variable (handle : Handler Op ε W) (d : D) (w : W)

@[simp] lemma exec_ret (a : α) : (.ret a : Prog D Op ε α).exec handle d w = (.ok a, d, w) := rfl

@[simp] lemma exec_raise (e : ε) :
    (.raise e : Prog D Op ε α).exec handle d w = (.error e, d, w) := rfl

lemma exec_bind (p : Prog D Op ε α) (f : α → Prog D Op ε β) :
    (p >>= f).exec handle d w =
      match p.exec handle d w with
      | (.ok a, d', w') => (f a).exec handle d' w'
      | (.error e, d', w') => (.error e, d', w') := by
  unfold exec
  rw [run_bind]
  rw [followedBy]
  rcases (p.run handle d w).answer with e | a <;> rfl

lemma exec_attempt_bind (p : Prog D Op ε α) (f : Except ε α → Prog D Op ε β) :
    (p.attempt >>= f).exec handle d w =
      (f (p.exec handle d w).1).exec handle (p.exec handle d w).2.1 (p.exec handle d w).2.2 := by
  unfold exec
  rw [run_attempt_bind]

@[simp] lemma exec_ask_bind (q : D → β) (f : β → Prog D Op ε α) :
    (ask q >>= f).exec handle d w = (f (q d)).exec handle d w := rfl

@[simp] lemma exec_modify (g : D → D) :
    (modify g : Prog D Op ε Unit).exec handle d w = (.ok (), g d, w) := rfl

@[simp] lemma exec_modify_bind (g : D → D) (f : Unit → Prog D Op ε α) :
    (modify g >>= f).exec handle d w = (f ()).exec handle (g d) w := rfl

lemma exec_perform_bind (op : Op β) (f : β → Prog D Op ε α) :
    (perform op >>= f).exec handle d w =
      match handle _ op w with
      | (.ok b, w') => (f b).exec handle d w'
      | (.error e, w') => (.error e, d, w') := by
  rw [exec]
  rw [run_perform_bind]
  rcases handle _ op w with ⟨_ | b, w'⟩ <;> rfl

end Exec

/-! ## A program inside another -/

/-- A program without a store, run inside one that has other calls. -/
def embed (lift : (β : Type) → Op β → Op' β) : Prog Unit Op ε α → Prog D Op' ε α
  | .ret a => .ret a
  | .raise e => .raise e
  | .read q k => (k (q ())).embed lift
  | .write _ k => k.embed lift
  | .call op k => .call (lift _ op) fun r => (k r).embed lift

/-- It does what the program does, and leaves the store alone. -/
lemma exec_embed (handle : Handler Op' ε W) (lift : (β : Type) → Op β → Op' β)
    (p : Prog Unit Op ε α) (d : D) (w : W) :
    (p.embed lift : Prog D Op' ε α).exec handle d w =
      ((p.exec (fun β op => handle β (lift β op)) () w).1, d,
        (p.exec (fun β op => handle β (lift β op)) () w).2.2) := by
  induction p generalizing w with
  | ret a => rfl
  | raise e => rfl
  | read q k ih => exact ih (q ()) w
  | write f k ih => exact ih w
  | call op k ih => exact ih _ _

/-! ## A bound on the cost of the calls -/

section CostAtMost

variable {cost : (β : Type) → Op β → ℕ}

/-- On every path the costs of the calls sum up to at most `n`. -/
def CostAtMost (cost : (β : Type) → Op β → ℕ) : Prog D Op ε α → ℕ → Prop
  | .ret _, _ => True
  | .raise _, _ => True
  | .read _ k, n => ∀ x, (k x).CostAtMost cost n
  | .write _ k, n => k.CostAtMost cost n
  | .call op k, n => ∃ m, cost _ op + m ≤ n ∧ ∀ r, (k r).CostAtMost cost m

lemma CostAtMost.mono {p : Prog D Op ε α} {m n : ℕ} (hp : p.CostAtMost cost m) (h : m ≤ n) :
    p.CostAtMost cost n := by
  induction p with
  | ret a => trivial
  | raise e => trivial
  | read q k ih => exact fun x => ih x (hp x)
  | write g k ih => exact ih hp
  | call op k ih =>
    obtain ⟨l, hl, hk⟩ := hp
    exact ⟨l, Nat.le_trans hl h, hk⟩

lemma costAtMost_ask_bind {q : D → β} {f : β → Prog D Op ε α} {n : ℕ}
    (hf : ∀ b, (f b).CostAtMost cost n) : (ask q >>= f).CostAtMost cost n := hf

lemma costAtMost_ofExcept_bind {x : Except ε β} {f : β → Prog D Op ε α} {n : ℕ}
    (hf : ∀ b, (f b).CostAtMost cost n) : (ofExcept x >>= f).CostAtMost cost n := by
  cases x with
  | error e => trivial
  | ok b => exact hf b

lemma costAtMost_perform_bind {op : Op β} {f : β → Prog D Op ε α} {m n : ℕ}
    (hf : ∀ b, (f b).CostAtMost cost m) (h : cost β op + m ≤ n) :
    (perform op >>= f).CostAtMost cost n := by
  refine ⟨m, h, fun r => ?_⟩
  cases r with
  | error e => trivial
  | ok b => exact hf b

lemma CostAtMost.bind {p : Prog D Op ε α} {f : α → Prog D Op ε β} {m n : ℕ}
    (hp : p.CostAtMost cost m) (hf : ∀ a, (f a).CostAtMost cost n) :
    (p >>= f).CostAtMost cost (m + n) := by
  induction p generalizing m with
  | ret a => exact (hf a).mono (Nat.le_add_left n m)
  | raise e => trivial
  | read q k ih => exact fun x => ih x (hp x)
  | write g k ih => exact ih hp
  | call op k ih =>
    obtain ⟨l, hl, hk⟩ := hp
    exact ⟨l + n, by omega, fun r => ih r (hk r)⟩

lemma CostAtMost.attempt {p : Prog D Op ε α} {n : ℕ} (hp : p.CostAtMost cost n) :
    p.attempt.CostAtMost cost n := by
  induction p generalizing n with
  | ret a => trivial
  | raise e => trivial
  | read q k ih => exact fun x => ih x (hp x)
  | write g k ih => exact ih hp
  | call op k ih =>
    obtain ⟨l, hl, hk⟩ := hp
    exact ⟨l, hl, fun r => ih r (hk r)⟩

lemma CostAtMost.embed {cost' : (β : Type) → Op' β → ℕ} {lift : (β : Type) → Op β → Op' β}
    {p : Prog Unit Op ε α} {n : ℕ} (hp : p.CostAtMost cost n)
    (hlift : ∀ β op, cost' β (lift β op) = cost β op) :
    (p.embed lift : Prog D Op' ε α).CostAtMost cost' n := by
  induction p generalizing n with
  | ret a => trivial
  | raise e => trivial
  | read q k ih => exact ih _ (hp _)
  | write g k ih => exact ih hp
  | call op k ih =>
    obtain ⟨l, hl, hk⟩ := hp
    exact ⟨l, by rwa [hlift], fun r => ih r (hk r)⟩

/-- A measure of the world that a call raises by its cost at most is raised by a run by the
bound at most. -/
lemma CostAtMost.world {p : Prog D Op ε α} {n : ℕ} (hp : p.CostAtMost cost n)
    (handle : Handler Op ε W) (μ : W → ℕ)
    (raise : ∀ β op w, μ (handle β op w).2 ≤ μ w + cost β op) (d : D) (w : W) :
    μ (p.run handle d w).world ≤ μ w + n := by
  induction p generalizing d w n with
  | ret a => exact Nat.le_add_right _ _
  | raise e => exact Nat.le_add_right _ _
  | read q k ih => exact ih _ (hp _) d w
  | write g k ih => exact ih hp _ w
  | call op k ih =>
    obtain ⟨l, hl, hk⟩ := hp
    have hrest := ih _ (hk (handle _ op w).1) d (handle _ op w).2
    have hcall := raise _ op w
    show μ ((k (handle _ op w).1).run handle d (handle _ op w).2).world ≤ _
    omega

/-- What free calls preserve, a run that makes no others preserves. -/
lemma CostAtMost.keeps {p : Prog D Op ε α} (hp : p.CostAtMost cost 0) {handle : Handler Op ε W}
    {I : W → Prop} (keep : ∀ β op w, cost β op = 0 → I w → I (handle β op w).2) (d : D) {w : W}
    (hw : I w) : I (p.run handle d w).world := by
  induction p generalizing d w with
  | ret a => exact hw
  | raise e => exact hw
  | read q k ih => exact ih _ (hp _) d hw
  | write g k ih => exact ih hp _ hw
  | call op k ih =>
    obtain ⟨l, hl, hk⟩ := hp
    obtain ⟨hfree, rfl⟩ : cost _ op = 0 ∧ l = 0 := by omega
    exact ih _ (hk _) d (keep _ op w hfree hw)

lemma costAtMost_free (p : Prog D Op ε α) : p.CostAtMost (fun _ _ => 0) 0 := by
  induction p with
  | ret a => trivial
  | raise e => trivial
  | read q k ih => exact fun x => ih x
  | write g k ih => exact ih
  | call op k ih => exact ⟨0, Nat.le_refl 0, fun r => ih r⟩

end CostAtMost

/-! ## The first call -/

/-- The first call of the program, when its reads meet the store `d`. -/
def firstCall : Prog D Op ε α → D → Option (Σ β : Type, Op β)
  | .ret _, _ => none
  | .raise _, _ => none
  | .read q k, d => (k (q d)).firstCall d
  | .write f k, d => k.firstCall (f d)
  | .call op _, _ => some ⟨_, op⟩

section FirstCall

variable {d : D} {x : Σ β : Type, Op β}

@[simp] lemma firstCall_ask_bind (q : D → β) (f : β → Prog D Op ε α) :
    (ask q >>= f).firstCall d = (f (q d)).firstCall d := rfl

@[simp] lemma firstCall_modify_bind (g : D → D) (f : Unit → Prog D Op ε α) :
    (modify g >>= f).firstCall d = (f ()).firstCall (g d) := rfl

@[simp] lemma firstCall_perform_bind (op : Op β) (f : β → Prog D Op ε α) :
    (perform op >>= f).firstCall d = some ⟨β, op⟩ := rfl

lemma firstCall_raiseIf_bind {c : Prop} [Decidable c] {e : ε} {f : Unit → Prog D Op ε α} :
    (raiseIf c e >>= f).firstCall d = some x ↔ ¬ c ∧ (f ()).firstCall d = some x := by
  rw [raiseIf]
  split
  · rename_i hc
    simp [hc, firstCall]
  · rename_i hc
    simp [hc]

lemma firstCall_ofExcept_bind {r : Except ε β} {f : β → Prog D Op ε α} :
    (ofExcept r >>= f).firstCall d = some x ↔ ∃ b, r = .ok b ∧ (f b).firstCall d = some x := by
  cases r with
  | error e => simp [firstCall]
  | ok b => simp

lemma firstCall_orRaise_bind {r : Option β} {e : ε} {f : β → Prog D Op ε α} :
    (orRaise r e >>= f).firstCall d = some x ↔ ∃ b, r = some b ∧ (f b).firstCall d = some x := by
  cases r with
  | none => simp [orRaise, firstCall]
  | some b => simp [orRaise]

/-- Mapping the value does not change what is called. -/
lemma firstCall_map (p : Prog D Op ε β) (f : β → α) :
    (p >>= fun b => pure (f b)).firstCall d = p.firstCall d := by
  induction p generalizing d with
  | ret b => rfl
  | raise e => rfl
  | read q k ih => exact ih (q d)
  | write g k ih => exact ih
  | call op k ih => rfl

end FirstCall

/-- A run without calls leaves the world alone. -/
lemma world_run_of_calls_eq_nil {handle : Handler Op ε W} {p : Prog D Op ε α} {d : D} {w : W}
    (h : (p.run handle d w).calls = []) : (p.run handle d w).world = w := by
  induction p generalizing d w with
  | ret a => rfl
  | raise e => rfl
  | read q k ih => exact ih _ h
  | write g k ih => exact ih h
  | call op k ih => cases h

/-- A program that calls at most once acts on the world through its first call. -/
lemma world_run_of_once (handle : Handler Op ε W) {p : Prog D Op ε α} {gs : List (D → D)}
    (h : ∀ H r, p.Path gs H r → H.calls.length ≤ 1) (d : D) (w : W) :
    (p.run handle (view gs d) w).world =
      match p.firstCall (view gs d) with
      | none => w
      | some ⟨β, op⟩ => (handle β op w).2 := by
  induction p generalizing gs w with
  | ret a => rfl
  | raise e => rfl
  | read q k ih =>
    have hrest : ∀ H r, (k (q (view gs d))).Path gs H r → H.calls.length ≤ 1 := fun H r hH => by
      simpa using h (.ofRead d ++ H) r ⟨d, H, rfl, hH⟩
    exact ih (q (view gs d)) hrest w
  | write f k ih =>
    have hview : f (view gs d) = view (gs ++ [f]) d := by simp
    have hrest : ∀ H r, k.Path (gs ++ [f]) H r → H.calls.length ≤ 1 := fun H r hH => by
      simpa using h (.ofWrite f ++ H) r ⟨H, rfl, hH⟩
    rw [run_write, firstCall, hview]
    exact ih hrest w
  | call op k ih =>
    obtain ⟨H, hH, -, hcalls, -⟩ :=
      path_run handle (k (handle _ op w).1) gs d (handle _ op w).2
    have hlength := h (.ofCall op (handle _ op w).1 ++ H) _ ⟨_, H, rfl, hH⟩
    simp only [History.calls_append, History.calls_ofCall, List.length_append,
      List.length_singleton] at hlength
    have hnil : H.calls = [] := List.eq_nil_of_length_eq_zero (by omega)
    exact world_run_of_calls_eq_nil (hcalls.trans hnil)

end Prog

end Transact
