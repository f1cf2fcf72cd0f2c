/-
# Programs over a store and an outside world

A request handler reads a database, calls services outside the process, stages writes and
either returns or raises.  `Prog D Op ε α` is the tree of these actions: `D` is the type of
database contents, `Op β` the type of outside calls answered by a `β`, `ε` the type of the
exceptions and `α` the type of the value returned.

One program has two meanings.  The one given here is sequential: `Prog.run` executes it
against a store and a world, and `Prog.atomically` makes a unit of work of it, which
publishes the store when the program returns and the database accepts it, and leaves the
store as it was otherwise (the world is never undone).  The other meaning, in which any
number of programs take their steps in any order, is in `Lib/Sessions.lean`.
-/
import Mathlib.Data.List.Basic

namespace Transact

/-- A program: a tree of reads, staged writes and outside calls.  What it reads is the store as
the session sees it, and what it writes is only published when it has returned. -/
inductive Prog (D : Type) (Op : Type → Type) (ε : Type) (α : Type) : Type 1 where
  /-- Return a value. -/
  | ret (a : α)
  /-- Raise an exception. -/
  | raise (e : ε)
  /-- Query the store. -/
  | read {β : Type} (q : D → β) (k : β → Prog D Op ε α)
  /-- Change the store, to be published at the end. -/
  | write (f : D → D) (k : Prog D Op ε α)
  /-- Call a service outside; the call may raise. -/
  | call {β : Type} (op : Op β) (k : Except ε β → Prog D Op ε α)

namespace Prog

variable {D W : Type} {Op : Type → Type} {ε α β : Type}

/-- Run the first program, then the one its value selects.  An exception of the first ends both.
-/
def bind : Prog D Op ε α → (α → Prog D Op ε β) → Prog D Op ε β
  | .ret a, f => f a
  | .raise e, _ => .raise e
  | .read q k, f => .read q fun x => (k x).bind f
  | .write g k, f => .write g (k.bind f)
  | .call op k, f => .call op fun r => (k r).bind f

instance : Monad (Prog D Op ε) where
  pure := .ret
  bind := bind

/-- The value of a query, which reads the store as the session sees it at that moment. -/
def ask (q : D → β) : Prog D Op ε β := .read q .ret

/-- Stage a change of the store, which the session sees at once and the others only after its
commit. -/
def modify (f : D → D) : Prog D Op ε Unit := .write f (.ret ())

/-- Raise `e` if the condition holds, and go on otherwise: an `if … : raise` of the source. -/
def raiseIf (c : Prop) [Decidable c] (e : ε) : Prog D Op ε Unit :=
  if c then .raise e else .ret ()

/-- Continue with the value of a computation, or raise its exception. -/
def ofExcept : Except ε α → Prog D Op ε α
  | .ok a => .ret a
  | .error e => .raise e

/-- Continue with a value that may be missing, or raise `e`: the `if x is None: raise` of the
source. -/
def orRaise (x : Option α) (e : ε) : Prog D Op ε α := ofExcept (x.elim (.error e) .ok)

/-- Call a service outside and let its exception through, as a plain `await` does. -/
def perform (op : Op β) : Prog D Op ε β := .call op ofExcept

@[simp] lemma pure_def (a : α) : (pure a : Prog D Op ε α) = .ret a := rfl

@[simp] lemma ret_bind (a : α) (f : α → Prog D Op ε β) : (.ret a : Prog D Op ε α) >>= f = f a :=
  rfl

@[simp] lemma raise_bind (e : ε) (f : α → Prog D Op ε β) :
    (.raise e : Prog D Op ε α) >>= f = .raise e := rfl

@[simp] lemma read_bind {γ : Type} (q : D → γ) (k : γ → Prog D Op ε α) (f : α → Prog D Op ε β) :
    (.read q k : Prog D Op ε α) >>= f = .read q fun x => k x >>= f := rfl

@[simp] lemma write_bind (g : D → D) (k : Prog D Op ε α) (f : α → Prog D Op ε β) :
    (.write g k : Prog D Op ε α) >>= f = .write g (k >>= f) := rfl

@[simp] lemma call_bind {γ : Type} (op : Op γ) (k : Except ε γ → Prog D Op ε α)
    (f : α → Prog D Op ε β) :
    (.call op k : Prog D Op ε α) >>= f = .call op fun r => k r >>= f := rfl

lemma bind_assoc {γ : Type} (p : Prog D Op ε α) (f : α → Prog D Op ε β)
    (g : β → Prog D Op ε γ) : p >>= f >>= g = p >>= fun a => f a >>= g := by
  induction p with
  | ret a => rfl
  | raise e => rfl
  | read q k ih => exact congrArg (Prog.read q) (funext ih)
  | write h k ih => exact congrArg (Prog.write h) ih
  | call op k ih => exact congrArg (Prog.call op) (funext ih)

end Prog

/-- An outside call together with its answer, which is an exception where the call has raised. -/
structure Call (Op : Type → Type) (ε : Type) : Type 1 where
  {β : Type}
  op : Op β
  answer : Except ε β

/-- What an execution leaves: its answer, the store, the world, and the outside calls made,
in order. -/
structure Outcome (D W : Type) (Op : Type → Type) (ε α : Type) : Type 1 where
  answer : Except ε α
  store : D
  world : W
  calls : List (Call Op ε)

/-- The program returned a value, so that it did not raise an exception. -/
def Returned {ε α : Type} (r : Except ε α) : Prop := ∃ a, r = .ok a

/-- The world's answer to an outside call, and the world after it. -/
abbrev Handler (Op : Type → Type) (ε W : Type) : Type 1 :=
  (β : Type) → Op β → W → Except ε β × W

namespace Prog

variable {D W : Type} {Op : Type → Type} {ε α β : Type}

/-- Sequential execution.  The store reached is reported also when the program raises. -/
def run (handle : Handler Op ε W) : Prog D Op ε α → D → W → Outcome D W Op ε α
  | .ret a, d, w => ⟨.ok a, d, w, []⟩
  | .raise e, d, w => ⟨.error e, d, w, []⟩
  | .read q k, d, w => (k (q d)).run handle d w
  | .write f k, d, w => k.run handle (f d) w
  | .call op k, d, w =>
      let o := (k (handle _ op w).1).run handle d (handle _ op w).2
      { o with calls := ⟨op, (handle _ op w).1⟩ :: o.calls }

variable (handle : Handler Op ε W) (d : D) (w : W)

@[simp] lemma run_ret (a : α) :
    (.ret a : Prog D Op ε α).run handle d w = ⟨.ok a, d, w, []⟩ := rfl

@[simp] lemma run_raise (e : ε) :
    (.raise e : Prog D Op ε α).run handle d w = ⟨.error e, d, w, []⟩ := rfl

@[simp] lemma run_read (q : D → β) (k : β → Prog D Op ε α) :
    (Prog.read q k).run handle d w = (k (q d)).run handle d w := rfl

@[simp] lemma run_write (f : D → D) (k : Prog D Op ε α) :
    (Prog.write f k).run handle d w = k.run handle (f d) w := rfl

lemma run_call (op : Op β) (k : Except ε β → Prog D Op ε α) :
    (Prog.call op k).run handle d w =
      { (k (handle _ op w).1).run handle d (handle _ op w).2 with
        calls := ⟨op, (handle _ op w).1⟩ ::
          ((k (handle _ op w).1).run handle d (handle _ op w).2).calls } := rfl

/-- Continue an execution with the program its value selects, from the store and the world that
it has left.  The calls of both stand one after the other. -/
def followedBy (o : Outcome D W Op ε α) (k : α → D → W → Outcome D W Op ε β) :
    Outcome D W Op ε β :=
  match o.answer with
  | .ok a => { k a o.store o.world with calls := o.calls ++ (k a o.store o.world).calls }
  | .error e => ⟨.error e, o.store, o.world, o.calls⟩

/-- The execution of a sequence is the execution of its first part, continued. -/
lemma run_bind (p : Prog D Op ε α) (f : α → Prog D Op ε β) :
    (p >>= f).run handle d w = followedBy (p.run handle d w) fun a => (f a).run handle := by
  induction p generalizing d w with
  | ret a => simp [followedBy]
  | raise e => simp [followedBy]
  | read q k ih => simpa using ih (q d) d w
  | write g k ih => simpa using ih (g d) w
  | call op k ih =>
    simp only [call_bind, run_call, ih]
    unfold followedBy
    cases ((k (handle _ op w).1).run handle d (handle _ op w).2).answer <;> simp

/-- A sequence whose first part raises and changes nothing. -/
lemma run_bind_of_error {p : Prog D Op ε α} {e : ε} (f : α → Prog D Op ε β)
    (h : p.run handle d w = ⟨.error e, d, w, []⟩) :
    (p >>= f).run handle d w = ⟨.error e, d, w, []⟩ := by
  rw [run_bind, h]
  rfl

@[simp] lemma run_ask_bind (q : D → β) (f : β → Prog D Op ε α) :
    (ask q >>= f).run handle d w = (f (q d)).run handle d w := rfl

@[simp] lemma run_modify_bind (g : D → D) (f : Unit → Prog D Op ε α) :
    (modify g >>= f).run handle d w = (f ()).run handle (g d) w := rfl

lemma run_raiseIf_bind (c : Prop) [Decidable c] (e : ε) (f : Unit → Prog D Op ε α) :
    (raiseIf c e >>= f).run handle d w =
      if c then ⟨.error e, d, w, []⟩ else (f ()).run handle d w := by
  rw [raiseIf]
  split <;> rfl

@[simp] lemma ofExcept_ok (a : α) : (ofExcept (.ok a) : Prog D Op ε α) = .ret a := rfl

@[simp] lemma ofExcept_error (e : ε) : (ofExcept (.error e) : Prog D Op ε α) = .raise e := rfl

/-- What a call that lets its exception through leaves. -/
lemma run_perform_bind (op : Op β) (f : β → Prog D Op ε α) :
    (perform op >>= f).run handle d w =
      match handle _ op w with
      | (.ok b, w') => { (f b).run handle d w' with
          calls := ⟨op, .ok b⟩ :: ((f b).run handle d w').calls }
      | (.error e, w') => ⟨.error e, d, w', [⟨op, .error e⟩]⟩ := by
  show (Prog.call op fun r => ofExcept r >>= f).run handle d w = _
  rw [run_call]
  rcases handle _ op w with ⟨_ | b, w'⟩ <;> rfl

/-! ### The store that a program stops with -/

/-- Executed from here, the program stops with a store in `I`, whether it returns or raises. -/
def LeavesIn (I : D → Prop) (p : Prog D Op ε α) (d : D) (w : W) : Prop := I (p.run handle d w).store

section LeavesIn

variable {handle d w} {I : D → Prop}

lemma leavesIn_ret {a : α} (h : I d) : LeavesIn handle I (.ret a : Prog D Op ε α) d w := h

lemma leavesIn_raise {e : ε} (h : I d) : LeavesIn handle I (.raise e : Prog D Op ε α) d w := h

lemma leavesIn_ofExcept {x : Except ε α} (h : I d) :
    LeavesIn handle I (ofExcept x : Prog D Op ε α) d w := by
  cases x <;> exact h

lemma leavesIn_ask_bind {q : D → β} {f : β → Prog D Op ε α} (h : LeavesIn handle I (f (q d)) d w) :
    LeavesIn handle I (ask q >>= f) d w := h

lemma leavesIn_modify_bind {g : D → D} {f : Unit → Prog D Op ε α}
    (h : LeavesIn handle I (f ()) (g d) w) : LeavesIn handle I (modify g >>= f) d w := h

lemma leavesIn_raiseIf_bind {c : Prop} [Decidable c] {e : ε} {f : Unit → Prog D Op ε α} (hd : I d)
    (h : ¬ c → LeavesIn handle I (f ()) d w) : LeavesIn handle I (raiseIf c e >>= f) d w := by
  rw [LeavesIn, run_raiseIf_bind]
  split
  · exact hd
  · rename_i hc
    exact h hc

lemma leavesIn_ofExcept_bind {x : Except ε β} {f : β → Prog D Op ε α} (hd : I d)
    (h : ∀ b, x = .ok b → LeavesIn handle I (f b) d w) :
    LeavesIn handle I (ofExcept x >>= f) d w := by
  cases x with
  | ok b => exact h b rfl
  | error e => exact hd

lemma leavesIn_orRaise_bind {x : Option β} {e : ε} {f : β → Prog D Op ε α} (hd : I d)
    (h : ∀ b, x = some b → LeavesIn handle I (f b) d w) :
    LeavesIn handle I (orRaise x e >>= f) d w := by
  cases x with
  | some b => exact h b rfl
  | none => exact hd

lemma leavesIn_perform_bind {op : Op β} {f : β → Prog D Op ε α} (hd : I d)
    (h : ∀ b, (handle _ op w).1 = .ok b → LeavesIn handle I (f b) d (handle _ op w).2) :
    LeavesIn handle I (perform op >>= f) d w := by
  rw [LeavesIn, run_perform_bind]
  split
  · rename_i b w' heq
    have hb := h b (by rw [heq])
    rw [heq] at hb
    exact hb
  · exact hd

/-- A sequence stops with its first part, or continues from where that has stopped. -/
lemma leavesIn_bind {p : Prog D Op ε β} {f : β → Prog D Op ε α} (hp : LeavesIn handle I p d w)
    (h : ∀ b d' w', I d' → LeavesIn handle I (f b) d' w') : LeavesIn handle I (p >>= f) d w := by
  rw [LeavesIn, run_bind, followedBy]
  split
  · exact h _ _ _ hp
  · exact hp

end LeavesIn

/-- A unit of work: the program's store is published if the program returns and the
database accepts it; otherwise the store stays as it was. -/
def atomically (accepts : D → Bool) (rejected : ε) (p : Prog D Op ε α) :
    Outcome D W Op ε α :=
  match (p.run handle d w).answer with
  | .ok _ =>
      if accepts (p.run handle d w).store then p.run handle d w
      else { p.run handle d w with answer := .error rejected, store := d }
  | .error _ => { p.run handle d w with store := d }

variable {handle d w} {accepts : D → Bool} {rejected : ε} {p : Prog D Op ε α}

/-- A unit of work depends on the execution of its program only. -/
lemma atomically_congr {q : Prog D Op ε α} (h : p.run handle d w = q.run handle d w) :
    p.atomically handle d w accepts rejected = q.atomically handle d w accepts rejected := by
  unfold atomically
  rw [h]

/-- The world that a unit of work leaves, and its calls, are those of the program. -/
@[simp] lemma atomically_world :
    (p.atomically handle d w accepts rejected).world = (p.run handle d w).world := by
  rw [atomically]
  split <;> (try split) <;> rfl

@[simp] lemma atomically_calls :
    (p.atomically handle d w accepts rejected).calls = (p.run handle d w).calls := by
  rw [atomically]
  split <;> (try split) <;> rfl

/-- A unit of work returns exactly when its program does and the database accepts the
store. -/
lemma atomically_ok_iff {a : α} :
    (p.atomically handle d w accepts rejected).answer = .ok a ↔
      (p.run handle d w).answer = .ok a ∧ accepts (p.run handle d w).store = true := by
  rw [atomically]
  rcases h : (p.run handle d w).answer with e | b
  · simp [h]
  · by_cases hacc : accepts (p.run handle d w).store <;> simp [h, hacc]

/-- A unit of work whose program changes nothing, on a store that the database accepts. -/
lemma atomically_of_run_eq {r : Except ε α} (hrun : p.run handle d w = ⟨r, d, w, []⟩)
    (hacc : accepts d = true) : p.atomically handle d w accepts rejected = ⟨r, d, w, []⟩ := by
  rw [atomically]
  rw [hrun]
  cases r <;> simp [hacc]

/-- A unit of work that returns publishes the program's store. -/
lemma atomically_store_of_ok {a : α}
    (h : (p.atomically handle d w accepts rejected).answer = .ok a) :
    (p.atomically handle d w accepts rejected).store = (p.run handle d w).store := by
  obtain ⟨h1, h2⟩ := atomically_ok_iff.1 h
  simp [atomically, h1, h2]

/-- A unit of work that raises leaves the store as it was. -/
lemma atomically_store_of_error {e : ε}
    (h : (p.atomically handle d w accepts rejected).answer = .error e) :
    (p.atomically handle d w accepts rejected).store = d := by
  rw [atomically] at h ⊢
  split at h
  · split at h
    · simp_all
    · simp_all
  · simp_all

end Prog

end Transact
