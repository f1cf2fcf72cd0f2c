/-
# Concurrent sessions over one store

Any number of programs run against one store, each in its own session.  A session takes
one action of its program at a time, and the sessions take their actions in any order:

* a read sees the published store together with the session's own staged writes, and takes
  no lock (READ COMMITTED);
* a write is staged, invisible to the other sessions;
* an outside call acts on the shared world; the environment chooses what it does;
* a session whose program has returned publishes its staged writes in one step, on top of
  whatever the store is by then, if the database accepts the result; a session whose program
  has raised drops them.

A value that a program has returned is there before the writes are published, and it is for the
model of a server to say when its client is told.  A session may also stop for good at any point:
there are runs in which it takes no further step.

A staged write is a function on the store (`UPDATE … SET column = …`), so publishing it
after another session's write overwrites the columns it names and keeps the rest.

`System.Sound` collects what holds whatever the programs are: the published store keeps its
invariant, every store that was read satisfied it and is related to the present one, and
what each session did is a path of its program.  `System.sound_step` is the rule that keeps
it, given that publishing does; `alone_eq_atomically` says that a session acting alone is a
unit of work of `Lib/Prog.lean`.
-/
import Mathlib.Algebra.BigOperators.Group.Finset.Basic
import PaymentGateway.Lib.Paths
import PaymentGateway.Lib.Runs

namespace Transact

/-- Where a session stands.  Its program may have returned before its writes are published: that
is `running` with a program that only returns. -/
inductive Status (D : Type) (Op : Type → Type) (ε α : Type) : Type 1 where
  /-- The rest of the program is still to be run. -/
  | running (p : Prog D Op ε α)
  /-- The program returned and its writes were published. -/
  | committed (a : α)
  /-- The program raised, or the database refused the writes. -/
  | rolledBack (e : ε)

/-- A session: what it did so far, the environment's choice at each of its calls, and where
it stands. -/
structure Session (D C : Type) (Op : Type → Type) (ε α : Type) : Type 1 where
  history : History D Op ε
  choices : List C
  status : Status D Op ε α

/-- What surrounds the sessions: the answers to outside calls (the environment's choice is
an argument), the database's check of what is to be published, and the exception of a
refusal. -/
structure Host (D W C : Type) (Op : Type → Type) (ε : Type) : Type 1 where
  handle : C → Handler Op ε W
  accepts : D → Bool
  rejected : ε

/-- The published store, the world and the sessions, of which any may move next.  What a session
has staged is its own until it commits. -/
structure System (ι D W C : Type) (Op : Type → Type) (ε α : Type) : Type 1 where
  store : D
  world : W
  session : ι → Session D C Op ε α

/-- A move: one session takes its next action, and where that is an outside call, the environment
chooses how it is answered. -/
structure Move (ι C : Type) where
  session : ι
  choice : C

variable {ι D W C : Type} {Op : Type → Type} {ε α : Type}

namespace Session

/-- A session that has not started: it has done nothing, and all of its program is ahead. -/
def fresh (p : Prog D Op ε α) : Session D C Op ε α := ⟨.nil, [], .running p⟩

/-- The next action of a session against the published store `d` and the world `w`: the
session, the store and the world after it. -/
def advance (h : Host D W C Op ε) (c : C) (x : Session D C Op ε α) (d : D) (w : W) :
    Session D C Op ε α × D × W :=
  match x.status with
  | .running (.ret a) =>
      if h.accepts (view x.history.writes d) then
        ({ x with status := .committed a }, view x.history.writes d, w)
      else ({ x with status := .rolledBack h.rejected }, d, w)
  | .running (.raise e) => ({ x with status := .rolledBack e }, d, w)
  | .running (.read q k) =>
      ({ x with history := x.history ++ .ofRead d,
                status := .running (k (q (view x.history.writes d))) }, d, w)
  | .running (.write f k) =>
      ({ x with history := x.history ++ .ofWrite f, status := .running k }, d, w)
  | .running (.call op k) =>
      ({ history := x.history ++ .ofCall op (h.handle c _ op w).1,
         choices := x.choices ++ [c],
         status := .running (k (h.handle c _ op w).1) }, d, (h.handle c _ op w).2)
  | .committed _ => (x, d, w)
  | .rolledBack _ => (x, d, w)

/-- The session's program has returned: its next action publishes the staged writes. -/
def AtCommit (x : Session D C Op ε α) (a : α) : Prop := x.status = .running (.ret a)

/-- The session has published its writes; its program had returned `a`. -/
def Committed (x : Session D C Op ε α) (a : α) : Prop := x.status = .committed a

/-- The session's program has returned `a`, and the writes were not refused: they are published
by now or still may be. -/
def HasReturned (x : Session D C Op ε α) (a : α) : Prop := x.AtCommit a ∨ x.Committed a

/-- The session's program has come to its end: it has returned `a`, or the writes were dropped. -/
def Settled (x : Session D C Op ε α) (a : α) : Prop :=
  x.HasReturned a ∨ ∃ e, x.status = .rolledBack e

/-- The session has started and has neither committed nor rolled back. -/
def InFlight (x : Session D C Op ε α) : Prop := ∃ p, x.status = .running p

/-- The session's next action is an outside call, for which the environment chooses the answer.
-/
def AtCall (x : Session D C Op ε α) : Prop :=
  ∃ (β : Type) (op : Op β) (k : Except ε β → Prog D Op ε α), x.status = .running (.call op k)

/-- The session's next action drops its writes: the program has raised, or the database
refuses them. -/
def RollsBack (h : Host D W C Op ε) (x : Session D C Op ε α) (d : D) : Prop :=
  (∃ e, x.status = .running (.raise e)) ∨
    ∃ a, x.AtCommit a ∧ h.accepts (view x.history.writes d) = false

instance (x : Session D C Op ε α) : Decidable x.InFlight :=
  match hx : x.status with
  | .running p => isTrue ⟨p, hx⟩
  | .committed _ => isFalse fun ⟨_, h⟩ => by cases hx.symm.trans h
  | .rolledBack _ => isFalse fun ⟨_, h⟩ => by cases hx.symm.trans h

instance (x : Session D C Op ε α) : Decidable x.AtCall :=
  match hx : x.status with
  | .running (.call op k) => isTrue ⟨_, op, k, hx⟩
  | .running (.ret _) => isFalse fun ⟨_, _, _, h⟩ => by cases hx.symm.trans h
  | .running (.raise _) => isFalse fun ⟨_, _, _, h⟩ => by cases hx.symm.trans h
  | .running (.read _ _) => isFalse fun ⟨_, _, _, h⟩ => by cases hx.symm.trans h
  | .running (.write _ _) => isFalse fun ⟨_, _, _, h⟩ => by cases hx.symm.trans h
  | .committed _ => isFalse fun ⟨_, _, _, h⟩ => by cases hx.symm.trans h
  | .rolledBack _ => isFalse fun ⟨_, _, _, h⟩ => by cases hx.symm.trans h

instance (h : Host D W C Op ε) (x : Session D C Op ε α) (d : D) : Decidable (x.RollsBack h d) :=
  match hx : x.status with
  | .running (.raise e) => isTrue (Or.inl ⟨e, hx⟩)
  | .running (.ret a) =>
      decidable_of_iff (h.accepts (view x.history.writes d) = false)
        ⟨fun hno => Or.inr ⟨a, hx, hno⟩, by
          rintro (⟨_, hr⟩ | ⟨_, -, hno⟩)
          · cases hx.symm.trans hr
          · exact hno⟩
  | .running (.read _ _) => isFalse (by rintro (⟨_, h⟩ | ⟨_, h, -⟩) <;> cases hx.symm.trans h)
  | .running (.write _ _) => isFalse (by rintro (⟨_, h⟩ | ⟨_, h, -⟩) <;> cases hx.symm.trans h)
  | .running (.call _ _) => isFalse (by rintro (⟨_, h⟩ | ⟨_, h, -⟩) <;> cases hx.symm.trans h)
  | .committed _ => isFalse (by rintro (⟨_, h⟩ | ⟨_, h, -⟩) <;> cases hx.symm.trans h)
  | .rolledBack _ => isFalse (by rintro (⟨_, h⟩ | ⟨_, h, -⟩) <;> cases hx.symm.trans h)

/-- There is one choice of the environment for each call, so that calls and choices can be
counted against each other. -/
def Matched (x : Session D C Op ε α) : Prop := x.choices.length = x.history.calls.length

/-- What the session did is a path of the program `p`, as far as it has come. -/
def Follows (p : Prog D Op ε α) (x : Session D C Op ε α) : Prop :=
  match x.status with
  | .running q => ∀ K r, q.Path x.history.writes K r → p.Path [] (x.history ++ K) r
  | .committed a => p.Path [] x.history (.ok a)
  | .rolledBack _ => ∃ r, p.Path [] x.history r

variable {p : Prog D Op ε α} {x : Session D C Op ε α}

lemma follows_fresh : (fresh p : Session D C Op ε α).Follows p := fun _ _ h => h

/-- A session about to publish has gone through its program. -/
lemma Follows.of_atCommit (hx : x.Follows p) {a : α} (ha : x.AtCommit a) :
    p.Path [] x.history (.ok a) := by
  rw [Follows] at hx
  rw [show x.status = _ from ha] at hx
  simpa using hx .nil (.ok a) ⟨rfl, rfl⟩

lemma Follows.of_committed (hx : x.Follows p) {a : α} (ha : x.Committed a) :
    p.Path [] x.history (.ok a) := by
  rw [Follows] at hx
  rwa [show x.status = _ from ha] at hx

lemma Follows.of_hasReturned (hx : x.Follows p) {a : α} (ha : x.HasReturned a) :
    p.Path [] x.history (.ok a) := by
  rcases ha with hat | hcommitted
  · exact hx.of_atCommit hat
  · exact hx.of_committed hcommitted

/-- What a session did so far begins a path of its program. -/
lemma Follows.exists_path (hx : x.Follows p) (d : D) (e : ε) :
    ∃ K r, p.Path [] (x.history ++ K) r := by
  rw [Follows] at hx
  split at hx
  · rename_i q _
    obtain ⟨K, r, hK⟩ := Prog.exists_path d e q x.history.writes
    exact ⟨K, r, hx K r hK⟩
  · exact ⟨.nil, _, by simpa using hx⟩
  · obtain ⟨r, hr⟩ := hx
    exact ⟨.nil, r, by simpa using hr⟩

/-- A session about to call has a call left in its program. -/
lemma Follows.of_call (hx : x.Follows p) (d : D) (e : ε) {β : Type} {op : Op β}
    {k : Except ε β → Prog D Op ε α} (hcall : x.status = .running (.call op k)) :
    ∃ K r, p.Path [] (x.history ++ (.ofCall op (.error e) ++ K)) r := by
  rw [Follows] at hx
  rw [hcall] at hx
  obtain ⟨K, r, hK⟩ := Prog.exists_path d e (k (.error e)) x.history.writes
  exact ⟨K, r, hx _ r ⟨.error e, K, rfl, hK⟩⟩

lemma Matched.advance (hx : x.Matched) {h : Host D W C Op ε} {c : C} {d : D} {w : W} :
    (x.advance h c d w).1.Matched := by
  rw [Matched] at hx ⊢
  rw [Session.advance]
  rcases x.status with (a | e | ⟨q, k⟩ | ⟨f, k⟩ | ⟨op, k⟩) | a | e
  · dsimp only
    split <;> exact hx
  all_goals simpa using hx

/-- A session in flight that does not roll back stays in flight or commits. -/
lemma InFlight.advance (hx : x.InFlight) {h : Host D W C Op ε} {c : C} {d : D} {w : W}
    (hno : ¬ x.RollsBack h d) :
    (x.advance h c d w).1.InFlight ∨ ∃ a, (x.advance h c d w).1.Committed a := by
  obtain ⟨q, hq⟩ := hx
  rw [Session.advance]
  rw [hq]
  cases q with
  | ret a =>
    by_cases hacc : h.accepts (view x.history.writes d) = true
    · exact Or.inr ⟨a, by simp [hacc, Committed]⟩
    · exact absurd (Or.inr ⟨a, hq, by simpa using hacc⟩) hno
  | raise e => exact absurd (Or.inl ⟨e, hq⟩) hno
  | read q k => exact Or.inl ⟨_, rfl⟩
  | write f k => exact Or.inl ⟨_, rfl⟩
  | call op k => exact Or.inl ⟨_, rfl⟩

lemma Follows.advance (hx : x.Follows p) {h : Host D W C Op ε} {c : C} {d : D} {w : W} :
    (x.advance h c d w).1.Follows p := by
  rw [Follows] at hx
  rw [Session.advance]
  -- one case for each operation; a session that has ended stays as it is
  rcases hs : x.status with (a | e | ⟨q, k⟩ | ⟨f, k⟩ | ⟨op, k⟩) | a | e <;> rw [hs] at hx
  · have hend := hx .nil (.ok a) ⟨rfl, rfl⟩
    rw [History.append_nil] at hend
    dsimp only
    split
    · exact hend
    · exact ⟨_, hend⟩
  · have hend := hx .nil (.error e) ⟨rfl, rfl⟩
    rw [History.append_nil] at hend
    exact ⟨_, hend⟩
  · intro K r hK
    have hw : (x.history ++ History.ofRead d).writes = x.history.writes := by simp
    rw [hw] at hK
    rw [History.append_assoc]
    exact hx _ _ ⟨d, K, rfl, hK⟩
  · intro K r hK
    rw [History.append_assoc]
    exact hx _ _ ⟨K, rfl, hK⟩
  · intro K r hK
    have hw : (x.history ++ History.ofCall op (h.handle c _ op w).1).writes =
        x.history.writes := by simp
    rw [hw] at hK
    rw [History.append_assoc]
    exact hx _ _ ⟨_, K, rfl, hK⟩
  · simpa [Follows, hs] using hx
  · simpa [Follows, hs] using hx

lemma advance_of_rolledBack {e : ε} (he : x.status = .rolledBack e) {h : Host D W C Op ε} {c : C}
    {d : D} {w : W} : (x.advance h c d w).1 = x := by
  rw [Session.advance, he]

/-- A session whose program has come to its end only publishes or drops its writes. -/
lemma Settled.advance {a : α} (hx : x.Settled a) {h : Host D W C Op ε} {c : C} {d : D} {w : W} :
    (x.advance h c d w).1.Settled a ∧ (x.advance h c d w).1.history = x.history := by
  rcases hx with (hat | hcommitted) | ⟨e, he⟩
  · rw [Session.advance]
    rw [show x.status = _ from hat]
    dsimp only
    split
    · exact ⟨Or.inl (Or.inr rfl), rfl⟩
    · exact ⟨Or.inr ⟨_, rfl⟩, rfl⟩
  · have hsame : (x.advance h c d w).1 = x := by
      rw [Session.advance, show x.status = _ from hcommitted]
    rw [hsame]
    exact ⟨Or.inl (Or.inr hcommitted), rfl⟩
  · rw [advance_of_rolledBack he]
    exact ⟨Or.inr ⟨e, he⟩, rfl⟩

/-- A session reads nothing but the published store. -/
lemma reads_advance {h : Host D W C Op ε} {c : C} {d : D} {w : W} :
    ∀ y ∈ (x.advance h c d w).1.history.reads, y ∈ x.history.reads ∨ y = d := by
  rw [Session.advance]
  rcases x.status with (a | e | ⟨q, k⟩ | ⟨f, k⟩ | ⟨op, k⟩) | a | e
  · dsimp only
    split <;> exact fun y hy => Or.inl hy
  · exact fun y hy => Or.inl hy
  · intro y hy
    simpa using hy
  all_goals intro y hy
  all_goals exact Or.inl (by simpa using hy)

end Session

namespace System

variable [DecidableEq ι]

/-- One move of the system. -/
def step (h : Host D W C Op ε) (s : System ι D W C Op ε α) (m : Move ι C) :
    System ι D W C Op ε α :=
  let r := (s.session m.session).advance h m.choice s.store s.world
  ⟨r.2.1, r.2.2, Function.update s.session m.session r.1⟩

/-- The system in which no session has started yet, each with its own program. -/
def start (d : D) (w : W) (p : ι → Prog D Op ε α) : System ι D W C Op ε α :=
  ⟨d, w, fun i => .fresh (p i)⟩

variable (h : Host D W C Op ε) (s : System ι D W C Op ε α) (m : Move ι C)

lemma step_store : (step h s m).store =
    ((s.session m.session).advance h m.choice s.store s.world).2.1 := rfl

lemma step_world : (step h s m).world =
    ((s.session m.session).advance h m.choice s.store s.world).2.2 := rfl

lemma step_session_self : (step h s m).session m.session =
    ((s.session m.session).advance h m.choice s.store s.world).1 := by
  simp [step]

lemma step_session_of_ne {i : ι} (hi : i ≠ m.session) :
    (step h s m).session i = s.session i := by
  simp [step, hi]

/-- A sum over the sessions changes by what the session that moved contributes. -/
lemma sum_step {M : Type*} [AddCommMonoid M] [Fintype ι] (f : Session D C Op ε α → M) :
    ∑ i, f ((step h s m).session i) + f (s.session m.session) =
      ∑ i, f (s.session i) + f ((step h s m).session m.session) := by
  rw [← Finset.add_sum_erase _ _ (Finset.mem_univ m.session),
    ← Finset.add_sum_erase _ _ (Finset.mem_univ m.session)]
  have hrest : ∑ i ∈ Finset.univ.erase m.session, f ((step h s m).session i) =
      ∑ i ∈ Finset.univ.erase m.session, f (s.session i) :=
    Finset.sum_congr rfl fun i hi => by
      rw [step_session_of_ne h s m (Finset.ne_of_mem_erase hi)]
  rw [hrest]
  ac_rfl

/-- The move publishes the writes of a session whose program has returned `a`. -/
def Publishes (a : α) : Prop :=
  (s.session m.session).AtCommit a ∧
    h.accepts (view (s.session m.session).history.writes s.store) = true

variable {h s m}

/-- **What one move does to the published store**: it changes only by the publication of a
session that has returned, and no session commits otherwise. -/
lemma store_step :
    (step h s m).store = s.store ∧ (∀ a, ¬ Publishes h s m a) ∧
        (∀ a, ((step h s m).session m.session).Committed a →
          (step h s m).session m.session = s.session m.session) ∨
      ∃ a, Publishes h s m a ∧
        (step h s m).store = view (s.session m.session).history.writes s.store ∧
        (step h s m).session m.session =
          { s.session m.session with status := .committed a } := by
  rw [step_session_self, step_store]
  unfold Publishes Session.AtCommit Session.Committed Session.advance
  rcases hx : (s.session m.session).status with (a | e | ⟨q, k⟩ | ⟨f, k⟩ | ⟨op, k⟩) | a | e
  · by_cases hacc : h.accepts (view (s.session m.session).history.writes s.store)
    · exact Or.inr ⟨a, ⟨rfl, hacc⟩, by simp [hacc]⟩
    · exact Or.inl ⟨by simp [hacc], fun b hb => hacc hb.2, by simp [hacc]⟩
  all_goals exact Or.inl ⟨rfl, fun b hb => by simp at hb, by simp⟩

/-- What a publication does. -/
lemma step_of_publishes {a : α} (ha : Publishes h s m a) :
    (step h s m).store = view (s.session m.session).history.writes s.store ∧
      (step h s m).session m.session = { s.session m.session with status := .committed a } := by
  rw [step_session_self, step_store]
  rw [Session.advance]
  rw [show (s.session m.session).status = _ from ha.1]
  simp [ha.2]

/-- **What one move does to the world**: nothing, unless the session calls outside. -/
lemma world_step :
    ¬ (s.session m.session).AtCall ∧ (step h s m).world = s.world ∧
        ((step h s m).session m.session).choices = (s.session m.session).choices ∨
      ∃ (β : Type) (op : Op β) (k : Except ε β → Prog D Op ε α),
        (s.session m.session).status = .running (.call op k) ∧
        (step h s m).world = (h.handle m.choice β op s.world).2 ∧
        ((step h s m).session m.session).choices =
          (s.session m.session).choices ++ [m.choice] ∧
        ((step h s m).session m.session).InFlight := by
  rw [step_session_self, step_world]
  by_cases hcall : (s.session m.session).AtCall
  · obtain ⟨β, op, k, hx⟩ := hcall
    rw [Session.advance]
    rw [hx]
    exact Or.inr ⟨β, op, k, rfl, rfl, rfl, _, rfl⟩
  · refine Or.inl ⟨hcall, ?_⟩
    rw [Session.advance]
    rcases hx : (s.session m.session).status with (a | e | ⟨q, k⟩ | ⟨f, k⟩ | ⟨op, k⟩) | a | e
    · dsimp only
      split <;> exact ⟨rfl, rfl⟩
    · exact ⟨rfl, rfl⟩
    · exact ⟨rfl, rfl⟩
    · exact ⟨rfl, rfl⟩
    · exact absurd ⟨_, op, k, hx⟩ hcall
    · exact ⟨rfl, rfl⟩
    · exact ⟨rfl, rfl⟩

/-- A session that has committed stays as it is. -/
lemma step_session_of_committed {a : α} (ha : (s.session m.session).Committed a) :
    (step h s m).session m.session = s.session m.session := by
  rw [step_session_self]
  rw [Session.advance]
  rw [show (s.session m.session).status = _ from ha]

/-- A session that has committed stays as it is, whoever moves. -/
lemma session_step_of_committed {i : ι} {a : α} (ha : (s.session i).Committed a) :
    (step h s m).session i = s.session i := by
  by_cases hi : i = m.session
  · subst hi
    exact step_session_of_committed ha
  · exact step_session_of_ne h s m hi

/-- A session that was rolled back stays as it is, whoever moves. -/
lemma session_step_of_rolledBack {i : ι} {e : ε} (he : (s.session i).status = .rolledBack e) :
    (step h s m).session i = s.session i := by
  by_cases hi : i = m.session
  · subst hi
    rw [step_session_self]
    exact Session.advance_of_rolledBack he
  · exact step_session_of_ne h s m hi

/-- A session whose program has come to its end stays so, and does not read or stage anything
more. -/
lemma settled_step {i : ι} {a : α} (ha : (s.session i).Settled a) :
    ((step h s m).session i).Settled a ∧
      ((step h s m).session i).history = (s.session i).history := by
  by_cases hi : i = m.session
  · subst hi
    rw [step_session_self]
    exact ha.advance
  · rw [step_session_of_ne h s m hi]
    exact ⟨ha, rfl⟩

/-- A session commits by publishing. -/
lemma committed_step {i : ι} {a : α} (ha : ((step h s m).session i).Committed a) :
    (s.session i).Committed a ∨ i = m.session ∧ Publishes h s m a := by
  by_cases hi : i = m.session
  · subst hi
    rcases store_step (h := h) (s := s) (m := m) with ⟨-, -, hsame⟩ | ⟨b, hb, -, hsession⟩
    · rw [hsame a ha] at ha
      exact Or.inl ha
    · obtain rfl : b = a := by
        rw [hsession] at ha
        simpa [Session.Committed] using ha
      exact Or.inr ⟨rfl, hb⟩
  · rw [step_session_of_ne h s m hi] at ha
    exact Or.inl ha

/-- What holds in every interleaving: the published store satisfies `I`; every store that a
session read satisfied `I` and is related by `R` to the present one; every session follows
its program. -/
structure Sound (I : D → Prop) (R : D → D → Prop) (p : ι → Prog D Op ε α)
    (s : System ι D W C Op ε α) : Prop where
  store : I s.store
  reads : ∀ i, ∀ d ∈ (s.session i).history.reads, I d ∧ R d s.store
  follows : ∀ i, (s.session i).Follows (p i)

variable {I : D → Prop} {R : D → D → Prop} {p : ι → Prog D Op ε α}

omit [DecidableEq ι] in
lemma sound_start {d : D} {w : W} (hd : I d) :
    (start d w p : System ι D W C Op ε α).Sound I R p :=
  ⟨hd, fun _ _ h => by simp [start, Session.fresh] at h, fun _ => Session.follows_fresh⟩

/-- **Rule for interleaved sessions.**  A move keeps the system sound if publishing keeps the
invariant and relates the store before to the store after. -/
theorem sound_step (refl : ∀ d, I d → R d d) (trans : ∀ a b c, R a b → R b c → R a c)
    (hs : s.Sound I R p)
    (publish : ∀ a, Publishes h s m a →
      I (view (s.session m.session).history.writes s.store) ∧
        R s.store (view (s.session m.session).history.writes s.store)) :
    (step h s m).Sound I R p := by
  have hstore : I (step h s m).store ∧ R s.store (step h s m).store := by
    rcases store_step (h := h) (s := s) (m := m) with ⟨heq, -, -⟩ | ⟨a, ha, heq, -⟩
    · rw [heq]
      exact ⟨hs.store, refl _ hs.store⟩
    · rw [heq]
      exact publish a ha
  refine ⟨hstore.1, fun i d hd => ?_, fun i => ?_⟩
  · by_cases hi : i = m.session
    · subst hi
      rw [step_session_self] at hd
      rcases Session.reads_advance d hd with hold | rfl
      · exact ⟨(hs.reads _ d hold).1, trans _ _ _ (hs.reads _ d hold).2 hstore.2⟩
      · exact ⟨hs.store, hstore.2⟩
    · rw [step_session_of_ne h s m hi] at hd
      exact ⟨(hs.reads i d hd).1, trans _ _ _ (hs.reads i d hd).2 hstore.2⟩
  · by_cases hi : i = m.session
    · subst hi
      rw [step_session_self]
      exact (hs.follows _).advance
    · rw [step_session_of_ne h s m hi]
      exact hs.follows i

omit [DecidableEq ι] in
/-- A session that publishes has gone through its program. -/
lemma Sound.path_of_publishes (hs : s.Sound I R p) {a : α} (ha : Publishes h s m a) :
    (p m.session).Path [] (s.session m.session).history (.ok a) :=
  (hs.follows m.session).of_atCommit ha.1

end System

/-! ## A session alone is a unit of work -/

namespace System

variable [DecidableEq ι] {h : Host D W C Op ε}

/-- Let one session act `n` times in a row, with the same choice. -/
def alone (h : Host D W C Op ε) (i : ι) (c : C) (n : ℕ) (s : System ι D W C Op ε α) :
    System ι D W C Op ε α :=
  run (step h) s (List.replicate n ⟨i, c⟩)

/-- The session `i` of `t` ended as the execution `o` of its program over the published
store `d` says. -/
def EndsAs (h : Host D W C Op ε) (i : ι) (d : D) (o : Outcome D W Op ε α)
    (t : System ι D W C Op ε α) : Prop :=
  t.world = o.world ∧
    match o.answer with
    | .ok a =>
        if h.accepts o.store then t.store = o.store ∧ (t.session i).status = .committed a
        else t.store = d ∧ (t.session i).status = .rolledBack h.rejected
    | .error e => t.store = d ∧ (t.session i).status = .rolledBack e

lemma alone_succ (i : ι) (c : C) (n : ℕ) (s : System ι D W C Op ε α) :
    alone h i c (n + 1) s = alone h i c n (step h s ⟨i, c⟩) := by
  simp [alone, List.replicate_succ]

/-- **Refinement of the sequential meaning.**  A session that acts alone until it ends leaves
the store and the world, and gives the answer, of the unit of work of its program. -/
theorem alone_eq_atomically (i : ι) (c : C) (p : Prog D Op ε α) (s : System ι D W C Op ε α)
    (H : History D Op ε) (cs : List C) (hs : s.session i = ⟨H, cs, .running p⟩) (d : D)
    (hd : view H.writes s.store = d) :
    ∃ n, EndsAs h i s.store (p.run (h.handle c) d s.world) (alone h i c n s) := by
  -- by induction on what is left to run: one move for each operation, and one for the end
  induction p generalizing s H cs d with
  | ret a =>
    refine ⟨1, ?_⟩
    by_cases hacc : h.accepts d
    · simp [EndsAs, alone, run, step, Session.advance, hs, hd, hacc]
    · simp [EndsAs, alone, run, step, Session.advance, hs, hd, hacc]
  | raise e =>
    exact ⟨1, by simp [EndsAs, alone, run, step, Session.advance, hs]⟩
  | read q k ih =>
    obtain ⟨n, hn⟩ := ih (q d) (step h s ⟨i, c⟩) (H ++ .ofRead s.store) cs
      (by simp [step, Session.advance, hs, hd]) d (by simp [step, Session.advance, hs, hd])
    refine ⟨n + 1, ?_⟩
    rw [alone_succ]
    simpa [step, Session.advance, hs] using hn
  | write f k ih =>
    obtain ⟨n, hn⟩ := ih (step h s ⟨i, c⟩) (H ++ .ofWrite f) cs
      (by simp [step, Session.advance, hs]) (f d) (by simp [step, Session.advance, hs, hd])
    refine ⟨n + 1, ?_⟩
    rw [alone_succ]
    simpa [step, Session.advance, hs] using hn
  | call op k ih =>
    obtain ⟨n, hn⟩ := ih (h.handle c _ op s.world).1 (step h s ⟨i, c⟩)
      (H ++ .ofCall op (h.handle c _ op s.world).1) (cs ++ [c])
      (by simp [step, Session.advance, hs]) d (by simp [step, Session.advance, hs, hd])
    refine ⟨n + 1, ?_⟩
    rw [alone_succ]
    simpa [step, Session.advance, hs, Prog.run_call, EndsAs] using hn

end System

end Transact
