/-
# Contracts for sessions

A contract says of a program which outside calls it may make and which changes it may stage,
given what it has done before, and what it promises when it returns.  `Prog.Meets` is computed
by recursion over the program, with a rule for each of the actions that handlers are made of;
nothing is assumed of the stores that the reads meet nor of the answers to the calls.

So a contract that the programs of a system meet holds in every interleaving of its sessions,
also of the sessions that are still running (`System.always_honours`).  The conditions speak of
the past of a session, and have to stay true as the session goes on (`Rules.Stable`).

A session that starts late reads only what the store has become by then (`System.ReadsSince`).
-/
import PaymentGateway.Lib.Sessions

namespace Transact

/-- What a session may do, after what it has done: which outside calls it may make and which
changes it may stage, given the history up to there. -/
structure Rules (D : Type) (Op : Type → Type) (ε : Type) : Type 1 where
  call : History D Op ε → {β : Type} → Op β → Prop
  write : History D Op ε → (D → D) → Prop

variable {D W C ι : Type} {Op : Type → Type} {ε α β : Type}

/-- The rules under which everything is allowed, for a contract about the answer only. -/
def Rules.any : Rules D Op ε := ⟨fun _ _ _ => True, fun _ _ => True⟩

/-- What was allowed once stays allowed: a longer history takes nothing back, so that a rule can
be checked at the first moment it matters. -/
structure Rules.Stable (R : Rules D Op ε) : Prop where
  call : ∀ {H : History D Op ε} (K : History D Op ε) {β : Type} {op : Op β},
    R.call H op → R.call (H ++ K) op
  write : ∀ {H : History D Op ε} (K : History D Op ε) {f : D → D},
    R.write H f → R.write (H ++ K) f

namespace Prog

/-- After the history `H`, the program keeps to the rules and returns only what `post` allows. -/
def Meets (R : Rules D Op ε) (post : History D Op ε → α → Prop) :
    Prog D Op ε α → History D Op ε → Prop
  | .ret a, H => post H a
  | .raise _, _ => True
  | .read q k, H => ∀ d, (k (q (view H.writes d))).Meets R post (H ++ .ofRead d)
  | .write f k, H => R.write H f ∧ k.Meets R post (H ++ .ofWrite f)
  | .call op k, H => R.call H op ∧ ∀ b, (k b).Meets R post (H ++ .ofCall op b)

variable {R : Rules D Op ε} {post : History D Op ε → α → Prop} {H : History D Op ε}

@[simp] lemma meets_ret {a : α} : (.ret a : Prog D Op ε α).Meets R post H ↔ post H a := Iff.rfl

@[simp] lemma meets_raise {e : ε} : (.raise e : Prog D Op ε α).Meets R post H := trivial

lemma meets_ask_bind {q : D → β} {f : β → Prog D Op ε α} :
    (ask q >>= f).Meets R post H ↔
      ∀ d, (f (q (view H.writes d))).Meets R post (H ++ .ofRead d) := Iff.rfl

lemma meets_modify_bind {g : D → D} {f : Unit → Prog D Op ε α} :
    (modify g >>= f).Meets R post H ↔
      R.write H g ∧ (f ()).Meets R post (H ++ .ofWrite g) := Iff.rfl

lemma meets_raiseIf_bind {c : Prop} [Decidable c] {e : ε} {f : Unit → Prog D Op ε α} :
    (raiseIf c e >>= f).Meets R post H ↔ (¬ c → (f ()).Meets R post H) := by
  rw [raiseIf]
  split
  · rename_i hc
    simp [hc]
  · rename_i hc
    simp [hc]

lemma meets_ofExcept_bind {x : Except ε β} {f : β → Prog D Op ε α} :
    (ofExcept x >>= f).Meets R post H ↔ ∀ b, x = .ok b → (f b).Meets R post H := by
  cases x with
  | ok b => simp
  | error e => simp

lemma meets_ofExcept {x : Except ε α} :
    (ofExcept x : Prog D Op ε α).Meets R post H ↔ ∀ a, x = .ok a → post H a := by
  cases x with
  | ok a => simp
  | error e => simp

lemma meets_orRaise_bind {x : Option β} {e : ε} {f : β → Prog D Op ε α} :
    (orRaise x e >>= f).Meets R post H ↔ ∀ b, x = some b → (f b).Meets R post H := by
  cases x with
  | none => simp [orRaise]
  | some b => simp [orRaise]

lemma meets_perform_bind {op : Op β} {f : β → Prog D Op ε α} :
    (perform op >>= f).Meets R post H ↔
      R.call H op ∧ ∀ b, (f b).Meets R post (H ++ .ofCall op (.ok b)) := by
  constructor
  · rintro ⟨hcall, h⟩
    exact ⟨hcall, fun b => h (.ok b)⟩
  · rintro ⟨hcall, h⟩
    refine ⟨hcall, ?_⟩
    intro r
    cases r with
    | ok b => exact h b
    | error e => trivial

/-- **Rule of consequence.** -/
lemma Meets.mono {R' : Rules D Op ε} {post' : History D Op ε → α → Prop} {p : Prog D Op ε α}
    (h : p.Meets R post H)
    (hcall : ∀ K {β : Type} (op : Op β), R.call (H ++ K) op → R'.call (H ++ K) op)
    (hwrite : ∀ K f, R.write (H ++ K) f → R'.write (H ++ K) f)
    (hpost : ∀ K a, post (H ++ K) a → post' (H ++ K) a) : p.Meets R' post' H := by
  induction p generalizing H with
  | ret a =>
    rw [← H.append_nil] at h ⊢
    exact hpost _ a h
  | raise e => trivial
  | read q k ih =>
    intro d
    refine ih _ (h d) ?_ ?_ ?_ <;> simp only [History.append_assoc] <;> intros
    · exact hcall _ _ ‹_›
    · exact hwrite _ _ ‹_›
    · exact hpost _ _ ‹_›
  | write f k ih =>
    refine ⟨by simpa using hwrite .nil f (by simpa using h.1), ?_⟩
    refine ih h.2 ?_ ?_ ?_ <;> simp only [History.append_assoc] <;> intros
    · exact hcall _ _ ‹_›
    · exact hwrite _ _ ‹_›
    · exact hpost _ _ ‹_›
  | call op k ih =>
    refine ⟨by simpa using hcall .nil op (by simpa using h.1), ?_⟩
    intro b
    refine ih _ (h.2 b) ?_ ?_ ?_ <;> simp only [History.append_assoc] <;> intros
    · exact hcall _ _ ‹_›
    · exact hwrite _ _ ‹_›
    · exact hpost _ _ ‹_›

/-- **Rule of sequence.**  The second program starts from what the first one has promised. -/
lemma meets_bind {p : Prog D Op ε β} {f : β → Prog D Op ε α} :
    (p >>= f).Meets R post H ↔ p.Meets R (fun K b => (f b).Meets R post K) H := by
  induction p generalizing H with
  | ret b => rfl
  | raise e => rfl
  | read q k ih => exact forall_congr' fun d => ih _
  | write g k ih => exact and_congr_right fun _ => ih
  | call op k ih => exact and_congr_right fun _ => forall_congr' fun b => ih _

/-- What the rules ask of every write holds of all the writes when the program returns. -/
lemma Meets.and_writes {P : (D → D) → Prop} {p : Prog D Op ε α} (h : p.Meets R post H)
    (hR : ∀ K f, R.write K f → P f) (hH : ∀ f ∈ H.writes, P f) :
    p.Meets R (fun K a => post K a ∧ ∀ f ∈ K.writes, P f) H := by
  induction p generalizing H with
  | ret a => exact ⟨h, hH⟩
  | raise e => trivial
  | read q k ih => exact fun d => ih _ (h d) (by simpa using hH)
  | write f k ih =>
    refine ⟨h.1, ih h.2 ?_⟩
    intro g hg
    rcases List.mem_append.1 hg with hg | hg
    · exact hH g hg
    · rw [List.mem_singleton.1 hg]
      exact hR H f h.1
  | call op k ih => exact ⟨h.1, fun b => ih _ (h.2 b) (by simpa using hH)⟩

/-- **Rule of conjunction.** -/
lemma Meets.and {R' : Rules D Op ε} {post' : History D Op ε → α → Prop} {p : Prog D Op ε α}
    (h : p.Meets R post H) (h' : p.Meets R' post' H) :
    p.Meets R (fun K a => post K a ∧ post' K a) H := by
  induction p generalizing H with
  | ret a => exact ⟨h, h'⟩
  | raise e => trivial
  | read q k ih => exact fun d => ih _ (h d) (h' d)
  | write f k ih => exact ⟨h.1, ih h.2 h'.2⟩
  | call op k ih => exact ⟨h.1, fun b => ih _ (h.2 b) (h'.2 b)⟩

lemma path_ofExcept {x : Except ε α} {gs : List (D → D)} {r : Except ε α} :
    (ofExcept x : Prog D Op ε α).Path gs H r ↔ H = .nil ∧ r = x := by
  cases x <;> rfl

/-- The paths of a program whose value is checked at the end. -/
lemma path_bind_ofExcept {p : Prog D Op ε β} {f : β → Except ε α} {gs : List (D → D)}
    {r : Except ε α} :
    (p >>= fun b => ofExcept (f b)).Path gs H r ↔ ∃ x, p.Path gs H x ∧ r = x.bind f := by
  simp only [path_bind, path_ofExcept]
  constructor
  · rintro (⟨e, hp, rfl⟩ | ⟨b, K, L, rfl, hp, rfl, rfl⟩)
    · exact ⟨_, hp, rfl⟩
    · exact ⟨.ok b, by simpa using hp, rfl⟩
  · rintro ⟨e | b, hp, rfl⟩
    · exact Or.inl ⟨e, hp, rfl⟩
    · exact Or.inr ⟨b, H, .nil, by simp, hp, rfl, rfl⟩

/-- What all paths that return have in common may be promised. -/
lemma meets_of_path {p : Prog D Op ε α}
    (h : ∀ K a, p.Path H.writes K (.ok a) → post (H ++ K) a) : p.Meets .any post H := by
  induction p generalizing H with
  | ret a => exact H.append_nil ▸ h .nil a ⟨rfl, rfl⟩
  | raise e => trivial
  | read q k ih =>
    intro d
    refine ih _ fun K a hK => ?_
    rw [History.append_assoc]
    exact h _ a ⟨d, K, rfl, by simpa using hK⟩
  | write f k ih =>
    refine ⟨trivial, ih fun K a hK => ?_⟩
    rw [History.append_assoc]
    exact h _ a ⟨K, rfl, hK⟩
  | call op k ih =>
    refine ⟨trivial, fun b => ih _ fun K a hK => ?_⟩
    rw [History.append_assoc]
    exact h _ a ⟨b, K, rfl, by simpa using hK⟩

/-- **Contracts say what paths do.**  A path that returns has the postcondition, and all its calls
and writes are allowed at some time. -/
lemma Meets.of_path {p : Prog D Op ε α} {K : History D Op ε} {r : Except ε α}
    (h : p.Meets R post H) (hK : p.Path H.writes K r) :
    (∀ a, r = .ok a → post (H ++ K) a) ∧ (∀ c ∈ K.calls, ∃ L, R.call L c.op) ∧
      ∀ f ∈ K.writes, ∃ L, R.write L f := by
  induction p generalizing H K with
  | ret a =>
    obtain ⟨rfl, rfl⟩ := hK
    refine ⟨fun b hb => ?_, by simp, by simp⟩
    cases hb
    rw [History.append_nil]
    exact h
  | raise e =>
    obtain ⟨rfl, rfl⟩ := hK
    refine ⟨fun b hb => ?_, by simp, by simp⟩
    cases hb
  | read q k ih =>
    obtain ⟨d, K, rfl, hK⟩ := hK
    obtain ⟨hpost, hcalls, hwrites⟩ := ih _ (h d) (by simpa using hK)
    rw [History.append_assoc] at hpost
    exact ⟨hpost, by simpa using hcalls, by simpa using hwrites⟩
  | write f k ih =>
    obtain ⟨K, rfl, hK⟩ := hK
    obtain ⟨hpost, hcalls, hwrites⟩ := ih h.2 hK
    rw [History.append_assoc] at hpost
    refine ⟨hpost, by simpa using hcalls, ?_⟩
    exact List.forall_mem_append.2 ⟨List.forall_mem_singleton.2 ⟨H, h.1⟩, hwrites⟩
  | call op k ih =>
    obtain ⟨b, K, rfl, hK⟩ := hK
    obtain ⟨hpost, hcalls, hwrites⟩ := ih _ (h.2 b) (by simpa using hK)
    rw [History.append_assoc] at hpost
    refine ⟨hpost, ?_, by simpa using hwrites⟩
    exact List.forall_mem_append.2 ⟨List.forall_mem_singleton.2 ⟨H, h.1⟩, hcalls⟩

/-- Nothing is asked of a program. -/
lemma meets_top (p : Prog D Op ε α) : p.Meets .any (fun _ _ => True) H := by
  induction p generalizing H with
  | ret a => trivial
  | raise e => trivial
  | read q k ih => exact fun d => ih _
  | write f k ih => exact ⟨trivial, ih⟩
  | call op k ih => exact ⟨trivial, fun b => ih _⟩

/-- Where everything is allowed from here on, the program need not be looked at. -/
lemma meets_of_allowed {p : Prog D Op ε α}
    (hcall : ∀ K {β : Type} (op : Op β), R.call (H ++ K) op)
    (hwrite : ∀ K f, R.write (H ++ K) f) (hpost : ∀ K a, post (H ++ K) a) :
    p.Meets R post H :=
  p.meets_top.mono (fun K _ op _ => hcall K op) (fun K f _ => hwrite K f) fun K a _ => hpost K a

end Prog

/-! ## Sessions that keep a contract -/

/-- Whatever the session has done was allowed, what it has committed with is a value that was
promised, and what is left of its program meets the contract. -/
structure Session.Honours (R : Rules D Op ε) (post : History D Op ε → α → Prop)
    (x : Session D C Op ε α) : Prop where
  calls : ∀ c ∈ x.history.calls, R.call x.history c.op
  writes : ∀ f ∈ x.history.writes, R.write x.history f
  running : ∀ p, x.status = .running p → p.Meets R post x.history
  answer : ∀ a, x.Committed a → post x.history a

section Sessions

variable {R : Rules D Op ε} {post : History D Op ε → α → Prop} {x : Session D C Op ε α}

lemma Session.honours_fresh {p : Prog D Op ε α} (h : p.Meets R post .nil) :
    (Session.fresh p : Session D C Op ε α).Honours R post := by
  refine ⟨by simp [Session.fresh], by simp [Session.fresh], ?_, ?_⟩
  · intro q hq
    cases hq
    exact h
  · intro a ha
    cases ha

/-- A value that was returned is one that was promised, also before the session commits. -/
lemma Session.Honours.returned (hx : x.Honours R post) {a : α} (ha : x.HasReturned a) :
    post x.history a := by
  rcases ha with hat | hcommitted
  · exact hx.running _ hat
  · exact hx.answer a hcommitted

/-- What happens to the session next is allowed as well. -/
lemma Session.Honours.advance (hR : R.Stable) (hx : x.Honours R post) {h : Host D W C Op ε}
    {c : C} {d : D} {w : W} : (x.advance h c d w).1.Honours R post := by
  have hcalls (K : History D Op ε) : ∀ c ∈ x.history.calls, R.call (x.history ++ K) c.op :=
    fun c hc => hR.call K (hx.calls c hc)
  have hwrites (K : History D Op ε) : ∀ f ∈ x.history.writes, R.write (x.history ++ K) f :=
    fun f hf => hR.write K (hx.writes f hf)
  -- a session that has ended stays as it is
  rcases hstatus : x.status with p | a | e
  · have hp := hx.running p hstatus
    rw [Session.advance]
    rw [hstatus]
    rcases p with a | e | ⟨q, k⟩ | ⟨f, k⟩ | ⟨op, k⟩
    · dsimp only
      by_cases hacc : h.accepts (view x.history.writes d) = true
      · rw [if_pos hacc]
        refine ⟨hx.calls, hx.writes, ?_, ?_⟩
        · intro p hrun
          cases hrun
        · intro b hb
          cases hb
          exact hp
      · rw [if_neg hacc]
        refine ⟨hx.calls, hx.writes, ?_, ?_⟩
        · intro p hrun
          cases hrun
        · intro b hb
          cases hb
    · refine ⟨hx.calls, hx.writes, ?_, ?_⟩
      · intro p hrun
        cases hrun
      · intro b hb
        cases hb
    · refine ⟨?_, ?_, ?_, ?_⟩
      · simpa using hcalls (.ofRead d)
      · simpa using hwrites (.ofRead d)
      · intro p hrun
        cases hrun
        exact hp d
      · intro b hb
        cases hb
    · refine ⟨?_, ?_, ?_, ?_⟩
      · simpa using hcalls (.ofWrite f)
      · intro g hg
        rcases List.mem_append.1 hg with hg | hg
        · exact hwrites _ g hg
        · rw [List.mem_singleton.1 hg]
          exact hR.write _ hp.1
      · intro p hrun
        cases hrun
        exact hp.2
      · intro b hb
        cases hb
    · refine ⟨?_, ?_, ?_, ?_⟩
      · intro c' hc'
        rcases List.mem_append.1 hc' with hc' | hc'
        · exact hcalls _ c' hc'
        · rw [List.mem_singleton.1 hc']
          exact hR.call _ hp.1
      · simpa using hwrites (.ofCall op (h.handle c _ op w).1)
      · intro p hrun
        cases hrun
        exact hp.2 _
      · intro b hb
        cases hb
  · have hsame : (x.advance h c d w).1 = x := by simp [Session.advance, hstatus]
    rw [hsame]
    exact hx
  · have hsame : (x.advance h c d w).1 = x := by simp [Session.advance, hstatus]
    rw [hsame]
    exact hx

variable [DecidableEq ι] {rules : ι → Rules D Op ε} {posts : ι → History D Op ε → α → Prop}
  {h : Host D W C Op ε} {s : System ι D W C Op ε α}

/-- Whoever moves, a session keeps its contract. -/
lemma System.honours_session_step (hR : R.Stable) {i : ι} (hs : (s.session i).Honours R post)
    (m : Move ι C) : ((System.step h s m).session i).Honours R post := by
  by_cases hi : i = m.session
  · subst hi
    rw [System.step_session_self]
    exact hs.advance hR
  · rw [System.step_session_of_ne h s m hi]
    exact hs

lemma System.honours_step (hR : ∀ i, (rules i).Stable)
    (hs : ∀ i, (s.session i).Honours (rules i) (posts i)) (m : Move ι C) (i : ι) :
    ((System.step h s m).session i).Honours (rules i) (posts i) :=
  System.honours_session_step (hR i) (hs i) m

/-- **Contracts under concurrency.**  In every state of every interleaving, every session keeps
the contract that its program meets. -/
theorem System.always_honours {p : ι → Prog D Op ε α} (hR : ∀ i, (rules i).Stable)
    (hp : ∀ i, (p i).Meets (rules i) (posts i) .nil) (d : D) (w : W) (moves : List (Move ι C)) :
    Always (System.step h) (fun s => ∀ i, (s.session i).Honours (rules i) (posts i))
      (System.start d w p) moves :=
  always_of_step (fun _ m hs => System.honours_step hR hs m)
    (fun i => Session.honours_fresh (hp i)) moves

end Sessions

/-! ## Why a session has failed -/

/-- A session that was rolled back has raised, or the host has refused what it staged, on top of a
store that had the invariant. -/
def Session.Explained (h : Host D W C Op ε) (I : D → Prop) (p : Prog D Op ε α)
    (x : Session D C Op ε α) : Prop :=
  ∀ e, x.status = .rolledBack e → p.Path [] x.history (.error e) ∨
    e = h.rejected ∧ ∃ d, I d ∧ h.accepts (view x.history.writes d) = false

section Failures

variable {h : Host D W C Op ε} {I : D → Prop} {p : Prog D Op ε α} {x : Session D C Op ε α}

lemma Session.Explained.advance (hE : x.Explained h I p) (hx : x.Follows p) {c : C} {d : D}
    (hd : I d) {w : W} : (x.advance h c d w).1.Explained h I p := by
  intro e he
  rw [Session.advance] at he ⊢
  rcases hstatus : x.status with (a | e' | ⟨q, k⟩ | ⟨f, k⟩ | ⟨op, k⟩) | a | e'
  · rw [hstatus] at he
    dsimp only at he ⊢
    by_cases hacc : h.accepts (view x.history.writes d) = true
    · rw [if_pos hacc] at he
      cases he
    · rw [if_neg hacc] at he ⊢
      cases he
      exact Or.inr ⟨rfl, d, hd, by simpa using hacc⟩
  · rw [hstatus] at he
    cases he
    left
    rw [Session.Follows, hstatus] at hx
    simpa using hx .nil (.error e) ⟨rfl, rfl⟩
  · rw [hstatus] at he
    cases he
  · rw [hstatus] at he
    cases he
  · rw [hstatus] at he
    cases he
  · rw [hstatus] at he
    cases hstatus.symm.trans he
  · rw [hstatus] at he
    exact hE e he

variable [DecidableEq ι] {s : System ι D W C Op ε α} {progs : ι → Prog D Op ε α}

end Failures

/-! ## What a session reads from now on -/

/-- The store has come from `d₀` along `R`, and so have all the stores that the session has
read. -/
structure System.ReadsSince (I : D → Prop) (R : D → D → Prop) (d₀ : D) (i : ι)
    (s : System ι D W C Op ε α) : Prop where
  store : R d₀ s.store
  reads : ∀ d ∈ (s.session i).history.reads, I d ∧ R d₀ d

section Reads

variable [DecidableEq ι] {I : D → Prop} {R : D → D → Prop} {d₀ : D} {i : ι}
  {h : Host D W C Op ε} {s : System ι D W C Op ε α} {m : Move ι C}

omit [DecidableEq ι] in
/-- A session that has read nothing so far. -/
lemma System.readsSince_of_nil (hR : R s.store s.store)
    (hnone : (s.session i).history.reads = []) : s.ReadsSince I R s.store i := by
  refine ⟨hR, ?_⟩
  rw [hnone]
  simp

lemma System.ReadsSince.step (hs : s.ReadsSince I R d₀ i) (hstore : I s.store)
    (hR : R d₀ (System.step h s m).store) : (System.step h s m).ReadsSince I R d₀ i := by
  refine ⟨hR, fun d hd => ?_⟩
  by_cases hi : i = m.session
  · subst hi
    rw [System.step_session_self] at hd
    rcases Session.reads_advance d hd with hold | rfl
    · exact hs.reads d hold
    · exact ⟨hstore, hs.store⟩
  · rw [System.step_session_of_ne h s m hi] at hd
    exact hs.reads d hd

end Reads

end Transact
