/-
# Paths through a program

What one program can do, apart from the store and the world around it, is the set of its
paths: the stores its reads met, the outside calls it made with their answers, the changes
it staged, and how it ended.  Nothing relates the stores of two reads here, so a path may
belong to a sequential run (`Prog.path_run`: every read met the same store) and to a session
among others (`Lib/Sessions.lean`: every read met what was published at that moment).

`Prog.Path` is computed by recursion over the program; the lemmas below take it apart along
the sequence of a handler's actions.  An inversion lemma for a handler, stated once about
its paths, then serves both meanings.
-/
import PaymentGateway.Lib.Prog

namespace Transact

/-- What a session sees: the store with the changes that it has staged, applied in order. -/
def view {D : Type} (fs : List (D → D)) (d : D) : D := fs.foldl (fun d f => f d) d

@[simp] lemma view_nil {D : Type} (d : D) : view [] d = d := rfl

@[simp] lemma view_cons {D : Type} (f : D → D) (fs : List (D → D)) (d : D) :
    view (f :: fs) d = view fs (f d) := rfl

@[simp] lemma view_append {D : Type} (fs gs : List (D → D)) (d : D) :
    view (fs ++ gs) d = view gs (view fs d) := by
  simp [view, List.foldl_append]

/-- What a program did: the published stores its reads were made against, its outside calls,
and the changes it staged, each in order. -/
structure History (D : Type) (Op : Type → Type) (ε : Type) : Type 1 where
  reads : List D
  calls : List (Call Op ε)
  writes : List (D → D)

namespace History

variable {D : Type} {Op : Type → Type} {ε : Type}

/-- The history of a session that has done nothing. -/
def nil : History D Op ε := ⟨[], [], []⟩

/-- One history followed by another: their reads, their calls and their writes, each in order. -/
def append (H K : History D Op ε) : History D Op ε :=
  ⟨H.reads ++ K.reads, H.calls ++ K.calls, H.writes ++ K.writes⟩

instance : Append (History D Op ε) := ⟨append⟩

/-- The history of one read, made against the published store `d`. -/
def ofRead (d : D) : History D Op ε := ⟨[d], [], []⟩

/-- The history of one staged change. -/
def ofWrite (f : D → D) : History D Op ε := ⟨[], [], [f]⟩

/-- The history of one outside call, with its answer. -/
def ofCall {β : Type} (op : Op β) (r : Except ε β) : History D Op ε := ⟨[], [⟨op, r⟩], []⟩

variable (H K L : History D Op ε)

@[simp] lemma reads_append : (H ++ K).reads = H.reads ++ K.reads := rfl
@[simp] lemma calls_append : (H ++ K).calls = H.calls ++ K.calls := rfl
@[simp] lemma writes_append : (H ++ K).writes = H.writes ++ K.writes := rfl

@[simp] lemma reads_nil : (nil : History D Op ε).reads = [] := rfl
@[simp] lemma calls_nil : (nil : History D Op ε).calls = [] := rfl
@[simp] lemma writes_nil : (nil : History D Op ε).writes = [] := rfl

@[simp] lemma reads_ofRead (d : D) : (ofRead d : History D Op ε).reads = [d] := rfl
@[simp] lemma calls_ofRead (d : D) : (ofRead d : History D Op ε).calls = [] := rfl
@[simp] lemma writes_ofRead (d : D) : (ofRead d : History D Op ε).writes = [] := rfl

@[simp] lemma reads_ofWrite (f : D → D) : (ofWrite f : History D Op ε).reads = [] := rfl
@[simp] lemma calls_ofWrite (f : D → D) : (ofWrite f : History D Op ε).calls = [] := rfl
@[simp] lemma writes_ofWrite (f : D → D) : (ofWrite f : History D Op ε).writes = [f] := rfl

@[simp] lemma reads_ofCall {β : Type} (op : Op β) (r : Except ε β) :
    (ofCall op r : History D Op ε).reads = [] := rfl
@[simp] lemma calls_ofCall {β : Type} (op : Op β) (r : Except ε β) :
    (ofCall op r : History D Op ε).calls = [⟨op, r⟩] := rfl
@[simp] lemma writes_ofCall {β : Type} (op : Op β) (r : Except ε β) :
    (ofCall op r : History D Op ε).writes = [] := rfl

@[simp] lemma append_nil : H ++ nil = H := by
  cases H
  show History.mk _ _ _ = _
  simp [nil]

@[simp] lemma nil_append : nil ++ H = H := rfl

lemma append_assoc : H ++ K ++ L = H ++ (K ++ L) := by
  show History.mk _ _ _ = History.mk _ _ _
  simp

end History

namespace Prog

variable {D W : Type} {Op : Type → Type} {ε α β : Type}

/-- The program can do `H` and end with `r`, when the changes `gs` are already staged. -/
def Path : Prog D Op ε α → List (D → D) → History D Op ε → Except ε α → Prop
  | .ret a, _, H, r => H = .nil ∧ r = .ok a
  | .raise e, _, H, r => H = .nil ∧ r = .error e
  | .read q k, gs, H, r => ∃ d K, H = .ofRead d ++ K ∧ (k (q (view gs d))).Path gs K r
  | .write f k, gs, H, r => ∃ K, H = .ofWrite f ++ K ∧ k.Path (gs ++ [f]) K r
  | .call op k, gs, H, r => ∃ b K, H = .ofCall op b ++ K ∧ (k b).Path gs K r

variable {gs : List (D → D)} {H : History D Op ε}

@[simp] lemma path_ret {a : α} {r : Except ε α} :
    (.ret a : Prog D Op ε α).Path gs H r ↔ H = .nil ∧ r = .ok a := Iff.rfl

@[simp] lemma path_raise {e : ε} {r : Except ε α} :
    (.raise e : Prog D Op ε α).Path gs H r ↔ H = .nil ∧ r = .error e := Iff.rfl

lemma path_ask_bind {q : D → β} {f : β → Prog D Op ε α} {r : Except ε α} :
    (ask q >>= f).Path gs H r ↔
      ∃ d K, H = .ofRead d ++ K ∧ (f (q (view gs d))).Path gs K r := Iff.rfl

lemma path_modify_bind {g : D → D} {f : Unit → Prog D Op ε α} {r : Except ε α} :
    (modify g >>= f).Path gs H r ↔
      ∃ K, H = .ofWrite g ++ K ∧ (f ()).Path (gs ++ [g]) K r := Iff.rfl

lemma path_raiseIf_bind {c : Prop} [Decidable c] {e : ε} {f : Unit → Prog D Op ε α}
    {r : Except ε α} :
    (raiseIf c e >>= f).Path gs H r ↔
      c ∧ H = .nil ∧ r = .error e ∨ ¬ c ∧ (f ()).Path gs H r := by
  rw [raiseIf]
  split
  · rename_i hc
    simp [hc]
  · rename_i hc
    simp [hc]

lemma path_ofExcept_bind {x : Except ε β} {f : β → Prog D Op ε α} {r : Except ε α} :
    (ofExcept x >>= f).Path gs H r ↔
      (∃ e, x = .error e ∧ H = .nil ∧ r = .error e) ∨ ∃ b, x = .ok b ∧ (f b).Path gs H r := by
  cases x with
  | ok b => simp
  | error e => simp

lemma path_orRaise_bind {x : Option β} {e : ε} {f : β → Prog D Op ε α} {r : Except ε α} :
    (orRaise x e >>= f).Path gs H r ↔
      (x = none ∧ H = .nil ∧ r = .error e) ∨ ∃ b, x = some b ∧ (f b).Path gs H r := by
  cases x with
  | none => simp [orRaise]
  | some b => simp [orRaise]

lemma path_perform_bind {op : Op β} {f : β → Prog D Op ε α} {r : Except ε α} :
    (perform op >>= f).Path gs H r ↔
      (∃ e, H = .ofCall op (.error e) ∧ r = .error e) ∨
        ∃ b K, H = .ofCall op (.ok b) ++ K ∧ (f b).Path gs K r := by
  constructor
  · rintro ⟨x, K, rfl, hK⟩
    cases x with
    | error e =>
      obtain ⟨rfl, rfl⟩ := hK
      exact Or.inl ⟨e, by simp, rfl⟩
    | ok b => exact Or.inr ⟨b, K, rfl, hK⟩
  · rintro (⟨e, rfl, rfl⟩ | ⟨b, K, rfl, hK⟩)
    · exact ⟨.error e, .nil, by simp, rfl, rfl⟩
    · exact ⟨.ok b, K, rfl, hK⟩

/-- A path through a sequence is a path through its first part that raises, or one that
returns followed by a path through the second. -/
theorem path_bind {p : Prog D Op ε β} {f : β → Prog D Op ε α} {r : Except ε α} :
    (p >>= f).Path gs H r ↔
      (∃ e, p.Path gs H (.error e) ∧ r = .error e) ∨
        ∃ b K L, H = K ++ L ∧ p.Path gs K (.ok b) ∧ (f b).Path (gs ++ K.writes) L r := by
  -- by induction on the first program; each operation moves into the first half of the path
  induction p generalizing gs H with
  | ret b => simp
  | raise e => simp
  | read q k ih =>
    rw [read_bind]
    simp only [Path, ih]
    constructor
    · rintro ⟨d, K, rfl, ⟨e, hK, rfl⟩ | ⟨b, K', L, rfl, hK, hL⟩⟩
      · exact Or.inl ⟨e, ⟨d, K, rfl, hK⟩, rfl⟩
      · exact Or.inr ⟨b, .ofRead d ++ K', L, (History.append_assoc ..).symm,
          ⟨d, K', rfl, hK⟩, by simpa using hL⟩
    · rintro (⟨e, ⟨d, K, rfl, hK⟩, rfl⟩ | ⟨b, _, L, rfl, ⟨d, K', rfl, hK⟩, hL⟩)
      · exact ⟨d, K, rfl, Or.inl ⟨e, hK, rfl⟩⟩
      · exact ⟨d, K' ++ L, History.append_assoc .., Or.inr ⟨b, K', L, rfl, hK, by simpa using hL⟩⟩
  | write g k ih =>
    rw [write_bind]
    simp only [Path, ih]
    constructor
    · rintro ⟨K, rfl, ⟨e, hK, rfl⟩ | ⟨b, K', L, rfl, hK, hL⟩⟩
      · exact Or.inl ⟨e, ⟨K, rfl, hK⟩, rfl⟩
      · exact Or.inr ⟨b, .ofWrite g ++ K', L, (History.append_assoc ..).symm,
          ⟨K', rfl, hK⟩, by simpa using hL⟩
    · rintro (⟨e, ⟨K, rfl, hK⟩, rfl⟩ | ⟨b, _, L, rfl, ⟨K', rfl, hK⟩, hL⟩)
      · exact ⟨K, rfl, Or.inl ⟨e, hK, rfl⟩⟩
      · exact ⟨K' ++ L, History.append_assoc .., Or.inr ⟨b, K', L, rfl, hK, by simpa using hL⟩⟩
  | call op k ih =>
    rw [call_bind]
    simp only [Path, ih]
    constructor
    · rintro ⟨x, K, rfl, ⟨e, hK, rfl⟩ | ⟨b, K', L, rfl, hK, hL⟩⟩
      · exact Or.inl ⟨e, ⟨x, K, rfl, hK⟩, rfl⟩
      · exact Or.inr ⟨b, .ofCall op x ++ K', L, (History.append_assoc ..).symm,
          ⟨x, K', rfl, hK⟩, by simpa using hL⟩
    · rintro (⟨e, ⟨x, K, rfl, hK⟩, rfl⟩ | ⟨b, _, L, rfl, ⟨x, K', rfl, hK⟩, hL⟩)
      · exact ⟨x, K, rfl, Or.inl ⟨e, hK, rfl⟩⟩
      · exact ⟨x, K' ++ L, History.append_assoc .., Or.inr ⟨b, K', L, rfl, hK, by simpa using hL⟩⟩

/-- Every program can do something. -/
lemma exists_path (d : D) (e : ε) (p : Prog D Op ε α) (gs : List (D → D)) :
    ∃ H r, p.Path gs H r := by
  induction p generalizing gs with
  | ret a => exact ⟨.nil, .ok a, rfl, rfl⟩
  | raise e => exact ⟨.nil, .error e, rfl, rfl⟩
  | read q k ih =>
    obtain ⟨H, r, hp⟩ := ih (q (view gs d)) gs
    exact ⟨.ofRead d ++ H, r, d, H, rfl, hp⟩
  | write f k ih =>
    obtain ⟨H, r, hp⟩ := ih (gs ++ [f])
    exact ⟨.ofWrite f ++ H, r, H, rfl, hp⟩
  | call op k ih =>
    obtain ⟨H, r, hp⟩ := ih (.error e) gs
    exact ⟨.ofCall op (.error e) ++ H, r, .error e, H, rfl, hp⟩

/-- **A sequential run follows a path** whose reads all met the store it started from. -/
theorem path_run (handle : Handler Op ε W) (p : Prog D Op ε α) (gs : List (D → D)) (d : D) (w : W) :
    ∃ H, p.Path gs H (p.run handle (view gs d) w).answer ∧
      (∀ x ∈ H.reads, x = d) ∧
      (p.run handle (view gs d) w).calls = H.calls ∧
      (p.run handle (view gs d) w).store = view (gs ++ H.writes) d := by
  induction p generalizing gs w with
  | ret a => exact ⟨.nil, ⟨rfl, rfl⟩, by simp⟩
  | raise e => exact ⟨.nil, ⟨rfl, rfl⟩, by simp⟩
  | read q k ih =>
    obtain ⟨H, hp, hr, hc, hs⟩ := ih (q (view gs d)) gs w
    exact ⟨.ofRead d ++ H, ⟨d, H, rfl, hp⟩, by simpa using hr, by simpa using hc, by simpa using hs⟩
  | write f k ih =>
    obtain ⟨H, hp, hr, hc, hs⟩ := ih (gs ++ [f]) w
    rw [view_append] at hp hc hs
    exact ⟨.ofWrite f ++ H, ⟨H, rfl, hp⟩, by simpa using hr, by simpa using hc, by simpa using hs⟩
  | call op k ih =>
    obtain ⟨H, hp, hr, hc, hs⟩ := ih (handle _ op w).1 gs (handle _ op w).2
    exact ⟨.ofCall op (handle _ op w).1 ++ H, ⟨_, H, rfl, hp⟩, by simpa using hr,
      by simp [run_call, hc], by simpa [run_call] using hs⟩

/-- The paths of a program whose value is mapped. -/
lemma path_map {p : Prog D Op ε β} {f : β → α} {r : Except ε α} :
    (p >>= fun b => pure (f b)).Path gs H r ↔ ∃ x, p.Path gs H x ∧ r = x.map f := by
  rw [path_bind]
  constructor
  · rintro (⟨e, hp, rfl⟩ | ⟨b, K, L, rfl, hp, rfl, rfl⟩)
    · exact ⟨_, hp, rfl⟩
    · exact ⟨.ok b, by simpa using hp, rfl⟩
  · rintro ⟨e | b, hp, rfl⟩
    · exact Or.inl ⟨e, hp, rfl⟩
    · exact Or.inr ⟨b, H, .nil, by simp, hp, rfl, rfl⟩

/-- The paths of a program whose value is converted, when the conversion may fail. -/
lemma path_convert {γ : Type} {p : Prog D Op ε β} {f : β → Except ε γ} {g : γ → α}
    {r : Except ε α} :
    (p >>= fun b => ofExcept (f b) >>= fun c => pure (g c)).Path gs H r ↔
      ∃ x, p.Path gs H x ∧ r = (x.bind f).map g := by
  rw [path_bind]
  constructor
  · rintro (⟨e, hp, rfl⟩ | ⟨b, K, L, rfl, hp, hL⟩)
    · exact ⟨_, hp, rfl⟩
    · refine ⟨.ok b, ?_, ?_⟩
      · rw [path_ofExcept_bind] at hL
        obtain ⟨e, -, rfl, -⟩ | ⟨c, -, rfl, -⟩ := hL <;> simpa using hp
      · rw [path_ofExcept_bind] at hL
        obtain ⟨e, hf, -, rfl⟩ | ⟨c, hf, -, rfl⟩ := hL <;> simp [Except.bind, hf, Except.map]
  · rintro ⟨e | b, hp, rfl⟩
    · exact Or.inl ⟨e, hp, rfl⟩
    · refine Or.inr ⟨b, H, .nil, by simp, hp, ?_⟩
      rw [path_ofExcept_bind]
      rcases hf : f b with e | c
      · exact Or.inl ⟨e, rfl, rfl, by simp [Except.bind, hf, Except.map]⟩
      · exact Or.inr ⟨c, rfl, rfl, by simp [Except.bind, hf, Except.map]⟩

/-- Every call of a sequential run got its answer from the handler. -/
lemma calls_run (handle : Handler Op ε W) (p : Prog D Op ε α) (d : D) (w : W) :
    ∀ c ∈ (p.run handle d w).calls, ∃ w', c.answer = (handle c.β c.op w').1 := by
  induction p generalizing d w with
  | ret a => simp
  | raise e => simp
  | read q k ih => exact ih (q d) d w
  | write f k ih => exact ih (f d) w
  | call op k ih =>
    intro c hc
    rw [run_call] at hc
    rcases List.mem_cons.1 hc with rfl | hc
    · exact ⟨w, rfl⟩
    · exact ih _ _ _ c hc

/-- What a unit of work did, when it started from the store `d`: it followed a path of its
program against `d`, and either published the changes of that path or left `d` alone. -/
theorem path_atomically (handle : Handler Op ε W) (accepts : D → Bool) (rejected : ε)
    (p : Prog D Op ε α) (d : D) (w : W) :
    ∃ H r, p.Path [] H r ∧ (∀ x ∈ H.reads, x = d) ∧
      (p.atomically handle d w accepts rejected).calls = H.calls ∧
      ((∃ a, r = .ok a ∧ accepts (view H.writes d) = true ∧
          (p.atomically handle d w accepts rejected).answer = .ok a ∧
          (p.atomically handle d w accepts rejected).store = view H.writes d) ∨
        (∃ e, (p.atomically handle d w accepts rejected).answer = .error e ∧
          (p.atomically handle d w accepts rejected).store = d ∧
          (r = .error e ∨
            ∃ a, r = .ok a ∧ accepts (view H.writes d) = false ∧ e = rejected))) := by
  obtain ⟨H, hp, hr, hc, hs⟩ := path_run handle p [] d w
  simp only [view_nil, List.nil_append] at hp hr hc hs
  refine ⟨H, _, hp, hr, by rw [atomically_calls, hc], ?_⟩
  rcases hans : (p.run handle d w).answer with e | a
  · exact Or.inr ⟨e, by simp [atomically, hans], by simp [atomically, hans], Or.inl rfl⟩
  · by_cases hacc : accepts (view H.writes d) = true
    · refine Or.inl ⟨a, rfl, hacc, ?_, ?_⟩
      · simp [atomically, hans, hs, hacc]
      · simp [atomically, hans, hs, hacc]
    · refine Or.inr ⟨rejected, ?_, ?_, Or.inr ⟨a, rfl, by simpa using hacc, rfl⟩⟩
      · simp [atomically, hans, hs, hacc]
      · simp [atomically, hans, hs, hacc]

end Prog

end Transact
