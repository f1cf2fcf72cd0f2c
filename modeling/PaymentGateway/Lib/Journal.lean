/-
# Logs that publications append to

The published store is what the sessions that have committed have made of the first one, each of
them once, in the order in which they committed.  A part of the store that every publication only
appends to is a log of these sessions: as far as it is new, it consists of what each of them has
appended (`Journal`).  The entries of a session satisfy a predicate of its history, which does not
change any more.
-/
import PaymentGateway.Lib.Sessions

namespace Transact

variable {ι D W C : Type} {Op : Type → Type} {ε α β : Type}

/-- The sessions that have committed since the store was `d₀`, in their order, and what each of
them has appended to the log. -/
structure Journal (log : D → List β) (P : ι → History D Op ε → α → List β → Prop) (d₀ : D)
    (entries : List (ι × List β)) (s : System ι D W C Op ε α) : Prop where
  store : s.store = entries.foldl (fun d e => view (s.session e.1).history.writes d) d₀
  log : log s.store = log d₀ ++ (entries.map Prod.snd).flatten
  nodup : (entries.map Prod.fst).Nodup
  committed : ∀ i, i ∈ entries.map Prod.fst ↔ ∃ a, (s.session i).Committed a
  appended : ∀ e ∈ entries, ∃ a, (s.session e.1).Committed a ∧ P e.1 (s.session e.1).history a e.2

variable {log : D → List β} {P : ι → History D Op ε → α → List β → Prop} {d₀ : D}
  {entries : List (ι × List β)} {s : System ι D W C Op ε α} {h : Host D W C Op ε} {m : Move ι C}

/-- No session has committed yet. -/
lemma journal_start {d : D} {w : W} {p : ι → Prog D Op ε α} :
    Journal log P d [] (System.start d w p : System ι D W C Op ε α) where
  store := rfl
  log := by simp [System.start]
  nodup := List.nodup_nil
  committed i := by simp [System.start, Session.fresh, Session.Committed]
  appended := by simp

variable [DecidableEq ι]

/-- The sessions of the journal stay as they are. -/
lemma Journal.session_step (hs : Journal log P d₀ entries s) {e : ι × List β} (he : e ∈ entries) :
    (System.step h s m).session e.1 = s.session e.1 := by
  obtain ⟨a, ha⟩ := (hs.committed e.1).1 (List.mem_map_of_mem he)
  exact System.session_step_of_committed ha

lemma Journal.foldl_step (hs : Journal log P d₀ entries s) :
    entries.foldl (fun d e => view ((System.step h s m).session e.1).history.writes d) d₀ =
      s.store := by
  rw [hs.store]
  refine List.foldl_ext _ _ _ fun d e he => ?_
  rw [hs.session_step he]

/-- A move that publishes nothing leaves the journal alone. -/
lemma Journal.step_of_not_publishes (hs : Journal log P d₀ entries s)
    (hno : ∀ a, ¬ System.Publishes h s m a) : Journal log P d₀ entries (System.step h s m) := by
  have hstore : (System.step h s m).store = s.store := by
    rcases System.store_step (h := h) (s := s) (m := m) with ⟨hstore, -, -⟩ | ⟨a, ha, -, -⟩
    · exact hstore
    · exact absurd ha (hno a)
  have hcommitted (i : ι) (a : α) :
      ((System.step h s m).session i).Committed a ↔ (s.session i).Committed a := by
    constructor
    · intro ha
      rcases System.committed_step ha with hbefore | ⟨-, hpublishes⟩
      · exact hbefore
      · exact absurd hpublishes (hno a)
    · intro ha
      rwa [System.session_step_of_committed ha]
  refine ⟨?_, ?_, hs.nodup, fun i => ?_, fun e he => ?_⟩
  · rw [hstore, hs.foldl_step]
  · rw [hstore, hs.log]
  · simp only [hs.committed, hcommitted]
  · rw [hs.session_step he]
    exact hs.appended e he

/-- A publication adds the entries of its session. -/
lemma Journal.step_of_publishes (hs : Journal log P d₀ entries s) {a : α}
    (ha : System.Publishes h s m a) {new : List β}
    (hnew : log (view (s.session m.session).history.writes s.store) = log s.store ++ new)
    (hP : P m.session (s.session m.session).history a new) :
    Journal log P d₀ (entries ++ [(m.session, new)]) (System.step h s m) := by
  obtain ⟨hstore, hsession⟩ := System.step_of_publishes ha
  refine ⟨?_, ?_, ?_, fun i => ?_, fun e he => ?_⟩
  · rw [List.foldl_append, hs.foldl_step, hstore, List.foldl_cons, List.foldl_nil, hsession]
  · rw [hstore, hnew, hs.log]
    simp
  · rw [List.map_append, List.nodup_append]
    refine ⟨hs.nodup, List.nodup_singleton _, ?_⟩
    rintro i hi j hj rfl
    obtain rfl : i = m.session := by simpa using hj
    -- a session commits once
    obtain ⟨b, hb⟩ := (hs.committed _).1 hi
    cases ha.1.symm.trans hb
  · rw [List.map_append, List.mem_append, hs.committed]
    by_cases hi : i = m.session
    · subst hi
      exact ⟨fun _ => ⟨a, by rw [hsession]; rfl⟩, fun _ => Or.inr (by simp)⟩
    · rw [System.step_session_of_ne h s m hi]
      simp [hi]
  · rcases List.mem_append.1 he with he | he
    · rw [hs.session_step he]
      exact hs.appended e he
    · rw [List.mem_singleton.1 he, hsession]
      exact ⟨a, rfl, hP⟩

/-- **Rule for journals.**  A move keeps a journal if publishing appends to it. -/
lemma Journal.step (hs : Journal log P d₀ entries s)
    (publish : ∀ a, System.Publishes h s m a → ∃ new,
      log (view (s.session m.session).history.writes s.store) = log s.store ++ new ∧
        P m.session (s.session m.session).history a new) :
    ∃ entries', Journal log P d₀ entries' (System.step h s m) := by
  by_cases hpublishes : ∃ a, System.Publishes h s m a
  · obtain ⟨a, ha⟩ := hpublishes
    obtain ⟨new, hnew, hP⟩ := publish a ha
    exact ⟨_, hs.step_of_publishes ha hnew hP⟩
  · exact ⟨entries, hs.step_of_not_publishes fun a ha => hpublishes ⟨a, ha⟩⟩

end Transact
