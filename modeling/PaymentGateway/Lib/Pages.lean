/-
# Pages of rows ordered by a key

A query orders rows by a key and cuts a page out of them.  How rows with equal keys follow one
another is left open, and may be different in every query.  The pages of one length that
follow one another, each from a query of its own, hold every row once whatever the orders are,
exactly if no page ends between two rows with equal keys (`pages_perm_iff`).
-/
import Mathlib.Data.List.Nodup
import Mathlib.Data.List.Perm.Basic
import Mathlib.Data.List.Sort

namespace Transact

variable {A K : Type*} [LinearOrder K]

/-- The list holds exactly the rows, the larger keys first.  Rows with equal keys may stand in
any order, and in another one in the next query. -/
structure OrderedBy (key : A → K) (rows o : List A) : Prop where
  perm : o.Perm rows
  descending : o.Pairwise fun a b => key b ≤ key a

/-- Page `k`, of `L` rows: `LIMIT L OFFSET k * L`. -/
def page (L : ℕ) (o : List A) (k : ℕ) : List A := (o.drop (k * L)).take L

/-- The number of rows whose key is larger than that of `y`, which stand in front of it in every
order. -/
def above (key : A → K) (rows : List A) (y : A) : ℕ := rows.countP fun a => key y < key a

/-- The number of rows whose key is at least that of `y`: behind them, no row with this key can
stand. -/
def upTo (key : A → K) (rows : List A) (y : A) : ℕ := rows.countP fun a => key y ≤ key a

/-- In every order, the rows before and after position `b` have the same key. -/
def Splits (key : A → K) (rows : List A) (b : ℕ) : Prop :=
  ∃ y ∈ rows, above key rows y < b ∧ b < upTo key rows y

instance (key : A → K) (rows : List A) (b : ℕ) : Decidable (Splits key rows b) :=
  inferInstanceAs (Decidable (∃ y ∈ rows, _ ∧ _))

/-! ## Prefixes -/

section Prefix

variable {p : A → Bool} {o : List A}

/-- What satisfies a property that is kept going forward stands in front. -/
lemma filter_eq_take_countP (h : o.Pairwise fun a b => p b = true → p a = true) :
    o.filter p = o.take (o.countP p) := by
  induction o with
  | nil => rfl
  | cons a o ih =>
    obtain ⟨hhead, htail⟩ := List.pairwise_cons.1 h
    by_cases ha : p a = true
    · rw [List.filter_cons_of_pos ha, List.countP_cons_of_pos ha, List.take_succ_cons, ih htail]
    · have hnone : ∀ b ∈ o, ¬ p b = true := fun b hb hp => ha (hhead b hb hp)
      rw [List.filter_cons_of_neg ha, List.countP_cons_of_neg ha, List.countP_eq_zero.2 hnone,
        List.filter_eq_nil_iff.2 hnone]
      rfl

lemma getElem_iff_lt_countP (h : o.Pairwise fun a b => p b = true → p a = true) {i : ℕ}
    (hi : i < o.length) : p o[i] = true ↔ i < o.countP p := by
  induction o generalizing i with
  | nil => cases hi
  | cons a o ih =>
    obtain ⟨hhead, htail⟩ := List.pairwise_cons.1 h
    by_cases ha : p a = true
    · rw [List.countP_cons_of_pos ha]
      cases i with
      | zero => exact iff_of_true ha (Nat.succ_pos _)
      | succ i =>
        rw [List.getElem_cons_succ, ih htail (by simpa using hi)]
        omega
    · have hnone : ∀ b ∈ a :: o, ¬ p b = true := by
        intro b hb hp
        rcases List.mem_cons.1 hb with rfl | hb
        · exact ha hp
        · exact ha (hhead b hb hp)
      rw [List.countP_eq_zero.2 hnone]
      exact iff_of_false (hnone _ (List.getElem_mem hi)) (Nat.not_lt_zero i)

end Prefix

section Orders

variable {key : A → K} {rows o o' : List A}

lemma OrderedBy.pairwise_above (h : OrderedBy key rows o) (y : A) :
    o.Pairwise fun a b => decide (key y < key b) = true → decide (key y < key a) = true :=
  h.descending.imp fun hle hlt => decide_eq_true ((of_decide_eq_true hlt).trans_le hle)

lemma OrderedBy.pairwise_upTo (h : OrderedBy key rows o) (y : A) :
    o.Pairwise fun a b => decide (key y ≤ key b) = true → decide (key y ≤ key a) = true :=
  h.descending.imp fun hle hy => decide_eq_true ((of_decide_eq_true hy).trans hle)

/-- A row stands among those with its key. -/
lemma OrderedBy.position (h : OrderedBy key rows o) {i : ℕ} (hi : i < o.length) :
    above key rows o[i] ≤ i ∧ i < upTo key rows o[i] := by
  constructor
  · have habove := getElem_iff_lt_countP (h.pairwise_above o[i]) hi
    rw [h.perm.countP_eq] at habove
    exact Nat.not_lt.1 fun hlt => lt_irrefl _ (of_decide_eq_true (habove.2 hlt))
  · have hupTo := getElem_iff_lt_countP (h.pairwise_upTo o[i]) hi
    rw [h.perm.countP_eq] at hupTo
    exact hupTo.1 (decide_eq_true le_rfl)

/-- **A cut between different keys** has the same rows in front of it in every order. -/
lemma OrderedBy.take_perm (h : OrderedBy key rows o) (h' : OrderedBy key rows o') {b : ℕ}
    (hb : ¬ Splits key rows b) : (o.take b).Perm (o'.take b) := by
  rcases Nat.lt_or_ge b o.length with hlt | hge
  · obtain ⟨hle, hupTo⟩ := h.position hlt
    have hmem : o[b] ∈ rows := h.perm.mem_iff.1 (List.getElem_mem hlt)
    have heq : above key rows o[b] = b := by
      by_contra hne
      exact hb ⟨o[b], hmem, Nat.lt_of_le_of_ne hle hne, hupTo⟩
    -- the rows in front are those with larger keys
    have hfront : ∀ {l : List A}, OrderedBy key rows l →
        l.take b = l.filter fun a => key o[b] < key a := by
      intro l hl
      rw [filter_eq_take_countP (hl.pairwise_above o[b]), hl.perm.countP_eq]
      exact congrArg l.take heq.symm
    rw [hfront h, hfront h']
    exact (h.perm.trans h'.perm.symm).filter _
  · rw [List.take_of_length_le hge, List.take_of_length_le]
    · exact h.perm.trans h'.perm.symm
    · rwa [h'.perm.length_eq, ← h.perm.length_eq]

/-- A page between two such cuts holds the same rows in every order. -/
lemma OrderedBy.page_perm (h : OrderedBy key rows o) (h' : OrderedBy key rows o') {L k : ℕ}
    (hfrom : ¬ Splits key rows (k * L)) (hto : ¬ Splits key rows ((k + 1) * L)) :
    (page L o k).Perm (page L o' k) := by
  have hcut : ∀ l : List A, l.take ((k + 1) * L) = l.take (k * L) ++ page L l k := by
    intro l
    rw [Nat.succ_mul, List.take_add, page]
  have hboth := h.take_perm h' hto
  rw [hcut, hcut] at hboth
  exact (List.perm_append_left_iff _).1 (hboth.trans ((h'.take_perm h hfrom).append_right _))

/-- The pages of one order. -/
lemma flatMap_page (L : ℕ) (o : List A) (n : ℕ) :
    ((List.range n).flatMap fun k => page L o k) = o.take (n * L) := by
  induction n with
  | zero => simp
  | succ n ih =>
    rw [List.range_succ, List.flatMap_append, ih, Nat.succ_mul, List.take_add]
    simp [page]

/-! ## Another order -/

/-- Two rows with equal keys that follow one another can be exchanged. -/
lemma OrderedBy.exchange {front back : List A} {a b : A}
    (h : OrderedBy key rows (front ++ a :: b :: back)) (hab : key a = key b) :
    OrderedBy key rows (front ++ b :: a :: back) := by
  refine ⟨((List.Perm.swap a b back).append_left front).trans h.perm, ?_⟩
  have hdesc := h.descending
  simp only [List.pairwise_append, List.pairwise_cons, List.mem_cons, forall_eq_or_imp] at hdesc ⊢
  obtain ⟨hfront, ⟨⟨hba, ha⟩, hb, hback⟩, hacross⟩ := hdesc
  exact ⟨hfront, ⟨⟨hab.le, hb⟩, ha, hback⟩, fun c hc => ⟨(hacross c hc).2.1, (hacross c hc).1,
    (hacross c hc).2.2⟩⟩

/-- A cut between two rows with equal keys. -/
lemma OrderedBy.split (h : OrderedBy key rows o) {b : ℕ} (hsplits : Splits key rows b) :
    ∃ front back x y, o = front ++ x :: y :: back ∧ front.length + 1 = b ∧ key x = key y := by
  obtain ⟨z, -, habove, hupTo⟩ := hsplits
  have hlength : upTo key rows z ≤ o.length := by
    rw [h.perm.length_eq]
    exact List.countP_le_length
  obtain ⟨i, rfl⟩ : ∃ i, b = i + 1 := ⟨b - 1, by omega⟩
  -- both rows are among those with the key of `z`
  have hkey : ∀ j (hj : j < o.length), above key rows z ≤ j → j < upTo key rows z →
      key o[j] = key z := by
    intro j hj hge hlt
    have hnot := (getElem_iff_lt_countP (h.pairwise_above z) hj).not
    have hle := getElem_iff_lt_countP (h.pairwise_upTo z) hj
    rw [h.perm.countP_eq] at hnot hle
    have hnlt := hnot.2 (Nat.not_lt.2 hge)
    rw [decide_eq_true_iff] at hnlt
    exact le_antisymm (not_lt.1 hnlt) (of_decide_eq_true (hle.2 hlt))
  have hi : i < o.length := by omega
  have hi' : i + 1 < o.length := by omega
  refine ⟨o.take i, o.drop (i + 2), o[i], o[i + 1], ?_, ?_, ?_⟩
  · rw [← List.drop_eq_getElem_cons hi', ← List.drop_eq_getElem_cons hi, List.take_append_drop]
  · rw [List.length_take, Nat.min_eq_left (Nat.le_of_lt hi)]
  · rw [hkey i hi (by omega) (by omega), hkey (i + 1) hi' (by omega) (by omega)]

/-- The pages of two orders that are exchanged at a cut hold one row twice. -/
lemma OrderedBy.not_nodup (h : OrderedBy key rows o) {L n k : ℕ} (hL : 1 ≤ L)
    (hn : rows.length ≤ n * L) (hsplits : Splits key rows (k * L)) :
    ∃ orders : ℕ → List A, (∀ j, OrderedBy key rows (orders j)) ∧
      ¬ ((List.range n).flatMap fun j => page L (orders j) j).Nodup := by
  obtain ⟨front, back, x, y, rfl, hfront, hkey⟩ := h.split hsplits
  have h' := h.exchange hkey
  refine ⟨fun j => if j < k then front ++ x :: y :: back else front ++ y :: x :: back,
    fun j => ?_, fun hnodup => ?_⟩
  · dsimp only
    split
    · exact h
    · exact h'
  have hkn : k < n := by
    have hlength := h.perm.length_eq
    simp only [List.length_append, List.length_cons] at hlength
    exact Nat.lt_of_mul_lt_mul_right (a := L) (by omega)
  -- the row is on a page before the cut, and the first one on the page after it
  have hbefore : x ∈ (List.range k).flatMap fun j => page L (front ++ x :: y :: back) j := by
    rw [flatMap_page, ← hfront, List.take_append]
    simp
  obtain ⟨j, hj, hxj⟩ := List.mem_flatMap.1 hbefore
  have hjk := List.mem_range.1 hj
  have hafter : x ∈ page L (front ++ y :: x :: back) k := by
    obtain ⟨L, rfl⟩ := Nat.exists_eq_succ_of_ne_zero (Nat.ne_of_gt hL)
    rw [page, ← hfront, List.drop_append, List.drop_eq_nil_of_le (Nat.le_succ _)]
    simp
  have hdisjoint := List.pairwise_iff_getElem.1 (List.nodup_flatMap.1 hnodup).2 j k
    (by simpa using Nat.lt_trans hjk hkn) (by simpa using hkn) hjk
  simp only [Function.onFun, List.getElem_range, if_pos hjk, Nat.lt_irrefl, if_false] at hdisjoint
  exact hdisjoint hxj hafter

lemma orderedBy_insertionSort (key : A → K) (rows : List A) :
    OrderedBy key rows (rows.insertionSort fun a b => key b ≤ key a) := by
  have : Std.Total fun a b : A => key b ≤ key a := ⟨fun a b => le_total _ _⟩
  have : IsTrans A fun a b => key b ≤ key a := ⟨fun a b c hba hcb => hcb.trans hba⟩
  exact ⟨List.perm_insertionSort _ _, List.pairwise_insertionSort _ _⟩

end Orders

/-- **Pages.**  From queries that order the rows each in its own way, the pages hold every row
once exactly if no page ends between two rows with equal keys. -/
theorem pages_perm_iff {key : A → K} {rows : List A} (hrows : rows.Nodup) {L n : ℕ} (hL : 1 ≤ L)
    (hn : rows.length ≤ n * L) :
    (∀ orders : ℕ → List A, (∀ k, OrderedBy key rows (orders k)) →
        ((List.range n).flatMap fun k => page L (orders k) k).Perm rows) ↔
      ∀ k, ¬ Splits key rows (k * L) := by
  have hsorted := orderedBy_insertionSort key rows
  constructor
  · intro h k hsplits
    obtain ⟨orders, horders, hnodup⟩ := hsorted.not_nodup hL hn hsplits
    exact hnodup ((h orders horders).nodup_iff.2 hrows)
  · intro h orders horders
    have hpages : ∀ k, (page L (orders k) k).Perm (page L (rows.insertionSort _) k) :=
      fun k => (horders k).page_perm hsorted (h k) (h (k + 1))
    refine (List.Perm.flatMap_left _ fun k _ => hpages k).trans ?_
    rw [flatMap_page, List.take_of_length_le]
    · exact hsorted.perm
    · rwa [hsorted.perm.length_eq]

end Transact
