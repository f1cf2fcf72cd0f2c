/-
# Paging through payments

`PaymentRepository.list_for_owner`, called at the offsets `0`, `limit`, `2 * limit` and so on
up to the total, while nobody changes the payments.  Its `ORDER BY` names `created_at` alone,
and so leaves the order of payments that were created at the same time to the database, anew
in every query.  The pages hold every matching payment once, whatever the database chooses,
exactly if no page ends between two payments created at the same time (`pagination_iff`).
-/
import PaymentGateway.Lib.Pages
import PaymentGateway.Services.Base

namespace PaymentGateway

open Transact

section Model

variable (t : Tables) (ownerId : Uuid) (status : Option PaymentStatus)

/-- `list_for_owner`, when the database puts the rows in the given order: a page, and the
total. -/
def listForOwner (limit offset : ℕ) (order : List Payment) : List Payment × ℕ :=
  ((order.drop offset).take limit, (t.paymentsOf ownerId status).length)

/-- An order that `ORDER BY created_at DESC` allows: payments with the same time may stand in any
order. -/
abbrev Allowed (order : List Payment) : Prop :=
  OrderedBy Payment.createdAt (t.paymentsOf ownerId status) order

/-- The latest payments first, and as they were inserted, is one. -/
lemma allowed_insertionSort :
    Allowed t ownerId status
      ((t.paymentsOf ownerId status).insertionSort fun p q => q.createdAt ≤ p.createdAt) :=
  orderedBy_insertionSort _ _

/-- It is the one that the listing of the API's model is read in. -/
lemma listForOwner_insertionSort (limit offset : ℕ) :
    listForOwner t ownerId status limit offset
        ((t.paymentsOf ownerId status).insertionSort fun p q => q.createdAt ≤ p.createdAt) =
      (t.pageOfPayments ownerId status limit offset, (t.paymentsOf ownerId status).length) := rfl

/-- The pages at the offsets up to the total, from queries of which each has an order of its
own. -/
def allPages (limit : ℕ) (orders : ℕ → List Payment) : List Payment :=
  (List.range ((t.paymentsOf ownerId status).length / limit + 1)).flatMap fun k =>
    (listForOwner t ownerId status limit (k * limit) (orders k)).1

/-- Paging with this limit loses and repeats no payment, whatever orders the database takes. -/
def PagesWell (limit : ℕ) : Prop :=
  ∀ orders : ℕ → List Payment, (∀ k, Allowed t ownerId status (orders k)) →
    (allPages t ownerId status limit orders).Perm (t.paymentsOf ownerId status) ∧
      ∀ k, (listForOwner t ownerId status limit (k * limit) (orders k)).2 =
        (t.paymentsOf ownerId status).length

end Model

/-- **Paging through payments.**  It loses and repeats nothing exactly if no page ends between
two payments that were created at the same time. -/
theorem pagination_iff {t : Tables} (hids : (t.payments.map Payment.id).Nodup) (ownerId : Uuid)
    (status : Option PaymentStatus) {limit : ℕ} (hlimit : 1 ≤ limit) :
    PagesWell t ownerId status limit ↔
      ∀ k, ¬ Splits Payment.createdAt (t.paymentsOf ownerId status) (k * limit) := by
  have hrows : (t.paymentsOf ownerId status).Nodup := hids.of_map.filter _
  have hlast : (t.paymentsOf ownerId status).length ≤
      ((t.paymentsOf ownerId status).length / limit + 1) * limit := by
    have hmod := Nat.mod_add_div (t.paymentsOf ownerId status).length limit
    have hlt := Nat.mod_lt (t.paymentsOf ownerId status).length hlimit
    rw [Nat.succ_mul, Nat.mul_comm]
    omega
  rw [← pages_perm_iff hrows hlimit hlast]
  exact forall₂_congr fun orders _ => and_iff_left fun _ => rfl

/-- Two payments, the second of them created at the given time. -/
def twoPayments (createdAt : Timestamp) : Tables :=
  { Tables.empty with
    payments := [demoPayment, { demoPayment with id := .ofNat 3, createdAt := createdAt }] }

theorem pagination_demo : PagesWell (twoPayments 0) demoPayment.ownerId none 1 := by
  refine (pagination_iff (by decide) demoPayment.ownerId none (Nat.le_refl 1)).2 ?_
  rintro k ⟨p, hp, habove, hupTo⟩
  -- between two payments with different times there is no room for a cut
  have hone : ∀ p ∈ (twoPayments 0).paymentsOf demoPayment.ownerId none,
      upTo Payment.createdAt ((twoPayments 0).paymentsOf demoPayment.ownerId none) p =
        above Payment.createdAt ((twoPayments 0).paymentsOf demoPayment.ownerId none) p + 1 := by
    decide
  have hp := hone p hp
  omega

/-- Two payments of the same time on pages of one: the first query lists the first of them
first, the second one lists it last, and it is on both pages. -/
theorem pagination_repeats : ¬ PagesWell (twoPayments 1) demoPayment.ownerId none 1 := by
  intro h
  have hpages := (h (fun k => if k = 0 then (twoPayments 1).payments
    else (twoPayments 1).payments.reverse) ?_).1
  · exact absurd (hpages.nodup_iff.2 (by decide)) (by decide)
  · intro k
    split
    · exact ⟨.refl _, by decide⟩
    · exact ⟨List.reverse_perm _, by decide⟩

end PaymentGateway
