/-
# The payment status state machine

`app/domain/state_machine.py`: the directed graph of permitted transitions, and the check
that the services make before they write a status.
-/
import PaymentGateway.Core.Errors
import PaymentGateway.Domain.Enums

namespace PaymentGateway

open PaymentStatus

/-- `_ALLOWED`: the states that a payment may move to. -/
def allowed : PaymentStatus → List PaymentStatus
  | requiresConfirmation => [authorized, captured, canceled, failed]
  | authorized => [captured, canceled, failed]
  | captured => [partiallyRefunded, refunded]
  | partiallyRefunded => [partiallyRefunded, refunded]
  | refunded => []
  | canceled => []
  | failed => []

/-- `TERMINAL_STATES`: no transition leaves them. -/
def terminalStates : List PaymentStatus := [refunded, canceled, failed]

/-- `can_transition`: the table has the transition.  No state has one to itself, but for repeated
partial refunds. -/
def canTransition (current target : PaymentStatus) : Bool := (allowed current).contains target

/-- `assert_transition`: raise `InvalidStateError` if the transition is not permitted. -/
def assertTransition (current target : PaymentStatus) : Except Exn Unit :=
  if canTransition current target then .ok ()
  else .error (.invalidStateError
    ("illegal payment transition " ++ current.value ++ " -> " ++ target.value)
    [("from", .str current.value), ("to", .str target.value)])

@[simp] lemma assertTransition_ok_iff {current target : PaymentStatus} {u : Unit} :
    assertTransition current target = .ok u ↔ canTransition current target = true := by
  rw [assertTransition]
  split <;> simp [*]

lemma canTransition_of_error {current target : PaymentStatus} {e : Exn}
    (h : assertTransition current target = .error e) : canTransition current target = false := by
  rw [assertTransition] at h
  split at h
  · cases h
  · rename_i hno
    simpa using hno

/-- A payment may be canceled until its funds are captured. -/
lemma canTransition_canceled {s : PaymentStatus} (h : canTransition s canceled = true) :
    s = requiresConfirmation ∨ s = authorized := by
  cases s with
  | requiresConfirmation => exact Or.inl rfl
  | authorized => exact Or.inr rfl
  | _ => exact absurd h (by decide)

end PaymentGateway
