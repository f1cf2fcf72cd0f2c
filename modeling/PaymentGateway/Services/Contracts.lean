/-
# Contracts of the services

The rules for the actions that the services share: a flush, a row of the audit log, an adapter,
a payment that has to be there.
-/
import PaymentGateway.Lib.Contracts
import PaymentGateway.Services.Payments

namespace PaymentGateway

open Transact

variable {app : App} {α : Type} {R : Rules Tables GatewayOp Exn}
  {post : History Tables GatewayOp Exn → α → Prop} {H : History Tables GatewayOp Exn}

lemma meets_flush_bind {f : Unit → ServiceProg α} :
    (flush app >>= f).Meets R post H ↔
      ∀ d, app.accepts (view H.writes d) = true → (f ()).Meets R post (H ++ .ofRead d) := by
  show (Prog.ask app.accepts >>= fun ok => Prog.raiseIf (ok = false) _ >>= f).Meets R post H ↔ _
  simp only [Prog.meets_ask_bind, Prog.meets_raiseIf_bind, Bool.not_eq_false]

section Record

variable {env : Ambient} {action : AuditAction} {actorId : Uuid} {resourceType resourceId : String}

lemma meets_record_bind {f : Unit → ServiceProg α} :
    (record env action actorId resourceType resourceId >>= f).Meets R post H ↔
      R.write H (fun t => t.insertAuditLog
          (auditEntry env action actorId resourceType resourceId)) ∧
        (f ()).Meets R post (H ++ .ofWrite fun t => t.insertAuditLog
          (auditEntry env action actorId resourceType resourceId)) := Iff.rfl

end Record

lemma meets_getProvider_bind {ownerId : Uuid} {provider : ProviderName}
    {f : Adapter → ServiceProg α} :
    (getProvider app ownerId provider >>= f).Meets R post H ↔
      ∀ d adapter, resolveProvider app ownerId provider (view H.writes d) = .ok adapter →
        (f adapter).Meets R post (H ++ .ofRead d) := by
  show (Prog.ask (resolveProvider app ownerId provider) >>= fun x =>
    Prog.ofExcept x >>= f).Meets R post H ↔ _
  simp only [Prog.meets_ask_bind, Prog.meets_ofExcept_bind]

lemma meets_requirePayment_bind {owner : User} {paymentId : Uuid} {f : Payment → ServiceProg α} :
    (requirePayment owner paymentId >>= f).Meets R post H ↔
      ∀ d p, (view H.writes d).getForOwner paymentId owner.id = .ok (some p) →
        (f p).Meets R post (H ++ .ofRead d) := by
  simp only [requirePayment, Prog.bind_assoc, Prog.meets_ask_bind, Prog.meets_ofExcept_bind,
    Prog.meets_orRaise_bind]
  constructor
  · intro h d p hp
    exact h d (some p) hp p rfl
  · rintro h d found hfound p rfl
    exact h d p hfound

end PaymentGateway
