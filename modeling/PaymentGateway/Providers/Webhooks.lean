/-
# Inbound webhooks of the providers

The adapters' `verify_webhook` (`app/providers/mock.py`, `app/providers/stripe.py`): check the
signature of the raw body, and only then parse it.  The two adapters differ in the header
that carries the signature and in the secret.
-/
import PaymentGateway.Security.Signatures

namespace PaymentGateway

/-- `ProviderWebhook`: a verified, parsed inbound event. -/
structure ProviderWebhook where
  eventId : String
  eventType : String
  payload : Json
deriving DecidableEq, Repr

/-- The default of `tolerance_seconds`, which the adapters leave as it is. -/
def defaultTolerance : ℤ := 300

/-- `headers.get(name)` on the dict of the request's headers: of several the last one. -/
def headerOf (headers : List (String × String)) (name : String) : Option String :=
  (headers.reverse.find? fun h => h.1 = name).map Prod.snd

section

variable (hmac : Bytes → Bytes → String) (loads : Bytes → Except Exn Json)
  (repr : Json → String) (context : ProviderContext) (body : Bytes)
  (headers : List (String × String)) (now : ℤ)

/-- Verify the body with the secret against the header of the given name, and read it. -/
def verifyAndRead (headerName : String) (secret : Json) : Except Exn ProviderWebhook := do
  let header := (headerOf headers headerName).getD ""
  Signatures.verify hmac body header secret defaultTolerance now
  let payload ← loads body
  let eventId ← payload.item "id"
  let eventType ← payload.item "type"
  .ok ⟨eventId.toStr repr, eventType.toStr repr, payload⟩

/-- `MockProvider.verify_webhook`: the signature is checked under the secret of the context, and
the age of the delivery against the default tolerance. -/
def MockProvider.verifyWebhook : Except Exn ProviderWebhook :=
  verifyAndRead hmac loads repr body headers now "x-upgi-signature" (.str context.secret)

/-- `StripeProvider.verify_webhook`: the secret is the `webhook_secret` of the configuration
where it has a true one, and the secret of the context otherwise. -/
def StripeProvider.verifyWebhook : Except Exn ProviderWebhook :=
  verifyAndRead hmac loads repr body headers now "stripe-signature"
    (((Json.lookup context.config "webhook_secret").getD .null).orElse (.str context.secret))

/-- `verify_webhook` of the adapter's class, with the configuration of the account. -/
def Adapter.verifyWebhook (adapter : Adapter) : Except Exn ProviderWebhook :=
  match adapter.name with
  | .mock => MockProvider.verifyWebhook hmac loads repr adapter.context body headers now
  | .stripe => StripeProvider.verifyWebhook hmac loads repr adapter.context body headers now

end

end PaymentGateway
