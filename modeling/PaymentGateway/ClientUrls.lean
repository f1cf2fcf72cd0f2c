/-
# What the Stripe adapter addresses

The adapter posts relative paths.  Under a client that it has made itself they are joined to the
base URL of the tenant's configuration; under a client that was injected, to the base URL of
that client, which the adapter does not look at.  The one that `create_app` injects has none.

`join` is httpx's: what a relative path under a base URL becomes.  A URL without a scheme is
not requested (`sendTo`).  The operations address the configured base URL exactly if no client
is injected and that URL has a scheme (`stripe_addresses_iff`).
-/
import PaymentGateway.Providers.Effects
import PaymentGateway.Services.Base

namespace PaymentGateway

open Transact

/-! ## URLs -/

/-- A character that a scheme may have after its first letter. -/
def isSchemeChar (c : Char) : Bool := c.isAlphanum || c = '+' || c = '.' || c = '-'

/-- What follows the first character of a scheme, up to its colon. -/
def schemeRest : List Char → Bool
  | [] => false
  | c :: cs => c = ':' || isSchemeChar c && schemeRest cs

/-- The URL starts with a scheme: a letter, and then characters of a scheme up to a colon. -/
def hasScheme (url : String) : Bool :=
  match url.toList with
  | [] => false
  | c :: cs => c.isAlpha && schemeRest cs

lemma schemeRest_append_slash (cs path : List Char) :
    schemeRest (cs ++ '/' :: path) = schemeRest cs := by
  induction cs with
  | nil => rfl
  | cons c cs ih => rw [List.cons_append, schemeRest, schemeRest, ih]

/-- A path after a URL has nothing to do with its scheme. -/
lemma hasScheme_append_path {path : String} (hpath : path.toList.head? = some '/') (url : String) :
    hasScheme (url ++ path) = hasScheme url := by
  obtain ⟨rest, hrest⟩ := List.head?_eq_some_iff.1 hpath
  rw [hasScheme, hasScheme, String.toList_append, hrest]
  cases url.toList with
  | nil => rfl
  | cons c cs =>
    show (c.isAlpha && schemeRest (cs ++ '/' :: rest)) = _
    rw [schemeRest_append_slash]

/-! ## Requests -/

/-- `create_app`: `httpx.AsyncClient(timeout=settings.outbound_http_timeout_seconds)` -/
def sharedClient : HttpClient := ⟨none⟩

/-- The path of an operation.  The reference of the payment is put into it as it is. -/
def ProviderOp.path : {β : Type} → ProviderOp β → String
  | _, .createPayment _ => "/v1/payment_intents"
  | _, .capture reference _ => "/v1/payment_intents/" ++ reference ++ "/capture"
  | _, .cancel reference => "/v1/payment_intents/" ++ reference ++ "/cancel"
  | _, .refund _ _ _ => "/v1/refunds"

/-- `config.get("base_url", _LIVE_BASE_URL)`, which may be a value of any type. -/
def ProviderContext.baseUrl (context : ProviderContext) : Json :=
  (Json.lookup context.config "base_url").getD (.str StripeProvider.liveBaseUrl)

section Model

variable (join : String → String → String) (respond : HttpRequest → Except HttpxError HttpResponse)

/-- The URL that httpx asks for: the path, joined to the base URL of the client.  A client
without a base URL leaves the path as it is. -/
def HttpRequest.url (request : HttpRequest) : String :=
  join (request.client.baseUrl.getD "") request.path

/-- The world is the list of the absolute URLs that were requested; where there is no scheme,
httpx raises a transport error. -/
def sendTo : Handler AdapterOp Exn (List String)
  | _, .post request, urls =>
      if hasScheme (request.url join) then
        ((respond request).mapError .httpx, urls ++ [request.url join])
      else (.error (.httpx .transportError), urls)
  | _, .newReference kind, urls => (.ok kind, urls)

/-- The URLs that an operation requests, one after the other. -/
def ProviderContext.requested (repr : Json → String) (context : ProviderContext) {β : Type}
    (op : ProviderOp β) : List String :=
  ((StripeProvider.program repr context op).exec (sendTo join respond) () []).2.2

/-- The operation addresses the configured base URL, and would do so without the client. -/
def ProviderContext.Addresses (repr : Json → String) (context : ProviderContext) {β : Type}
    (op : ProviderOp β) : Prop :=
  (∃ base, context.baseUrl = .str base ∧
      context.requested join respond repr op = [join base op.path]) ∧
    context.requested join respond repr op =
      { context with http := none }.requested join respond repr op

end Model

/-! ## What an operation requests -/

section Requests

variable {join : String → String → String} {respond : HttpRequest → Except HttpxError HttpResponse}
  {repr : Json → String} {context : ProviderContext} {β : Type} {op : ProviderOp β}

variable (repr context) in
/-- Every operation posts to its path. -/
lemma program_eq_post_path (op : ProviderOp β) :
    ∃ (data : List (String × Json)) (key : Option String) (f : Json → Except Exn β),
      StripeProvider.program repr context op =
        (StripeProvider.post context op.path data key >>= fun answer =>
          Prog.ofExcept (f answer)) := by
  cases op with
  | createPayment request => exact ⟨_, _, _, rfl⟩
  | capture reference amount => exact ⟨_, _, _, rfl⟩
  | cancel reference => exact ⟨_, _, _, rfl⟩
  | refund reference amount reason => exact ⟨_, _, _, rfl⟩

/-- A path starts with a slash. -/
lemma ProviderOp.head_path (op : ProviderOp β) : op.path.toList.head? = some '/' := by
  cases op with
  | createPayment request =>
    show ("/v1/payment_intents" : String).toList.head? = some '/'
    simp
  | capture reference amount =>
    show ("/v1/payment_intents/" ++ reference ++ "/capture" : String).toList.head? = some '/'
    simp
  | cancel reference =>
    show ("/v1/payment_intents/" ++ reference ++ "/cancel" : String).toList.head? = some '/'
    simp
  | refund reference amount reason =>
    show ("/v1/refunds" : String).toList.head? = some '/'
    simp

lemma requested_of_client {http : HttpClient}
    (hclient : StripeProvider.client context = .ok http) :
    context.requested join respond repr op =
      if hasScheme (join (http.baseUrl.getD "") op.path) then
        [join (http.baseUrl.getD "") op.path]
      else [] := by
  obtain ⟨data, key, f, hprogram⟩ := program_eq_post_path repr context op
  rw [ProviderContext.requested, hprogram, StripeProvider.exec_post hclient]
  show (sendTo join respond HttpResponse (.post _) []).2 = _
  rw [sendTo, HttpRequest.url]
  by_cases hscheme : hasScheme (join (http.baseUrl.getD "") op.path) = true
  · rw [if_pos hscheme, if_pos hscheme, List.nil_append]
  · rw [if_neg hscheme, if_neg hscheme]

/-- The client that the adapter makes. -/
lemma client_of_none {base : String} (hhttp : context.http = none)
    (hbase : context.baseUrl = .str base) : StripeProvider.client context = .ok ⟨some base⟩ := by
  rw [ProviderContext.baseUrl] at hbase
  rw [StripeProvider.client, hhttp]
  dsimp only
  rw [hbase]

end Requests

/-- **What is addressed.**  Of the contexts that `get_provider` makes for Stripe under
`create_app`'s client or none, the operations address the configured base URL exactly under
those without a client whose base URL is a string with a scheme. -/
theorem stripe_addresses_iff {join : String → String → String}
    (hjoin : ∀ base path, path.toList.head? = some '/' →
      hasScheme (join base path) = hasScheme base)
    {app : App} (hhttp : app.http = none ∨ app.http = some sharedClient) {ownerId : Uuid}
    {t : Tables} {adapter : Adapter}
    (hadapter : resolveProvider app ownerId .stripe t = .ok adapter)
    (respond : HttpRequest → Except HttpxError HttpResponse) (repr : Json → String) {β : Type}
    (op : ProviderOp β) :
    adapter.context.Addresses join respond repr op ↔
      app.http = none ∧ ∃ base, adapter.context.baseUrl = .str base ∧ hasScheme base = true := by
  have hcontext := (resolveProvider_ok hadapter).2
  constructor
  · rintro ⟨⟨base, hbase, hrequested⟩, -⟩
    rcases hhttp with hnone | hshared
    · -- a URL without a scheme is not requested
      rw [requested_of_client (client_of_none (hcontext.trans hnone) hbase)] at hrequested
      refine ⟨hnone, base, hbase, ?_⟩
      by_contra hscheme
      rw [Option.getD_some, hjoin base op.path op.head_path, if_neg hscheme] at hrequested
      cases hrequested
    · -- and neither is a path under a client without a base URL
      have hclient : StripeProvider.client adapter.context = .ok sharedClient := by
        rw [StripeProvider.client, hcontext, hshared]
      have hscheme : ¬ hasScheme (join "" op.path) = true := by
        rw [hjoin "" op.path op.head_path]
        decide
      rw [requested_of_client hclient] at hrequested
      rw [sharedClient, Option.getD_none, if_neg hscheme] at hrequested
      cases hrequested
  · rintro ⟨hnone, base, hbase, hscheme⟩
    have hhttp' : adapter.context.http = none := hcontext.trans hnone
    have hsame : { adapter.context with http := none } = adapter.context := by
      rw [← hhttp']
    rw [ProviderContext.Addresses, hsame, requested_of_client (client_of_none hhttp' hbase),
      Option.getD_some, hjoin base op.path op.head_path, if_pos hscheme]
    exact ⟨⟨base, hbase, rfl⟩, rfl⟩

/-- The adapter of a user who has configured Stripe. -/
def stripeAdapter (http : Option HttpClient) : Adapter := ⟨.stripe, ⟨"sk_test", true, [], http⟩⟩

theorem stripe_addresses_demo :
    (stripeAdapter none).context.Addresses (· ++ ·) (fun _ => .error .transportError)
        (fun _ => "") (.cancel "pi_1") ↔
      demoApp.http = none ∧
        ∃ base, (stripeAdapter none).context.baseUrl = .str base ∧ hasScheme base = true :=
  @stripe_addresses_iff (· ++ ·) (fun base _ hpath => hasScheme_append_path hpath base) demoApp
    (Or.inl rfl) demoUser.id stripeTables (stripeAdapter none) (by rfl) _ _ _ _

/-- Under the client of `create_app` a cancellation requests nothing. -/
theorem stripe_unaddressed :
    resolveProvider { demoApp with http := some sharedClient } demoUser.id .stripe stripeTables =
        .ok (stripeAdapter (some sharedClient)) ∧
      ¬ (stripeAdapter (some sharedClient)).context.Addresses (· ++ ·)
        (fun _ => .error .transportError) (fun _ => "") (.cancel "pi_1") := by
  refine ⟨by rfl, ?_⟩
  rintro ⟨⟨base, -, hrequested⟩, -⟩
  have hclient : StripeProvider.client (stripeAdapter (some sharedClient)).context =
      .ok sharedClient := rfl
  have hscheme : ¬ hasScheme ("" ++ (ProviderOp.cancel "pi_1").path) = true := by
    rw [hasScheme_append_path (ProviderOp.head_path _)]
    decide
  rw [requested_of_client hclient, sharedClient, Option.getD_none, if_neg hscheme] at hrequested
  cases hrequested

end PaymentGateway
