/-
# What a provider has done

The provider's side of a call, as far as a money movement is concerned: it makes every
operation that reaches it, except that of the requests carrying the same `Idempotency-Key`
header it makes one (`Effects.apply`).  Whether a request reaches it, and whether it is then
answered, is up to the environment.

`sentKey` is the header that an operation is sent with: the Stripe adapter sends one with the
creation of a payment, if it was given a key, and with nothing else.
-/
import PaymentGateway.Lib.Calls
import PaymentGateway.Providers.Mock
import PaymentGateway.Providers.Stripe

namespace PaymentGateway

open Transact

/-- The keys that the provider has seen, and how many operations it has made. -/
structure Effects where
  keys : List String
  count : ℕ
deriving DecidableEq, Repr

/-- An operation reaches the provider with the given `Idempotency-Key`. -/
def Effects.apply (key : Option String) (w : Effects) : Effects :=
  match key with
  | none => { w with count := w.count + 1 }
  | some k => if k ∈ w.keys then w else ⟨k :: w.keys, w.count + 1⟩

lemma Effects.count_apply_le (key : Option String) (w : Effects) :
    (w.apply key).count ≤ w.count + 1 := by
  unfold apply
  split
  · exact Nat.le_refl _
  · split
    · exact Nat.le_succ _
    · exact Nat.le_refl _

/-- The provider has made at most one operation, and knows its key. -/
def Effects.OnceUnder (k : String) (w : Effects) : Prop :=
  w.count = 0 ∨ w.count = 1 ∧ k ∈ w.keys

/-- A key under which every request is sent keeps the count at one. -/
lemma Effects.OnceUnder.apply {k : String} {w : Effects} (h : w.OnceUnder k) :
    (w.apply (some k)).OnceUnder k := by
  unfold Effects.apply
  dsimp only
  split
  · exact h
  · rename_i hk
    rcases h with hzero | ⟨-, hmem⟩
    · exact Or.inr ⟨by simp [hzero], List.mem_cons_self⟩
    · exact absurd hmem hk

/-! ## The header that is sent -/

/-- The `Idempotency-Key` header of a request. -/
def HttpRequest.idempotencyKey (r : HttpRequest) : Option String :=
  (r.headers.find? fun f => f.1 = "Idempotency-Key").map Prod.snd

/-- The key that the adapter of a provider sends an operation with. -/
def ProviderOp.sentKey (provider : ProviderName) : {β : Type} → ProviderOp β → Option String
  | _, .createPayment request =>
      if provider = .stripe ∧ given request.idempotencyKey = true then request.idempotencyKey
      else none
  | _, _ => none

section Rules

variable {cost : (β : Type) → AdapterOp β → ℕ}

/-- The mock provider sends nothing. -/
lemma MockProvider.costAtMost_program (hcost : ∀ kind, cost _ (.newReference kind) = 0)
    {β : Type} (op : ProviderOp β) : (program op).CostAtMost cost 0 := by
  cases op with
  | createPayment request =>
    refine Prog.costAtMost_perform_bind (m := 0) (fun reference => ?_) (by rw [hcost])
    split
    · trivial
    split <;> trivial
  | capture reference amount => trivial
  | cancel reference => trivial
  | refund reference amount reason =>
    exact Prog.costAtMost_perform_bind (m := 0) (fun new => trivial) (by rw [hcost])

namespace StripeProvider

variable {repr : Json → String} {context : ProviderContext}

lemma idempotencyKey_headers (http : HttpClient) (path : String) (data : List (String × Json))
    (key : Option String) :
    (HttpRequest.mk http path data (headers context key)).idempotencyKey =
      if given key = true then key else none := by
  cases key with
  | none => simp [HttpRequest.idempotencyKey, headers, given]
  | some k =>
    by_cases hk : k = ""
    · simp [HttpRequest.idempotencyKey, headers, given, hk]
    · simp [HttpRequest.idempotencyKey, headers, given, hk]

/-- A request, and what is made of the response. -/
lemma exec_post {W α : Type} {http : HttpClient} (hclient : client context = .ok http)
    (handle : Handler AdapterOp Exn W) (w : W) (path : String) (data : List (String × Json))
    (key : Option String) (f : Json → Except Exn α) :
    (post context path data key >>= fun answer => Prog.ofExcept (f answer)).exec handle () w =
      ((handle _ (.post ⟨http, path, data, headers context key⟩) w).1.bind fun response =>
          (payloadOf response).bind f, (),
        (handle _ (.post ⟨http, path, data, headers context key⟩) w).2) := by
  simp only [post, hclient, Prog.ofExcept_ok, Prog.ret_bind, Prog.bind_assoc]
  rw [Prog.exec_perform_bind]
  rcases handle _ (.post ⟨http, path, data, headers context key⟩) w with ⟨e | response, w'⟩
  · rfl
  · dsimp only [Except.bind]
    rcases payloadOf response with e | payload
    · rfl
    · rcases hf : f payload with e | a <;> simp [hf]

/-- Every operation of the Stripe adapter is one request, of which something is made. -/
lemma program_eq_post {β : Type} (op : ProviderOp β) :
    ∃ (path : String) (data : List (String × Json)) (key : Option String)
      (f : Json → Except Exn β),
      program repr context op =
          (post context path data key >>= fun answer => Prog.ofExcept (f answer)) ∧
        op.sentKey .stripe = if given key = true then key else none := by
  cases op with
  | createPayment request => exact ⟨_, _, _, _, rfl, by simp [ProviderOp.sentKey]⟩
  | capture reference amount => exact ⟨_, _, _, _, rfl, by simp [ProviderOp.sentKey, given]⟩
  | cancel reference => exact ⟨_, _, _, _, rfl, by simp [ProviderOp.sentKey, given]⟩
  | refund reference amount reason => exact ⟨_, _, _, _, rfl, by simp [ProviderOp.sentKey, given]⟩

lemma answer_of_eq_post {β : Type} {http : HttpClient} (hclient : client context = .ok http)
    {op : ProviderOp β} {path : String} {data : List (String × Json)} {key : Option String}
    {f : Json → Except Exn β}
    (hprog : program repr context op =
      (post context path data key >>= fun answer => Prog.ofExcept (f answer))) :
    answer repr context op = fun response => (payloadOf response).bind f := by
  funext response
  show ((program repr context op).exec _ () ()).1 = _
  rw [hprog, exec_post hclient]
  rfl

/-- What the adapter makes of a response starts from its payload. -/
lemma answer_eq {β : Type} {http : HttpClient} (hclient : client context = .ok http)
    (op : ProviderOp β) :
    ∃ f : Json → Except Exn β,
      answer repr context op = fun response => (payloadOf response).bind f := by
  obtain ⟨path, data, key, f, hprog, -⟩ := program_eq_post op
  exact ⟨f, answer_of_eq_post hclient hprog⟩

/-- **What an operation of the Stripe adapter does**: what it makes of the response to its
request does not depend on where it runs. -/
lemma exec_program {W β : Type} {http : HttpClient} (hclient : client context = .ok http)
    (handle : Handler AdapterOp Exn W) (w : W) (op : ProviderOp β) :
    ∃ request : HttpRequest, request.client = http ∧
      request.idempotencyKey = op.sentKey .stripe ∧
      (program repr context op).exec handle () w =
        ((handle _ (.post request) w).1.bind (answer repr context op), (),
          (handle _ (.post request) w).2) := by
  obtain ⟨path, data, key, f, hprog, hkey⟩ := program_eq_post op
  refine ⟨⟨http, path, data, headers context key⟩, rfl, ?_, ?_⟩
  · rw [idempotencyKey_headers, hkey]
  · rw [answer_of_eq_post hclient hprog, hprog, exec_post hclient]

/-- Every exception of the computation satisfies `P`. -/
def Raises {α : Type} (P : Exn → Prop) (x : Except Exn α) : Prop := ∀ e, x = .error e → P e

lemma Raises.bind {α β : Type} {P : Exn → Prop} {x : Except Exn α} {f : α → Except Exn β}
    (hx : Raises P x) (hf : ∀ a, Raises P (f a)) : Raises P (x.bind f) := by
  intro e he
  rcases x with e' | a
  · cases he
    exact hx e rfl
  · exact hf a e he

lemma raises_ok {α : Type} {P : Exn → Prop} (a : α) : Raises P (.ok a) := by
  intro e he
  cases he

lemma raises_error {α : Type} {P : Exn → Prop} {e : Exn} (he : P e) :
    Raises P (.error e : Except Exn α) := by
  rintro _ ⟨⟩
  exact he

/-- The adapter itself never says that the provider cannot be reached. -/
def Available (e : Exn) : Prop := e.isProviderUnavailable = false ∧ e.isTransportFault = false

lemma raises_asDict (v : Json) : Raises Available v.asDict := by
  cases v <;> first | exact raises_ok _ | exact raises_error ⟨rfl, rfl⟩

lemma raises_item (key : String) (v : Json) : Raises Available (v.item key) := by
  cases v with
  | obj fs =>
    unfold Json.item
    dsimp only
    split
    · exact raises_ok _
    · exact raises_error ⟨rfl, rfl⟩
  | _ => exact raises_error ⟨rfl, rfl⟩

lemma raises_toInt (v : Json) : Raises Available v.toInt := by
  unfold Json.toInt
  split <;> (try split) <;> first | exact raises_ok _ | exact raises_error ⟨rfl, rfl⟩

lemma raises_statusOf (v : Json) : Raises Available (statusOf v) := by
  cases v <;> first | exact raises_ok _ | exact raises_error ⟨rfl, rfl⟩

lemma raises_payloadOf (response : HttpResponse) : Raises Available (payloadOf response) := by
  rw [payloadOf]
  rcases response.json with _ | payload
  · exact raises_error ⟨rfl, rfl⟩
  · refine (raises_ok payload).bind fun payload => ?_
    dsimp only
    by_cases hstatus : 400 ≤ response.statusCode
    · rw [if_pos hstatus]
      have herror : ∀ (v : Json) (err : List (String × Json)), Raises Available
          (Except.bind (.error (.domain ⟨.providerError,
            (Json.lookup err "message").getD "Stripe request failed",
            [("provider", "stripe"), ("type", (Json.lookup err "type").getD .null),
              ("code", (Json.lookup err "code").getD .null)]⟩) : Except Exn PUnit)
            fun _ => .ok v) :=
        fun v err => Raises.bind (raises_error ⟨rfl, rfl⟩) fun _ => raises_ok v
      cases payload with
      | obj fs => exact (raises_asDict _).bind (herror _)
      | _ => exact (raises_ok _).bind (herror _)
    · rw [if_neg hstatus]
      exact raises_ok _

lemma raises_toCharge (intent : Json) : Raises Available (toCharge repr intent) := by
  refine (raises_asDict intent).bind fun fields => ?_
  refine (raises_statusOf _).bind fun status => ?_
  refine (raises_toInt _).bind fun amountCaptured => ?_
  cases status with
  | failed =>
    refine (raises_asDict _).bind fun lastErr => (raises_ok _).bind fun failure => ?_
    exact (raises_item "id" intent).bind fun id => raises_ok _
  | _ =>
    refine (raises_ok _).bind fun failure => ?_
    exact (raises_item "id" intent).bind fun id => raises_ok _

lemma raises_toRefund (amount : Money) (refund : Json) :
    Raises Available (toRefund repr amount refund) := by
  refine (raises_item "id" refund).bind fun id => ?_
  refine (raises_asDict refund).bind fun fields => ?_
  exact (raises_toInt _).bind fun refunded => raises_ok _

lemma raises_answer {β : Type} {http : HttpClient} (hclient : client context = .ok http)
    (op : ProviderOp β) (response : HttpResponse) :
    Raises Available (answer repr context op response) := by
  have hpayload := raises_payloadOf response
  cases op with
  | createPayment request =>
    rw [answer_of_eq_post hclient (f := toCharge repr) rfl]
    exact hpayload.bind raises_toCharge
  | capture reference amount =>
    rw [answer_of_eq_post hclient (f := toCharge repr) rfl]
    exact hpayload.bind raises_toCharge
  | cancel reference =>
    rw [answer_of_eq_post hclient (f := toCharge repr) rfl]
    exact hpayload.bind raises_toCharge
  | refund reference amount reason =>
    rw [answer_of_eq_post hclient (f := toRefund repr amount) rfl]
    exact hpayload.bind fun _ => raises_toRefund _ _

/-- It costs what its request costs. -/
lemma costAtMost_program {β : Type} (op : ProviderOp β) {n : ℕ}
    (hcost : ∀ request : HttpRequest, client context = .ok request.client →
      request.idempotencyKey = op.sentKey .stripe → cost _ (.post request) ≤ n) :
    (program repr context op).CostAtMost cost n := by
  obtain ⟨path, data, key, f, hprog, hkey⟩ := program_eq_post op
  rw [hprog]
  rcases hclient : client context with e | http
  · simp only [post, hclient, Prog.ofExcept_error, Prog.raise_bind]
    trivial
  · simp only [post, hclient, Prog.ofExcept_ok, Prog.ret_bind, Prog.bind_assoc]
    have hrequest := hcost ⟨http, path, data, headers context key⟩ hclient
      (by rw [idempotencyKey_headers, hkey])
    refine Prog.costAtMost_perform_bind (m := 0) (fun response => ?_) hrequest
    refine Prog.costAtMost_ofExcept_bind fun payload => ?_
    cases f payload <;> trivial

end StripeProvider

end Rules

end PaymentGateway
