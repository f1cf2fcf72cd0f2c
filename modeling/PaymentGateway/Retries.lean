/-
# Retries and money movements

The gateway manager tries a call again when it ended in a transport fault, and a call that
ended so may have been carried out.  The provider recognises a repeated request by its
`Idempotency-Key` header alone, which the Stripe adapter sends with the creation of a payment
if the client gave a key, and with nothing else.

`movesOnce_iff` says when a service call is carried out once at most, whatever the network
does: when there is one attempt only, when the client's key goes with it, or when the adapter
sends nothing.  Every other call that passes its checks is carried out twice on a network that
carries out every request and answers none (`mute`).
-/
import PaymentGateway.Services.Calls
import PaymentGateway.Services.GatewayManager

namespace PaymentGateway

open Transact

namespace ServiceCall

/-- The call passes its checks on the tables `t`, and goes to the provider through `adapter`. -/
def Reaches (app : App) (env : Ambient) (owner : User) (t : Tables) (adapter : Adapter) :
    ServiceCall → Prop
  | .createPayment args =>
      args.amount.isPositive ∧
        app.accepts (t.insertPayment (newPayment env owner args)) = true ∧
        resolveProvider app owner.id args.provider
          (t.insertPayment (newPayment env owner args)) = .ok adapter
  | .capturePayment paymentId amount =>
      ∃ payment, t.getForOwner paymentId owner.id = .ok (some payment) ∧
        payment.status = .authorized ∧
        (captureAmount payment amount).currency = payment.currency ∧
        (captureAmount payment amount).minorUnits ≤ payment.amount ∧
        resolveProvider app owner.id payment.provider t = .ok adapter
  | .cancelPayment paymentId =>
      ∃ payment, t.getForOwner paymentId owner.id = .ok (some payment) ∧
        canTransition payment.status .canceled = true ∧
        resolveProvider app owner.id payment.provider t = .ok adapter
  | .createRefund paymentId amountMinor _ =>
      ∃ payment, t.getForOwner paymentId owner.id = .ok (some payment) ∧
        payment.status ∈ refundableStates ∧
        (refundAmount payment amountMinor).isPositive ∧
        (refundAmount payment amountMinor).minorUnits ≤ payment.amountRefundable ∧
        resolveProvider app owner.id payment.provider t = .ok adapter

/-- The key that the client gave for the provider; only a payment has one. -/
def key : ServiceCall → Option String
  | .createPayment args => args.idempotencyKey
  | _ => none

/-- The network cannot make two of the call: it is tried once, or carries a key, or nobody is
reached. -/
def RetrySafe (app : App) (settings : GatewaySettings) (env : Ambient) (owner : User) (t : Tables)
    (call : ServiceCall) : Prop :=
  settings.providerMaxRetries ≤ 1 ∨ given call.key = true ∨
    ∀ adapter, call.Reaches app env owner t adapter → adapter.reaches = false

/-- What is outside before the call: the provider has seen the keys `keys`. -/
def quiet (keys : List String) : Wire := ⟨0, 0, ⟨keys, 0⟩⟩

/-- How many operations the provider carries out for the call, retries and all. -/
def carriedOut (app : App) (repr : Json → String) (settings : GatewaySettings)
    (network : Network) (env : Ambient) (owner : User) (t : Tables) (breakers : Breakers)
    (keys : List String) (call : ServiceCall) : ℕ :=
  ((call.prog app env owner).atomically (gatewayHandler settings repr network) t
    ⟨breakers, quiet keys⟩ app.accepts .integrityError).world.wire.effects.count

end ServiceCall

/-! ## The call that a service makes -/

section Calls

variable {app : App} {env : Ambient} {owner : User} {t : Tables}

/-- A service calls the gateway manager once at most. -/
lemma ServiceCall.calls_le_one {call : ServiceCall} {gs : List (Tables → Tables)}
    {H : History Tables GatewayOp Exn} {r : Except Exn ServiceResult}
    (h : (call.prog app env owner).Path gs H r) : H.calls.length ≤ 1 := by
  rcases call with args | ⟨paymentId, amount⟩ | paymentId | ⟨paymentId, amountMinor, reason⟩ <;>
    rw [ServiceCall.prog, Prog.path_map] at h <;> obtain ⟨x, hx, -⟩ := h
  · cases createPayment_path hx with
    | refused calls => simp [calls]
    | unanswered calls => simp [calls]
    | illegal _ _ _ calls => simp [calls]
    | done => simp
  · cases capturePayment_path hx with
    | refused calls => simp [calls]
    | unanswered calls => simp [calls]
    | done => simp
  · cases cancelPayment_path hx with
    | refused calls => simp [calls]
    | unanswered calls => simp [calls]
    | done => simp
  · cases createRefund_path hx with
    | refused calls => simp [calls]
    | unanswered calls => simp [calls]
    | rejected calls => simp [calls]
    | done => simp

lemma firstCall_flush_bind {α : Type} {f : Unit → ServiceProg α} {x : Σ β : Type, GatewayOp β} :
    (flush app >>= f).firstCall t = some x ↔
      app.accepts t = true ∧ (f ()).firstCall t = some x := by
  show (Prog.ask app.accepts >>= fun ok => Prog.raiseIf (ok = false) _ >>= f).firstCall t = _ ↔ _
  rw [Prog.firstCall_ask_bind, Prog.firstCall_raiseIf_bind, Bool.not_eq_false]

lemma firstCall_getProvider_bind {α : Type} {ownerId : Uuid} {provider : ProviderName}
    {f : Adapter → ServiceProg α} {x : Σ β : Type, GatewayOp β} :
    (getProvider app ownerId provider >>= f).firstCall t = some x ↔
      ∃ adapter, resolveProvider app ownerId provider t = .ok adapter ∧
        (f adapter).firstCall t = some x := by
  show (Prog.ask (resolveProvider app ownerId provider) >>= fun r =>
    Prog.ofExcept r >>= f).firstCall t = _ ↔ _
  rw [Prog.firstCall_ask_bind, Prog.firstCall_ofExcept_bind]

lemma firstCall_requirePayment_bind {α : Type} {paymentId : Uuid} {f : Payment → ServiceProg α}
    {x : Σ β : Type, GatewayOp β} :
    (requirePayment owner paymentId >>= f).firstCall t = some x ↔
      ∃ payment, t.getForOwner paymentId owner.id = .ok (some payment) ∧
        (f payment).firstCall t = some x := by
  simp only [requirePayment, Prog.bind_assoc, Prog.firstCall_ask_bind,
    Prog.firstCall_ofExcept_bind, Prog.firstCall_orRaise_bind]
  constructor
  · rintro ⟨_, hfound, payment, rfl, hx⟩
    exact ⟨payment, hfound, hx⟩
  · rintro ⟨payment, hfound, hx⟩
    exact ⟨_, hfound, payment, rfl, hx⟩

section Methods

variable {x : Σ β : Type, GatewayOp β}

lemma firstCall_createPayment {args : CreatePaymentArgs} :
    (createPayment app env owner args).firstCall t = some x ↔
      args.amount.isPositive ∧
        app.accepts (t.insertPayment (newPayment env owner args)) = true ∧
        ∃ adapter, resolveProvider app owner.id args.provider
            (t.insertPayment (newPayment env owner args)) = .ok adapter ∧
          ⟨_, args.op adapter⟩ = x := by
  simp only [createPayment, Prog.firstCall_raiseIf_bind, Prog.firstCall_modify_bind,
    firstCall_flush_bind, firstCall_getProvider_bind, Prog.firstCall_perform_bind, not_not,
    Option.some.injEq]

lemma firstCall_capturePayment {paymentId : Uuid} {amount : Option Money} :
    (capturePayment app env owner paymentId amount).firstCall t = some x ↔
      ∃ payment, t.getForOwner paymentId owner.id = .ok (some payment) ∧
        payment.status = .authorized ∧
        (captureAmount payment amount).currency = payment.currency ∧
        (captureAmount payment amount).minorUnits ≤ payment.amount ∧
        ∃ adapter, resolveProvider app owner.id payment.provider t = .ok adapter ∧
          ⟨_, captureOp payment amount adapter⟩ = x := by
  simp only [capturePayment, firstCall_requirePayment_bind, Prog.firstCall_raiseIf_bind,
    firstCall_getProvider_bind, Prog.firstCall_perform_bind, not_not, not_lt, Option.some.injEq]

lemma firstCall_cancelPayment {paymentId : Uuid} :
    (cancelPayment app env owner paymentId).firstCall t = some x ↔
      ∃ payment, t.getForOwner paymentId owner.id = .ok (some payment) ∧
        canTransition payment.status .canceled = true ∧
        ∃ adapter, resolveProvider app owner.id payment.provider t = .ok adapter ∧
          ⟨_, cancelOp payment adapter⟩ = x := by
  simp only [cancelPayment, firstCall_requirePayment_bind, Prog.firstCall_ofExcept_bind,
    assertTransition_ok_iff, firstCall_getProvider_bind, Prog.firstCall_perform_bind,
    Option.some.injEq, exists_const]

lemma firstCall_createRefund {paymentId : Uuid} {amountMinor : Option ℤ}
    {reason : Option String} :
    (createRefund app env owner paymentId amountMinor reason).firstCall t = some x ↔
      ∃ payment, t.getForOwner paymentId owner.id = .ok (some payment) ∧
        payment.status ∈ refundableStates ∧
        (refundAmount payment amountMinor).isPositive ∧
        (refundAmount payment amountMinor).minorUnits ≤ payment.amountRefundable ∧
        ∃ adapter, resolveProvider app owner.id payment.provider t = .ok adapter ∧
          ⟨_, refundOp payment amountMinor reason adapter⟩ = x := by
  simp only [createRefund, firstCall_requirePayment_bind, Prog.firstCall_raiseIf_bind,
    firstCall_getProvider_bind, Prog.firstCall_perform_bind, not_not, not_lt, Option.some.injEq]

end Methods

namespace ServiceCall

/-- The call of the gateway manager that `x` is: it goes to `adapter`, with the client's key
as far as the adapter sends it. -/
def AskedAs (call : ServiceCall) (adapter : Adapter) (x : Σ β : Type, GatewayOp β) : Prop :=
  ∃ (β : Type) (provider : ProviderName) (op : ProviderOp β),
    x = ⟨β, .execute provider adapter op⟩ ∧
      op.sentKey .stripe = if given call.key = true then call.key else none

lemma askedAs_createPayment (args : CreatePaymentArgs) (adapter : Adapter) :
    AskedAs (.createPayment args) adapter ⟨_, args.op adapter⟩ := by
  refine ⟨_, _, _, rfl, ?_⟩
  show _ = if given args.idempotencyKey = true then args.idempotencyKey else none
  simp [ProviderOp.sentKey, CreatePaymentArgs.chargeRequest]

/-- **The provider call of a service**: the checks were passed. -/
lemma exists_of_firstCall {call : ServiceCall} {x : Σ β : Type, GatewayOp β}
    (h : (call.prog app env owner).firstCall t = some x) :
    ∃ adapter, call.Reaches app env owner t adapter ∧ call.AskedAs adapter x := by
  rcases call with args | ⟨paymentId, amount⟩ | paymentId | ⟨paymentId, amountMinor, reason⟩ <;>
    rw [ServiceCall.prog, Prog.firstCall_map] at h
  · obtain ⟨hpos, hflush, adapter, hres, rfl⟩ := firstCall_createPayment.1 h
    exact ⟨adapter, ⟨hpos, hflush, hres⟩, askedAs_createPayment args adapter⟩
  · obtain ⟨payment, hfound, hstatus, hcur, hle, adapter, hres, rfl⟩ := firstCall_capturePayment.1 h
    exact ⟨adapter, ⟨payment, hfound, hstatus, hcur, hle, hres⟩, _, _, _, rfl, rfl⟩
  · obtain ⟨payment, hfound, hstatus, adapter, hres, rfl⟩ := firstCall_cancelPayment.1 h
    exact ⟨adapter, ⟨payment, hfound, hstatus, hres⟩, _, _, _, rfl, rfl⟩
  · obtain ⟨payment, hfound, hstatus, hpos, hle, adapter, hres, rfl⟩ := firstCall_createRefund.1 h
    exact ⟨adapter, ⟨payment, hfound, hstatus, hpos, hle, hres⟩, _, _, _, rfl, rfl⟩

/-- A call that passes its checks calls the provider. -/
lemma firstCall_of_reaches {call : ServiceCall} {adapter : Adapter}
    (h : call.Reaches app env owner t adapter) :
    ∃ x, (call.prog app env owner).firstCall t = some x ∧ call.AskedAs adapter x := by
  rcases call with args | ⟨paymentId, amount⟩ | paymentId | ⟨paymentId, amountMinor, reason⟩ <;>
    rw [ServiceCall.prog, Prog.firstCall_map]
  · obtain ⟨hpos, hflush, hres⟩ := h
    exact ⟨_, firstCall_createPayment.2 ⟨hpos, hflush, adapter, hres, rfl⟩,
      askedAs_createPayment args adapter⟩
  · obtain ⟨payment, hfound, hstatus, hcur, hle, hres⟩ := h
    exact ⟨_, firstCall_capturePayment.2 ⟨payment, hfound, hstatus, hcur, hle, adapter, hres, rfl⟩,
      _, _, _, rfl, rfl⟩
  · obtain ⟨payment, hfound, hstatus, hres⟩ := h
    exact ⟨_, firstCall_cancelPayment.2 ⟨payment, hfound, hstatus, adapter, hres, rfl⟩,
      _, _, _, rfl, rfl⟩
  · obtain ⟨payment, hfound, hstatus, hpos, hle, hres⟩ := h
    exact ⟨_, firstCall_createRefund.2 ⟨payment, hfound, hstatus, hpos, hle, adapter, hres, rfl⟩,
      _, _, _, rfl, rfl⟩

end ServiceCall

end Calls

/-! ## Calls that are carried out once -/

section Once

variable (settings : GatewaySettings) (repr : Json → String) (network : Network)
  (provider : ProviderName) (breakers : Breakers) (keys : List String) {adapter : Adapter}
  {α : Type} {op : ProviderOp α}

/-- A request is carried out at most once. -/
lemma count_handle_le {β : Type} (op : ManagerOp β) (w : Wire) :
    (network.handle β op w).2.effects.count ≤
      w.effects.count + ManagerOp.cost (fun r => if r.client.reaches then 1 else 0) β op := by
  rcases op with (request | kind) | (_ | delay | ⟨low, high⟩)
  · dsimp only [Network.handle, Wire.post, ManagerOp.cost]
    by_cases hreach : request.client.reaches = true
    · simp only [hreach, if_true]
      split
      · exact Effects.count_apply_le _ _
      · exact Nat.le_succ _
    · simp only [hreach, Bool.false_eq_true, if_false, Nat.add_zero, Nat.le_refl]
  all_goals exact Nat.le_refl _

/-- The provider carries out as many operations as requests reach it. -/
lemma count_gateway_le {n : ℕ}
    (hc : ∀ request : HttpRequest,
      StripeProvider.client adapter.context = .ok request.client →
        request.idempotencyKey = op.sentKey .stripe → adapter.name = .stripe →
          (if request.client.reaches then 1 else 0) ≤ n) :
    (gatewayHandler settings repr network _ (.execute provider adapter op)
        ⟨breakers, ServiceCall.quiet keys⟩).2.wire.effects.count ≤
      settings.providerMaxRetries.toNat * n := by
  have hcost := costAtMost_execute hc settings provider repr
  have hcount := hcost.world network.handle (fun w => w.effects.count)
    (fun _ op w => count_handle_le network op w) breakers (ServiceCall.quiet keys)
  rwa [show (ServiceCall.quiet keys).effects.count = 0 from rfl, Nat.zero_add] at hcount

/-- Requests under one key are carried out once. -/
lemma count_gateway_of_key {k : String} (hkey : op.sentKey .stripe = some k) :
    (gatewayHandler settings repr network _ (.execute provider adapter op)
        ⟨breakers, ServiceCall.quiet keys⟩).2.wire.effects.count ≤ 1 := by
  -- requests under the key cost nothing, and all requests of the operation are of that kind
  have hfree : ∀ request : HttpRequest,
      StripeProvider.client adapter.context = .ok request.client →
        request.idempotencyKey = op.sentKey .stripe → adapter.name = .stripe →
          (if request.idempotencyKey = some k then 0 else 1) ≤ 0 := by
    intro request _ hrequest _
    simp [hrequest, hkey]
  have hcost := costAtMost_execute hfree settings provider repr
  have honce : (gatewayHandler settings repr network _ (.execute provider adapter op)
      ⟨breakers, ServiceCall.quiet keys⟩).2.wire.effects.OnceUnder k := by
    refine Prog.CostAtMost.keeps (I := fun w : Wire => w.effects.OnceUnder k)
      (by simpa using hcost) ?_ breakers (Or.inl rfl)
    intro β op w hfree hw
    rcases op with (request | kind) | (_ | delay | ⟨low, high⟩)
    · have hrequest : request.idempotencyKey = some k := by
        by_contra hno
        simp [ManagerOp.cost, hno] at hfree
      dsimp only [Network.handle, Wire.post]
      split
      · dsimp only
        split
        · rw [hrequest]
          exact hw.apply
        · exact hw
      · exact hw
    all_goals exact hw
  rcases honce with hzero | ⟨hone, -⟩ <;> omega

end Once

/-! ## A network that answers nothing -/

/-- Every request is carried out, and none is answered; the clock stands still. -/
def mute (clock : Seconds) : Network where
  applied _ := true
  answer _ := .error .timeoutException
  clock _ := clock
  jitter _ := 0
  reference _ := ""

section Twice

variable (settings : GatewaySettings) (repr : Json → String) (provider : ProviderName)
  {adapter : Adapter} {α : Type} {op : ProviderOp α}

/-- An attempt on the mute network looks failed, and was carried out. -/
lemma exec_guarded_mute (clock : Seconds) (hreach : adapter.reaches = true)
    (hkey : op.sentKey .stripe = none) (breakers : Breakers) (w : Wire) :
    (guarded provider (adapter.operation repr op)).exec (mute clock).handle breakers w =
      (.error (transportError provider), breakers,
        ⟨w.sent + 1, w.ticks, ⟨w.effects.keys, w.effects.count + 1⟩⟩) := by
  rw [exec_guarded, exec_operation _ _ _ hreach, hkey]
  rfl

/-- Two attempts are carried out. -/
lemma count_withRetry_mute (clock : Seconds) (hreach : adapter.reaches = true)
    (hkey : op.sentKey .stripe = none) (hmany : 2 ≤ settings.providerMaxRetries)
    (breakers : Breakers) (w : Wire) :
    w.effects.count + 2 ≤ ((withRetry settings provider (adapter.operation repr op)).exec
      (mute clock).handle breakers w).2.2.effects.count := by
  obtain ⟨n, hn⟩ : ∃ n, settings.providerMaxRetries.toNat = n + 2 :=
    ⟨settings.providerMaxRetries.toNat - 2, by omega⟩
  have hretry : (transportError provider).isProviderUnavailable = true := rfl
  have hmore : ¬ settings.providerMaxRetries ≤ 1 := by omega
  rw [withRetry, retryAsync]
  rw [show (RetryPolicy.ofMaxAttempts settings.providerMaxRetries).maxAttempts.toNat = n + 1 + 1
    from hn, exec_retryLoop_succ, exec_guarded_mute repr provider clock hreach hkey]
  dsimp only
  rw [if_neg (by simp [hretry]), if_neg (by simpa [RetryPolicy.ofMaxAttempts] using hmore),
    RetryPolicy.ceiling_ofMaxAttempts, if_pos (by decide)]
  dsimp only
  rw [exec_retryLoop_succ, exec_guarded_mute repr provider clock hreach hkey]
  dsimp only
  rw [if_neg (by simp [hretry])]
  split
  · exact Nat.le_refl _
  · rw [RetryPolicy.ceiling_ofMaxAttempts, if_pos (by decide)]
    exact count_le_exec (mute clock) breakers
      ⟨w.sent + 2, w.ticks + 4, ⟨w.effects.keys, w.effects.count + 2⟩⟩ _

/-- The clock of the mute network at which the breaker lets a call through. -/
def coolClock (settings : GatewaySettings) (provider : ProviderName) (breakers : Breakers) :
    Seconds :=
  (breakers.get provider).openedAt + settings.circuitBreakerResetSeconds

/-- The breaker lets the call through. -/
lemma entry_coolClock (breakers : Breakers) :
    ∃ b, (breakers.get provider).entry (breakerConfig settings provider)
      (coolClock settings provider breakers) = .ok b := by
  rw [Breaker.entry]
  split
  · rw [if_pos (by simp [Breaker.cooled, breakerConfig, coolClock])]
    exact ⟨_, rfl⟩
  · exact ⟨_, rfl⟩

/-- **Without a key, an operation is carried out twice** on the mute network. -/
lemma two_le_count_mute (hreach : adapter.reaches = true) (hkey : op.sentKey .stripe = none)
    (hmany : 2 ≤ settings.providerMaxRetries) (breakers : Breakers) (w : Wire) :
    w.effects.count + 2 ≤
      (gatewayHandler settings repr (mute (coolClock settings provider breakers)) _
        (.execute provider adapter op) ⟨breakers, w⟩).2.wire.effects.count := by
  have hexec := exec_execute (mute (coolClock settings provider breakers)) breakers w settings
    provider repr adapter op
  obtain ⟨b, hentry⟩ := entry_coolClock settings provider breakers
  have hclock : ∀ n, (mute (coolClock settings provider breakers)).clock n =
      coolClock settings provider breakers := fun _ => rfl
  simp only [hclock, hentry] at hexec
  show _ ≤
    ((execute settings provider (adapter.operation repr op)).exec _ breakers w).2.2.effects.count
  rw [hexec, Wire.tickIf_effects]
  have hcount := count_withRetry_mute settings repr provider
    (coolClock settings provider breakers) hreach hkey hmany (breakers.set provider b)
    (w.tickIf ((breakers.get provider).state = .opened))
  rwa [Wire.tickIf_effects] at hcount

end Twice

/-! ## The main result -/

variable {app : App} (repr : Json → String) {settings : GatewaySettings} {env : Ambient}
  {owner : User} {t : Tables} (breakers : Breakers) (keys : List String) {call : ServiceCall}

/-- What is carried out for a call is what is carried out for its provider call. -/
lemma ServiceCall.carriedOut_eq (network : Network) :
    call.carriedOut app repr settings network env owner t breakers keys =
      match (call.prog app env owner).firstCall t with
      | none => 0
      | some ⟨β, op⟩ => (gatewayHandler settings repr network β op
          ⟨breakers, quiet keys⟩).2.wire.effects.count := by
  have honce : ∀ H r, (call.prog app env owner).Path [] H r → H.calls.length ≤ 1 :=
    fun _ _ h => calls_le_one h
  have hworld := Prog.world_run_of_once (gatewayHandler settings repr network) honce t
    ⟨breakers, quiet keys⟩
  simp only [view_nil] at hworld
  rw [carriedOut, Prog.atomically_world, hworld]
  rcases (call.prog app env owner).firstCall t with _ | ⟨β, op⟩ <;> rfl

/-- A call that is safe is carried out once at most. -/
lemma ServiceCall.RetrySafe.carriedOut_le (hsafe : call.RetrySafe app settings env owner t)
    (network : Network) :
    call.carriedOut app repr settings network env owner t breakers keys ≤ 1 := by
  rw [carriedOut_eq]
  rcases hcall : (call.prog app env owner).firstCall t with _ | x
  · exact Nat.zero_le 1
  obtain ⟨adapter, hreaches, β, provider, op, rfl, hkey⟩ := exists_of_firstCall hcall
  dsimp only
  rcases hsafe with hfew | hgiven | hnobody
  · refine Nat.le_trans (count_gateway_le settings repr network provider breakers keys
      (n := 1) fun request _ _ _ => ?_) (by omega)
    split <;> decide
  · rw [if_pos hgiven] at hkey
    rcases hk : call.key with _ | k
    · simp [hk, given] at hgiven
    · exact count_gateway_of_key settings repr network provider breakers keys (hkey.trans hk)
  · have hquiet : adapter.reaches = false := hnobody adapter hreaches
    refine Nat.le_trans (count_gateway_le settings repr network provider breakers keys
      (n := 0) fun request hclient _ hname => ?_) (Nat.zero_le 1)
    simp only [Adapter.reaches, hname, hclient, Except.toOption, Option.any_some] at hquiet
    simp [hquiet]

/-- A call that is not safe is carried out twice on the mute network. -/
lemma ServiceCall.two_le_carriedOut (hrisky : ¬ call.RetrySafe app settings env owner t) :
    ∃ network, 2 ≤ call.carriedOut app repr settings network env owner t breakers keys := by
  simp only [RetrySafe, not_or, not_le, not_forall, Bool.not_eq_false] at hrisky
  obtain ⟨hmany, hgiven, adapter, hreaches, hreach⟩ := hrisky
  obtain ⟨x, hcall, β, provider, op, rfl, hkey⟩ := firstCall_of_reaches hreaches
  rw [if_neg hgiven] at hkey
  refine ⟨mute (coolClock settings provider breakers), ?_⟩
  rw [carriedOut_eq, hcall]
  have htwo := two_le_count_mute settings repr provider hreach hkey (by omega) breakers (quiet keys)
  exact Nat.le_trans (Nat.le_add_left 2 _) htwo

/-- **When a money movement is made once.**  A service call is carried out once at most on
every network, whatever the breakers and the keys that the provider has seen, exactly if it is
attempted once, or the client's key goes with it, or its adapter reaches nobody. -/
theorem movesOnce_iff (app : App) (repr : Json → String) (settings : GatewaySettings)
    (env : Ambient) (owner : User) (t : Tables) (breakers : Breakers) (keys : List String)
    (call : ServiceCall) :
    (∀ network, call.carriedOut app repr settings network env owner t breakers keys ≤ 1) ↔
      call.RetrySafe app settings env owner t := by
  constructor
  · intro honce
    by_contra hrisky
    obtain ⟨network, htwice⟩ := ServiceCall.two_le_carriedOut repr breakers keys hrisky
    exact absurd (honce network) (by omega)
  · exact fun hsafe network => hsafe.carriedOut_le repr breakers keys network

/-! ## A refund that is made twice -/

/-- A captured payment of Stripe, and the settings of its owner. -/
def stripePaymentTables : Tables :=
  { stripeTables with
    payments := [{ demoPayment with provider := .stripe, providerReference := some "pi_1" }] }

/-- The first request is carried out, but its answer is lost; all later ones are answered. -/
def lossy : Network where
  applied _ := true
  answer n :=
    if n = 0 then .error .timeoutException
    else .ok ⟨200, some (.obj [("id", "re_1"), ("status", "succeeded"), ("amount", .int 1000)])⟩
  clock _ := 0
  jitter _ := 0
  reference _ := ""

theorem movesOnce_lossy :
    ¬ ∀ network, (ServiceCall.createRefund (.ofNat 16) none none).carriedOut demoApp (fun _ => "")
      defaultGatewaySettings network (demoEnv 2) demoUser stripePaymentTables (fun _ => none) []
        ≤ 1 := by
  intro honce
  exact absurd (honce lossy) (by decide +kernel)

end PaymentGateway
