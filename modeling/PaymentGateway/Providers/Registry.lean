/-
# The registry of adapters

`app/providers/registry.py`: a class is registered under a name when its module is imported,
and `build_provider` looks the class up.  Importing `app.providers` registers the mock provider
and then the Stripe adapter, so building an adapter is what `Adapter.program` does
(`program_of_buildProvider`).
-/
import PaymentGateway.Services.GatewayManager

namespace PaymentGateway

/-- A subclass of `BasePaymentProvider`, as far as the services call it. -/
structure ProviderClass : Type 1 where
  program : (Json → String) → ProviderContext → (β : Type) → ProviderOp β → AdapterProg β

/-- `_REGISTRY`: the classes by name, in the order of their registration. -/
abbrev Registry := List (ProviderName × ProviderClass)

/-- `repr(name)` -/
def ProviderName.repr : ProviderName → String
  | mock => "<ProviderName.MOCK: 'mock'>"
  | stripe => "<ProviderName.STRIPE: 'stripe'>"

namespace Registry

variable (registry : Registry)

/-- `available_providers`: the names that a class was registered under. -/
def availableProviders : List ProviderName := registry.map Prod.fst

/-- `is_registered` -/
def isRegistered (name : ProviderName) : Bool := registry.availableProviders.contains name

/-- `register_provider(name)`, applied to a class; a second class under one name raises. -/
def registerProvider (name : ProviderName) (cls : ProviderClass) : Except Exn Registry :=
  if registry.isRegistered name then .error (.python (.other "RuntimeError"))
  else .ok (registry ++ [(name, cls)])

/-- The class that `build_provider` instantiates, or its error for a name that nobody registered.
-/
def buildProvider (name : ProviderName) : Except Exn ProviderClass :=
  match registry.find? fun entry => entry.1 = name with
  | some entry => .ok entry.2
  | none => .error (.of .providerError ("no adapter registered for provider " ++ name.repr)
      [("available", .arr (registry.availableProviders.map fun p => .str p.value))])

end Registry

/-- The class of the mock provider. -/
def MockProvider.cls : ProviderClass := ⟨fun _ _ _ op => MockProvider.program op⟩

/-- The class of the Stripe adapter. -/
def StripeProvider.cls : ProviderClass :=
  ⟨fun repr context _ op => StripeProvider.program repr context op⟩

/-- The registry after `app.providers` was imported: the two adapters, each under its own name.
-/
def builtinRegistry : Registry := [(.mock, MockProvider.cls), (.stripe, StripeProvider.cls)]

/-- The two modules register their classes one after the other. -/
lemma builtinRegistry_eq : (Registry.registerProvider [] .mock MockProvider.cls >>=
    fun registry => registry.registerProvider .stripe StripeProvider.cls) =
      .ok builtinRegistry := rfl

/-- An adapter runs the program of the class that is registered under its name. -/
lemma program_of_buildProvider (adapter : Adapter) {cls : ProviderClass}
    (h : builtinRegistry.buildProvider adapter.name = .ok cls) (repr : Json → String) {β : Type}
    (op : ProviderOp β) : adapter.program repr op = cls.program repr adapter.context β op := by
  obtain ⟨name, context⟩ := adapter
  cases name with
  | mock =>
    cases h
    rfl
  | stripe =>
    cases h
    rfl

end PaymentGateway
