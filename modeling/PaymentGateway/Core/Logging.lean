/-
# Log redaction

`app/core/logging.py`.  `_redact_sensitive` replaces what stands under a sensitive key of the
event itself.  It does not look into the values: of two events that are equal except for what
they hold under sensitive keys, at any depth, it makes the same event exactly if no sensitive
key stands inside a value that it passes on (`redact_iff`).

`str.lower` is a function that nothing is assumed about.
-/
import Mathlib.Data.List.Forall2

namespace PaymentGateway

/-- A value that is logged: a string, a dictionary, a list, or anything else. -/
inductive LogValue (β : Type) where
  | str (s : String)
  | other (b : β)
  | list (items : List (LogValue β))
  | dict (fields : List (String × LogValue β))

/-- The items of an event that is logged, in the order of their insertion. -/
abbrev EventDict (β : Type) := List (String × LogValue β)

/-- `_SENSITIVE_KEYS`: the names under which secrets are expected, all in lower case. -/
def sensitiveKeys : List String :=
  ["password", "secret", "token", "access_token", "refresh_token", "authorization", "api_key",
    "apikey", "card_number", "cvv", "cvc", "pan", "client_secret", "secret_encryption_key",
    "jwt_secret_key"]

/-- `_REDACTED`: what stands in the place of a value that is not to be logged. -/
def redacted {β : Type} : LogValue β := .str "***redacted***"

section Model

variable {β : Type} (lower : String → String)

/-- The key is redacted: in lower case it is one of the list.  The comparison is with whole keys.
-/
def Sensitive (key : String) : Prop := lower key ∈ sensitiveKeys

instance (key : String) : Decidable (Sensitive lower key) :=
  inferInstanceAs (Decidable (_ ∈ _))

/-- `event_dict[key] = value`, for a key that is there: it keeps its place. -/
def EventDict.setItem (event : EventDict β) (key : String) (value : LogValue β) : EventDict β :=
  event.map fun f => if f.1 = key then (f.1, value) else f

/-- `_redact_sensitive`: the loop over the keys of the event, which replaces the values of the
sensitive ones.  Values that are dicts themselves are not looked into. -/
def redactSensitive (event : EventDict β) : EventDict β :=
  (event.map Prod.fst).foldl
    (fun event key => if Sensitive lower key then event.setItem key redacted else event) event

/-! ## What the log should not tell -/

mutual

/-- The values are equal except for what they hold under sensitive keys. -/
inductive Agree : LogValue β → LogValue β → Prop
  | str (s : String) : Agree (.str s) (.str s)
  | other (b : β) : Agree (.other b) (.other b)
  | list {vs ws : List (LogValue β)} (h : AgreeItems vs ws) : Agree (.list vs) (.list ws)
  | dict {fs gs : EventDict β} (h : AgreeFields fs gs) : Agree (.dict fs) (.dict gs)

/-- Two lists of the same length, whose elements agree one by one. -/
inductive AgreeItems : List (LogValue β) → List (LogValue β) → Prop
  | nil : AgreeItems [] []
  | cons {v w : LogValue β} {vs ws : List (LogValue β)} (h : Agree v w)
      (hrest : AgreeItems vs ws) : AgreeItems (v :: vs) (w :: ws)

/-- Two dicts with the same keys in the same order; what stands under a sensitive key is not
compared. -/
inductive AgreeFields : EventDict β → EventDict β → Prop
  | nil : AgreeFields [] []
  | cons {key : String} {v w : LogValue β} {fs gs : EventDict β}
      (h : ¬ Sensitive lower key → Agree v w) (hrest : AgreeFields fs gs) :
      AgreeFields ((key, v) :: fs) ((key, w) :: gs)

end

mutual

/-- No sensitive key stands anywhere in the value, neither at its top nor in what it contains. -/
def Clean : LogValue β → Prop
  | .str _ => True
  | .other _ => True
  | .list vs => CleanItems vs
  | .dict fs => CleanFields fs

/-- No element of the list holds a sensitive key. -/
def CleanItems : List (LogValue β) → Prop
  | [] => True
  | v :: vs => Clean v ∧ CleanItems vs

/-- The dict has no sensitive key, and neither has anything that it holds. -/
def CleanFields : List (String × LogValue β) → Prop
  | [] => True
  | (key, v) :: fs => ¬ Sensitive lower key ∧ Clean v ∧ CleanFields fs

end

/-- What the event passes on holds no sensitive key: they all stand at the top, or under one that
stands there. -/
def Shallow (event : EventDict β) : Prop :=
  ∀ f ∈ event, ¬ Sensitive lower f.1 → Clean lower f.2

end Model

/-! ## The loop -/

section Loop

variable {β : Type} {lower : String → String}

lemma foldl_setItem (keys : List String) (event : EventDict β) :
    keys.foldl
        (fun event key => if Sensitive lower key then event.setItem key redacted else event) event =
      event.map fun f => if f.1 ∈ keys ∧ Sensitive lower f.1 then (f.1, redacted) else f := by
  induction keys generalizing event with
  | nil => simp
  | cons key keys ih =>
    rw [List.foldl_cons, ih]
    by_cases hkey : Sensitive lower key
    · rw [if_pos hkey, EventDict.setItem, List.map_map]
      refine List.map_congr_left fun f _ => ?_
      by_cases hf : f.1 = key
      · simp [hf, hkey]
      · simp [hf]
    · rw [if_neg hkey]
      refine List.map_congr_left fun f _ => ?_
      by_cases hf : f.1 = key
      · simp [hf, hkey]
      · simp [hf]

/-- The loop over the keys, as one pass over the items. -/
lemma redactSensitive_eq_map (event : EventDict β) :
    redactSensitive lower event =
      event.map fun f => if Sensitive lower f.1 then (f.1, redacted) else f := by
  rw [redactSensitive, foldl_setItem]
  refine List.map_congr_left fun f hf => ?_
  have hmem : f.1 ∈ event.map Prod.fst := List.mem_map_of_mem hf
  simp only [hmem, true_and]

/-- Every value that is not redacted is passed on as it is. -/
lemma redactSensitive_unchanged (event : EventDict β) :
    List.Forall₂ (fun f g => g.1 = f.1 ∧ (¬ Sensitive lower f.1 → g.2 = f.2)) event
      (redactSensitive lower event) := by
  rw [redactSensitive_eq_map, List.forall₂_map_right_iff, List.forall₂_same]
  intro f _
  by_cases hf : Sensitive lower f.1
  · rw [if_pos hf]
    exact ⟨rfl, fun hno => absurd hf hno⟩
  · rw [if_neg hf]
    exact ⟨rfl, fun _ => rfl⟩

end Loop

/-! ## Values without sensitive keys -/

section Values

variable {β : Type} {lower : String → String}

mutual

/-- Only one value agrees with a clean one. -/
lemma eq_of_agree : ∀ {v w : LogValue β}, Agree lower v w → Clean lower v → v = w
  | _, _, .str _, _ => rfl
  | _, _, .other _, _ => rfl
  | _, _, .list h, hclean => congrArg LogValue.list (eq_of_agreeItems h hclean)
  | _, _, .dict h, hclean => congrArg LogValue.dict (eq_of_agreeFields h hclean)

lemma eq_of_agreeItems : ∀ {vs ws : List (LogValue β)}, AgreeItems lower vs ws →
    CleanItems lower vs → vs = ws
  | _, _, .nil, _ => rfl
  | _, _, .cons h hrest, hclean => by
    rw [eq_of_agree h hclean.1, eq_of_agreeItems hrest hclean.2]

lemma eq_of_agreeFields : ∀ {fs gs : EventDict β}, AgreeFields lower fs gs →
    CleanFields lower fs → fs = gs
  | _, _, .nil, _ => rfl
  | _, _, .cons h hrest, hclean => by
    rw [eq_of_agree (h hclean.1) hclean.2.1, eq_of_agreeFields hrest hclean.2.2]

end

/-- Events that agree are redacted to the same one, if what they pass on is clean. -/
lemma redactSensitive_eq_of_agree : ∀ {event event' : EventDict β},
    AgreeFields lower event event' → Shallow lower event →
      redactSensitive lower event = redactSensitive lower event'
  | _, _, .nil, _ => rfl
  | _, _, @AgreeFields.cons _ _ key v w fs gs h hrest, hshallow => by
    have hfs : Shallow lower fs := fun f hf => hshallow f (List.mem_cons_of_mem _ hf)
    have ih := redactSensitive_eq_of_agree hrest hfs
    rw [redactSensitive_eq_map, redactSensitive_eq_map] at ih ⊢
    rw [List.map_cons, List.map_cons, ih]
    by_cases hkey : Sensitive lower key
    · rw [if_pos hkey, if_pos hkey]
    · rw [eq_of_agree (h hkey) (hshallow (key, v) List.mem_cons_self hkey)]

/-! ## Values with sensitive keys -/

section Fill

variable (lower) (secret : LogValue β)

mutual

/-- The value with the same secret under each sensitive key. -/
def LogValue.fill : LogValue β → LogValue β
  | .str s => .str s
  | .other b => .other b
  | .list vs => .list (fillItems vs)
  | .dict fs => .dict (fillFields fs)

/-- The list with `secret` in the place of everything that is kept under a sensitive key, at any
depth. -/
def LogValue.fillItems : List (LogValue β) → List (LogValue β)
  | [] => []
  | v :: vs => fill v :: fillItems vs

/-- The dict with `secret` in the place of everything that is kept under a sensitive key, at any
depth. -/
def LogValue.fillFields : List (String × LogValue β) → List (String × LogValue β)
  | [] => []
  | (key, v) :: fs => (key, if Sensitive lower key then secret else fill v) :: fillFields fs

end

end Fill

mutual

lemma agree_fill (secret : LogValue β) :
    ∀ v : LogValue β, Agree lower v (LogValue.fill lower secret v)
  | .str s => .str s
  | .other b => .other b
  | .list vs => .list (agree_fillItems secret vs)
  | .dict fs => .dict (agree_fillFields secret fs)

lemma agree_fillItems (secret : LogValue β) : ∀ vs : List (LogValue β),
    AgreeItems lower vs (LogValue.fillItems lower secret vs)
  | [] => .nil
  | v :: vs => .cons (agree_fill secret v) (agree_fillItems secret vs)

lemma agree_fillFields (secret : LogValue β) : ∀ fs : EventDict β,
    AgreeFields lower fs (LogValue.fillFields lower secret fs)
  | [] => .nil
  | (key, v) :: fs => by
    refine .cons (fun hkey => ?_) (agree_fillFields secret fs)
    rw [if_neg hkey]
    exact agree_fill secret v

end

mutual

/-- A value with a sensitive key tells the secrets under it apart. -/
lemma eq_of_fill_eq {x y : LogValue β} : ∀ v : LogValue β, ¬ Clean lower v →
    LogValue.fill lower x v = LogValue.fill lower y v → x = y
  | .str _, hclean, _ => absurd trivial hclean
  | .other _, hclean, _ => absurd trivial hclean
  | .list vs, hclean, h => eq_of_fillItems_eq vs hclean (LogValue.list.inj h)
  | .dict fs, hclean, h => eq_of_fillFields_eq fs hclean (LogValue.dict.inj h)

lemma eq_of_fillItems_eq {x y : LogValue β} : ∀ vs : List (LogValue β), ¬ CleanItems lower vs →
    LogValue.fillItems lower x vs = LogValue.fillItems lower y vs → x = y
  | [], hclean, _ => absurd trivial hclean
  | v :: vs, hclean, h => by
    obtain ⟨hv, hvs⟩ := List.cons.inj h
    by_cases hc : Clean lower v
    · exact eq_of_fillItems_eq vs (fun hrest => hclean ⟨hc, hrest⟩) hvs
    · exact eq_of_fill_eq v hc hv

lemma eq_of_fillFields_eq {x y : LogValue β} : ∀ fs : EventDict β, ¬ CleanFields lower fs →
    LogValue.fillFields lower x fs = LogValue.fillFields lower y fs → x = y
  | [], hclean, _ => absurd trivial hclean
  | (key, v) :: fs, hclean, h => by
    obtain ⟨hf, hfs⟩ := List.cons.inj h
    have hv := (Prod.mk.inj hf).2
    by_cases hkey : Sensitive lower key
    · rwa [if_pos hkey, if_pos hkey] at hv
    · rw [if_neg hkey, if_neg hkey] at hv
      by_cases hc : Clean lower v
      · exact eq_of_fillFields_eq fs (fun hrest => hclean ⟨hkey, hc, hrest⟩) hfs
      · exact eq_of_fill_eq v hc hv

end

lemma LogValue.fillFields_eq_map (secret : LogValue β) (fs : EventDict β) :
    fillFields lower secret fs =
      fs.map fun f => (f.1, if Sensitive lower f.1 then secret else fill lower secret f.2) := by
  induction fs with
  | nil => rfl
  | cons f fs ih =>
    rw [fillFields, ih]
    rfl

end Values

/-- **Log redaction.**  Whatever the event holds under sensitive keys leaves no trace in what is
passed on, and the rest is passed on unchanged, exactly if no sensitive key stands inside a
value under a key that is not. -/
theorem redact_iff {β : Type} (lower : String → String) (event : EventDict β) :
    ((∀ event', AgreeFields lower event event' →
        redactSensitive lower event = redactSensitive lower event') ∧
      List.Forall₂ (fun f g => g.1 = f.1 ∧ (¬ Sensitive lower f.1 → g.2 = f.2)) event
        (redactSensitive lower event)) ↔ Shallow lower event := by
  refine ⟨fun ⟨hsame, _⟩ => ?_, fun hshallow =>
    ⟨fun event' hagree => redactSensitive_eq_of_agree hagree hshallow,
      redactSensitive_unchanged event⟩⟩
  intro f hf hkey
  by_contra hclean
  -- two secrets under the sensitive keys of one value
  have hfill := (hsame _ (agree_fillFields (.str "") event)).symm.trans
    (hsame _ (agree_fillFields (.str "4242") event))
  rw [LogValue.fillFields_eq_map, LogValue.fillFields_eq_map, redactSensitive_eq_map,
    redactSensitive_eq_map, List.map_map, List.map_map] at hfill
  have hvalue := List.map_inj_left.1 hfill f hf
  simp only [Function.comp_apply, if_neg hkey, Prod.mk.injEq, true_and] at hvalue
  exact absurd (LogValue.str.inj (eq_of_fill_eq f.2 hclean hvalue)) (by decide)

/-- A logged payload that holds a password. -/
def demoLogged (password : String) : EventDict Unit :=
  [("event", .str "charge"), ("payload", .dict [("password", .str password)])]

/-- The password reaches the log. -/
theorem redact_tells_payload :
    AgreeFields String.toLower (demoLogged "hunter2") (demoLogged "letmein") ∧
      redactSensitive String.toLower (demoLogged "hunter2") ≠
        redactSensitive String.toLower (demoLogged "letmein") := by
  have hpassword : Sensitive String.toLower "password" := by decide +kernel
  have hevent : ¬ Sensitive String.toLower "event" := by decide +kernel
  have hpayload : ¬ Sensitive String.toLower "payload" := by decide +kernel
  refine ⟨.cons (fun _ => .str _) (.cons (fun _ => .dict (.cons (fun hno => absurd hpassword hno)
    .nil)) .nil), fun h => ?_⟩
  simp [redactSensitive_eq_map, demoLogged, hevent, hpayload] at h

end PaymentGateway
