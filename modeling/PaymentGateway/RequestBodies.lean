/-
# Equal request bodies

`_hash_body` hashes the bytes of a canonical text of the body.  Two bodies without floats have
the same bytes exactly if they are equal as JSON values, the order of keys ignored at every
level (`canonBytes_eq_iff`), and so a lookup takes a request for the one that was stored
exactly if their bodies are equal (`request_bodies_exact`).

That equality is a relation of its own here (`Json.Same`), which knows of no text and no order
of keys.
-/
import PaymentGateway.Idempotency
import PaymentGateway.Security.SignedHeaders

namespace PaymentGateway

open Transact

namespace Json

mutual

/-- The values are equal up to the order of keys, at every level; values of different types are
never equal. -/
inductive Same : Json → Json → Prop
  | null : Same .null .null
  | bool (b : Bool) : Same (.bool b) (.bool b)
  | int (n : ℤ) : Same (.int n) (.int n)
  | float (x : PyFloat) : Same (.float x) (.float x)
  | str (s : String) : Same (.str s) (.str s)
  | arr {xs ys : List Json} (h : SameItems xs ys) : Same (.arr xs) (.arr ys)
  | obj {fs gs gs' : List (String × Json)} (hperm : gs'.Perm gs) (h : SameFields fs gs') :
      Same (.obj fs) (.obj gs)

/-- The elements are equal one by one, in the same order: lists have no keys. -/
inductive SameItems : List Json → List Json → Prop
  | nil : SameItems [] []
  | cons {x y : Json} {xs ys : List Json} (h : Same x y) (hrest : SameItems xs ys) :
      SameItems (x :: xs) (y :: ys)

/-- The items have the same keys and equal values, in the same order. -/
inductive SameFields : List (String × Json) → List (String × Json) → Prop
  | nil : SameFields [] []
  | cons {key : String} {x y : Json} {fs gs : List (String × Json)} (h : Same x y)
      (hrest : SameFields fs gs) : SameFields ((key, x) :: fs) ((key, y) :: gs)

end

mutual

/-- The value holds no float, and the keys of every object in it are distinct. -/
def Plain : Json → Prop
  | .null => True
  | .bool _ => True
  | .int _ => True
  | .float _ => False
  | .str _ => True
  | .arr xs => PlainItems xs
  | .obj fs => (fs.map Prod.fst).Nodup ∧ PlainFields fs

/-- Every element of the list is plain. -/
def PlainItems : List Json → Prop
  | [] => True
  | x :: xs => Plain x ∧ PlainItems xs

/-- Every value of the object is plain. -/
def PlainFields : List (String × Json) → Prop
  | [] => True
  | (_, x) :: fs => Plain x ∧ PlainFields fs

end

/-- The bytes that `_hash_body` feeds to SHA-256:
`json.dumps(body, separators=(",", ":"), sort_keys=True).encode("utf-8")`. -/
def canonBytes (j : Json) : Bytes := utf8 j.canonText

/-! ## Sorted fields -/

lemma canonFields_eq_map (fs : List (String × Json)) :
    canonFields fs = fs.map fun f => (f.1, f.2.canon) := by
  induction fs with
  | nil => rfl
  | cons f fs ih =>
    rw [canonFields, ih]
    rfl

/-- A list that is a reordered image is the image of a reordered list. -/
lemma exists_perm_of_map {A B : Type*} {f : A → B} {l : List B} {gs : List A}
    (h : l.Perm (gs.map f)) : ∃ gs' : List A, gs'.Perm gs ∧ gs'.map f = l := by
  induction l generalizing gs with
  | nil =>
    obtain rfl : gs = [] := List.map_eq_nil_iff.1 h.nil_eq.symm
    exact ⟨[], .refl _, rfl⟩
  | cons b l ih =>
    obtain ⟨a, ha, rfl⟩ := List.mem_map.1 (h.mem_iff.1 List.mem_cons_self)
    obtain ⟨front, back, rfl⟩ := List.append_of_mem ha
    have hmid : (front ++ a :: back).Perm (a :: (front ++ back)) := List.perm_middle
    obtain ⟨gs', hperm, hmap⟩ := ih ((h.trans (hmid.map f)).cons_inv)
    exact ⟨a :: gs', (hperm.cons a).trans hmid.symm, by rw [List.map_cons, hmap]⟩

/-- Sorting by distinct keys forgets the order. -/
lemma sort_eq_of_perm {fs gs : List (String × Json)} (h : fs.Perm gs)
    (hkeys : (fs.map Prod.fst).Nodup) :
    (fs.insertionSort fun f g => f.1 ≤ g.1) = gs.insertionSort fun f g => f.1 ≤ g.1 := by
  have : Std.Total fun f g : String × Json => f.1 ≤ g.1 := ⟨fun f g => le_total f.1 g.1⟩
  have : IsTrans (String × Json) fun f g => f.1 ≤ g.1 := ⟨fun f g k hfg hgk => hfg.trans hgk⟩
  refine List.Perm.eq_of_pairwise ?_ (List.pairwise_insertionSort _ fs)
    (List.pairwise_insertionSort _ gs)
    ((List.perm_insertionSort _ fs).trans (h.trans (List.perm_insertionSort _ gs).symm))
  intro f g hf hg hfg hgf
  exact List.inj_on_of_nodup_map hkeys ((List.perm_insertionSort _ fs).mem_iff.1 hf)
    (h.mem_iff.2 ((List.perm_insertionSort _ gs).mem_iff.1 hg)) (le_antisymm hfg hgf)

lemma perm_of_sort_eq {fs gs : List (String × Json)}
    (h : (fs.insertionSort fun f g => f.1 ≤ g.1) = gs.insertionSort fun f g => f.1 ≤ g.1) :
    fs.Perm gs :=
  (List.perm_insertionSort _ fs).symm.trans (h ▸ List.perm_insertionSort _ gs)

/-! ## Canonical forms -/

mutual

lemma same_of_canon : ∀ a b : Json, a.canon = b.canon → Same a b
  | .null, b, h => by
    cases b <;> first | exact .null | simp [canon] at h
  | .bool p, b, h => by
    cases b <;> simp [canon] at h
    subst h
    exact .bool p
  | .int m, b, h => by
    cases b <;> simp [canon] at h
    subst h
    exact .int m
  | .float x, b, h => by
    cases b <;> simp [canon] at h
    subst h
    exact .float x
  | .str s, b, h => by
    cases b <;> simp [canon] at h
    subst h
    exact .str s
  | .arr xs, b, h => by
    cases b with
    | arr ys =>
      rw [canon, canon] at h
      exact .arr (sameItems_of_canon xs ys (Json.arr.inj h))
    | _ => simp [canon] at h
  | .obj fs, b, h => by
    cases b with
    | obj gs =>
      rw [canon, canon] at h
      have hperm := perm_of_sort_eq (Json.obj.inj h)
      rw [canonFields_eq_map gs] at hperm
      obtain ⟨gs', hperm', hmap⟩ := exists_perm_of_map hperm
      rw [← canonFields_eq_map] at hmap
      exact .obj hperm' (sameFields_of_canon fs gs' hmap.symm)
    | _ => simp [canon] at h

lemma sameItems_of_canon : ∀ xs ys : List Json, canonList xs = canonList ys → SameItems xs ys
  | [], [], _ => .nil
  | [], _ :: _, h => nomatch h
  | _ :: _, [], h => nomatch h
  | x :: xs, y :: ys, h => by
    obtain ⟨hx, hxs⟩ := List.cons.inj h
    exact .cons (same_of_canon x y hx) (sameItems_of_canon xs ys hxs)

lemma sameFields_of_canon : ∀ fs gs : List (String × Json), canonFields fs = canonFields gs →
    SameFields fs gs
  | [], [], _ => .nil
  | [], (_, _) :: _, h => nomatch h
  | (_, _) :: _, [], h => nomatch h
  | (k, x) :: fs, (l, y) :: gs, h => by
    obtain ⟨hfield, hfs⟩ := List.cons.inj h
    obtain ⟨rfl, hx⟩ := Prod.mk.inj hfield
    exact .cons (same_of_canon x y hx) (sameFields_of_canon fs gs hfs)

end

mutual

lemma canon_of_same : ∀ {a b : Json}, Same a b → Plain a → a.canon = b.canon
  | _, _, .null, _ => rfl
  | _, _, .bool _, _ => rfl
  | _, _, .int _, _ => rfl
  | _, _, .float _, _ => rfl
  | _, _, .str _, _ => rfl
  | _, _, .arr h, hplain => congrArg Json.arr (canonList_of_same h hplain)
  | _, _, @Same.obj fs gs gs' hperm h, hplain => by
    have hfields := canonFields_of_same h hplain.2
    have hkeys : ((canonFields gs').map Prod.fst).Nodup := by
      rw [← hfields, canonFields_eq_map, List.map_map]
      exact hplain.1
    have hreordered : (canonFields gs').Perm (canonFields gs) := by
      rw [canonFields_eq_map, canonFields_eq_map]
      exact hperm.map _
    rw [canon, canon, hfields, sort_eq_of_perm hreordered hkeys]

lemma canonList_of_same : ∀ {xs ys : List Json}, SameItems xs ys → PlainItems xs →
    canonList xs = canonList ys
  | _, _, .nil, _ => rfl
  | _, _, .cons h hrest, hplain => by
    rw [canonList, canonList, canon_of_same h hplain.1, canonList_of_same hrest hplain.2]

lemma canonFields_of_same : ∀ {fs gs : List (String × Json)}, SameFields fs gs →
    PlainFields fs → canonFields fs = canonFields gs
  | _, _, .nil, _ => rfl
  | _, _, .cons h hrest, hplain => by
    rw [canonFields, canonFields, canon_of_same h hplain.1, canonFields_of_same hrest hplain.2]

end

/-- **The canonical bytes** of a value without floats tell it up to the order of keys. -/
lemma canonBytes_eq_iff {a b : Json} (ha : Plain a) :
    a.canonBytes = b.canonBytes ↔ Same a b :=
  ⟨fun h => same_of_canon a b (canonText_eq_iff.1 (Signatures.utf8_injective h)), fun h =>
    congrArg utf8 (canonText_eq_iff.2 (canon_of_same h ha))⟩

end Json

section Lookup

variable {app : App} {W : Type} {handle : Handler GatewayOp Exn W} {t : Tables} {w : W}
  {ownerId : Uuid} {endpoint key : String} {row : IdempotencyKey}

/-- A lookup compares the hashes. -/
lemma run_lookup_of_some (body : List (String × Json))
    (hrow : t.getIdempotencyKey ownerId endpoint key = .ok (some row)) :
    (lookup app ownerId endpoint key body).run handle t w =
      if row.requestHash ≠ hashBody app body then ⟨.error (conflict key), t, w, []⟩
      else ⟨.ok (some ⟨row.responseStatus, row.responseBody⟩), t, w, []⟩ := by
  simp only [lookup, Prog.run_ask_bind, hrow, Prog.ofExcept_ok, Prog.ret_bind,
    Prog.run_raiseIf_bind, Prog.pure_def, Prog.run_ret]

end Lookup

/-- **Request canonicalisation is exact.**  The bytes that are hashed are equal exactly if the
bodies are, up to the order of keys; and a lookup takes a request for the stored one exactly
if their bodies are. -/
theorem request_bodies_exact {app : App} (hsha : Function.Injective app.sha256)
    (hdumps : ∀ j : Json, j.Plain → app.dumps j = j.canonText) :
    (∀ a b : Json, a.Plain → b.Plain → (a.canonBytes = b.canonBytes ↔ a.Same b)) ∧
      ∀ (W : Type) (handle : Handler GatewayOp Exn W) (t : Tables) (w : W) (ownerId : Uuid)
        (endpoint key : String) (row : IdempotencyKey) (stored body : List (String × Json)),
        (Json.obj stored).Plain → (Json.obj body).Plain →
        t.getIdempotencyKey ownerId endpoint key = .ok (some row) →
        row.requestHash = hashBody app stored →
        ((Json.obj stored).Same (.obj body) →
          (lookup app ownerId endpoint key body).run handle t w =
            ⟨.ok (some ⟨row.responseStatus, row.responseBody⟩), t, w, []⟩) ∧
        (¬ (Json.obj stored).Same (.obj body) →
          (lookup app ownerId endpoint key body).run handle t w =
            ⟨.error (conflict key), t, w, []⟩) := by
  refine ⟨fun a b ha _ => Json.canonBytes_eq_iff ha, ?_⟩
  intro W handle t w ownerId endpoint key row stored body hstored hbody hrow hhash
  have hsame : hashBody app stored = hashBody app body ↔ (Json.obj stored).Same (.obj body) := by
    rw [hashBody, hashBody, hsha.eq_iff, hdumps _ hstored, hdumps _ hbody,
      ← Json.canonBytes_eq_iff hstored]
    exact ⟨congrArg utf8, Signatures.utf8_injective⟩
  rw [run_lookup_of_some body hrow, hhash, ← hsame]
  exact ⟨fun heq => if_neg (not_not.2 heq), fun hne => if_pos hne⟩

/-- The body of a refund of five units. -/
def demoBody : List (String × Json) :=
  [("payment_id", .str (Uuid.ofNat 1).str), ("amount_minor", .int 5), ("reason", .str "café")]

/-- The same body with its keys in another order. -/
def demoSpelling : List (String × Json) :=
  [("reason", .str "café"), ("payment_id", .str (Uuid.ofNat 1).str), ("amount_minor", .int 5)]

/-- The record of the refund, which was stored under the key `order-1`. -/
def demoRecord : IdempotencyKey :=
  newIdempotencyKey keyedApp (demoEnv 1) demoUser.id "create_refund" "order-1" demoBody 201
    (.refund ⟨.ofNat 2, .ofNat 1, ⟨5, .usd, "0.05 USD"⟩, .succeeded, some "café", some "re_1", 0⟩)

/-- The tables with this record and nothing else. -/
def demoRecorded : Tables := { Tables.empty with idempotencyKeys := [demoRecord] }

/-- Two spellings of one body have the same bytes; a lookup finds the record for the other
spelling, and refuses the key for another amount. -/
theorem request_bodies_demo :
    (Json.obj demoBody).canonBytes = (Json.obj demoSpelling).canonBytes ∧
      (lookup keyedApp demoUser.id "create_refund" "order-1" demoSpelling).run
          (mockReaction "re_1").handler demoRecorded () =
        ⟨.ok (some ⟨201, demoRecord.responseBody⟩), demoRecorded, (), []⟩ ∧
      (lookup keyedApp demoUser.id "create_refund" "order-1"
          [("payment_id", .str (Uuid.ofNat 1).str), ("amount_minor", .int 6)]).run
          (mockReaction "re_1").handler demoRecorded () =
        ⟨.error (conflict "order-1"), demoRecorded, (), []⟩ := by
  have hbody : (Json.obj demoBody).Plain := ⟨by decide, trivial, trivial, trivial, trivial⟩
  have hspelling : (Json.obj demoSpelling).Plain :=
    ⟨by decide, trivial, trivial, trivial, trivial⟩
  have hother : (Json.obj [("payment_id", .str (Uuid.ofNat 1).str),
      ("amount_minor", .int 6)]).Plain := ⟨by decide, trivial, trivial, trivial⟩
  have hsame : (Json.obj demoBody).Same (.obj demoSpelling) := by
    have hperm : demoSpelling.Perm demoBody := by decide
    exact .obj hperm.symm
      (.cons (.str _) (.cons (.int 5) (.cons (.str "café") .nil)))
  have hdiffers : ¬ (Json.obj demoBody).Same (.obj [("payment_id", .str (Uuid.ofNat 1).str),
      ("amount_minor", .int 6)]) := fun h =>
    absurd (Json.canon_of_same h hbody) (by decide)
  obtain ⟨hbytes, hlookup⟩ :=
    request_bodies_exact keyedApp_dependable.sha256 fun _ _ => rfl
  refine ⟨(hbytes _ _ hbody hspelling).2 hsame, ?_, ?_⟩
  · exact (hlookup Unit (mockReaction "re_1").handler demoRecorded () demoUser.id "create_refund"
      "order-1" demoRecord demoBody demoSpelling hbody hspelling (by decide) rfl).1 hsame
  · exact (hlookup Unit (mockReaction "re_1").handler demoRecorded () demoUser.id "create_refund"
      "order-1" demoRecord demoBody _ hbody hother (by decide) rfl).2 hdiffers

end PaymentGateway
