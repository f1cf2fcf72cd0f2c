/-
# What the check of a URL raises and reports

`validate_public_url` should end with `ValidationError` or with the host and the port that are
addressed.  Other exceptions leave it where the standard library raises one: for a URL that
cannot be split, a port that is no number, and a name that the resolver fails on in its own way.
A port that is written as 0 is reported as the default one.  These are all the failures
(`validatePublicUrl_reports_iff`).
-/
import PaymentGateway.Security.Ssrf

namespace PaymentGateway

/-- `isinstance(exc, ValidationError)` -/
def Exn.isValidationError : Exn → Bool
  | .domain e => e.cls = .validationError
  | _ => false

/-- The libraries as they are documented: `urlsplit` and its `port` raise `ValueError`, the
resolver raises no error of the application, and a printed address is read back. -/
structure NetLib.Documented (net : NetLib) : Prop where
  urlsplit : ∀ url e, net.urlsplit url = .error e → e = .python .valueError
  port : ∀ url parts e, net.urlsplit url = .ok parts → parts.port = .error e →
    e = .python .valueError
  getaddrinfo : ∀ host e, net.getaddrinfo host = .raised e → e.isValidationError = false
  str : ∀ a, net.ipAddress (net.str a) = some a

/-- The port of a URL that names none, by its scheme. -/
def defaultPort (scheme : String) : ℕ := if scheme = "https" then 443 else 80

section

variable (net : NetLib)

/-- The check raises `ValidationError`, or reports the host and the port that are addressed. -/
def Reports (url : String) (allowHttp : Bool) : Prop :=
  (∀ e, validatePublicUrl net url allowHttp = .error e → e.isValidationError = true) ∧
    ∀ target, validatePublicUrl net url allowHttp = .ok target →
      ∃ parts port, net.urlsplit url = .ok parts ∧ parts.hostname = some target.host ∧
        parts.port = .ok port ∧ target.port = port.getD (defaultPort parts.scheme)

/-- The loop can read the addresses, up to the first one that is not public. -/
def Legible : List String → Prop
  | [] => True
  | ip :: ips => ∃ a, net.ipAddress ip = some a ∧ (isPublicIp a = true → Legible ips)

/-- The host is a literal, or the resolver answers with addresses that can be read or says that
there are none. -/
def Resolves (host : String) : Prop :=
  ∀ addresses, net.ipAddress host = none →
    (∀ e, net.getaddrinfo host ≠ .raised e) ∧
      (net.getaddrinfo host = .infos addresses → Legible net addresses.dedup)

/-- The host has addresses, and all of them can be parsed and are public. -/
def AllPublic (host : String) : Prop :=
  ∃ addresses, addressesOf net host = .ok addresses ∧ addresses ≠ [] ∧
    ∀ ip ∈ addresses, ∃ a, net.ipAddress ip = some a ∧ isPublicIp a = true

/-- The URL can be split; and if its scheme is allowed and it has a host, its port is a number;
and if that passes too, the resolver settles the host, and a port that is written as 0 does not
stand with a public host. -/
def Checkable (url : String) (allowHttp : Bool) : Prop :=
  ∃ parts, net.urlsplit url = .ok parts ∧
    (parts.scheme ∈ allowedSchemes allowHttp → given parts.hostname = true →
      ∃ port, parts.port = .ok port ∧
        (portOf parts.scheme port ∈ allowedPorts → Resolves net (parts.hostname.getD "") ∧
          (port = some 0 → ¬ AllPublic net (parts.hostname.getD ""))))

/-- What is left of the check once the port has passed: the addresses of the host. -/
def checkHost (url host : String) (port : ℕ) : Except Exn ValidatedTarget := do
  let addresses ← addressesOf net host
  if addresses = [] then
    .error (.validationError ("host " ++ net.repr host ++ " did not resolve to any address") [])
  else do
    checkAddresses net (blocked host addresses) addresses
    .ok ⟨url, host, port, addresses⟩

end

section

variable {net : NetLib} {url host : String} {allowHttp : Bool}

lemma isValidationError_validationError (message : String) (details : List (String × Json)) :
    (Exn.validationError message details).isValidationError = true := rfl

/-- The loop over the addresses raises a `ValueError` for what it cannot read. -/
lemma checkAddresses_error {rejected e : Exn} (hrejected : rejected.isValidationError = true)
    {ips : List String} (h : checkAddresses net rejected ips = .error e) :
    e.isValidationError = true ↔ Legible net ips := by
  induction ips with
  | nil => cases h
  | cons ip ips ih =>
    rw [checkAddresses] at h
    rw [Legible]
    cases ha : net.ipAddress ip with
    | none =>
      rw [ha] at h
      cases h
      simp [Exn.isValidationError]
    | some a =>
      rw [ha] at h
      dsimp only at h
      by_cases hpublic : isPublicIp a = true
      · rw [if_pos hpublic] at h
        simpa [hpublic] using ih h
      · rw [if_neg hpublic] at h
        cases h
        simp [hpublic, hrejected]

/-- What the loop passes, it has read. -/
lemma legible_of_checkAddresses (rejected : Exn) {ips : List String}
    (h : ∀ ip ∈ ips, ∃ a, net.ipAddress ip = some a ∧ isPublicIp a = true) :
    Legible net ips ∧ checkAddresses net rejected ips = .ok () := by
  induction ips with
  | nil => exact ⟨trivial, rfl⟩
  | cons ip ips ih =>
    obtain ⟨a, ha, hpublic⟩ := h ip List.mem_cons_self
    obtain ⟨hrest, hcheck⟩ := ih fun ip' hip' => h ip' (List.mem_cons_of_mem ip hip')
    refine ⟨⟨a, ha, fun _ => hrest⟩, ?_⟩
    rw [checkAddresses, ha]
    dsimp only
    rw [if_pos hpublic, hcheck]

/-- A host without addresses, or with one that is not public, is refused by the code's own
error exactly if the resolver settles it. -/
lemma checkHost_error (hdoc : net.Documented) {port : ℕ} {e : Exn}
    (h : checkHost net url host port = .error e) :
    e.isValidationError = true ↔ Resolves net host := by
  rw [checkHost, addressesOf] at h
  cases hliteral : net.ipAddress host with
  | some literal =>
    -- a literal is read back, so it is its range that is refused
    have hresolves : Resolves net host := fun addresses hnone => by
      rw [hliteral] at hnone
      cases hnone
    simp only [hliteral, bind, Except.bind, List.cons_ne_nil, if_false] at h
    split at h
    · rename_i e' hcheck
      cases h
      rw [checkAddresses_error (isValidationError_validationError _ _) hcheck]
      refine iff_of_true ⟨literal, hdoc.str literal, fun _ => trivial⟩ hresolves
    · cases h
  | none =>
    simp only [hliteral, resolve] at h
    cases hinfos : net.getaddrinfo host with
    | gaierror =>
      simp only [hinfos, bind, Except.bind] at h
      cases h
      refine iff_of_true rfl fun addresses _ => ⟨fun e => ?_, fun heq => ?_⟩
      · rw [hinfos]
        intro hc
        cases hc
      · rw [hinfos] at heq
        cases heq
    | raised e' =>
      simp only [hinfos, bind, Except.bind] at h
      cases h
      rw [hdoc.getaddrinfo host _ hinfos]
      exact iff_of_false Bool.false_ne_true fun hs => (hs [] hliteral).1 _ hinfos
    | infos addresses =>
      have hresolves : Resolves net host ↔ Legible net addresses.dedup := by
        constructor
        · exact fun hs => (hs addresses hliteral).2 hinfos
        · intro hlegible addresses' _
          refine ⟨fun e => ?_, fun heq => ?_⟩
          · rw [hinfos]
            intro hc
            cases hc
          · rw [hinfos] at heq
            cases heq
            exact hlegible
      simp only [hinfos, bind, Except.bind] at h
      rw [hresolves]
      split at h
      · rename_i hempty
        cases h
        rw [hempty]
        exact iff_of_true rfl trivial
      split at h
      · rename_i e' hcheck
        cases h
        exact checkAddresses_error (isValidationError_validationError _ _) hcheck
      · cases h

/-- The check passes the public hosts. -/
lemma checkHost_ok_iff {port : ℕ} :
    (∃ target, checkHost net url host port = .ok target) ↔ AllPublic net host := by
  rw [checkHost]
  constructor
  · rintro ⟨target, h⟩
    cases haddresses : addressesOf net host with
    | error e =>
      rw [haddresses] at h
      cases h
    | ok addresses =>
      simp only [haddresses, bind, Except.bind] at h
      split at h
      · cases h
      rename_i hsome
      split at h
      · cases h
      rename_i hchecked
      exact ⟨addresses, haddresses, hsome, checkAddresses_ok hchecked⟩
  · rintro ⟨addresses, haddresses, hsome, hall⟩
    obtain ⟨-, hcheck⟩ := legible_of_checkAddresses (blocked host addresses) hall
    refine ⟨⟨url, host, port, addresses⟩, ?_⟩
    simp only [haddresses, bind, Except.bind, if_neg hsome, hcheck]

lemma resolves_of_allPublic (h : AllPublic net host) : Resolves net host := by
  obtain ⟨addresses, haddresses, -, hall⟩ := h
  intro infos hnone
  rw [addressesOf, hnone] at haddresses
  refine ⟨fun e he => ?_, fun hinfos => ?_⟩
  · simp [resolve, he] at haddresses
  · simp only [resolve, hinfos, Except.ok.injEq] at haddresses
    rw [haddresses]
    exact (legible_of_checkAddresses .cancelled hall).1

/-- It reports what it was given. -/
lemma eq_of_checkHost_ok {port : ℕ} {target : ValidatedTarget}
    (h : checkHost net url host port = .ok target) : target.host = host ∧ target.port = port := by
  rw [checkHost] at h
  cases haddresses : addressesOf net host with
  | error e =>
    rw [haddresses] at h
    cases h
  | ok addresses =>
    simp only [haddresses, bind, Except.bind] at h
    split at h
    · cases h
    split at h
    · cases h
    cases h
    exact ⟨rfl, rfl⟩

lemma portOf_eq_iff {scheme : String} {port : Option ℕ}
    (hallowed : portOf scheme port ∈ allowedPorts) :
    portOf scheme port = port.getD (defaultPort scheme) ↔ port ≠ some 0 := by
  have hpos : 0 < defaultPort scheme := by
    rw [defaultPort]
    split <;> decide
  rcases port with _ | _ | port
  · simp [portOf, defaultPort]
  · have hzero : portOf scheme (some 0) = defaultPort scheme := rfl
    rw [hzero]
    simp only [Option.getD_some, ne_eq, not_true_eq_false, iff_false]
    omega
  · simp [portOf]

/-- An exception that is raised is the code's own error, or the check fails. -/
lemma reports_of_error {e : Exn} (h : validatePublicUrl net url allowHttp = .error e) :
    Reports net url allowHttp ↔ e.isValidationError = true := by
  constructor
  · exact fun hreports => hreports.1 e h
  · intro hclass
    refine ⟨fun e' he' => ?_, fun target htarget => ?_⟩
    · rw [h] at he'
      cases he'
      exact hclass
    · rw [h] at htarget
      cases htarget

/-- The check of a URL whose scheme and host pass. -/
lemma validatePublicUrl_eq {parts : SplitResult} (hparts : net.urlsplit url = .ok parts)
    (hscheme : parts.scheme ∈ allowedSchemes allowHttp) (hhost : given parts.hostname = true) :
    validatePublicUrl net url allowHttp = parts.port.bind fun port =>
      if portOf parts.scheme port ∉ allowedPorts then
        .error (.validationError
          ("port " ++ toString (portOf parts.scheme port) ++ " is not allowed")
          [("allowed", .arr (allowedPorts.map fun port => .int port))])
      else checkHost net url (parts.hostname.getD "") (portOf parts.scheme port) := by
  have hgiven : ¬ given parts.hostname = false := by simp [hhost]
  simp only [validatePublicUrl, hparts, bind, Except.bind, if_neg (not_not.2 hscheme),
    if_neg hgiven]
  rfl

/-- The last part of the check: a host that the resolver does not settle raises something else,
and a public host is reported with the wrong port if that is written as 0. -/
lemma reports_of_checkHost (hdoc : net.Documented) {parts : SplitResult} {port : Option ℕ}
    (hparts : net.urlsplit url = .ok parts)
    (hname : parts.hostname = some (parts.hostname.getD "")) (hport : parts.port = .ok port)
    (hallowed : portOf parts.scheme port ∈ allowedPorts)
    (hresult : validatePublicUrl net url allowHttp =
      checkHost net url (parts.hostname.getD "") (portOf parts.scheme port)) :
    Reports net url allowHttp ↔ Resolves net (parts.hostname.getD "") ∧
      (port = some 0 → ¬ AllPublic net (parts.hostname.getD "")) := by
  cases hcheck : checkHost net url (parts.hostname.getD "") (portOf parts.scheme port) with
  | error e =>
    rw [hcheck] at hresult
    have hno : ¬ AllPublic net (parts.hostname.getD "") := by
      intro hall
      obtain ⟨target, htarget⟩ := checkHost_ok_iff.2 hall
      rw [hcheck] at htarget
      cases htarget
    rw [reports_of_error hresult, checkHost_error hdoc hcheck]
    exact ⟨fun hresolves => ⟨hresolves, fun _ => hno⟩, fun h => h.1⟩
  | ok target =>
    rw [hcheck] at hresult
    have hall := checkHost_ok_iff.1 ⟨target, hcheck⟩
    obtain ⟨hhost, htarget⟩ := eq_of_checkHost_ok hcheck
    have hreports : Reports net url allowHttp ↔ port ≠ some 0 := by
      rw [← portOf_eq_iff hallowed]
      constructor
      · rintro ⟨-, h⟩
        obtain ⟨parts', port', hparts', -, hport', heq⟩ := h target hresult
        rw [hparts] at hparts'
        cases hparts'
        rw [hport] at hport'
        cases hport'
        rw [← htarget, heq]
      · intro heq
        refine ⟨fun e he => ?_, fun target' htarget' => ?_⟩
        · rw [hresult] at he
          cases he
        · rw [hresult] at htarget'
          cases htarget'
          exact ⟨parts, port, hparts, hhost ▸ hname, hport, htarget.trans heq⟩
    rw [hreports]
    exact ⟨fun hne => ⟨resolves_of_allPublic hall, fun hzero => absurd hzero hne⟩,
      fun h hzero => h.2 hzero hall⟩

/-- **What is raised and reported.**  Nothing but `ValidationError` is raised, and the host and the
port that are addressed are reported, if and only if the URL is checkable. -/
theorem validatePublicUrl_reports_iff (hdoc : net.Documented) (url : String) (allowHttp : Bool) :
    Reports net url allowHttp ↔ Checkable net url allowHttp := by
  cases hparts : net.urlsplit url with
  | error e =>
    -- a URL that cannot be split is a `ValueError`
    have hraised : validatePublicUrl net url allowHttp = .error e := by
      rw [validatePublicUrl, hparts]
      rfl
    rw [reports_of_error hraised, hdoc.urlsplit url e hparts]
    refine iff_of_false Bool.false_ne_true fun hcheckable => ?_
    obtain ⟨parts, hok, -⟩ := hcheckable
    rw [hparts] at hok
    cases hok
  | ok parts =>
    have hcheckable : Checkable net url allowHttp ↔
        (parts.scheme ∈ allowedSchemes allowHttp → given parts.hostname = true →
          ∃ port, parts.port = .ok port ∧
            (portOf parts.scheme port ∈ allowedPorts → Resolves net (parts.hostname.getD "") ∧
              (port = some 0 → ¬ AllPublic net (parts.hostname.getD "")))) := by
      constructor
      · rintro ⟨parts', hparts', h⟩
        rw [hparts] at hparts'
        cases hparts'
        exact h
      · exact fun h => ⟨parts, hparts, h⟩
    rw [hcheckable]
    by_cases hscheme : parts.scheme ∈ allowedSchemes allowHttp
    swap
    · have hraised : ∃ e, validatePublicUrl net url allowHttp = .error e ∧
          e.isValidationError = true := by
        simp only [validatePublicUrl, hparts, bind, Except.bind, if_pos hscheme]
        exact ⟨_, rfl, rfl⟩
      obtain ⟨e, he, hclass⟩ := hraised
      exact iff_of_true ((reports_of_error he).2 hclass) fun hyes => absurd hyes hscheme
    by_cases hhost : given parts.hostname = true
    swap
    · have hraised : ∃ e, validatePublicUrl net url allowHttp = .error e ∧
          e.isValidationError = true := by
        simp only [validatePublicUrl, hparts, bind, Except.bind, if_neg (not_not.2 hscheme),
          if_pos (Bool.not_eq_true _ ▸ hhost)]
        exact ⟨_, rfl, rfl⟩
      obtain ⟨e, he, hclass⟩ := hraised
      exact iff_of_true ((reports_of_error he).2 hclass) fun _ hyes => absurd hyes hhost
    have hresult := validatePublicUrl_eq hparts hscheme hhost
    cases hport : parts.port with
    | error e =>
      -- and so is a port that is no number
      rw [hport] at hresult
      rw [reports_of_error hresult, hdoc.port url parts e hparts hport]
      refine iff_of_false Bool.false_ne_true fun h => ?_
      obtain ⟨port, hok, -⟩ := h hscheme hhost
      cases hok
    | ok port =>
      rw [hport] at hresult
      change validatePublicUrl net url allowHttp = ite _ _ _ at hresult
      by_cases hallowed : portOf parts.scheme port ∈ allowedPorts
      swap
      · rw [if_pos hallowed] at hresult
        refine iff_of_true ((reports_of_error hresult).2 rfl) fun _ _ => ?_
        exact ⟨port, rfl, fun hyes => absurd hyes hallowed⟩
      rw [if_neg (not_not.2 hallowed)] at hresult
      have hname : parts.hostname = some (parts.hostname.getD "") := by
        cases hn : parts.hostname with
        | none => simp [hn, given] at hhost
        | some name => rfl
      rw [reports_of_checkHost hdoc hparts hname hport hallowed hresult]
      constructor
      · exact fun h _ _ => ⟨port, rfl, fun _ => h⟩
      · intro h
        obtain ⟨port', hport', hrest⟩ := h hscheme hhost
        cases hport'
        exact hrest hallowed

end

/-- The same libraries, with the URLs of 8.8.8.8 that write the ports 0 and 99999. -/
def portNet : NetLib :=
  { demoNet with
    urlsplit := fun url =>
      if url = "https://8.8.8.8:0/x" then .ok ⟨"https", some "8.8.8.8", .ok (some 0)⟩
      else if url = "https://8.8.8.8:99999/x" then
        .ok ⟨"https", some "8.8.8.8", .error (.python .valueError)⟩
      else demoNet.urlsplit url }

lemma portNet_documented : portNet.Documented where
  urlsplit url e h := by
    simp only [portNet, demoNet] at h
    repeat' split at h
    all_goals cases h
  port url parts e h he := by
    simp only [portNet, demoNet] at h
    repeat' split at h
    all_goals cases h; cases he
    rfl
  getaddrinfo host e h := by cases h
  str a := demoNet_str a

/-- A URL without a port. -/
theorem validatePublicUrl_reports_demo : Reports portNet "https://8.8.8.8/x" false :=
  (validatePublicUrl_reports_iff portNet_documented "https://8.8.8.8/x" false).2
    ⟨⟨"https", some "8.8.8.8", .ok none⟩, rfl, fun _ _ =>
      ⟨none, rfl, fun _ => ⟨fun _ hnone => (by cases hnone), fun hzero => (by cases hzero)⟩⟩⟩

/-- The port 0 is reported as 443, and a port that is no port is a `ValueError`. -/
theorem validatePublicUrl_misreported :
    (validatePublicUrl portNet "https://8.8.8.8:0/x" false =
        .ok ⟨"https://8.8.8.8:0/x", "8.8.8.8", 443, ["8.8.8.8"]⟩ ∧
      ¬ Reports portNet "https://8.8.8.8:0/x" false) ∧
    (validatePublicUrl portNet "https://8.8.8.8:99999/x" false = .error (.python .valueError) ∧
      ¬ Reports portNet "https://8.8.8.8:99999/x" false) := by
  have hzero : validatePublicUrl portNet "https://8.8.8.8:0/x" false =
      .ok ⟨"https://8.8.8.8:0/x", "8.8.8.8", 443, ["8.8.8.8"]⟩ := rfl
  have hlarge : validatePublicUrl portNet "https://8.8.8.8:99999/x" false =
      .error (.python .valueError) := rfl
  refine ⟨⟨hzero, fun h => ?_⟩, hlarge, fun h => ?_⟩
  · obtain ⟨parts, port, hparts, -, hport, htarget⟩ := h.2 _ hzero
    cases hparts
    cases hport
    cases htarget
  · have hclass := h.1 _ hlarge
    cases hclass

end PaymentGateway
