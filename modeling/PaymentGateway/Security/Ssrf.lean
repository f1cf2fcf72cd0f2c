/-
# Outbound requests

`app/security/ssrf.py`: a URL may be requested if its scheme and port are allowed and every
address of its host is public.  Which addresses are not is said by the predicates of Python's
`ipaddress`, which are given here by the networks they are documented with; an IPv6 address
that maps an IPv4 address has the properties of that address.

Parsing and name resolution are parameters (`NetLib`).  Of the addresses that pass, all are
globally reachable but those of the shared range 100.64.0.0/10
(`validatePublicUrl_reachable_iff`).
-/
import PaymentGateway.Core.Errors
import PaymentGateway.Providers.Base
import Mathlib.Data.List.Dedup

namespace PaymentGateway

/-! ## Addresses -/

/-- `IPv4Address` and `IPv6Address`, as the integers that their predicates look at. -/
inductive IpAddress where
  | v4 (n : Fin (2 ^ 32))
  | v6 (n : Fin (2 ^ 128))
deriving DecidableEq, Repr

/-- A network by its first address and the length of its prefix. -/
structure IpNetwork where
  base : ℕ
  prefixlen : ℕ

/-- `IPv4Network("a.b.c.d/len")` -/
def ipv4Network (a b c d len : ℕ) : IpNetwork := ⟨((a * 256 + b) * 256 + c) * 256 + d, len⟩

/-- `IPv6Network("a:b:c::/len")` -/
def ipv6Network (a b c len : ℕ) : IpNetwork := ⟨((a * 2 ^ 16 + b) * 2 ^ 16 + c) * 2 ^ 80, len⟩

/-- `address in network`, for addresses of `width` bits: both agree in the bits of the prefix. -/
def IpNetwork.contains (width : ℕ) (network : IpNetwork) (n : ℕ) : Bool :=
  n / 2 ^ (width - network.prefixlen) = network.base / 2 ^ (width - network.prefixlen)

/-- Some network of the list contains the address, which has `width` bits. -/
def inAny (width : ℕ) (networks : List IpNetwork) (n : ℕ) : Bool :=
  networks.any fun network => network.contains width n

namespace IpAddress

/-- `ipv4_mapped`: the address of version 4 that one of version 6 stands for. -/
def mapped (n : ℕ) : Option ℕ := if n / 2 ^ 32 = 0xffff then some (n % 2 ^ 32) else none

/-- A property of the two kinds of addresses, where a mapped address has the property of the
address that it maps. -/
def hasProperty (p4 p6 : ℕ → Bool) : IpAddress → Bool
  | .v4 n => p4 n
  | .v6 n =>
      match mapped n with
      | some m => p4 m
      | none => p6 n

/-- `_IPv4Constants._private_networks` -/
def privateNetworks4 : List IpNetwork :=
  [ipv4Network 0 0 0 0 8, ipv4Network 10 0 0 0 8, ipv4Network 127 0 0 0 8,
    ipv4Network 169 254 0 0 16, ipv4Network 172 16 0 0 12, ipv4Network 192 0 0 0 24,
    ipv4Network 192 0 0 170 31, ipv4Network 192 0 2 0 24, ipv4Network 192 168 0 0 16,
    ipv4Network 198 18 0 0 15, ipv4Network 198 51 100 0 24, ipv4Network 203 0 113 0 24,
    ipv4Network 240 0 0 0 4, ipv4Network 255 255 255 255 32]

/-- `_IPv4Constants._private_networks_exceptions` -/
def privateExceptions4 : List IpNetwork := [ipv4Network 192 0 0 9 32, ipv4Network 192 0 0 10 32]

/-- `_IPv6Constants._private_networks` -/
def privateNetworks6 : List IpNetwork :=
  [⟨1, 128⟩, ⟨0, 128⟩, ⟨0xffff * 2 ^ 32, 96⟩, ipv6Network 0x64 0xff9b 1 48,
    ipv6Network 0x100 0 0 64, ipv6Network 0x2001 0 0 23, ipv6Network 0x2001 0xdb8 0 32,
    ipv6Network 0x2002 0 0 16, ipv6Network 0x3fff 0 0 20, ipv6Network 0xfc00 0 0 7,
    ipv6Network 0xfe80 0 0 10]

/-- `_IPv6Constants._private_networks_exceptions` -/
def privateExceptions6 : List IpNetwork :=
  [⟨0x2001 * 2 ^ 112 + 2 ^ 96 + 1, 128⟩, ⟨0x2001 * 2 ^ 112 + 2 ^ 96 + 2, 128⟩,
    ipv6Network 0x2001 3 0 32, ipv6Network 0x2001 4 0x112 48, ipv6Network 0x2001 0x20 0 28,
    ipv6Network 0x2001 0x30 0 28]

/-- `_IPv6Constants._reserved_networks` -/
def reservedNetworks6 : List IpNetwork :=
  [ipv6Network 0 0 0 8, ipv6Network 0x100 0 0 8, ipv6Network 0x200 0 0 7, ipv6Network 0x400 0 0 6,
    ipv6Network 0x800 0 0 5, ipv6Network 0x1000 0 0 4, ipv6Network 0x4000 0 0 3,
    ipv6Network 0x6000 0 0 3, ipv6Network 0x8000 0 0 3, ipv6Network 0xa000 0 0 3,
    ipv6Network 0xc000 0 0 3, ipv6Network 0xe000 0 0 4, ipv6Network 0xf000 0 0 5,
    ipv6Network 0xf800 0 0 6, ipv6Network 0xfe00 0 0 9]

/-- The range of 100.64.0.0/10, which carriers share among their customers. -/
def isShared4 (n : ℕ) : Bool := (ipv4Network 100 64 0 0 10).contains 32 n

/-- `IPv4Address.is_private`: in a private network, and not in one of the exceptions. -/
def isPrivate4 (n : ℕ) : Bool := inAny 32 privateNetworks4 n && !inAny 32 privateExceptions4 n

/-- `IPv6Address.is_private`, of an address that maps none of version 4. -/
def isPrivate6 (n : ℕ) : Bool := inAny 128 privateNetworks6 n && !inAny 128 privateExceptions6 n

/-- The address lies in the shared range, which has no counterpart in version 6. -/
def isShared : IpAddress → Bool := hasProperty isShared4 fun _ => false

/-- `is_private`, by the private networks of the library and their exceptions. -/
def isPrivate : IpAddress → Bool := hasProperty isPrivate4 isPrivate6

/-- `is_global`: neither private nor, in version 4, in the shared range.  So an address of the
shared range is neither private nor global. -/
def isGlobal : IpAddress → Bool :=
  hasProperty (fun n => !isShared4 n && !isPrivate4 n) fun n => !isPrivate6 n

/-- `is_loopback`: 127.0.0.0/8, or `::1`. -/
def isLoopback : IpAddress → Bool :=
  hasProperty (ipv4Network 127 0 0 0 8 |>.contains 32) fun n => n = 1

/-- `is_link_local`: 169.254.0.0/16, or `fe80::/10`. -/
def isLinkLocal : IpAddress → Bool :=
  hasProperty (ipv4Network 169 254 0 0 16 |>.contains 32)
    (ipv6Network 0xfe80 0 0 10 |>.contains 128)

/-- `is_multicast`: 224.0.0.0/4, or `ff00::/8`. -/
def isMulticast : IpAddress → Bool :=
  hasProperty (ipv4Network 224 0 0 0 4 |>.contains 32) (ipv6Network 0xff00 0 0 8 |>.contains 128)

/-- `is_reserved`: 240.0.0.0/4, or one of the reserved networks of version 6. -/
def isReserved : IpAddress → Bool :=
  hasProperty (ipv4Network 240 0 0 0 4 |>.contains 32) (inAny 128 reservedNetworks6)

/-- `is_unspecified`: the address zero. -/
def isUnspecified : IpAddress → Bool := hasProperty (fun n => n = 0) fun n => n = 0

/-- The addresses 169.254.169.254 and fd00:ec2::254, where the clouds serve their metadata. -/
def isMetadata : IpAddress → Bool :=
  hasProperty (ipv4Network 169 254 169 254 32 |>.contains 32)
    fun n => n = (0xfd00 * 2 ^ 16 + 0xec2) * 2 ^ 96 + 0x254

/-- The address lies in none of the ranges that are not public, whichever predicate of the
library names them. -/
structure Reachable (a : IpAddress) : Prop where
  isGlobal : a.isGlobal = true
  notPrivate : a.isPrivate = false
  notShared : a.isShared = false
  notLoopback : a.isLoopback = false
  notLinkLocal : a.isLinkLocal = false
  notMetadata : a.isMetadata = false
  notMulticast : a.isMulticast = false
  notReserved : a.isReserved = false
  notUnspecified : a.isUnspecified = false

end IpAddress

/-- `_is_public_ip`, of the parsed address: none of the six predicates holds of it. -/
def isPublicIp (a : IpAddress) : Bool :=
  !(a.isPrivate || a.isLoopback || a.isLinkLocal || a.isMulticast || a.isReserved ||
    a.isUnspecified)

/-! ## The check -/

/-- What `urlsplit(url)` gives, as far as it is read.  Reading the port may raise, even if
splitting did not. -/
structure SplitResult where
  scheme : String
  hostname : Option String
  port : Except Exn (Option ℕ)

/-- What `socket.getaddrinfo` ends with: the addresses of the infos, as strings. -/
inductive Resolution where
  | infos (addresses : List String)
  | gaierror
  | raised (e : Exn)

/-- The parsers of the standard library and the resolver, as the module calls them. -/
structure NetLib where
  urlsplit : String → Except Exn SplitResult
  /-- `ipaddress.ip_address(text)`, or `ValueError`. -/
  ipAddress : String → Option IpAddress
  /-- `str(address)` -/
  str : IpAddress → String
  getaddrinfo : String → Resolution
  /-- `repr(text)` -/
  repr : String → String

/-- `ValidatedTarget`: the URL that passed, and the addresses that a client may connect to. -/
structure ValidatedTarget where
  url : String
  host : String
  port : ℕ
  ipAddresses : List String
deriving DecidableEq, Repr

/-- The schemes that are accepted; plain http must be asked for. -/
def allowedSchemes (allowHttp : Bool) : List String :=
  if allowHttp then ["http", "https"] else ["https"]

/-- `_ALLOWED_PORTS`: those of the two schemes. -/
def allowedPorts : List ℕ := [80, 443]

/-- `parts.port or (443 if parts.scheme == "https" else 80)`: port 0 is as good as none. -/
def portOf (scheme : String) (port : Option ℕ) : ℕ :=
  match port with
  | none | some 0 => if scheme = "https" then 443 else 80
  | some port => port

section

variable (net : NetLib)

/-- `_resolve`.  The addresses are a set in the source, and in the order of the infos here.  The
order only decides which of several unfit addresses is met first: one that cannot be parsed raises
a `ValueError`, and one that is blocked a `ValidationError`. -/
def resolve (host : String) : Except Exn (List String) :=
  match net.getaddrinfo host with
  | .infos addresses => .ok addresses.dedup
  | .gaierror => .error (.validationError ("could not resolve host " ++ net.repr host) [])
  | .raised e => .error e

/-- The addresses of a host: the literal itself, or what the host resolves to. -/
def addressesOf (host : String) : Except Exn (List String) :=
  match net.ipAddress host with
  | some literal => .ok [net.str literal]
  | none => resolve net host

/-- The error of a host with an address that is not public, which lists all of its addresses. -/
def blocked (host : String) (addresses : List String) : Exn :=
  .validationError "URL resolves to a non-public address and is blocked (SSRF protection)"
    [("host", .str host), ("resolved", .arr (addresses.map .str))]

/-- The loop over the addresses: the first that is not public raises, and one that cannot be
parsed raises a `ValueError`. -/
def checkAddresses (rejected : Exn) : List String → Except Exn Unit
  | [] => .ok ()
  | ip :: ips =>
      match net.ipAddress ip with
      | none => .error (.python .valueError)
      | some a => if isPublicIp a then checkAddresses rejected ips else .error rejected

/-- `validate_public_url`: the scheme, the host, the port and every address are checked, in this
order.  What `urlsplit` or the port raise passes through. -/
def validatePublicUrl (url : String) (allowHttp : Bool) : Except Exn ValidatedTarget := do
  let parts ← net.urlsplit url
  if parts.scheme ∉ allowedSchemes allowHttp then
    .error (.validationError ("URL scheme " ++ net.repr parts.scheme ++ " is not allowed")
      [("allowed", .arr ((allowedSchemes allowHttp).map .str))])
  else if given parts.hostname = false then .error (.validationError "URL is missing a host" [])
  else do
    let host := parts.hostname.getD ""
    let port := portOf parts.scheme (← parts.port)
    if port ∉ allowedPorts then
      .error (.validationError ("port " ++ toString port ++ " is not allowed")
        [("allowed", .arr (allowedPorts.map fun port => .int port))])
    else do
      let addresses ← addressesOf net host
      if addresses = [] then
        .error (.validationError ("host " ++ net.repr host ++ " did not resolve to any address") [])
      else do
        checkAddresses net (blocked host addresses) addresses
        .ok ⟨url, host, port, addresses⟩

/-- The host denotes the address: it is the literal, or the resolver gives it. -/
def Denotes (host : String) (a : IpAddress) : Prop :=
  match net.ipAddress host with
  | some literal => a = literal
  | none => ∃ addresses, net.getaddrinfo host = .infos addresses ∧
      ∃ ip ∈ addresses, net.ipAddress ip = some a

/-- What was checked of a URL that passes, and what its target holds. -/
structure Admitted (url : String) (allowHttp : Bool) (target : ValidatedTarget) : Prop where
  url_eq : target.url = url
  scheme : ∃ parts, net.urlsplit url = .ok parts ∧ parts.scheme ∈ allowedSchemes allowHttp ∧
    parts.hostname = some target.host
  port : target.port ∈ allowedPorts
  addresses : addressesOf net target.host = .ok target.ipAddresses
  checked : ∀ ip ∈ target.ipAddresses, ∃ a, net.ipAddress ip = some a ∧ isPublicIp a = true

end

section

variable {net : NetLib}

lemma checkAddresses_ok {rejected : Exn} {ips : List String}
    (h : checkAddresses net rejected ips = .ok ()) :
    ∀ ip ∈ ips, ∃ a, net.ipAddress ip = some a ∧ isPublicIp a = true := by
  induction ips with
  | nil =>
    intro ip hip
    cases hip
  | cons ip ips ih =>
    rw [checkAddresses] at h
    cases ha : net.ipAddress ip with
    | none =>
      rw [ha] at h
      cases h
    | some a =>
      rw [ha] at h
      dsimp only at h
      split at h
      · rename_i hpublic
        intro ip' hip'
        rcases List.mem_cons.1 hip' with rfl | hip'
        · exact ⟨a, ha, hpublic⟩
        · exact ih h ip' hip'
      · cases h

lemma admitted_of_ok {url : String} {allowHttp : Bool} {target : ValidatedTarget}
    (h : validatePublicUrl net url allowHttp = .ok target) : Admitted net url allowHttp target := by
  rw [validatePublicUrl] at h
  cases hparts : net.urlsplit url with
  | error e =>
    rw [hparts] at h
    cases h
  | ok parts =>
    -- the guards in turn: scheme, host, port text, port, addresses, and each address
    simp only [hparts, bind, Except.bind] at h
    split at h
    · cases h
    split at h
    · cases h
    rename_i hscheme hhost
    split at h
    · cases h
    split at h
    · cases h
    rename_i hport
    split at h
    · cases h
    rename_i addresses haddresses
    split at h
    · cases h
    split at h
    · cases h
    rename_i hchecked
    cases h
    have hname : parts.hostname = some (parts.hostname.getD "") := by
      cases hn : parts.hostname with
      | none => simp [hn, given] at hhost
      | some name => rfl
    exact ⟨rfl, ⟨parts, hparts, not_not.1 hscheme, hname⟩, not_not.1 hport, haddresses,
      checkAddresses_ok hchecked⟩

/-- Every address that the host denotes has passed. -/
lemma Admitted.isPublicIp (hstr : ∀ a, net.ipAddress (net.str a) = some a) {url : String}
    {allowHttp : Bool} {target : ValidatedTarget} (h : Admitted net url allowHttp target)
    {a : IpAddress} (ha : Denotes net target.host a) : isPublicIp a = true := by
  have haddresses := h.addresses
  rw [addressesOf] at haddresses
  rw [Denotes] at ha
  cases hliteral : net.ipAddress target.host with
  | some literal =>
    rw [hliteral] at ha haddresses
    have hmem : net.str literal ∈ target.ipAddresses := by simp [← Except.ok.inj haddresses]
    obtain ⟨b, hb, hpublic⟩ := h.checked (net.str literal) hmem
    rw [hstr literal] at hb
    rw [ha, Option.some.inj hb]
    exact hpublic
  | none =>
    rw [hliteral] at ha haddresses
    obtain ⟨infos, hinfos, ip, hip, hparsed⟩ := ha
    simp only [resolve, hinfos, Except.ok.injEq] at haddresses
    obtain ⟨b, hb, hpublic⟩ := h.checked ip (by rw [← haddresses]; exact List.mem_dedup.2 hip)
    rw [hparsed] at hb
    exact Option.some.inj hb ▸ hpublic

end

/-! ## What passes -/

lemma IpAddress.isGlobal_eq (a : IpAddress) : a.isGlobal = (!a.isShared && !a.isPrivate) := by
  rcases a with n | n
  · rfl
  · simp only [isGlobal, isShared, isPrivate, hasProperty]
    cases mapped n with
    | none => simp
    | some m => rfl

/-- The metadata are served from link-local and private addresses. -/
lemma IpAddress.isMetadata_eq_false {a : IpAddress} (hprivate : a.isPrivate = false)
    (hlink : a.isLinkLocal = false) : a.isMetadata = false := by
  have h6 : isPrivate6 ((0xfd00 * 2 ^ 16 + 0xec2) * 2 ^ 96 + 0x254) = true := by decide +kernel
  rw [Bool.eq_false_iff]
  intro hmetadata
  have hlink4 : ∀ n, (ipv4Network 169 254 0 0 16).contains 32 n = false →
      (ipv4Network 169 254 169 254 32).contains 32 n = true → False := by
    intro n hno hyes
    have hn : n / 2 ^ 0 = (((169 * 256 + 254) * 256 + 169) * 256 + 254) / 2 ^ 0 :=
      of_decide_eq_true hyes
    have hnetwork : n / 2 ^ 16 ≠ (((169 * 256 + 254) * 256 + 0) * 256 + 0) / 2 ^ 16 :=
      of_decide_eq_false hno
    omega
  rcases a with n | n
  · exact hlink4 n hlink hmetadata
  · simp only [isMetadata, isPrivate, isLinkLocal, hasProperty] at hmetadata hprivate hlink
    cases hmapped : mapped n with
    | some m =>
      rw [hmapped] at hmetadata hlink
      exact hlink4 m hlink hmetadata
    | none =>
      rw [hmapped] at hmetadata hprivate
      rw [of_decide_eq_true hmetadata, h6] at hprivate
      cases hprivate

/-- The predicates cover every range but the shared one. -/
lemma reachable_iff_of_isPublicIp {a : IpAddress} (h : isPublicIp a = true) :
    a.Reachable ↔ a.isShared = false := by
  simp only [isPublicIp, Bool.not_eq_true', Bool.or_eq_false_iff] at h
  obtain ⟨⟨⟨⟨⟨hprivate, hloopback⟩, hlink⟩, hmulticast⟩, hreserved⟩, hunspecified⟩ := h
  constructor
  · exact fun hreachable => hreachable.notShared
  · intro hshared
    have hglobal : a.isGlobal = true := by rw [a.isGlobal_eq, hshared, hprivate]; rfl
    exact ⟨hglobal, hprivate, hshared, hloopback, hlink, a.isMetadata_eq_false hprivate hlink,
      hmulticast, hreserved, hunspecified⟩

/-- **A URL that passes has only reachable addresses**, if and only if none of them is shared. -/
theorem validatePublicUrl_reachable_iff {net : NetLib}
    (hstr : ∀ a, net.ipAddress (net.str a) = some a) {url : String} {allowHttp : Bool}
    {parts : SplitResult} (hparts : net.urlsplit url = .ok parts) {target : ValidatedTarget}
    (h : validatePublicUrl net url allowHttp = .ok target) :
    (parts.scheme ∈ allowedSchemes allowHttp ∧ target.port ∈ allowedPorts ∧
      ∀ a, Denotes net (parts.hostname.getD "") a → a.Reachable) ↔
    ∀ a, Denotes net (parts.hostname.getD "") a → a.isShared = false := by
  have hadmitted := admitted_of_ok h
  obtain ⟨parts', hparts', hscheme, hhost⟩ := hadmitted.scheme
  rw [hparts] at hparts'
  cases hparts'
  rw [hhost, Option.getD_some]
  have hreachable : ∀ a, Denotes net target.host a → (a.Reachable ↔ a.isShared = false) :=
    fun a ha => reachable_iff_of_isPublicIp (hadmitted.isPublicIp hstr ha)
  constructor
  · rintro ⟨-, -, hall⟩ a ha
    exact (hreachable a ha).1 (hall a ha)
  · intro hall
    exact ⟨hscheme, hadmitted.port, fun a ha => (hreachable a ha).2 (hall a ha)⟩

/-! ## Two literals -/

/-- 8.8.8.8 and 100.64.0.1 -/
def demoPublic : IpAddress := .v4 0x08080808

/-- 100.64.0.1, in the range that carriers share. -/
def demoShared : IpAddress := .v4 0x64400001

/-- The libraries on these two; other addresses are printed in unary. -/
def demoNet : NetLib where
  urlsplit url :=
    if url = "https://8.8.8.8/x" then .ok ⟨"https", some "8.8.8.8", .ok none⟩
    else if url = "https://100.64.0.1/x" then .ok ⟨"https", some "100.64.0.1", .ok none⟩
    else .ok ⟨"", none, .ok none⟩
  ipAddress text :=
    if text = "8.8.8.8" then some demoPublic
    else if text = "100.64.0.1" then some demoShared
    else
      match text.toList with
      | '4' :: ones => some (.v4 (Fin.ofNat _ ones.length))
      | '6' :: ones => some (.v6 (Fin.ofNat _ ones.length))
      | _ => none
  str a :=
    if a = demoPublic then "8.8.8.8"
    else if a = demoShared then "100.64.0.1"
    else
      match a with
      | .v4 n => String.ofList ('4' :: List.replicate n '1')
      | .v6 n => String.ofList ('6' :: List.replicate n '1')
  getaddrinfo _ := .gaierror
  repr text := "'" ++ text ++ "'"

lemma demoNet_str (a : IpAddress) : demoNet.ipAddress (demoNet.str a) = some a := by
  by_cases hpublic : a = demoPublic
  · rw [hpublic]
    decide +kernel
  by_cases hshared : a = demoShared
  · rw [hshared]
    decide +kernel
  have hne : ∀ (c : Char) (cs : List Char) (text : String), text.toList.head? ≠ some c →
      String.ofList (c :: cs) ≠ text := by
    rintro c cs text hhead rfl
    exact hhead (by simp)
  simp only [demoNet, if_neg hpublic, if_neg hshared]
  rcases a with n | n
  · rw [if_neg (hne _ _ _ (by decide +kernel)), if_neg (hne _ _ _ (by decide +kernel))]
    simp
  · rw [if_neg (hne _ _ _ (by decide +kernel)), if_neg (hne _ _ _ (by decide +kernel))]
    simp

/-- The host is a literal. -/
lemma denotes_demoNet {host : String} {literal a : IpAddress}
    (h : demoNet.ipAddress host = some literal) : Denotes demoNet host a ↔ a = literal := by
  rw [Denotes, h]

/-- A public literal passes. -/
theorem validatePublicUrl_demo :
    "https" ∈ allowedSchemes false ∧ 443 ∈ allowedPorts ∧
      ∀ a, Denotes demoNet "8.8.8.8" a → a.Reachable := by
  have hparts : demoNet.urlsplit "https://8.8.8.8/x" = .ok ⟨"https", some "8.8.8.8", .ok none⟩ :=
    rfl
  have htarget : validatePublicUrl demoNet "https://8.8.8.8/x" false =
      .ok ⟨"https://8.8.8.8/x", "8.8.8.8", 443, ["8.8.8.8"]⟩ := rfl
  refine (validatePublicUrl_reachable_iff demoNet_str hparts htarget).2 fun a ha => ?_
  rw [(denotes_demoNet rfl).1 ha]
  decide

/-- An address of the shared range passes. -/
theorem validatePublicUrl_shared :
    validatePublicUrl demoNet "https://100.64.0.1/x" false =
      .ok ⟨"https://100.64.0.1/x", "100.64.0.1", 443, ["100.64.0.1"]⟩ ∧
    ∃ a, Denotes demoNet "100.64.0.1" a ∧ a.isShared = true ∧ a.isGlobal = false :=
  ⟨rfl, demoShared, (denotes_demoNet rfl).2 rfl, by decide, by decide⟩

end PaymentGateway
