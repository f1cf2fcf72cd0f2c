/-
# Webhook signatures

`app/security/signatures.py`: an HMAC over `"{timestamp}.{body}"`, sent in a header
`t=<unix_ts>,v1=<hex_digest>`, with a timestamp that must be within a tolerance of the clock.

`hmac key message` is the hexadecimal HMAC-SHA256; nothing is assumed of it here.  The secret
is a JSON value, because the Stripe adapter takes it from its configuration: what is not a
string has no `encode`.
-/
import PaymentGateway.Core.Numerals
import PaymentGateway.Providers.Stripe

namespace PaymentGateway

/-- A raw request body, or any other sequence of bytes that is hashed. -/
abbrev Bytes := List UInt8

/-- `s.encode("utf-8")` -/
def utf8 (s : String) : Bytes := s.toUTF8.data.toList

/-! ## Strings as Python has them -/

/-- `s.partition("=")`, without the separator. -/
def partitionEq (s : List Char) : String × String :=
  (String.ofList (s.takeWhile (· ≠ '=')), String.ofList ((s.dropWhile (· ≠ '=')).drop 1))

/-- `hmac.compare_digest(a, b)` on strings: both must be ASCII. -/
def compareDigest (a b : String) : Except Exn Bool :=
  if a.toList.all (·.toNat < 128) && b.toList.all (·.toNat < 128) then .ok (a = b)
  else .error (.python .typeError)

namespace Signatures

/-- The error of a timestamp that is no integer. -/
def malformedTimestamp : Exn :=
  .of .signatureInvalidError "malformed timestamp in signature header" []

/-- The error of a header that lacks a timestamp or a signature. -/
def missingParts : Exn :=
  .of .signatureInvalidError "signature header missing timestamp or v1 signature" []

/-- The error of a delivery that is too old, or too far ahead of the clock. -/
def outsideTolerance (tolerance : ℤ) : Exn :=
  .of .replayDetectedError "webhook timestamp outside tolerance window"
    [("tolerance_seconds", .int tolerance)]

/-- The error of a delivery that carries no signature of its body. -/
def verificationFailed : Exn :=
  .of .signatureInvalidError "webhook signature verification failed" []

variable (hmac : Bytes → Bytes → String)

/-- `_compute`: the HMAC over the timestamp, a point and the body.  Printing the timestamp may
raise, and so does a secret that is no text. -/
def compute (secret : Json) (timestamp : ℤ) (body : Bytes) : Except Exn String := do
  let printed ← strOfInt timestamp
  match secret with
  | .str secret => .ok (hmac (utf8 secret) (utf8 (printed ++ ".") ++ body))
  | _ => .error (.python .attributeError)

/-- `sign`, at the given timestamp: the header that carries the signature. -/
def sign (body : Bytes) (secret : String) (timestamp : ℤ) : Except Exn String := do
  let digest ← compute hmac (.str secret) timestamp body
  let printed ← strOfInt timestamp
  .ok ("t=" ++ printed ++ ",v1=" ++ digest)

/-- One part of the header: the timestamp and the signatures so far. -/
def parsePart (acc : Option ℤ × List String) (part : List Char) :
    Except Exn (Option ℤ × List String) :=
  let (key, value) := partitionEq (strip part)
  if key = "t" then
    match intOfText value with
    | some ts => .ok (some ts, acc.2)
    | none => .error malformedTimestamp
  else if key = "v1" then .ok (acc.1, acc.2 ++ [value])
  else .ok acc

/-- `_parse_header`: the last timestamp and all signatures of the header, both of which must be
there. -/
def parseHeader (header : String) : Except Exn (ℤ × List String) := do
  let found ← (header.toList.splitOn ',').foldlM parsePart (none, [])
  match found with
  | (some ts, s :: signatures) => .ok (ts, s :: signatures)
  | _ => .error missingParts

/-- `verify`: the header is parsed, the age of the delivery is checked before its signature, and
one signature of the header that compares equal is enough. -/
def verify (body : Bytes) (header : String) (secret : Json) (tolerance now : ℤ) :
    Except Exn Unit := do
  let (ts, signatures) ← parseHeader header
  if tolerance < |now - ts| then .error (outsideTolerance tolerance)
  else do
    let expected ← compute hmac secret ts body
    if ← signatures.anyM (compareDigest expected) then .ok ()
    else .error verificationFailed

end Signatures

end PaymentGateway
