import HttpService.Failure
import HttpService.Server.Der
import HttpService.Server.Pem

/-!
# Certificates and their private keys

A certificate holds a public key, and most private keys hold their public half. A pair of both is
usable if the two do not contradict each other.
-/

set_option autoImplicit false

namespace HttpService

/-- A public key. -/
inductive PublicKey
  /-- A point of a curve. -/
  | point (curve : Bytes) (value : Bytes)
  /-- A modulus and an exponent. -/
  | rsa (modulus exponent : Bytes)
  | other (key : Bytes)
  deriving DecidableEq, Repr

namespace KeyPair

/-! ## Names of algorithms -/

def curves : Bytes := [0x2A, 0x86, 0x48, 0xCE, 0x3D, 0x02, 0x01]
def p256 : Bytes := [0x2A, 0x86, 0x48, 0xCE, 0x3D, 0x03, 0x01, 0x07]
def p384 : Bytes := [0x2B, 0x81, 0x04, 0x00, 0x22]
def rsa : Bytes := [0x2A, 0x86, 0x48, 0x86, 0xF7, 0x0D, 0x01, 0x01, 0x01]
def ed25519 : Bytes := [0x2B, 0x65, 0x70]

/-! ## Certificates -/

/-- The content of a bit string of whole bytes. -/
def wholeBits? (v : Der.Value) : Option Bytes :=
  match v.content with
  | 0 :: bytes => if v.tag = Der.bits then some bytes else none
  | _ => none

/-- The public key of an algorithm with a parameter. -/
def publicKey (algorithm : List Der.Value) (key : Bytes) : PublicKey :=
  match algorithm with
  | [⟨_, algorithm⟩, ⟨_, parameter⟩] =>
    if algorithm = curves then .point parameter key
    else if algorithm = rsa then
      match Der.members? key with
      | some [n, e] => .rsa n.content e.content
      | _ => .other key
    else .other key
  | _ => .other key

/-- The public key of a certificate. -/
def certificateKey? (certificate : Bytes) : Option PublicKey := do
  let outer ← Der.members? certificate
  let inner ← (← outer.head?).members?
  if outer.map (·.tag) ≠ [Der.sequence, Der.sequence, Der.bits] then none
  let layout := Der.marked 0 :: Der.integer :: List.replicate 5 Der.sequence
  if (inner.take layout.length).map (·.tag) ≠ layout then none
  match ← (← inner[6]?).members? with
  | [algorithm, key] => return publicKey (← algorithm.members?) (← wholeBits? key)
  | _ => none

/-! ## Private keys -/

/-- The public half of a private key on a curve; keys without it are not used. -/
def curveKey? (curve : Option Bytes) (key : Bytes) : Option PublicKey := do
  let members ← Der.members? key
  match members with
  | ⟨_, version⟩ :: ⟨_, scalar⟩ :: rest =>
    if version ≠ [1] then none
    let stated := (rest.find? (·.tag = Der.marked 0)).bind fun v => Der.values? v.content
    let curve := (curve.or (stated.bind fun vs => vs.head?.map (·.content))).getD
      (if scalar.length = 48 then p384 else p256)
    if scalar.length ≠ (if curve = p384 then 48 else 32) ∨ (curve ≠ p256 ∧ curve ≠ p384) then none
    match Der.values? (← rest.find? (·.tag = Der.marked 1)).content with
    | some [key] => return .point curve (← wholeBits? key)
    | _ => none
  | _ => none

/-- The public half of an RSA key. -/
def rsaKey? (key : Bytes) : Option PublicKey := do
  match ← Der.members? key with
  | ⟨_, [0]⟩ :: n :: e :: rest =>
    if rest.length = 6 ∧ rest.all (·.tag = Der.integer) then some (.rsa n.content e.content) else none
  | _ => none

/-- What is known of a private key that names its algorithm: its public half, or nothing. -/
def namedKey? (key : Bytes) : Option (Option PublicKey) := do
  match ← Der.members? key with
  | ⟨_, version⟩ :: algorithm :: secret :: _ =>
    if (version ≠ [0] ∧ version ≠ [1]) ∨ secret.tag ≠ Der.octets then none
    match ← algorithm.members? with
    | [⟨_, a⟩, ⟨_, parameter⟩] =>
      if a = curves then (curveKey? (some parameter) secret.content).map some
      else if a = rsa then (rsaKey? secret.content).map some
      else none
    | [⟨_, a⟩] =>
      match Der.values? secret.content with
      | some [⟨_, seed⟩] => if a = ed25519 ∧ seed.length = 32 then some none else none
      | _ => none
    | _ => none
  | _ => none

/-- What is known of the public half of a private key; none if it is no private key. -/
def privateKey? (s : Pem.Section) : Option (Option PublicKey) :=
  if s.label = "RSA PRIVATE KEY" then (rsaKey? s.content).map some
  else if s.label = "EC PRIVATE KEY" then (curveKey? none s.content).map some
  else namedKey? s.content

/-! ## Pairs -/

/-- Why a pair is not used. -/
inductive Fault
  | unknownKey
  | malformedCertificate
  | mismatch
  deriving DecidableEq, Repr

def Fault.message : Fault → String
  | .unknownKey => "unexpected error: failed to parse private key as RSA, ECDSA, or EdDSA"
  | .malformedCertificate => "invalid peer certificate: BadEncoding"
  | .mismatch => "keys may not be consistent: KeyMismatch"

/-- Checks that a certificate belongs to a private key. -/
def check (certificate : Bytes) (key : Pem.Section) : Except Fault Unit :=
  match privateKey? key, certificateKey? certificate with
  | none, _ => .error .unknownKey
  | some _, none => .error .malformedCertificate
  | some none, some _ => .ok ()
  | some (some expected), some found => if expected = found then .ok () else .error .mismatch

end KeyPair

end HttpService
