import HttpService.Address.Ip
import HttpService.Decimal.Read
import HttpService.Failure
import HttpService.Server.KeyPair
import HttpService.Settings.Basic

/-!
# Listening

What has to succeed before a server listens: its address must be one of this machine, and a secured
listener needs a certificate and a private key.
-/

set_option autoImplicit false

namespace HttpService

/-- An address to listen on; port 0 stands for any free port. -/
structure SocketAddress where
  ip : String
  port : Nat
  deriving DecidableEq, Repr, Inhabited

namespace SocketAddress

/-- The address of a host that needs no name service: a number, or the name of this machine. -/
def hostAddress? (host : List Char) : Option String :=
  match host with
  | '[' :: rest =>
    if rest.getLast? = some ']' ∧ Address.isV6 rest.dropLast then String.ofList rest.dropLast
    else none
  | _ =>
    if Address.isV4 host then String.ofList host
    else if host = "localhost".toList then some "127.0.0.1"
    else none

/-- Whether this machine has the address. -/
def isLocal (ip : String) : Bool :=
  ip = "0.0.0.0" || ip = "::" || ip = "::1" || "127.".toList.isPrefixOf ip.toList

/-- Reads `host:port` and looks the host up, without a name service. -/
def resolve (address : String) : Except String SocketAddress :=
  match Text.cutChars ':' address.toList.reverse with
  | none => .error "invalid socket address"
  | some (port, host) =>
    match Decimal.unsigned? 16 (String.ofList port.reverse) with
    | none => .error "invalid port value"
    | some port =>
      match hostAddress? host.reverse with
      | none => .error
          "failed to lookup address information: Temporary failure in name resolution"
      | some ip => if isLocal ip then .ok ⟨ip, port⟩
          else .error "Cannot assign requested address (os error 99)"

/-- Listens on an address, unless a fixed port is in use. -/
def listen (inUse : Option SocketAddress) (address : String) : Except Failure SocketAddress :=
  let refused (why : String) : Failure := .wrap [.foreign why] ("binding " ++ address)
  match resolve address with
  | .error why => .error (refused why)
  | .ok a =>
    if a.port ≠ 0 ∧ inUse = some a then .error (refused "Address already in use (os error 98)")
    else .ok a

end SocketAddress

/-- Named files and what stands in them. -/
abbrev Files := List (String × String)

namespace TlsSettings

/-- Checks that both files are there. -/
def check (files : Files) (t : TlsSettings) : Except Failure Unit :=
  (t.validate fun path => (files.lookup path).isSome).mapError Settings.refused

/-- Checks that there is a certificate and a private key in the files. -/
def load (files : Files) (t : TlsSettings) : Except Failure Unit := do
  t.check files
  let text (path : String) := (files.lookup path).getD ""
  let parsing {α : Type} (what path : String) (r : Except Pem.Fault α) : Except Failure α :=
    r.mapError fun e =>
      .wrap [.foreign e.message] ("parsing " ++ what ++ " in " ++ path)
  match ← parsing "certificates" t.certFile (Pem.certificates (text t.certFile)) with
  | [] => throw (.plain ("no certificates found in " ++ t.certFile))
  | certificate :: _ =>
    match ← parsing "private key" t.keyFile (Pem.privateKey? (text t.keyFile)) with
    | none => throw (.plain ("no private key found in " ++ t.keyFile))
    | some key =>
      (KeyPair.check certificate key).mapError fun e => .wrap [.foreign e.message] "configuring TLS"

end TlsSettings

end HttpService
