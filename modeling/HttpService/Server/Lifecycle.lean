import HttpService.Server.Service

/-!
# The life of a server

An idle server can be started once. A start that fails on its TLS files, on its address or on its routes
leaves the server as it was; once the service is built the routes are fixed, and after a start that
succeeds every further start fails. Of several stops only the first one that finds the server running
shuts it down.
-/

set_option autoImplicit false

namespace HttpService.Server

/-- What an attempt to start gives. -/
structure Started where
  result : Except Failure (SocketAddress × Service)
  warnings : List Event
  server : Server

/-- Serves on a listener. The system says which address the listener has, or why it cannot say; by then
the routes are fixed. -/
def serve (F : Family) (files : Files) (s : Server) (listener : Except String SocketAddress) : Started :=
  if s.phase ≠ .idle then ⟨.error (.plain "server already started"), [], s⟩
  else
    let tls := if s.settings.tls.enable then s.settings.tls.load files else .ok ()
    match tls with
    | .error f => ⟨.error f, [], s⟩
    | .ok _ =>
      match s.service F with
      | (.error f, warnings) => ⟨.error f, warnings, s⟩
      | (.ok service, warnings) =>
        let s := { s with frozen := true }
        match listener with
        | .error why => ⟨.error (.wrap [.foreign why] "reading listener address"), warnings, s⟩
        | .ok address => ⟨.ok (address, service), warnings, { s with phase := .running address }⟩

/-- Starts, given what listening on the address of the settings comes to: no listener, or one for which the
system says its address. The files of a secured server are looked for first. -/
def startOn (F : Family) (files : Files) (s : Server)
    (listening : Except Failure (Except String SocketAddress)) : Started :=
  let ready : Except Failure (Except String SocketAddress) := do
    if s.settings.tls.enable then s.settings.tls.check files
    listening
  match ready with
  | .error f => ⟨.error f, [], s⟩
  | .ok listener => s.serve F files listener

/-- Listens on the address of the settings and starts. -/
def start (F : Family) (files : Files) (s : Server) : Started :=
  s.startOn F files ((SocketAddress.listen s.address? s.settings.address).map .ok)

/-- The failure of a stop that had to close connections. -/
def closedEarly (limit : Duration) (connections : Nat) : Failure :=
  .new .internalError ("graceful shutdown timed out after " ++ limit.display ++ ", " ++
    toString connections ++ " connections closed")

/-- Stops a running server; `left` connections were still busy when its time to drain was over. A server
that does not run stays as it is. -/
def stop (s : Server) (left : Nat) : Except Failure Unit × Server :=
  match s.phase with
  | .running _ =>
    (if left = 0 then .ok () else .error (closedEarly s.settings.gracefulTimeout left),
      { s with phase := .stopped })
  | _ => (.ok (), s)

end HttpService.Server
