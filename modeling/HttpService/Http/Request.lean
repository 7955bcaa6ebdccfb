import HttpService.Http.Headers
import HttpService.Http.Uri
import HttpService.Locale
import HttpService.Text.Utf8

/-!
# Requests

What a client sent, and what is known about the connection and the matched route.
-/

set_option autoImplicit false

namespace HttpService

/-- How errors reach the status line. -/
inductive ResponsePolicy
  /-- The status is 200 unless set; the envelope carries the code. -/
  | envelope
  /-- The status follows the business code unless set. -/
  | httpNative
  deriving DecidableEq, Repr, Inhabited

/-- Versions of the protocol. -/
inductive Version
  | http10 | http11
  deriving DecidableEq, Repr, Inhabited

/-- An address with a port. -/
structure Peer where
  ip : String
  port : String
  deriving DecidableEq, Repr, Inhabited

/-- A request as it arrived. -/
structure Request where
  method : String
  uri : Uri
  version : Version
  headers : Headers
  body : Bytes
  /-- The pattern of the matched route. -/
  route : Option String
  /-- Path parameters in match order. -/
  params : List (String × String)
  locale : Locale
  policy : ResponsePolicy
  remote : Option Peer
  local' : Option Peer
  tls : Bool
  deriving Inhabited

namespace Request

/-- The value of a path parameter. -/
def param? (r : Request) (name : String) : Option String :=
  r.params.lookup name

/-- The matched route, else the path. -/
def routeOrPath (r : Request) : String :=
  r.route.getD r.uri.path

def scheme (r : Request) : String :=
  if r.tls then "https" else "http"

/-- The `Host` header, else the host of the target. -/
def host? (r : Request) : Option String :=
  (r.headers.text? "host").or r.uri.host?

end Request

end HttpService
