import HttpService.Decimal.Shortest
import HttpService.Duration
import HttpService.Http.Request
import HttpService.RateLimit.Limiter
import HttpService.Text.Blank

/-!
# Whom a limit is for

A limit counts requests by client address, by address and route, or by a key of one's own. A rejected
client is told to wait whole seconds, at least one.
-/

set_option autoImplicit false

namespace HttpService

/-- Numbers of seconds that a client may be told to wait. -/
class WaitTime (α : Type) where
  /-- The seconds of a wait, rounded up; none for a wait that no duration holds. -/
  wholeSeconds? : α → Option Nat

instance : WaitTime Float where
  wholeSeconds? wait := (Duration.ofSeconds? wait).map fun d => d.toSeconds.ceil.toUInt64.toNat

instance : WaitTime Rat where
  wholeSeconds? wait := if 0 ≤ wait ∧ wait < 18446744073709551616 then some wait.ceil.toNat else none

/-- What requests are counted by. -/
inductive ClientKey
  | ip
  | ipAndRoute
  | custom (key : Request → String)

/-- The settings of a limit. -/
structure RateLimit where
  rate : Float
  burst : Nat
  key : ClientKey

namespace ClientKey

/-- The address of the client: the first forwarded one, the real one, the peer. -/
def clientIp (r : Request) : String :=
  let forwarded := (r.headers.text? "x-forwarded-for").map (Text.before · ',')
  match forwarded.or (r.headers.text? "x-real-ip") with
  | some address => Text.trim address
  | none => (r.remote.map (·.ip)).getD "unknown"

/-- The key of a request. -/
def extract (k : ClientKey) (r : Request) : String :=
  match k with
  | .ip => clientIp r
  | .ipAndRoute => clientIp r ++ " " ++ r.method ++ " " ++ r.routeOrPath
  | .custom f => f r

/-- How logs show a key. -/
def describe : ClientKey → String
  | .ip => "KeyExtractor::Ip"
  | .ipAndRoute => "KeyExtractor::IpAndRoute"
  | .custom _ => "KeyExtractor::Custom(..)"

end ClientKey

namespace RateLimit

/-- A limit of so many requests a minute. -/
def perMinute (requests : Nat) : RateLimit :=
  ⟨Amount.perMinute requests, requests, .ip⟩

/-- Rates are shown positional from 1e-4 up to 1e16, else with an exponent. -/
def rateLayout : Decimal.Layout where
  positional e := -4 ≤ e && e < 16
  pointZero := true
  plus := false

/-- How logs show a limit. -/
def describe (l : RateLimit) : String :=
  "RateLimitConfig \x7b requests_per_second: " ++ rateLayout.float l.rate ++ ", burst: " ++
    toString l.burst ++ ", key_extractor: " ++ l.key.describe ++ " \x7d"

/-- The limiter of the limit. -/
def limiter (l : RateLimit) : Limiter Float := .new l.rate l.burst

theorem limiter_perMinute (requests : Nat) : (perMinute requests).limiter = .perMinute requests := rfl

/-- The seconds to wait for a client whose bucket never refills: until the bucket is dropped. -/
def longestWait : Nat := Bucket.staleAfter / Duration.second

/-- The whole seconds a rejected client is told to wait. -/
def retryAfter {α : Type} [WaitTime α] (wait : α) : Nat :=
  max 1 ((WaitTime.wholeSeconds? wait).getD longestWait)

end RateLimit

end HttpService
