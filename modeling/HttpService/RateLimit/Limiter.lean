import HttpService.Assoc
import HttpService.RateLimit.Bucket

/-!
# Rate limiters

A limiter keeps one bucket for each client. Every thousandth check first drops the buckets that nobody
touched for a while; a dropped bucket comes back full.
-/

set_option autoImplicit false

namespace HttpService

/-- Buckets by client, and the number of checks so far. -/
structure Limiter (α : Type) where
  /-- Tokens added per second. -/
  rate : α
  /-- The capacity of a bucket. -/
  burst : Nat
  buckets : Assoc (Bucket α)
  checks : Nat
  deriving Inhabited

namespace Limiter

variable {α : Type} [Amount α]

/-- A limiter that nobody asked yet. -/
def new (rate : α) (burst : Nat) : Limiter α := ⟨rate, burst, [], 0⟩

/-- A limiter of so many requests a minute, which may come all at once. -/
def perMinute (requests : Nat) : Limiter α := .new (Amount.perMinute requests) requests

/-- Stale buckets are dropped once in so many checks. -/
def cleanupInterval : Nat := 1000

/-- Whether the next check drops stale buckets. -/
def isCleanup (l : Limiter α) : Bool :=
  0 < l.checks && l.checks % cleanupInterval == 0

/-- The buckets that a check looks at. -/
def kept (l : Limiter α) (now : Nat) : Assoc (Bucket α) :=
  if l.isCleanup then l.buckets.filter fun (_, b) => !b.isStale now else l.buckets

/-- Takes a token of a client; otherwise gives the seconds until there is one. -/
def check (l : Limiter α) (key : String) (now : Nat) : Except α Unit × Limiter α :=
  let capacity : α := Amount.ofNat l.burst
  let buckets := l.kept now
  let bucket := (Assoc.find? key buckets).getD (.full capacity now)
  let (answer, bucket) := bucket.take l.rate capacity now
  (answer, { l with buckets := Assoc.insert key bucket buckets, checks := l.checks + 1 })

end Limiter

end HttpService
