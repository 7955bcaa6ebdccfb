/-!
# Token buckets

A bucket holds tokens up to a capacity and refills at a constant rate, worked out at each check. A check
takes one token or is told how long the next one takes. The arithmetic is a parameter, so that the
laws can be stated exactly and the service can run on doubles.
-/

set_option autoImplicit false

namespace HttpService

/-- Numbers that count tokens. -/
class Amount (α : Type) extends Add α, Sub α, Mul α, Div α, LE α where
  one : α
  ofNat : Nat → α
  /-- The seconds in a number of nanoseconds. -/
  seconds : Nat → α
  decLe : DecidableRel (LE.le (α := α))

instance instDecidableLe {α : Type} [Amount α] : DecidableRel (LE.le (α := α)) := Amount.decLe

instance : Amount Float where
  one := 1.0
  ofNat := Float.ofNat
  seconds n := Float.ofNat (n / 1000000000) + Float.ofNat (n % 1000000000) / 1000000000.0
  decLe := fun _ _ => inferInstance

instance : Amount Rat where
  one := 1
  ofNat n := n
  seconds n := (n : Rat) / 1000000000
  decLe := fun _ _ => inferInstance

/-- The rate of so many tokens a minute. -/
def Amount.perMinute {α : Type} [Amount α] (tokens : Nat) : α :=
  Amount.ofNat tokens / Amount.ofNat 60

/-- Tokens, and the time in nanoseconds at which they were last worked out. -/
structure Bucket (α : Type) where
  tokens : α
  refilled : Nat
  deriving Repr, Inhabited

namespace Bucket

variable {α : Type} [Amount α]

/-- A full bucket. -/
def full (capacity : α) (now : Nat) : Bucket α := ⟨capacity, now⟩

/-- The tokens at a later time, never more than the capacity. -/
def tokensAt (rate capacity : α) (b : Bucket α) (now : Nat) : α :=
  let tokens := b.tokens + Amount.seconds (now - b.refilled) * rate
  if tokens ≤ capacity then tokens else capacity

/-- Takes a token; otherwise gives the seconds until there is one. -/
def take (rate capacity : α) (b : Bucket α) (now : Nat) : Except α Unit × Bucket α :=
  let tokens := b.tokensAt rate capacity now
  if (Amount.one : α) ≤ tokens then (.ok (), ⟨tokens - Amount.one, now⟩)
  else (.error ((Amount.one - tokens) / rate), ⟨tokens, now⟩)

/-- Buckets untouched for this long are dropped. -/
def staleAfter : Nat := 600 * 1000000000

/-- Whether a bucket was untouched for so long that it is dropped. -/
def isStale (b : Bucket α) (now : Nat) : Bool :=
  staleAfter ≤ now - b.refilled

end Bucket

end HttpService
