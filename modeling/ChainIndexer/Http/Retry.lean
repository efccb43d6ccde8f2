import ChainIndexer.Decimal.Binary64

/-!
# Waiting between attempts

The delay before an attempt grows by a factor with every failure, up to a cap, and a share of it is
added on top. The delay is computed in doubles: an overflow is infinite, and what is not a number
counts as the cap.
-/

namespace ChainIndexer

/-- How often and how long to wait; times are in milliseconds. -/
structure RetryConfig where
  maxRetries : Option UInt32 := some 3
  initialBackoff : UInt64 := 100
  maxBackoff : UInt64 := 10000
  multiplier : Binary64 := .ofNat 2
  jitterFraction : Binary64 := .ofRatio false 1 10
  deriving DecidableEq, Repr

namespace RetryConfig

/-- Doubling delays without an end and without a share on top. -/
def unbounded (initial max : UInt64) : RetryConfig :=
  { maxRetries := none, initialBackoff := initial, maxBackoff := max, multiplier := .ofNat 2,
    jitterFraction := .zero }

/-- Another attempt is allowed after so many failures. -/
def shouldRetry (c : RetryConfig) (failures : UInt32) : Bool :=
  match c.maxRetries with
  | some max => failures ≤ max
  | none => true

/-- How often the first delay is multiplied after so many failures. -/
def exponent (failures : UInt32) : Nat := min (failures.toNat - 1) 0x7FFFFFFF

/-- The delay after so many failures, whether another attempt is allowed or not. -/
def delay (c : RetryConfig) (failures : UInt32) : UInt64 :=
  let grown :=
    (Binary64.ofNat c.initialBackoff.toNat).mul (c.multiplier.pow (exponent failures))
  let capped := grown.min (.ofNat c.maxBackoff.toNat)
  let added := (capped.mul c.jitterFraction).mul (.ofRatio false 1 2)
  (capped.add added).toUInt64

/-- The delay before the next attempt after so many failures, when there is one. -/
def nextDelay? (c : RetryConfig) (failures : UInt32) : Option UInt64 :=
  if c.shouldRetry failures then some (c.delay failures) else none

end RetryConfig

end ChainIndexer
