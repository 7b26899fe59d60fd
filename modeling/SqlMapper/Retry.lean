import SqlMapper.Json.Shape
import SqlMapper.Text.Split

/-!
# Retrying

Which failures are worth another attempt, and how long to wait before it.

A server that restarts or drops idle sessions fails the next statement although
nothing is wrong with it. Such a failure is told by its code, and where the code
is lost by its wording. The wait grows linearly with the number of failures, and
the number of attempts is bounded.

## Main definitions

* `RetryPolicy`: How often, and how patiently.
* `RetryPolicy.backoff`: The wait after a failed attempt.
* `RetryPolicy.allows`: Whether another attempt may follow.
* `isTransient`: Whether a failure looks like a dropped session.

## Theorems

* `toNat_cappedProduct`: A product is only wrong if it is too large.
* `toNat_add_one_of_allows`: An attempt that may be followed by another can be counted up.
-/

namespace SqlMapper

/-- The product of two numbers of 64 bits, or the largest such number if it is too large. -/
def cappedProduct (a b : UInt64) : UInt64 :=
  UInt64.ofNat (min (a.toNat * b.toNat) (UInt64.size - 1))

theorem toNat_cappedProduct (a b : UInt64) :
    (cappedProduct a b).toNat = min (a.toNat * b.toNat) (UInt64.size - 1) := by
  simp only [cappedProduct, UInt64.toNat_ofNat', UInt64.size]
  omega

/-- How often a statement is attempted, and how patiently. -/
structure RetryPolicy where
  /-- The number of attempts, the first included. -/
  maxAttempts : UInt32 := 3
  /-- The wait after the first failure, in milliseconds. -/
  baseDelayMs : UInt64 := 100
  deriving Repr, DecidableEq

namespace RetryPolicy

/-- The policy that never retries. -/
def never : RetryPolicy where
  maxAttempts := 1
  baseDelayMs := 0

/-- The wait after a failed attempt, in milliseconds; attempts count from one. -/
def backoff (p : RetryPolicy) (attempt : UInt32) : UInt64 :=
  cappedProduct p.baseDelayMs attempt.toUInt64

/-- Whether another attempt may follow so many failed ones. -/
def allows (p : RetryPolicy) (attempt : UInt32) : Bool :=
  decide (attempt < p.maxAttempts)

theorem lt_of_allows {p : RetryPolicy} {attempt : UInt32} (h : p.allows attempt = true) :
    attempt.toNat < p.maxAttempts.toNat := by
  simpa only [allows, decide_eq_true_eq, UInt32.lt_iff_toNat_lt] using h

/-- An attempt that may be followed by another is not the last that can be counted. -/
theorem toNat_add_one_of_allows {p : RetryPolicy} {attempt : UInt32}
    (h : p.allows attempt = true) : (attempt + 1).toNat = attempt.toNat + 1 := by
  have hlt := lt_of_allows h
  have hmax := p.maxAttempts.toNat_lt
  rw [UInt32.toNat_add]
  simp only [UInt32.reduceToNat]
  omega

/-- A policy in JSON; an absent field has its default. -/
def shape : Json.Shape RetryPolicy := fun node => do
  let fields ← Json.Fields.read? ["maxAttempts", "baseDelayMs"] node
  let standard : RetryPolicy := { }
  let maxAttempts ← fields.getD 0 (Json.Shape.natural UInt32.size) standard.maxAttempts.toNat
  let baseDelayMs ← fields.getD 1 (Json.Shape.natural UInt64.size) standard.baseDelayMs.toNat
  return { maxAttempts := UInt32.ofNat maxAttempts, baseDelayMs := UInt64.ofNat baseDelayMs }

end RetryPolicy

/-- The codes of a session that has gone away or was lost. -/
def transientCodes : List Int64 := [2006, 2013]

/-- Wordings of a session that has gone away, was lost or could not be opened. -/
def transientWordings : List String :=
  ["server has gone away", "Lost connection", "Error connecting"]

/-- Whether a failure looks like a dropped session, by its code or by its wording. -/
def isTransient (code : Option Int64) (message : String) : Bool :=
  code.any transientCodes.contains || transientWordings.any (Text.hasFragment message)

end SqlMapper
