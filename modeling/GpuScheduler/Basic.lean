import Mathlib.Data.BitVec
/-
# Machine integers, time and the error values of the scheduler

The Go code computes with `int` and `int64`, which are 64-bit two's-complement on every platform
the repository builds for; they are `BitVec 64` here, compared with the SIGNED order
(`BitVec.slt`, `BitVec.sle`), so that every `+` and `-` of the source wraps exactly as Go's does.

A `time.Time` is an `Int` count of nanoseconds, and so is a `time.Duration`.  `time.Time.Sub` saturates at the bounds of
`time.Duration` instead of wrapping, and `Time.sub` does the same; `Before` is `<`.

Errors are values (`Err`): the sentinels of `pkg/utils/errors.go` the modelled code returns,
`fmt.Errorf` with and without `%w`, and the struct errors with their fields.  `errors.Is` looks
through `%w` wrappers only (`Err.is`), which is what `utils.IsResourceError` relies on.
-/

namespace GpuScheduler

/-- The largest `time.Duration`. -/
def maxDuration : Int := 9223372036854775807

/-- The smallest `time.Duration`. -/
def minDuration : Int := -9223372036854775808

/-- Go's `t.Sub(u)`: the difference, saturated to the range of `time.Duration`. -/
def Time.sub (t u : Int) : Int :=
  max minDuration (min maxDuration (t - u))

/-- Go's `time.Minute`. -/
def minute : Int := 60 * 1000000000

/-- Saturation keeps the sign of the difference, so `time.Since(t) > 0` means `t` is past. -/
theorem Time.sub_pos {t u : Int} : 0 < Time.sub t u ↔ u < t := by
  unfold Time.sub maxDuration minDuration
  omega

/-! ## Errors -/

/-- The sentinel errors of `utils` that the modelled code produces or tests for. -/
inductive Sentinel where
  | insufficientResources
  | gpuNotFound
  | nodeNotFound
  | jobNotFound
  | tenantNotFound
  | allocationNotFound
  | gangSchedulingFailed
  | quotaExceeded
  deriving DecidableEq, Repr

/-- An `error` value of the modelled code. -/
inductive Err where
  /-- One of the `utils.Err*` sentinels. -/
  | sentinel (s : Sentinel)
  /-- A `fmt.Errorf(msg)` with no wrapped error. -/
  | text (msg : String)
  /-- A `fmt.Errorf("msg: %w", inner)`. -/
  | wrap (msg : String) (inner : Err)
  /-- The struct error `utils.QuotaExceededError`. -/
  | quotaExceeded (tenantID resource : String) (requested quota current : BitVec 64)
  /-- The struct error `core.QueueFullError`. -/
  | queueFull (maxSize : Int)
  /-- The struct error `core.JobAlreadyInQueueError`. -/
  | jobAlreadyInQueue (jobID : String)
  /-- A write the store refuses: a second row under a primary key already taken. -/
  | duplicateKey (key : String)
  deriving DecidableEq, Repr

/-- Go's `errors.Is(err, target)` for a sentinel target: unwraps `%w` chains. -/
def Err.is : Err → Sentinel → Bool
  | .sentinel s, t => s == t
  | .wrap _ e, t => e.is t
  | _, _ => false

/-- Go's `utils.IsResourceError`.  The `errors.As` half looks for an `InsufficientResourcesError`,
which no modelled function constructs, so only the sentinel half can hold. -/
def isResourceError (e : Err) : Bool := e.is .insufficientResources

/-- Go's `utils.IsQuotaExceeded`. -/
def isQuotaExceeded : Err → Bool
  | .quotaExceeded .. => true
  | e => e.is .quotaExceeded

/-- Go's `utils.IsNotFound`. -/
def isNotFound (e : Err) : Bool :=
  e.is .jobNotFound || e.is .tenantNotFound || e.is .gpuNotFound || e.is .nodeNotFound ||
    e.is .allocationNotFound

end GpuScheduler
