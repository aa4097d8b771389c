import KeyvalOperator.Controller

/-!
# The pipeline and its backoff

`Pipeline.Run` reads the cluster and runs the reconcile, and resets the backoff of the cluster when
that does not ask to be run again. `backoffTracker` counts the delays that were asked for since.
-/

namespace Keyval.Controller

open Go Interact

/-! ## Backoff -/

def backoffSteps : List Duration :=
  [3 * second, 6 * second, 12 * second, 24 * second, 48 * second, 60 * second]

/-- A draw of the jitter: what `time.Duration(float64(base) * jitter)` is for each step. The factor
is between 0.9 and 1.1. -/
structure Jitter where
  scale : Duration → Duration
  within : ∀ base ∈ backoffSteps, 9 * base ≤ 10 * scale base ∧ 10 * scale base ≤ 11 * base

/-- `backoffTracker`: the attempts of each key. -/
abbrev BackoffTracker := Map Nat

namespace BackoffTracker

def entryKey (key : String) : String := if key = "" then "default" else key

variable (b : BackoffTracker) (key : String)

def attempts : Nat := (b.lookup (entryKey key)).getD 0

def next (jitter : Jitter) : Duration × BackoffTracker :=
  let attempts := if backoffSteps.length < b.attempts key + 1 then backoffSteps.length
    else b.attempts key + 1
  let base := backoffSteps.getD (attempts - 1) 0
  let delay := if base ≤ 0 then 0 else if jitter.scale base ≤ 0 then base else jitter.scale base
  (delay, b.insert (entryKey key) attempts)

def reset : BackoffTracker := b.erase (entryKey key)

def applyBackoffDelay (jitter : Jitter) (base : Duration) : Duration × BackoffTracker :=
  let delay := if base < 0 then 0 else base
  let (backoffDelay, b) := b.next key jitter
  (if delay < backoffDelay then backoffDelay else delay, b)

end BackoffTracker

/-- `shouldEmitNoGoodSlaveEvent` at `now`; `last` is `goodSlaveEventCooldown.last`. -/
def shouldEmitNoGoodSlaveEvent (last : Map Time) (key : String) (now : Time) : Bool × Map Time :=
  match last.lookup key with
  | some t => if timeSub now t < 30 * second then (false, last) else (true, last.insert key now)
  | none => (true, last.insert key now)

/-! ## Pipeline -/

/-- `Pipeline.Run` after the read of the cluster. -/
def pipelineRun (F : Formats) (settings : Eviction.Settings) : Result State → M Outcome
  | .error e =>
    if e.reason = .notFound then return {}
    else return { err := some (.wrapTransient (.wrap "get KeyValCluster" e)) }
  | .ok st => do
    match ← reconcileClusterImpl F settings st with
    | .ok () => return {}
    | .error o => return o

/-- The test of the deferred `ResetBackoff`. -/
def resetsBackoff (o : Outcome) : Bool := o.err.isSome || o.requeueAfter ≤ 0

end Keyval.Controller
