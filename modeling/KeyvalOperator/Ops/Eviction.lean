import KeyvalOperator.Api.Op

/-!
# Evictions

`eviction.Manager.Evict`: the attempts to evict a pod, with a backoff between them. A pod that is
gone counts as evicted; a refusal by a disruption budget is marked `rejected`.
-/

namespace Keyval.Eviction

open Go Interact

structure Settings where
  maxAttempts : Int := 0
  initialBackoff : Duration := 0
  maxBackoff : Duration := 0
  deriving DecidableEq

def errRejected : Error := { msg := "eviction rejected", rejected := true }

def applyDefaults (s : Settings) : Settings :=
  let initial := if s.initialBackoff < 0 then second else s.initialBackoff
  let max := if s.maxBackoff < 0 then 5 * second else s.maxBackoff
  { maxAttempts := if s.maxAttempts ≤ 0 then 3 else s.maxAttempts
    initialBackoff := initial
    maxBackoff := if max < initial then initial else max }

/-- The backoff after an attempt: the initial one, doubled each time, up to the maximum. -/
def nextBackoff (s : Settings) (attempt : Nat) : Duration :=
  if s.initialBackoff = 0 then 0
  else if attempt = 0 then s.initialBackoff
  else
    let multiplier := wrap64 (2 ^ (attempt - 1))
    let candidate := wrap64 (s.initialBackoff * multiplier)
    if 0 < multiplier ∧ candidate.tdiv multiplier ≠ s.initialBackoff then s.maxBackoff
    else if s.maxBackoff < candidate then s.maxBackoff
    else candidate

def attemptError (e : Error) : Error × Bool :=
  match e.reason with
  | .contextDone => (.wrapTransient (.wrap "eviction timed out" e), false)
  | .tooManyRequests => (.wrapTransient (.join [errRejected, e]), false)
  | .forbidden => (.wrapFatal (.wrap "eviction forbidden" e), true)
  | _ => (.wrapTransient (.wrap "eviction attempt failed" e), false)

def wait (backoff : Duration) : M (Option Error) :=
  if 0 < backoff then ask .ctxErr else return none

/-- The attempts from number `attempt` on, `left + 1` of them. -/
def evictFrom (s : Settings) (pod : Pod) : Nat → Nat → M (Option Error)
  | left, attempt => do
    match ← ask .ctxErr with
    | some e => return some (.wrapTransient (.wrap "eviction context cancelled" e))
    | none =>
      match ← ask (.evictPod pod.ns pod.name) with
      | .ok () => return none
      | .error e =>
        if e.reason = .notFound then return none
        else
          let (err, final) := attemptError e
          match left with
          | 0 => return some err
          | left + 1 =>
            if final then return some err
            else
              match ← wait (nextBackoff s attempt) with
              | some e => return some (.wrapTransient (.wrap "eviction backoff interrupted" e))
              | none => evictFrom s pod left (attempt + 1)

def evict (settings : Settings) (pod : Pod) : M (Option Error) :=
  let s := applyDefaults settings
  evictFrom s pod (s.maxAttempts.toNat - 1) 1

end Keyval.Eviction
