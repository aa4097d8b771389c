import KeyvalOperator.Phases.Status
import KeyvalOperator.Reconcile.SentinelHelpers

/-!
# Sentinel phase

The quorum of the Sentinels becomes a condition. A Sentinel is reset after a quorum loss that lasts,
at most three times until the quorum is back, and after a change of the topology or a restored
quorum; cooldowns separate the resets. What has to survive the reconcile is kept in a tracker.
-/

namespace Keyval.Phases

open Go Interact

def sentinelResetObservationWindow : Duration := 30 * second
def sentinelResetCooldownSuccess : Duration := 2 * minute
def sentinelResetCooldownFailure : Duration := 45 * second
def sentinelResetMaxAttempts : Int := 3

inductive SentinelResetMode
  | none
  | quorumLoss
  | topology
  deriving DecidableEq

/-- The Sentinels that have to report a quorum. -/
def quorumTarget (cr : KeyValCluster) : Int :=
  let target := Status.expectedSentinels cr / 2 + 1
  if target < 1 then 1 else target

def readySentinels (st : State) : Nat := st.sentinelPods.countP isPodReady

/-! ## Quorum -/

structure QuorumCheck where
  ok : Bool
  reason : String
  detail : String
  deriving DecidableEq

/-- The reason and the detail for a report. -/
def quorumFinding (target : Int) (ready : Nat) (report : SentinelQuorumReport) :
    Option Error → QuorumCheck
  | some e =>
    { ok := false
      reason := "SentinelQuorumCheckFailed"
      detail := if report.detail = "" then e.msg else report.detail }
  | .none =>
    if report.healthy then
      { ok := true
        reason := "SentinelQuorumAchieved"
        detail := if report.detail = "" then "sentinel quorum ok=" ++ toString report.ok ++
          " target=" ++ toString target ++ " ready=" ++ toString ready else report.detail }
    else
      { ok := false
        reason := "SentinelQuorumLost"
        detail := if report.detail = "" then "sentinel quorum ok=" ++ toString report.ok ++
          " noquorum=" ++ toString report.noQuorum ++ " ready=" ++ toString ready ++
          " target=" ++ toString target else report.detail }

/-- A lost quorum without a detail is put down to the pods that are not ready. -/
def QuorumCheck.explain (check : QuorumCheck) (target : Int) (ready : Nat) : QuorumCheck :=
  if ¬ check.ok ∧ 0 < target ∧ (ready : Int) < target ∧ check.detail = "" then
    { check with detail := "ready sentinel pods " ++ toString ready ++ "/" ++ toString target }
  else check

def checkQuorum (st : State) : M QuorumCheck :=
  let target := quorumTarget st.cluster
  let ready := readySentinels st
  if ¬ st.sentinelFactory then
    let check : QuorumCheck :=
      ⟨false, "SentinelQuorumCheckFailed", "sentinel client factory not configured"⟩
    return check.explain target ready
  else do
    let (report, err) ← hasSentinelQuorum st.cluster st.sentinelPods st.sentinelFactory target
    return (quorumFinding target ready report err).explain target ready

/-- Insert a condition that is not there yet. -/
def overrideIfAbsent (overrides : Map ConditionState) (type : ConditionType)
    (cond : ConditionState) : Map ConditionState :=
  if type.str ∈ overrides then overrides else overrides.insert type.str cond

/-- The bootstrap condition names the candidate. -/
def nameCandidate (overrides : Map ConditionState) (cand : Bootstrap.Candidate) :
    Map ConditionState :=
  match overrides.lookup ConditionType.bootstrapInProgress.str with
  | some cond =>
    if cand.name ≠ "" then overrides.insert ConditionType.bootstrapInProgress.str
      { cond with message := cond.message ++ "; candidate " ++ cand.name ++ " via " ++ cand.source }
    else overrides
  | .none => overrides

/-- The conditions while the quorum is lost. -/
def lossOverrides (overrides : Map ConditionState) (cand : Bootstrap.Candidate) :
    Map ConditionState :=
  let overrides := overrideIfAbsent overrides .disruptionsPaused
    ⟨.true, "SentinelQuorum", "disruptions paused until sentinel quorum recovers"⟩
  let overrides := overrideIfAbsent overrides .bootstrapInProgress
    ⟨.true, "SentinelQuorum", "waiting for sentinel quorum"⟩
  nameCandidate overrides cand

/-- The conditions and the delay for the quorum. -/
def reportQuorum (st : State) (check : QuorumCheck) : State :=
  let overrides := st.conditionOverrides.insert ConditionType.sentinelQuorum.str
    ⟨if check.ok then .true else .false, check.reason, check.detail⟩
  if check.ok then { st with conditionOverrides := overrides }
  else
    ({ st with conditionOverrides := lossOverrides overrides st.runtime.bootstrapCandidate }
      ).requeueAfter (5 * second)

/-! ## Tracking -/

/-- The tracker, whether a reset is needed, and its mode. -/
structure ResetPlan where
  tracker : SentinelResetTracker
  need : Bool
  mode : SentinelResetMode

/-- A cooldown that has passed is over. -/
def expireCooldown (tracker : SentinelResetTracker) (now : Time) : SentinelResetTracker :=
  if tracker.cooldownUntil ≠ 0 ∧ ¬ now < tracker.cooldownUntil then
    { tracker with cooldownUntil := 0 }
  else tracker

/-- With quorum the tracker starts anew, and a loss that it recorded calls for a reset. Without, the
cooldown is dropped and the loss recorded. -/
def planReset (st : State) (check : QuorumCheck) (tracker : SentinelResetTracker) (now : Time) :
    ResetPlan :=
  let newTracker := expireCooldown tracker now
  let need := st.runtime.needSentinelReset
  if check.ok then
    let need := need || decide (tracker.lossSince ≠ 0)
    { tracker := { newTracker with lossSince := 0, attempts := 0 }
      need
      mode := if need then .topology else .none }
  else
    { tracker := { newTracker with
        cooldownUntil := 0
        lossSince := if newTracker.lossSince = 0 then now else newTracker.lossSince }
      need := need || decide (quorumTarget st.cluster ≤ readySentinels st)
      mode := .quorumLoss }

/-! ## Resets -/

/-- A failover is in progress, by this reconcile or by the status. -/
def failoverActive (st : State) : Bool :=
  (st.conditionOverrides.lookup ConditionType.failoverInProgress.str).any (·.status = .true) ||
    (conditionStatus st.cluster.status.conditions .failoverInProgress).any (·.status = .true)

/-- Come back when the cooldown is over. -/
def requeueUntil (st : State) (until_ : Time) : M State := do
  let now ← ask .now
  let delay := timeSub until_ now
  return st.requeueAfter (if delay ≤ 0 then 2 * second else delay)

/-- Start the cooldown after a failure. -/
def coolDown (st : State) (tracker : SentinelResetTracker) (now : Time) :
    M (State × SentinelResetTracker) := do
  let tracker := { tracker with
    cooldownUntil := normalizeTimestamp (now + sentinelResetCooldownFailure) }
  let st ← requeueUntil st tracker.cooldownUntil
  return (st, tracker)

/-- The cooldown and the event after a reset. -/
def resetDone (st : State) (tracker : SentinelResetTracker) (now : Time) (pod : String) :
    M (State × SentinelResetTracker) := do
  ask (.event (.sentinelResetDone pod))
  return (st.requeueAfter (5 * second),
    { tracker with cooldownUntil := normalizeTimestamp (now + sentinelResetCooldownSuccess) })

/-- The reset after a quorum loss: once the loss has lasted, and while there are attempts left. -/
def quorumLossReset (st : State) (tracker : SentinelResetTracker) (now : Time) :
    M (State × SentinelResetTracker) :=
  let tracker := { tracker with
    lossSince := if tracker.lossSince = 0 then now else tracker.lossSince }
  let elapsed := timeSub now tracker.lossSince
  if elapsed < sentinelResetObservationWindow then
    let wait := wrap64 (sentinelResetObservationWindow - elapsed)
    return (st.requeueAfter (if wait ≤ 0 then 2 * second else wait), tracker)
  else if sentinelResetMaxAttempts ≤ tracker.attempts then coolDown st tracker now
  else do
    let res ← issueSentinelReset st.sentinelPods st.cluster.name
    let tracker := { tracker with attempts := tracker.attempts + 1, lossSince := now }
    match res with
    | .error _ => coolDown st tracker now
    | .ok pod => resetDone st tracker now pod

/-- The reset after a change of the topology or a restored quorum. -/
def topologyReset (st : State) (tracker : SentinelResetTracker) (now : Time) :
    M (State × SentinelResetTracker) := do
  match ← issueSentinelReset st.sentinelPods st.cluster.name with
  | .error _ => coolDown st tracker now
  | .ok pod => resetDone st { tracker with attempts := 0 } now pod

/-- The reset in its mode, unless a cooldown is active or too few Sentinels are ready. -/
def attemptReset (st : State) (plan : ResetPlan) (now : Time) :
    M (State × SentinelResetTracker) :=
  let tracker := plan.tracker
  if tracker.cooldownUntil ≠ 0 ∧ now < tracker.cooldownUntil then do
    let st ← requeueUntil st tracker.cooldownUntil
    return (st, tracker)
  else if (readySentinels st : Int) < quorumTarget st.cluster then
    return (st.requeueAfter (5 * second), tracker)
  else match plan.mode with
    | .quorumLoss => quorumLossReset st tracker now
    | .topology => topologyReset st tracker now
    | .none => return (st, tracker)

def manageReset (st : State) (plan : ResetPlan) : M (State × SentinelResetTracker) :=
  if plan.mode ≠ .none ∧ st.sentinelFactory ∧ st.sentinelPods ≠ [] ∧
      0 < quorumTarget st.cluster then
    if failoverActive st then return (st.requeueAfter (5 * second), plan.tracker)
    else do
      let now ← ask .now
      attemptReset st plan (normalizeTimestamp now)
  else return (st, plan.tracker)

/-! ## Phase -/

/-- What the phase leaves in the state. -/
def finishSentinel (st : State) (cr : KeyValCluster) (need : Bool) (check : QuorumCheck) : State :=
  { st with
    cluster := cr
    runtime := { st.runtime with needSentinelReset := need }
    sentinel := {
      quorumOK := check.ok
      detail := check.detail
      managed := true
      ready := readySentinels st
      quorumTarget := quorumTarget st.cluster
      reason := check.reason } }

def sentinel (F : Formats) (st : State) : M (State × Option Error) :=
  if st.cluster.spec.mode ≠ .sentinel then
    return ({ st with sentinel := { quorumOK := true, detail := "" } }, none)
  else do
    let st := st.requeueIf ((st.sentinelPods.length : Int) < Status.expectedSentinels st.cluster)
      (2 * second)
    let now ← ask .now
    let tracker := readSentinelResetTracker F st.cluster.annotations
    let check ← checkQuorum st
    let st := reportQuorum st check
    let plan := planReset st check tracker (normalizeTimestamp now)
    let (st, tracker) ← manageReset st plan
    -- an error of the write is only logged
    let (cr, _) ← writeSentinelResetTracker F st.cluster tracker
    return (finishSentinel st cr plan.need check, none)

end Keyval.Phases
