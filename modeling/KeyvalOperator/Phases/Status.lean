import KeyvalOperator.Ops.Status
import KeyvalOperator.Phases.Runtime

/-!
# Status phase

The status of the cluster is computed from what the phases found, events report the changes of the
Sentinel quorum and of the bootstrap, and the status is written. The computation is made twice, for
the events and for the write.
-/

namespace Keyval.Phases

open Go Interact

def ensureSourceToRolesSource : Replication.EnsureSource → Option RolesSource
  | .sentinel => some .sentinel
  | .cache => some .sentinel
  | .probe => some .probe
  | .forced => some .forced
  | .unknown => none

/-- The first condition of a type. -/
def conditionStatus (conds : List Condition) (type : ConditionType) : Option Condition :=
  conds.find? (·.type = type.str)

def sentinelQuorumRecoverableReasons : List String :=
  ["SentinelQuorumNotReady", "InsufficientSentinels", "SentinelQuorumLost", "SentinelQuorumUnknown",
    "SentinelQuorumCheckFailed", "SentinelQuorum"]

/-- Disruptions of Sentinel pods are allowed, also to recover a lost quorum. -/
def allowSentinelDisruptions (status : KeyValClusterStatus) : Bool :=
  if status.healthGate = some true then true
  else
    match conditionStatus status.conditions .sentinelQuorum with
    | none => false
    | some quorum =>
      if quorum.status = .false ∧ quorum.reason ∈ sentinelQuorumRecoverableReasons then
        match conditionStatus status.conditions .disruptionsPaused with
        | none => true
        | some paused => !(paused.status = .true && paused.reason ≠ "SentinelQuorum")
      else false

/-- What the phases found. -/
def clusterState (st : State) : Status.ClusterState where
  master := st.runtime.master
  pods := st.redisPods
  roles := st.runtime.roles
  sentinelPods := st.sentinelPods
  health := st.runtime.health
  lagSeconds := st.runtime.lagSeconds
  rolesSource := ensureSourceToRolesSource st.runtime.topology.source
  rolesReason := st.runtime.topology.reason
  runtimeConfig := st.runtime.runtimeCondition
  conditions := st.conditionOverrides
  externalImport := st.importStatus

/-- The events of the Sentinel quorum, from the conditions before and after. -/
def quorumEvents (prev want : Option Condition) : M Unit :=
  match want with
  | none => return
  | some want => do
    let prevStatus := prev.map (·.status)
    event (prevStatus ≠ some .false ∧ want.status = .false) (.sentinelQuorumLost want.message)
    event (prevStatus = some .false ∧ want.status = .true) (.sentinelQuorumRestored want.message)

/-- The events of the bootstrap, from the conditions before and after. -/
def bootstrapEvents (prev want : Option Condition) (master : String) : M Unit := do
  let running (c : Option Condition) : Bool := c.map (·.status) = some .true
  let message := (want.map (·.message)).getD ""
  event (running want ∧ ¬ running prev)
    (.bootstrapStart (if message = "" then "bootstrap sequence started" else message))
  event (running prev ∧ ¬ running want)
    (.bootstrapFinish
      (if master ≠ "" then "bootstrap complete, master=" ++ master else "bootstrap complete"))

/-- The state, the cluster with its new status, and the error. -/
def status (cr : KeyValCluster) (st : State) : M (State × KeyValCluster × Option Error) := do
  let now ← ask .now
  let want := Status.computeStatus cr (clusterState st) now
  quorumEvents (conditionStatus cr.status.conditions .sentinelQuorum)
    (conditionStatus want.conditions .sentinelQuorum)
  bootstrapEvents (conditionStatus cr.status.conditions .bootstrapInProgress)
    (conditionStatus want.conditions .bootstrapInProgress) want.masterPod
  let st := { st with status := {
    computed := want
    allowDisruptions := want.healthGate.getD false
    allowSentinel := allowSentinelDisruptions want } }
  let (cr, err) ← Status.updateStatus cr (clusterState st)
  return (st, cr, err.map fun e => .wrapTransient (.wrap "update status" e))

end Keyval.Phases
