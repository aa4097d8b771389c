import KeyvalOperator.Api.Op
import KeyvalOperator.Core.Storage
import KeyvalOperator.Ops.Health

/-!
# Status

`ops/status`: `computeStatus` derives the whole status from the state of the cluster, the roles with
their health, the conditions, and the gate that allows disruptions only when all of eight conditions
agree; `updateStatus` writes it when it differs from the present one.
-/

namespace Keyval.Status

open Go Interact

structure ClusterState where
  master : String := ""
  pods : List Pod := []
  roles : Map PodRole := ∅
  sentinelPods : List Pod := []
  health : Map PodHealth := ∅
  lagSeconds : Map Int := ∅
  rolesSource : Option RolesSource := none
  rolesReason : String := ""
  runtimeConfig : Option ConditionState := none
  /-- The conditions that the phases impose. -/
  conditions : Map ConditionState := ∅
  externalImport : Option ExternalImportStatus := none

section
variable (cr : KeyValCluster) (st : ClusterState) (now : Time)

/-! ## Roles -/

/-- The role of a Redis pod; a pod without one is a replica unless it is the master. -/
def roleOf (p : Pod) : PodRole :=
  match st.roles.lookup p.name with
  | some r => r
  | none => if st.master ≠ "" ∧ p.name = st.master then .master else .replica

/-- The health of a pod; without one, what its readiness says. -/
def healthOf (p : Pod) : PodHealth :=
  match st.health.lookup p.name with
  | some health => health
  | none => if isPodReady p then .healthy else .offline

/-- The entry of a pod in the status before; the last one counts. -/
def prevRole (name : String) : Option PodRoleStatus :=
  cr.status.roles.reverse.find? (·.name = name)

/-- The time of the last change: none when only health or lag have changed. -/
def roleTransition (prev : Option PodRoleStatus) (entry : PodRoleStatus) : Option Time :=
  match prev with
  | none => some now
  | some prev =>
    if prev.role = entry.role ∧ prev.ready = entry.ready then
      if prev.health = entry.health ∧ prev.lagSeconds = entry.lagSeconds then
        prev.lastTransitionTime
      else none
    else some now

def roleEntry (p : Pod) (role : PodRole) : PodRoleStatus :=
  let entry : PodRoleStatus := {
    name := p.name
    role
    ready := isPodReady p
    health := some (healthOf st p)
    lagSeconds := st.lagSeconds.lookup p.name }
  { entry with lastTransitionTime := roleTransition now (prevRole cr p.name) entry }

def roleEntries : List PodRoleStatus :=
  (st.pods.map fun p => roleEntry cr st now p (roleOf st p)) ++
    st.sentinelPods.map fun p => roleEntry cr st now p .sentinel

/-- What the loop over the Redis pods says of masters: their number, and readiness and health of the
last one. -/
structure Masters where
  count : Nat := 0
  ready : Bool := false
  health : PodHealth := .healthy
  deriving DecidableEq

def Masters.add (m : Masters) (p : Pod) : Masters :=
  if roleOf st p = .master then ⟨m.count + 1, isPodReady p, healthOf st p⟩ else m

def masters : Masters := st.pods.foldl (Masters.add st) {}

def readyReplicas : Nat := st.pods.countP isPodReady

/-! ## Conditions -/

/-- A message with the source of the roles. -/
def augmentReplicationMessage (msg : String) : String :=
  match st.rolesSource with
  | none => msg
  | some source =>
    let detail := "rolesSource=" ++ source.str
    let detail := if st.rolesReason ≠ "" then detail ++ " reason=" ++ st.rolesReason else detail
    if msg = "" then detail else if contains msg detail then msg else msg ++ "; " ++ detail

def computeAvailableCondition (m : Masters) : ConditionState :=
  if st.pods = [] then
    ⟨.unknown, "NoPods", augmentReplicationMessage st "redis pods have not been created yet"⟩
  else if st.master = "" then ⟨.false, "MasterUnknown", "master pod undetermined"⟩
  else if m.count ≠ 1 then
    ⟨.false, "MasterElection", "observed " ++ toString m.count ++ " master candidates"⟩
  else if ¬ m.ready then
    ⟨.false, "MasterNotReady", "master pod " ++ st.master ++ " is not Ready"⟩
  else ⟨.true, "MasterReady", "master pod " ++ st.master ++ " is ready"⟩

def expectedSentinels : Int :=
  match cr.spec.sentinelCount with
  | some n => if 0 < n then n else 3
  | none => 3

/-- The Sentinels that are ready and not being deleted. -/
def readySentinels : Nat :=
  st.sentinelPods.countP fun p => p.deletionTimestamp.isNone && isPodReady p

def computeSentinelCondition : ConditionState :=
  if cr.spec.mode ≠ .sentinel then
    ⟨.true, "SentinelNotRequired", "sentinel quorum not required in Standalone mode"⟩
  else
    let expected := expectedSentinels cr
    let observed : Int := (st.sentinelPods.countP fun p => p.deletionTimestamp.isNone : Nat)
    let ready : Int := readySentinels st
    let quorum := expected / 2 + 1
    if observed < expected then
      ⟨.false, "InsufficientSentinels",
        "observed " ++ toString observed ++ "/" ++ toString expected ++ " sentinel pods"⟩
    else if ready < quorum then
      ⟨.false, "SentinelQuorumNotReady",
        "ready sentinel pods " ++ toString ready ++ ", quorum " ++ toString quorum⟩
    else
      ⟨.true, "SentinelQuorumAchieved",
        "ready sentinel pods " ++ toString ready ++ "/" ++ toString expected⟩

/-- The health of a replica; one without an entry is offline, ready or not. -/
def replicaHealth (p : Pod) : PodHealth := (st.health.lookup p.name).getD .offline

/-- The healthy members and the issues that the loop over the replicas counts. -/
structure Members where
  healthy : Nat := 0
  replicas : Nat := 0
  issues : List String := []
  deriving DecidableEq

def Members.addMaster (masterHealth : PodHealth) : Members :=
  if st.master = "" then {}
  else if masterHealth = .healthy then { healthy := 1 }
  else { issues := ["master " ++ st.master ++ " health=" ++ masterHealth.str] }

def Members.addReplica (m : Members) (p : Pod) : Members :=
  if st.roles.lookup p.name = some .replica then
    if replicaHealth st p = .healthy then
      { m with replicas := m.replicas + 1, healthy := m.healthy + 1 }
    else
      { m with
        replicas := m.replicas + 1
        issues := m.issues ++ ["replica " ++ p.name ++ " health=" ++ (replicaHealth st p).str] }
  else m

def members (masterHealth : PodHealth) : Members :=
  let m := st.pods.foldl (Members.addReplica st) (Members.addMaster st masterHealth)
  if m.replicas = 0 ∧ cr.spec.mode ≠ .standalone then
    { m with issues := m.issues ++ ["no replica pods available"] }
  else m

def computeReplicationHealthyCondition (masterHealth : PodHealth) (requiredMembers : Int) :
    ConditionState :=
  if st.pods = [] then ⟨.unknown, "NoPods", "redis pods have not been created yet"⟩
  else
    let m := members cr st masterHealth
    let issues := String.intercalate "; " m.issues
    if (m.healthy : Int) < requiredMembers then
      let message := "healthy members " ++ toString m.healthy ++ " below safety threshold " ++
        toString requiredMembers
      let message := if m.issues ≠ [] then message ++ "; " ++ issues else message
      ⟨.false, "InsufficientHealthyMembers", augmentReplicationMessage st message⟩
    else if m.issues ≠ [] then
      ⟨.false, "ReplicaUnhealthy", augmentReplicationMessage st issues⟩
    else
      ⟨.true, "ReplicationAligned",
        augmentReplicationMessage st (toString m.healthy ++ " healthy members")⟩

def computeFailoverCondition (masters : Nat) : ConditionState :=
  if masters = 1 then ⟨.false, "Stable", "single master observed"⟩
  else if masters = 0 then ⟨.true, "NoMaster", "master election in progress"⟩
  else ⟨.true, "MultipleMasters", "observed " ++ toString masters ++ " masters"⟩

/-- The members that must be healthy: one in Standalone mode. -/
def requiredMembers : Int :=
  let required := (Health.settingsFor cr).minReplicasForSafety
  let required := if cr.spec.mode = .standalone ∧ 1 < required then 1 else required
  if required < 1 then 1 else required

def storageState : ConditionState :=
  if ¬ hasPersistentData cr then
    ⟨.true, "EphemeralStorage", "Ephemeral storage configured; no PVC cleanup required"⟩
  else if storageCleanupEnabled cr then
    ⟨.true, "CleanupEnabled", "PVCs will be deleted when the cluster is removed"⟩
  else ⟨.true, "RetentionPolicy", "PVC cleanup disabled; resources retained after deletion"⟩

/-- The conditions in their order, as they are without the phases' own. -/
def defaultStates : List (ConditionType × ConditionState) :=
  let m := masters st
  [(.reconciled, ⟨.true, "Success", "Reconcile completed"⟩),
    (.available, computeAvailableCondition st m),
    (.sentinelQuorum, computeSentinelCondition cr st),
    (.replicationHealthy, computeReplicationHealthyCondition cr st m.health (requiredMembers cr)),
    (.failoverInProgress, computeFailoverCondition m.count),
    (.disruptionsPaused, ⟨.false, "DisruptionsAllowed", "no disruption pause requested"⟩),
    (.upgradeInProgress, ⟨.false, "Idle", "no upgrade in progress"⟩),
    (.bootstrapInProgress, ⟨.false, "Idle", "bootstrap complete"⟩),
    (.externalImport, ⟨.true, "Disabled", "external import not configured"⟩),
    (.storageCleanup, storageState cr)]

/-- A condition in the status before; the last one counts. -/
def prevCondition (type : String) : Option Condition :=
  cr.status.conditions.reverse.find? (·.type = type)

/-- A condition for the status; it keeps its time while status and reason stay. -/
def build (type : ConditionType) (state : ConditionState) : Condition :=
  { type := type.str
    status := state.status
    reason := state.reason
    message := state.message
    lastTransitionTime := match prevCondition cr type.str with
      | some prev =>
        if prev.status = state.status ∧ prev.reason = state.reason then prev.lastTransitionTime
        else now
      | none => now
    observedGeneration := cr.generation }

/-- The conditions that are always there, with the phases' own in place of the defaults. -/
def builtConditions : List Condition :=
  (defaultStates cr st).map fun (type, state) =>
    build cr now type ((st.conditions.lookup type.str).getD state)

/-- The condition of the runtime configuration, or the one before. -/
def runtimeConditions : List Condition :=
  match st.runtimeConfig with
  | some state => [build cr now .runtimeConfigApplied state]
  | none => (prevCondition cr ConditionType.runtimeConfigApplied.str).toList

/-! ## Status -/

def conditionSatisfied (conds : List Condition) (type : ConditionType) (wantTrue : Bool) : Bool :=
  match conds.find? (·.type = type.str) with
  | none => false
  | some cond => cond.status = if wantTrue then .true else .false

/-- Disruptions are allowed: eight conditions agree. -/
def allowDisruptions (conds : List Condition) : Bool :=
  conditionSatisfied conds .available true &&
  conditionSatisfied conds .sentinelQuorum true &&
  conditionSatisfied conds .replicationHealthy true &&
  conditionSatisfied conds .failoverInProgress false &&
  conditionSatisfied conds .disruptionsPaused false &&
  conditionSatisfied conds .upgradeInProgress false &&
  conditionSatisfied conds .bootstrapInProgress false &&
  conditionSatisfied conds .externalImport true

def computeStatus : KeyValClusterStatus :=
  let built := builtConditions cr st now
  { masterPod := st.master
    replicas := cr.spec.redisReplicas
    rolesSource := st.rolesSource
    readyReplicas := readyReplicas st
    roles := roleEntries cr st now
    conditions := built ++ runtimeConditions cr st now
    healthGate := some (allowDisruptions built)
    externalImport := st.externalImport }

/-- The cluster with its new status, and the error of the write. The status in memory is replaced
before the write. -/
def updateStatus : M (KeyValCluster × Option Error) := do
  let now ← ask .now
  let want := computeStatus cr st now
  if cr.status = want then return (cr, none)
  else
    match ← ask (.patchStatus cr.ns cr.name want) with
    | .ok () => return ({ cr with status := want }, none)
    | .error e => return ({ cr with status := want }, some e)

end

end Keyval.Status
