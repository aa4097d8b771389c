import KeyvalOperator.Reconcile.State

/-!
# Runtime phase

The replication topology of the Redis pods, with a bootstrap candidate when it cannot be determined
and no pod is ready, the health of each pod, and the runtime configuration. Without roles from the
topology the first listed pod counts as the master.
-/

namespace Keyval.Phases

open Go Interact

def conditionBootstrapInProgress : String := "BootstrapInProgress"
def conditionDisruptionsPaused : String := "DisruptionsPaused"
def configHashAnnotationKey : String := "keyval.ivelok.io/config-hash"

/-- Record an event under a condition. -/
def event (c : Prop) [Decidable c] (ev : Ev) : M Unit :=
  if c then ask (.event ev) else return

/-! ## Topology -/

def topologyRequest (st : State) : Replication.EnsureRequest where
  cluster := st.cluster
  redisPods := st.redisPods
  sentinelPods := st.sentinelPods
  factory := st.clientFactory
  sentinelFactory := st.sentinelFactory
  security := some st.settings
  masterCache := st.masterCache

/-- `EnsureTopology`; when it fails and no pod is ready, once more with the candidate of
`SelectCandidate` as the master. -/
def ensureOrBootstrap (F : Formats) (req : Replication.EnsureRequest) (readyCount : Nat) :
    M (Replication.EnsureResult × Option Error × Bootstrap.Candidate) := do
  let (res, err) ← Replication.ensureTopology F req
  if err.isSome ∧ readyCount = 0 then
    let cand ← Bootstrap.selectCandidate F req.cluster req.redisPods
    if cand.name ≠ "" then
      let (res, err) ← Replication.ensureTopology F
        { req with forceMaster := cand.name, forceReason := cand.source }
      return (res, err, cand)
    else return (res, err, {})
  else return (res, err, {})

/-- What the phase takes from the topology; `roles` is nil without one. -/
structure TopologyState where
  roles : Option (Map PodRole) := none
  infos : Map ReplicationInfo := ∅
  master : String := ""
  replicationErr : Option Error := none
  topology : Replication.EnsureResult := {}
  bootstrapCandidate : Bootstrap.Candidate := {}
  needSentinelReset : Bool := false

/-- The conditions of a bootstrap that promoted the candidate. -/
def bootstrapOverrides (cand : Bootstrap.Candidate) (overrides : Map ConditionState) :
    Map ConditionState :=
  (overrides.insert conditionBootstrapInProgress
    ⟨.true, "BootstrapSelectingMaster", "promoting " ++ cand.name ++ " via " ++ cand.source⟩).insert
    conditionDisruptionsPaused ⟨.true, "Bootstrap", "bootstrap master selection in progress"⟩

/-- The cache after a topology without error: a drift drops the entry. -/
def updateCache (st : State) (res : Replication.EnsureResult) : M Unit :=
  if ¬ st.masterCache then return
  else if res.drift ≠ [] then ask (.cacheInvalidate st.cluster.ns st.cluster.name)
  else if res.master ≠ "" then
    ask (.cacheRemember st.cluster.ns st.cluster.name res.master res.reason)
  else return

/-- The topology that was found, with the candidate of a bootstrap. -/
def TopologyState.found (st : State) (res : Replication.EnsureResult)
    (cand : Bootstrap.Candidate) : TopologyState where
  roles := some res.roles
  infos := res.infos
  master := res.master
  topology := res
  bootstrapCandidate := cand
  needSentinelReset := cand.name ≠ "" || (res.changed && st.cluster.spec.mode = .sentinel) ||
    res.source = .forced

/-- The events, the cache, the conditions and the delays for the topology. -/
def settleTopology (st : State) (res : Replication.EnsureResult) (err : Option Error)
    (cand : Bootstrap.Candidate) : M (State × TopologyState) :=
  match err with
  | some e => return (st, { replicationErr := some e, bootstrapCandidate := cand })
  | none => do
    event res.changed (.replicationAligned res.master)
    event (res.drift ≠ []) (.replicationDrift res.drift)
    updateCache st res
    let overrides := if cand.name ≠ "" then bootstrapOverrides cand st.conditionOverrides
      else st.conditionOverrides
    return (({ st with conditionOverrides := overrides }).requeueIf (res.pending ≠ [])
      (4 * second), .found st res cand)

def runtimeTopology (F : Formats) (st : State) (readyCount : Nat) : M (State × TopologyState) := do
  if st.clientFactory then
    let (res, err, cand) ← ensureOrBootstrap F (topologyRequest st) readyCount
    settleTopology st res err cand
  else return (st, {})

/-- The roles by the first listed pod. -/
def fallbackRoles (pods : List Pod) (master : String) : Map PodRole :=
  pods.foldl (fun roles p => roles.insert p.name (if p.name = master then .master else .replica)) ∅

/-- The master and the roles; without roles the first listed pod is the master. -/
def resolveRoles (pods : List Pod) (ts : TopologyState) :
    String × Map PodRole × Map ReplicationInfo :=
  match ts.roles with
  | some roles => (ts.master, roles, ts.infos)
  | none =>
    let master := match pods with
      | p :: _ => p.name
      | [] => ts.master
    (master, fallbackRoles pods master, ∅)

/-! ## Health -/

/-- What the health loop computes. -/
structure HealthState where
  health : Map PodHealth := ∅
  lagSeconds : Map Int := ∅
  needHealthRetry : Bool := false
  healthyReplicas : Nat := 0

def prevHealth (cr : KeyValCluster) (name : String) : Option PodHealth :=
  ((cr.status.roles.filter (·.name = name)).getLast?).bind (·.health)

/-- The event of a health transition. -/
def healthEvent (prev : Option PodHealth) (health : PodHealth) (pod : String)
    (lag : Option Int) : Option Ev :=
  match health with
  | .lagging => if prev ≠ some .lagging then some (.replicaLagging pod lag) else none
  | .desynced => if prev ≠ some .desynced then some (.replicaDesynced pod) else none
  | .healthy =>
    if prev = some .lagging ∨ prev = some .desynced then some (.replicaRecovered pod) else none
  | .offline => none

def recordEvent : Option Ev → M Unit
  | some ev => ask (.event ev)
  | none => return

/-- The body of the health loop over the Redis pods. -/
def healthAt (cr : KeyValCluster) (master : String) (roles : Map PodRole)
    (infos : Map ReplicationInfo) (h : HealthState) (pod : Pod) : M HealthState := do
  let role := (roles.lookup pod.name).getD (if pod.name = master then .master else .replica)
  let (health, lag) := Health.evaluatePodHealth role ((infos.lookup pod.name).getD {})
    (isPodReady pod) (Health.lagThresholdSeconds cr)
  recordEvent (healthEvent (prevHealth cr pod.name) health pod.name lag)
  return {
    health := h.health.insert pod.name health
    lagSeconds := match lag with
      | some v => h.lagSeconds.insert pod.name v
      | none => h.lagSeconds
    needHealthRetry := h.needHealthRetry || (role = .replica && health ≠ .healthy)
    healthyReplicas :=
      if role = .replica ∧ health = .healthy then h.healthyReplicas + 1 else h.healthyReplicas }

def sentinelHealth (cr : KeyValCluster) (h : HealthState) (pod : Pod) : HealthState :=
  let health := (Health.evaluatePodHealth .sentinel {} (isPodReady pod)
    (Health.lagThresholdSeconds cr)).1
  { h with health := h.health.insert pod.name health }

/-! ## Phase -/

/-- The annotation of the applied configuration on the given pods. -/
def annotateConfigHash (hash : String) (names : List String) (pods : List Pod) : List Pod :=
  pods.map fun p => if p.name ∈ names then
    { p with annotations := p.annotations.insert configHashAnnotationKey hash } else p

/-- The state that the phase leaves: the delays in turn, and the results. -/
def runtimeState (st : State) (pods : List Pod) (ts : TopologyState) (h : HealthState)
    (delay : Duration) (annotated : List String) : State :=
  let (master, roles, infos) := resolveRoles pods ts
  let st := st.requeueIf ts.replicationErr.isSome (3 * second)
  let st := st.requeueIf (h.needHealthRetry ∧ st.nextRequeue = 0) (5 * second)
  let st := st.requeueIf (0 < delay) delay
  { st with
    redisPods := annotateConfigHash st.configHash annotated pods
    runtime := {
      master, roles, infos
      activePods := pods.countP (·.deletionTimestamp.isNone)
      readyCount := pods.countP isPodReady
      anyNotReady := pods ≠ [] ∧ pods.countP isPodReady < pods.length
      topology := ts.topology
      bootstrapCandidate := ts.bootstrapCandidate
      replicationError := ts.replicationErr
      needSentinelReset := ts.needSentinelReset
      health := h.health
      lagSeconds := h.lagSeconds
      needHealthRetry := h.needHealthRetry
      healthyReplicas := h.healthyReplicas } }

def applySentinelRuntime (cr : KeyValCluster) : M Unit :=
  if cr.spec.mode = .sentinel then ask .applySentinelRuntime else return

def runtime (F : Formats) (st : State) : M (State × Option Error) := do
  let cr := st.cluster
  let pods := st.redisPods
  let readyCount := pods.countP isPodReady
  let (st, ts) ← runtimeTopology F
    (st.requeueIf (pods ≠ [] ∧ readyCount < pods.length) (4 * second)) readyCount
  let (master, roles, infos) := resolveRoles pods ts
  let h ← pods.foldlM (healthAt cr master roles infos) {}
  let h := st.sentinelPods.foldl (sentinelHealth cr) h
  let (delay, annotated) ← ask (.applyRedisRuntime st.configHash)
  applySentinelRuntime cr
  return (runtimeState st pods ts h delay annotated, none)

end Keyval.Phases
