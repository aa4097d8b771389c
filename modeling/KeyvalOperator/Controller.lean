import KeyvalOperator.Ops.Sentinel
import KeyvalOperator.Ops.Update
import KeyvalOperator.Phases.ExternalImport
import KeyvalOperator.Phases.Labels
import KeyvalOperator.Phases.Status
import KeyvalOperator.Phases.Workloads

/-!
# The reconcile

`reconcileClusterImpl`: the phases in their order, and after them one step of a scale or rolling
operation. Each part ends the reconcile with a result and an error, or hands its state on.
-/

namespace Keyval.Controller

open Go Interact Phases Update

/-- `ctrl.Result` and the error of a reconcile. -/
structure Outcome where
  requeueAfter : Duration := 0
  err : Option Error := none
  deriving DecidableEq

/-- Go on with a value, or end the reconcile. -/
def andThen {α β : Type} (p : M (Except Outcome α)) (k : α → M (Except Outcome β)) :
    M (Except Outcome β) :=
  p.bind fun
    | .ok a => k a
    | .error o => .ret (.error o)

/-- A call whose error ends the reconcile. -/
def orFail {α : Type} (p : M (Result α)) : M (Except Outcome α) :=
  p.bind fun
    | .ok a => .ret (.ok a)
    | .error e => .ret (.error { err := some e })

/-- A phase whose error ends the reconcile. -/
def orFailPhase (p : M (State × Option Error)) : M (Except Outcome State) :=
  p.bind fun
    | (st, none) => .ret (.ok st)
    | (_, some e) => .ret (.error { err := some e })

def requeue {α : Type} (base : Duration) : M (Except Outcome α) := do
  let delay ← ask (.backoff base)
  return .error { requeueAfter := delay }

/-! ## Annotations of the cluster -/

section
variable (cr : KeyValCluster)

def patchAnnotations (annotations : Map String) : M (Result Unit) :=
  ask (.patchCluster cr.ns cr.name annotations cr.finalizers)

/-- Set an annotation; whether it changed, and the cluster. -/
def setAnnotation (key value : String) : M (Result (Bool × KeyValCluster)) :=
  if Map.str cr.annotations key = value then return .ok (false, cr)
  else do
    match ← patchAnnotations cr (cr.annotations.insert key value) with
    | .error e => return .error e
    | .ok () => return .ok (true, { cr with annotations := cr.annotations.insert key value })

/-- Remove an annotation; its value when it was set, and the cluster. -/
def clearAnnotation (key : String) : M (Result (Option String × KeyValCluster)) :=
  if Map.str cr.annotations key = "" then return .ok (none, cr)
  else do
    match ← patchAnnotations cr (cr.annotations.erase key) with
    | .error e => return .error e
    | .ok () =>
      return .ok (some (Map.str cr.annotations key),
        { cr with annotations := cr.annotations.erase key })

def setScalePhaseAnnotation (phase : String) : M (Result (Bool × KeyValCluster)) :=
  if phase = "" then return .ok (false, cr) else setAnnotation cr annotationScalePhase phase

def clearScalePhaseAnnotation : M (Result (Option String × KeyValCluster)) :=
  clearAnnotation cr annotationScalePhase

def setUpdateBlockedAnnotation (reason : String) : M (Result (Bool × KeyValCluster)) :=
  setAnnotation cr annotationUpdateBlocked (if reason = "" then "unknown" else reason)

def clearUpdateBlockedAnnotation : M (Result (Option String × KeyValCluster)) :=
  clearAnnotation cr annotationUpdateBlocked

end

/-- The error of a call, wrapped as transient with a text. -/
def orWrap {α : Type} (text : String) (p : M (Result α)) : M (Except Outcome α) :=
  p.bind fun
    | .ok a => .ret (.ok a)
    | .error e => .ret (.error { err := some (.wrapTransient (.wrap text e)) })

/-! ## The phases up to the workloads -/

/-- The reconcile ends after the status has been written. -/
def abortWith {α : Type} (st : State) (err : Option Error) : M (Except Outcome α) :=
  andThen (orFail (ask .status)) fun _ =>
    .ret (.error { requeueAfter := if 0 < st.nextRequeue then st.nextRequeue else 0, err })

/-- The external import, and an abort that it or the Workloads phase asked for. -/
def importExternal (st : State) : M (Except Outcome State) := do
  match ← ask .externalImport with
  | .error e => abortWith st (some e)
  | .ok abort =>
    match abort <|> st.abortDirective with
    | some err => abortWith st err
    | none => return .ok st

def prepare (F : Formats) (st : State) : M (Except Outcome State) :=
  andThen (orFail (ask .security)) fun (settings, tlsHash) =>
  andThen (orFail (ask .config)) fun configHash =>
  andThen (orFail (ask .services)) fun _ =>
  andThen (orFailPhase (workloads F { st with settings, tlsHash, configHash })) fun st =>
  andThen (orFail (ask .podMetadata)) fun (redisPods, sentinelPods) =>
  importExternal { st with redisPods, sentinelPods }

/-! ### The import in full -/

/-- `abortWith` with the Status phase in place of its request. -/
def abortAfterStatus {α : Type} (st : State) (err : Option Error) : M (Except Outcome α) := do
  match ← status st.cluster st with
  | (_, _, some e) => return .error { err := some e }
  | (st, _, none) =>
    return .error { requeueAfter := if 0 < st.nextRequeue then st.nextRequeue else 0, err }

/-- `importExternal` with the ExternalImport and Status phases in place of their requests. -/
def importPhase (F : Formats) (st : State) : M (Except Outcome State) := do
  match ← externalImport F st with
  | (st, some e) => abortAfterStatus st (some e)
  | (st, none) =>
    match st.abortDirective with
    | some err => abortAfterStatus st err
    | none => return .ok st

/-- `prepare` with the import in full. -/
def prepareImport (F : Formats) (st : State) : M (Except Outcome State) :=
  andThen (orFail (ask .security)) fun (settings, tlsHash) =>
  andThen (orFail (ask .config)) fun configHash =>
  andThen (orFail (ask .services)) fun _ =>
  andThen (orFailPhase (workloads F { st with settings, tlsHash, configHash })) fun st =>
  andThen (orFail (ask .podMetadata)) fun (redisPods, sentinelPods) =>
  importPhase F { st with redisPods, sentinelPods }

/-- Without pods there is nothing to do yet. -/
def requirePods (st : State) : M (Except Outcome State) :=
  if st.redisPods = [] ∧ 0 < st.cluster.spec.redisReplicas then
    if 0 < st.nextRequeue then return .error { requeueAfter := st.nextRequeue }
    else requeue (2 * second)
  else return .ok st

def ensureStorage (F : Formats) (st : State) : M (Except Outcome State) := do
  match ← Storage.ensureResize F st.cluster st.redisPods with
  | (_, some e) => return .error { err := some (.wrapTransient (.wrap "ensure storage resize" e)) }
  | (plan, none) =>
    let delay := if 0 < plan.requeueAfter then plan.requeueAfter else 5 * second
    return .ok ((({ st with storagePlan := plan }).requeueMin plan.minRequeueAfter).requeueIf
      plan.waiting delay)

/-! ## From the topology to the labels -/

/-- The delays after the Runtime phase. -/
def requeueRuntime (st : State) : State :=
  let st := st.requeueIf st.runtime.replicationError.isSome (3 * second)
  let st := st.requeueIf st.runtime.anyNotReady (4 * second)
  st.requeueIf (st.runtime.needHealthRetry ∧ st.nextRequeue = 0) (5 * second)

/-- The Runtime phase, the Sentinel phase, the freshness of the claims and the Labels phase. -/
def reconcileTopology (F : Formats) (st : State) : M (State × Option Error) := do
  match ← runtime F st with
  | (st, some e) => return (st, some e)
  | (st, none) =>
    match ← ask .sentinel with
    | .error e => return (requeueRuntime st, some e)
    | .ok sentinel =>
      Bootstrap.updatePVCFreshness F st.cluster st.redisPods st.runtime.infos
      labels { requeueRuntime st with sentinel }

/-- The phases from the topology to the disruption budgets. -/
def observe (F : Formats) (st : State) : M (Except Outcome State) :=
  andThen (orFailPhase (reconcileTopology F st)) fun st =>
  andThen (orFail (ask .status)) fun status =>
  andThen (orFail (ask .pdb)) fun _ =>
  .ret (.ok { st with status })

/-! ## Scaling -/

def scaleDirectionUp : String := "up"
def scaleDirectionDown : String := "down"

/-- `spec.redisReplicas`, at least zero. -/
def desiredReplicas (cr : KeyValCluster) : Int :=
  if cr.spec.redisReplicas < 0 then 0 else cr.spec.redisReplicas

def detectDirection (st : State) (plan : Plan) : String :=
  let desired := desiredReplicas st.cluster
  let active : Int := st.runtime.activePods
  if active < desired then scaleDirectionUp
  else if planHasReason plan "scale-down" ∨ desired < active then scaleDirectionDown
  else ""

/-- The annotation of a scale that starts or changes direction; the cluster and the direction. -/
def startScale (st : State) (plan : Plan) : M (Except Outcome (KeyValCluster × String)) :=
  let cr := st.cluster
  let phase := Map.str cr.annotations annotationScalePhase
  let direction := detectDirection st plan
  if direction ≠ "" ∧ direction ≠ phase then
    let text := if phase = "" then "set scale annotation" else "update scale annotation"
    andThen (orWrap text <| setScalePhaseAnnotation cr direction) fun (changed, cr) => do
      event changed (.scaleStarted direction st.runtime.activePods cr.spec.redisReplicas)
      return .ok (cr, direction)
  else return .ok (cr, phase)

/-- The scale operation is done. -/
def scaleCompleted (st : State) (plan : Plan) (phase : String) : Bool :=
  let desired := desiredReplicas st.cluster
  let settled := (st.runtime.activePods : Int) = desired && plan.podNames.isEmpty
  if phase = scaleDirectionUp then settled && (st.runtime.readyCount : Int) = desired
  else if phase = scaleDirectionDown then settled && st.status.allowDisruptions
  else false

def finishScale (st : State) (plan : Plan) (cr : KeyValCluster) (phase : String) :
    M (Except Outcome KeyValCluster) :=
  if scaleCompleted st plan phase then
    andThen (orWrap "clear scale annotation" <| clearScalePhaseAnnotation cr) fun (prev, cr) => do
      ask (.event (.scaleCompleted (prev.getD phase) cr.spec.redisReplicas st.runtime.readyCount))
      return .ok cr
  else return .ok cr

/-! ## Rolling steps -/

/-- The reconcile ends with a requeue and an event. -/
def requeueWith {α : Type} (base : Duration) (ev : Ev) : M (Except Outcome α) := do
  let delay ← ask (.backoff base)
  ask (.event ev)
  return .error { requeueAfter := delay }

/-- The step is blocked: the annotation names the reason, and the reconcile ends. -/
def blockStep {α : Type} (cr : KeyValCluster) (text reason detail : String) (scaleDown : Bool)
    (delay : Duration) : M (Except Outcome α) :=
  andThen (orWrap text <| setUpdateBlockedAnnotation cr reason) fun (changed, _) => do
    event changed (.rollingStepBlocked reason detail)
    event (changed ∧ scaleDown) (.scaleBlocked scaleDirectionDown reason detail)
    requeue delay

/-- A disruption budget refused the eviction. -/
def blockPDB {α : Type} (cr : KeyValCluster) : M (Except Outcome α) :=
  blockStep cr "set PDB block annotation" "PDBLimit" "PodDisruptionBudget rejected eviction" false
    (5 * second)

/-- The step is not blocked: the annotation is removed. -/
def resumeStep (cr : KeyValCluster) : M (Except Outcome KeyValCluster) :=
  andThen (orWrap "clear update-blocked annotation" <| clearUpdateBlockedAnnotation cr)
    fun (prev, cr) => do
      event prev.isSome (.rollingStepResumed (prev.getD ""))
      return .ok cr

/-! ### Failover -/

/-- The loop of `hasGoodSlave`: a ready replica that follows the master and is healthy. -/
def hasGoodSlaveFrom (cr : KeyValCluster) (pods : List Pod) (master : String) :
    List Pod → String → M (Bool × String)
  | [], detail => return (false, detail)
  | p :: rest, detail =>
    if p.name = master ∨ ¬ isPodReady p then hasGoodSlaveFrom cr pods master rest detail
    else do
      match ← ask (.redisForPod p.name) with
      | .error _ => hasGoodSlaveFrom cr pods master rest detail
      | .ok () =>
        match ← ask (.replicationInfo p.name) with
        | .error _ => hasGoodSlaveFrom cr pods master rest detail
        | .ok info =>
          if equalFold info.role "master" then hasGoodSlaveFrom cr pods master rest detail
          else if ¬ Replication.hostMatchesMaster info.masterHost master
                (Replication.masterHost cr pods master) pods ∨
              (info.masterPort ≠ 0 ∧ info.masterPort ≠ redisPort cr) then
            hasGoodSlaveFrom cr pods master rest
              ("replica " ++ p.name ++ " not following current master")
          else
            match (Health.evaluatePodHealth .replica info true
              (Health.lagThresholdSeconds cr)).1 with
            | .healthy => return (true, "")
            | health =>
              hasGoodSlaveFrom cr pods master rest
                ("replica " ++ p.name ++ " health=" ++ health.str)

def hasGoodSlave (cr : KeyValCluster) (pods : List Pod) (master : String) : M (Bool × String) :=
  hasGoodSlaveFrom cr pods master pods
    "no replica with master_link_status up and attached to current master"

/-- The event that no replica can take over, when it is due. -/
def reportNoGoodSlave (detail : String) : M Unit := do
  let due ← ask .noGoodSlaveDue
  event due (.noGoodSlave detail)

/-- The failover, and the annotation that marks the former master for a restart. -/
def runFailover {α : Type} (F : Formats) (cr : KeyValCluster) (st : State) :
    M (Except Outcome α) := do
  let former := st.runtime.master
  ask (.event (.startFailover ("master=" ++ former)))
  ask (.event (.failoverTriggered former))
  match ← Sentinel.triggerFailover F cr st.redisPods st.sentinelPods (some st.settings) with
  | .error e =>
    if e.noGoodSlave then
      reportNoGoodSlave "sentinel reported NOGOODSLAVE"
      requeue (10 * second)
    else
      ask (.event (.failoverCompleted "" (some e)))
      ask (.event (.newMaster "" (some e)))
      requeue (7 * second)
  | .ok (newMaster, _) =>
    ask (.event (.failoverCompleted newMaster none))
    ask (.event (.newMaster newMaster none))
    let _ ← patchAnnotations cr (cr.annotations.insert annotationRestartFormerMaster former)
    requeue (5 * second)

/-- A failover before the master, the only pod left to update, is restarted. -/
def controlledFailover {α : Type} (F : Formats) (cr : KeyValCluster) (st : State) :
    M (Except Outcome α) :=
  let status := st.status.computed
  if ¬ hasCondition status "SentinelQuorum" .true then requeue (5 * second)
  else if ¬ hasCondition status "ReplicationHealthy" .true then requeue (5 * second)
  else do
    match ← hasGoodSlave cr st.redisPods st.runtime.master with
    | (true, _) => if st.sentinel.quorumOK then runFailover F cr st else requeue (5 * second)
    | (false, detail) =>
      reportNoGoodSlave detail
      requeue (7 * second)

def onlyMasterPending (master : String) (plan : Plan) : Bool :=
  master ≠ "" && plan.podNames = [master]

/-! ### Evictions -/

/-- `tryEvictFormerMaster`: evict the pod that was the master before the last failover. -/
def tryEvictFormerMaster (settings : Eviction.Settings) (name : String) (pods : List Pod) :
    M (Result Bool) :=
  match pods.find? (·.name = name) with
  | none => return .ok false
  | some pod =>
    if pod.deletionTimestamp.isSome then return .ok false
    else if (pods.countP fun p => p.name ≠ name && isPodReady p) = 0 then return .ok false
    else do
      match ← ask (.getPod pod.ns pod.name) with
      | .error e =>
        if e.reason = .notFound then return .ok false
        else return .error (.wrap ("get former master pod " ++ name) e)
      | .ok current =>
        match ← Eviction.evict settings current with
        | some e => return .error e
        | none => return .ok true

/-- The restart of a former master that a failover marked. -/
def restartFormerMaster {α : Type} (settings : Eviction.Settings) (cr : KeyValCluster)
    (st : State) : M (Except Outcome α) :=
  let fm := Map.str cr.annotations annotationRestartFormerMaster
  if fm = "" then requeue (5 * second)
  else do
    match ← tryEvictFormerMaster settings fm st.redisPods with
    | .error e =>
      let err := Error.wrapTransient (.wrap ("evict former master " ++ fm) e)
      if e.rejected then blockPDB cr else return .error { err := some err }
    | .ok true =>
      let _ ← patchAnnotations cr (cr.annotations.erase annotationRestartFormerMaster)
      requeueWith (5 * second) (.podEvicted fm ["restart-former-master"])
    | .ok false => requeue (5 * second)

/-- The eviction of one pod of the plan, else of a former master. -/
def executePlan {α : Type} (settings : Eviction.Settings) (cr : KeyValCluster) (st : State)
    (plan : Plan) : M (Except Outcome α) := do
  match ← execute cr plan st.redisPods st.runtime.health .redis settings with
  | (_, some e) =>
    let err := Error.wrapTransient (.wrap "execute update plan" e)
    if e.rejected then blockPDB cr else return .error { err := some err }
  | (evictedPod, none) =>
    if evictedPod ≠ "" then
      requeueWith (5 * second)
        (.podEvicted evictedPod ((plan.reasons.lookup evictedPod).getD []))
    else restartFormerMaster settings cr st

/-- One step of the update of the Redis pods; it ends the reconcile. -/
def rollingStep {α : Type} (F : Formats) (settings : Eviction.Settings) (cr : KeyValCluster)
    (st : State) (plan : Plan) : M (Except Outcome α) :=
  let guard := evaluateGuards {
    allowDisruptions := st.status.computed.healthGate = some true
    status := st.status.computed
    plan
    pods := st.redisPods
    health := st.runtime.health
    master := st.runtime.master
    desiredReplicas := cr.spec.redisReplicas }
  if guard.blocked then
    blockStep cr "set update-blocked annotation" guard.reason guard.detail
      (planHasReason plan "scale-down") guard.requeueAfter
  else
    andThen (resumeStep cr) fun cr =>
      if onlyMasterPending st.runtime.master plan ∧ cr.spec.mode = .sentinel ∧
          st.clientFactory ∧ st.sentinelFactory then controlledFailover F cr st
      else executePlan settings cr st plan

/-! ### Sentinel pods -/

/-- The status for the guards of the Sentinel pods: a pause for the Sentinel quorum does not count
when the Sentinel pods may be disrupted. -/
def sentinelGuardStatus (status : KeyValClusterStatus) (allowSentinel : Bool) :
    KeyValClusterStatus :=
  if allowSentinel then
    { status with conditions := status.conditions.map fun c =>
        if c.status = .true ∧ (c.type = conditionDisruptionsPaused ∨
            c.type = conditionBootstrapInProgress) ∧ c.reason = "SentinelQuorum" then
          { c with status := .false, reason := "SentinelRecovery" } else c }
  else status

def executeSentinelPlan (settings : Eviction.Settings) (cr : KeyValCluster) (st : State)
    (plan : Plan) : M (Except Outcome Unit) := do
  match ← execute cr plan st.sentinelPods st.runtime.health .sentinel settings with
  | (_, some e) =>
    let err := Error.wrapTransient (.wrap "execute sentinel update plan" e)
    if e.rejected then blockPDB cr else return .error { err := some err }
  | (evictedPod, none) =>
    if evictedPod ≠ "" then
      requeueWith (5 * second)
        (.podEvicted evictedPod ((plan.reasons.lookup evictedPod).getD []))
    else return .ok ()

/-- One step of the update of the Sentinel pods. -/
def sentinelStep (settings : Eviction.Settings) (cr : KeyValCluster) (st : State) :
    M (Except Outcome Unit) :=
  if cr.spec.mode = .sentinel ∧ st.sentinelPods ≠ [] then do
    let sp ← ask (.planUpdates true)
    let plan := { sp with
      podNames := sp.podNames.insertionSort fun a b => ordinal a ≤ ordinal b }
    if plan.podNames = [] then return .ok ()
    else
      let guard := evaluateGuards {
        allowDisruptions := st.status.allowSentinel
        status := sentinelGuardStatus st.status.computed st.status.allowSentinel
        plan
        pods := st.redisPods
        health := st.runtime.health
        master := st.runtime.master
        desiredReplicas := cr.spec.redisReplicas }
      if guard.blocked then
        blockStep cr "set update-blocked annotation" guard.reason guard.detail false
          guard.requeueAfter
      else andThen (resumeStep cr) fun cr => executeSentinelPlan settings cr st plan
  else return .ok ()

/-! ## The reconcile -/

/-- The steps after the phases: scaling, and an update of the Redis or the Sentinel pods. -/
def steps (F : Formats) (settings : Eviction.Settings) (st : State) :
    M (Except Outcome Unit) := do
  let plan ← ask (.planUpdates false)
  andThen (startScale st plan) fun (cr, phase) =>
  andThen (finishScale st plan cr phase) fun cr =>
  if plan.podNames ≠ [] then rollingStep F settings cr st plan
  else
    andThen (resumeStep cr) fun cr =>
    andThen (sentinelStep settings cr st) fun _ =>
    if 0 < st.nextRequeue then requeue st.nextRequeue else return .ok ()

/-- The deletion of the cluster: its finalizer is run and removed. -/
def handleDeletion (cr : KeyValCluster) : M (Except Outcome Unit) :=
  if finalizerName ∈ cr.finalizers then
    andThen (orWrap "finalize" (ask .finalizeCluster)) fun _ =>
    orWrap "remove finalizer" (ask (.patchCluster cr.ns cr.name cr.annotations
      (cr.finalizers.filter (· ≠ finalizerName))))
  else return .ok ()

def ensureFinalizer (cr : KeyValCluster) : M (Except Outcome KeyValCluster) :=
  if finalizerName ∈ cr.finalizers then return .ok cr
  else
    let finalizers := cr.finalizers ++ [finalizerName]
    andThen (orWrap "add finalizer" (ask (.patchCluster cr.ns cr.name cr.annotations finalizers)))
      fun _ => .ret (.ok { cr with finalizers })

/-- The part of a reconcile that follows the Workloads phase. -/
def afterWorkloads (F : Formats) (settings : Eviction.Settings) (st : State) :
    M (Except Outcome Unit) :=
  andThen (requirePods st) fun st =>
  andThen (ensureStorage F st) fun st =>
  andThen (observe F st) fun st =>
  steps F settings st

def reconcileClusterImpl (F : Formats) (settings : Eviction.Settings) (st : State) :
    M (Except Outcome Unit) :=
  if st.cluster.deletionTimestamp.isSome then handleDeletion st.cluster
  else
    andThen (ensureFinalizer st.cluster) fun cr =>
    andThen (prepare F { st with cluster := cr }) fun st =>
    afterWorkloads F settings st

end Keyval.Controller
