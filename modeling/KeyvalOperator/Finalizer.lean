import KeyvalOperator.Controller
import KeyvalOperator.Phases.Security
import KeyvalOperator.Resources.PDB

/-!
# The finalizer

`finalizer.Execute`: before the custom resource of a cluster is released, the replication of its
pods is aligned once more and, when the spec asks for it, its StatefulSets are drained and its
volume claims deleted, a few in each call. The time of the first call is kept in an annotation; a
call gives the claims up when the cleanup takes longer than `CleanupTimeout`.

The calls of one cleanup share a context of `OperationTimeout`: a request after its end is answered
with an error, and `polls` counts the polls of the drain that it leaves time for.
-/

namespace Keyval.Finalizer

open Go Interact

def defaultCleanupTimeout : Duration := 2 * minute
def defaultCleanupBatchLimit : Int := 3

structure Dependencies where
  /-- Whether `ClientFactory` is set. -/
  clientFactory : Bool := true
  cleanupTimeout : Duration := 0
  cleanupBatchLimit : Int := 0
  deriving DecidableEq

/-- The dependencies of a pipeline: bounds that are not positive have defaults. -/
def newPipeline (deps : Dependencies) : Dependencies :=
  { deps with
    cleanupTimeout :=
      if deps.cleanupTimeout ≤ 0 then defaultCleanupTimeout else deps.cleanupTimeout
    cleanupBatchLimit :=
      if deps.cleanupBatchLimit ≤ 0 then defaultCleanupBatchLimit else deps.cleanupBatchLimit }

/-- `alignReplication`: all its failures are only logged. -/
def alignReplication (F : Formats) (deps : Dependencies) (cr : KeyValCluster) : M Unit :=
  if ¬ deps.clientFactory then return
  else do
    match ← ask (.listPods cr.ns (Finmap.singleton labelAppKey (appLabel cr))) with
    | .error _ => return
    | .ok pods =>
      if pods = [] then return
      else
        match ← Security.fromSpec F cr with
        | .error _ => return
        | .ok settings =>
          let _ ← Replication.ensureTopology F
            { cluster := cr, redisPods := pods, security := some settings }
          return

/-- `unlockDisruptions`: no disruption budget keeps the pods from terminating. -/
def unlockDisruptions (cr : KeyValCluster) : M Unit := do
  let pdb := Resources.redisPDB cr 0
  let _ ← ask (.deletePDB pdb.ns pdb.name)
  if cr.spec.mode = .sentinel then
    let pdb := Resources.sentinelPDB cr 0
    let _ ← ask (.deletePDB pdb.ns pdb.name)
  return

/-! ## The start -/

/-- The start that the annotation records. -/
def recordedStart (F : Formats) (cr : KeyValCluster) : Option Time :=
  let ts := Map.str cr.annotations annotationFinalizerStarted
  if ts = "" then none else F.parseTime .rfc3339Nano ts

/-- The cluster with a start recorded. -/
def recordStart (F : Formats) (cr : KeyValCluster) (started : Time) : KeyValCluster :=
  { cr with
    annotations :=
      cr.annotations.insert annotationFinalizerStarted (F.formatTime .rfc3339Nano started) }

def ensureFinalizerStart (F : Formats) (cr : KeyValCluster) : M (KeyValCluster × Result Time) :=
  match recordedStart F cr with
  | some started => return (cr, .ok started)
  | none => do
    let started ← ask .now
    let cr := recordStart F cr started
    match ← ask (.patchCluster cr.ns cr.name cr.annotations cr.finalizers) with
    | .error e => return (cr, .error e)
    | .ok () =>
      ask (.event (.storageCleanupStarted "deletePVCs"))
      return (cr, .ok started)

/-- A failure of the patch is ignored. -/
def clearFinalizerStart (cr : KeyValCluster) : M KeyValCluster :=
  if annotationFinalizerStarted ∈ cr.annotations then do
    let cr := { cr with annotations := cr.annotations.erase annotationFinalizerStarted }
    let _ ← ask (.patchCluster cr.ns cr.name cr.annotations cr.finalizers)
    return cr
  else return cr

/-! ## The condition -/

/-- `meta.SetStatusCondition` of a condition without transition time: the clock is read when the
condition is new or its status changes. -/
def setStatusCondition (conds : List Condition) (cond : Condition) : M (List Condition) :=
  match conds.find? (·.type = cond.type) with
  | none => do
    let now ← ask .now
    return conds ++ [{ cond with lastTransitionTime := now }]
  | some old =>
    let i := conds.findIdx (·.type = cond.type)
    if old.status = cond.status then
      return conds.set i { cond with lastTransitionTime := old.lastTransitionTime }
    else do
      let now ← ask .now
      return conds.set i { cond with lastTransitionTime := now }

/-- A failure of the patch is only logged. -/
def setStorageCleanupCondition (cr : KeyValCluster) (status : ConditionStatus)
    (reason message : String) : M KeyValCluster := do
  let conditions ← setStatusCondition cr.status.conditions {
    type := ConditionType.storageCleanup.str
    status
    reason := if reason = "" then "Unknown" else reason
    message
    observedGeneration := cr.generation }
  let cr := { cr with status := { cr.status with conditions } }
  let _ ← ask (.patchStatus cr.ns cr.name cr.status)
  return cr

/-! ## The drain -/

def clusterSelector (cr : KeyValCluster) : Map String :=
  Finmap.singleton labelClusterKey cr.name

/-- The loop body over the StatefulSets. -/
def scaleToZero (_ : Unit) (ss : StatefulSet) : M (Unit × Option Error) :=
  if ss.replicas = 0 then return ((), none)
  else do
    match ← ask (.patchReplicas ss.ns ss.name 0) with
    | .error e => return ((), if e.reason = .notFound then none else some e)
    | .ok () => return ((), none)

/-- Every pod terminates. -/
def drained (pods : List Pod) : Bool := pods.all fun p => p.deletionTimestamp.isSome

/-- One poll; `next` is what follows a poll that shows a pod that stays. -/
def pollDrained (cr : KeyValCluster) (next : M (Option Error)) : M (Option Error) := do
  match ← ask (.listPods cr.ns (clusterSelector cr)) with
  | .error e => return some e
  | .ok pods => if drained pods then return none else next

/-- The poll loop: after this poll, so many more end before the deadline. -/
def pollsDrained (cr : KeyValCluster) : Nat → M (Option Error)
  | 0 => pollDrained cr
    (return some { msg := "context deadline exceeded", reason := .contextDone })
  | more + 1 => pollDrained cr (pollsDrained cr more)

def drainStatefulSets (cr : KeyValCluster) : M (Option Error) := do
  match ← ask (.listStatefulSets cr.ns (clusterSelector cr)) with
  | .error e => return some e
  | .ok items =>
    match ← Prog.forErr scaleToZero items () with
    | (_, some e) => return some e
    | (_, none) =>
      let polls ← ask .polls
      pollsDrained cr polls

/-! ## The pipeline -/

def summarizePVCs (names : List String) (limit : Nat) : String :=
  if limit = 0 ∨ names.length ≤ limit then ", ".intercalate names
  else ", ".intercalate (names.take limit) ++ " (+" ++ toString (names.length - limit) ++ ")"

section
variable (F : Formats) (deps : Dependencies)

/-- The cleanup is over with a condition and an error. -/
def failCleanup (cr : KeyValCluster) (reason message : String) (err : Error) :
    M (KeyValCluster × Option Error) := do
  let cr ← setStorageCleanupCondition cr .false reason message
  return (cr, some err)

def keepPVCs (cr : KeyValCluster) (reason message : String) :
    M (KeyValCluster × Option Error) := do
  let cr ← clearFinalizerStart cr
  let cr ← setStorageCleanupCondition cr .true reason message
  return (cr, none)

/-- The end of `execute` after a cleanup without error. -/
def settle (cr : KeyValCluster) (startedAt : Time) (result : Storage.CleanupResult) :
    M (KeyValCluster × Option Error) := do
  -- the clock is read on both branches, on the first only for a metric
  let now ← ask .now
  if result.pending = [] then
    let cr ← clearFinalizerStart cr
    let cr ← setStorageCleanupCondition cr .true "PVCsDeleted"
      ("removed " ++ toString result.deleted.length ++ " PVCs")
    ask (.event .storageCleanupFinished)
    return (cr, none)
  else
    let cr ← setStorageCleanupCondition cr .false "DeletingPVCs"
      ("pending PVC deletions: " ++ summarizePVCs result.pending 5)
    if deps.cleanupTimeout < timeSub now startedAt then
      let cr ← clearFinalizerStart cr
      ask (.event (.storageCleanupTimedOut result.pending))
      return (cr, none)
    else
      return (cr, some (.new ("waiting for pvc cleanup: [" ++ " ".intercalate result.pending ++
        "]")))

/-- The part of `execute` that follows the recorded start. -/
def cleanUp (cr : KeyValCluster) (startedAt : Time) : M (KeyValCluster × Option Error) := do
  match ← drainStatefulSets cr with
  | some e => failCleanup cr "ScaleDownFailed" e.msg (.wrap "drain statefulsets" e)
  | none =>
    match ← Storage.cleanupPVCs cr deps.cleanupBatchLimit with
    | (_, some e) =>
      failCleanup cr "DeletionFailed" ("PVC delete failed: " ++ e.msg) (.wrap "cleanup pvcs" e)
    | (result, none) => settle deps cr startedAt result

def execute (cr : KeyValCluster) : M (KeyValCluster × Option Error) := do
  alignReplication F deps cr
  if ¬ hasPersistentData cr then
    keepPVCs cr "EphemeralStorage" "Ephemeral storage configured; no PVC cleanup required"
  else if ¬ storageCleanupEnabled cr then
    keepPVCs cr "RetentionPolicy" "PVC cleanup disabled; resources retained after deletion"
  else
    unlockDisruptions cr
    match ← ensureFinalizerStart F cr with
    | (cr, .error e) =>
      failCleanup cr "MarkStartFailed" ("failed to record finalizer start: " ++ e.msg)
        (.wrap "mark finalizer start" e)
    | (cr, .ok startedAt) => cleanUp deps cr startedAt

end

/-- `NewPipeline(deps, Execute).Run`. -/
def run (F : Formats) (deps : Dependencies) (cr : KeyValCluster) :
    M (KeyValCluster × Option Error) :=
  execute F (newPipeline deps) cr

end Keyval.Finalizer

namespace Keyval.Controller

open Go Interact

/-- The pipeline of the controller, with the default bounds. -/
def finalizeCluster (F : Formats) (cr : KeyValCluster) : M (Result KeyValCluster) := do
  match ← Finalizer.run F {} cr with
  | (_, some e) => return .error e
  | (cr, none) => return .ok cr

/-- `handleDeletion` with the finalizer in place of its request. -/
def handleDeletionFully (F : Formats) (cr : KeyValCluster) : M (Except Outcome Unit) :=
  if finalizerName ∈ cr.finalizers then
    andThen (orWrap "finalize" (finalizeCluster F cr)) fun cr =>
    orWrap "remove finalizer" (ask (.patchCluster cr.ns cr.name cr.annotations
      (cr.finalizers.filter (· ≠ finalizerName))))
  else return .ok ()

end Keyval.Controller
