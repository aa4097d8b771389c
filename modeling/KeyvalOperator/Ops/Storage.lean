import KeyvalOperator.Api.Op
import KeyvalOperator.Core.Storage

/-!
# Volume claims: resize and cleanup

`ops/storage`: `ensureResize` aligns the size of a cluster's claims with `spec.storage.size` and
asks for restarts where the file system waits for one; `cleanupPVCs` deletes the claims when the
cluster is finalized. Both list the namespace and keep what `pvcBelongsToCluster` accepts.
-/

namespace Keyval.Storage

open Go Interact

def reasonResize : String := "storage:resize"
def defaultRequeue : Duration := 5 * second
def resizeFilesystemGrace : Duration := 2 * minute
def resizeCapacityGrace : Duration := 15 * minute
def resizeThrottleBackoff : Duration := 5 * minute
def cleanupBatchDefault : Int := 3

structure ResizeResult where
  podReasons : Map (List String) := ∅
  pendingPVCs : List String := []
  waiting : Bool := false
  requeueAfter : Duration := 0
  minRequeueAfter : Duration := 0
  deriving DecidableEq

structure CleanupResult where
  pending : List String := []
  deleted : List String := []
  deriving DecidableEq

/-! ## The result -/

def appendReason (res : ResizeResult) (podName reason : String) : ResizeResult :=
  if podName = "" ∨ reason = "" then res
  else
    let reasons := (res.podReasons.lookup podName).getD []
    if reason ∈ reasons then res
    else { res with podReasons := res.podReasons.insert podName (reasons ++ [reason]) }

def minDuration (cur candidate : Duration) : Duration :=
  if cur = 0 then candidate
  else if candidate = 0 then cur
  else if candidate < cur then candidate
  else cur

def markWaiting (res : ResizeResult) (pvcName : String) (candidate : Duration) : ResizeResult :=
  let candidate := if candidate ≤ 0 then defaultRequeue else candidate
  let candidate :=
    if 0 < res.minRequeueAfter ∧ candidate < res.minRequeueAfter then res.minRequeueAfter
    else candidate
  let after := minDuration res.requeueAfter candidate
  { res with
    waiting := true
    pendingPVCs := if pvcName ≠ "" then res.pendingPVCs ++ [pvcName] else res.pendingPVCs
    requeueAfter :=
      if 0 < res.minRequeueAfter ∧ after < res.minRequeueAfter then res.minRequeueAfter else after }

def applyThrottle (res : ResizeResult) (pvcName : String) (backoff : Duration) : ResizeResult :=
  let backoff := if backoff ≤ 0 then resizeThrottleBackoff else backoff
  let res := { res with
    minRequeueAfter := if res.minRequeueAfter < backoff then backoff else res.minRequeueAfter
    requeueAfter := if res.requeueAfter < backoff then backoff else res.requeueAfter }
  markWaiting res pvcName backoff

/-- `uniqueStrings`: a string equal to the one before it is dropped. -/
def uniqueStrings : List String → List String
  | x :: y :: l => if x = y then uniqueStrings (y :: l) else x :: uniqueStrings (y :: l)
  | l => l

def sortStrings (l : List String) : List String := l.insertionSort (· ≤ ·)

def ResizeResult.sortPending (res : ResizeResult) : ResizeResult :=
  if 1 < res.pendingPVCs.length then
    { res with pendingPVCs := uniqueStrings (sortStrings res.pendingPVCs) }
  else res

def parseResizeTimestamp (F : Formats) (value : String) : Option Time :=
  if value = "" then none
  else F.parseTime .rfc3339Nano value <|> F.parseTime .rfc3339 value

/-- Whether the storage backend throttles resizes, by the error's reason or its text. -/
def resizeThrottle (err : Error) : Option Duration :=
  if err.reason = .tooManyRequests then some resizeThrottleBackoff
  else if ["RequestLimitExceeded", "VolumeModifyRateExceeded", "Throttling",
      "Rate exceeded"].any (contains err.msg) then some resizeThrottleBackoff
  else none

def hasFileSystemResizePending (pvc : PersistentVolumeClaim) : Bool :=
  pvc.conditions.any fun c => c.type = "FileSystemResizePending" && c.isTrue

/-! ## Listing -/

/-- The claims of the namespace that belong to the cluster. -/
def listClusterPVCs (cr : KeyValCluster) : M (Result (List PersistentVolumeClaim)) := do
  match ← ask (.listPVCs cr.ns) with
  | .error e => return .error e
  | .ok items => return .ok (items.filter (pvcBelongsToCluster cr))

/-! ## Resize -/

section
variable (F : Formats) (cr : KeyValCluster)

/-- The pod that mounts the claim: by its label, else by its name, else the claim's own name. -/
def resizePodName (pvc : PersistentVolumeClaim) : String :=
  let labelled := Map.str pvc.labels "statefulset.kubernetes.io/pod-name"
  let podName := if labelled = "" then podNameFromPVC cr pvc.name else labelled
  if podName = "" then pvc.name else podName

/-- The claim with the desired size requested. -/
def requestSize (desired : Quantity) (now : Time) (pvc : PersistentVolumeClaim) :
    PersistentVolumeClaim :=
  { pvc with
    request := some desired
    annotations := (pvc.annotations.insert annotationPVCResizeTarget desired.text).insert
      annotationPVCResizeRequestedAt (F.formatTime .rfc3339Nano now) }

/-- The claim with the resize marked complete. -/
def completeResize (now : Time) (pvc : PersistentVolumeClaim) : PersistentVolumeClaim :=
  { pvc with
    annotations := (pvc.annotations.insert annotationPVCResizeCompletedAt
      (F.formatTime .rfc3339Nano now)).erase annotationPVCResizeRequestedAt }

/-- The part of the loop body after the request: wait for the capacity or the file system, ask for
a restart when that takes too long, and mark the resize complete. -/
def trackResize (desired : Quantity) (pods : List Pod) (now : Time) (res : ResizeResult)
    (podName : String) (pvc : PersistentVolumeClaim) : M (ResizeResult × Option Error) := do
  let pendingFS := hasFileSystemResizePending pvc
  let capacity := pvc.capacity.getD {}
  let targetMatches := Map.str pvc.annotations annotationPVCResizeTarget = desired.text
  let requestedAt := (parseResizeTimestamp F
    (Map.str pvc.annotations annotationPVCResizeRequestedAt)).getD now
  let age := max 0 (timeSub now requestedAt)
  let completedAt := Map.str pvc.annotations annotationPVCResizeCompletedAt
  if targetMatches ∧ (pendingFS ∨ capacity.amount < desired.amount) then
    let needsRestart :=
      if pendingFS then resizeFilesystemGrace ≤ age else resizeCapacityGrace ≤ age
    let res := markWaiting res pvc.name defaultRequeue
    if needsRestart ∧ podName ∈ pods.map (·.name) then
      ask (.event (.storageResizeRestartQueued pvc.name podName age))
      return (appendReason res podName reasonResize, none)
    else return (res, none)
  else if targetMatches ∧ ¬ pendingFS ∧ desired.amount ≤ capacity.amount then
    if completedAt = "" then ask (.event (.storageResizeCompleted pvc.name desired.text))
    if completedAt = "" ∨ Map.str pvc.annotations annotationPVCResizeRequestedAt ≠ "" then
      -- every failure of this patch is only logged
      let _ ← ask (.patchPVC pvc (completeResize F now pvc))
    return (res, none)
  else return (res, none)

/-- The loop body of `ensureResize`. -/
def resizePVC (desired : Quantity) (pods : List Pod) (now : Time) (res : ResizeResult)
    (pvc : PersistentVolumeClaim) : M (ResizeResult × Option Error) := do
  if pvc.deletionTimestamp.isSome then
    return (markWaiting res pvc.name defaultRequeue, none)
  let podName := resizePodName cr pvc
  let current := pvc.request.getD {}
  if current.amount < desired.amount then
    match ← ask (.patchPVC pvc (requestSize F desired now pvc)) with
    | .error e =>
      if e.reason = .conflict then return (markWaiting res pvc.name defaultRequeue, none)
      else match resizeThrottle e with
        | some backoff =>
          ask (.event (.storageResizeBackoff pvc.name backoff))
          return (applyThrottle res pvc.name backoff, none)
        | none => return (res, some e)
    | .ok pvc' =>
      ask (.event (.storageResizeRequested pvc'.name current.text desired.text))
      trackResize F desired pods now res podName pvc'
  else
    if desired.amount < current.amount then
      ask (.event (.storageResizeIgnored pvc.name current.text desired.text))
    trackResize F desired pods now res podName pvc

/-- Align the claims' size with the spec. -/
def ensureResize (pods : List Pod) : M (ResizeResult × Option Error) := do
  if ¬ hasPersistentData cr then return ({}, none)
  match ← listClusterPVCs cr with
  | .error e => return ({}, some e)
  | .ok pvcs =>
    let now ← ask .now
    match ← Prog.forErr (resizePVC F cr (desiredStorageQuantity F cr) pods now) pvcs {} with
    | (res, some e) => return (res, some e)
    | (res, none) => return (res.sortPending, none)

end

/-! ## Cleanup -/

/-- The loop body of `cleanupPVCs`; the state is the result and the number of deletions. -/
def cleanupPVC (limit : Int) (s : CleanupResult × Int) (pvc : PersistentVolumeClaim) :
    M ((CleanupResult × Int) × Option Error) := do
  let result := { s.1 with pending := s.1.pending ++ [pvc.name] }
  if pvc.deletionTimestamp.isSome ∨ limit ≤ s.2 then return ((result, s.2), none)
  match ← ask (.deletePVC pvc.ns pvc.name) with
  | .error e =>
    if e.reason = .notFound then return ((result, s.2), none)
    else return ((result, s.2), some e)
  | .ok () =>
    ask (.event (.storagePVCDeletionRequested pvc.name))
    return (({ result with deleted := result.deleted ++ [pvc.name] }, s.2 + 1), none)

/-- Delete the cluster's claims, at most `limit` of them. -/
def cleanupPVCs (cr : KeyValCluster) (limit : Int) : M (CleanupResult × Option Error) := do
  if ¬ hasPersistentData cr then return ({}, none)
  match ← listClusterPVCs cr with
  | .error e => return ({}, some e)
  | .ok pvcs =>
    let limit := if limit ≤ 0 then cleanupBatchDefault else limit
    match ← Prog.forErr (cleanupPVC limit) pvcs ({}, 0) with
    | ((result, _), some e) => return (result, some e)
    | ((result, _), none) =>
      return ({ pending := sortStrings result.pending, deleted := sortStrings result.deleted },
        none)

end Keyval.Storage
