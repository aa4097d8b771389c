import KeyvalOperator.Api.Op
import KeyvalOperator.Core.Storage

/-!
# Freshness of the data and the choice of a master

`ops/bootstrap`: `updatePVCFreshness` stores the replication offset of each pod on its claim;
`selectCandidate` ranks the pods by what is stored and chooses the pod to promote when the cluster
is rebuilt: a forced pod, else the highest offset, else the first pod by name.
-/

namespace Keyval.Bootstrap

open Go Interact

structure Candidate where
  name : String := ""
  source : String := ""
  offset : Int := 0
  updated : Time := 0
  deriving DecidableEq

structure FreshnessRecord where
  podName : String
  offset : Int := 0
  updatedAt : Time := 0
  lastRole : String := ""
  forceMaster : Bool := false
  deriving DecidableEq

def freshnessOffset (info : ReplicationInfo) : Int :=
  if info.role = "master" then
    if 0 < info.masterReplOffset then info.masterReplOffset
    else if 0 < info.replicaReplOffset then info.replicaReplOffset
    else 0
  else if 0 < info.replicaReplOffset then info.replicaReplOffset
  else if 0 < info.masterReplOffset then info.masterReplOffset
  else 0

def freshnessRole (info : ReplicationInfo) : String :=
  if info.role ≠ "" then info.role else "unknown"

/-! ## Storing -/

section
variable (F : Formats)

/-- The claim with the freshness of `info` at `now`. -/
def recordFreshness (info : ReplicationInfo) (now : Time) (pvc : PersistentVolumeClaim) :
    PersistentVolumeClaim :=
  { pvc with
    annotations :=
      ((pvc.annotations.insert annotationPVCReplicationOffset
        (toString (freshnessOffset info))).insert annotationPVCReplicationRole
        (freshnessRole info)).insert annotationPVCOffsetTimestamp
        (F.formatTime .rfc3339Nano now) }

def pvcEqualAnnotations (cur desired : PersistentVolumeClaim) : Bool :=
  [annotationPVCReplicationOffset, annotationPVCReplicationRole,
    annotationPVCOffsetTimestamp].all fun key =>
      Map.str cur.annotations key = Map.str desired.annotations key

/-- The loop body of `updatePVCFreshness`; every failure is skipped. -/
def updateFreshness (infos : Map ReplicationInfo) (now : Time) (pod : Pod) : M Unit :=
  match infos.lookup pod.name with
  | none => return
  | some info => do
    match ← ask (.getPVC pod.ns (dataPVCName pod.name)) with
    | .error _ => return
    | .ok pvc =>
      let desired := recordFreshness F info now pvc
      if pvcEqualAnnotations pvc desired then return
      else
        let _ ← ask (.patchPVC pvc desired)
        return

def updatePVCFreshness (cr : KeyValCluster) (pods : List Pod) (infos : Map ReplicationInfo) :
    M Unit := do
  if ¬ hasPersistentData cr ∨ pods = [] then return
  let now ← ask .now
  let _ ← Prog.mapAll (updateFreshness F infos now) pods
  return

/-! ## Choosing -/

def freshnessRecord (pod : Pod) (annotations : Map String) : FreshnessRecord :=
  let ts := Map.str annotations annotationPVCOffsetTimestamp
  let updatedAt := if ts = "" then 0 else (F.parseTime .rfc3339Nano ts).getD 0
  { podName := pod.name
    offset := (parseInt 64 (Map.str annotations annotationPVCReplicationOffset)).getD 0
    updatedAt := if isZeroTime updatedAt then pod.creationTimestamp else updatedAt
    lastRole := Map.str annotations annotationPVCReplicationRole
    forceMaster := equalFold (Map.str pod.annotations annotationForceMaster) "true" }

def loadFreshnessRecord (cr : KeyValCluster) (pod : Pod) : M FreshnessRecord := do
  if ¬ hasPersistentData cr then return freshnessRecord F pod ∅
  match ← ask (.getPVC pod.ns (dataPVCName pod.name)) with
  | .error _ => return freshnessRecord F pod ∅
  | .ok pvc => return freshnessRecord F pod pvc.annotations

def isMasterRole (role : String) : Bool := role.toList.map Char.toLower = "master".toList

/-- `a` is placed before `b`: by offset, time, last role, ordinal and name. -/
def recordLess (a b : FreshnessRecord) : Bool :=
  if a.offset ≠ b.offset then b.offset < a.offset
  else if a.updatedAt ≠ b.updatedAt then b.updatedAt < a.updatedAt
  else if isMasterRole a.lastRole ∧ ¬ isMasterRole b.lastRole then true
  else if ¬ isMasterRole a.lastRole ∧ isMasterRole b.lastRole then false
  else if 0 ≤ ordinal a.podName ∧ 0 ≤ ordinal b.podName ∧ ordinal a.podName ≠ ordinal b.podName
    then ordinal a.podName < ordinal b.podName
  else a.podName < b.podName

def sortRecords (recs : List FreshnessRecord) : List FreshnessRecord :=
  recs.insertionSort fun a b => recordLess b a = false

/-- The candidate among the loaded records; `seed` is the first pod by name. -/
def chooseCandidate (records : List FreshnessRecord) (seed : String) : Candidate :=
  match sortRecords (records.filter (·.forceMaster)) with
  | best :: _ => ⟨best.podName, "force-master", best.offset, best.updatedAt⟩
  | [] =>
    match sortRecords records with
    | best :: _ =>
      if 0 < best.offset then ⟨best.podName, "freshness", best.offset, best.updatedAt⟩
      else ⟨seed, "seed", 0, 0⟩
    | [] => ⟨seed, "seed", 0, 0⟩

def selectCandidate (cr : KeyValCluster) (pods : List Pod) : M Candidate :=
  match sortedPodsByName pods with
  | [] => return {}
  | seed :: _ => do
    let records ← Prog.mapAll (loadFreshnessRecord F cr) pods
    return chooseCandidate records seed.name

end

end Keyval.Bootstrap
