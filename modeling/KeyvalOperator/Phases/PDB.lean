import KeyvalOperator.Phases.Workloads
import KeyvalOperator.Resources.PDB

/-!
# PDB phase

The disruption budgets of the Redis and the Sentinel pods. Each is built, resolved against the
stored one, which may keep a larger minimum by annotation, and applied; no failure stops the phase.
-/

namespace Keyval

open Go Interact

/-- `ssa.PodDisruptionBudget`: the budget as it is applied. -/
def Ssa.podDisruptionBudget (src : PodDisruptionBudget) : PodDisruptionBudget where
  name := src.name
  ns := src.ns
  labels := src.labels
  annotations := src.annotations
  matchLabels := src.matchLabels
  minAvailable := src.minAvailable
  maxUnavailable := src.maxUnavailable

namespace Phases

/-! ## Minimums -/

def pdbPreserveMinAnnotation : String := "keyval.ivelok.io/preserve-min-available"

def annotationBoolTrue (annotations : Map String) (key : String) : Bool :=
  match annotations.lookup key with
  | none => false
  | some val => val ∈ ["true", "True", "TRUE", "1", "yes", "on"]

def computeRedisPDBMinAvailable (cr : KeyValCluster) (allowDisruptions : Bool)
    (settings : Health.Settings) : Int :=
  let desired := if cr.spec.redisReplicas < 0 then 0 else cr.spec.redisReplicas
  if ¬ allowDisruptions then desired
  else
    let limit := if desired - 1 < 0 then 0 else desired - 1
    let safety := if settings.minReplicasForSafety < 0 then 0 else settings.minReplicasForSafety
    let safety := if limit < safety then limit else safety
    if cr.spec.mode = .standalone then
      if desired ≤ 1 then 0 else if safety < 1 then 1 else safety
    else safety

def computeSentinelPDBMinAvailable (cr : KeyValCluster) (allowDisruptions : Bool) : Int :=
  if cr.spec.mode ≠ .sentinel then 0
  else
    let desired := sentinelDesiredCount cr
    if desired ≤ 0 then 0
    else if ¬ allowDisruptions then desired
    else
      let quorum := desired / 2 + 1
      let quorum := if desired < quorum then desired else quorum
      if quorum < 1 then 1 else quorum

def minAvailableValue (pdb : PodDisruptionBudget) : Option Int :=
  match pdb.minAvailable with
  | some (.int n) => some n
  | _ => none

/-- The minimum to apply, and whether it is the stored one. -/
def resolvePDBMinAvailable (prevMin : Option Int) (computedMin : Int) (annotations : Map String) :
    Int × Bool :=
  match prevMin with
  | some prev =>
    if annotationBoolTrue annotations pdbPreserveMinAnnotation ∧ computedMin < prev then
      (prev, true)
    else (computedMin, false)
  | none => (computedMin, false)

def setMinAvailable (pdb : PodDisruptionBudget) (min : Int) : PodDisruptionBudget :=
  { pdb with
    minAvailable := some (.int (if min < 0 then 0 else min))
    maxUnavailable := none }

/-! ## The phase -/

def annotationOrDefault (annotations : Map String) (key fallback : String) : String :=
  match annotations.lookup key with
  | some val => if trimSpace val ≠ "" then val else fallback
  | none => fallback

def pdbMode (allow : Bool) : String := if allow then "Soft" else "Hard"

/-- The minimum of a budget and the budget with it, given the stored one. -/
def resolveBudget (existing : Option PodDisruptionBudget) (computed : Int)
    (pdbObj : PodDisruptionBudget) : Int × PodDisruptionBudget :=
  let annotations := (existing.map (·.annotations)).getD ∅
  let (desiredMin, preserve) :=
    resolvePDBMinAvailable (existing.bind minAvailableValue) computed annotations
  let pdbObj := setMinAvailable pdbObj desiredMin
  let kept := annotationOrDefault annotations pdbPreserveMinAnnotation "true"
  (desiredMin,
    if preserve then
      { pdbObj with annotations := pdbObj.annotations.insert pdbPreserveMinAnnotation kept }
    else pdbObj)

/-- Read the stored budget, resolve the new one and apply it: the minimum that was resolved. -/
def applyBudget (cr : KeyValCluster) (component : String) (allowDisruptions : Bool) (computed : Int)
    (pdbObj : PodDisruptionBudget) : M Int := do
  let reply ← ask (.getPDB pdbObj.ns pdbObj.name)
  let (desiredMin, pdbObj) := resolveBudget reply.toOption computed pdbObj
  let apply := { Ssa.podDisruptionBudget pdbObj with
    ownerReferences := [⟨"KeyValCluster", cr.name⟩] }
  match ← ask (.applyPDB apply) with
  | .error _ => return desiredMin
  | .ok () =>
    match minAvailableValue pdbObj with
    | none => return desiredMin
    | some min =>
      if reply.toOption.bind minAvailableValue ≠ some min then
        ask (.event (.pdbModeSwitched component (pdbMode allowDisruptions) min))
      return desiredMin

structure DisruptionMinimums where
  redisMin : Int := 0
  sentinelMin : Int := 0
  deriving DecidableEq

def redisBudget (st : State) : M Int :=
  let cr := st.cluster
  let allowDisruptions := st.status.allowDisruptions
  if 0 < cr.spec.redisReplicas then
    let computed := computeRedisPDBMinAvailable cr allowDisruptions (Health.settingsFor cr)
    applyBudget cr "redis" allowDisruptions computed (Resources.redisPDB cr computed)
  else return 0

def sentinelBudget (st : State) : M Int :=
  let cr := st.cluster
  if cr.spec.mode = .sentinel ∧ 0 < sentinelDesiredCount cr then
    let computed := computeSentinelPDBMinAvailable cr st.status.allowSentinel
    -- the event names the mode of the Redis budget also for this one
    applyBudget cr "sentinel" st.status.allowDisruptions computed
      (Resources.sentinelPDB cr computed)
  else return 0

def pdb (st : State) : M DisruptionMinimums := do
  let redisMin ← redisBudget st
  let sentinelMin ← sentinelBudget st
  return { redisMin, sentinelMin }

end Phases

end Keyval
