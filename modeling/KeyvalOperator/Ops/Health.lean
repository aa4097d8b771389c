import KeyvalOperator.Api.Types

/-!
# Health

`ops/health`: the thresholds of `spec.health`, with `spec.replicationHealth` as the older form, and
the health of a pod with its replication lag.
-/

namespace Keyval.Health

open Go

structure Settings where
  lagThresholdSeconds : Int := 5
  failoverTimeoutSeconds : Int := 20
  minReplicasForSafety : Int := 2
  deriving DecidableEq

def settingsFor (cr : KeyValCluster) : Settings :=
  let s : Settings := match cr.spec.health with
    | some hs =>
      { lagThresholdSeconds :=
          if 0 ≤ hs.replicationLagSecondsMax then hs.replicationLagSecondsMax else 5
        failoverTimeoutSeconds :=
          if 0 < hs.failoverTimeoutSeconds then hs.failoverTimeoutSeconds else 20
        minReplicasForSafety :=
          if 0 < hs.minReplicasForSafety then hs.minReplicasForSafety else 2 }
    | none => match cr.spec.replicationHealth with
      | some legacy =>
        if 0 < legacy.lagThresholdSeconds then { lagThresholdSeconds := legacy.lagThresholdSeconds }
        else {}
      | none => {}
  { s with minReplicasForSafety :=
      if s.minReplicasForSafety < 1 then 1 else s.minReplicasForSafety }

def lagThresholdSeconds (cr : KeyValCluster) : Int := (settingsFor cr).lagThresholdSeconds

/-! ## Pods -/

/-- The offset difference, as a 32-bit lag. -/
def computeLagSeconds (masterOffset replicaOffset : Int) : Option Int :=
  if masterOffset ≤ 0 ∨ replicaOffset ≤ 0 then none
  else if masterOffset - replicaOffset ≤ 0 then none
  else some (min (masterOffset - replicaOffset) (2 ^ 31 - 1))

def mergeLagPointers : List (Option Int) → Option Int :=
  List.foldl (fun result p => match result, p with
    | r, none => r
    | none, some v => some v
    | some r, some v => if r < v then some v else some r) none

def lagPointer (info : ReplicationInfo) : Option Int :=
  let io := if 0 < info.masterLastIOSecondsAgo then
    some (Int.bmod info.masterLastIOSecondsAgo (2 ^ 32)) else none
  mergeLagPointers [io, computeLagSeconds info.masterReplOffset info.replicaReplOffset]

/-- The health of a pod by its role; the lag threshold is passed and not used. -/
def evaluatePodHealth (role : PodRole) (info : ReplicationInfo) (ready : Bool) (_threshold : Int) :
    PodHealth × Option Int :=
  let lag := lagPointer info
  match role with
  | .sentinel => (if ready then .healthy else .offline, none)
  | .master => if info.role = "" ∧ ¬ ready then (.offline, none) else (.healthy, lag)
  | .replica =>
    if info.role = "" then (.offline, lag)
    else if info.masterLinkStatus ≠ "" ∧ ¬ equalFold info.masterLinkStatus "up" ∧
        ¬ equalFold info.masterLinkStatus "ok" then (.desynced, lag)
    else
      let status : PodHealth := if info.masterSyncInProgress then .lagging else .healthy
      if 0 < info.masterReplOffset ∧ 0 < info.replicaReplOffset then
        let diffLag := computeLagSeconds info.masterReplOffset info.replicaReplOffset
        (if diffLag.isSome ∧ status = .healthy then .lagging else status,
          mergeLagPointers [lag, diffLag])
      else (status, lag)

end Keyval.Health
