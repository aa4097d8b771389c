import KeyvalOperator.Ops.Bootstrap
import KeyvalOperator.Ops.Replication
import KeyvalOperator.Ops.Storage

/-!
# The state of a reconcile

`reconcile.State`: what the phases of one reconcile hand to each other, and the accumulator of
requeue delays.
-/

namespace Keyval

open Go

/-! ## Requeue delays -/

structure RequeueAccumulator where
  min : Duration := 0
  next : Duration := 0
  deriving DecidableEq

namespace RequeueAccumulator

/-- Record a candidate delay. -/
def set (a : RequeueAccumulator) (d : Duration) : RequeueAccumulator :=
  if d ≤ 0 then a
  else
    let next := if a.next = 0 ∨ d < a.next then d else a.next
    { a with next := if 0 < a.min ∧ next < a.min then a.min else next }

/-- Raise the minimum delay. -/
def setMin (a : RequeueAccumulator) (d : Duration) : RequeueAccumulator :=
  if d ≤ 0 then a
  else
    let min := if a.min = 0 ∨ a.min < d then d else a.min
    { min, next := if 0 < a.next ∧ a.next < min then min else a.next }

def result (a : RequeueAccumulator) : Duration :=
  if a.next = 0 then a.min else if 0 < a.min ∧ a.next < a.min then a.min else a.next

end RequeueAccumulator

/-! ## State -/

structure RuntimeState where
  master : String := ""
  roles : Map PodRole := ∅
  infos : Map ReplicationInfo := ∅
  topology : Replication.EnsureResult := {}
  bootstrapCandidate : Bootstrap.Candidate := {}
  replicationError : Option Error := none
  needSentinelReset : Bool := false
  health : Map PodHealth := ∅
  lagSeconds : Map Int := ∅
  anyNotReady : Bool := false
  needHealthRetry : Bool := false
  readyCount : Nat := 0
  activePods : Nat := 0
  healthyReplicas : Nat := 0
  /-- The outcome of the runtime configuration as a condition. -/
  runtimeCondition : Option ConditionState := none
  deriving DecidableEq

structure State where
  cluster : KeyValCluster
  accumulator : RequeueAccumulator := {}
  /-- Whether the client factories and the master cache are set. -/
  clientFactory : Bool := true
  sentinelFactory : Bool := true
  masterCache : Bool := true
  settings : Settings := {}
  tlsHash : String := ""
  configHash : String := ""
  redisPods : List Pod := []
  sentinelPods : List Pod := []
  storagePlan : Storage.ResizeResult := {}
  conditionOverrides : Map ConditionState := ∅
  runtime : RuntimeState := {}
  sentinel : SentinelState := { quorumOK := false, detail := "" }
  status : StatusState := { computed := {}, allowDisruptions := false, allowSentinel := false }
  /-- The error of the abort directive, when there is one. -/
  abortDirective : Option (Option Error) := none
  /-- The progress of the external import. -/
  importStatus : Option ExternalImportStatus := none

namespace State

def requeueAfter (st : State) (d : Duration) : State :=
  { st with accumulator := st.accumulator.set d }

/-- `requeueAfter` under a condition. -/
def requeueIf (st : State) (c : Prop) [Decidable c] (d : Duration) : State :=
  if c then st.requeueAfter d else st

section
variable (st : State) (c : Prop) [Decidable c] (d : Duration)

@[simp] theorem requeueIf_cluster : (st.requeueIf c d).cluster = st.cluster := by
  unfold requeueIf
  split <;> rfl

@[simp] theorem requeueIf_redisPods : (st.requeueIf c d).redisPods = st.redisPods := by
  unfold requeueIf
  split <;> rfl

@[simp] theorem requeueIf_runtime : (st.requeueIf c d).runtime = st.runtime := by
  unfold requeueIf
  split <;> rfl

end

def requeueMin (st : State) (d : Duration) : State :=
  { st with accumulator := st.accumulator.setMin d }

def nextRequeue (st : State) : Duration := st.accumulator.result

end State

end Keyval
