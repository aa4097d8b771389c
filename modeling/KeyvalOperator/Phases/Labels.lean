import KeyvalOperator.Reconcile.State

/-!
# Labels phase

The role labels of the Redis pods are aligned with the master that Runtime determined: pods that
lose the role master first, then all others. A patch that conflicts is retried on the refreshed
pod; after `podLabelPatchMaxAttempts` conflicts the pod is left as it is, without an error.
-/

namespace Keyval.Phases

open Go Interact

def podLabelPatchMaxAttempts : Nat := 3

def roleLabelConflictBackoff (attempt : Nat) : Duration :=
  if attempt ≤ 1 then 2 * second else if attempt = 2 then 4 * second else 8 * second

/-- What `applyAt` leaves for one pod: the pod in memory, the delays, whether a patch was applied,
and the error. -/
structure Applied where
  pod : Pod
  accumulator : RequeueAccumulator
  changed : Bool := false
  err : Option Error := none

/-- The attempts of `applyAt` to give the pod the label `toRole`, with `left` of them left. -/
def applyRole (toRole : String) : Nat → Pod → RequeueAccumulator → M Applied
  | 0, cur, acc => return { pod := cur, accumulator := acc }
  | left + 1, cur, acc => do
    if cur.role = toRole then return { pod := cur, accumulator := acc }
    match ← ask (.patchPodRole cur.ns cur.name cur.resourceVersion toRole) with
    | .ok pod => return { pod, accumulator := acc, changed := true }
    | .error e =>
      if e.reason ≠ .conflict then
        -- the label stays changed in memory
        return {
          pod := cur.setRole toRole
          accumulator := acc
          err := some (.wrapTransient (.wrap ("patch role label " ++ cur.name) e)) }
      let acc := acc.setMin (roleLabelConflictBackoff (podLabelPatchMaxAttempts - left))
      if left = 0 then return { pod := cur, accumulator := acc }
      match ← ask (.getPod cur.ns cur.name) with
      | .error e =>
        if e.reason = .notFound then return { pod := cur, accumulator := acc }
        else return {
          pod := cur
          accumulator := acc
          err := some (.wrapTransient (.wrap ("refresh pod " ++ cur.name ++ " after conflict") e)) }
      | .ok refreshed => applyRole toRole left refreshed acc

/-- The pods in memory, the delays and the number of patches applied. -/
structure LabelState where
  pods : List Pod
  accumulator : RequeueAccumulator
  changes : Nat := 0

/-- `applyAt` on the pod with index `i`, which is to have the role label `toRole`. -/
def applyAt (s : LabelState) (i : Nat × String) : M (LabelState × Option Error) :=
  match s.pods[i.1]? with
  | none => return (s, none)
  | some cur => do
    let a ← applyRole i.2 podLabelPatchMaxAttempts cur s.accumulator
    return ({ pods := s.pods.set i.1 a.pod
              accumulator := a.accumulator
              changes := if a.changed then s.changes + 1 else s.changes }, a.err)

/-- The indices of the pods whose role label is to change, with the label: those that lose the role
master when `demote`, else the others. -/
def labelIdxs (demote : Bool) (pods desiredPods : List Pod) : List (Nat × String) :=
  ((pods.zip desiredPods).zipIdx.filter fun ((cur, want), _) => cur.role ≠ want.role &&
    (demote == (cur.role = PodRole.master.str && want.role ≠ PodRole.master.str))).map
    fun ((_, want), i) => (i, want.role)

def labels (st : State) : M (State × Option Error) := do
  let pods := st.redisPods
  if pods = [] then return (st, none)
  let master := st.runtime.master
  let desiredPods := Replication.updatePodRoleLabels pods master
  let (s, err) ← Prog.forErr applyAt
    (labelIdxs true pods desiredPods ++ labelIdxs false pods desiredPods)
    ⟨pods, st.accumulator, 0⟩
  let st := { st with redisPods := s.pods, accumulator := s.accumulator }
  match err with
  | some e => return (st, some e)
  | none =>
    if 0 < s.changes then ask (.event (.roleCorrected master))
    return (st, none)

end Keyval.Phases
