import KeyvalOperator.Ops.Importer
import KeyvalOperator.Reconcile.State

/-!
# External import phase

The importer runs before the pods are reconciled. Its progress lives in the status, from which the
next reconcile takes it. The phase does nothing when the reconcile is already aborted.
-/

namespace Keyval.Phases

open Go Interact

def importOptions (st : State) : Importer.Options where
  cluster := st.cluster
  spec := st.cluster.spec.externalSource
  currentStatus := st.cluster.status.externalImport
  pods := st.redisPods
  sentinelPods := st.sentinelPods
  clientFactory := st.clientFactory

def externalImport (F : Formats) (st : State) : M (State × Option Error) :=
  if st.abortDirective.isSome then return (st, none)
  else do
    let (res, err) ← Importer.ensure F (importOptions st)
    let st := { st with
      importStatus := res.status
      conditionOverrides :=
        st.conditionOverrides.insert ConditionType.externalImport.str res.condition }
    let st := st.requeueIf (0 < res.requeueAfter) res.requeueAfter
    return (if res.abort then { st with abortDirective := some err } else st, err)

end Keyval.Phases
