import KeyvalOperator.Core.Naming

/-!
# The disruption budgets

`resources.RedisPDB` and `resources.SentinelPDB`. The budget of the Sentinel pods follows the spec,
and the computed minimum stands only where the spec sets neither bound.
-/

namespace Keyval.Resources

open Go

def redisPDB (cr : KeyValCluster) (minAvailable : Int) : PodDisruptionBudget where
  name := cr.name ++ "-redis"
  ns := cr.ns
  labels := labelsFor cr
  matchLabels := labelsFor cr
  minAvailable := some (.int (max 0 minAvailable))

def sentinelPDB (cr : KeyValCluster) (minAvailable : Int) : PodDisruptionBudget where
  name := cr.name ++ "-sentinel"
  ns := cr.ns
  labels := sentinelLabelsFor cr
  matchLabels := sentinelLabelsFor cr
  minAvailable :=
    match cr.spec.sentinelPDB.bind (·.minAvailable) with
    | some v => some v
    | none =>
      if cr.spec.sentinelPDB.bind (·.maxUnavailable) = none then some (.int (max 0 minAvailable))
      else none
  maxUnavailable := cr.spec.sentinelPDB.bind (·.maxUnavailable)

end Keyval.Resources
