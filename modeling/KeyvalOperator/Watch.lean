import KeyvalOperator.Resources.StatefulSet

/-!
# Watches

What wakes the controller up: `runtime/pod_lifecycle` filters the events of pods and maps a pod to
its cluster, `runtime/secret` maps a secret to the clusters that have their certificates from it,
and `SetupWithManager` connects both to the queue. An update is mapped by its old and its new pod.
-/

namespace Keyval.Watch

open Go

/-- A pod with the fields that only the watch reads. -/
structure PodObject extends Pod where
  ownerReferences : List OwnerReference := []
  phase : String := ""
  deriving DecidableEq

structure Request where
  ns : String
  name : String
  deriving DecidableEq, Repr

/-! ## The cluster of a pod -/

def clusterNameFromStatefulSet (name : String) : Option String :=
  if name = "" then none
  else if hasSuffix name "-sentinel" then
    let base := trimSuffix name "-sentinel"
    if base = "" then none else some base
  else some name

def labelsMatchCluster (labels : Map String) (cluster : String) : Bool :=
  let app := Map.str labels labelAppKey
  Map.str labels labelClusterKey = cluster || app = appLabelForName cluster ||
    app = sentinelAppLabelForName cluster

section
variable (pod : PodObject)

/-- The loop over the owner references. -/
def clusterFromOwners : Option String :=
  pod.ownerReferences.findSome? fun ref =>
    if ref.kind ≠ "StatefulSet" ∨ ref.name = "" then none
    else (clusterNameFromStatefulSet ref.name).filter (labelsMatchCluster pod.labels)

def isClusterManagedPod : Bool :=
  let name := Map.str pod.labels labelClusterKey
  if name ≠ "" then labelsMatchCluster pod.labels name else (clusterFromOwners pod).isSome

def clusterNamespacedName : Option Request :=
  let name := Map.str pod.labels labelClusterKey
  if name ≠ "" ∧ labelsMatchCluster pod.labels name then some ⟨pod.ns, name⟩
  else (clusterFromOwners pod).map (⟨pod.ns, ·⟩)

def podToClusterRequests : List Request := (clusterNamespacedName pod).toList

end

/-! ## Events -/

def operatorLabelChanged (oldLabels newLabels : Map String) : Bool :=
  [roleLabelKey, labelClusterKey, labelAppKey].any fun key =>
    Map.str oldLabels key ≠ Map.str newLabels key

def operatorAnnotationChanged (oldAnn newAnn : Map String) : Bool :=
  Map.str oldAnn Resources.configHashAnnotationKey ≠
    Map.str newAnn Resources.configHashAnnotationKey

inductive PodEvent
  | create (pod : PodObject)
  | delete (pod : PodObject)
  | update (oldPod newPod : PodObject)

def podLifecyclePredicate : PodEvent → Bool
  | .create pod => isClusterManagedPod pod || Map.str pod.labels labelClusterKey ≠ ""
  | .delete pod => isClusterManagedPod pod
  | .update oldPod newPod =>
    if ¬ isClusterManagedPod oldPod ∧ ¬ isClusterManagedPod newPod then false
    else oldPod.deletionTimestamp.isNone && newPod.deletionTimestamp.isSome ||
      isPodReady oldPod.toPod != isPodReady newPod.toPod ||
      oldPod.podIP != newPod.podIP || oldPod.phase != newPod.phase ||
      operatorLabelChanged oldPod.labels newPod.labels ||
      operatorAnnotationChanged oldPod.annotations newPod.annotations

def PodEvent.objects : PodEvent → List PodObject
  | .create pod | .delete pod => [pod]
  | .update oldPod newPod => [oldPod, newPod]

/-- `EnqueueRequestsFromMapFunc(PodToClusterMapper)` behind the predicate. -/
def enqueued (e : PodEvent) : List Request :=
  if podLifecyclePredicate e then e.objects.flatMap podToClusterRequests else []

/-! ## Secrets -/

/-- The clusters of the secret's namespace are listed; an error of that is dropped. -/
def tlsSecretToClusterRequests (secretName : String) (listed : Result (List KeyValCluster)) :
    List Request :=
  match listed with
  | .error _ => []
  | .ok items => items.filterMap fun cluster =>
    match cluster.spec.security.bind (·.tls) with
    | none => none
    | some tls =>
      if ¬ tls.enabled ∨ tls.secretName ≠ secretName then none
      else some ⟨cluster.ns, cluster.name⟩

end Keyval.Watch
