import KeyvalOperator.Reconcile.State
import KeyvalOperator.Resources.StatefulSet

/-!
# PodMetadata phase

Existing pods get the labels and annotations of their template. The keys that the template has, or
had before, are set or removed; the role label and the two hashes belong to other phases. A patch
carries the version of the pod that it was made from: a conflict leaves the pod for the next
reconcile, with what a read of it shows in memory.
-/

namespace Keyval.Phases

open Go Interact

/-- The labels and annotations of a template, as they are to be and as they were. -/
structure PodTemplateMetadata where
  desiredLabels : Map String := ∅
  previousLabels : Map String := ∅
  desiredAnnotations : Map String := ∅
  previousAnnotations : Map String := ∅
  deriving DecidableEq

def managedKeys (prev desired : Map String) : List String := (prev ∪ desired).sortedKeys

def managedLabels (template : PodTemplateMetadata) : List String :=
  (managedKeys template.previousLabels template.desiredLabels).filter (· ≠ roleLabelKey)

def managedAnnotations (template : PodTemplateMetadata) : List String :=
  (managedKeys template.previousAnnotations template.desiredAnnotations).filter fun key =>
    key ≠ Resources.configHashAnnotationKey ∧ key ≠ tlsSecretHashAnnotationKey

/-- The body of the loop over the keys: the map, and whether it has changed. -/
def syncKey (desired : Map String) (s : Map String × Bool) (key : String) : Map String × Bool :=
  match desired.lookup key with
  | some value => if s.1.lookup key = some value then s else (s.1.insert key value, true)
  | none => if (s.1.lookup key).isSome then (s.1.erase key, true) else s

/-- The loop over the keys, in whatever order they come. -/
def syncKeys (desired : Map String) (keys : List String) (current : Map String) :
    Map String × Bool :=
  keys.foldl (syncKey desired) (current, false)

section
variable (template : PodTemplateMetadata)

/-- The pod with the metadata of the template, and whether it has changed. -/
def updatedPod (cur : Pod) : Pod × Bool :=
  let labels := syncKeys template.desiredLabels (managedLabels template) cur.labels
  let annotations :=
    syncKeys template.desiredAnnotations (managedAnnotations template) cur.annotations
  ({ cur with labels := labels.1, annotations := annotations.1 }, labels.2 || annotations.2)

/-- The body of the loop over the pods. -/
def syncPod (st : State) (cur : Pod) : M (State × Pod × Option Error) := do
  let (updated, changed) := updatedPod template cur
  if ¬ changed then return (st, cur, none)
  else
    match ← ask (.patchPod cur updated) with
    | .ok pod => return (st, pod, none)
    | .error e =>
      if e.reason = .notFound then return (st, cur, none)
      else if e.reason = .conflict then
        let st := st.requeueMin (2 * second)
        match ← ask (.getPod cur.ns cur.name) with
        | .ok refreshed => return (st, refreshed, none)
        | .error _ => return (st, cur, none)
      else
        let what := "patch pod metadata " ++ cur.ns ++ "/" ++ cur.name
        return (st, cur, some (.wrapTransient (.wrap what e)))

/-- The loop over the pods. A pod that was patched stays so in memory also when a later one fails.
-/
def syncPods (st : State) : List Pod → M (State × List Pod × Option Error)
  | [] => return (st, [], none)
  | cur :: rest => do
    match ← syncPod template st cur with
    | (st, pod, some e) => return (st, pod :: rest, some e)
    | (st, pod, none) =>
      let (st, pods, err) ← syncPods st rest
      return (st, pod :: pods, err)

def syncPodMetadata (st : State) (pods : List Pod) : M (State × List Pod × Option Error) :=
  if managedLabels template = [] ∧ managedAnnotations template = [] then return (st, pods, none)
  else syncPods template st pods

end

/-- The phase, with the templates of the Redis and the Sentinel pods. -/
def podMetadata (redis sentinel : PodTemplateMetadata) (st : State) : M (State × Option Error) := do
  match ← syncPodMetadata redis st st.redisPods with
  | (st, pods, some e) => return ({ st with redisPods := pods }, some e)
  | (st, pods, none) =>
    let st := { st with redisPods := pods }
    if st.cluster.spec.mode = .sentinel then
      let (st, pods, err) ← syncPodMetadata sentinel st st.sentinelPods
      return ({ st with sentinelPods := pods }, err)
    else return (st, none)

end Keyval.Phases
