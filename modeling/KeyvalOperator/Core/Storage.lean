import KeyvalOperator.Core.Naming

/-!
# Storage of a cluster

`core.storage`: whether the data is persistent, the desired size of the volume claims, the names
of a pod's claim and of a claim's pod, and which claims belong to a cluster.
-/

namespace Keyval

open Go

def defaultStorageRequest : Quantity := ⟨2 ^ 30 * 1000000000, "1Gi"⟩

def hasPersistentData (cr : KeyValCluster) : Bool :=
  match cr.spec.storage with
  | none => true
  | some st => st.type ≠ "Ephemeral"

/-- The volume claims are deleted with the cluster. -/
def storageCleanupEnabled (cr : KeyValCluster) : Bool :=
  match cr.spec.storage with
  | none => false
  | some st => !equalFold st.type "Ephemeral" && st.cleanupOnDelete

def dataPVCName (podName : String) : String := dataVolumeName ++ "-" ++ podName

def desiredStorageQuantity (F : Formats) (cr : KeyValCluster) : Quantity :=
  match cr.spec.storage with
  | some { size := some size, .. } => (F.parseQuantity size).getD defaultStorageRequest
  | _ => defaultStorageRequest

/-- The text a claim's name starts with when it is a claim of the cluster's StatefulSet. -/
def pvcPrefix (cr : KeyValCluster) : String := dataVolumeName ++ "-" ++ cr.name ++ "-"

/-- The pod of a claim, by the claim's name; empty when the name is not the cluster's. -/
def podNameFromPVC (cr : KeyValCluster) (pvcName : String) : String :=
  if ¬ hasPrefix pvcName (pvcPrefix cr) then ""
  else
    let ordinal := trimPrefix pvcName (pvcPrefix cr)
    if ordinal = "" then "" else cr.name ++ "-" ++ ordinal

/-- Whether the claim is owned by the cluster's StatefulSet: by its name, else by an owner
reference, else by its labels. -/
def pvcBelongsToCluster (cr : KeyValCluster) (pvc : PersistentVolumeClaim) : Bool :=
  if pvc.ns ≠ cr.ns then false
  else if hasPrefix pvc.name (pvcPrefix cr) then true
  else if pvc.ownerReferences.any fun o => o.kind = "StatefulSet" && o.name = cr.name then true
  else
    Map.str pvc.labels labelClusterKey = cr.name && Map.str pvc.labels labelAppKey = appLabel cr

end Keyval
