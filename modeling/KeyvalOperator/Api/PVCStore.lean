import KeyvalOperator.Api.Op

/-!
# The volume claims in the API server

A store of volume claims by namespace and name, and how the operator's requests change it
(`pvcWorld`): a list or a read answers from the store, a merge patch that succeeds stores the
patched claim, a deletion removes it. No other writer changes a claim.
-/

namespace Keyval

open Interact

/-- The claims of the API server; each is stored under its own namespace and name. -/
structure PVCStore where
  get : String → String → Option PersistentVolumeClaim
  wf : ∀ {ns name pvc}, get ns name = some pvc → pvc.ns = ns ∧ pvc.name = name

namespace PVCStore

def empty : PVCStore := ⟨fun _ _ => none, nofun⟩

def put (s : PVCStore) (pvc : PersistentVolumeClaim) : PVCStore where
  get ns name := if ns = pvc.ns ∧ name = pvc.name then some pvc else s.get ns name
  wf := by
    intro ns name pvc' h
    split at h
    · rename_i hk
      obtain rfl := Option.some.inj h
      exact ⟨hk.1.symm, hk.2.symm⟩
    · exact s.wf h

def erase (s : PVCStore) (ns name : String) : PVCStore where
  get ns' name' := if ns' = ns ∧ name' = name then none else s.get ns' name'
  wf := by
    intro ns' name' pvc h
    split at h
    · cases h
    · exact s.wf h

theorem put_get_self (s : PVCStore) (pvc : PersistentVolumeClaim) :
    (s.put pvc).get pvc.ns pvc.name = some pvc := if_pos ⟨rfl, rfl⟩

theorem put_get_ne (s : PVCStore) {pvc : PersistentVolumeClaim} {ns name : String}
    (h : ¬ (ns = pvc.ns ∧ name = pvc.name)) : (s.put pvc).get ns name = s.get ns name := if_neg h

end PVCStore

def pvcWorld : World Op PVCStore where
  step s
    | ⟨.patchPVC _ _, .ok pvc⟩ => s.put pvc
    | ⟨.deletePVC ns name, .ok _⟩ => s.erase ns name
    | _ => s
  ok s
    | ⟨.listPVCs ns, .ok l⟩ => ∀ pvc ∈ l, s.get ns pvc.name = some pvc
    | ⟨.getPVC ns name, .ok pvc⟩ => s.get ns name = some pvc
    | ⟨.patchPVC base desired, .ok pvc⟩ =>
      pvc.ns = base.ns ∧ pvc.name = base.name ∧
        (s.get base.ns base.name = some base → pvc.annotations = desired.annotations)
    | _ => True

end Keyval
