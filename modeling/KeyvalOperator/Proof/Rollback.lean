import KeyvalOperator.AnnotationHelpers
import KeyvalOperator.Proof.Annotations

/-!
# Annotation edits are taken back

A helper that edits annotations of the object in memory sends one patch at most. When the patch
fails the annotations are what they were before the call, also when they were nil or empty;
otherwise only the helper's own annotations have changed.

* `Settles`: what a call may do, for an edit that touches only its own keys (`send_settles`).
* `setAnnotation_eq`, `clearAnnotation_eq`, `writeSentinelResetTracker_eq`: read through their
  entries, the maps in memory are the annotations that the controller passes by value.
-/

namespace Keyval.InMemory

open Go Interact Interact.Prog List

section
variable {F : Formats} {cr : KeyValCluster} {m m' : MapVar String} {edit : Edit String}
  {own : List String} {t : Trace} {err : Option Error}

/-! ## One call -/

/-- A call of a helper with the annotations `m`, by what it leaves in memory: no patch is sent, or
the patch fails, or it succeeds. -/
inductive Settles (cr : KeyValCluster) (own : List String) (m : MapVar String) :
    Trace → MapVar String → Option Error → Prop
  | unneeded : Settles cr own m [] m none
  | failed {m' : MapVar String} {edited : Map String} {e : Error} (hvalue : m'.value = m.value) :
      Settles cr own m [⟨.patchCluster cr.ns cr.name edited cr.finalizers, .error e⟩] m' (some e)
  | patched {m' : MapVar String}
      (hothers : ∀ key ∉ own, m'.entries.lookup key = m.entries.lookup key)
      (hnil : m'.value ≠ some ∅) :
      Settles cr own m [⟨.patchCluster cr.ns cr.name m'.entries cr.finalizers, .ok ()⟩] m' none

/-- The edit leaves the copy and the annotations of others alone, and no empty map behind. -/
structure OwnEdit (own : List String) (m : MapVar String) (edit : Edit String) : Prop where
  copy : edit.restore.value = m.value
  others : ∀ key ∉ own, edit.entries.lookup key = m.entries.lookup key
  nil : edit.value ≠ some ∅

theorem send_settles {c : Prop} [Decidable c] {changed : Bool} (hedit : OwnEdit own m edit)
    (h : (send cr m c edit).Runs t (m', changed, err)) : Settles cr own m t m' err := by
  unfold send at h
  split at h
  · obtain ⟨rfl, heq⟩ := runs_ret.1 h
    cases heq
    exact .unneeded
  · obtain ⟨reply, t', rfl, h1⟩ := runs_asked.1 h
    cases reply with
    | error e =>
      obtain ⟨rfl, heq⟩ := runs_ret.1 h1
      cases heq
      exact .failed hedit.copy
    | ok u =>
      obtain ⟨rfl, heq⟩ := runs_ret.1 h1
      cases heq
      exact .patched hedit.others hedit.nil

/-- Of some results only the annotations and the error are looked at. -/
theorem settles_of_bind {α : Type} {p : M α} {f : α → MapVar String × Option Error}
    (hp : ∀ {t a}, p.Runs t a → Settles cr own m t (f a).1 (f a).2)
    (h : (p.bind fun a => .ret (f a)).Runs t (m', err)) : Settles cr own m t m' err := by
  obtain ⟨t1, a, t2, rfl, h1, h2⟩ := runs_bind.1 h
  obtain ⟨rfl, heq⟩ := runs_ret.1 h2
  have hsettles := hp h1
  rw [← heq] at hsettles
  rwa [append_nil]

theorem ownEdit_set (m : MapVar String) (key value : String) :
    OwnEdit [key] m (m.deepCopy.ensure.assign key value) where
  copy := by simp [Edit.assign]
  others key' hkey := by
    rw [Edit.entries_assign, Edit.entries_deepCopy]
    exact Finmap.lookup_insert_of_ne _ (mem_singleton.not.1 hkey)
  nil hvalue := by
    have hempty : (m.deepCopy.ensure.assign key value).entries = ∅ := by
      rw [MapVar.entries, hvalue]
      rfl
    rw [Edit.entries_assign] at hempty
    have hself := Finmap.lookup_insert (a := key) (b := value) m.deepCopy.entries
    rw [hempty] at hself
    cases hself

theorem ownEdit_clear (m : MapVar String) (key : String) :
    OwnEdit [key] m (m.deepCopy.delete key).dropEmpty where
  copy := by simp [Edit.delete]
  others key' hkey := by
    rw [Edit.entries_dropEmpty, Edit.entries_delete, Edit.entries_deepCopy]
    exact Finmap.lookup_erase_ne (mem_singleton.not.1 hkey)
  nil := Edit.value_dropEmpty_ne _

@[simp] theorem entries_annotateOrDelete (edit : Edit String) (key value : String) (c : Prop)
    [Decidable c] : (annotateOrDelete edit key c value).entries =
      Keyval.annotateOrDelete edit.entries key c value := by
  unfold annotateOrDelete Keyval.annotateOrDelete
  split
  · exact edit.entries_assign key value
  · exact edit.entries_delete key

@[simp] theorem value_restore_annotateOrDelete (edit : Edit String) (key value : String) (c : Prop)
    [Decidable c] : (annotateOrDelete edit key c value).restore.value = edit.restore.value := by
  unfold annotateOrDelete
  split
  · simp [Edit.assign]
  · simp [Edit.delete]

theorem entries_trackerEdit (F : Formats) (edit : Edit String) (tracker : SentinelResetTracker) :
    (trackerEdit F edit tracker).entries = trackerAnnotations F edit.entries tracker := by
  simp [trackerEdit, trackerAnnotations]

theorem ownEdit_tracker (F : Formats) (m : MapVar String) (tracker : SentinelResetTracker) :
    OwnEdit (AnnotationEdit.writeTracker tracker).keys m (trackerEdit F m.deepCopy tracker) where
  copy := by simp [trackerEdit]
  others key hkey := by
    rw [entries_trackerEdit, Edit.entries_deepCopy]
    exact AnnotationEdit.lookup_edited hkey
  nil := Edit.value_dropEmpty_ne _

/-! ## The helpers -/

theorem clearAnnotation_settles {key current : String} {changed : Bool}
    (h : clearAnnotation cr m key |>.Runs t (m', changed, current, err)) :
    Settles cr [key] m t m' err := by
  obtain ⟨t1, r, t2, rfl, h1, h2⟩ := runs_bind.1 h
  obtain ⟨rfl, heq⟩ := runs_ret.1 h2
  cases heq
  rw [append_nil]
  exact send_settles (ownEdit_clear m key) h1

end

/-- The helpers that edit annotations of the cluster. -/
inductive Helper
  | setScalePhase (phase : String)
  | clearScalePhase
  | setUpdateBlocked (reason : String)
  | clearUpdateBlocked
  | writeTracker (tracker : SentinelResetTracker)

namespace Helper

/-- The annotations that the helper may change. -/
def keys : Helper → List String
  | setScalePhase _ | clearScalePhase => AnnotationEdit.clearScalePhase.keys
  | setUpdateBlocked _ | clearUpdateBlocked => AnnotationEdit.clearUpdateBlocked.keys
  | writeTracker tracker => (AnnotationEdit.writeTracker tracker).keys

/-- A call of the helper: the annotations in memory after it, and its error. -/
def run (F : Formats) (cr : KeyValCluster) (m : MapVar String) :
    Helper → M (MapVar String × Option Error)
  | setScalePhase phase => do
    let r ← setScalePhaseAnnotation cr m phase
    return (r.1, r.2.2)
  | clearScalePhase => do
    let r ← clearScalePhaseAnnotation cr m
    return (r.1, r.2.2.2)
  | setUpdateBlocked reason => do
    let r ← setUpdateBlockedAnnotation cr m reason
    return (r.1, r.2.2)
  | clearUpdateBlocked => do
    let r ← clearUpdateBlockedAnnotation cr m
    return (r.1, r.2.2.2)
  | writeTracker tracker => writeSentinelResetTracker cr m F tracker

variable {F : Formats} {cr : KeyValCluster} {m m' : MapVar String} {t : Trace} {err : Option Error}

theorem run_settles {helper : Helper} (h : (helper.run F cr m).Runs t (m', err)) :
    Settles cr helper.keys m t m' err := by
  cases helper with
  | setScalePhase phase =>
    refine settles_of_bind (p := setScalePhaseAnnotation cr m phase) (fun {t a} h => ?_) h
    unfold setScalePhaseAnnotation at h
    split at h
    · obtain ⟨rfl, rfl⟩ := runs_ret.1 h
      exact .unneeded
    · exact send_settles (ownEdit_set m annotationScalePhase phase) h
  | clearScalePhase => exact settles_of_bind clearAnnotation_settles h
  | setUpdateBlocked reason =>
    exact settles_of_bind (send_settles (ownEdit_set m annotationUpdateBlocked _)) h
  | clearUpdateBlocked => exact settles_of_bind clearAnnotation_settles h
  | writeTracker tracker => exact settles_of_bind (send_settles (ownEdit_tracker F m tracker)) h

/-- **A failed patch leaves the annotations in memory as they were**, nil, empty or not, and a call
without an error changes only the annotations of the helper and makes no empty map. The call fails
exactly when its patch does. -/
theorem run_rollsBack (F : Formats) (cr : KeyValCluster) (m m' : MapVar String) (helper : Helper)
    (t : Trace) (err : Option Error) (h : (helper.run F cr m).Runs t (m', err)) :
    (err ≠ none → m'.value = m.value) ∧
      (err = none → (∀ key ∉ helper.keys, m'.entries.lookup key = m.entries.lookup key) ∧
        (m'.value = some ∅ → m.value = some ∅)) ∧
      ∀ e, err = some e ↔
        ∃ edited, t = [⟨.patchCluster cr.ns cr.name edited cr.finalizers, .error e⟩] := by
  cases run_settles h with
  | unneeded => exact ⟨fun _ => rfl, fun _ => ⟨fun _ _ => rfl, id⟩, by simp⟩
  | failed hvalue => exact ⟨fun _ => hvalue, nofun, by simp⟩
  | patched hothers hnil =>
    exact ⟨fun herr => absurd rfl herr, fun _ => ⟨hothers, fun h => absurd h hnil⟩, by simp⟩

/-- The annotations of a cluster that scales up. -/
def scalingUp : MapVar String where
  heap _ := (scalingWith ∅).annotations
  next := 1
  ref := some 0
  live := by simp

theorem run_rollsBack_conflict : ∃ t m',
    (clearScalePhase.run .decimal (scalingWith ∅) scalingUp).Runs t
      (m', some (.new "conflict")) ∧ m'.value = scalingUp.value := by
  have hset : ¬ Map.str scalingUp.entries annotationScalePhase = "" := by
    rw [show scalingUp.entries = (scalingWith ∅).annotations from rfl]
    simp [scalingWith]
  let e := Error.new "conflict"
  let edit := (scalingUp.deepCopy.delete annotationScalePhase).dropEmpty
  let t : Trace := [⟨.patchCluster "prod" "kv" edit.entries [], .error e⟩]
  have hsend : (send (scalingWith ∅) scalingUp (Map.str scalingUp.entries annotationScalePhase = "")
      edit).Runs t (edit.restore, false, some e) := by
    unfold send
    rw [if_neg hset]
    exact runs_asked.2 ⟨.error e, [], rfl, .ret _⟩
  have hclear : clearScalePhaseAnnotation (scalingWith ∅) scalingUp |>.Runs (t ++ [])
      (edit.restore, false, Map.str scalingUp.entries annotationScalePhase, some e) :=
    hsend.bind (.ret _)
  have hrun : (clearScalePhase.run .decimal (scalingWith ∅) scalingUp).Runs (t ++ [] ++ [])
      (edit.restore, some e) := hclear.bind (.ret _)
  exact ⟨_, _, hrun, (run_rollsBack _ _ _ _ _ _ _ hrun).1 (by simp)⟩

end Helper

/-! ## The annotations by value -/

section
variable (F : Formats) (cr : KeyValCluster) (m : MapVar String)

/-- The cluster with the variable's entries. -/
def withEntries : KeyValCluster := { cr with annotations := m.entries }

theorem annotations_withEntries : (withEntries cr m).annotations = m.entries := rfl

/-- The value, unless there is an error. -/
def returned {α : Type} (a : α) : Option Error → Result α
  | none => .ok a
  | some e => .error e

theorem send_bind {α : Type} (c : Prop) [Decidable c] (edit : Edit String)
    (f : MapVar String × Bool × Option Error → M α) :
    (send cr m c edit).bind f = if c then f (m, false, none)
      else (ask (.patchCluster cr.ns cr.name edit.entries cr.finalizers)).bind fun
        | .error e => f (edit.restore, false, some e)
        | .ok () => f (edit.toMapVar, true, none) := by
  unfold send
  split
  · rfl
  · refine (bind_assoc _ _ _).trans (congrArg _ (funext fun reply => ?_))
    cases reply <;> rfl

theorem setAnnotation_eq (key value : String) :
    (do
      let r ← setAnnotation cr m key value
      return returned (r.2.1, withEntries cr r.1) r.2.2) =
      Controller.setAnnotation (withEntries cr m) key value := by
  unfold setAnnotation Controller.setAnnotation
  rw [annotations_withEntries, bind_eq, send_bind, Edit.entries_assign, Edit.entries_deepCopy]
  split
  · rfl
  · refine congrArg _ (funext fun reply => ?_)
    cases reply with
    | error e => rfl
    | ok u => simp [returned, withEntries]

theorem clearAnnotation_eq (key : String) :
    (do
      let r ← clearAnnotation cr m key
      return returned (if r.2.1 then some r.2.2.1 else none, withEntries cr r.1) r.2.2.2) =
      Controller.clearAnnotation (withEntries cr m) key := by
  unfold clearAnnotation Controller.clearAnnotation
  rw [annotations_withEntries, bind_eq, bind_eq, bind_assoc, send_bind, Edit.entries_dropEmpty,
    Edit.entries_delete, Edit.entries_deepCopy]
  split
  · rfl
  · refine congrArg _ (funext fun reply => ?_)
    cases reply with
    | error e => rfl
    | ok u => simp [returned, withEntries]

theorem writeSentinelResetTracker_eq (tracker : SentinelResetTracker) :
    (do
      let r ← writeSentinelResetTracker cr m F tracker
      return (withEntries cr r.1, r.2)) =
      Keyval.writeSentinelResetTracker F (withEntries cr m) tracker := by
  unfold writeSentinelResetTracker Keyval.writeSentinelResetTracker
  rw [annotations_withEntries, bind_eq, bind_eq, bind_assoc, send_bind, entries_trackerEdit,
    Edit.entries_deepCopy]
  split
  · rfl
  · refine congrArg _ (funext fun reply => ?_)
    cases reply with
    | error e =>
      have hentries : (trackerEdit F m.deepCopy tracker).restore.entries = m.entries := by
        rw [MapVar.entries, (ownEdit_tracker F m tracker).copy, MapVar.entries]
      simp [withEntries, hentries]
    | ok u => simp [withEntries, entries_trackerEdit]

end

end Keyval.InMemory
