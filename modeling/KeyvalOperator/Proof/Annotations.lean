import KeyvalOperator.Controller
import KeyvalOperator.Lib.MergePatch
import KeyvalOperator.Proof.SentinelPhase

/-!
# Annotations of other writers

The operator edits annotations of the custom resource in a local copy and sends the difference to
what it had read as a merge patch. Another writer may have changed the stored object in between.

* `storedAfter`: the stored annotations after a patch. The field is omitted when it is empty, so an
  edit that leaves no annotation in the local copy is sent as `annotations: null`.
* `foreignKept_iff`: when the annotations of other writers are kept.
-/

namespace Keyval

open Go Interact Interact.Prog MergePatch List

variable {cr : KeyValCluster} {read : Map String} {name : String}

/-! ## The stored object -/

/-- The string maps of an object's metadata, of which only the annotations are looked at: a map
without entries is omitted. -/
def metadata (annotations : Map String) : Map (Map String) :=
  if annotations = ∅ then ∅ else Finmap.singleton "annotations" annotations

/-- The stored annotations after the patch from `read` to `edited`. -/
def storedAfter (read edited stored : Map String) : Map String :=
  let patch := members (.object .scalar) (metadata read) (metadata edited)
  ((mergeMembers (.object .scalar) (metadata stored) patch).lookup "annotations").getD ∅

/-- The annotations of the stored custom resource, for an operator that has read `read`. -/
def annotationWorld (read : Map String) : World Op (Map String) where
  step stored
    | ⟨.patchCluster _ _ edited _, .ok _⟩ => storedAfter read edited stored
    | _ => stored
  ok _ _ := True

theorem lookup_metadata (annotations : Map String) :
    (metadata annotations).lookup "annotations" =
      if annotations = ∅ then none else some annotations := by
  unfold metadata
  split
  · rfl
  · exact Finmap.lookup_singleton_eq

theorem getD_lookup_metadata (annotations : Map String) :
    ((metadata annotations).lookup "annotations").getD ∅ = annotations := by
  rw [lookup_metadata]
  split
  · next h => rw [h]; rfl
  · rfl

theorem mem_metadata {annotations : Map String} :
    "annotations" ∈ metadata annotations ↔ annotations ≠ ∅ := by
  rw [← Finmap.lookup_isSome, lookup_metadata]
  split <;> simp_all

/-- The field is removed when the edit leaves no annotation, and patched key by key otherwise. -/
theorem storedAfter_eq (read edited stored : Map String) :
    storedAfter read edited stored =
      if edited ≠ ∅ then mergeMembers .scalar stored (members .scalar read edited)
      else if read ≠ ∅ then ∅ else stored := by
  dsimp only [storedAfter]
  by_cases hedited : edited ≠ ∅
  · have hlookup : (metadata edited).lookup "annotations" = some edited := by
      rw [lookup_metadata, if_neg hedited]
    rw [lookup_merge_object hlookup, getD_lookup_metadata, getD_lookup_metadata, if_pos hedited]
  · have hlookup : (metadata edited).lookup "annotations" = none := by
      rw [lookup_metadata, if_pos (not_not.1 hedited)]
    rw [lookup_merge_members, hlookup, if_neg hedited]
    simp only [mem_metadata]
    split
    · rfl
    · exact getD_lookup_metadata stored

/-! ## The edits -/

/-- The operations that remove annotations. -/
inductive AnnotationEdit
  | clearScalePhase
  | clearUpdateBlocked
  | writeTracker (tracker : SentinelResetTracker)

namespace AnnotationEdit

section
variable (F : Formats)

/-- The edit, by its error. -/
def run (cr : KeyValCluster) : AnnotationEdit → M (Option Error)
  | clearScalePhase => do
    match ← Controller.clearScalePhaseAnnotation cr with
    | .error e => return some e
    | .ok _ => return none
  | clearUpdateBlocked => do
    match ← Controller.clearUpdateBlockedAnnotation cr with
    | .error e => return some e
    | .ok _ => return none
  | writeTracker tracker => do
    let (_, err) ← writeSentinelResetTracker F cr tracker
    return err

/-- The annotations that the edit may change. -/
def keys : AnnotationEdit → List String
  | clearScalePhase => [annotationScalePhase]
  | clearUpdateBlocked => [annotationUpdateBlocked]
  | writeTracker _ => [annotationSentinelQuorumLossSince, annotationSentinelClusterResetAttempts,
      annotationSentinelClusterResetCooldown]

/-- There is nothing to change in the annotations that were read. -/
def Unneeded (read : Map String) : AnnotationEdit → Prop
  | clearScalePhase => Map.str read annotationScalePhase = ""
  | clearUpdateBlocked => Map.str read annotationUpdateBlocked = ""
  | writeTracker tracker => readSentinelResetTracker F read = tracker

/-- The edit sets an annotation. -/
def Sets : AnnotationEdit → Prop
  | writeTracker tracker => normalizeTimestamp tracker.lossSince ≠ 0 ∨ 0 < tracker.attempts ∨
      normalizeTimestamp tracker.cooldownUntil ≠ 0
  | _ => False

/-- The annotations after the edit. -/
def edited (read : Map String) : AnnotationEdit → Map String
  | clearScalePhase => read.erase annotationScalePhase
  | clearUpdateBlocked => read.erase annotationUpdateBlocked
  | writeTracker tracker => trackerAnnotations F read tracker

end

variable {F : Formats}

theorem clearAnnotation_run {key : String} {t : Trace} {r : Option String × KeyValCluster}
    (h : (Controller.clearAnnotation cr key).Runs t (.ok r)) :
    (Map.str cr.annotations key = "" ∧ t = []) ∨
    (Map.str cr.annotations key ≠ "" ∧
      t = [⟨.patchCluster cr.ns cr.name (cr.annotations.erase key) cr.finalizers, .ok ()⟩]) := by
  unfold Controller.clearAnnotation Controller.patchAnnotations at h
  split at h
  · next hunset => exact .inl ⟨hunset, (runs_ret.1 h).1⟩
  · next hset =>
    obtain ⟨reply, t', rfl, h1⟩ := runs_call.1 h
    cases reply with
    | error e => cases (runs_ret.1 h1).2
    | ok u =>
      obtain ⟨rfl, -⟩ := runs_ret.1 h1
      exact .inr ⟨hset, rfl⟩

theorem run_cases {edit : AnnotationEdit} {t : Trace} (h : (edit.run F cr).Runs t none) :
    (edit.Unneeded F cr.annotations ∧ t = []) ∨
    (¬ edit.Unneeded F cr.annotations ∧ t = [⟨.patchCluster cr.ns cr.name
      (edit.edited F cr.annotations) cr.finalizers, .ok ()⟩]) := by
  cases edit with
  | clearScalePhase =>
    obtain ⟨t1, r, t2, rfl, h1, h2⟩ := runs_bind.1 h
    cases r with
    | error e => cases (runs_ret.1 h2).2
    | ok r =>
      obtain ⟨rfl, -⟩ := runs_ret.1 h2
      rw [append_nil]
      exact clearAnnotation_run h1
  | clearUpdateBlocked =>
    obtain ⟨t1, r, t2, rfl, h1, h2⟩ := runs_bind.1 h
    cases r with
    | error e => cases (runs_ret.1 h2).2
    | ok r =>
      obtain ⟨rfl, -⟩ := runs_ret.1 h2
      rw [append_nil]
      exact clearAnnotation_run h1
  | writeTracker tracker =>
    obtain ⟨t1, ⟨cr', err⟩, t2, rfl, h1, h2⟩ := runs_bind.1 h
    obtain ⟨rfl, rfl⟩ := runs_ret.1 h2
    rw [append_nil]
    unfold writeSentinelResetTracker at h1
    split at h1
    · next heq => exact .inl ⟨heq, (runs_ret.1 h1).1⟩
    · next hne =>
      obtain ⟨reply, t', rfl, h3⟩ := runs_asked.1 h1
      cases reply with
      | error e => cases (runs_ret.1 h3).2
      | ok u =>
        obtain ⟨rfl, -⟩ := runs_ret.1 h3
        exact .inr ⟨hne, rfl⟩

theorem lookup_annotateOrDelete (m : Map String) (key name value : String) (c : Prop)
    [Decidable c] : (annotateOrDelete m key c value).lookup name =
      if name = key then (if c then some value else none) else m.lookup name := by
  unfold annotateOrDelete
  by_cases hname : name = key
  · subst hname
    split <;> simp [*]
  · split <;> simp [hname, Finmap.lookup_insert_of_ne, Finmap.lookup_erase_ne]

theorem lookup_edited {edit : AnnotationEdit} (h : name ∉ edit.keys) :
    (edit.edited F read).lookup name = read.lookup name := by
  cases edit with
  | clearScalePhase => exact Finmap.lookup_erase_ne (by simpa [keys] using h)
  | clearUpdateBlocked => exact Finmap.lookup_erase_ne (by simpa [keys] using h)
  | writeTracker tracker =>
    simp only [keys, mem_cons, not_mem_nil, or_false, not_or] at h
    simp [edited, trackerAnnotations, lookup_annotateOrDelete, h]

theorem mem_annotateOrDelete {m : Map String} {key name value : String} {c : Prop}
    [Decidable c] : name ∈ annotateOrDelete m key c value ↔
      (name = key ∧ c) ∨ (name ≠ key ∧ name ∈ m) := by
  rw [← Finmap.lookup_isSome, lookup_annotateOrDelete, ← Finmap.lookup_isSome]
  split_ifs <;> simp [*]

theorem mem_trackerAnnotations {tracker : SentinelResetTracker} :
    name ∈ trackerAnnotations F read tracker ↔
      (name = annotationSentinelQuorumLossSince ∧ normalizeTimestamp tracker.lossSince ≠ 0) ∨
      (name = annotationSentinelClusterResetAttempts ∧ 0 < tracker.attempts) ∨
      (name = annotationSentinelClusterResetCooldown ∧
        normalizeTimestamp tracker.cooldownUntil ≠ 0) ∨
      (name ∈ read ∧ name ∉ (writeTracker tracker).keys) := by
  have h1 : annotationSentinelQuorumLossSince ≠ annotationSentinelClusterResetAttempts := by decide
  have h2 : annotationSentinelQuorumLossSince ≠ annotationSentinelClusterResetCooldown := by decide
  have h3 : annotationSentinelClusterResetAttempts ≠ annotationSentinelClusterResetCooldown := by
    decide
  have hattempts : 0 < (if tracker.attempts < 0 then 0 else tracker.attempts) ↔
      0 < tracker.attempts := by
    split <;> omega
  simp only [trackerAnnotations, mem_annotateOrDelete, hattempts, keys, mem_cons,
    not_mem_nil, or_false]
  grind

theorem edited_eq_empty (read : Map String) (edit : AnnotationEdit) :
    edit.edited F read = ∅ ↔ ¬ edit.Sets ∧ ∀ name ∈ read, name ∈ edit.keys := by
  have hempty (m : Map String) : m = ∅ ↔ ∀ name, name ∉ m := by
    refine ⟨fun h name => h ▸ Finmap.notMem_empty, fun h => Finmap.ext_lookup fun name => ?_⟩
    rw [Finmap.lookup_empty]
    exact Finmap.lookup_eq_none.2 (h name)
  rw [hempty]
  cases edit with
  | clearScalePhase => simp [edited, Sets, keys, not_imp_not]
  | clearUpdateBlocked => simp [edited, Sets, keys, not_imp_not]
  | writeTracker tracker =>
    simp only [edited, mem_trackerAnnotations, Sets]
    constructor
    · intro h
      refine ⟨?_, fun name hname => ?_⟩
      · rintro (hloss | hattempts | hcooldown)
        · exact h _ (.inl ⟨rfl, hloss⟩)
        · exact h _ (.inr (.inl ⟨rfl, hattempts⟩))
        · exact h _ (.inr (.inr (.inl ⟨rfl, hcooldown⟩)))
      · by_contra hkey
        exact h name (.inr (.inr (.inr ⟨hname, hkey⟩)))
    · rintro ⟨hsets, hkeys⟩ name (⟨-, hloss⟩ | ⟨-, hattempts⟩ | ⟨-, hcooldown⟩ | ⟨hname, hkey⟩)
      · exact hsets (.inl hloss)
      · exact hsets (.inr (.inl hattempts))
      · exact hsets (.inr (.inr hcooldown))
      · exact hkey (hkeys name hname)

end AnnotationEdit

/-! ## Foreign annotations -/

/-- The annotations of the custom resource that the operator writes itself. -/
def operatorAnnotations : List String :=
  [annotationRestartFormerMaster, annotationUpdateBlocked, annotationScalePhase,
    annotationSentinelQuorumLossSince, annotationSentinelClusterResetAttempts,
    annotationSentinelClusterResetCooldown, annotationFinalizerStarted]

/-- All other annotations have the value that they had. -/
def ForeignKept (stored stored' : Map String) : Prop :=
  ∀ name ∉ operatorAnnotations, stored'.lookup name = stored.lookup name

/-- The edit is not one that removes the last annotation the operator knows of from an object on
which somebody else has annotations. -/
def Spares (F : Formats) (edit : AnnotationEdit) (read stored : Map String) : Prop :=
  edit.Unneeded F read ∨ edit.Sets ∨ (∃ name ∈ read, name ∉ edit.keys) ∨ read = ∅ ∨
    ∀ name ∈ stored, name ∈ operatorAnnotations

theorem AnnotationEdit.keys_operator (edit : AnnotationEdit) :
    ∀ name ∈ edit.keys, name ∈ operatorAnnotations := by
  cases edit with
  | clearScalePhase => decide
  | clearUpdateBlocked => decide
  | writeTracker tracker =>
    dsimp only [keys]
    decide

theorem foreignKept_empty (stored : Map String) :
    ForeignKept stored ∅ ↔ ∀ name ∈ stored, name ∈ operatorAnnotations := by
  constructor
  · intro h name hname
    by_contra hforeign
    have hnone := h name hforeign
    rw [Finmap.lookup_empty] at hnone
    exact Finmap.lookup_eq_none.1 hnone.symm hname
  · intro h name hforeign
    rw [Finmap.lookup_empty]
    exact (Finmap.lookup_eq_none.2 fun hname => hforeign (h name hname)).symm

theorem foreignKept_storedAfter {F : Formats} {edit : AnnotationEdit} {read stored : Map String}
    (hneeded : ¬ edit.Unneeded F read) :
    ForeignKept stored (storedAfter read (edit.edited F read) stored) ↔
      Spares F edit read stored := by
  have hempty : edit.edited F read = ∅ ↔ ¬ edit.Sets ∧ ∀ name ∈ read, name ∈ edit.keys :=
    edit.edited_eq_empty read
  rw [storedAfter_eq]
  split_ifs with hedited hread
  · refine iff_of_true (fun name hforeign => ?_) ?_
    · have hkey : name ∉ edit.keys := fun h => hforeign (edit.keys_operator name h)
      exact lookup_merge_scalars (AnnotationEdit.lookup_edited hkey).symm
    · rw [Ne, hempty, not_and_or, not_not] at hedited
      rcases hedited with hsets | hother
      · exact .inr (.inl hsets)
      · push Not at hother
        exact .inr (.inr (.inl hother))
  · rw [foreignKept_empty]
    obtain ⟨hsets, hkeys⟩ := hempty.1 (not_not.1 hedited)
    refine ⟨fun h => .inr (.inr (.inr (.inr h))), ?_⟩
    rintro (h | h | ⟨name, hname, hkey⟩ | h | h)
    · exact absurd h hneeded
    · exact absurd h hsets
    · exact absurd (hkeys name hname) hkey
    · exact absurd h hread
    · exact h
  · exact iff_of_true (fun _ _ => rfl) (.inr (.inr (.inr (.inl (not_not.1 hread)))))

/-- After an edit has succeeded on a stored object that others may have written to, their
annotations are as they left them exactly when the edit spares them. -/
theorem foreignKept_iff (F : Formats) (edit : AnnotationEdit) (cr : KeyValCluster)
    (stored : Map String) (t : Trace) (h : (edit.run F cr).Runs t none) :
    ForeignKept stored ((annotationWorld cr.annotations).after stored t) ↔
      Spares F edit cr.annotations stored := by
  rcases AnnotationEdit.run_cases h with ⟨hunneeded, rfl⟩ | ⟨hneeded, rfl⟩
  · exact iff_of_true (fun _ _ => rfl) (.inl hunneeded)
  · exact foreignKept_storedAfter hneeded

/-- A cluster that scales up, with annotations of others. -/
def scalingWith (others : Map String) : KeyValCluster where
  name := "kv"
  ns := "prod"
  annotations := others.insert annotationScalePhase "up"
  spec := { mode := .standalone, redisReplicas := 1 }

/-- The patch that ends the scale operation. -/
def scaleUpEnds (others : Map String) : Trace :=
  [⟨.patchCluster "prod" "kv" ((scalingWith others).annotations.erase annotationScalePhase) [],
    .ok ()⟩]

theorem scaleUpEnds_runs (others : Map String) :
    (AnnotationEdit.clearScalePhase.run .decimal (scalingWith others)).Runs
      (scaleUpEnds others) none := by
  have hset : Map.str (scalingWith others).annotations annotationScalePhase ≠ "" := by
    simp [scalingWith]
  have hclear : (Controller.clearScalePhaseAnnotation (scalingWith others)).Runs
      (scaleUpEnds others) (.ok (some (Map.str (scalingWith others).annotations
        annotationScalePhase), { scalingWith others with
          annotations := (scalingWith others).annotations.erase annotationScalePhase })) := by
    unfold Controller.clearScalePhaseAnnotation Controller.clearAnnotation
    rw [if_neg hset]
    exact runs_call.2 ⟨.ok (), [], rfl, runs_ret.2 ⟨rfl, rfl⟩⟩
  exact runs_bind.2 ⟨_, _, [], (append_nil _).symm, hclear, runs_ret.2 ⟨rfl, rfl⟩⟩

/-- Both the annotation that the operator has read and the one added since are kept. -/
theorem foreignKept_scaling :
    let cr := scalingWith (Finmap.singleton "team" "a")
    ForeignKept (cr.annotations.insert "note" "b")
      ((annotationWorld cr.annotations).after (cr.annotations.insert "note" "b")
        (scaleUpEnds (Finmap.singleton "team" "a"))) :=
  (foreignKept_iff .decimal .clearScalePhase _ _ _ (scaleUpEnds_runs _)).2
    (.inr (.inr (.inl ⟨"team", by decide, by decide⟩)))

/-- The owner annotates a cluster in a scale-up after the operator has read it, and the end of the
scale-up deletes that annotation. -/
theorem clearScalePhase_deletes_foreign :
    (AnnotationEdit.clearScalePhase.run .decimal (scalingWith ∅)).Runs (scaleUpEnds ∅) none ∧
    ¬ ForeignKept ((scalingWith ∅).annotations.insert "team" "a")
      ((annotationWorld (scalingWith ∅).annotations).after
        ((scalingWith ∅).annotations.insert "team" "a") (scaleUpEnds ∅)) := by
  refine ⟨scaleUpEnds_runs ∅, fun h => ?_⟩
  have hteam := h "team" (by decide)
  revert hteam
  decide +kernel

end Keyval
