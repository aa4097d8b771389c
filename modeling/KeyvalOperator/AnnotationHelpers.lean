import KeyvalOperator.Controller
import KeyvalOperator.Lib.MapVar
import KeyvalOperator.Reconcile.SentinelHelpers

/-!
# Annotation helpers in memory

`controller.go` and `reconcile/sentinel_helpers`: the helpers that edit annotations of the cluster,
as they work on the object in memory. The annotations of the object are a map variable, the object
is copied before the edit, and the map of the copy is put back when the patch fails. The definitions
of the same names in `Controller` and `Reconcile.SentinelHelpers` pass the annotations by value.
-/

namespace Keyval.InMemory

open Go Interact

section
variable (cr : KeyValCluster) (annotations : MapVar String)

/-- The course of a helper: unless there is nothing to do, the edit of the object is sent as a
patch, and taken back when that fails. Whether the annotations changed, and the error. -/
def send (unneeded : Prop) [Decidable unneeded] (edit : Edit String) :
    M (MapVar String × Bool × Option Error) :=
  if unneeded then return (annotations, false, none)
  else do
    match ← ask (.patchCluster cr.ns cr.name edit.entries cr.finalizers) with
    | .error e => return (edit.restore, false, some e)
    | .ok () => return (edit.toMapVar, true, none)

def setAnnotation (key value : String) : M (MapVar String × Bool × Option Error) :=
  send cr annotations (Map.str annotations.entries key = value)
    (annotations.deepCopy.ensure.assign key value)

/-- Remove an annotation; its value before is returned too. -/
def clearAnnotation (key : String) : M (MapVar String × Bool × String × Option Error) := do
  let current := Map.str annotations.entries key
  let r ← send cr annotations (current = "") (annotations.deepCopy.delete key).dropEmpty
  return (r.1, r.2.1, current, r.2.2)

def setScalePhaseAnnotation (phase : String) : M (MapVar String × Bool × Option Error) :=
  if phase = "" then return (annotations, false, none)
  else setAnnotation cr annotations annotationScalePhase phase

def clearScalePhaseAnnotation : M (MapVar String × Bool × String × Option Error) :=
  clearAnnotation cr annotations annotationScalePhase

def setUpdateBlockedAnnotation (reason : String) : M (MapVar String × Bool × Option Error) :=
  setAnnotation cr annotations annotationUpdateBlocked (if reason = "" then "unknown" else reason)

def clearUpdateBlockedAnnotation : M (MapVar String × Bool × String × Option Error) :=
  clearAnnotation cr annotations annotationUpdateBlocked

/-- Set an annotation of the tracker, or delete it. -/
def annotateOrDelete (edit : Edit String) (key : String) (c : Prop) [Decidable c]
    (value : String) : Edit String :=
  if c then edit.ensure.assign key value else edit.delete key

def trackerEdit (F : Formats) (edit : Edit String) (tracker : SentinelResetTracker) :
    Edit String :=
  let lossSince := normalizeTimestamp tracker.lossSince
  let cooldownUntil := normalizeTimestamp tracker.cooldownUntil
  let attempts := if tracker.attempts < 0 then 0 else tracker.attempts
  let edit := annotateOrDelete edit annotationSentinelQuorumLossSince
    (lossSince ≠ 0) (F.formatTime .rfc3339 lossSince)
  let edit := annotateOrDelete edit annotationSentinelClusterResetAttempts
    (0 < attempts) (toString attempts)
  let edit := annotateOrDelete edit annotationSentinelClusterResetCooldown
    (cooldownUntil ≠ 0) (F.formatTime .rfc3339 cooldownUntil)
  edit.dropEmpty

def writeSentinelResetTracker (F : Formats) (tracker : SentinelResetTracker) :
    M (MapVar String × Option Error) := do
  let r ← send cr annotations (readSentinelResetTracker F annotations.entries = tracker)
    (trackerEdit F annotations.deepCopy tracker)
  return (r.1, r.2.2)

end

end Keyval.InMemory
