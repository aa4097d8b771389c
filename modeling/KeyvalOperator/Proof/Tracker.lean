import KeyvalOperator.Proof.Annotations

/-!
# The round trip of the reset tracker

The tracker of quorum losses is written to three annotations and read from them in the next
reconcile. Times are instants, as `timesEqual` compares them.

* `tracker_roundTrip`: after a write the annotations hold the tracker, whatever they held before.
-/

namespace Keyval.Phases

open Go Interact Interact.Prog

variable {F : Formats} {cr cr' : KeyValCluster} {tr : SentinelResetTracker} {t : Trace}

/-- The first instant of the year 10000; the zero time is the first of the year 1. -/
def year10000 : Time := 315537897600 * second

/-- `Parse` reads the whole seconds of the years 1 to 9999 that `Format` has written. -/
def KeepsSeconds (F : Formats) : Prop :=
  ∀ u : Time, second ∣ u → 0 ≤ u → u < year10000 →
    F.formatTime .rfc3339 u ≠ "" ∧ F.parseTime .rfc3339 (F.formatTime .rfc3339 u) = some u

/-- The number of attempts is one of the machine, and the times are in the years 1 to 9999. -/
structure Recordable (tr : SentinelResetTracker) : Prop where
  attempts : 0 ≤ tr.attempts ∧ tr.attempts < 2 ^ 63
  lossSince : 0 ≤ tr.lossSince ∧ tr.lossSince < year10000
  cooldownUntil : 0 ≤ tr.cooldownUntil ∧ tr.cooldownUntil < year10000

/-- The timestamps of the tracker, where they can be read, have no fraction of a second. -/
def WholeSeconds (F : Formats) (annotations : Map String) : Prop :=
  ∀ key ∈ [annotationSentinelQuorumLossSince, annotationSentinelClusterResetCooldown], ∀ u,
    F.parseTime .rfc3339 (Map.str annotations key) = some u → second ∣ u

/-- The tracker in whole seconds. -/
def truncated (tr : SentinelResetTracker) : SentinelResetTracker where
  lossSince := normalizeTimestamp tr.lossSince
  attempts := tr.attempts
  cooldownUntil := normalizeTimestamp tr.cooldownUntil

theorem normalizeTimestamp_of_dvd {u : Time} (h : second ∣ u) : normalizeTimestamp u = u := by
  rw [normalizeTimestamp_eq, Int.emod_eq_zero_of_dvd h, Int.sub_zero]

theorem normalizeTimestamp_nonneg {u : Time} (h : 0 ≤ u) : 0 ≤ normalizeTimestamp u := by
  simp only [normalizeTimestamp_eq, second, Time, Duration] at *
  omega

theorem KeepsSeconds.stored (hF : KeepsSeconds F) {u : Time} (hu : 0 ≤ u ∧ u < year10000) :
    stored F u = normalizeTimestamp u := by
  unfold Phases.stored
  split
  · next hzero => exact hzero.symm
  · obtain ⟨htext, hparse⟩ := hF _ (second_dvd_normalizeTimestamp u)
      (normalizeTimestamp_nonneg hu.1) (lt_of_le_of_lt (normalizeTimestamp_le u) hu.2)
    rw [readTimestamp, if_pos htext, hparse]
    rfl

theorem WholeSeconds.dvd_readTimestamp {annotations : Map String} {key : String}
    (h : WholeSeconds F annotations)
    (hkey : key ∈ [annotationSentinelQuorumLossSince, annotationSentinelClusterResetCooldown]) :
    second ∣ readTimestamp F (Map.str annotations key) := by
  unfold readTimestamp
  split
  · cases hparse : F.parseTime .rfc3339 (Map.str annotations key) with
    | none => exact Int.dvd_zero _
    | some u => exact h key hkey u hparse
  · exact Int.dvd_zero _

theorem WholeSeconds.truncated_read {annotations : Map String} (h : WholeSeconds F annotations) :
    truncated (readSentinelResetTracker F annotations) =
      readSentinelResetTracker F annotations := by
  have hloss := normalizeTimestamp_of_dvd (h.dvd_readTimestamp (.head _))
  have hcooldown := normalizeTimestamp_of_dvd (h.dvd_readTimestamp (.tail _ (.head _)))
  rw [truncated, readSentinelResetTracker, hloss, hcooldown]

/-- **A tracker that was written is read back** at second precision; the other annotations are as
they were, and writing what was read sends nothing. -/
theorem tracker_roundTrip (hF : KeepsSeconds F) (htr : Recordable tr)
    (hwhole : WholeSeconds F cr.annotations)
    (h : (writeSentinelResetTracker F cr tr).Runs t (cr', none)) :
    readSentinelResetTracker F cr'.annotations = truncated tr ∧
      (∀ key ∉ [annotationSentinelQuorumLossSince, annotationSentinelClusterResetAttempts,
          annotationSentinelClusterResetCooldown],
        cr'.annotations.lookup key = cr.annotations.lookup key) ∧
      writeSentinelResetTracker F cr' (readSentinelResetTracker F cr'.annotations) =
        return (cr', none) := by
  suffices hcr' : readSentinelResetTracker F cr'.annotations = truncated tr ∧
      ∀ key ∉ (AnnotationEdit.writeTracker tr).keys,
        cr'.annotations.lookup key = cr.annotations.lookup key from
    ⟨hcr'.1, hcr'.2, if_pos rfl⟩
  unfold writeSentinelResetTracker at h
  split at h
  · next hread =>
    obtain ⟨-, heq⟩ := runs_ret.1 h
    obtain ⟨rfl, -⟩ := Prod.mk.inj heq
    refine ⟨?_, fun _ _ => rfl⟩
    rw [← hread, hwhole.truncated_read]
  · obtain ⟨reply, t', -, h1⟩ := runs_asked.1 h
    cases reply with
    | error e => cases (runs_ret.1 h1).2
    | ok u =>
      obtain ⟨-, heq⟩ := runs_ret.1 h1
      obtain ⟨rfl, -⟩ := Prod.mk.inj heq
      refine ⟨?_, fun key hkey => AnnotationEdit.lookup_edited hkey⟩
      rw [read_trackerAnnotations F _ htr.attempts.1 htr.attempts.2, hF.stored htr.lossSince,
        hF.stored htr.cooldownUntil, truncated]

/-- Times are read in nanoseconds. -/
def nanoseconds : Formats := { Formats.decimal with parseTime := fun _ s => parseInt 128 s }

theorem keepsSeconds_nanoseconds : KeepsSeconds nanoseconds := by
  intro u _ hpos hlt
  have hparse : parseInt 128 (toString u) = some u := by
    rw [parseInt_toString]
    refine Option.filter_some_pos ?_
    simp only [year10000, second, Time, Duration] at *
    simp only [decide_eq_true_eq]
    omega
  refine ⟨fun htext => ?_, hparse⟩
  rw [show toString u = "" from htext] at hparse
  cases hparse

/-- A loss half a second after a whole one, and one attempt. -/
theorem tracker_roundTrip_loss :
    readSentinelResetTracker nanoseconds
        (trackerAnnotations nanoseconds (scalingWith ∅).annotations ⟨7500000000, 1, 0⟩) =
      ⟨7000000000, 1, 0⟩ := by
  let annotations := trackerAnnotations nanoseconds (scalingWith ∅).annotations ⟨7500000000, 1, 0⟩
  have hempty : ∀ key ∈ [annotationSentinelQuorumLossSince, annotationSentinelClusterResetCooldown],
      parseInt 128 (Map.str (scalingWith ∅).annotations key) = none := by
    decide
  have hne : ¬ readSentinelResetTracker nanoseconds (scalingWith ∅).annotations =
      ⟨7500000000, 1, 0⟩ := by
    decide
  have hrun : (writeSentinelResetTracker nanoseconds (scalingWith ∅) ⟨7500000000, 1, 0⟩).Runs
      [⟨.patchCluster "prod" "kv" annotations [], .ok ()⟩]
      ({ scalingWith ∅ with annotations }, none) := by
    unfold writeSentinelResetTracker
    rw [if_neg hne]
    exact runs_asked.2 ⟨.ok (), [], rfl, .ret _⟩
  exact (tracker_roundTrip keepsSeconds_nanoseconds ⟨by decide, by decide, by decide⟩
    (fun key hkey u hparse => by cases (hempty key hkey).symm.trans hparse) hrun).1

end Keyval.Phases
