import KeyvalOperator.Proof.PVCOwnership
import Mathlib.Order.Bounds.Basic

/-!
# The claim resize, one claim at a time and in any order

What the loop body of `ensureResize` does with one claim is said once (`TrackRun`, `ClaimRun`): the
requests and events it makes, and the *verdict* it adds to the result. The loop's result is then
described by the verdicts alone, whatever their order (`Recorded`):

* `Delays`: the delay is the largest backoff, and without one the smallest candidate.
* `Recorded.perm`, `Recorded.unique`: the verdicts, in any order, determine the sorted result.
* `ensureResize_order`: **the requested sizes only grow, and the order of the claims is free**.
-/

namespace Keyval.Storage

open Go Interact Interact.Prog List

variable {b : Duration} {F : Formats} {cr : KeyValCluster} {desired : Quantity} {pods : List Pod}
  {now : Time} {podName : String} {pvc : PersistentVolumeClaim} {res res1 res2 : ResizeResult}
  {t : Trace} {o : ResizeResult × Option Error} {v : Verdict}
  {answer : PersistentVolumeClaim → PersistentVolumeClaim → Result PersistentVolumeClaim}
  {l : List PersistentVolumeClaim}

/-! ## One claim -/

/-- The size that the claim requests. -/
def requested (pvc : PersistentVolumeClaim) : Int := (pvc.request.getD {}).amount

/-- The claim's resize to `desired` waits for its file system or its capacity. -/
def Unfinished (desired : Quantity) (pvc : PersistentVolumeClaim) : Prop :=
  hasFileSystemResizePending pvc ∨ (pvc.capacity.getD {}).amount < desired.amount

instance (desired : Quantity) (pvc : PersistentVolumeClaim) : Decidable (Unfinished desired pvc) :=
  inferInstanceAs (Decidable (_ ∨ _))

/-- The claim carries `desired` as the size it is resized to. -/
def Targets (desired : Quantity) (pvc : PersistentVolumeClaim) : Prop :=
  Map.str pvc.annotations annotationPVCResizeTarget = desired.text

instance (desired : Quantity) (pvc : PersistentVolumeClaim) : Decidable (Targets desired pvc) :=
  inferInstanceAs (Decidable (_ = _))

/-- What the loop body adds to the result for a claim. -/
inductive Verdict
  /-- Nothing. -/
  | settled
  /-- The claim waits, and a pod is to be restarted for it. -/
  | waits (name : String) (restart : Option String)
  | throttled (name : String) (backoff : Duration)
  deriving DecidableEq

namespace Verdict

/-- The result with the verdict in it. -/
def record : Verdict → ResizeResult → ResizeResult
  | settled, res => res
  | waits name none, res => markWaiting res name defaultRequeue
  | waits name (some pod), res =>
    appendReason (markWaiting res name defaultRequeue) pod reasonResize
  | throttled name backoff, res => applyThrottle res name backoff

/-- The delay that the verdict asks for. -/
def candidate : Verdict → Option Duration
  | waits _ _ => some defaultRequeue
  | _ => none

/-- The delay of a throttled patch. -/
def backoff : Verdict → Option Duration
  | throttled _ b => some b
  | _ => none

/-- The claim that the verdict waits for. -/
def pending : Verdict → Option String
  | settled => none
  | waits name _ => if name ≠ "" then some name else none
  | throttled name _ => if name ≠ "" then some name else none

/-- The verdict restarts the pod. -/
def Restarts (pod : String) : Verdict → Prop
  | waits _ restart => restart = some pod ∧ pod ≠ ""
  | _ => False

instance (pod : String) : DecidablePred (Restarts pod)
  | settled => .isFalse id
  | waits _ restart => inferInstanceAs (Decidable (restart = some pod ∧ pod ≠ ""))
  | throttled _ _ => .isFalse id

end Verdict

section
variable (F : Formats) (cr : KeyValCluster) (desired : Quantity) (pods : List Pod) (now : Time)

/-- How long ago the claim's resize was requested, by the claim's annotation. -/
def resizeAge (pvc : PersistentVolumeClaim) : Duration :=
  max 0 (timeSub now ((parseResizeTimestamp F
    (Map.str pvc.annotations annotationPVCResizeRequestedAt)).getD now))

/-- The resize takes longer than its grace period. -/
def Overdue (pvc : PersistentVolumeClaim) : Prop :=
  if hasFileSystemResizePending pvc then resizeFilesystemGrace ≤ resizeAge F now pvc
  else resizeCapacityGrace ≤ resizeAge F now pvc

instance (pvc : PersistentVolumeClaim) : Decidable (Overdue F now pvc) :=
  inferInstanceAs (Decidable (ite _ _ _))

/-- The pod to restart for the claim. -/
def restartPod (podName : String) (pvc : PersistentVolumeClaim) : Option String :=
  if Overdue F now pvc ∧ podName ∈ pods.map (·.name) then some podName else none

/-- The verdict on a requested resize. -/
def trackVerdict (podName : String) (pvc : PersistentVolumeClaim) : Verdict :=
  if Targets desired pvc ∧ Unfinished desired pvc then
    .waits pvc.name (restartPod F pods now podName pvc)
  else .settled

/-- The verdict of the loop body, `answer` being the API server's answers to patches. A patch that
fails otherwise than with a conflict or throttling ends the loop. -/
def verdict (answer : PersistentVolumeClaim → PersistentVolumeClaim → Result PersistentVolumeClaim)
    (pvc : PersistentVolumeClaim) : Verdict :=
  if pvc.deletionTimestamp.isSome then .waits pvc.name none
  else if requested pvc < desired.amount then
    match answer pvc (requestSize F desired now pvc) with
    | .ok pvc' => trackVerdict F desired pods now (resizePodName cr pvc) pvc'
    | .error e =>
      if e.reason = .conflict then .waits pvc.name none
      else match resizeThrottle e with
        | some backoff => .throttled pvc.name backoff
        | none => .settled
  else trackVerdict F desired pods now (resizePodName cr pvc) pvc

/-- The runs of `trackResize`. -/
inductive TrackRun (podName : String) (pvc : PersistentVolumeClaim) : Trace → Prop
  | idle (h : ¬ Targets desired pvc) : TrackRun podName pvc []
  | waiting (h : Targets desired pvc) (hw : Unfinished desired pvc)
      (hr : restartPod F pods now podName pvc = none) : TrackRun podName pvc []
  | restart (h : Targets desired pvc) (hw : Unfinished desired pvc)
      (hr : restartPod F pods now podName pvc = some podName) :
      TrackRun podName pvc
        [⟨.event (.storageResizeRestartQueued pvc.name podName (resizeAge F now pvc)), ()⟩]
  | completed (h : Targets desired pvc) (hw : ¬ Unfinished desired pvc)
      (hc : Map.str pvc.annotations annotationPVCResizeCompletedAt = "")
      (r : Result PersistentVolumeClaim) :
      TrackRun podName pvc [⟨.event (.storageResizeCompleted pvc.name desired.text), ()⟩,
        ⟨.patchPVC pvc (completeResize F now pvc), r⟩]
  | cleared (h : Targets desired pvc) (hw : ¬ Unfinished desired pvc)
      (hc : Map.str pvc.annotations annotationPVCResizeCompletedAt ≠ "")
      (hq : Map.str pvc.annotations annotationPVCResizeRequestedAt ≠ "")
      (r : Result PersistentVolumeClaim) :
      TrackRun podName pvc [⟨.patchPVC pvc (completeResize F now pvc), r⟩]
  | done (h : Targets desired pvc) (hw : ¬ Unfinished desired pvc)
      (hc : Map.str pvc.annotations annotationPVCResizeCompletedAt ≠ "")
      (hq : Map.str pvc.annotations annotationPVCResizeRequestedAt = "") : TrackRun podName pvc []

/-- The runs for one claim. -/
inductive ClaimRun (pvc : PersistentVolumeClaim) : Trace → Verdict → Prop
  | terminating (hdel : pvc.deletionTimestamp.isSome) : ClaimRun pvc [] (.waits pvc.name none)
  | conflict (hdel : pvc.deletionTimestamp.isNone) (hlt : requested pvc < desired.amount)
      {e : Error} (he : e.reason = .conflict) :
      ClaimRun pvc [⟨.patchPVC pvc (requestSize F desired now pvc), .error e⟩]
        (.waits pvc.name none)
  | throttled (hdel : pvc.deletionTimestamp.isNone) (hlt : requested pvc < desired.amount)
      {e : Error} (he : e.reason ≠ .conflict) {backoff : Duration}
      (hb : resizeThrottle e = some backoff) :
      ClaimRun pvc [⟨.patchPVC pvc (requestSize F desired now pvc), .error e⟩,
        ⟨.event (.storageResizeBackoff pvc.name backoff), ()⟩] (.throttled pvc.name backoff)
  | grown (hdel : pvc.deletionTimestamp.isNone) (hlt : requested pvc < desired.amount)
      {pvc' : PersistentVolumeClaim} {t : Trace}
      (ht : TrackRun F desired pods now (resizePodName cr pvc) pvc' t) :
      ClaimRun pvc (⟨.patchPVC pvc (requestSize F desired now pvc), .ok pvc'⟩ ::
        ⟨.event (.storageResizeRequested pvc'.name (pvc.request.getD {}).text desired.text), ()⟩ ::
        t)
        (trackVerdict F desired pods now (resizePodName cr pvc) pvc')
  | ignored (hdel : pvc.deletionTimestamp.isNone) (hgt : desired.amount < requested pvc)
      {t : Trace} (ht : TrackRun F desired pods now (resizePodName cr pvc) pvc t) :
      ClaimRun pvc
        (⟨.event (.storageResizeIgnored pvc.name (pvc.request.getD {}).text desired.text), ()⟩ :: t)
        (trackVerdict F desired pods now (resizePodName cr pvc) pvc)
  | kept (hdel : pvc.deletionTimestamp.isNone) (heq : requested pvc = desired.amount)
      {t : Trace} (ht : TrackRun F desired pods now (resizePodName cr pvc) pvc t) :
      ClaimRun pvc t (trackVerdict F desired pods now (resizePodName cr pvc) pvc)

end

theorem trackResize_run (h : (trackResize F desired pods now res podName pvc).Runs t o) :
    TrackRun F desired pods now podName pvc t ∧
      o = ((trackVerdict F desired pods now podName pvc).record res, none) := by
  unfold trackResize at h
  simp only [bind_eq, pure_eq, ask_eq, call_bind, ret_bind] at h
  split at h
  · rename_i hw
    have hv : Targets desired pvc ∧ Unfinished desired pvc := hw
    change Runs (if Overdue F now pvc ∧ podName ∈ pods.map (·.name) then _ else _) t o at h
    split at h
    · rename_i hr
      have hrestart : restartPod F pods now podName pvc = some podName := if_pos hr
      obtain ⟨_, t', rfl, hret⟩ := runs_call.1 h
      obtain ⟨rfl, rfl⟩ := runs_ret.1 hret
      exact ⟨.restart hv.1 hv.2 hrestart, by rw [trackVerdict, if_pos hv, hrestart]; rfl⟩
    · rename_i hr
      have hrestart : restartPod F pods now podName pvc = none := if_neg hr
      obtain ⟨rfl, rfl⟩ := runs_ret.1 h
      exact ⟨.waiting hv.1 hv.2 hrestart, by rw [trackVerdict, if_pos hv, hrestart]; rfl⟩
  · rename_i hw
    have hv : ¬ (Targets desired pvc ∧ Unfinished desired pvc) := hw
    have hverdict : (trackVerdict F desired pods now podName pvc).record res = res := by
      rw [trackVerdict, if_neg hv]; rfl
    rw [hverdict]
    split at h
    · rename_i hd
      have htarget : Targets desired pvc := hd.1
      have hfin : ¬ Unfinished desired pvc := fun hu => hv ⟨htarget, hu⟩
      split at h
      · rename_i hc
        rw [if_pos (Or.inl hc)] at h
        obtain ⟨_, t', rfl, hpatch⟩ := runs_call.1 h
        obtain ⟨r, t', rfl, hret⟩ := runs_call.1 hpatch
        obtain ⟨rfl, rfl⟩ := runs_ret.1 hret
        exact ⟨.completed htarget hfin hc r, rfl⟩
      · rename_i hc
        split at h
        · rename_i hq
          obtain ⟨r, t', rfl, hret⟩ := runs_call.1 h
          obtain ⟨rfl, rfl⟩ := runs_ret.1 hret
          exact ⟨.cleared htarget hfin hc (hq.resolve_left hc) r, rfl⟩
        · rename_i hq
          obtain ⟨rfl, rfl⟩ := runs_ret.1 h
          exact ⟨.done htarget hfin hc (not_not.1 fun hne => hq (.inr hne)), rfl⟩
    · rename_i hd
      obtain ⟨rfl, rfl⟩ := runs_ret.1 h
      refine ⟨.idle fun htarget => ?_, rfl⟩
      have hfin : ¬ Unfinished desired pvc := fun hu => hv ⟨htarget, hu⟩
      rw [Unfinished, not_or, not_lt] at hfin
      exact hd ⟨htarget, hfin⟩

theorem resizePVC_run (h : (resizePVC F cr desired pods now res pvc).Runs t o) :
    (∃ v, ClaimRun F cr desired pods now pvc t v ∧ o = (v.record res, none)) ∨
      ∃ e, o = (res, some e) ∧ e.reason ≠ .conflict ∧ resizeThrottle e = none ∧
        t = [⟨.patchPVC pvc (requestSize F desired now pvc), .error e⟩] := by
  unfold resizePVC at h
  simp only [bind_eq, pure_eq, ask_eq, call_bind, ret_bind] at h
  split at h
  · rename_i hdel
    obtain ⟨rfl, rfl⟩ := runs_ret.1 h
    exact .inl ⟨_, .terminating hdel, rfl⟩
  rename_i hdel
  rw [Option.not_isSome_iff_eq_none, ← Option.isNone_iff_eq_none] at hdel
  split at h
  · rename_i hlt
    obtain ⟨rep, t', rfl, hrep⟩ := runs_call.1 h
    match rep with
    | .ok pvc' =>
      obtain ⟨_, t', rfl, htrack⟩ := runs_call.1 hrep
      obtain ⟨ht, rfl⟩ := trackResize_run htrack
      exact .inl ⟨_, .grown hdel hlt ht, rfl⟩
    | .error e =>
      dsimp only at hrep
      split at hrep
      · rename_i he
        obtain ⟨rfl, rfl⟩ := runs_ret.1 hrep
        exact .inl ⟨_, .conflict hdel hlt he, rfl⟩
      · rename_i he
        split at hrep
        · rename_i backoff hb
          obtain ⟨_, t', rfl, hret⟩ := runs_call.1 hrep
          obtain ⟨rfl, rfl⟩ := runs_ret.1 hret
          exact .inl ⟨_, .throttled hdel hlt he hb, rfl⟩
        · rename_i hb
          obtain ⟨rfl, rfl⟩ := runs_ret.1 hrep
          exact .inr ⟨e, rfl, he, hb, rfl⟩
  · rename_i hge
    split at h
    · rename_i hgt
      obtain ⟨_, t', rfl, htrack⟩ := runs_call.1 h
      obtain ⟨ht, rfl⟩ := trackResize_run htrack
      exact .inl ⟨_, .ignored hdel hgt ht, rfl⟩
    · rename_i hle
      obtain ⟨ht, rfl⟩ := trackResize_run h
      exact .inl ⟨_, .kept hdel (le_antisymm (not_lt.1 hle) (not_lt.1 hge)) ht, rfl⟩

theorem sortPending_podReasons (res : ResizeResult) :
    res.sortPending.podReasons = res.podReasons := by
  unfold ResizeResult.sortPending
  split <;> rfl

theorem ensureResize_run (hcr : hasPersistentData cr = true)
    (h : (ensureResize F cr pods).Runs t o) :
    (∃ e, t = [⟨.listPVCs cr.ns, .error e⟩] ∧ o = ({}, some e)) ∨
      ∃ l now t' o', t = ⟨.listPVCs cr.ns, .ok l⟩ :: ⟨.now, now⟩ :: t' ∧
        (Prog.forErr (resizePVC F cr (desiredStorageQuantity F cr) pods now)
          (l.filter (pvcBelongsToCluster cr)) {}).Runs t' o' ∧
        o.2 = o'.2 ∧ o.1.podReasons = o'.1.podReasons ∧ (o.2 = none → o.1 = o'.1.sortPending) := by
  unfold ensureResize listClusterPVCs at h
  rw [if_neg (not_not.2 hcr)] at h
  simp only [bind_eq, pure_eq, ask_eq, call_bind, ret_bind] at h
  obtain ⟨rep, t1, rfl, hlist⟩ := runs_call.1 h
  match rep with
  | .error e =>
    obtain ⟨rfl, rfl⟩ := runs_ret.1 hlist
    exact .inl ⟨e, rfl, rfl⟩
  | .ok l =>
    obtain ⟨now, t2, rfl, hnow⟩ := runs_call.1 hlist
    obtain ⟨t3, ⟨res, err⟩, t4, rfl, hloop, hret⟩ := runs_bind.1 hnow
    cases err with
    | some e =>
      obtain ⟨rfl, rfl⟩ := runs_ret.1 hret
      exact .inr ⟨l, now, _, _, by rw [append_nil], hloop, rfl, rfl, nofun⟩
    | none =>
      obtain ⟨rfl, rfl⟩ := runs_ret.1 hret
      exact .inr ⟨l, now, _, _, by rw [append_nil], hloop, rfl,
        sortPending_podReasons res, fun _ => rfl⟩

/-! ## Delays in any order -/

/-- The delays in the result, by the candidates of the waiting claims and the backoffs of the
throttled ones. -/
structure Delays (waits backoffs : List Duration) (res : ResizeResult) : Prop where
  idle : waits = [] → backoffs = [] → res.requeueAfter = 0
  least : waits ≠ [] → backoffs = [] → IsLeast {c | c ∈ waits} res.requeueAfter
  greatest : backoffs ≠ [] → IsGreatest {b | b ∈ backoffs} res.requeueAfter
  floor : res.minRequeueAfter = if backoffs = [] then 0 else res.requeueAfter

section
variable {name : String} {c : Duration} {waits waits' backoffs backoffs' : List Duration}

theorem markWaiting_requeueAfter (name : String) (hmin : res.minRequeueAfter = 0) (hc : 0 < c) :
    (markWaiting res name c).requeueAfter = minDuration res.requeueAfter c := by
  simp [markWaiting, hmin, hc.not_ge]

theorem markWaiting_requeueAfter_floor (name : String) (c : Duration)
    (hpos : 0 < res.minRequeueAfter) (heq : res.requeueAfter = res.minRequeueAfter) :
    (markWaiting res name c).requeueAfter = res.minRequeueAfter := by
  simp only [markWaiting, minDuration, heq]
  grind

theorem applyThrottle_requeueAfter (name : String) (hb : 0 < b)
    (h : res.minRequeueAfter = 0 ∨ res.requeueAfter = res.minRequeueAfter) :
    (applyThrottle res name b).requeueAfter = max res.minRequeueAfter b ∧
      (applyThrottle res name b).minRequeueAfter = max res.minRequeueAfter b := by
  have hmin : (applyThrottle res name b).minRequeueAfter = max res.minRequeueAfter b := by
    simp only [applyThrottle, markWaiting, hb.not_ge, if_false]
    grind
  refine ⟨?_, hmin⟩
  simp only [applyThrottle, markWaiting, minDuration, hb.not_ge, if_false]
  grind

theorem setOf_mem_cons (c : Duration) (l : List Duration) :
    {x | x ∈ c :: l} = insert c {x | x ∈ l} := by
  ext x
  simp

namespace Delays

theorem markWaiting (h : Delays waits backoffs res) (hw : ∀ c ∈ waits, 0 < c)
    (hb : ∀ b ∈ backoffs, 0 < b) (hc : 0 < c) :
    Delays (c :: waits) backoffs (markWaiting res name c) := by
  have hfloor : (Storage.markWaiting res name c).minRequeueAfter = res.minRequeueAfter := rfl
  by_cases hbs : backoffs = []
  · have hmin : res.minRequeueAfter = 0 := by rw [h.floor, if_pos hbs]
    refine ⟨nofun, fun _ _ => ?_, fun hne => absurd hbs hne, by rw [hfloor, hmin, if_pos hbs]⟩
    rw [markWaiting_requeueAfter name hmin hc, setOf_mem_cons]
    by_cases hws : waits = []
    · rw [h.idle hws hbs]
      subst hws
      simp [minDuration]
    · have hleast := h.least hws hbs
      have hpos := hw _ hleast.1
      have hmd : minDuration res.requeueAfter c = min c res.requeueAfter := by
        simp only [minDuration]
        grind
      rw [hmd]
      exact hleast.insert c
  · have hmin : res.minRequeueAfter = res.requeueAfter := by rw [h.floor, if_neg hbs]
    have hgreatest := h.greatest hbs
    have hpos := hb _ hgreatest.1
    have heq := markWaiting_requeueAfter_floor name c (hmin ▸ hpos) hmin.symm
    rw [hmin] at heq
    exact ⟨nofun, fun _ hnil => absurd hnil hbs, fun _ => by rw [heq]; exact hgreatest,
      by rw [hfloor, if_neg hbs, heq, hmin]⟩

theorem applyThrottle (h : Delays waits backoffs res) (hb : 0 < b) :
    Delays waits (b :: backoffs) (applyThrottle res name b) := by
  by_cases hnil : backoffs = []
  · have hmin : res.minRequeueAfter = 0 := by rw [h.floor, if_pos hnil]
    obtain ⟨hafter, hfloor⟩ := applyThrottle_requeueAfter name hb (.inl hmin)
    rw [hmin, max_eq_right hb.le] at hafter hfloor
    refine ⟨fun _ => nofun, fun _ => nofun, fun _ => ?_, by rw [hfloor, hafter]; rfl⟩
    rw [hafter, hnil]
    simp
  · have hmin : res.minRequeueAfter = res.requeueAfter := by rw [h.floor, if_neg hnil]
    have hgreatest := h.greatest hnil
    obtain ⟨hafter, hfloor⟩ := applyThrottle_requeueAfter name hb (.inr hmin.symm)
    refine ⟨fun _ => nofun, fun _ => nofun, fun _ => ?_, by rw [hfloor, hafter]; rfl⟩
    rw [hafter, hmin, setOf_mem_cons, max_comm]
    exact hgreatest.insert b

theorem congr (h : Delays waits backoffs res1) (hafter : res2.requeueAfter = res1.requeueAfter)
    (hmin : res2.minRequeueAfter = res1.minRequeueAfter) : Delays waits backoffs res2 := by
  obtain ⟨hidle, hleast, hgreatest, hfloor⟩ := h
  rw [← hafter] at hidle hleast hgreatest hfloor
  exact ⟨hidle, hleast, hgreatest, hmin.trans hfloor⟩

theorem perm (h : Delays waits backoffs res) (hw : waits.Perm waits')
    (hb : backoffs.Perm backoffs') : Delays waits' backoffs' res := by
  have hwnil : waits' = [] ↔ waits = [] := ⟨fun h => (h ▸ hw).eq_nil, fun h => (h ▸ hw.symm).eq_nil⟩
  have hbnil : backoffs' = [] ↔ backoffs = [] :=
    ⟨fun h => (h ▸ hb).eq_nil, fun h => (h ▸ hb.symm).eq_nil⟩
  have hwset : {c | c ∈ waits'} = {c | c ∈ waits} := Set.ext fun _ => hw.symm.mem_iff
  have hbset : {c | c ∈ backoffs'} = {c | c ∈ backoffs} := Set.ext fun _ => hb.symm.mem_iff
  refine ⟨?_, ?_, ?_, ?_⟩
  · rw [hwnil, hbnil]
    exact h.idle
  · rw [ne_eq, hwnil, hbnil, hwset]
    exact h.least
  · rw [ne_eq, hbnil, hbset]
    exact h.greatest
  · simp only [hbnil]
    exact h.floor

theorem unique (h1 : Delays waits backoffs res1) (h2 : Delays waits backoffs res2) :
    res1.requeueAfter = res2.requeueAfter ∧ res1.minRequeueAfter = res2.minRequeueAfter := by
  have hafter : res1.requeueAfter = res2.requeueAfter := by
    by_cases hb : backoffs = []
    · by_cases hw : waits = []
      · rw [h1.idle hw hb, h2.idle hw hb]
      · exact (h1.least hw hb).unique (h2.least hw hb)
    · exact (h1.greatest hb).unique (h2.greatest hb)
  exact ⟨hafter, by rw [h1.floor, h2.floor, hafter]⟩

end Delays

end

/-! ## The result in any order -/

/-- The result holds the verdicts. -/
structure Recorded (vs : List Verdict) (res : ResizeResult) : Prop where
  waiting : res.waiting = true ↔ ∃ v ∈ vs, v ≠ .settled
  pending : res.pendingPVCs.Perm (vs.filterMap Verdict.pending)
  reasons : ∀ pod, res.podReasons.lookup pod =
    if ∃ v ∈ vs, v.Restarts pod then some [reasonResize] else none
  delays : Delays (vs.filterMap Verdict.candidate) (vs.filterMap Verdict.backoff) res

section
variable {pod reason : String} {vs vs' : List Verdict}

theorem appendReason_eq (res : ResizeResult) (pod reason : String) :
    ∃ reasons, appendReason res pod reason = { res with podReasons := reasons } := by
  unfold appendReason
  split
  · exact ⟨_, rfl⟩
  · dsimp only
    split
    · exact ⟨_, rfl⟩
    · exact ⟨_, rfl⟩

theorem appendReason_lookup (p : String)
    (hres : res.podReasons.lookup pod = none ∨ res.podReasons.lookup pod = some [reasonResize]) :
    (appendReason res pod reasonResize).podReasons.lookup p =
      if p = pod ∧ pod ≠ "" then some [reasonResize] else res.podReasons.lookup p := by
  unfold appendReason
  by_cases hpod : pod = ""
  · simp [hpod]
  rw [if_neg (by simp [hpod, reasonResize])]
  rcases hres with hnone | hsome
  · by_cases hp : p = pod
    · subst hp
      simp [hnone, hpod]
    · simp [hnone, hp, Finmap.lookup_insert_of_ne _ hp]
  · by_cases hp : p = pod
    · subst hp
      simp [hsome, hpod]
    · simp [hsome, hp]

namespace Recorded

theorem empty : Recorded [] {} where
  waiting := by simp
  pending := by simp
  reasons := by simp
  delays := ⟨fun _ _ => rfl, nofun, nofun, rfl⟩

theorem perm (h : Recorded vs res) (hp : vs.Perm vs') : Recorded vs' res where
  waiting := by
    simp only [h.waiting, hp.mem_iff]
  pending := h.pending.trans (hp.filterMap _)
  reasons pod := by
    simp only [h.reasons, hp.mem_iff]
  delays := h.delays.perm (hp.filterMap _) (hp.filterMap _)

theorem settled (h : Recorded vs res) : Recorded (.settled :: vs) res where
  waiting := by simpa using h.waiting
  pending := h.pending
  reasons pod := (h.reasons pod).trans (if_congr (by simp [Verdict.Restarts]) rfl rfl)
  delays := h.delays

theorem candidates_pos : ∀ c ∈ vs.filterMap Verdict.candidate, 0 < c := by
  intro c hc
  obtain ⟨v, -, hv⟩ := mem_filterMap.1 hc
  cases v with
  | waits _ _ =>
    obtain rfl := Option.some.inj hv
    decide
  | _ => cases hv

theorem waits (h : Recorded vs res) (hpos : ∀ b ∈ vs.filterMap Verdict.backoff, 0 < b)
    (name : String) : Recorded (.waits name none :: vs) (markWaiting res name defaultRequeue) where
  waiting := by simp [markWaiting]
  pending := by
    by_cases hn : name = ""
    · simpa [markWaiting, Verdict.pending, hn] using h.pending
    · simpa [markWaiting, Verdict.pending, hn] using
        (perm_append_singleton _ _).trans (h.pending.cons name)
  reasons pod := (h.reasons pod).trans (if_congr (by simp [Verdict.Restarts]) rfl rfl)
  delays := h.delays.markWaiting candidates_pos hpos (by decide)

theorem restart {name : String} (h : Recorded (.waits name none :: vs) res) :
    Recorded (.waits name (some pod) :: vs) (appendReason res pod reasonResize) := by
  have hreasons : ∀ p, (appendReason res pod reasonResize).podReasons.lookup p =
      if ∃ v ∈ Verdict.waits name (some pod) :: vs, v.Restarts p then some [reasonResize]
      else none := by
    intro p
    have hlookup := appendReason_lookup p (h.reasons pod ▸ ite_eq_or_eq _ _ _).symm
    rw [hlookup, h.reasons]
    by_cases hp : p = pod ∧ pod ≠ ""
    · rw [if_pos hp, if_pos]
      exact ⟨_, .head _, hp.1 ▸ rfl, hp.1 ▸ hp.2⟩
    · rw [if_neg hp]
      refine if_congr ?_ rfl rfl
      have hne : ¬ (pod = p ∧ p ≠ "") := fun ⟨hp', hne⟩ => hp ⟨hp'.symm, hp' ▸ hne⟩
      simp [Verdict.Restarts, hne]
  obtain ⟨reasons, heq⟩ := appendReason_eq res pod reasonResize
  refine ⟨?_, ?_, hreasons, ?_⟩
  · rw [heq]
    simpa using h.waiting
  · rw [heq]
    exact h.pending
  · exact h.delays.congr (by rw [heq]) (by rw [heq])

theorem throttled (h : Recorded vs res) (name : String) {b : Duration} (hb : 0 < b) :
    Recorded (.throttled name b :: vs) (applyThrottle res name b) where
  waiting := by simp [applyThrottle, markWaiting]
  pending := by
    by_cases hn : name = ""
    · simpa [applyThrottle, markWaiting, Verdict.pending, hn] using h.pending
    · simpa [applyThrottle, markWaiting, Verdict.pending, hn] using
        (perm_append_singleton _ _).trans (h.pending.cons name)
  reasons pod := (h.reasons pod).trans (if_congr (by simp [Verdict.Restarts]) rfl rfl)
  delays := h.delays.applyThrottle hb

theorem record (h : Recorded vs res) (hpos : ∀ v' ∈ v :: vs, ∀ b, v'.backoff = some b → 0 < b) :
    Recorded (v :: vs) (v.record res) := by
  have hvs : ∀ b ∈ vs.filterMap Verdict.backoff, 0 < b := by
    intro b hb
    obtain ⟨v', hv', hb'⟩ := mem_filterMap.1 hb
    exact hpos v' (.tail _ hv') b hb'
  match v with
  | .settled => exact h.settled
  | .waits name none => exact h.waits hvs name
  | .waits name (some pod) => exact (h.waits hvs name).restart
  | .throttled name b => exact h.throttled name (hpos _ (.head _) b rfl)

/-- The result is determined by the verdicts up to the order of the pending claims, and the call
sorts those. -/
theorem unique (h1 : Recorded vs res1) (h2 : Recorded vs res2) :
    res1.sortPending = res2.sortPending := by
  obtain ⟨hafter, hmin⟩ := h1.delays.unique h2.delays
  have hwaiting : res1.waiting = res2.waiting := by
    rw [Bool.eq_iff_iff, h1.waiting, h2.waiting]
  have hreasons : res1.podReasons = res2.podReasons := by
    refine Finmap.ext_lookup fun pod => ?_
    rw [h1.reasons, h2.reasons]
  have hperm : res1.pendingPVCs.Perm res2.pendingPVCs := h1.pending.trans h2.pending.symm
  obtain ⟨reasons1, pending1, waiting1, after1, min1⟩ := res1
  obtain ⟨reasons2, pending2, waiting2, after2, min2⟩ := res2
  obtain rfl : reasons1 = reasons2 := hreasons
  obtain rfl : waiting1 = waiting2 := hwaiting
  obtain rfl : after1 = after2 := hafter
  obtain rfl : min1 = min2 := hmin
  have hsort : sortStrings pending1 = sortStrings pending2 := by
    have hsorted : (sortStrings pending1).Perm (sortStrings pending2) :=
      (perm_insertionSort _ _).trans (hperm.trans (perm_insertionSort _ _).symm)
    exact hsorted.eq_of_pairwise' (pairwise_insertionSort _ _) (pairwise_insertionSort _ _)
  by_cases hlen : 1 < pending1.length
  · simp only [ResizeResult.sortPending, ← hperm.length_eq, hlen, if_true, hsort]
  · have hle : pending1.length ≤ 1 := not_lt.1 hlen
    have heq : pending1 = pending2 := by
      match pending1, hle with
      | [], _ => exact hperm.nil_eq
      | [x], _ => exact hperm.singleton_eq
    rw [heq]

end Recorded

end

/-! ## The call -/

/-- The environment answers with this time, this list and these answers to patches. -/
def Answered (now : Time) (l : List PersistentVolumeClaim)
    (answer : PersistentVolumeClaim → PersistentVolumeClaim → Result PersistentVolumeClaim) :
    Event Op → Prop
  | ⟨.now, n⟩ => n = now
  | ⟨.listPVCs _, r⟩ => r = .ok l
  | ⟨.patchPVC base desired, r⟩ => r = answer base desired
  | _ => True

/-- A patch of a claim fails only with a conflict or throttling. -/
def Tolerated : Event Op → Prop
  | ⟨.patchPVC _ _, .error e⟩ => e.reason = .conflict ∨ (resizeThrottle e).isSome
  | _ => True

/-- The API server stores the request that a patch asks for. -/
def Granted : Event Op → Prop
  | ⟨.patchPVC _ desired, .ok pvc⟩ => pvc.request = desired.request
  | _ => True

/-- The event deletes no claim, and a patch in it is of `pvc` and does not lower its request. -/
def Raises (pvc : PersistentVolumeClaim) : Event Op → Prop
  | ⟨.patchPVC _ _, .ok pvc'⟩ =>
    pvc'.ns = pvc.ns ∧ pvc'.name = pvc.name ∧ requested pvc ≤ requested pvc'
  | ⟨.deletePVC _ _, _⟩ => False
  | _ => True

theorem Raises.of_le {pvc pvc' : PersistentVolumeClaim} {e : Event Op} (h : Raises pvc' e)
    (hns : pvc'.ns = pvc.ns) (hname : pvc'.name = pvc.name)
    (hle : requested pvc ≤ requested pvc') : Raises pvc e := by
  obtain ⟨q, r⟩ := e
  cases q with
  | patchPVC base desired =>
    match r with
    | .ok p => exact ⟨h.1.trans hns, h.2.1.trans hname, hle.trans h.2.2⟩
    | .error _ => trivial
  | deletePVC ns name => exact h
  | _ => trivial

theorem resizeThrottle_pos {e : Error} (h : resizeThrottle e = some b) : 0 < b := by
  have hb : b = resizeThrottleBackoff := by
    unfold resizeThrottle at h
    split at h
    · exact (Option.some.inj h).symm
    · split at h
      · exact (Option.some.inj h).symm
      · cases h
  rw [hb]
  decide

theorem verdict_backoff_pos
    (h : (verdict F cr desired pods now answer pvc).backoff = some b) : 0 < b := by
  have htrack : ∀ podName p, (trackVerdict F desired pods now podName p).backoff = none := by
    intro podName p
    unfold trackVerdict
    split <;> rfl
  unfold verdict at h
  split at h
  · cases h
  split at h
  · split at h
    · rw [htrack] at h
      cases h
    · split at h
      · cases h
      · split at h
        · rename_i b' hb'
          obtain rfl : b' = b := Option.some.inj h
          exact resizeThrottle_pos hb'
        · cases h
  · rw [htrack] at h
    cases h

theorem ClaimRun.verdict_eq (h : ClaimRun F cr desired pods now pvc t v)
    (ha : ∀ e ∈ t, Answered now l answer e) : v = verdict F cr desired pods now answer pvc := by
  have hnone (hdel : pvc.deletionTimestamp.isNone) : ¬ pvc.deletionTimestamp.isSome = true := by
    simpa using hdel
  unfold verdict
  cases h with
  | terminating hdel => rw [if_pos hdel]
  | conflict hdel hlt he =>
    have hrep : Except.error _ = answer pvc (requestSize F desired now pvc) := ha _ (.head _)
    rw [if_neg (hnone hdel), if_pos hlt, ← hrep]
    simp only [he, if_true]
  | throttled hdel hlt he hb =>
    have hrep : Except.error _ = answer pvc (requestSize F desired now pvc) := ha _ (.head _)
    rw [if_neg (hnone hdel), if_pos hlt, ← hrep]
    simp only [he, if_false, hb]
  | grown hdel hlt ht =>
    have hrep : Except.ok _ = answer pvc (requestSize F desired now pvc) := ha _ (.head _)
    rw [if_neg (hnone hdel), if_pos hlt, ← hrep]
  | ignored hdel hgt ht => rw [if_neg (hnone hdel), if_neg hgt.not_gt]
  | kept hdel heq ht => rw [if_neg (hnone hdel), if_neg heq.not_lt]

theorem TrackRun.raises (h : TrackRun F desired pods now podName pvc t)
    (hsame : ∀ e ∈ t, SamePVC e) (hg : ∀ e ∈ t, Granted e) : ∀ e ∈ t, Raises pvc e := by
  have hpatch : ∀ r, SamePVC ⟨.patchPVC pvc (completeResize F now pvc), r⟩ →
      Granted ⟨.patchPVC pvc (completeResize F now pvc), r⟩ →
      Raises pvc ⟨.patchPVC pvc (completeResize F now pvc), r⟩ := by
    intro r hs hr
    match r with
    | .error e => trivial
    | .ok p =>
      obtain ⟨hns, hname⟩ := hs _ _ _ rfl
      have hreq : p.request = pvc.request := hr
      exact ⟨hns, hname, by rw [requested, requested, hreq]⟩
  cases h with
  | idle | waiting | done => exact forall_mem_nil _
  | restart => exact forall_mem_singleton.2 trivial
  | completed h hw hc r =>
    simp only [forall_mem_cons] at hsame hg ⊢
    exact ⟨trivial, hpatch r hsame.2.1 hg.2.1, forall_mem_nil _⟩
  | cleared h hw hc hq r =>
    simp only [forall_mem_cons] at hsame hg ⊢
    exact ⟨hpatch r hsame.1 hg.1, forall_mem_nil _⟩

theorem ClaimRun.raises (h : ClaimRun F cr desired pods now pvc t v)
    (hsame : ∀ e ∈ t, SamePVC e) (hg : ∀ e ∈ t, Granted e) : ∀ e ∈ t, Raises pvc e := by
  cases h with
  | terminating => exact forall_mem_nil _
  | conflict => exact forall_mem_singleton.2 trivial
  | throttled => exact forall_mem_cons.2 ⟨trivial, forall_mem_singleton.2 trivial⟩
  | grown hdel hlt ht =>
    rename_i pvc' t'
    simp only [forall_mem_cons] at hsame hg ⊢
    obtain ⟨hns, hname⟩ := hsame.1 _ _ _ rfl
    have hreq : pvc'.request = some desired := hg.1
    have hle : requested pvc ≤ requested pvc' := by
      rw [requested, requested, hreq]
      exact hlt.le
    refine ⟨⟨hns, hname, hle⟩, trivial, fun e he => ?_⟩
    exact (ht.raises hsame.2.2 hg.2.2 e he).of_le hns hname hle
  | ignored hdel hgt ht =>
    simp only [forall_mem_cons] at hsame hg ⊢
    exact ⟨trivial, ht.raises hsame.2 hg.2⟩
  | kept hdel heq ht => exact ht.raises hsame hg

theorem TrackRun.no_backoff {name : String} (h : TrackRun F desired pods now podName pvc t) :
    ⟨.event (.storageResizeBackoff name b), ()⟩ ∉ t := by
  cases h <;> simp

theorem ClaimRun.backoff_iff {name : String} (h : ClaimRun F cr desired pods now pvc t v) :
    ⟨.event (.storageResizeBackoff name b), ()⟩ ∈ t ↔ v = .throttled name b := by
  have htrack : ∀ podName p, trackVerdict F desired pods now podName p ≠ .throttled name b := by
    intro podName p
    unfold trackVerdict
    split <;> nofun
  cases h with
  | terminating | conflict => simp
  | throttled => simp [eq_comm]
  | grown hdel hlt ht => simp [htrack, ht.no_backoff]
  | ignored hdel hgt ht => simp [htrack, ht.no_backoff]
  | kept hdel heq ht => simp [htrack, ht.no_backoff]


theorem loop_none (h : (Prog.forErr (resizePVC F cr desired pods now) l {}).Runs t o)
    (hf : ∀ e ∈ t, Tolerated e) : o.2 = none := by
  obtain ⟨res, err⟩ := o
  cases err with
  | none => rfl
  | some e =>
    obtain ⟨pvc, -, res1, t1, t2, rfl, hrun⟩ := h.forErr_error
    rcases resizePVC_run hrun with ⟨v, -, heq⟩ | ⟨e', heq, hconflict, hthrottle, rfl⟩
    · cases heq
    · have htol : e'.reason = .conflict ∨ (resizeThrottle e').isSome :=
        hf _ (mem_append_right _ (.head _))
      rcases htol with hc | ht
      · exact absurd hc hconflict
      · rw [hthrottle] at ht
        cases ht

theorem loop_recorded (h : (Prog.forErr (resizePVC F cr desired pods now) l {}).Runs t (res, none))
    {l' : List PersistentVolumeClaim} (ha : ∀ e ∈ t, Answered now l' answer e) :
    Recorded (l.map (verdict F cr desired pods now answer)) res ∧
      ∀ name b, ⟨.event (.storageResizeBackoff name b), ()⟩ ∈ t ↔
        .throttled name b ∈ l.map (verdict F cr desired pods now answer) := by
  refine h.forErr_inv (I := fun done t res =>
    Recorded (done.map (verdict F cr desired pods now answer)) res ∧
      ∀ name b, ⟨.event (.storageResizeBackoff name b), ()⟩ ∈ t ↔
        .throttled name b ∈ done.map (verdict F cr desired pods now answer))
    ⟨.empty, by simp⟩ ?_
  intro done pvc t0 res0 t1 res1 hdone ht hI hrun
  rcases resizePVC_run hrun with ⟨v, hv, heq⟩ | ⟨e, heq, -⟩
  · have hans : ∀ e ∈ t1, Answered now l' answer e :=
      fun e he => ha e (ht.subset (mem_append_right _ he))
    obtain ⟨rfl, -⟩ := Prod.mk.inj heq
    have hback (name : String) (b : Duration) :
        ⟨.event (.storageResizeBackoff name b), ()⟩ ∈ t1 ↔ v = .throttled name b := hv.backoff_iff
    obtain rfl := hv.verdict_eq hans
    rw [map_append]
    refine ⟨(hI.1.record ?_).perm (perm_append_singleton _ _).symm, fun name b => ?_⟩
    · refine forall_mem_cons.2 ⟨fun b => verdict_backoff_pos, fun v' hv' b hb => ?_⟩
      obtain ⟨pvc', -, rfl⟩ := mem_map.1 hv'
      exact verdict_backoff_pos hb
    · rw [mem_append, mem_append, hI.2, hback, map_singleton, mem_singleton, eq_comm]
  · cases heq

theorem loop_raises (h : (Prog.forErr (resizePVC F cr desired pods now) l {}).Runs t o)
    (hsame : ∀ e ∈ t, SamePVC e) (hg : ∀ e ∈ t, Granted e) : ∀ e ∈ t, ∃ pvc ∈ l, Raises pvc e := by
  refine (h.forErr_events (I := fun _ => True) (R := fun e => SamePVC e ∧ Granted e)
    (Q := fun e => ∃ pvc ∈ l, Raises pvc e) trivial (fun e he => ⟨hsame e he, hg e he⟩) ?_).2
  intro pvc hpvc res t o _ hR hrun
  refine ⟨trivial, fun e he => ⟨pvc, hpvc, ?_⟩⟩
  rcases resizePVC_run hrun with ⟨v, hv, -⟩ | ⟨err, -, -, -, rfl⟩
  · exact hv.raises (fun e he => (hR e he).1) (fun e he => (hR e he).2) e he
  · obtain rfl := mem_singleton.1 he
    trivial

/-- **A call never lowers a request.** -/
theorem ensureResize_grows {s : PVCStore} (h : (ensureResize F cr pods).Runs t o)
    (hs : pvcWorld.Admits s t) (hg : ∀ e ∈ t, Granted e) {ns name : String}
    (hget : s.get ns name = some pvc) :
    ∃ pvc', (pvcWorld.after s t).get ns name = some pvc' ∧ requested pvc ≤ requested pvc' := by
  by_cases hcr : hasPersistentData cr = true
  · rcases ensureResize_run hcr h with ⟨e, rfl, -⟩ | ⟨l, now, t', o', rfl, hloop, -⟩
    · exact ⟨pvc, hget, le_rfl⟩
    have hsame : ∀ e ∈ t', SamePVC e := World.Admits.mem _ samePVC_of_ok hs.2.2
    have hraises := loop_raises hloop hsame fun e he => hg e (.tail _ (.tail _ he))
    rw [World.after_cons, World.after_cons]
    refine World.after_inv (W := pvcWorld)
      (I := fun s' => ∃ pvc', s'.get ns name = some pvc' ∧ requested pvc ≤ requested pvc')
      ⟨pvc, hget, le_rfl⟩ ?_
    rintro ⟨q, r⟩ he s' ⟨pvc', hget', hle⟩
    obtain ⟨listed, hlisted, hraise⟩ := hraises _ he
    cases q with
    | patchPVC base desired =>
      match r with
      | .error _ => exact ⟨pvc', hget', hle⟩
      | .ok p =>
        by_cases hk : ns = p.ns ∧ name = p.name
        · -- the patched claim was listed as `pvc`
          obtain ⟨rfl, rfl⟩ := hk
          have hstored := hs.1 listed (mem_of_mem_filter hlisted)
          have hns : listed.ns = cr.ns := (s.wf hstored).1
          rw [← hns, ← hraise.1, ← hraise.2.1, hget] at hstored
          obtain rfl := Option.some.inj hstored
          exact ⟨p, s'.put_get_self p, hraise.2.2⟩
        · exact ⟨pvc', (s'.put_get_ne hk).trans hget', hle⟩
    | deletePVC ns name => exact hraise.elim
    | _ => exact ⟨pvc', hget', hle⟩
  · rw [ensureResize, if_pos hcr] at h
    obtain ⟨rfl, rfl⟩ := runs_ret.1 h
    exact ⟨pvc, hget, le_rfl⟩

/-- The verdicts on the claims of the cluster. -/
def verdicts (F : Formats) (cr : KeyValCluster) (pods : List Pod) (now : Time)
    (answer : PersistentVolumeClaim → PersistentVolumeClaim → Result PersistentVolumeClaim)
    (l : List PersistentVolumeClaim) : List Verdict :=
  if hasPersistentData cr then
    (l.filter (pvcBelongsToCluster cr)).map
      (verdict F cr (desiredStorageQuantity F cr) pods now answer)
  else []

/-- The delays of throttled patches, as reported. -/
def backoffs (t : Trace) : Set Duration :=
  {b | ∃ name, ⟨.event (.storageResizeBackoff name b), ()⟩ ∈ t}

/-- The delays that the verdicts ask for. -/
def candidates (vs : List Verdict) : Set Duration := {c | ∃ v ∈ vs, v.candidate = some c}

section
variable {l1 l2 : List PersistentVolumeClaim} {t1 t2 : Trace} {o1 o2 : ResizeResult × Option Error}

theorem ensureResize_recorded (h : (ensureResize F cr pods).Runs t o)
    (ha : ∀ e ∈ t, Answered now l answer e) (hf : ∀ e ∈ t, Tolerated e) :
    ∃ res, Recorded (verdicts F cr pods now answer l) res ∧ o = (res.sortPending, none) ∧
      ∀ name b, ⟨.event (.storageResizeBackoff name b), ()⟩ ∈ t ↔
        .throttled name b ∈ verdicts F cr pods now answer l := by
  unfold verdicts
  by_cases hcr : hasPersistentData cr = true
  · rw [if_pos hcr]
    rcases ensureResize_run hcr h with
      ⟨e, rfl, -⟩ | ⟨l', now', t', ⟨res, err⟩, rfl, hloop, herr, -, ho⟩
    · cases ha _ (.head _)
    obtain ⟨hl, hnow, ha'⟩ : Except.ok l' = Except.ok l ∧ now' = now ∧
        ∀ e ∈ t', Answered now l answer e := by
      simpa only [forall_mem_cons, Answered] using ha
    obtain rfl : l' = l := Except.ok.inj hl
    subst hnow
    obtain rfl : err = none := loop_none hloop fun e he => hf e (.tail _ (.tail _ he))
    obtain ⟨hrec, hback⟩ := loop_recorded hloop ha'
    exact ⟨res, hrec, Prod.ext (ho herr) herr, fun name b => by simp [hback]⟩
  · rw [if_neg hcr]
    rw [ensureResize, if_pos hcr] at h
    obtain ⟨rfl, rfl⟩ := runs_ret.1 h
    exact ⟨{}, .empty, rfl, by simp⟩

theorem verdicts_perm (hl : l1.Perm l2) :
    (verdicts F cr pods now answer l1).Perm (verdicts F cr pods now answer l2) := by
  unfold verdicts
  split
  · exact (hl.filter _).map _
  · exact .refl _

theorem sortPending_requeueAfter (res : ResizeResult) :
    res.sortPending.requeueAfter = res.requeueAfter := by
  unfold ResizeResult.sortPending
  split <;> rfl

/-- **The resize only grows and does not depend on the order of the list.** When no patch fails
otherwise than with a conflict or throttling, a call leaves every stored claim a request that is not
lower, and two calls that list the claims in different orders and get the same answers have the same
result. Its delay is the largest backoff, and without a throttled claim the smallest candidate. -/
theorem ensureResize_order {s : PVCStore} (h1 : (ensureResize F cr pods).Runs t1 o1)
    (h2 : (ensureResize F cr pods).Runs t2 o2) (ha1 : ∀ e ∈ t1, Answered now l1 answer e)
    (ha2 : ∀ e ∈ t2, Answered now l2 answer e) (hl : l1.Perm l2) (hf1 : ∀ e ∈ t1, Tolerated e)
    (hf2 : ∀ e ∈ t2, Tolerated e) (hs : pvcWorld.Admits s t1) (hg : ∀ e ∈ t1, Granted e) :
    (∀ ns name pvc, s.get ns name = some pvc → ∃ pvc',
      (pvcWorld.after s t1).get ns name = some pvc' ∧ requested pvc ≤ requested pvc') ∧
    o1 = o2 ∧ o1.2 = none ∧
    ((backoffs t1).Nonempty → IsGreatest (backoffs t1) o1.1.requeueAfter) ∧
    (backoffs t1 = ∅ → (candidates (verdicts F cr pods now answer l1)).Nonempty →
      IsLeast (candidates (verdicts F cr pods now answer l1)) o1.1.requeueAfter) ∧
    (backoffs t1 = ∅ → candidates (verdicts F cr pods now answer l1) = ∅ →
      o1.1.requeueAfter = 0) := by
  obtain ⟨res1, hrec1, rfl, hback⟩ := ensureResize_recorded h1 ha1 hf1
  obtain ⟨res2, hrec2, rfl, -⟩ := ensureResize_recorded h2 ha2 hf2
  have hsame : res1.sortPending = res2.sortPending :=
    hrec1.unique (hrec2.perm (verdicts_perm hl).symm)
  have hbackoffs : backoffs t1 =
      {b | b ∈ (verdicts F cr pods now answer l1).filterMap Verdict.backoff} := by
    ext b
    simp only [backoffs, Set.mem_ofPred_eq, hback, mem_filterMap]
    constructor
    · rintro ⟨name, hmem⟩
      exact ⟨_, hmem, rfl⟩
    · rintro ⟨v, hmem, hv⟩
      cases v with
      | throttled name b' =>
        obtain rfl := Option.some.inj hv
        exact ⟨name, hmem⟩
      | _ => cases hv
  have hcandidates : candidates (verdicts F cr pods now answer l1) =
      {c | c ∈ (verdicts F cr pods now answer l1).filterMap Verdict.candidate} := by
    ext c
    simp [candidates]
  have hdelays := hrec1.delays
  rw [hbackoffs, hcandidates, sortPending_requeueAfter]
  generalize (verdicts F cr pods now answer l1).filterMap Verdict.backoff = bs at hdelays
  generalize (verdicts F cr pods now answer l1).filterMap Verdict.candidate = cs at hdelays
  have hempty : ∀ l : List Duration, {x | x ∈ l} = (∅ : Set Duration) ↔ l = [] := by
    intro l
    simp [Set.eq_empty_iff_forall_notMem, eq_nil_iff_forall_not_mem]
  refine ⟨fun ns name pvc hget => ensureResize_grows h1 hs hg hget, by rw [hsame], rfl,
    fun hne => ?_, fun hnil hne => ?_, fun hnil hnil' => ?_⟩
  · exact hdelays.greatest ((hempty bs).not.1 hne.ne_empty)
  · exact hdelays.least ((hempty cs).not.1 hne.ne_empty) ((hempty bs).1 hnil)
  · exact hdelays.idle ((hempty cs).1 hnil') ((hempty bs).1 hnil)

end

/-! ### Two claims, one of them throttled -/

/-- The cluster `a` with a storage size of 20. -/
def resizeA : KeyValCluster :=
  { clusterA with spec := { clusterA.spec with storage := some { size := some "20" } } }

/-- The claim of a pod, with size 10. -/
def claim (n : String) : PersistentVolumeClaim where
  name := "data-a-" ++ n
  ns := "prod"
  request := some ⟨10000000000, "10"⟩

/-- The claims of two pods. -/
def resizeStore : PVCStore := (PVCStore.empty.put (claim "0")).put (claim "1")

/-- The patch of data-a-0 is throttled. -/
def throttleA0 (base desired : PersistentVolumeClaim) : Result PersistentVolumeClaim :=
  if base.name = "data-a-0" then .error { msg := "slow down", reason := .tooManyRequests }
  else .ok desired

/-- The claims are listed and throttled so. -/
def resizeReplies (l : List PersistentVolumeClaim) (_ : PVCStore) : Replies
  | .listPVCs _ => .ok l
  | .patchPVC base desired => throttleA0 base desired
  | .now => 0
  | q => q.unavailable

theorem resizeReplies_answered (l : List PersistentVolumeClaim) (s : PVCStore) {α : Type}
    (p : M α) : ∀ e ∈ (pvcWorld.play (resizeReplies l) s p).1,
      Answered 0 l throttleA0 e ∧ Tolerated e ∧ Granted e := by
  rintro ⟨q, rep⟩ he
  obtain ⟨s', rfl⟩ : ∃ s', rep = resizeReplies l s' q := World.play_rep _ _ _ he
  cases q with
  | listPVCs | now => exact ⟨rfl, trivial, trivial⟩
  | patchPVC base desired =>
    refine ⟨rfl, ?_⟩
    simp only [resizeReplies, throttleA0]
    split
    · exact ⟨.inr rfl, trivial⟩
    · exact ⟨trivial, rfl⟩
  | _ => exact ⟨trivial, trivial, trivial⟩

/-- In either order the call waits five minutes for the throttled claim. -/
theorem ensureResize_order_throttled :
    ∃ t1 t2 o, (ensureResize .decimal resizeA []).Runs t1 o ∧
      (ensureResize .decimal resizeA []).Runs t2 o ∧
      (∀ e ∈ t1, Answered 0 [claim "0", claim "1"] throttleA0 e) ∧
      (∀ e ∈ t2, Answered 0 [claim "1", claim "0"] throttleA0 e) ∧
      IsGreatest (backoffs t1) o.1.requeueAfter := by
  let r1 := pvcWorld.play (resizeReplies [claim "0", claim "1"]) resizeStore
    (ensureResize .decimal resizeA [])
  let r2 := pvcWorld.play (resizeReplies [claim "1", claim "0"]) resizeStore
    (ensureResize .decimal resizeA [])
  have h1 : (ensureResize .decimal resizeA []).Runs r1.1 r1.2 := World.runs_play _ _
  have h2 : (ensureResize .decimal resizeA []).Runs r2.1 r2.2 := World.runs_play _ _
  have hr1 := resizeReplies_answered [claim "0", claim "1"] resizeStore
    (ensureResize .decimal resizeA [])
  have hr2 := resizeReplies_answered [claim "1", claim "0"] resizeStore
    (ensureResize .decimal resizeA [])
  let request := requestSize .decimal ⟨20000000000, "20"⟩ 0
  have htrace : r1.1 = [⟨.listPVCs "prod", .ok [claim "0", claim "1"]⟩, ⟨.now, (0 : Int)⟩,
      ⟨.patchPVC (claim "0") (request (claim "0")), throttleA0 (claim "0") (request (claim "0"))⟩,
      ⟨.event (.storageResizeBackoff "data-a-0" (5 * minute)), ()⟩,
      ⟨.patchPVC (claim "1") (request (claim "1")), .ok (request (claim "1"))⟩,
      ⟨.event (.storageResizeRequested "data-a-1" "10" "20"), ()⟩] := rfl
  have hs : pvcWorld.Admits resizeStore r1.1 := by
    rw [htrace]
    exact ⟨forall_mem_cons.2 ⟨rfl, forall_mem_singleton.2 rfl⟩, trivial, trivial, trivial,
      ⟨rfl, rfl, fun _ => rfl⟩, trivial, trivial⟩
  have hreported : ⟨.event (.storageResizeBackoff "data-a-0" (5 * minute)), ()⟩ ∈ r1.1 := by
    simp [htrace]
  obtain ⟨-, heq, -, hgreatest, -⟩ := ensureResize_order h1 h2 (fun e he => (hr1 e he).1)
    (fun e he => (hr2 e he).1) (.swap _ _ []) (fun e he => (hr1 e he).2.1)
    (fun e he => (hr2 e he).2.1) hs fun e he => (hr1 e he).2.2
  have h2' : (ensureResize .decimal resizeA []).Runs r2.1 r1.2 := by
    rw [heq]
    exact h2
  exact ⟨r1.1, r2.1, r1.2, h1, h2', fun e he => (hr1 e he).1, fun e he => (hr2 e he).1,
    hgreatest ⟨_, _, hreported⟩⟩

end Keyval.Storage
