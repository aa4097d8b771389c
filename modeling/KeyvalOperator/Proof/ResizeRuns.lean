import Mathlib.Algebra.GroupWithZero.Nat
import KeyvalOperator.Proof.Resize
import KeyvalOperator.Lib.Transition

/-!
# Runs of resize calls

Calls of `ensureResize` on stored claims, with the storage driver changing the claims' capacity and
conditions between them (`ResizeStep`).

* `restarts_justified`: a restart for a pending file system resize comes two minutes after the
  condition's last transition, in runs where the request is no earlier than that transition. The
  code measures the two minutes from the request (`slow_expansion_restarts`).
* `resize_completes_iff`: the completion of a resize is reported once if and only if the claim was
  not marked complete before. The mark of an earlier resize stays (`second_resize_unreported`).
-/

namespace Keyval.Storage

open Go Interact Interact.Prog Transition List

variable {s : PVCStore} {t : Trace} {F : Formats} {cr : KeyValCluster} {desired d : Quantity}
  {pods : List Pod} {now : Time} {pvc p : PersistentVolumeClaim} {v : Verdict} {ns name : String}
  {c : ResizeCall} {s' : PVCStore}

/-! ## Calls on stored claims -/

/-- A call of `ensureResize`. -/
structure ResizeCall where
  cr : KeyValCluster
  pods : List Pod
  events : Trace
  out : ResizeResult × Option Error

/-- The claims differ at most in capacity and conditions, which the storage driver sets. -/
def SameSpec (p p' : PersistentVolumeClaim) : Prop :=
  p' = { p with capacity := p'.capacity, conditions := p'.conditions }

/-- The API server lists each claim once, and a patch that succeeds gives the desired claim in its
current status. -/
def Served : Event Op → Prop
  | ⟨.listPVCs _, .ok l⟩ => (l.map (·.name)).Nodup
  | ⟨.patchPVC _ desired, .ok p⟩ => SameSpec desired p
  | _ => True

/-- A call, or a change by the driver. -/
inductive ResizeLabel
  | call (c : ResizeCall)
  /-- The storage driver changes capacities and conditions. -/
  | status

/-- One step of the stored claims. -/
def ResizeStep (F : Formats) (s : PVCStore) : ResizeLabel → PVCStore → Prop
  | .call c, s' => (ensureResize F c.cr c.pods).Runs c.events c.out ∧
    pvcWorld.Admits s c.events ∧ (∀ e ∈ c.events, Served e) ∧ s' = pvcWorld.after s c.events
  | .status, s' => ∀ ns name, Option.Rel SameSpec (s.get ns name) (s'.get ns name)

/-! ## Pending file systems -/

/-- The claim's file system resize has been pending for two minutes, by the last transition of its
condition. -/
def Stalled (now : Time) (p : PersistentVolumeClaim) : Prop :=
  ∀ c ∈ p.conditions, c.type = "FileSystemResizePending" → c.isTrue = true →
    c.lastTransitionTime + 2 * minute ≤ now

/-- The time of the request, as annotated. -/
def requestTime (F : Formats) (p : PersistentVolumeClaim) : Option Time :=
  parseResizeTimestamp F (Map.str p.annotations annotationPVCResizeRequestedAt)

/-- The call queues a restart of the pod, for the claim of this name. -/
def Queues (t : Trace) (name pod : String) : Prop :=
  ∃ age, ⟨.event (.storageResizeRestartQueued name pod age), ()⟩ ∈ t

/-- Every restart that the call queues is for a listed claim of the cluster that waits for its
capacity, or whose file system resize is stalled. -/
def Justified (F : Formats) (c : ResizeCall) : Prop :=
  ∀ name pod, Queues c.events name pod →
    ∃ l now p, ⟨.listPVCs c.cr.ns, .ok l⟩ ∈ c.events ∧ ⟨.now, now⟩ ∈ c.events ∧
      p ∈ l ∧ pvcBelongsToCluster c.cr p = true ∧ p.name = name ∧
      if hasFileSystemResizePending p then Stalled now p
      else (p.capacity.getD {}).amount < (desiredStorageQuantity F c.cr).amount

/-- The pods that the result puts the reason on are those whose restart the call queues. -/
def ReasonsQueued (c : ResizeCall) : Prop :=
  ∀ pod, reasonResize ∈ (c.out.1.podReasons.lookup pod).getD [] → ∃ name, Queues c.events name pod

/-- A listed claim of the cluster with a pending file system resize was requested no earlier than
its condition became true. -/
def RequestedSince (F : Formats) (c : ResizeCall) : Prop :=
  ∀ l, ⟨.listPVCs c.cr.ns, .ok l⟩ ∈ c.events → ∀ p ∈ l, pvcBelongsToCluster c.cr p = true →
    Targets (desiredStorageQuantity F c.cr) p → ∀ r, requestTime F p = some r →
      ∀ cond ∈ p.conditions, cond.type = "FileSystemResizePending" → cond.isTrue = true →
        cond.lastTransitionTime ≤ r

/-- The call's time is read back from its text. -/
def ReadsBack (F : Formats) (c : ResizeCall) : Prop :=
  ∀ now, ⟨.now, now⟩ ∈ c.events → parseResizeTimestamp F (F.formatTime .rfc3339Nano now) = some now

theorem timeSub_self (t : Time) : timeSub t t = 0 := by
  rw [timeSub, sub_self]
  decide

theorem resizeAge_eq_zero (h : requestTime F p = none ∨ requestTime F p = some now) :
    resizeAge F now p = 0 := by
  have hget : (requestTime F p).getD now = now := by
    rcases h with h | h <;> rw [h] <;> rfl
  have hage : resizeAge F now p = max 0 (timeSub now ((requestTime F p).getD now)) := rfl
  rw [hage, hget, timeSub_self, max_self]

theorem requestTime_of_age {d : Duration} (hd : 0 < d) (h : d ≤ resizeAge F now p) :
    ∃ r, requestTime F p = some r ∧ r + d ≤ now := by
  cases hr : requestTime F p with
  | none =>
    rw [resizeAge_eq_zero (.inl hr)] at h
    exact absurd hd h.not_gt
  | some r =>
    have hage : resizeAge F now p = max 0 (timeSub now ((requestTime F p).getD now)) := rfl
    rw [hage, hr, Option.getD_some, timeSub] at h
    refine ⟨r, rfl, ?_⟩
    grind

theorem overdue_pos (h : Overdue F now p) : 0 < resizeAge F now p := by
  have hfs : 0 < resizeFilesystemGrace := by decide
  have hcap : 0 < resizeCapacityGrace := by decide
  unfold Overdue at h
  split at h
  · exact hfs.trans_le h
  · exact hcap.trans_le h

theorem ClaimRun.restart_queued (h : ClaimRun F cr desired pods now pvc t v)
    (hserved : ∀ e ∈ t, Served e)
    (hF : parseResizeTimestamp F (F.formatTime .rfc3339Nano now) = some now) {name pod : String}
    {age : Duration} (he : ⟨.event (.storageResizeRestartQueued name pod age), ()⟩ ∈ t) :
    name = pvc.name ∧ Targets desired pvc ∧ Unfinished desired pvc ∧ Overdue F now pvc := by
  have htrack : ∀ {podName p u}, TrackRun F desired pods now podName p u →
      ⟨.event (.storageResizeRestartQueued name pod age), ()⟩ ∈ u →
      name = p.name ∧ Targets desired p ∧ Unfinished desired p ∧ Overdue F now p := by
    intro podName p u hu he
    cases hu with
    | restart ht hw hr =>
      simp only [mem_singleton, Event.mk.injEq, Req.event.injEq,
        Ev.storageResizeRestartQueued.injEq] at he
      have hover : Overdue F now p ∧ podName ∈ pods.map (·.name) := by
        by_contra hno
        rw [restartPod, if_neg hno] at hr
        cases hr
      exact ⟨he.1.1, ht, hw, hover.1⟩
    | _ => simp at he
  cases h with
  | terminating | conflict | throttled => simp at he
  | grown hdel hlt ht =>
    rename_i pvc' u
    -- the request is stamped with the time of this call, so the resize is new
    have hspec : SameSpec (requestSize F desired now pvc) pvc' := hserved _ (.head _)
    have hann : pvc'.annotations = (requestSize F desired now pvc).annotations := by rw [hspec]
    have htime : requestTime F pvc' = some now := by
      rw [requestTime, hann, requestSize, Map.str_insert_self, hF]
    have hnew : resizeAge F now pvc' = 0 := resizeAge_eq_zero (.inr htime)
    have hover := (htrack ht (by simpa using he)).2.2.2
    exact absurd (overdue_pos hover) hnew.le.not_gt
  | ignored hdel hgt ht => exact htrack ht (by simpa using he)
  | kept hdel heq ht => exact htrack ht he

theorem call_justified {c : ResizeCall}
    (h : (ensureResize F c.cr c.pods).Runs c.events c.out) (hserved : ∀ e ∈ c.events, Served e)
    (hF : ReadsBack F c) (hcond : RequestedSince F c) : Justified F c := by
  rintro name pod ⟨age, he⟩
  obtain ⟨cr, pods, t, o⟩ := c
  dsimp only at h hserved he ⊢
  by_cases hcr : hasPersistentData cr = true
  · rcases ensureResize_run hcr h with ⟨e, rfl, -⟩ | ⟨l, now, t', o', rfl, hloop, -⟩
    · simp at he
    have he' : ⟨.event (.storageResizeRestartQueued name pod age), ()⟩ ∈ t' := by simpa using he
    have hnow := hF now (.tail _ (.head _))
    refine ⟨l, now, ?_⟩
    have hevents := (hloop.forErr_events (I := fun _ => True) (R := Served)
      (Q := fun e => e = ⟨.event (.storageResizeRestartQueued name pod age), ()⟩ →
        ∃ p ∈ l.filter (pvcBelongsToCluster cr), p.name = name ∧
          Targets (desiredStorageQuantity F cr) p ∧ Unfinished (desiredStorageQuantity F cr) p ∧
          Overdue F now p) trivial
      (fun e he => hserved e (.tail _ (.tail _ he))) ?_).2 _ he' rfl
    · obtain ⟨p, hp, hname, htarget, hunfinished, hover⟩ := hevents
      obtain ⟨hp, howned⟩ := mem_filter.1 hp
      refine ⟨p, .head _, .tail _ (.head _), hp, howned, hname, ?_⟩
      split
      · rename_i hpending
        rw [Overdue, if_pos hpending] at hover
        obtain ⟨r, hr, hle⟩ := requestTime_of_age (by decide) hover
        intro cond hc htype htrue
        have hsince : cond.lastTransitionTime ≤ r :=
          hcond l (.head _) p hp howned htarget r hr cond hc htype htrue
        exact (add_le_add_left hsince _).trans hle
      · rename_i hpending
        exact hunfinished.resolve_left hpending
    · rintro pvc hpvc res u ou - hR hrun
      refine ⟨trivial, ?_⟩
      rintro e hmem rfl
      rcases resizePVC_run hrun with ⟨v, hv, -⟩ | ⟨err, -, -, -, rfl⟩
      · obtain ⟨rfl, hrest⟩ := hv.restart_queued hR hnow hmem
        exact ⟨pvc, hpvc, rfl, hrest⟩
      · simp at hmem
  · rw [ensureResize, if_pos hcr] at h
    obtain ⟨rfl, rfl⟩ := runs_ret.1 h
    cases he

theorem Verdict.record_reasons {res : ResizeResult} {pod : String}
    (h : reasonResize ∈ ((v.record res).podReasons.lookup pod).getD []) :
    v.Restarts pod ∨ reasonResize ∈ (res.podReasons.lookup pod).getD [] := by
  match v with
  | .settled | .waits _ none | .throttled _ _ => exact .inr h
  | .waits name (some p) =>
    rw [Verdict.record, appendReason] at h
    dsimp only at h
    split_ifs at h with hempty
    · exact .inr h
    · exact .inr h
    · by_cases hp : pod = p
      · obtain rfl := hp
        exact .inl ⟨rfl, fun hpod => hempty (.inl hpod)⟩
      · rw [Finmap.lookup_insert_of_ne _ hp] at h
        exact .inr h

theorem TrackRun.queues {podName pod : String} (h : TrackRun F desired pods now podName pvc t)
    (hv : (trackVerdict F desired pods now podName pvc).Restarts pod) : Queues t pvc.name pod := by
  unfold trackVerdict at hv
  split at hv
  · rename_i htrack
    cases h with
    | restart htarget hunfinished hr =>
      obtain rfl : podName = pod := Option.some.inj (hr.symm.trans hv.1)
      exact ⟨_, .head _⟩
    | idle htarget => exact absurd htrack.1 htarget
    | waiting _ _ hr => cases hr.symm.trans hv.1
    | completed _ hfinished | cleared _ hfinished | done _ hfinished =>
      exact absurd htrack.2 hfinished
  · exact hv.elim

theorem ClaimRun.queues {pod : String} (h : ClaimRun F cr desired pods now pvc t v)
    (hv : v.Restarts pod) : ∃ name, Queues t name pod := by
  cases h with
  | terminating | conflict => cases hv.1
  | throttled => exact hv.elim
  | grown _ _ ht => exact ⟨_, (ht.queues hv).imp fun _ he => .tail _ (.tail _ he)⟩
  | ignored _ _ ht => exact ⟨_, (ht.queues hv).imp fun _ he => .tail _ he⟩
  | kept _ _ ht => exact ⟨_, ht.queues hv⟩

theorem call_reasonsQueued {c : ResizeCall}
    (h : (ensureResize F c.cr c.pods).Runs c.events c.out) : ReasonsQueued c := by
  obtain ⟨cr, pods, t, o⟩ := c
  dsimp only at h
  have hempty : ∀ pod, reasonResize ∉ ((({} : ResizeResult).podReasons.lookup pod).getD []) := by
    simp
  by_cases hcr : hasPersistentData cr = true
  · rcases ensureResize_run hcr h with ⟨e, rfl, rfl⟩ | ⟨l, now, t', o', rfl, hloop, -, hreasons, -⟩
    · exact fun pod hpod => absurd hpod (hempty pod)
    -- every reason so far has its event among those of the whole loop
    have hinv := (hloop.forErr_events (R := (· ∈ t')) (Q := fun _ => True)
      (I := fun res => ∀ pod, reasonResize ∈ (res.podReasons.lookup pod).getD [] →
        ∃ name, Queues t' name pod)
      (fun pod hpod => absurd hpod (hempty pod)) (fun _ he => he) ?_).1
    · intro pod hpod
      obtain ⟨name, age, he⟩ := hinv pod (hreasons ▸ hpod)
      exact ⟨name, age, .tail _ (.tail _ he)⟩
    · intro pvc _ res u ou hres hu hrun
      refine ⟨fun pod hpod => ?_, fun _ _ => trivial⟩
      rcases resizePVC_run hrun with ⟨v, hv, rfl⟩ | ⟨err, rfl, -⟩
      · rcases Verdict.record_reasons hpod with hrestarts | hpod
        · obtain ⟨name, age, he⟩ := hv.queues hrestarts
          exact ⟨name, age, hu _ he⟩
        · exact hres pod hpod
      · exact hres pod hpod
  · rw [ensureResize, if_pos hcr] at h
    obtain ⟨rfl, rfl⟩ := runs_ret.1 h
    exact fun pod hpod => absurd hpod (hempty pod)

/-- **Restarts wait for a stalled file system**, in runs where every pending claim of the cluster
was requested no earlier than its condition became true. -/
theorem restarts_justified {F : Formats} {s s' : PVCStore} {ls : List ResizeLabel}
    (hrun : Steps (ResizeStep F) s ls s') (hF : ∀ c, .call c ∈ ls → ReadsBack F c)
    (hcond : ∀ c, .call c ∈ ls → RequestedSince F c) :
    ∀ c, .call c ∈ ls → Justified F c ∧ ReasonsQueued c := by
  intro c hc
  obtain ⟨s1, s2, hrun, hadm, hserved, rfl⟩ := hrun.mem hc
  exact ⟨call_justified hrun hserved (hF c hc) (hcond c hc), call_reasonsQueued hrun⟩

/-! ### A slow expansion -/

theorem resizeA_ns : resizeA.ns = "prod" := rfl

/-- Every patch succeeds. -/
def willing (l : List PersistentVolumeClaim) (now : Time) (_ : PVCStore) : Replies
  | .listPVCs _ => .ok l
  | .patchPVC _ desired => .ok desired
  | .now => now
  | q => q.unavailable

/-- The claim of a-0 after the request. -/
def requestedA0 : PersistentVolumeClaim := requestSize .decimal ⟨20000000000, "20"⟩ 0 (claim "0")

/-- The call that requests size 20. -/
def requestCall : ResizeCall where
  cr := resizeA
  pods := []
  events := [⟨.listPVCs "prod", .ok [claim "0"]⟩, ⟨.now, (0 : Int)⟩,
    ⟨.patchPVC (claim "0") requestedA0, .ok requestedA0⟩,
    ⟨.event (.storageResizeRequested "data-a-0" "10" "20"), ()⟩]
  out := (markWaiting {} "data-a-0" defaultRequeue, none)

/-- The claim whose file system is to grow. -/
def expandedA0 (since : Time) : PersistentVolumeClaim :=
  { requestedA0 with
    capacity := some ⟨20000000000, "20"⟩
    conditions := [{
      type := "FileSystemResizePending", isTrue := true, lastTransitionTime := since }] }

/-- The call that restarts a-0. -/
def restartCall (since : Time) : ResizeCall where
  cr := resizeA
  pods := [{ name := "a-0", ns := "prod" }]
  events := [⟨.listPVCs "prod", .ok [expandedA0 since]⟩, ⟨.now, 10 * minute + second⟩,
    ⟨.event (.storageResizeRestartQueued "data-a-0" "a-0" (10 * minute + second)), ()⟩]
  out := (appendReason (markWaiting {} "data-a-0" defaultRequeue) "a-0" reasonResize, none)

theorem resizeStep_status {F : Formats} {p p' : PersistentVolumeClaim}
    (hget : s.get p.ns p.name = some p) (h : SameSpec p p') :
    ResizeStep F s .status (s.put p') := by
  intro ns name
  have hns : p'.ns = p.ns := by rw [h]
  have hname : p'.name = p.name := by rw [h]
  by_cases hk : ns = p'.ns ∧ name = p'.name
  · obtain ⟨rfl, rfl⟩ := hk
    rw [s.put_get_self p', hns, hname, hget]
    exact .some h
  · rw [s.put_get_ne hk]
    cases s.get ns name with
    | none => exact .none
    | some q => exact .some rfl

/-- A resize whose second part is slow. -/
def slowLabels (since : Time) : List ResizeLabel :=
  [.call requestCall, .status, .call (restartCall since)]

theorem mem_slowLabels {since : Time} {c : ResizeCall} (hc : .call c ∈ slowLabels since) :
    c = requestCall ∨ c = restartCall since := by
  simpa [slowLabels] using hc

theorem requestStep : ResizeStep .decimal (PVCStore.empty.put (claim "0")) (.call requestCall)
    ((PVCStore.empty.put (claim "0")).put requestedA0) := by
  have hrun : (ensureResize .decimal resizeA []).Runs requestCall.events requestCall.out :=
    World.runs_play (W := pvcWorld) (r := willing [claim "0"] 0) .empty _
  exact ⟨hrun, ⟨forall_mem_singleton.2 rfl, trivial, ⟨rfl, rfl, fun _ => rfl⟩, trivial,
    trivial⟩, by simp [requestCall, Served, SameSpec], rfl⟩

theorem slowRun (since : Time)
    (hrestart : (ensureResize .decimal resizeA (restartCall since).pods).Runs
      (restartCall since).events (restartCall since).out) :
    ∃ s', Steps (ResizeStep .decimal) (PVCStore.empty.put (claim "0")) (slowLabels since) s' := by
  have hstored : ((PVCStore.empty.put (claim "0")).put requestedA0).get
      requestedA0.ns requestedA0.name = some requestedA0 := PVCStore.put_get_self _ requestedA0
  have hchange := resizeStep_status (F := .decimal) hstored
    (show SameSpec requestedA0 (expandedA0 since) from rfl)
  have hlast (s : PVCStore) : ResizeStep .decimal (s.put (expandedA0 since))
      (.call (restartCall since)) (s.put (expandedA0 since)) :=
    ⟨hrestart, ⟨forall_mem_singleton.2 (s.put_get_self (expandedA0 since)), trivial, trivial,
      trivial⟩, by simp [restartCall, Served], rfl⟩
  exact ⟨_, ((Steps.nil.snoc requestStep).snoc hchange).snoc (hlast _)⟩

theorem requestTime_expandedA0 (since : Time) :
    requestTime .decimal (expandedA0 since) = some 0 := by
  have hann : (expandedA0 since).annotations = (expandedA0 0).annotations := rfl
  rw [requestTime, hann]
  decide

theorem readsBack_slowRun {since : Time} {c : ResizeCall}
    (hc : .call c ∈ slowLabels since) : ReadsBack .decimal c := by
  intro now hnow
  rcases mem_slowLabels hc with rfl | rfl
  · have hzero : now = 0 := by simpa [requestCall] using hnow
    rw [hzero]
    decide
  · have hlater : now = 10 * minute + second := by simpa [restartCall] using hnow
    rw [hlater]
    decide

/-- A claim that waits since the request is restarted in time. -/
theorem restarts_justified_since_request :
    Justified .decimal (restartCall 0) ∧ ReasonsQueued (restartCall 0) := by
  obtain ⟨s', hrun⟩ := slowRun 0
    (World.runs_play (W := pvcWorld) (r := willing [expandedA0 0] (10 * minute + second)) .empty _)
  refine restarts_justified hrun (fun c hc => readsBack_slowRun hc) ?_ _ (by simp [slowLabels])
  intro c hc l hl p hp _ htarget r hr cond hcond _ _
  rcases mem_slowLabels hc with rfl | rfl
  · obtain rfl : l = [claim "0"] := by simpa [requestCall, resizeA_ns] using hl
    obtain rfl := mem_singleton.1 hp
    cases hcond
  · obtain rfl : l = [expandedA0 0] := by simpa [restartCall, resizeA_ns] using hl
    obtain rfl := mem_singleton.1 hp
    rw [requestTime_expandedA0] at hr
    obtain rfl := Option.some.inj hr
    obtain rfl := mem_singleton.1 hcond
    exact le_rfl

/-- **The grace counts from the request**: the volume takes ten minutes to expand, and a second
after the file system resize becomes pending the pod is restarted. -/
theorem slow_expansion_restarts :
    ∃ s s' ls c, Steps (ResizeStep .decimal) s ls s' ∧ .call c ∈ ls ∧
      (∀ c, .call c ∈ ls → ReadsBack .decimal c) ∧
      reasonResize ∈ (c.out.1.podReasons.lookup "a-0").getD [] ∧ ¬ Justified .decimal c := by
  obtain ⟨s', hrun⟩ := slowRun (10 * minute)
    (World.runs_play (W := pvcWorld)
      (r := willing [expandedA0 (10 * minute)] (10 * minute + second)) .empty _)
  refine ⟨_, s', _, restartCall (10 * minute), hrun, by simp [slowLabels],
    fun c hc => readsBack_slowRun hc, by decide, ?_⟩
  intro hj
  obtain ⟨l, now, p, hl, hnow, hp, -, -, hcause⟩ :=
    hj "data-a-0" "a-0" ⟨_, .tail _ (.tail _ (.head _))⟩
  obtain rfl : l = [expandedA0 (10 * minute)] := by simpa [restartCall, resizeA_ns] using hl
  obtain rfl : now = 10 * minute + second := by simpa [restartCall] using hnow
  obtain rfl := mem_singleton.1 hp
  have hstalled := hcause _ (.head _) rfl rfl
  exact absurd hstalled (by decide)

/-! ## Completions -/

/-- A request for the claim, or a report. -/
def OfClaim (name : String) : Req → Prop
  | .patchPVC base _ => base.name = name
  | .event (.storageResizeCompleted n _) => n = name
  | .event _ => True
  | _ => False

/-- The event is about another claim. -/
def Elsewhere (name : String) (e : Event Op) : Prop := ∃ n, n ≠ name ∧ OfClaim n e.req

/-- The patch succeeds. -/
def PatchOk : Event Op → Prop
  | ⟨.patchPVC _ _, .error _⟩ => False
  | _ => True

/-- The event reports the completion. -/
def isCompletion (name : String) : Event Op → Bool
  | ⟨.event (.storageResizeCompleted n _), _⟩ => n = name
  | _ => false

/-- The completions reported for the claim. -/
def completions (name : String) (ls : List ResizeLabel) : Nat :=
  (ls.map fun
    | .call c => c.events.countP (isCompletion name)
    | .status => 0).sum

/-- The call sees the claim, after its own request, with the desired size and no pending file system
resize. -/
def Observes (F : Formats) (d : Quantity) (name : String) (c : ResizeCall) : Prop :=
  ∃ p : PersistentVolumeClaim, p.name = name ∧ ¬ Unfinished d p ∧
    ((∃ base now, ⟨.patchPVC base (requestSize F d now base), .ok p⟩ ∈ c.events) ∨
      ∃ l, ⟨.listPVCs c.cr.ns, .ok l⟩ ∈ c.events ∧ p ∈ l ∧ d.amount ≤ requested p)

/-- The call is for the claim's cluster, with the desired size `d`, and no patch fails. -/
structure ResizesTo (F : Formats) (d : Quantity) (ns name : String) (c : ResizeCall) : Prop where
  persistent : hasPersistentData c.cr = true
  ns : c.cr.ns = ns
  desired : desiredStorageQuantity F c.cr = d
  listed : ∃ l p, ⟨.listPVCs c.cr.ns, .ok l⟩ ∈ c.events ∧ p ∈ l ∧ p.name = name ∧
    pvcBelongsToCluster c.cr p = true
  patchOk : ∀ e ∈ c.events, PatchOk e
  /-- The text of a time is not empty. -/
  stamped : ∀ now, ⟨.now, now⟩ ∈ c.events → F.formatTime .rfc3339Nano now ≠ ""

section
variable {podName : String} {l : List PersistentVolumeClaim} {res : ResizeResult}
  {o : ResizeResult × Option Error}

theorem SameSpec.name_eq {p' : PersistentVolumeClaim} (h : SameSpec p p') : p'.name = p.name := by
  rw [h]

theorem TrackRun.ofClaim (h : TrackRun F desired pods now podName p t) :
    ∀ e ∈ t, OfClaim p.name e.req := by
  cases h with
  | idle | waiting | done => exact forall_mem_nil _
  | restart => exact forall_mem_singleton.2 trivial
  | completed => exact forall_mem_cons.2 ⟨rfl, forall_mem_singleton.2 rfl⟩
  | cleared => exact forall_mem_singleton.2 rfl

theorem ClaimRun.ofClaim (h : ClaimRun F cr desired pods now p t v) (hserved : ∀ e ∈ t, Served e) :
    ∀ e ∈ t, OfClaim p.name e.req := by
  cases h with
  | terminating => exact forall_mem_nil _
  | conflict => exact forall_mem_singleton.2 rfl
  | throttled => exact forall_mem_cons.2 ⟨rfl, forall_mem_singleton.2 trivial⟩
  | grown hdel hlt ht =>
    have hspec : SameSpec (requestSize F desired now p) _ := hserved _ (.head _)
    have hname := hspec.name_eq
    have htrack := ht.ofClaim
    rw [hname] at htrack
    exact forall_mem_cons.2 ⟨rfl, forall_mem_cons.2 ⟨trivial, htrack⟩⟩
  | ignored hdel hgt ht => exact forall_mem_cons.2 ⟨trivial, ht.ofClaim⟩
  | kept hdel heq ht => exact ht.ofClaim

theorem loop_ofClaim (h : (Prog.forErr (resizePVC F cr desired pods now) l res).Runs t o)
    (hserved : ∀ e ∈ t, Served e) : ∀ e ∈ t, ∃ q ∈ l, OfClaim q.name e.req := by
  refine (h.forErr_events (I := fun _ => True) (R := Served)
    (Q := fun e => ∃ q ∈ l, OfClaim q.name e.req) trivial hserved ?_).2
  intro pvc hpvc res t o _ hR hrun
  refine ⟨trivial, fun e he => ⟨pvc, hpvc, ?_⟩⟩
  rcases resizePVC_run hrun with ⟨v, hv, -⟩ | ⟨err, -, -, -, rfl⟩
  · exact hv.ofClaim hR e he
  · obtain rfl := mem_singleton.1 he
    rfl

theorem pvcWorld_frame {ns name : String} (hserved : ∀ e ∈ t, SamePVC e)
    (h : ∀ e ∈ t, Elsewhere name e) : (pvcWorld.after s t).get ns name = s.get ns name := by
  refine World.after_inv (W := pvcWorld) (I := fun s' => s'.get ns name = s.get ns name) rfl ?_
  rintro ⟨q, r⟩ he s' hget
  obtain ⟨n, hne, hof⟩ := h _ he
  cases q with
  | patchPVC base desired =>
    match r with
    | .error _ => exact hget
    | .ok p =>
      have hname : p.name = base.name := (hserved _ he _ _ _ rfl).2
      have hbase : base.name = n := hof
      refine (s'.put_get_ne fun hk => hne ?_).trans hget
      rw [← hbase, ← hname, hk.2]
  | deletePVC ns' name' => exact hof.elim
  | _ => exact hget

theorem isCompletion_of_elsewhere {name : String} {e : Event Op} (h : Elsewhere name e) :
    isCompletion name e = false := by
  obtain ⟨n, hne, hof⟩ := h
  obtain ⟨q, r⟩ := e
  cases q with
  | event ev =>
    cases ev with
    | storageResizeCompleted n' size =>
      obtain rfl : n' = n := hof
      exact decide_eq_false hne
    | _ => rfl
  | _ => rfl

theorem countP_of_elsewhere {name : String} (h : ∀ e ∈ t, Elsewhere name e) :
    t.countP (isCompletion name) = 0 := by
  refine countP_eq_zero.2 fun e he => ?_
  rw [isCompletion_of_elsewhere (h e he)]
  exact Bool.false_ne_true

end

/-! ### The claim's part of a call -/

theorem call_claim (hstep : ResizeStep F s (.call c) s') (hto : ResizesTo F d ns name c)
    (hp : s.get ns name = some p) :
    ∃ l now t1 t t2 v, c.events = ⟨.listPVCs c.cr.ns, .ok l⟩ :: ⟨.now, now⟩ :: (t1 ++ (t ++ t2)) ∧
      (l.map (·.name)).Nodup ∧ p ∈ l ∧ (∀ e ∈ t1, Elsewhere name e) ∧
      (∀ e ∈ t2, Elsewhere name e) ∧ ClaimRun F c.cr d c.pods now p t v := by
  obtain ⟨cr, pods, events, out⟩ := c
  obtain ⟨hpersistent, rfl, rfl, ⟨l', q, hl', hq, hqname, hbelongs⟩, hok, -⟩ := hto
  obtain ⟨hrun, hadm, hserved, rfl⟩ := hstep
  dsimp only at *
  rcases ensureResize_run hpersistent hrun with ⟨e, rfl, -⟩ | ⟨l, now, t, o, rfl, hloop, -⟩
  · simp at hl'
  have hservedLoop : ∀ e ∈ t, Served e := fun e he => hserved e (.tail _ (.tail _ he))
  have hnone : o.2 = none := loop_none hloop fun e he => by
    have hpok := hok e (.tail _ (.tail _ he))
    obtain ⟨q, r⟩ := e
    cases q with
    | patchPVC =>
      match r with
      | .error _ => exact hpok.elim
      | .ok _ => trivial
    | _ => trivial
  obtain ⟨res, err⟩ := o
  obtain rfl : err = none := hnone
  -- the claim that the call lists under the name is the stored one
  have hof := loop_ofClaim hloop hservedLoop
  have hlist : l' = l := by
    rcases mem_cons.1 hl' with heq | hmem
    · simpa using heq
    rcases mem_cons.1 hmem with heq | hmem
    · cases heq
    · obtain ⟨_, -, hfalse⟩ := hof _ hmem
      exact hfalse.elim
  subst hlist
  have hstored := hadm.1 q hq
  rw [hqname, hp] at hstored
  obtain rfl : p = q := Option.some.inj hstored
  have hnodup : (l'.map (·.name)).Nodup := hserved _ (.head _)
  have hfiltered : ((l'.filter (pvcBelongsToCluster cr)).map (·.name)).Nodup :=
    hnodup.sublist ((filter_sublist).map _)
  obtain ⟨l1, l2, res1, res2, t1, t2, t3, hsplit, rfl, h1, h2, h3⟩ :=
    hloop.forErr_mem (mem_filter.2 ⟨hq, hbelongs⟩)
  rw [hsplit, map_append, map_cons, nodup_append] at hfiltered
  obtain ⟨-, hrest, hdisjoint⟩ := hfiltered
  rw [forall_mem_append, forall_mem_append] at hservedLoop
  rcases resizePVC_run h2 with ⟨v, hv, -⟩ | ⟨err, heq, -⟩
  · refine ⟨l', now, t1, t2, t3, v, rfl, hnodup, hq, fun e he => ?_, fun e he => ?_, hv⟩
    · obtain ⟨q', hq', hofq⟩ := loop_ofClaim h1 hservedLoop.1 e he
      refine ⟨q'.name, fun heq => ?_, hofq⟩
      exact hdisjoint _ (mem_map_of_mem hq') _ (.head _) (heq.trans hqname.symm)
    · obtain ⟨q', hq', hofq⟩ := loop_ofClaim h3 hservedLoop.2.2 e he
      refine ⟨q'.name, fun heq => ?_, hofq⟩
      refine (nodup_cons.1 hrest).1 ?_
      rw [hqname, ← heq]
      exact mem_map_of_mem hq'
  · cases heq

/-- The time at which the claim's resize was marked complete; empty without the mark. -/
def completedAt (p : PersistentVolumeClaim) : String :=
  Map.str p.annotations annotationPVCResizeCompletedAt

/-- The claim's resize to `d` is being tracked. -/
structure Tracked (d : Quantity) (p : PersistentVolumeClaim) : Prop where
  live : p.deletionTimestamp = none
  size : requested p = d.amount
  target : Targets d p

section
variable {p' : PersistentVolumeClaim}

theorem SameSpec.tracked (h : SameSpec p p') (hp : Tracked d p) : Tracked d p' := by
  obtain ⟨hlive, hsize, htarget⟩ := hp
  rw [h]
  exact ⟨hlive, hsize, htarget⟩

theorem SameSpec.completedAt (h : SameSpec p p') : completedAt p' = completedAt p := by
  rw [h]
  rfl

theorem requestSize_tracked (hlive : p.deletionTimestamp = none) :
    Tracked d (requestSize F d now p) where
  live := hlive
  size := rfl
  target := by
    show Map.str ((p.annotations.insert _ _).insert _ _) _ = _
    rw [Map.str_insert_ne _ _ (by decide), Map.str_insert_self]

theorem requestSize_completedAt : completedAt (requestSize F d now p) = completedAt p := by
  show Map.str ((p.annotations.insert _ _).insert _ _) _ = _
  rw [Map.str_insert_ne _ _ (by decide), Map.str_insert_ne _ _ (by decide)]
  rfl

theorem completeResize_tracked (hp : Tracked d p) : Tracked d (completeResize F now p) where
  live := hp.live
  size := hp.size
  target := by
    show Map.str ((p.annotations.insert _ _).erase _) _ = _
    rw [Map.str, Finmap.lookup_erase_ne (by decide), Finmap.lookup_insert_of_ne _ (by decide)]
    exact hp.target

theorem completeResize_completedAt :
    completedAt (completeResize F now p) = F.formatTime .rfc3339Nano now := by
  show Map.str ((p.annotations.insert _ _).erase _) _ = _
  rw [Map.str, Finmap.lookup_erase_ne (by decide), Finmap.lookup_insert]
  rfl

/-- A request is not a completion: it leaves the time of the request. -/
theorem requestSize_ne_completeResize {now' : Time} :
    requestSize F d now p ≠ completeResize F now' p' := by
  intro h
  have hlookup := congrArg
    (fun q : PersistentVolumeClaim => q.annotations.lookup annotationPVCResizeRequestedAt) h
  simp [requestSize, completeResize, Finmap.lookup_erase] at hlookup

theorem TrackRun.effect {pods : List Pod} {podName : String}
    (ht : TrackRun F d pods now podName p t) (hserved : ∀ e ∈ t, Served e)
    (hok : ∀ e ∈ t, PatchOk e) (hfmt : F.formatTime .rfc3339Nano now ≠ "") (hp : Tracked d p)
    (hs : s.get p.ns p.name = some p) :
    ∃ p', (pvcWorld.after s t).get p.ns p.name = some p' ∧ Tracked d p' ∧
      (completedAt p' = "" ↔ completedAt p = "" ∧ Unfinished d p) ∧
      t.countP (isCompletion p.name) = if completedAt p = "" ∧ ¬ Unfinished d p then 1 else 0 := by
  -- the patch that marks the completion
  have hmark : ∀ r, Served ⟨.patchPVC p (completeResize F now p), r⟩ →
      PatchOk ⟨.patchPVC p (completeResize F now p), r⟩ →
      ∃ p', (pvcWorld.step s ⟨.patchPVC p (completeResize F now p), r⟩).get p.ns p.name = some p' ∧
        Tracked d p' ∧ completedAt p' ≠ "" := by
    intro r hspec hpok
    match r with
    | .error _ => exact hpok.elim
    | .ok p' =>
      have hspec : SameSpec (completeResize F now p) p' := hspec
      have hns : p'.ns = p.ns := by rw [hspec]; rfl
      have hname : p'.name = p.name := hspec.name_eq
      refine ⟨p', ?_, hspec.tracked (completeResize_tracked hp), ?_⟩
      · rw [← hns, ← hname]
        exact s.put_get_self p'
      · rw [hspec.completedAt, completeResize_completedAt]
        exact hfmt
  cases ht with
  | idle h => exact absurd hp.target h
  | waiting h hw hr => exact ⟨p, hs, hp, by simp [hw], by simp [hw]⟩
  | restart h hw hr => exact ⟨p, hs, hp, by simp [hw], by simp [hw, isCompletion]⟩
  | completed h hw hc r =>
    obtain ⟨p', hget, htracked, hne⟩ := hmark r (hserved _ (.tail _ (.head _)))
      (hok _ (.tail _ (.head _)))
    have hempty : completedAt p = "" := hc
    exact ⟨p', hget, htracked, by simp [hne, hw], by simp [hw, hempty, isCompletion]⟩
  | cleared h hw hc hq r =>
    obtain ⟨p', hget, htracked, hne⟩ := hmark r (hserved _ (.head _)) (hok _ (.head _))
    have hset : completedAt p ≠ "" := hc
    exact ⟨p', hget, htracked, by simp [hne, hw], by simp [hset, isCompletion]⟩
  | done h hw hc hq =>
    have hset : completedAt p ≠ "" := hc
    exact ⟨p, hs, hp, by simp [hset], by simp [hset]⟩

/-- The resize is tracked or still to come. -/
def Resizable (d : Quantity) (p : PersistentVolumeClaim) : Prop :=
  Tracked d p ∨ p.deletionTimestamp = none ∧ requested p < d.amount

theorem TrackRun.no_request {pods : List Pod} {podName : String} {base : PersistentVolumeClaim}
    {now' : Time} {r : Result PersistentVolumeClaim} (ht : TrackRun F d pods now podName p t) :
    ⟨.patchPVC base (requestSize F d now' base), r⟩ ∉ t := by
  intro hmem
  cases ht with
  | idle | waiting | done => cases hmem
  | restart => simp at hmem
  | completed | cleared =>
    simp only [mem_cons, Event.mk.injEq, Req.patchPVC.injEq, reduceCtorEq, false_and, false_or,
      not_mem_nil, or_false] at hmem
    exact requestSize_ne_completeResize hmem.1.2

/-- The loop body looks at one claim after its request: the patched one, or the listed one when it
requests nothing. -/
theorem ClaimRun.looks_at {cr : KeyValCluster} {pods : List Pod} {v : Verdict}
    (h : ClaimRun F cr d pods now p t v) (hserved : ∀ e ∈ t, Served e)
    (hok : ∀ e ∈ t, PatchOk e) (hp : Resizable d p) (hs : s.get p.ns p.name = some p) :
    ∃ q t0 t', t = t0 ++ t' ∧ TrackRun F d pods now (resizePodName cr p) q t' ∧ Tracked d q ∧
      q.ns = p.ns ∧ q.name = p.name ∧ completedAt q = completedAt p ∧
      (pvcWorld.after s t0).get p.ns p.name = some q ∧ t0.countP (isCompletion p.name) = 0 ∧
      ∀ q', ((∃ base now', ⟨.patchPVC base (requestSize F d now' base), .ok q'⟩ ∈ t) ∨
        q' = p ∧ d.amount ≤ requested p) ↔ q' = q := by
  cases h with
  | terminating hdel =>
    have hlive : p.deletionTimestamp = none := hp.elim (·.live) (·.1)
    rw [hlive] at hdel
    cases hdel
  | conflict => exact (hok _ (.head _)).elim
  | throttled => exact (hok _ (.head _)).elim
  | grown hdel hlt ht =>
    rename_i q t'
    have hspec : SameSpec (requestSize F d now p) q := hserved _ (.head _)
    have hns : q.ns = p.ns := by rw [hspec]; rfl
    have hname : q.name = p.name := hspec.name_eq
    refine ⟨q, [_, _], t', rfl, ht,
      hspec.tracked (requestSize_tracked (Option.isNone_iff_eq_none.1 hdel)), hns, hname,
      hspec.completedAt.trans requestSize_completedAt, ?_, rfl, fun q' => ⟨?_, ?_⟩⟩
    · rw [← hns, ← hname]
      exact s.put_get_self q
    · rintro (⟨base, now', hmem⟩ | ⟨-, hle⟩)
      · rcases mem_cons.1 hmem with heq | hmem
        · simp only [Event.mk.injEq, Req.patchPVC.injEq] at heq
          obtain ⟨⟨rfl, -⟩, heq⟩ := heq
          simpa using heq
        · rcases mem_cons.1 hmem with heq | hmem
          · cases heq
          · exact absurd hmem ht.no_request
      · exact absurd hlt hle.not_gt
    · rintro rfl
      exact .inl ⟨p, now, .head _⟩
  | ignored hdel hgt ht =>
    rcases hp with hp | hp
    · exact absurd hgt hp.size.le.not_gt
    · exact absurd hgt hp.2.not_gt
  | kept hdel heq ht =>
    rcases hp with hp | hp
    · refine ⟨p, [], t, rfl, ht, hp, rfl, rfl, rfl, hs, rfl, fun q' => ⟨?_, ?_⟩⟩
      · rintro (⟨base, now', hmem⟩ | ⟨rfl, -⟩)
        · exact absurd hmem ht.no_request
        · rfl
      · rintro rfl
        exact .inr ⟨rfl, heq.ge⟩
    · exact absurd hp.2 heq.not_lt

end

section
variable {ls : List ResizeLabel}

theorem observes_iff {l : List PersistentVolumeClaim} {now : Time} {t1 t t2 : Trace}
    {q : PersistentVolumeClaim}
    (hevents : c.events = ⟨.listPVCs c.cr.ns, .ok l⟩ :: ⟨.now, now⟩ :: (t1 ++ (t ++ t2)))
    (hserved : ∀ e ∈ c.events, Served e) (hnodup : (l.map (·.name)).Nodup) (hmem : p ∈ l)
    (h1 : ∀ e ∈ t1, Elsewhere p.name e) (h2 : ∀ e ∈ t2, Elsewhere p.name e)
    (ht : ∀ e ∈ t, OfClaim p.name e.req) (hname : q.name = p.name)
    (hlooks : ∀ q', ((∃ base now', ⟨.patchPVC base (requestSize F d now' base), .ok q'⟩ ∈ t) ∨
      q' = p ∧ d.amount ≤ requested p) ↔ q' = q) :
    Observes F d p.name c ↔ ¬ Unfinished d q := by
  have hrest : ∀ e ∈ t1 ++ (t ++ t2), ∃ n, OfClaim n e.req := by
    simp only [forall_mem_append]
    exact ⟨fun e he => ⟨_, (h1 e he).choose_spec.2⟩, fun e he => ⟨_, ht e he⟩,
      fun e he => ⟨_, (h2 e he).choose_spec.2⟩⟩
  have hpatch : ∀ base d' q', q'.name = p.name → ⟨.patchPVC base d', .ok q'⟩ ∈ c.events →
      base.name = d'.name → ⟨.patchPVC base d', .ok q'⟩ ∈ t := by
    intro base d' q' hq' he hbase
    have hspec : SameSpec d' q' := hserved _ he
    have hof : base.name = p.name := hbase.trans (hspec.name_eq.symm.trans hq')
    have hnot : ¬ Elsewhere p.name ⟨.patchPVC base d', .ok q'⟩ := fun ⟨n, hne, hn⟩ =>
      hne (hn.symm.trans hof)
    rw [hevents] at he
    simp only [mem_cons, Event.mk.injEq, reduceCtorEq, false_and, false_or, mem_append] at he
    rcases he with he | he | he
    · exact absurd (h1 _ he) hnot
    · exact he
    · exact absurd (h2 _ he) hnot
  constructor
  · rintro ⟨q', hq', hfin, ⟨base, now', he⟩ | ⟨l', he, hql, hle⟩⟩
    · obtain rfl : q' = q := (hlooks q').1 (.inl ⟨base, now', hpatch _ _ _ hq' he rfl⟩)
      exact hfin
    · have hl' : l' = l := by
        rw [hevents] at he
        rcases mem_cons.1 he with heq | he
        · simpa using heq
        rcases mem_cons.1 he with heq | he
        · cases heq
        · obtain ⟨n, hn⟩ := hrest _ he
          exact hn.elim
      subst hl'
      obtain rfl : q' = p := inj_on_of_nodup_map hnodup hql hmem hq'
      obtain rfl : q' = q := (hlooks q').1 (.inr ⟨rfl, hle⟩)
      exact hfin
  · intro hfin
    refine ⟨q, hname, hfin, ?_⟩
    rw [hevents]
    rcases (hlooks q).2 rfl with ⟨base, now', he⟩ | ⟨rfl, hle⟩
    · exact .inl ⟨base, now', .tail _ (.tail _ (mem_append_right _ (mem_append_left _ he)))⟩
    · exact .inr ⟨l, .head _, hmem, hle⟩

theorem call_effect (hstep : ResizeStep F s (.call c) s') (hto : ResizesTo F d ns name c)
    (hget : s.get ns name = some p) (hp : Resizable d p) :
    ∃ p', s'.get ns name = some p' ∧ Tracked d p' ∧
      (completedAt p' = "" ↔ completedAt p = "" ∧ ¬ Observes F d name c) ∧
      (Observes F d name c ∧ completedAt p = "" ∧ c.events.countP (isCompletion name) = 1 ∨
        ¬ (Observes F d name c ∧ completedAt p = "") ∧
          c.events.countP (isCompletion name) = 0) := by
  obtain ⟨l, now, t1, t, t2, v, hevents, hnodup, hmem, h1, h2, hv⟩ := call_claim hstep hto hget
  obtain ⟨hrun, hadm, hserved, rfl⟩ := hstep
  have hok := hto.patchOk
  have hfmt := hto.stamped now (by rw [hevents]; exact .tail _ (.head _))
  have hsame := World.Admits.mem _ samePVC_of_ok hadm
  obtain ⟨rfl, rfl⟩ := s.wf hget
  have hservedAll := hserved
  rw [hevents] at hserved hok hsame
  simp only [forall_mem_cons, forall_mem_append] at hserved hok hsame
  obtain ⟨-, -, hserved1, hserved, hserved2⟩ := hserved
  obtain ⟨-, -, hok1, hok, hok2⟩ := hok
  obtain ⟨-, -, hsame1, hsame, hsame2⟩ := hsame
  have hframe1 : (pvcWorld.after s t1).get p.ns p.name = some p := by
    rw [pvcWorld_frame hsame1 h1, hget]
  obtain ⟨q, t0, t', ht, htrack, hq, hqns, hqname, hqc, hafter, hcount0, hlooks⟩ :=
    hv.looks_at hserved hok hp hframe1
  rw [ht, forall_mem_append] at hok
  have hserved' := hserved
  rw [ht, forall_mem_append] at hserved'
  rw [← hqns, ← hqname] at hafter
  obtain ⟨p', hget', htracked, hcompleted, hcount⟩ :=
    htrack.effect hserved'.2 hok.2 hfmt hq hafter
  have hobs : Observes F d p.name c ↔ ¬ Unfinished d q :=
    observes_iff hevents hservedAll hnodup hmem h1 h2 (hv.ofClaim hserved) hqname hlooks
  have hcountAll : c.events.countP (isCompletion p.name) = t'.countP (isCompletion q.name) := by
    have hlist : isCompletion p.name ⟨.listPVCs c.cr.ns, .ok l⟩ = false := rfl
    have hnow : isCompletion p.name ⟨.now, now⟩ = false := rfl
    rw [hevents, countP_cons, countP_cons, countP_append, countP_append, ht,
      countP_append, countP_of_elsewhere h1, countP_of_elsewhere h2, hcount0, hqname, hlist,
      hnow]
    simp
  have hgetAll : (pvcWorld.after s c.events).get p.ns p.name = some p' := by
    rw [hevents, World.after_cons, World.after_cons, World.after_append, World.after_append,
      pvcWorld_frame hsame2 h2, ht, World.after_append]
    rw [hqns, hqname] at hget'
    exact hget'
  refine ⟨p', hgetAll, htracked, ?_, ?_⟩
  · rw [hcompleted, hqc, hobs, not_not]
  · rw [hcountAll, hcount, hqc, hobs]
    by_cases hcase : completedAt p = "" ∧ ¬ Unfinished d q
    · exact .inl ⟨hcase.2, hcase.1, if_pos hcase⟩
    · exact .inr ⟨fun h => hcase h.symm, if_neg hcase⟩

/-- The calls of a run that observe the resize. -/
def Observed (F : Formats) (d : Quantity) (name : String) (ls : List ResizeLabel) : Prop :=
  ∃ c, .call c ∈ ls ∧ Observes F d name c

theorem observed_concat {l : ResizeLabel} :
    Observed F d name (ls ++ [l]) ↔
      Observed F d name ls ∨ ∃ c, l = .call c ∧ Observes F d name c := by
  simp only [Observed, mem_append, mem_singleton, or_and_right, exists_or, eq_comm]

theorem completions_concat {l : ResizeLabel} :
    completions name (ls ++ [l]) = completions name ls + completions name [l] := by
  simp [completions]

/-- The claim and the reports after some labels of a resize. At its request the claim carried no
completion mark if `unmarked`. -/
structure Followed (F : Formats) (d : Quantity) (ns name : String) (unmarked : Prop)
    (ls : List ResizeLabel) (s : PVCStore) : Prop where
  stored : ∃ p, s.get ns name = some p ∧ Resizable d p ∧
    (completedAt p = "" ↔ unmarked ∧ ¬ Observed F d name ls)
  once : Observed F d name ls ∧ unmarked ∧ completions name ls = 1 ∨
    ¬ (Observed F d name ls ∧ unmarked) ∧ completions name ls = 0

theorem Followed.call {unmarked : Prop} (h : Followed F d ns name unmarked ls s)
    (hstep : ResizeStep F s (.call c) s') (hto : ResizesTo F d ns name c) :
    Followed F d ns name unmarked (ls ++ [.call c]) s' := by
  obtain ⟨⟨p, hget, hp, hmark⟩, honce⟩ := h
  obtain ⟨p', hget', hp', hmark', hcount⟩ := call_effect hstep hto hget hp
  have hone : completions name [.call c] = c.events.countP (isCompletion name) := by
    simp [completions]
  have hobs : Observed F d name (ls ++ [.call c]) ↔ Observed F d name ls ∨ Observes F d name c := by
    simp [observed_concat]
  refine ⟨⟨p', hget', .inl hp', ?_⟩, ?_⟩
  · rw [hmark', hmark, hobs, not_or, and_assoc]
  · rw [hobs, completions_concat, hone]
    rcases honce with ⟨hbefore, hun, hn⟩ | ⟨hbefore, hn⟩
    · -- reported before: the claim is marked now
      rcases hcount with ⟨-, hempty, -⟩ | ⟨-, hzero⟩
      · exact absurd hbefore (hmark.1 hempty).2
      · exact .inl ⟨.inl hbefore, hun, by rw [hn, hzero]⟩
    · rcases hcount with ⟨hseen, hempty, hcount⟩ | ⟨hnot, hzero⟩
      · exact .inl ⟨.inr hseen, (hmark.1 hempty).1, by rw [hn, hcount]⟩
      · refine .inr ⟨?_, by rw [hn, hzero]⟩
        rintro ⟨hseen | hseen, hun⟩
        · exact hbefore ⟨hseen, hun⟩
        · exact hnot ⟨hseen, hmark.2 ⟨hun, fun hprev => hbefore ⟨hprev, hun⟩⟩⟩

theorem Followed.status {unmarked : Prop} (h : Followed F d ns name unmarked ls s)
    (hstep : ResizeStep F s .status s') : Followed F d ns name unmarked (ls ++ [.status]) s' := by
  obtain ⟨⟨p, hget, hp, hmark⟩, honce⟩ := h
  have hobs : Observed F d name (ls ++ [.status]) ↔ Observed F d name ls := by
    simp [observed_concat]
  have hrel := hstep ns name
  rw [hget] at hrel
  generalize hget' : s'.get ns name = o at hrel
  cases hrel with
  | some hspec =>
    rename_i p'
    have hp' : Resizable d p' := by
      rcases hp with hp | ⟨hlive, hlt⟩
      · exact .inl (hspec.tracked hp)
      · rw [hspec]
        exact .inr ⟨hlive, hlt⟩
    refine ⟨⟨p', hget', hp', ?_⟩, ?_⟩
    · rw [hspec.completedAt, hmark, hobs]
    · rw [hobs, completions_concat]
      exact honce

/-- **One completion per resize, if the claim is not marked**: in the calls that ask for a size
larger than the claim's, from the request on, the completion is reported once when it is observed
and never otherwise, if and only if the claim carries no completion mark at the request, or the
completion is not observed. -/
theorem resize_completes_iff (hrun : Steps (ResizeStep F) s ls s')
    (hto : ∀ c, .call c ∈ ls → ResizesTo F d ns name c) (hget : s.get ns name = some p)
    (hlive : p.deletionTimestamp = none) (hlt : requested p < d.amount) :
    ((Observed F d name ls → completions name ls = 1) ∧
      (¬ Observed F d name ls → completions name ls = 0)) ↔
    (Observed F d name ls → completedAt p = "") := by
  have hstart : Followed F d ns name (completedAt p = "") [] s := by
    refine ⟨⟨p, hget, .inr ⟨hlive, hlt⟩, ?_⟩, .inr ⟨?_, rfl⟩⟩
    · simp [Observed]
    · simp [Observed]
  have hfollowed : Followed F d ns name (completedAt p = "") ls s' := by
    refine hrun.invariant (C := fun l => ∀ c, l = .call c → ResizesTo F d ns name c)
      (fun l hl c hc => hto c (hc ▸ hl)) hstart ?_
    intro ls1 s1 l s2 _ hI hC hstep
    cases l with
    | call c => exact hI.call hstep (hC c rfl)
    | status => exact hI.status hstep
  have honce := hfollowed.once
  constructor
  · rintro ⟨hseen, -⟩ hobs
    rcases honce with ⟨-, hempty, -⟩ | ⟨-, hzero⟩
    · exact hempty
    · exact absurd (hseen hobs) (by rw [hzero]; decide)
  · intro hmark
    rcases honce with ⟨hobs, -, hone⟩ | ⟨hnot, hzero⟩
    · exact ⟨fun _ => hone, fun hno => absurd hobs hno⟩
    · exact ⟨fun hobs => absurd ⟨hobs, hmark hobs⟩ hnot, fun _ => hzero⟩

end

/-! ### Two resizes -/

/-- The cluster with size 30. -/
def resizeA30 : KeyValCluster :=
  { resizeA with spec := { resizeA.spec with storage := some { size := some "30" } } }

/-- The claim with this capacity. -/
def withCapacity (n : Int) (text : String) (p : PersistentVolumeClaim) : PersistentVolumeClaim :=
  { p with capacity := some ⟨n, text⟩ }

/-- The claim grown to 20. -/
def grown20 : PersistentVolumeClaim := withCapacity 20000000000 "20" requestedA0
/-- The same, marked as complete. -/
def complete20 : PersistentVolumeClaim := completeResize .decimal (1 * minute) grown20
/-- Size 30 is requested for it. -/
def requested30 : PersistentVolumeClaim :=
  requestSize .decimal ⟨30000000000, "30"⟩ (2 * minute) complete20
/-- The claim grown to 30. -/
def grown30 : PersistentVolumeClaim := withCapacity 30000000000 "30" requested30

/-- The call that completes the resize to 20. -/
def completeCall : ResizeCall where
  cr := resizeA
  pods := []
  events := [⟨.listPVCs "prod", .ok [grown20]⟩, ⟨.now, 1 * minute⟩,
    ⟨.event (.storageResizeCompleted "data-a-0" "20"), ()⟩,
    ⟨.patchPVC grown20 complete20, .ok complete20⟩]
  out := ({}, none)

/-- The call that requests size 30. -/
def requestCall30 : ResizeCall where
  cr := resizeA30
  pods := []
  events := [⟨.listPVCs "prod", .ok [complete20]⟩, ⟨.now, 2 * minute⟩,
    ⟨.patchPVC complete20 requested30, .ok requested30⟩,
    ⟨.event (.storageResizeRequested "data-a-0" "20" "30"), ()⟩]
  out := (markWaiting {} "data-a-0" defaultRequeue, none)

/-- The call that reports no completion. -/
def silentCall : ResizeCall where
  cr := resizeA30
  pods := []
  events := [⟨.listPVCs "prod", .ok [grown30]⟩, ⟨.now, 3 * minute⟩,
    ⟨.patchPVC grown30 (completeResize .decimal (3 * minute) grown30),
      .ok (completeResize .decimal (3 * minute) grown30)⟩]
  out := ({}, none)

theorem completeStep (s : PVCStore) : ResizeStep .decimal (s.put grown20) (.call completeCall)
    ((s.put grown20).put complete20) := by
  have hrun : (ensureResize .decimal resizeA []).Runs completeCall.events completeCall.out :=
    World.runs_play (W := pvcWorld) (r := willing [grown20] (1 * minute)) .empty _
  exact ⟨hrun, ⟨forall_mem_singleton.2 (s.put_get_self grown20), trivial, trivial,
    ⟨rfl, rfl, fun _ => rfl⟩, trivial⟩, by simp [completeCall, Served, SameSpec], rfl⟩

theorem requestStep30 (s : PVCStore) : ResizeStep .decimal (s.put complete20) (.call requestCall30)
    ((s.put complete20).put requested30) := by
  have hrun : (ensureResize .decimal resizeA30 []).Runs requestCall30.events requestCall30.out :=
    World.runs_play (W := pvcWorld) (r := willing [complete20] (2 * minute)) .empty _
  exact ⟨hrun, ⟨forall_mem_singleton.2 (s.put_get_self complete20), trivial,
    ⟨rfl, rfl, fun _ => rfl⟩, trivial, trivial⟩, by simp [requestCall30, Served, SameSpec], rfl⟩

theorem silentStep (s : PVCStore) : ResizeStep .decimal (s.put grown30) (.call silentCall)
    ((s.put grown30).put (completeResize .decimal (3 * minute) grown30)) := by
  have hrun : (ensureResize .decimal resizeA30 []).Runs silentCall.events silentCall.out :=
    World.runs_play (W := pvcWorld) (r := willing [grown30] (3 * minute)) .empty _
  exact ⟨hrun, ⟨forall_mem_singleton.2 (s.put_get_self grown30), trivial,
    ⟨rfl, rfl, fun _ => rfl⟩, trivial⟩, by simp [silentCall, Served, SameSpec], rfl⟩

/-- The resize to 20. -/
def firstResize : List ResizeLabel := [.call requestCall, .status, .call completeCall]
/-- The resize to 30. -/
def secondResize : List ResizeLabel := [.call requestCall30, .status, .call silentCall]

theorem firstRun : ∃ s : PVCStore, Steps (ResizeStep .decimal)
    (PVCStore.empty.put (claim "0")) firstResize (s.put complete20) := by
  have hchange := resizeStep_status (F := .decimal)
    ((PVCStore.empty.put (claim "0")).put_get_self requestedA0)
    (show SameSpec requestedA0 grown20 from rfl)
  exact ⟨_, ((Steps.nil.snoc requestStep).snoc hchange).snoc (completeStep _)⟩

theorem secondRun (s : PVCStore) : ∃ s', Steps (ResizeStep .decimal) (s.put complete20)
    secondResize s' := by
  have hchange := resizeStep_status (F := .decimal) ((s.put complete20).put_get_self requested30)
    (show SameSpec requested30 grown30 from rfl)
  exact ⟨_, ((Steps.nil.snoc (requestStep30 s)).snoc hchange).snoc (silentStep _)⟩

theorem resizesTo_single (F : Formats) (c : ResizeCall) (p : PersistentVolumeClaim) (now : Time)
    (t : Trace) (hcr : hasPersistentData c.cr = true)
    (hevents : c.events = ⟨.listPVCs c.cr.ns, .ok [p]⟩ :: ⟨.now, now⟩ :: t)
    (hp : pvcBelongsToCluster c.cr p = true) (ht : ∀ e ∈ t, PatchOk e ∧ e.req ≠ .now)
    (hfmt : F.formatTime .rfc3339Nano now ≠ "") :
    ResizesTo F (desiredStorageQuantity F c.cr) c.cr.ns p.name c where
  persistent := hcr
  ns := rfl
  desired := rfl
  listed := ⟨[p], p, hevents ▸ .head _, .head _, rfl, hp⟩
  patchOk := by
    rw [hevents]
    exact forall_mem_cons.2 ⟨trivial, forall_mem_cons.2 ⟨trivial, fun e he => (ht e he).1⟩⟩
  stamped := by
    intro now' hmem
    rw [hevents] at hmem
    rcases mem_cons.1 hmem with heq | hmem
    · cases heq
    rcases mem_cons.1 hmem with heq | hmem
    · cases heq
      exact hfmt
    · exact absurd rfl (ht _ hmem).2

theorem firstResize_resizesTo (c : ResizeCall) (hc : .call c ∈ firstResize) :
    ResizesTo .decimal ⟨20000000000, "20"⟩ "prod" "data-a-0" c := by
  have hcases : c = requestCall ∨ c = completeCall := by simpa [firstResize] using hc
  rcases hcases with rfl | rfl
  · exact resizesTo_single .decimal requestCall (claim "0") 0 [_, _] rfl rfl rfl (by simp [PatchOk])
      (by decide)
  · exact resizesTo_single .decimal completeCall grown20 (1 * minute) [_, _] rfl rfl rfl
      (by simp [PatchOk]) (by decide)

theorem secondResize_resizesTo (c : ResizeCall) (hc : .call c ∈ secondResize) :
    ResizesTo .decimal ⟨30000000000, "30"⟩ "prod" "data-a-0" c := by
  have hcases : c = requestCall30 ∨ c = silentCall := by simpa [secondResize] using hc
  rcases hcases with rfl | rfl
  · exact resizesTo_single .decimal requestCall30 complete20 (2 * minute) [_, _] rfl rfl rfl
      (by simp [PatchOk]) (by decide)
  · exact resizesTo_single .decimal silentCall grown30 (3 * minute) [_] rfl rfl rfl
      (by simp [PatchOk]) (by decide)

/-- The first resize of a fresh claim is reported once. -/
theorem resize_completes_iff_first : completions "data-a-0" firstResize = 1 := by
  obtain ⟨s, hrun⟩ := firstRun
  have hget : (PVCStore.empty.put (claim "0")).get "prod" "data-a-0" = some (claim "0") := rfl
  have hobs : Observed .decimal ⟨20000000000, "20"⟩ "data-a-0" firstResize :=
    ⟨completeCall, by simp [firstResize], grown20, rfl, by decide,
      .inr ⟨_, .head _, .head _, le_rfl⟩⟩
  exact ((resize_completes_iff hrun firstResize_resizesTo hget rfl (by decide)).2
    fun _ => rfl).1 hobs

/-- **The second resize is not reported**: the claim is grown to 20 and to 30, each time it is seen
at its size, and only the first completion is reported. -/
theorem second_resize_unreported :
    ∃ s s1 s' ls1 ls2, Steps (ResizeStep .decimal) s ls1 s1 ∧
      Steps (ResizeStep .decimal) s1 ls2 s' ∧
      (∀ c, .call c ∈ ls1 → ResizesTo .decimal ⟨20000000000, "20"⟩ "prod" "data-a-0" c) ∧
      (∀ c, .call c ∈ ls2 → ResizesTo .decimal ⟨30000000000, "30"⟩ "prod" "data-a-0" c) ∧
      completions "data-a-0" ls1 = 1 ∧
      Observed .decimal ⟨30000000000, "30"⟩ "data-a-0" ls2 ∧ completions "data-a-0" ls2 = 0 := by
  obtain ⟨s, hfirst⟩ := firstRun
  obtain ⟨s', hsecond⟩ := secondRun s
  have hobs : Observed .decimal ⟨30000000000, "30"⟩ "data-a-0" secondResize :=
    ⟨silentCall, by simp [secondResize], grown30, rfl, by decide,
      .inr ⟨_, .head _, .head _, le_rfl⟩⟩
  exact ⟨_, _, s', firstResize, secondResize, hfirst, hsecond, firstResize_resizesTo,
    secondResize_resizesTo, by decide, hobs, by decide⟩

end Keyval.Storage
