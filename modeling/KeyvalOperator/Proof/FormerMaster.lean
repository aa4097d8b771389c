import KeyvalOperator.Lib.History
import KeyvalOperator.Proof.Disruption
import KeyvalOperator.Proof.Recorded

/-!
# The restart of a former master

A controlled failover marks the master that it demotes, so that a later reconcile restarts it: the
marker is an annotation of the cluster, which the restart takes away. The update plan may also evict
the marked pod, and then the marker stays.

* `Handles m t`: what the events of a reconcile do to the marker `m`.
* `steps_handle`, `reconcile_handles`: every reconcile handles the marker in this way.
* `restarted_once`: **a former master is restarted at most once for a failover**, in every run in
  which no plan names the marked pod and the marker can be taken away.
* `plan_restarts_twice`: a former master that the plan has evicted is evicted again.
-/

namespace Keyval.Controller

open Go Interact Interact.Prog Phases Update History List

variable {name : String} {α : Type} {t : Trace} {reasons : List String} {cr : KeyValCluster}
  {N : String → List String → Prop} {m : String} {F : Formats} {q : Req} {base : Duration}
  {pods : List Pod}

/-! ## What is observed of a reconcile -/

/-- The reason of the former master's restart. -/
def restartReason : List String := ["restart-former-master"]

/-- The report of an eviction. -/
def evicted (name : String) (reasons : List String) : Event Op :=
  ⟨.event (.podEvicted name reasons), ()⟩

/-- A failover from the pod completes. -/
def Demotes (name : String) (t : Trace) : Prop :=
  ⟨.event (.failoverTriggered name), ()⟩ ∈ t ∧
    ∃ newMaster, ⟨.event (.failoverCompleted newMaster none), ()⟩ ∈ t

/-- The patch that clears the marker fails. -/
def ClearFails (t : Trace) : Prop :=
  ∃ ns name annotations finalizers err,
    ⟨.patchCluster ns name annotations finalizers, .error err⟩ ∈ t ∧
      Map.str annotations annotationRestartFormerMaster = ""

/-- The marker after the events. -/
def markerAfter (m : String) (t : Trace) : String :=
  (recorded (textOf annotationRestartFormerMaster)).after m t

/-- The plan has the pod, for these reasons. -/
def NamedBy (plan : Plan) (name : String) (reasons : List String) : Prop :=
  name ∈ plan.podNames ∧ reasons = (plan.reasons.lookup name).getD []

/-- A plan of the run has the pod. -/
def Planned (t : Trace) (name : String) (reasons : List String) : Prop :=
  ∃ sentinel plan, ⟨.planUpdates sentinel, plan⟩ ∈ t ∧ NamedBy plan name reasons

/-- What the events of a reconcile do to the marker `m`: an evicted pod is one of the plan (`N`) or
the marked one, whose marker is then taken away unless the patch fails; a new marker names the pod
that the reconcile has demoted, and such a reconcile evicts nothing. -/
structure Handles (N : String → List String → Prop) (m : String) (t : Trace) :
    Prop where
  evicts : ∀ name reasons, evicted name reasons ∈ t → N name reasons ∨
    name = m ∧ m ≠ "" ∧ (markerAfter m t = "" ∨ ClearFails t)
  leaves : markerAfter m t = m ∨ markerAfter m t = "" ∨ Demotes (markerAfter m t) t
  apart : ∀ name reasons former, evicted name reasons ∈ t → ¬ Demotes former t

/-- The request leaves the marker at `m`, evicts no pod and is no part of a failover. -/
def Calm (m : String) : Req → Prop
  | .patchCluster _ _ annotations _ => Map.str annotations annotationRestartFormerMaster = m
  | .event (.podEvicted ..) => False
  | .event (.failoverTriggered _) => False
  | .event (.failoverCompleted ..) => False
  | _ => True

section
variable {N' : String → List String → Prop} {t' : Trace} {e : Event Op}

theorem Calm.leavesAt (h : Calm m q) :
    LeavesAt (textOf annotationRestartFormerMaster) m q := by
  cases q <;> first | exact h | trivial

theorem PhaseReq.calm (h : PhaseReq q) : Calm m q := by
  cases q with
  | event ev => cases ev <;> trivial
  | patchCluster ns name annotations finalizers => exact h.elim
  | _ => trivial

theorem Before.calm (hm : formerMaster cr = m) (h : Before cr q) : Calm m q := by
  cases q with
  | patchCluster ns name annotations finalizers =>
    obtain rfl : annotations = cr.annotations := h
    exact hm
  | applyStatefulSet ss => trivial
  | _ => exact PhaseReq.calm h

theorem permits_calm (hm : formerMaster cr = m) : Permits (Calm m) [] cr where
  phase _ := PhaseReq.calm
  event ev h := by cases ev <;> trivial
  patch _ _ _ _ h := (h.str (by decide)).trans hm

theorem Handles.mono (h : Handles N m t) (hN : ∀ name reasons, N name reasons → N' name reasons) :
    Handles N' m t :=
  ⟨fun name reasons he => (h.evicts name reasons he).imp_left (hN name reasons), h.leaves, h.apart⟩

theorem Handles.of_spared (ht : ∀ name reasons, evicted name reasons ∉ t)
    (hleaves : markerAfter m t = m ∨ markerAfter m t = "" ∨ Demotes (markerAfter m t) t) :
    Handles N m t :=
  ⟨fun name reasons he => absurd he (ht name reasons), hleaves,
    fun name reasons _ he => absurd he (ht name reasons)⟩

theorem ClearFails.mono (h : ClearFails t) (hsub : t ⊆ t') : ClearFails t' := by
  obtain ⟨ns, name, annotations, finalizers, err, hmem, hempty⟩ := h
  exact ⟨ns, name, annotations, finalizers, err, hsub hmem, hempty⟩

theorem Demotes.mono (h : Demotes name t) (hsub : t ⊆ t') : Demotes name t' :=
  ⟨hsub h.1, h.2.imp fun _ hmem => hsub hmem⟩

theorem Planned.mono (h : Planned t name reasons) (hsub : t ⊆ t') : Planned t' name reasons := by
  obtain ⟨sentinel, plan, hmem, hnamed⟩ := h
  exact ⟨sentinel, plan, hsub hmem, hnamed⟩

theorem mem_of_calm {e' : Event Op} (he : Calm m e.req) (he' : ¬ Calm m e'.req)
    (h : e' ∈ e :: t) : e' ∈ t := by
  rcases mem_cons.1 h with rfl | h
  · exact absurd he he'
  · exact h

theorem handles_absorbs : Absorbs (Calm m) (Handles N m) where
  nil := .of_spared (fun _ _ => not_mem_nil) (.inl rfl)
  cons e t he h := by
    have hmarker : markerAfter m (e :: t) = markerAfter m t := by
      unfold markerAfter
      rw [World.after_cons, recorded_step he.leavesAt]
    have hsub : t ⊆ e :: t := subset_cons_self e t
    have hevicted : ∀ {name reasons}, evicted name reasons ∈ e :: t → evicted name reasons ∈ t :=
      fun hmem => mem_of_calm he id hmem
    have hdemotes : ∀ {name}, Demotes name (e :: t) → Demotes name t := fun ⟨htrig, nm, hdone⟩ =>
      ⟨mem_of_calm he id htrig, nm, mem_of_calm he id hdone⟩
    refine ⟨fun name reasons hmem => ?_, ?_, fun name reasons former hmem hdem => ?_⟩
    · rcases h.evicts name reasons (hevicted hmem) with hN | ⟨rfl, hne, hclear⟩
      · exact .inl hN
      · rw [hmarker]
        exact .inr ⟨rfl, hne, hclear.imp_right fun hfails => hfails.mono hsub⟩
    · rw [hmarker]
      exact h.leaves.imp_right fun h => h.imp_right fun hdem => hdem.mono hsub
    · exact h.apart name reasons former (hevicted hmem) (hdemotes hdem)

end

/-! ## The steps of a reconcile -/

section
variable {settings : Eviction.Settings} {st : State} {plan : Plan}

theorem andThen_traces {P : Req → Prop} {T : Trace → Prop} {α β : Type}
    {p : M (Except Outcome α)} {k : α → M (Except Outcome β)} (hT : Absorbs P T) (hp : Asks P p)
    (hk : ∀ t a, p.Runs t (.ok a) → Traces T (k a)) : Traces T (andThen p k) := by
  refine hT.bind hp fun t r hr => ?_
  cases r with
  | error o => exact hT.of_asks (.ret _)
  | ok a => exact hk t a hr

/-- The request reports no eviction. -/
def Spares : Req → Prop
  | .event (.podEvicted ..) => False
  | _ => True

theorem Calm.spares (h : Calm m q) : Spares q := by
  cases q with
  | event ev => cases ev <;> trivial
  | _ => trivial

theorem not_evicted (h : ∀ e ∈ t, Spares e.req) (name : String)
    (reasons : List String) : evicted name reasons ∉ t := fun hmem => h _ hmem

theorem markerAfter_of_calm {t t' : Trace} (h : ∀ e ∈ t, Calm m e.req) :
    markerAfter m (t ++ t') = markerAfter m t' := by
  unfold markerAfter
  rw [World.after_append, recorded_after fun e he => (h e he).leavesAt]

theorem runFailover_handles (hm : formerMaster cr = m) :
    Traces (Handles N m) (runFailover F cr st : M (Except Outcome α)) := by
  intro t o h
  unfold runFailover at h
  generalize st.runtime.master = former at h
  obtain ⟨_, t1, rfl, h1⟩ := runs_asked.1 h
  obtain ⟨_, t2, rfl, h2⟩ := runs_asked.1 h1
  obtain ⟨t3, r, t4, rfl, htrigger, h3⟩ := runs_bind.1 h2
  have hcalm : ∀ e ∈ t3, Calm m e.req := fun e he =>
    PhaseReq.calm ((triggerFailover_asks F _ _ _ _).mem htrigger e he)
  -- the end of the failover, after Sentinel has answered
  have hend : (∀ e ∈ t4, Spares e.req) ∧ (markerAfter m t4 = m ∨ markerAfter m t4 = former ∧
      ∃ newMaster, ⟨.event (.failoverCompleted newMaster none), ()⟩ ∈ t4) := by
    cases r with
    | error e =>
      dsimp only at h3
      split at h3
      · have hasks : Asks (Calm m) ((reportNoGoodSlave "sentinel reported NOGOODSLAVE").bind
            fun _ => (requeue (10 * second) : M (Except Outcome α))) :=
          (reportNoGoodSlave_asks (permits_calm hm) _).bind fun _ =>
            requeue_asks (fun _ => PhaseReq.calm) _
        have hcalm4 := hasks.mem h3
        refine ⟨fun e he => (hcalm4 e he).spares, .inl ?_⟩
        rw [← append_nil t4, markerAfter_of_calm hcalm4]
        rfl
      · obtain ⟨_, t5, rfl, h4⟩ := runs_call.1 h3
        obtain ⟨_, t6, rfl, h5⟩ := runs_call.1 h4
        obtain ⟨_, t7, rfl, h6⟩ := runs_call.1 h5
        obtain ⟨rfl, -⟩ := runs_ret.1 h6
        exact ⟨by simp [Spares], .inl rfl⟩
    | ok master =>
      obtain ⟨_, t5, rfl, h4⟩ := runs_call.1 h3
      obtain ⟨_, t6, rfl, h5⟩ := runs_call.1 h4
      obtain ⟨rep, t7, rfl, h6⟩ := runs_call.1 h5
      obtain ⟨_, t8, rfl, h7⟩ := runs_call.1 h6
      obtain ⟨rfl, -⟩ := runs_ret.1 h7
      refine ⟨by simp [Spares], ?_⟩
      cases rep with
      | error e => exact .inl rfl
      | ok u => exact .inr ⟨Map.str_insert_self _ _ _, _, mem_cons_self⟩
  obtain ⟨hspared, hmarks⟩ := hend
  have hmarker : markerAfter m (⟨.event (.startFailover ("master=" ++ former)), ()⟩ ::
      ⟨.event (.failoverTriggered former), ()⟩ :: (t3 ++ t4)) = markerAfter m t4 :=
    markerAfter_of_calm hcalm
  refine .of_spared (not_evicted (forall_mem_cons.2 ⟨trivial, forall_mem_cons.2
    ⟨trivial, forall_mem_append.2 ⟨fun e he => (hcalm e he).spares, hspared⟩⟩⟩)) ?_
  rw [hmarker]
  rcases hmarks with hkept | ⟨hformer, nm, hdone⟩
  · exact .inl hkept
  · refine .inr (.inr ?_)
    rw [hformer]
    exact ⟨by simp, nm, by simp [hdone]⟩

theorem controlledFailover_handles (hm : formerMaster cr = m) :
    Traces (Handles N m) (controlledFailover F cr st : M (Except Outcome α)) := by
  have hcalm : ∀ {d : Duration}, Asks (Calm m) (requeue d : M (Except Outcome α)) :=
    requeue_asks (fun _ => PhaseReq.calm) _
  unfold controlledFailover
  dsimp only
  split
  · exact handles_absorbs.of_asks hcalm
  split
  · exact handles_absorbs.of_asks hcalm
  refine handles_absorbs.bind ((hasGoodSlaveFrom_asks _ _ _ _ _).mono fun _ => PhaseReq.calm)
    fun _ r _ => ?_
  obtain ⟨good, detail⟩ := r
  cases good with
  | false =>
    exact handles_absorbs.of_asks ((reportNoGoodSlave_asks (permits_calm hm) _).bind fun _ => hcalm)
  | true =>
    dsimp only
    split
    · exact runFailover_handles hm
    · exact handles_absorbs.of_asks hcalm

theorem mayRemove_calm (pod : Pod) : MayRemove (fun _ => True) (Calm m) pod :=
  fun _ _ => ⟨trivial, trivial⟩

theorem requeueWith_run {o : Except Outcome α}
    (h : (requeueWith base (.podEvicted name reasons)).Runs t o) :
    ∃ delay, t = [⟨.backoff base, delay⟩, evicted name reasons] := by
  obtain ⟨delay, t1, rfl, h1⟩ := runs_call.1 h
  obtain ⟨_, t2, rfl, h2⟩ := runs_call.1 h1
  obtain ⟨rfl, -⟩ := runs_ret.1 h2
  exact ⟨delay, rfl⟩

theorem requeueWith_handles (hN : N name reasons) :
    Traces (Handles N m) (requeueWith base (.podEvicted name reasons) : M (Except Outcome α)) := by
  intro t o h
  obtain ⟨delay, rfl⟩ := requeueWith_run h
  refine handles_absorbs.cons _ _ trivial ⟨fun name' reasons' hmem => .inl ?_, .inl rfl, ?_⟩
  · cases mem_singleton.1 hmem
    exact hN
  · rintro name' reasons' former - ⟨htrig, -⟩
    cases mem_singleton.1 htrig

theorem execute_named {health : Option (Map PodHealth)} {component : Component}
    (h : (execute cr plan pods health component settings).Runs t (name, none)) (hne : name ≠ "") :
    name ∈ plan.podNames := by
  rcases execute_run h with ⟨-, heq⟩ | ⟨-, pod, -, hnamed, -, hrun⟩
  · exact absurd (congrArg Prod.fst heq) hne
  · rw [show name = pod.name from (evictOne_run hrun).1 rfl]
    exact hnamed

theorem restartFormerMaster_handles (hm : formerMaster cr = m) :
    Traces (Handles N m) (restartFormerMaster settings cr st : M (Except Outcome α)) := by
  have hcalm : ∀ {d : Duration}, Asks (Calm m) (requeue d : M (Except Outcome α)) :=
    requeue_asks (fun _ => PhaseReq.calm) _
  unfold restartFormerMaster patchAnnotations
  rw [show Map.str cr.annotations annotationRestartFormerMaster = m from hm]
  dsimp only
  split
  · exact handles_absorbs.of_asks hcalm
  rename_i hne
  refine handles_absorbs.bind (tryEvictFormerMaster_issues (fun _ => PhaseReq.calm) settings m
    st.redisPods fun pod _ => mayRemove_calm pod) fun _ r _ => ?_
  rcases r with e | _ | _
  · dsimp only
    split
    · exact handles_absorbs.of_asks (blockStep_asks (permits_calm hm) _ _ _ _ _)
    · exact handles_absorbs.of_asks (.ret _)
  · exact handles_absorbs.of_asks hcalm
  · -- the marked pod has been evicted
    intro t o h
    obtain ⟨rep, t1, rfl, h1⟩ := runs_call.1 h
    obtain ⟨delay, rfl⟩ := requeueWith_run h1
    have herase : Map.str (cr.annotations.erase annotationRestartFormerMaster)
        annotationRestartFormerMaster = "" := by
      unfold Map.str
      rw [Finmap.lookup_erase]
      rfl
    refine ⟨fun name reasons hmem => .inr ?_, ?_, fun name reasons former _ hdem => ?_⟩
    · have hname : name = m := by
        simp only [evicted, mem_cons, not_mem_nil, or_false] at hmem
        rcases hmem with hmem | hmem | hmem <;> cases hmem
        rfl
      refine ⟨hname, hne, ?_⟩
      cases rep with
      | ok u => exact .inl herase
      | error e => exact .inr ⟨_, _, _, _, e, mem_cons_self, herase⟩
    · cases rep with
      | ok u => exact .inr (.inl herase)
      | error e => exact .inl rfl
    · have htrig := hdem.1
      simp only [mem_cons, not_mem_nil, or_false] at htrig
      rcases htrig with htrig | htrig | htrig <;> cases htrig

theorem executePlan_handles (hm : formerMaster cr = m) :
    Traces (Handles (NamedBy plan) m) (executePlan settings cr st plan : M (Except Outcome α)) := by
  unfold executePlan
  refine handles_absorbs.bind (execute_issues (fun _ => PhaseReq.calm) cr plan _ _ .redis settings
    fun pod _ => mayRemove_calm pod) fun t r hrun => ?_
  obtain ⟨name, err⟩ := r
  cases err with
  | some e =>
    dsimp only
    split
    · exact handles_absorbs.of_asks (blockStep_asks (permits_calm hm) _ _ _ _ _)
    · exact handles_absorbs.of_asks (.ret _)
  | none =>
    dsimp only
    split
    · rename_i hne
      exact requeueWith_handles ⟨execute_named hrun hne, rfl⟩
    · exact restartFormerMaster_handles hm

theorem rollingStep_handles (hm : formerMaster cr = m) :
    Traces (Handles (NamedBy plan) m)
      (rollingStep F settings cr st plan : M (Except Outcome α)) := by
  unfold rollingStep
  dsimp only
  split
  · exact handles_absorbs.of_asks (blockStep_asks (permits_calm hm) _ _ _ _ _)
  · refine andThen_traces handles_absorbs (resumeStep_asks (permits_calm hm))
      fun _ cr' hresume => ?_
    have hm' : formerMaster cr' = m := (resumeStep_keeps hresume).formerMaster.trans hm
    split
    · exact controlledFailover_handles hm'
    · exact executePlan_handles hm'

/-! ### The Sentinel pods -/

theorem Handles.append {t t' : Trace} (h : Handles N m t)
    (ht' : ∀ e ∈ t', PhaseReq e.req) : Handles N m (t ++ t') := by
  have hmarker : markerAfter m (t ++ t') = markerAfter m t := by
    unfold markerAfter
    rw [World.after_append, recorded_after]
    exact fun e he => Calm.leavesAt (PhaseReq.calm (ht' e he))
  have hmem : ∀ {e : Event Op}, ¬ PhaseReq e.req → e ∈ t ++ t' → e ∈ t := fun hne he =>
    (mem_append.1 he).resolve_right fun he' => hne (ht' _ he')
  have hsub : t ⊆ t ++ t' := subset_append_left t t'
  refine ⟨fun name reasons he => ?_, ?_, fun name reasons former he hdem => ?_⟩
  · rcases h.evicts name reasons (hmem id he) with hN | ⟨rfl, hne, hclear⟩
    · exact .inl hN
    · rw [hmarker]
      exact .inr ⟨rfl, hne, hclear.imp_right fun hfails => hfails.mono hsub⟩
  · rw [hmarker]
    exact h.leaves.imp_right fun h => h.imp_right fun hdem => hdem.mono hsub
  · obtain ⟨htrig, nm, hdone⟩ := hdem
    exact h.apart name reasons former (hmem id he) ⟨hmem id htrig, nm, hmem id hdone⟩

theorem sentinelStep_handles (hm : formerMaster cr = m) :
    Traces (fun t => Handles (Planned t) m t) (sentinelStep settings cr st) := by
  unfold sentinelStep
  split
  swap
  · intro t o h
    obtain ⟨rfl, -⟩ := runs_ret.1 h
    exact handles_absorbs.nil
  intro t o h
  obtain ⟨sp, t', rfl, h'⟩ := runs_asked.1 h
  -- after the plan has been made, only its pods are evicted
  have hrest : Handles (NamedBy sp) m t' := by
    dsimp only at h'
    split at h'
    · exact handles_absorbs.of_asks (.ret _) _ _ h'
    split at h'
    · exact handles_absorbs.of_asks (blockStep_asks (permits_calm hm) _ _ _ _ _) _ _ h'
    refine andThen_traces handles_absorbs (resumeStep_asks (permits_calm hm))
      (fun _ cr' hresume => ?_) _ _ h'
    have hm' : formerMaster cr' = m := (resumeStep_keeps hresume).formerMaster.trans hm
    unfold executeSentinelPlan
    refine handles_absorbs.bind (execute_issues (fun _ => PhaseReq.calm) cr' _ _ _ .sentinel
      settings fun pod _ => mayRemove_calm pod) fun t r hrun => ?_
    obtain ⟨name, err⟩ := r
    cases err with
    | some e =>
      dsimp only
      split
      · exact handles_absorbs.of_asks (blockStep_asks (permits_calm hm') _ _ _ _ _)
      · exact handles_absorbs.of_asks (.ret _)
    | none =>
      dsimp only
      split
      · rename_i hne
        exact requeueWith_handles ⟨(mem_insertionSort _).1 (execute_named hrun hne), rfl⟩
      · exact handles_absorbs.of_asks (.ret _)
  exact (handles_absorbs.cons ⟨.planUpdates true, sp⟩ t' trivial hrest).mono
    fun name reasons hnamed => ⟨true, sp, mem_cons_self, hnamed⟩

/-! ### All steps -/

/-- The plan has the pod, or one of the run. -/
def PlannedOr (plan : Plan) (t : Trace) (name : String) (reasons : List String) : Prop :=
  NamedBy plan name reasons ∨ Planned t name reasons

theorem plannedOr_absorbs : Absorbs (Calm m) fun t => Handles (PlannedOr plan t) m t where
  nil := handles_absorbs.nil
  cons e t he h := (handles_absorbs.cons e t he h).mono fun _ _ hplanned =>
    hplanned.imp_right fun hmade => hmade.mono (subset_cons_self e t)

/-- **The steps of a reconcile handle the marker.** -/
theorem steps_handle (hm : formerMaster st.cluster = m) :
    Traces (fun t => Handles (Planned t) m t) (steps F settings st) := by
  intro t o h
  obtain ⟨plan, t', rfl, h'⟩ := runs_asked.1 h
  have hpatch : ∀ {cr' : KeyValCluster} {key : String} {annotations : Map String},
      formerMaster cr' = m → annotationRestartFormerMaster ≠ key →
      AgreeOff [key] cr'.annotations annotations →
      Map.str annotations annotationRestartFormerMaster = m := fun hm' hkey hoff =>
    (hoff.str fun hmem => hkey (mem_singleton.1 hmem)).trans hm'
  have hrest : Handles (PlannedOr plan t') m t' := by
    refine andThen_traces plannedOr_absorbs (startScale_asks
      (fun d => hpatch hm (by decide) (agreeOff_insert _ annotationScalePhase d))
      (fun _ _ _ => trivial) plan) (fun _ r hstart => ?_) _ _ h'
    have hm1 : formerMaster r.1 = m := (startScale_keeps hstart).formerMaster.trans hm
    refine andThen_traces plannedOr_absorbs (finishScale_asks
      (hpatch hm1 (by decide) (agreeOff_erase _ annotationScalePhase))
      (fun _ _ _ => trivial) st plan r.2) fun _ cr2 hfinish => ?_
    have hm2 : formerMaster cr2 = m := (finishScale_keeps hfinish).formerMaster.trans hm1
    split
    · intro t o h
      exact (rollingStep_handles hm2 t o h).mono fun _ _ => .inl
    refine andThen_traces plannedOr_absorbs (resumeStep_asks (permits_calm hm2))
      fun _ cr3 hresume => ?_
    have hm3 : formerMaster cr3 = m := (resumeStep_keeps hresume).formerMaster.trans hm2
    intro t o h
    rcases runs_andThen_cases h with ⟨out, hsentinel⟩ | ⟨t1, _, t2, rfl, hsentinel, h2⟩
    · exact (sentinelStep_handles hm3 t _ hsentinel).mono fun _ _ => .inr
    · have hphase : ∀ e ∈ t2, PhaseReq e.req := by
        split at h2
        · exact (requeue_asks (fun _ h => h) _).mem h2
        · obtain ⟨rfl, -⟩ := runs_ret.1 h2
          exact forall_mem_nil _
      exact ((sentinelStep_handles hm3 t1 _ hsentinel).append hphase).mono fun _ _ hplanned =>
        .inr (hplanned.mono (subset_append_left t1 t2))
  refine (handles_absorbs.cons ⟨.planUpdates false, plan⟩ t' trivial hrest).mono
    fun name reasons hplanned => ?_
  rcases hplanned with hnamed | hmade
  · exact ⟨false, plan, mem_cons_self, hnamed⟩
  · exact hmade.mono (subset_cons_self _ _)

/-- **Every reconcile handles the marker** that it reads. -/
theorem reconcile_handles (hm : formerMaster st.cluster = m) :
    Traces (fun t => Handles (Planned t) m t) (reconcileClusterImpl F settings st) := by
  have habsorbs : Absorbs (Calm m) fun t => Handles (Planned t) m t :=
    { nil := handles_absorbs.nil
      cons := fun e t he h => (handles_absorbs.cons e t he h).mono fun _ _ hmade =>
        hmade.mono (subset_cons_self e t) }
  refine reconcile_traces habsorbs (fun q hq => hq.calm hm) fun st' hannotations => ?_
  refine steps_handle ?_
  unfold formerMaster
  rw [hannotations]
  exact hm

end

/-! ## Runs -/

/-- The reconcile evicts the pod. -/
def EvictsPod (name : String) (r : Round) : Prop := ∃ reasons, evicted name reasons ∈ r.events

/-- The reconcile restarts the pod as the former master. -/
def Restarts (name : String) (r : Round) : Prop := evicted name restartReason ∈ r.events

/-- **The former master is restarted at most once for a failover**: once a pod that a failover has
demoted has been evicted, it is not restarted as a former master before another failover demotes
it. -/
def RestartedOnce (rs : List Round) : Prop :=
  ∀ name before r0 between0 r1 between r2 after,
    rs = before ++ r0 :: between0 ++ r1 :: between ++ r2 :: after →
    Demotes name r0.events → EvictsPod name r1 → (∀ r ∈ between, ¬ Demotes name r.events) →
    ¬ Restarts name r2

/-- No plan has the pod. -/
def PlansWithout (name : String) : Event Op → Prop
  | ⟨.planUpdates _, plan⟩ => name ∉ plan.podNames
  | _ => True

/-- While a pod is marked, no plan names it, and no patch that would take the marker away fails. -/
structure SparesMarked (r : Round) : Prop where
  unplanned : formerMaster r.before.cluster ≠ "" →
    ∀ e ∈ r.events, PlansWithout (formerMaster r.before.cluster) e
  clears : formerMaster r.before.cluster ≠ "" → ¬ ClearFails r.events

/-- A plan does not give the reason of the restart of a former master. -/
def PlansOther : Event Op → Prop
  | ⟨.planUpdates _, plan⟩ => ∀ name, (plan.reasons.lookup name).getD [] ≠ restartReason
  | _ => True

section
variable {rs : List Round} {r : Round} {m' : String}

theorem ReadsBack.handles (h : ReadsBack F (textOf annotationRestartFormerMaster) m r m') :
    Handles (Planned r.events) m r.events ∧ m' = markerAfter m r.events :=
  ⟨reconcile_handles h.reads _ _ h.runs, h.leaves⟩

/-- The marker after a reconcile does not name a pod that has been evicted since it was demoted. -/
theorem ReadsBack.spares (h : ReadsBack F (textOf annotationRestartFormerMaster) m r m')
    (hspares : SparesMarked r) (hname : name ≠ "")
    (hm : Since (EvictsPod name) (fun r => Demotes name r.events) rs → m ≠ name)
    (hsince : Since (EvictsPod name) (fun r => Demotes name r.events) (rs ++ [r])) : m' ≠ name := by
  obtain ⟨hhandles, rfl⟩ := h.handles
  obtain rfl : formerMaster r.before.cluster = m := h.reads
  rintro rfl
  rcases since_concat.1 hsince with ⟨reasons, hevicted⟩ | ⟨hsince, hdemotes⟩
  · -- the reconcile has evicted the pod, so it has demoted none
    have hne : formerMaster r.before.cluster ≠ markerAfter (formerMaster r.before.cluster)
        r.events := by
      intro heq
      rcases hhandles.evicts _ _ hevicted with ⟨sentinel, plan, hplan, hnamed, -⟩ | ⟨-, -, hclear⟩
      · rw [← heq] at hname hnamed
        exact hspares.unplanned hname _ hplan hnamed
      · rw [← heq] at hname
        rcases hclear with hclear | hfails
        · exact hname (heq.trans hclear)
        · exact hspares.clears hname hfails
    rcases hhandles.leaves with hkept | hempty | hdemotes
    · exact hne hkept.symm
    · exact hname hempty
    · exact hhandles.apart _ _ _ hevicted hdemotes
  · rcases hhandles.leaves with hkept | hempty | hdemoted
    · exact hm hsince hkept.symm
    · exact hname hempty
    · exact hdemotes hdemoted

/-- **A former master is restarted at most once for a failover**, in every run in which no plan
names the marked pod and the marker can be taken away. -/
theorem restarted_once
    (h : Transition.Steps (ReadsBack F (textOf annotationRestartFormerMaster)) m rs m')
    (hplans : ∀ r ∈ rs, ∀ e ∈ r.events, PlansOther e) (hspares : ∀ r ∈ rs, SparesMarked r) :
    RestartedOnce rs := by
  intro name before r0 between0 r1 between r2 after heq _ hremoved hbetween hrestarts
  subst heq
  obtain ⟨m1, m2, hbefore, hstep, -⟩ := h.split
  obtain ⟨hhandles, -⟩ := hstep.handles
  -- the pod is the marked one
  have hmarked : name = m1 ∧ m1 ≠ "" := by
    rcases hhandles.evicts _ _ hrestarts with ⟨sentinel, plan, hplan, -, hreasons⟩ | ⟨hm, hne, -⟩
    · exact absurd hreasons.symm (hplans r2 (by simp) _ hplan name)
    · exact ⟨hm, hne⟩
  obtain ⟨rfl, hname⟩ := hmarked
  have hinv := hbefore.invariant (C := SparesMarked)
    (I := fun rs m => Since (EvictsPod name) (fun r => Demotes name r.events) rs → m ≠ name)
    (fun r hr => hspares r (mem_append_left _ hr))
    (fun ⟨_, _, _, heq, _⟩ => by simp at heq)
    fun rs m r m' _ hm hr hstep => hstep.spares hr hname hm
  exact hinv ⟨before ++ r0 :: between0, r1, between, rfl, hremoved, hbetween⟩ rfl

end

/-- The planner's plans do not give this reason when the storage does not. -/
theorem planUpdates_plansOther {ss : Option StatefulSet} {health : Map PodHealth}
    {storage : Map (List String)}
    (hstorage : ∀ p ∈ pods, "restart-former-master" ∉ (storage.lookup p.name).getD [])
    (sentinel : Bool) :
    PlansOther ⟨.planUpdates sentinel, planUpdates cr ss pods health storage⟩ := by
  intro name heq
  have hmem : "restart-former-master" ∈
      reasonsOf (planUpdates cr ss pods health storage).reasons name := by
    rw [reasonsOf, heq]
    exact .head _
  rcases mem_planUpdates_reason hmem with hscale | htext | ⟨p, hp, hreason⟩
  · exact absurd hscale (by decide)
  · exact absurd htext (by decide)
  · exact hstorage p hp hreason

/-! ## Two restarts for one failover -/

/-- The cluster with a marker. -/
def markedA (marker : String) : State where
  cluster := { clusterA with annotations := Finmap.singleton annotationRestartFormerMaster marker }

/-- Three pods, of which a-0 may be unready. -/
def formerPods (master : String) (ready : Bool) : List Pod :=
  [("a-0", "10.0.0.1", ready), ("a-1", "10.0.0.2", true), ("a-2", "10.0.0.3", true)].map
    fun (name, podIP, ready) =>
      { rolloutPod name (if name = master then "master" else "replica") ready with podIP }

/-- Redis after a failover to a-1. -/
def failedOverA : Graph :=
  fun pod => if pod = "a-1" then .master else .replica "10.0.0.2" 6379

/-- Everything succeeds, Sentinel makes `a-1` the master, and the Redis pods have a plan. -/
def obliging (pods : List Pod) (plan : Plan) (g : Graph) : Replies
  | .patchCluster .. | .services | .applyStatefulSet _ | .pdb | .evictPod .. => .ok ()
  | .security => .ok ({}, "")
  | .config => .ok ""
  | .getStatefulSet .. => .error { msg := "not found", reason := .notFound }
  | .listPods .. => .ok pods
  | .podMetadata => .ok (pods, Sentinel.sentinelPodsA)
  | .externalImport => .ok none
  | .listPVCs _ => .ok []
  | .sentinel => .ok { quorumOK := true, detail := "" }
  | .status => .ok {
      computed := {
        conditions := [{ type := "SentinelQuorum", status := .true },
          { type := "ReplicationHealthy", status := .true }]
        healthGate := some true }
      allowDisruptions := true
      allowSentinel := true }
  | .planUpdates sentinel => if sentinel then {} else plan
  | .getPod _ name =>
    (pods.find? (·.name = name)).elim (.error { msg := "not found", reason := .notFound }) .ok
  | q => Sentinel.sentinelNames "a-1.a-headless.prod.svc" g q

/-- The reconcile that demotes a-0. -/
def demotionA : Round :=
  played .decimal redisWorld (obliging (formerPods "a-0" true)
    (planFor "config-hash" ["a-0"])) Replication.graphA (markedA "")

/-- The one that updates a-0 next. -/
def updateA : Round :=
  played .decimal redisWorld (obliging (formerPods "a-1" true)
    (planFor "config-hash" ["a-0"])) failedOverA (markedA "a-0")

/-- One that restarts a-0 although no plan has it. -/
def restartA : Round :=
  played .decimal redisWorld (obliging (formerPods "a-1" false)
    (planFor "config-hash" ["a-2", "a-1"])) failedOverA (markedA "a-0")

theorem obliging_patched (pods : List Pod) (plan : Plan) (g : Graph) (q : Req) :
    Patched ⟨q, obliging pods plan g q⟩ := by
  cases q <;> first | rfl | trivial

theorem planFor_other (names : List String) (name : String) :
    ((planFor "config-hash" names).reasons.lookup name).getD [] ≠ restartReason := by
  have hinsert : ∀ (names : List String) (reasons : Map (List String)),
      (reasons.lookup name).getD [] ≠ restartReason →
      ((names.foldl (fun m n => m.insert n ["config-hash"]) reasons).lookup name).getD [] ≠
        restartReason := by
    intro names
    induction names with
    | nil => exact fun _ h => h
    | cons n names ih =>
      intro reasons h
      refine ih _ ?_
      by_cases hname : name = n
      · subst hname
        rw [Finmap.lookup_insert]
        decide
      · rwa [Finmap.lookup_insert_of_ne _ hname]
  exact hinsert names ∅ (by rw [Finmap.lookup_empty]; decide)

theorem obliging_other (pods : List Pod) (names : List String) (g : Graph) (q : Req) :
    PlansOther ⟨q, obliging pods (planFor "config-hash" names) g q⟩ := by
  cases q with
  | planUpdates sentinel =>
    cases sentinel with
    | true => exact planFor_other []
    | false => exact planFor_other names
  | _ => trivial

theorem readsBack_demotionA :
    ReadsBack .decimal (textOf annotationRestartFormerMaster) "" demotionA "a-0" :=
  played_readsBack (by decide) (by decide +kernel)

theorem readsBack_updateA :
    ReadsBack .decimal (textOf annotationRestartFormerMaster) "a-0" updateA "a-0" :=
  played_readsBack (by decide) (by decide +kernel)

theorem readsBack_restartA :
    ReadsBack .decimal (textOf annotationRestartFormerMaster) "a-0" restartA "" :=
  played_readsBack (by decide) (by decide +kernel)

theorem obliging_without {names : List String} (hname : name ∉ names) (pods : List Pod) (g : Graph)
    (q : Req) : PlansWithout name ⟨q, obliging pods (planFor "config-hash" names) g q⟩ := by
  cases q with
  | planUpdates sentinel =>
    cases sentinel with
    | true => exact not_mem_nil
    | false => exact hname
  | _ => trivial

theorem not_clearFails (h : ∀ e ∈ t, Patched e) : ¬ ClearFails t := by
  rintro ⟨ns, name, annotations, finalizers, err, hmem, -⟩
  have hok : (.error err : Result Unit) = .ok () := h _ hmem
  cases hok

theorem demotes_demotionA : Demotes "a-0" demotionA.events :=
  ⟨mem_of_emits (by decide +kernel), "a-1", mem_of_emits (by decide +kernel)⟩

theorem restarts_restartA : Restarts "a-0" restartA := mem_of_emits (by decide +kernel)

/-- A failover demotes `a-0`, and the next reconcile restarts it. -/
theorem restarted_once_a0 :
    Demotes "a-0" demotionA.events ∧ Restarts "a-0" restartA ∧
      RestartedOnce [demotionA, restartA] := by
  refine ⟨demotes_demotionA, restarts_restartA, restarted_once
    (.snoc (.snoc .nil readsBack_demotionA) readsBack_restartA)
    (forall_mem_cons.2 ⟨played_mem fun g => obliging_other _ _ g,
      forall_mem_singleton.2 (played_mem fun g => obliging_other _ _ g)⟩)
    (forall_mem_cons.2 ⟨⟨fun hmarked => absurd (by decide) hmarked,
      fun hmarked => absurd (by decide) hmarked⟩, forall_mem_singleton.2 ⟨fun _ => ?_,
      fun _ => not_clearFails (played_mem fun g => obliging_patched _ _ g)⟩⟩)⟩
  exact played_mem fun g => obliging_without (by decide) _ g

/-- **A failover and two restarts**: the plan evicts the pod that the failover has marked, and the
marker stays. While the pod starts the plan evicts none, so the former master is evicted again. -/
theorem plan_restarts_twice :
    Transition.Steps (ReadsBack .decimal (textOf annotationRestartFormerMaster)) ""
        [demotionA, updateA, restartA] "" ∧
      (∀ r ∈ [demotionA, updateA, restartA], ∀ e ∈ r.events, Patched e ∧ PlansOther e) ∧
      ¬ RestartedOnce [demotionA, updateA, restartA] := by
  have hupdate : EvictsPod "a-0" updateA :=
    ⟨["config-hash"], mem_of_emits (by decide +kernel)⟩
  refine ⟨.snoc (.snoc (.snoc .nil readsBack_demotionA) readsBack_updateA) readsBack_restartA,
    ?_, fun honce => ?_⟩
  · have hround : ∀ {pods names g st}, ∀ e ∈ (played .decimal redisWorld (obliging pods
        (planFor "config-hash" names)) g st).events, Patched e ∧ PlansOther e :=
      played_mem fun g q => ⟨obliging_patched _ _ g q, obliging_other _ _ g q⟩
    exact forall_mem_cons.2 ⟨hround, forall_mem_cons.2 ⟨hround, forall_mem_singleton.2 hround⟩⟩
  · exact honce "a-0" [] demotionA [] updateA [] restartA [] rfl demotes_demotionA hupdate
      (forall_mem_nil _) restarts_restartA

end Keyval.Controller
