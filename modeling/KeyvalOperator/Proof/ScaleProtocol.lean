import KeyvalOperator.Lib.Announced
import KeyvalOperator.Proof.Disruption
import KeyvalOperator.Proof.Recorded

/-!
# The protocol of scale operations

A scale operation spans several reconciles. Its direction is an annotation of the cluster, the scale
phase; the events `ScaleStarted` and `ScaleCompleted` announce its beginning and its end. Between
two reconciles the replica count of the spec, the pods and the plan may change in any way, also so
that the direction of the operation is reversed.

* `scalePhase`: the recorded phase as a register with announcements.
* `reconcile_announces`: a reconcile writes the phase only together with its announcement.
* `scale_protocol`: **the protocol, in every run**.
-/

namespace Keyval.Controller

open Go Interact Interact.Prog Phases Update Announced List

variable {phase : String} {F : Formats}

/-! ## The register -/

/-- The direction of a reported start. -/
def scaleStart : Event Op → Option String
  | ⟨.event (.scaleStarted direction _ _), _⟩ => some direction
  | _ => none

/-- The direction of a reported end. -/
def scaleEnd : Event Op → Option String
  | ⟨.event (.scaleCompleted direction _ _), _⟩ => some direction
  | _ => none

/-- The recorded scale phase, which is empty when no scale operation is going on. -/
def scalePhase : Register (Event Op) String where
  idle := ""
  step := (recorded (textOf annotationScalePhase)).step
  starts := scaleStart
  completes := scaleEnd
  step_starts {e d} h v := by
    obtain ⟨q, r⟩ := e
    cases q with
    | event ev => rfl
    | _ => cases h
  step_completes {e d} h v := by
    obtain ⟨q, r⟩ := e
    cases q with
    | event ev => rfl
    | _ => cases h
  completes_of_starts {e d} h := by
    obtain ⟨q, r⟩ := e
    cases q with
    | event ev => cases ev <;> first | rfl | cases h
    | _ => rfl

/-- The request leaves the scale phase and announces nothing about it. -/
def Quiet (phase : String) : Req → Prop
  | .patchCluster _ _ annotations _ => Map.str annotations annotationScalePhase = phase
  | .event ev => OfStep ev
  | _ => True

theorem Quiet.silent {e : Event Op} (h : Quiet phase e.req) :
    Silent scalePhase e ∧ scalePhase.step phase e = phase := by
  obtain ⟨q, r⟩ := e
  cases q with
  | event ev => cases ev <;> first | exact h.elim | exact ⟨⟨rfl, rfl⟩, rfl⟩
  | patchCluster ns name annotations finalizers =>
    have hkeeps : LeavesAt (textOf annotationScalePhase) phase
        (.patchCluster ns name annotations finalizers) := h
    exact ⟨⟨rfl, rfl⟩, recorded_step hkeeps⟩
  | _ => exact ⟨⟨rfl, rfl⟩, rfl⟩

theorem announces_of_quiet {t : Trace} (h : ∀ e ∈ t, Quiet phase e.req) :
    Announces scalePhase phase t phase := .of_silent fun e he => (h e he).silent

theorem PhaseReq.quiet {q : Req} (h : PhaseReq q) : Quiet phase q := by
  cases q with
  | event ev => cases ev <;> trivial
  | patchCluster ns name annotations finalizers => exact h.elim
  | _ => trivial

/-- The recorded direction. -/
def phaseOf (cr : KeyValCluster) : String := Map.str cr.annotations annotationScalePhase

theorem Before.quiet {cr : KeyValCluster} {q : Req} (h : Before cr q) : Quiet (phaseOf cr) q := by
  cases q with
  | patchCluster ns name annotations finalizers =>
    obtain rfl : annotations = cr.annotations := h
    rfl
  | applyStatefulSet ss => trivial
  | _ => exact PhaseReq.quiet h

theorem permits_quiet (cr : KeyValCluster) : PermitsSteps (Quiet (phaseOf cr)) cr where
  phase _ := PhaseReq.quiet
  event ev h := by cases ev <;> trivial
  patch _ _ _ _ h := h.str (by decide)
  step _ h := h
  plan := trivial

/-! ## A reconcile -/

section
variable {settings : Eviction.Settings} {st : State} {plan : Plan} {cr : KeyValCluster} {t : Trace}

theorem scalePhase_patched (phase ns name : String) (annotations : Map String)
    (finalizers : List String) :
    scalePhase.step phase ⟨.patchCluster ns name annotations finalizers, .ok ()⟩ =
      Map.str annotations annotationScalePhase := rfl

theorem startScale_announces {r : Except Outcome (KeyValCluster × String)}
    (h : (startScale st plan).Runs t r) (hok : ∀ e ∈ t, Patched e) :
    ∃ cr, r = .ok (cr, phaseOf cr) ∧ Announces scalePhase (phaseOf st.cluster) t (phaseOf cr) ∧
      ∀ e ∈ t, scaleEnd e = none := by
  unfold startScale setScalePhaseAnnotation setAnnotation at h
  dsimp only at h
  split at h
  swap
  · obtain ⟨rfl, rfl⟩ := runs_ret.1 h
    exact ⟨st.cluster, rfl, .nil _, forall_mem_nil _⟩
  rename_i hdirection
  rw [if_neg hdirection.1, if_neg hdirection.2.symm] at h
  obtain ⟨rep, t', rfl, h'⟩ := runs_call.1 h
  obtain ⟨hrep, -⟩ := forall_mem_cons.1 hok
  obtain rfl : rep = .ok () := hrep
  obtain ⟨_, t'', rfl, h''⟩ := runs_call.1 h'
  obtain ⟨rfl, rfl⟩ := runs_ret.1 h''
  generalize detectDirection st plan = d at hdirection ⊢
  have hphase : Map.str (st.cluster.annotations.insert annotationScalePhase d)
      annotationScalePhase = d := Map.str_insert_self _ _ _
  refine ⟨{ st.cluster with annotations := st.cluster.annotations.insert annotationScalePhase d },
    ?_, ?_, ?_⟩
  · unfold phaseOf
    rw [hphase]
  · refine .start ⟨rfl, rfl⟩ (scalePhase_patched _ _ _ _ _) ?_ ?_ ?_ (.nil _)
    · rw [hphase]
      exact hdirection.1
    · rw [hphase]
      exact hdirection.2
    · rw [hphase]
      rfl
  · exact forall_mem_cons.2 ⟨rfl, forall_mem_singleton.2 rfl⟩

theorem finishScale_announces {r : Except Outcome KeyValCluster}
    (h : (finishScale st plan cr (phaseOf cr)).Runs t r) (hok : ∀ e ∈ t, Patched e) :
    ∃ cr', r = .ok cr' ∧ Announces scalePhase (phaseOf cr) t (phaseOf cr') ∧
      ((∃ e ∈ t, scaleEnd e ≠ none) → scaleCompleted st plan (phaseOf cr) = true) := by
  unfold finishScale clearScalePhaseAnnotation clearAnnotation at h
  split at h
  swap
  · obtain ⟨rfl, rfl⟩ := runs_ret.1 h
    refine ⟨cr, rfl, .nil _, ?_⟩
    rintro ⟨e, he, -⟩
    cases he
  rename_i hcompleted
  -- only a phase that is recorded is completed
  have hphase : phaseOf cr ≠ "" := by
    intro hempty
    rw [hempty] at hcompleted
    exact absurd hcompleted (by simp [scaleCompleted, scaleDirectionUp, scaleDirectionDown])
  unfold phaseOf at hphase
  rw [if_neg hphase] at h
  obtain ⟨rep, t', rfl, h'⟩ := runs_call.1 h
  obtain ⟨hrep, -⟩ := forall_mem_cons.1 hok
  obtain rfl : rep = .ok () := hrep
  obtain ⟨_, t'', rfl, h''⟩ := runs_call.1 h'
  obtain ⟨rfl, rfl⟩ := runs_ret.1 h''
  have herase : Map.str (cr.annotations.erase annotationScalePhase) annotationScalePhase = "" := by
    unfold Map.str
    rw [Finmap.lookup_erase]
    rfl
  refine ⟨{ cr with annotations := cr.annotations.erase annotationScalePhase }, rfl, ?_,
    fun _ => hcompleted⟩
  unfold phaseOf
  rw [herase]
  exact .finish ⟨rfl, rfl⟩ ((scalePhase_patched _ _ _ _ _).trans herase) hphase rfl (.nil _)

theorem rest_asks {P : Req → Prop} (hP : PermitsSteps P cr)
    (hremove : ∀ pod, MayRemove (fun _ => True) P pod) (F : Formats)
    (settings : Eviction.Settings) (st : State) (plan : Plan) :
    Asks P (if plan.podNames ≠ [] then rollingStep F settings cr st plan
      else andThen (resumeStep cr) fun cr => andThen (sentinelStep settings cr st) fun _ =>
        if 0 < st.nextRequeue then requeue st.nextRequeue else return .ok ()) := by
  split
  · exact rollingStep_issues hP F settings st plan fun pod _ => hremove pod
  · refine andThen_issues (resumeStep_asks hP.toPermits) fun _ cr' h => ?_
    refine andThen_issues (sentinelStep_issues (hP.edited (resumeStep_edits h)) settings st
      fun pod _ => hremove pod) fun _ _ _ => ?_
    split
    · exact requeue_asks hP.phase _
    · exact .ret _

/-- Everything the steps of a reconcile do about scaling: the phase is written together with its
announcement, and a scale operation that completes is done for the plan. -/
theorem steps_announce {o : Except Outcome Unit} (h : (steps F settings st).Runs t o)
    (hok : ∀ e ∈ t, Patched e) :
    ∃ plan phase, ⟨.planUpdates false, plan⟩ ∈ t ∧
      (∃ phase', Announces scalePhase (phaseOf st.cluster) t phase') ∧
      ((∃ e ∈ t, scaleEnd e ≠ none) → scaleCompleted st plan phase = true) := by
  obtain ⟨plan, t', rfl, h'⟩ := runs_asked.1 h
  obtain ⟨-, hok'⟩ := forall_mem_cons.1 hok
  obtain ⟨t1, r1, u1, rfl, h1, hu1⟩ := runs_bind.1 h'
  obtain ⟨hok1, hoku1⟩ := forall_mem_append.1 hok'
  obtain ⟨cr1, rfl, hstart, hnone⟩ := startScale_announces h1 hok1
  obtain ⟨t2, r2, t3, rfl, h2, h3⟩ := runs_bind.1 hu1
  obtain ⟨hok2, -⟩ := forall_mem_append.1 hoku1
  obtain ⟨cr2, rfl, hfinish, hcompleted⟩ := finishScale_announces h2 hok2
  have hrest := (rest_asks (permits_quiet cr2) (fun _ _ _ => ⟨trivial, trivial⟩) F settings st
    plan).mem h3
  have hrest' := announces_of_quiet hrest
  refine ⟨plan, phaseOf cr1, mem_cons_self, ⟨_, .quiet ⟨rfl, rfl⟩ rfl
    (hstart.append (hfinish.append hrest'))⟩, ?_⟩
  rintro ⟨e, he, hend⟩
  rcases mem_cons.1 he with rfl | he
  · exact absurd rfl hend
  rcases mem_append.1 he with he | he
  · exact absurd (hnone e he) hend
  rcases mem_append.1 he with he | he
  · exact hcompleted ⟨e, he, hend⟩
  · exact absurd (hrest e he).silent.1.2 hend

theorem settled_of_completed {phase : String} (h : scaleCompleted st plan phase = true) :
    (st.runtime.activePods : Int) = desiredReplicas st.cluster ∧ plan.podNames = [] := by
  unfold scaleCompleted at h
  dsimp only at h
  split_ifs at h <;> simp_all

end

/-- In the reconcile the pods that are not being deleted are as many as the spec wants, and nothing
is to be updated. -/
def Settled (r : Round) : Prop :=
  ∃ pods sentinels plan, ⟨.podMetadata, .ok (pods, sentinels)⟩ ∈ r.events ∧
    ⟨.planUpdates false, plan⟩ ∈ r.events ∧
    (active pods : Int) = desiredReplicas r.before.cluster ∧ plan.podNames = []

section
variable {r : Round} {phase' : String}

/-- **A reconcile writes the scale phase only together with its announcement**, and a scale
operation completes in it only when it is settled. -/
theorem reconcile_announces (h : ReadsBack F (textOf annotationScalePhase) phase r phase')
    (hok : ∀ e ∈ r.events, Patched e) :
    (∃ phase1, Announces scalePhase phase r.events phase1) ∧
      ((∃ e ∈ r.events, scaleEnd e ≠ none) → Settled r) := by
  obtain ⟨settings, st, t, o⟩ := r
  obtain ⟨hreads, hruns, -⟩ := h
  obtain rfl : phaseOf st.cluster = phase := hreads
  rcases reconcile_reaches hruns with hbefore | ⟨t1, st', t2, rfl, hbefore, hreaches, hsteps⟩
  · have hquiet : ∀ e ∈ t, Quiet (phaseOf st.cluster) e.req := fun e he => (hbefore e he).quiet
    refine ⟨⟨_, announces_of_quiet hquiet⟩, ?_⟩
    rintro ⟨e, he, hend⟩
    exact absurd (hquiet e he).silent.1.2 hend
  · have hquiet : ∀ e ∈ t1, Quiet (phaseOf st.cluster) e.req := fun e he => (hbefore e he).quiet
    obtain ⟨plan, phase1, hplan, ⟨phase2, hannounces⟩, hcompleted⟩ :=
      steps_announce hsteps (forall_mem_append.1 hok).2
    have hphase : phaseOf st'.cluster = phaseOf st.cluster := by
      unfold phaseOf
      rw [hreaches.annotations]
    rw [hphase] at hannounces
    refine ⟨⟨phase2, (announces_of_quiet hquiet).append hannounces⟩, ?_⟩
    rintro ⟨e, he, hend⟩
    have hdone : scaleCompleted st' plan phase1 = true := by
      rcases mem_append.1 he with he | he
      · exact absurd (hquiet e he).silent.1.2 hend
      · exact hcompleted ⟨e, he, hend⟩
    obtain ⟨hactive, hempty⟩ := settled_of_completed hdone
    obtain ⟨pods, sentinels, hlisted, hcount⟩ := hreaches.counted
    refine ⟨pods, sentinels, plan, mem_append_left _ hlisted, mem_append_right _ hplan, ?_, hempty⟩
    rw [← hcount, hactive]
    unfold desiredReplicas
    rw [hreaches.spec]

end

/-! ## Runs -/

section
variable {rs : List Round}

/-- The events of the reconciles. -/
def trace (rs : List Round) : Trace := (rs.map Round.events).flatten

theorem trace_concat (rs : List Round) (r : Round) : trace (rs ++ [r]) = trace rs ++ r.events := by
  simp [trace]

theorem run_announces (h : Transition.Steps (ReadsBack F (textOf annotationScalePhase)) "" rs phase)
    (hok : ∀ r ∈ rs, ∀ e ∈ r.events, Patched e) :
    Announces scalePhase scalePhase.idle (trace rs) phase := by
  refine h.invariant (C := fun r => ∀ e ∈ r.events, Patched e)
    (I := fun rs phase => Announces scalePhase scalePhase.idle (trace rs) phase) hok (.nil _) ?_
  intro rs phase r phase' _ hrs hr hstep
  obtain ⟨⟨phase1, hannounces⟩, -⟩ := reconcile_announces hstep hr
  obtain rfl : phase1 = phase' := hannounces.held_eq.symm.trans hstep.leaves.symm
  rw [trace_concat]
  exact hrs.append hannounces

/-- **The protocol of scale operations**, in every run of reconciles that starts without a scale
phase and whose patches succeed. `ScaleStarted` follows exactly the changes of the phase to its
direction. Before a `ScaleCompleted` the last announcement is the `ScaleStarted` of its direction,
the phase has held the direction since, and the write that ends it has just been made; the reconcile
is settled. -/
theorem scale_protocol (F : Formats)
    (h : Transition.Steps (ReadsBack F (textOf annotationScalePhase)) "" rs phase)
    (hok : ∀ r ∈ rs, ∀ e ∈ r.events, Patched e) :
    (∀ u w d, trace rs = u ++ w → (Begins scalePhase d w ↔ d ≠ "" ∧ Changes scalePhase d u)) ∧
      (∀ u e w d, trace rs = u ++ e :: w → scaleEnd e = some d → Ends scalePhase d u) ∧
      ∀ r ∈ rs, ∀ e ∈ r.events, scaleEnd e ≠ none → Settled r := by
  have hannounces := run_announces h hok
  refine ⟨fun u w d => hannounces.starts_iff, fun u e w d => hannounces.completes_after, ?_⟩
  intro r hr e he hend
  obtain ⟨phase1, phase2, hstep⟩ := h.mem hr
  exact (reconcile_announces hstep (hok r hr)).2 ⟨e, he, hend⟩

end

/-- A cluster with this direction. -/
def scalingA (phase : String) : State where
  cluster := { clusterA with annotations := Finmap.singleton annotationScalePhase phase }

/-- A reconcile with these pods. -/
def scaleRound (phase : String) (names : List String) : Round :=
  played .decimal (recorded (textOf annotationScalePhase))
    (fun _ => disrupting (readyA names) {}) phase (scalingA phase)

theorem disrupting_patched (pods : List Pod) (plan : Plan) (q : Req) :
    Patched ⟨q, disrupting pods plan q⟩ := by
  cases q <;> first | rfl | trivial

/-- Two of three pods start an operation, which completes when the third has come. -/
theorem scale_protocol_up :
    Transition.Steps (ReadsBack .decimal (textOf annotationScalePhase)) ""
        [scaleRound "" ["a-0", "a-1"], scaleRound "up" ["a-0", "a-1", "a-2"]] "" ∧
      (∃ e ∈ (scaleRound "" ["a-0", "a-1"]).events, scaleStart e = some "up") ∧
      (∃ e ∈ (scaleRound "up" ["a-0", "a-1", "a-2"]).events, scaleEnd e = some "up") ∧
      Settled (scaleRound "up" ["a-0", "a-1", "a-2"]) := by
  have hfirst : ReadsBack .decimal (textOf annotationScalePhase) ""
      (scaleRound "" ["a-0", "a-1"]) "up" :=
    played_readsBack (by decide) (by decide +kernel)
  have hsecond : ReadsBack .decimal (textOf annotationScalePhase) "up"
      (scaleRound "up" ["a-0", "a-1", "a-2"]) "" :=
    played_readsBack (by decide) (by decide +kernel)
  have hrun := Transition.Steps.snoc (.snoc .nil hfirst) hsecond
  have hstart : (scaleRound "" ["a-0", "a-1"]).events.any (scaleStart · == some "up") = true := by
    decide +kernel
  have hend : (scaleRound "up" ["a-0", "a-1", "a-2"]).events.any (scaleEnd · == some "up") =
      true := by
    decide +kernel
  obtain ⟨e1, he1, hstart⟩ := any_eq_true.1 hstart
  obtain ⟨e2, he2, hend⟩ := any_eq_true.1 hend
  have hpatched : ∀ r ∈ [scaleRound "" ["a-0", "a-1"], scaleRound "up" ["a-0", "a-1", "a-2"]],
      ∀ e ∈ r.events, Patched e :=
    forall_mem_cons.2 ⟨played_mem fun _ => disrupting_patched _ _,
      forall_mem_singleton.2 (played_mem fun _ => disrupting_patched _ _)⟩
  refine ⟨hrun, ⟨e1, he1, by simpa using hstart⟩, ⟨e2, he2, by simpa using hend⟩, ?_⟩
  refine (scale_protocol .decimal hrun hpatched).2.2 _ (by simp) e2 he2 fun hnone => ?_
  rw [hnone] at hend
  cases hend

end Keyval.Controller
