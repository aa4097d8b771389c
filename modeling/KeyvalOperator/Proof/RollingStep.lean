import KeyvalOperator.Proof.FormerMaster
import KeyvalOperator.Proof.Guards

/-!
# The rolling step and the master

The Runtime phase determines the master, and the Labels phase labels it. `execute` then spares the
pod that carries the label master in memory, and `tryEvictFormerMaster` every pod but the annotated
one; neither looks at the master that the Runtime phase determined.

* `phases_determines`: the steps start with the master that the Runtime phase determined.
* `steps_evicts`: every eviction of a Redis pod is part of `executePlan`, with the guards passed.
* `steps_succeed`: with patches that succeed, the steps come to `executePlan`.
* `sparesMaster_iff`: **a reconcile spares its master unless it comes to the plan with a stale label
  first in line, or with the master annotated and nothing else to evict**.
-/

namespace Keyval.Controller

open Go Interact Interact.Prog Phases Update List

variable {F : Formats} {settings : Eviction.Settings} {st st0 : State} {cr : KeyValCluster}
  {plan : Plan} {t t0 : Trace} {o : Except Outcome Unit} {ns name : String}
  {r : Result Unit} {m : Pod}

/-! ## The master of a reconcile -/

/-- The Runtime phase determines the master within the events `t`. -/
def Determines (F : Formats) (t : Trace) (master : String) : Prop :=
  ∃ st rt u, (runtime F st).Runs u (rt, none) ∧ u <:+: t ∧ rt.runtime.master = master

theorem observe_determines (h : (observe F st0).Runs t (.ok st)) :
    Determines F t st.runtime.master := by
  unfold observe at h
  obtain ⟨t1, st1, t2, rfl, htopology, h1⟩ := runs_andThen h
  obtain ⟨_, _, _, -, -, h2⟩ := runs_andThen h1
  obtain ⟨_, _, _, -, -, h3⟩ := runs_andThen h2
  obtain ⟨-, heq⟩ := runs_ret.1 h3
  cases heq
  obtain ⟨rt, u1, u2, rfl, hruntime, hrest⟩ :=
    reconcileTopology_run (runs_of_orFailPhase htopology)
  refine ⟨st0, rt, u1, hruntime, ⟨[], u2 ++ t2, by simp⟩, ?_⟩
  rcases hrest with ⟨e, -, heq⟩ | ⟨sentinel, u3, u4, -, -, hlabels⟩
  · cases heq
  · obtain ⟨_, _, _, -, -, -, -, hst⟩ := labels_run hlabels
    dsimp only at hst ⊢
    rw [hst, requeueRuntime_runtime]

theorem phases_determines (h : (phases F st0).Runs t (.ok st)) :
    Determines F t st.runtime.master := by
  unfold phases at h
  obtain ⟨t1, _, _, rfl, -, h1⟩ := runs_andThen h
  obtain ⟨t2, _, _, rfl, -, h2⟩ := runs_andThen h1
  obtain ⟨t3, _, _, rfl, -, h3⟩ := runs_andThen h2
  obtain ⟨t4, _, t5, rfl, -, h4⟩ := runs_andThen h3
  obtain ⟨st', rt, u, hruntime, hinfix, hmaster⟩ := observe_determines h4
  refine ⟨st', rt, u, hruntime, hinfix.trans ?_, hmaster⟩
  exact ⟨t1 ++ (t2 ++ (t3 ++ t4)), [], by simp⟩

theorem reconcile_steps (hdeletion : st0.cluster.deletionTimestamp.isSome = false)
    (hphases : (phases F st0).Runs t0 (.ok st)) :
    (reconcileClusterImpl F settings st0).Runs (t0 ++ t) o ↔ (steps F settings st).Runs t o := by
  rw [reconcile_phases hdeletion]
  exact ⟨hphases.of_bind, fun h => hphases.bind h⟩

/-! ## Where the master is evicted -/

/-- The steps come to `executePlan`: there are pods to update, the guards pass, and no failover
comes first. -/
structure Executes (st : State) (plan : Plan) : Prop where
  planned : plan.podNames ≠ []
  guards : planHasReason plan "tls-hash" = true ∨ GuardsHold st.cluster st
  noFailover : ¬ FailsOver st.cluster st plan

theorem Executes.passes (h : Executes st plan) (hcr : cr.spec = st.cluster.spec) :
    plan.podNames = [] ∨ planHasReason plan "tls-hash" = true ∨ GuardsHold cr st := by
  refine .inr (h.guards.imp_right fun hguards => ?_)
  exact ⟨hguards.allowed, hguards.noFailover, hguards.noBootstrap, hcr ▸ hguards.healthy⟩

/-- No eviction of the pod. -/
def SparesPod (name : String) : Req → Prop
  | .evictPod _ n => n ≠ name
  | _ => True

theorem Plain.sparesPod {q : Req} (h : Plain q) (name : String) : SparesPod name q := by
  cases q <;> trivial

theorem mayRemove_of_ne {pod : Pod} (h : pod.name ≠ name) :
    MayRemove SamePod (SparesPod name) pod := by
  intro p hp
  have hname : p.name = pod.name := hp
  exact ⟨fun heq => h (hname.symm.trans heq), trivial⟩

/-- A plain part that comes before an eviction is followed by the rest. -/
theorem runs_andThen_evicts {α : Type} {p : M (Except Outcome α)}
    {k : α → M (Except Outcome Unit)} (hp : Asks Plain p) (h : (andThen p k).Runs t o)
    (hev : ⟨.evictPod ns name, r⟩ ∈ t) :
    ∃ t1 a t2, t = t1 ++ t2 ∧ p.Runs t1 (.ok a) ∧ (k a).Runs t2 o ∧
      ⟨.evictPod ns name, r⟩ ∈ t2 := by
  rcases runs_andThen_cases h with ⟨out, herror⟩ | ⟨t1, a, t2, rfl, h1, h2⟩
  · exact (hp.mem herror _ hev).elim
  · refine ⟨t1, a, t2, rfl, h1, h2, ?_⟩
    exact (mem_append.1 hev).resolve_left fun hmem => hp.mem h1 _ hmem

/-- **Where the steps evict**: in `executePlan`, or among the Sentinel pods. -/
theorem steps_evicts (h : (steps F settings st).Runs (⟨.planUpdates false, plan⟩ :: t) o)
    (hsame : ∀ e ∈ t, SamePod e) (hsentinel : ∀ p ∈ st.sentinelPods, p.name ≠ name)
    (hev : ⟨.evictPod ns name, r⟩ ∈ t) :
    Executes st plan ∧ ∃ cr t', Keeps st.cluster cr ∧
      (executePlan settings cr st plan : M (Except Outcome Unit)).Runs t' o ∧
      ⟨.evictPod ns name, r⟩ ∈ t' ∧ ∀ e ∈ t', e ∈ t := by
  obtain ⟨plan', t', heq, h'⟩ := runs_call.1 h
  obtain ⟨hevent, rfl⟩ := List.cons.inj heq
  cases hevent
  obtain ⟨t1, ⟨cr1, phase⟩, t2, rfl, hstart, h2, hev2⟩ := runs_andThen_evicts
    (startScale_asks (fun _ => trivial) (fun _ _ _ => trivial) plan) h' hev
  obtain ⟨t3, cr2, t4, rfl, hfinish, h4, hev4⟩ := runs_andThen_evicts
    (finishScale_asks trivial (fun _ _ _ => trivial) st plan _) h2 hev2
  have hkeeps : Keeps st.cluster cr2 := (startScale_keeps hstart).trans (finishScale_keeps hfinish)
  split at h4
  · next hplanned =>
    obtain ⟨hguards, cr3, t5, hkeeps3, hfailover, hexec, hev5, hsub⟩ :=
      rollingStep_evicts h4 hev4
    refine ⟨⟨hplanned, ?_, ?_⟩, cr3, t5, hkeeps.trans hkeeps3, hexec, hev5,
      fun e he => mem_append_right _ (mem_append_right _ (hsub e he))⟩
    · refine (hguards.resolve_left hplanned).imp_right fun hg => ?_
      exact ⟨hg.allowed, hg.noFailover, hg.noBootstrap, hkeeps.spec ▸ hg.healthy⟩
    · unfold FailsOver at hfailover ⊢
      rwa [(hkeeps.trans hkeeps3).spec] at hfailover
  · -- the Sentinel pods are other pods
    have hP : ∀ q, Plain q → SparesPod name q := fun _ h => Plain.sparesPod h name
    have hspares : Issues SamePod (SparesPod name) (andThen (resumeStep cr2) fun cr =>
        andThen (sentinelStep settings cr st) fun _ =>
        if 0 < st.nextRequeue then requeue st.nextRequeue else return .ok ()) := by
      refine andThen_issues (plain_issues hP (resumeStep_asks .plain)) fun _ cr _ => ?_
      refine andThen_issues (sentinelStep_issues (.of_plain hP) settings st
        fun p hp => mayRemove_of_ne (hsentinel p hp)) fun _ _ _ => ?_
      split
      · exact plain_issues hP (requeue_asks (fun _ => PhaseReq.plain) _)
      · exact .ret _
    have hsame4 := (forall_mem_append.1 (forall_mem_append.1 hsame).2).2
    exact absurd rfl (hspares.mem h4 hsame4 _ hev4)

/-! ## Steps that come to the plan -/

/-- The patches of the cluster succeed. -/
def Accepts : Event Op → Prop
  | ⟨.patchCluster .., r⟩ => r = .ok ()
  | _ => True

/-- Replies that accept the patches of the cluster. -/
def accepting : Replies
  | .patchCluster .. => .ok ()
  | q => q.unavailable

/-- With patches that succeed, every run of the part succeeds. -/
def Succeeds {α ε : Type} (p : M (Except ε α)) : Prop :=
  ∀ t o, p.Runs t o → (∀ e ∈ t, Accepts e) → ∃ a, o = .ok a

section
variable {α β ε : Type}

theorem Succeeds.exists_run {p : M (Except ε α)} (h : Succeeds p) :
    ∃ t a, p.Runs t (.ok a) ∧ ∀ e ∈ t, SamePod e := by
  obtain ⟨t, o, hrun, hrep⟩ := Prog.exists_run accepting p
  have hreply : ∀ q, Accepts ⟨q, accepting q⟩ ∧ SamePod ⟨q, accepting q⟩ := by
    intro q
    cases q <;> first | exact ⟨rfl, trivial⟩ | exact ⟨trivial, trivial⟩
  have hevents : ∀ e ∈ t, Accepts e ∧ SamePod e := by
    rintro ⟨q, r⟩ he
    obtain rfl : r = accepting q := hrep _ he
    exact hreply q
  obtain ⟨a, rfl⟩ := h t o hrun fun e he => (hevents e he).1
  exact ⟨t, a, hrun, fun e he => (hevents e he).2⟩

theorem succeeds_orWrap {text : String} {p : M (Result α)} (hp : Succeeds p) :
    Succeeds (orWrap text p) := by
  intro t o h hR
  obtain ⟨t1, r, t2, rfl, h1, h2⟩ := runs_bind.1 h
  obtain ⟨a, rfl⟩ := hp _ _ h1 (forall_mem_append.1 hR).1
  exact ⟨a, (runs_ret.1 h2).2⟩

theorem Succeeds.andThen {p : M (Except Outcome α)} {k : α → M (Except Outcome β)}
    (hp : Succeeds p) (hk : ∀ a, Succeeds (k a)) : Succeeds (andThen p k) := by
  intro t o h hR
  obtain ⟨t1, r, t2, rfl, h1, h2⟩ := runs_bind.1 h
  obtain ⟨hR1, hR2⟩ := forall_mem_append.1 hR
  obtain ⟨a, rfl⟩ := hp _ _ h1 hR1
  exact hk a _ _ h2 hR2

theorem edit_succeeds {c : Prop} [Decidable c] (cr : KeyValCluster) (annotations : Map String)
    (kept changed : α) : Succeeds (edit cr c annotations kept changed) := by
  intro t o h hR
  unfold edit patchAnnotations at h
  split at h
  · exact ⟨_, (runs_ret.1 h).2⟩
  · obtain ⟨t1, r, t2, rfl, h1, h2⟩ := runs_bind.1 h
    obtain ⟨rep, t3, rfl, h3⟩ := runs_call.1 h1
    obtain ⟨-, rfl⟩ := runs_ret.1 h3
    obtain rfl : r = .ok () := hR _ (.head _)
    exact ⟨_, (runs_ret.1 h2).2⟩

end

theorem startScale_succeeds (st : State) (plan : Plan) : Succeeds (startScale st plan) := by
  unfold startScale setScalePhaseAnnotation
  dsimp only
  split
  · refine (succeeds_orWrap ?_).andThen fun r t o h _ => ?_
    · split
      · exact fun t o h _ => ⟨_, (runs_ret.1 h).2⟩
      · exact edit_succeeds _ _ _ _
    · obtain ⟨_, _, _, -, -, h'⟩ := runs_bind.1 h
      exact ⟨_, (runs_ret.1 h').2⟩
  · exact fun t o h _ => ⟨_, (runs_ret.1 h).2⟩

theorem finishScale_succeeds (st : State) (plan : Plan) (cr : KeyValCluster) (phase : String) :
    Succeeds (finishScale st plan cr phase) := by
  unfold finishScale clearScalePhaseAnnotation
  split
  · refine (succeeds_orWrap (edit_succeeds _ _ _ _)).andThen fun r t o h _ => ?_
    obtain ⟨_, _, -, h'⟩ := runs_call.1 h
    exact ⟨_, (runs_ret.1 h').2⟩
  · exact fun t o h _ => ⟨_, (runs_ret.1 h).2⟩

theorem resumeStep_succeeds (cr : KeyValCluster) : Succeeds (resumeStep cr) := by
  unfold resumeStep clearUpdateBlockedAnnotation
  refine (succeeds_orWrap (edit_succeeds _ _ _ _)).andThen fun r t o h _ => ?_
  obtain ⟨_, _, _, -, -, h'⟩ := runs_bind.1 h
  exact ⟨_, (runs_ret.1 h').2⟩

/-- **Steps that come to `executePlan`**, and go on with any run of it. -/
theorem steps_succeed (F : Formats) (settings : Eviction.Settings) (hst : Executes st plan) :
    ∃ cr t, Keeps st.cluster cr ∧ (∀ e ∈ t, SamePod e) ∧
      ∀ t' o, (executePlan settings cr st plan : M (Except Outcome Unit)).Runs t' o →
        (steps F settings st).Runs (⟨.planUpdates false, plan⟩ :: (t ++ t')) o := by
  obtain ⟨t1, ⟨cr1, phase⟩, hstart, hsame1⟩ := (startScale_succeeds st plan).exists_run
  obtain ⟨t2, cr2, hfinish, hsame2⟩ := (finishScale_succeeds st plan cr1 phase).exists_run
  obtain ⟨t3, cr3, hresume, hsame3⟩ := (resumeStep_succeeds cr2).exists_run
  have hkeeps2 := (startScale_keeps hstart).trans (finishScale_keeps hfinish)
  have hkeeps3 := hkeeps2.trans (resumeStep_keeps hresume)
  have hfailover : ¬ FailsOver cr3 st plan := by
    unfold FailsOver
    rw [hkeeps3.spec]
    exact hst.noFailover
  refine ⟨cr3, t1 ++ (t2 ++ t3), hkeeps3, ?_, fun t' o hexec => .call _ ?_⟩
  · exact forall_mem_append.2 ⟨hsame1, forall_mem_append.2 ⟨hsame2, hsame3⟩⟩
  · have hroll : (rollingStep F settings cr2 st plan : M (Except Outcome Unit)).Runs
        (t3 ++ t') o := by
      unfold rollingStep
      dsimp only
      rw [(evaluateGuards_passes cr2 st plan).2 (hst.passes hkeeps2.spec), if_neg (by simp)]
      refine hresume.bind ?_
      dsimp only
      rwa [if_neg (show ¬ (_ ∧ _) from hfailover)]
    rw [append_assoc, append_assoc]
    refine hstart.bind (hfinish.bind ?_)
    dsimp only
    rwa [if_pos hst.planned]

/-! ## Which masters are spared -/

/-- A cluster in Sentinel mode with several replicas, whose pods have names: the state that the
steps start from. -/
structure Rollout (st : State) : Prop where
  mode : st.cluster.spec.mode = .sentinel
  replicas : 1 < st.cluster.spec.redisReplicas
  named : ∀ p ∈ st.redisPods, p.name ≠ ""
  sentinels : ∀ p ∈ st.sentinelPods, p.name ≠ st.runtime.master

/-- The master has a stale label and is the first pod of the plan that `execute` may evict. -/
structure Exposed (st : State) (plan : Plan) (m : Pod) : Prop where
  listed : st.redisPods.find? (·.name = st.runtime.master) = some m
  stale : m.role ≠ PodRole.master.str
  healthy : hasReasonForPod plan m.name "tls-hash" = true ∨
    lastHealthy st.redisPods st.runtime.health m.name = false
  ready : ordinal m.name = 0 → 1 < st.redisPods.countP isPodReady
  undisturbed : Undisturbed plan st.redisPods
  first : ∃ before after, plan.podNames = before ++ m.name :: after ∧
    PassesOver st.cluster plan st.redisPods st.runtime.health .redis before

/-- The master is the annotated former master, another pod is ready, and `execute` has nothing to
evict. -/
structure Restarted (st : State) (plan : Plan) (m : Pod) : Prop where
  listed : st.redisPods.find? (·.name = st.runtime.master) = some m
  annotated : formerMaster st.cluster = m.name
  present : m.deletionTimestamp = none
  other : ∃ p ∈ st.redisPods, p.name ≠ m.name ∧ isPodReady p = true
  idle : ¬ Undisturbed plan st.redisPods ∨
    PassesOver st.cluster plan st.redisPods st.runtime.health .redis plan.podNames

/-- After the events `t0` of its phases, and with the given plan, the reconcile evicts the pod in no
run. -/
def SparesMaster (F : Formats) (settings : Eviction.Settings) (st0 : State) (t0 : Trace)
    (plan : Plan) (name : String) : Prop :=
  ∀ t o, (reconcileClusterImpl F settings st0).Runs (t0 ++ ⟨.planUpdates false, plan⟩ :: t) o →
    (∀ e ∈ t, SamePod e) →
    ∀ ns r, (⟨.evictPod ns name, r⟩ : Event Op) ∉ t0 ++ ⟨.planUpdates false, plan⟩ :: t

theorem skipped_congr (h : cr.spec = st.cluster.spec) (pod : Pod) :
    skipped cr plan st.redisPods st.runtime.health .redis pod =
      skipped st.cluster plan st.redisPods st.runtime.health .redis pod := by
  unfold skipped
  rw [h]

theorem Exposed.takes (h : Exposed st plan m) (hcr : cr.spec = st.cluster.spec) :
    Takes cr plan st.redisPods st.runtime.health .redis m := by
  have hname : m.name = st.runtime.master := by simpa using find?_some h.listed
  refine ⟨h.undisturbed, hname ▸ h.listed, ?_, ?_⟩
  · have hhealth : (!hasReasonForPod plan m.name "tls-hash" &&
        lastHealthy st.redisPods st.runtime.health m.name) = false := by
      rcases h.healthy with hreason | hlast
      · rw [hreason, Bool.not_true, Bool.false_and]
      · rw [hlast, Bool.and_false]
    have hready : ¬ (ordinal m.name = 0 ∧ st.redisPods.countP isPodReady ≤ 1) :=
      fun h' => absurd (h.ready h'.1) (Nat.not_lt.2 h'.2)
    unfold skipped
    rw [Option.any_some, hhealth, decide_eq_false h.stale]
    simp only [Bool.false_and, Bool.or_false, Bool.and_eq_false_iff, Bool.false_or,
      decide_eq_false_iff_not]
    exact .inl (.inl (by simpa only [Bool.and_eq_false_iff, decide_eq_false_iff_not, not_and_or]
      using hready))
  · obtain ⟨before, after, hsplit, hbefore⟩ := h.first
    refine ⟨before, after, hsplit, fun n hn p hfind => ?_⟩
    rw [skipped_congr hcr]
    exact hbefore n hn p hfind

theorem exposed_of_takes (hst : Rollout st) (hcr : cr.spec = st.cluster.spec)
    (h : Takes cr plan st.redisPods st.runtime.health .redis m)
    (hname : m.name = st.runtime.master) : Exposed st plan m := by
  have hkept := h.kept
  unfold skipped at hkept
  rw [hcr, Option.any_some, Bool.or_eq_false_iff, Bool.or_eq_false_iff] at hkept
  obtain ⟨⟨hhealth, hlabel⟩, hready⟩ := hkept
  refine ⟨hname ▸ h.listed, fun hrole => ?_, ?_, fun hordinal => ?_, h.undisturbed, ?_⟩
  · simp [hrole, hst.replicas] at hlabel
  · cases hreason : hasReasonForPod plan m.name "tls-hash" with
    | true => exact .inl rfl
    | false => exact .inr (by simpa [hreason] using hhealth)
  · simpa [hordinal, hst.replicas] using hready
  · obtain ⟨before, after, hsplit, hbefore⟩ := h.first
    refine ⟨before, after, hsplit, fun n hn p hfind => ?_⟩
    rw [← skipped_congr hcr]
    exact hbefore n hn p hfind

/-- The pods of `executePlan` that are evicted: an exposed master, or one to restart. -/
theorem executePlan_master (hst : Rollout st) (hcr : Keeps st.cluster cr)
    (h : (executePlan settings cr st plan : M (Except Outcome Unit)).Runs t o)
    (hsame : ∀ e ∈ t, SamePod e) (hev : ⟨.evictPod ns st.runtime.master, r⟩ ∈ t) :
    ∃ m, Exposed st plan m ∨ Restarted st plan m := by
  obtain ⟨t1, res, t2, rfl, h1, h2⟩ := executePlan_run h
  obtain ⟨hsame1, hsame2⟩ := forall_mem_append.1 hsame
  rcases takes_or_idle cr plan st.redisPods st.runtime.health .redis with ⟨pod, htakes⟩ | hidle
  · rw [execute_takes htakes] at h1
    obtain ⟨hreport, rep, t', rfl, hrep⟩ := evictOne_run h1
    have hpod := mem_of_find?_eq_some htakes.listed
    have hquiet : ∀ e ∈ t2, NoRemove e.req := by
      rcases h2 with ⟨rfl, -⟩ | ⟨-, hquiet⟩
      · exact absurd (hreport rfl).symm (hst.named pod hpod)
      · exact hquiet
    have hev1 := (mem_append.1 hev).resolve_right fun hmem => hquiet _ hmem
    have hev' : ⟨.evictPod ns st.runtime.master, r⟩ ∈ t' := by simpa using hev1
    cases rep with
    | error e =>
      obtain rfl : t' = [] := hrep
      cases hev'
    | ok toDel =>
      have hread : toDel.name = pod.name := hsame1 _ (.head _)
      obtain ⟨-, hmaster⟩ := hrep _ hev'
      exact ⟨pod, .inl (exposed_of_takes hst hcr.spec htakes (hread.symm.trans hmaster.symm))⟩
  · rw [execute_idle hidle] at h1
    obtain ⟨rfl, rfl⟩ := runs_ret.1 h1
    obtain ⟨-, hformer⟩ := h2.resolve_right fun h => h.1 rfl
    rcases restartFormerMaster_run hformer with
      hquiet | ⟨pod, current, t', hne, hfind, hdel, hready, rfl, h'⟩
    · exact (hquiet _ hev).elim
    · have hpod : pod.name = formerMaster cr := by simpa using find?_some hfind
      have hread : current.name = pod.name := hsame2 _ (.head _)
      have hev' : ⟨.evictPod ns st.runtime.master, r⟩ ∈ t' := by simpa using hev
      obtain ⟨-, hmaster⟩ := h' _ hev'
      have hformer' : formerMaster cr = st.runtime.master :=
        hpod.symm.trans (hread.symm.trans hmaster.symm)
      refine ⟨pod, .inr ⟨hformer' ▸ hfind, hcr.formerMaster.symm.trans hpod.symm, hdel, ?_, ?_⟩⟩
      · exact hpod ▸ hready
      · refine hidle.imp_right fun hover n hn p hp => ?_
        rw [← skipped_congr hcr.spec]
        exact hover n hn p hp

/-- Such a master is evicted in some run. -/
theorem exists_executePlan_master (settings : Eviction.Settings) (hst : Rollout st)
    (hcr : Keeps st.cluster cr) (h : Exposed st plan m ∨ Restarted st plan m) :
    ∃ t o, (executePlan settings cr st plan : M (Except Outcome Unit)).Runs t o ∧
      (∀ e ∈ t, SamePod e) ∧ ⟨.evictPod m.ns st.runtime.master, .ok ()⟩ ∈ t := by
  rcases h with hexposed | hrestarted
  · have hname : m.name = st.runtime.master := by simpa using find?_some hexposed.listed
    have hrun := evictOne_ok settings .redis m
    rw [← execute_takes (hexposed.takes hcr.spec)] at hrun
    obtain ⟨t, o, hplan, hsame⟩ := exists_executePlan st hrun
    refine ⟨_, o, hplan, forall_mem_append.2 ⟨by simp [SamePod], hsame⟩, ?_⟩
    simp [hname]
  · have hname : m.name = st.runtime.master := by simpa using find?_some hrestarted.listed
    have hmem := mem_of_find?_eq_some hrestarted.listed
    obtain ⟨t, o, hrun, hsame, hev⟩ := restartFormerMaster_ok settings cr st m (hst.named m hmem)
      (hcr.formerMaster.trans hrestarted.annotated) (hname ▸ hrestarted.listed)
      hrestarted.present hrestarted.other
    refine ⟨t, o, ?_, hsame, hname ▸ hev⟩
    unfold executePlan
    rw [execute_idle (hrestarted.idle.imp_right fun hover n hn p hp => ?_)]
    · exact hrun
    · rw [skipped_congr hcr.spec]
      exact hover n hn p hp

theorem exists_evicts (settings : Eviction.Settings)
    (hdeletion : st0.cluster.deletionTimestamp.isSome = false)
    (hphases : (phases F st0).Runs t0 (.ok st)) (hst : Rollout st) (hexec : Executes st plan)
    (h : Exposed st plan m ∨ Restarted st plan m) :
    ∃ t o, (reconcileClusterImpl F settings st0).Runs
        (t0 ++ ⟨.planUpdates false, plan⟩ :: t) o ∧ (∀ e ∈ t, SamePod e) ∧
      ⟨.evictPod m.ns st.runtime.master, .ok ()⟩ ∈ t := by
  obtain ⟨cr, t1, hkeeps, hsame1, hsteps⟩ := steps_succeed F settings hexec
  obtain ⟨t2, o, hplan, hsame2, hev⟩ := exists_executePlan_master settings hst hkeeps h
  exact ⟨t1 ++ t2, o, (reconcile_steps hdeletion hphases).2 (hsteps t2 o hplan),
    forall_mem_append.2 ⟨hsame1, hsame2⟩, mem_append_right _ hev⟩

/-- **Which masters are spared**: after any run of its phases, with their label patches, a reconcile
of a plan spares the master that its Runtime phase determined, exactly when it does not come to the
plan while the master is exposed or about to be restarted. -/
theorem sparesMaster_iff (hdeletion : st0.cluster.deletionTimestamp.isSome = false)
    (hphases : (phases F st0).Runs t0 (.ok st)) (hst : Rollout st) (plan : Plan) :
    Determines F t0 st.runtime.master ∧
      (SparesMaster F settings st0 t0 plan st.runtime.master ↔
        ¬ (Executes st plan ∧ ∃ m, Exposed st plan m ∨ Restarted st plan m)) := by
  refine ⟨phases_determines hphases, ?_, ?_⟩
  · rintro hspares ⟨hexec, m, hm⟩
    obtain ⟨t, o, hrun, hsame, hev⟩ := exists_evicts settings hdeletion hphases hst hexec hm
    exact hspares t o hrun hsame _ _ (mem_append_right _ (.tail _ hev))
  · rintro hsafe t o hrun hsame ns r hev
    have hev' : ⟨.evictPod ns st.runtime.master, r⟩ ∈ t := by
      rcases mem_append.1 hev with hev | hev
      · exact ((phases_asks F st0).mem hphases _ hev).elim
      · simpa using hev
    obtain ⟨hexec, cr, t', hkeeps, hplan, hmem, hsub⟩ := steps_evicts
      ((reconcile_steps hdeletion hphases).1 hrun) hsame hst.sentinels hev'
    exact hsafe ⟨hexec, executePlan_master hst hkeeps hplan (fun e he => hsame e (hsub e he)) hmem⟩

/-! ### Stale labels -/

/-- The reconcile of the cluster `a`, whose pods are listed with `a-1` as the labelled master. -/
def staleA : State where
  cluster := clusterA

/-- The plan that is left when `a-2` has been updated. -/
def stalePlan : Plan := planFor "tls-hash" ["a-0", "a-1"]

/-- The replies of `obliging`, with those to the label patches given. -/
def labelling (patch : Pod → String → Result Pod) (g : Graph) : Replies
  | .patchPodRole _ name _ role =>
    ((formerPods "a-1" true).find? (·.name = name)).elim (.error { msg := "not found" })
      fun p => patch p role
  | q => obliging (formerPods "a-1" true) stalePlan g q

theorem labelling_ok (patch : Pod → String → Result Pod) (g : Graph) (q : Req) :
    redisWorld.ok g ⟨q, labelling patch g q⟩ := by
  cases q <;> first | trivial | exact Sentinel.sentinelNames_ok "" g _

/-- The phases of the reconcile while Redis has `a-0` as its master. -/
def phasesA (patch : Pod → String → Result Pod) : Trace × Except Outcome State :=
  redisWorld.play (labelling patch) Replication.graphA (phases .decimal staleA)

/-- Every label patch conflicts. -/
def contended (_ : Pod) (_ : String) : Result Pod :=
  .error { msg := "conflict", reason := .conflict }

/-- Every label patch succeeds. -/
def relabelled (p : Pod) (role : String) : Result Pod := .ok (p.setRole role)

/-- The phases end with the pods as labelled and with `a-0` as the master. -/
def labelled (labelledMaster : String) : Except Outcome State → Bool
  | .ok st => st.redisPods = formerPods labelledMaster true && st.runtime.master = "a-0" &&
    st.sentinelPods.all (·.name ≠ "a-0") && st.cluster.spec.mode = .sentinel &&
    st.cluster.spec.redisReplicas = 3 && formerMaster st.cluster = ""
  | .error _ => false

theorem exists_labelled {patch : Pod → String → Result Pod} {labelledMaster : String}
    (h : labelled labelledMaster (phasesA patch).2 = true) :
    ∃ t0 st, (phases .decimal staleA).Runs t0 (.ok st) ∧
      redisWorld.Admits Replication.graphA t0 ∧ Rollout st ∧
      st.redisPods = formerPods labelledMaster true ∧ st.runtime.master = "a-0" ∧
      formerMaster st.cluster = "" := by
  have hrun := World.runs_play (W := redisWorld) (r := labelling patch) Replication.graphA
    (phases .decimal staleA)
  have hadm := World.admits_play (W := redisWorld) (labelling_ok patch) Replication.graphA
    (phases .decimal staleA)
  unfold phasesA at h
  generalize redisWorld.play (labelling patch) Replication.graphA (phases .decimal staleA) = out
    at h hrun hadm
  obtain ⟨t0, out⟩ := out
  cases out with
  | error o => cases h
  | ok st =>
    simp only [labelled, Bool.and_eq_true, decide_eq_true_eq, all_eq_true] at h
    obtain ⟨⟨⟨⟨⟨hpods, hmaster⟩, hsentinels⟩, hmode⟩, hreplicas⟩, hformer⟩ := h
    refine ⟨t0, st, hrun, hadm, ⟨hmode, hreplicas ▸ by decide, ?_, hmaster ▸ hsentinels⟩, hpods,
      hmaster, hformer⟩
    rw [hpods]
    simp [formerPods, rolloutPod, podA, Pod.setRole]

/-- The label patches of the listed `a-0` and `a-1` succeed, and the master is spared. -/
theorem relabelled_spares_a0 :
    ∃ t0 st, (phases .decimal staleA).Runs t0 (.ok st) ∧ Rollout st ∧
      Determines .decimal t0 "a-0" ∧ SparesMaster .decimal {} staleA t0 stalePlan "a-0" := by
  have hlabelled : labelled "a-0" (phasesA relabelled).2 = true := by decide +kernel
  obtain ⟨t0, st, hphases, -, hst, hpods, hmaster, hformer⟩ := exists_labelled hlabelled
  obtain ⟨hdetermines, hiff⟩ : _ ∧ (SparesMaster .decimal {} staleA t0 stalePlan _ ↔ _) :=
    sparesMaster_iff rfl hphases hst stalePlan
  rw [hmaster] at hdetermines hiff
  refine ⟨t0, st, hphases, hst, hdetermines, hiff.2 ?_⟩
  rintro ⟨-, m, hexposed | hrestarted⟩
  · have hlisted := hexposed.listed
    rw [hpods, hmaster] at hlisted
    cases hlisted
    exact hexposed.stale rfl
  · have hlisted := hrestarted.listed
    rw [hpods, hmaster] at hlisted
    cases hlisted
    exact absurd (hformer.symm.trans hrestarted.annotated) (by decide)

/-- Redis has moved the master to `a-0`, the label patches conflict, and the certificates are new:
the reconcile determines the master `a-0` and evicts it. -/
theorem contended_labels_evict_a0 :
    ∃ t0 st, (phases .decimal staleA).Runs t0 (.ok st) ∧
      redisWorld.Admits Replication.graphA t0 ∧ Rollout st ∧ Determines .decimal t0 "a-0" ∧
      (∃ t o, (reconcileClusterImpl .decimal {} staleA).Runs
          (t0 ++ ⟨.planUpdates false, stalePlan⟩ :: t) o ∧ (∀ e ∈ t, SamePod e) ∧
        ⟨.evictPod "prod" "a-0", .ok ()⟩ ∈ t) ∧
      ¬ SparesMaster .decimal {} staleA t0 stalePlan "a-0" := by
  have hlabelled : labelled "a-1" (phasesA contended).2 = true := by decide +kernel
  obtain ⟨t0, st, hphases, hadm, hst, hpods, hmaster, -⟩ := exists_labelled hlabelled
  have hexec : Executes st stalePlan := by
    refine ⟨by decide, .inl (by decide), fun h => ?_⟩
    simp [FailsOver, onlyMasterPending, stalePlan, planFor] at h
  have hexposed : Exposed st stalePlan
      { rolloutPod "a-0" "replica" true with podIP := "10.0.0.1" } := by
    refine ⟨?_, by decide, .inl (by decide), fun _ => ?_, ⟨?_, ?_⟩, [], ["a-1"], rfl,
      forall_mem_nil _⟩
    · rw [hpods, hmaster]
      decide
    all_goals
      rw [hpods]
      decide
  obtain ⟨t, o, hrun, hsame, hev⟩ := exists_evicts {} rfl hphases hst hexec (.inl hexposed)
  rw [hmaster] at hev
  refine ⟨t0, st, hphases, hadm, hst, hmaster ▸ phases_determines hphases,
    ⟨t, o, hrun, hsame, hev⟩, fun h => ?_⟩
  exact h t o hrun hsame _ _ (mem_append_right _ (.tail _ hev))

end Keyval.Controller
