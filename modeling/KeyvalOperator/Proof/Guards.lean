import KeyvalOperator.Proof.Disruption

/-!
# The guards of a rolling step

`evaluateGuards` decides for a whole plan and `execute` for each pod; the restart of a former master
comes after both and makes a weaker test of its own.

* `rollingStep_evicts`: an eviction of a rolling step follows the guards, which a plan passes with a
  reason to skip them.
* `restartsGuarded_iff`: **when the restart of a former master respects the tests of `execute`**.
* `exemptsPerPod_iff`: **when the exemption for new certificates is one of each pod**.
-/

namespace Keyval.Controller

open Go Interact Interact.Prog Phases Update List

variable {o : Except Outcome Unit} {settings : Eviction.Settings} {cr : KeyValCluster} {st : State}
  {plan : Plan}

/-! ## The former master -/

section
variable (settings : Eviction.Settings) (cr : KeyValCluster) (st : State) (plan : Plan)

/-- What `execute` asks of the pods, besides the former master itself. -/
structure OthersUndisturbed : Prop where
  present : ∀ p ∈ st.redisPods, p.name ≠ formerMaster cr → p.deletionTimestamp = none
  ready : ∀ p ∈ st.redisPods, p.name ∉ plan.podNames → isPodReady p = true

/-- The former master is evicted only while the other pods are undisturbed: in every run in which
`execute` reports nothing and the former master is restarted. -/
def RestartsGuarded : Prop :=
  ∀ t1 t2 (o : Except Outcome Unit),
    (execute cr plan st.redisPods st.runtime.health .redis settings).Runs t1 ("", none) →
    (restartFormerMaster settings cr st).Runs t2 o → ∀ ns name r,
    ⟨.evictPod ns name, r⟩ ∈ t2 → OthersUndisturbed cr st plan

/-- The former master is listed, does not terminate, and another pod is ready. -/
def Restartable : Prop :=
  formerMaster cr ≠ "" ∧ ∃ pod, st.redisPods.find? (·.name = formerMaster cr) = some pod ∧
    pod.deletionTimestamp = none ∧
    ∃ p ∈ st.redisPods, p.name ≠ formerMaster cr ∧ isPodReady p = true

end

theorem execute_disturbed (h : ¬ OthersUndisturbed cr st plan) :
    execute cr plan st.redisPods st.runtime.health .redis settings = return ("", none) :=
  execute_idle (.inl fun hund => h ⟨fun p hp _ => hund.present p hp, hund.ready⟩)

/-- **When the restart of a former master respects the guards**: exactly when they hold, or there is
nothing to restart. -/
theorem restartsGuarded_iff :
    RestartsGuarded settings cr st plan ↔ (Restartable cr st → OthersUndisturbed cr st plan) := by
  constructor
  · rintro h ⟨hname, pod, hfind, hpresent, hready⟩
    by_contra hdisturbed
    have hpod : pod.name = formerMaster cr := by simpa using find?_some hfind
    rw [← hpod] at hname hfind hready
    obtain ⟨t, o, hrun, -, hev⟩ :=
      restartFormerMaster_ok settings cr st pod hname hpod.symm hfind hpresent hready
    refine hdisturbed (h [] t o ?_ hrun _ _ _ hev)
    rw [execute_disturbed hdisturbed]
    exact .ret _
  · intro h t1 t2 o _ hrun ns name r hev
    rcases restartFormerMaster_run hrun with hquiet | ⟨pod, _, _, hne, hfind, hdel, hready, -⟩
    · exact (hquiet _ hev).elim
    · exact h ⟨hne, pod, hfind, hdel, hready⟩

/-- A cluster whose third pod terminates. -/
def terminatingA : State where
  cluster := { clusterA with
    annotations := (∅ : Map String).insert annotationRestartFormerMaster "a-1" }
  redisPods := readyA ["a-0", "a-1"] ++
    [{ rolloutPod "a-2" "replica" false with deletionTimestamp := some 1 }]

/-- While `a-2` terminates, `execute` evicts nothing, and the former master `a-1` is evicted. -/
theorem terminating_a2_evicts_a1 :
    (∃ (t : Trace) (o : Except Outcome Unit),
      (execute terminatingA.cluster (planFor "config-hash" ["a-1"]) terminatingA.redisPods (some ∅)
        .redis {}).Runs [] ("", none) ∧
      (restartFormerMaster {} terminatingA.cluster terminatingA).Runs t o ∧
      ⟨.evictPod "prod" "a-1", .ok ()⟩ ∈ t) ∧
    ¬ RestartsGuarded {} terminatingA.cluster terminatingA (planFor "config-hash" ["a-1"]) := by
  have hexec : (execute terminatingA.cluster (planFor "config-hash" ["a-1"]) terminatingA.redisPods
      terminatingA.runtime.health .redis {}).Runs [] ("", none) := by
    rw [execute_disturbed fun h => absurd (h.present _ (.tail _ (.tail _ (.head _))) (by decide))
      (by decide)]
    exact .ret _
  obtain ⟨t, o, hrun, -, hev⟩ := restartFormerMaster_ok {} terminatingA.cluster terminatingA
    (rolloutPod "a-1" "replica" true) (by decide) (by decide) (by decide) (by decide) (by decide)
  refine ⟨⟨t, o, hexec, hrun, hev⟩, fun h => ?_⟩
  have hothers := h [] t o hexec hrun _ _ _ hev
  exact absurd (hothers.present _ (.tail _ (.tail _ (.head _))) (by decide)) (by decide)

/-! ## New certificates -/

/-- What `Guards` checks. -/
structure GuardsHold (cr : KeyValCluster) (st : State) : Prop where
  allowed : st.status.computed.healthGate = some true
  noFailover : hasCondition st.status.computed "FailoverInProgress" .true = false
  noBootstrap : hasCondition st.status.computed "BootstrapInProgress" .true = false
  healthy : 1 < cr.spec.redisReplicas →
    countHealthyReplicas st.redisPods st.runtime.health st.runtime.master ≠ 0

/-- A rolling step that evicts a pod without a reason of its own to skip the guards has passed
them. -/
def ExemptsPerPod (F : Formats) (settings : Eviction.Settings) (cr : KeyValCluster) (st : State)
    (plan : Plan) : Prop :=
  ∀ t (o : Except Outcome Unit), (rollingStep F settings cr st plan).Runs t o →
    (∀ e ∈ t, SamePod e) → ∀ ns name r, ⟨.evictPod ns name, r⟩ ∈ t →
    hasReasonForPod plan name "tls-hash" = false → GuardsHold cr st

section
variable {F : Formats} {t : Trace} {ns name : String} {r : Result Unit}

theorem executePlan_evicted (h : (executePlan settings cr st plan).Runs t o)
    (hsame : ∀ e ∈ t, SamePod e) (hev : ⟨.evictPod ns name, r⟩ ∈ t) :
    name ∈ plan.podNames ∨ formerMaster cr ≠ "" ∧ name = formerMaster cr := by
  obtain ⟨t1, res, t2, rfl, h1, h2⟩ := executePlan_run h
  obtain ⟨hsame1, hsame2⟩ := forall_mem_append.1 hsame
  rcases mem_append.1 hev with hev | hev
  · exact .inl (execute_evicts h1 hsame1 hev).2
  · rcases h2 with ⟨-, hformer⟩ | ⟨-, hquiet⟩
    · rcases restartFormerMaster_run hformer with
        hquiet | ⟨pod, current, t', hne, hfind, -, -, rfl, h'⟩
      · exact (hquiet _ hev).elim
      · have hpod : pod.name = formerMaster cr := by simpa using find?_some hfind
        have hread : current.name = pod.name := hsame2 _ (.head _)
        have hev' : ⟨.evictPod ns name, r⟩ ∈ t' := by simpa using hev
        obtain ⟨-, rfl⟩ := h' _ hev'
        exact .inr ⟨hne, hread.trans hpod⟩
    · exact (hquiet _ hev).elim

/-- The guards let a plan pass that has a reason to skip them, or when they hold. -/
theorem evaluateGuards_passes (cr : KeyValCluster) (st : State) (plan : Plan) :
    (evaluateGuards {
      allowDisruptions := st.status.computed.healthGate = some true
      status := st.status.computed
      plan
      pods := st.redisPods
      health := st.runtime.health
      master := st.runtime.master
      desiredReplicas := cr.spec.redisReplicas }).blocked = false ↔
    plan.podNames = [] ∨ planHasReason plan "tls-hash" = true ∨ GuardsHold cr st := by
  unfold evaluateGuards
  dsimp only
  split_ifs with hnil htls hallow hfail hboot hhealthy
  · simp [hnil]
  · simp [htls]
  · simp only [hnil, htls, false_or, reduceCtorEq, false_iff]
    exact fun h => absurd (h.noFailover.symm.trans hfail) (by simp)
  · simp only [hnil, htls, false_or, reduceCtorEq, false_iff]
    exact fun h => absurd (h.noBootstrap.symm.trans hboot) (by simp)
  · simp only [hnil, htls, false_or, reduceCtorEq, false_iff]
    exact fun h => h.healthy hhealthy.1 hhealthy.2
  · refine iff_of_true rfl (.inr (.inr ⟨by simpa using hallow, by simpa using hfail,
      by simpa using hboot, ?_⟩))
    exact fun hlt hzero => hhealthy ⟨hlt, hzero⟩
  · simp only [hnil, htls, false_or, reduceCtorEq, false_iff]
    exact fun h => hallow (by simpa using h.allowed)

/-- The only pod of the plan is the master, and a controlled failover comes before its eviction. -/
def FailsOver (cr : KeyValCluster) (st : State) (plan : Plan) : Prop :=
  onlyMasterPending st.runtime.master plan ∧ cr.spec.mode = .sentinel ∧
    st.clientFactory ∧ st.sentinelFactory

/-- A rolling step evicts in `executePlan`, after the guards of the plan have let it pass. -/
theorem rollingStep_evicts (h : (rollingStep F settings cr st plan).Runs t o)
    (hev : ⟨.evictPod ns name, r⟩ ∈ t) :
    (plan.podNames = [] ∨ planHasReason plan "tls-hash" = true ∨ GuardsHold cr st) ∧
    ∃ cr' t', Keeps cr cr' ∧ ¬ FailsOver cr' st plan ∧
      (executePlan settings cr' st plan).Runs t' o ∧
      ⟨.evictPod ns name, r⟩ ∈ t' ∧ ∀ e ∈ t', e ∈ t := by
  unfold rollingStep at h
  dsimp only at h
  split at h
  · exact ((blockStep_asks .plain _ _ _ _ _).mem h _ hev).elim
  rename_i hguard
  refine ⟨(evaluateGuards_passes cr st plan).1 (by simpa using hguard), ?_⟩
  obtain ⟨t1, res, t2, rfl, h1, h2⟩ := runs_bind.1 h
  have hev2 : ⟨.evictPod ns name, r⟩ ∈ t2 := by
    rcases mem_append.1 hev with hev | hev
    · exact ((resumeStep_asks .plain).mem h1 _ hev).elim
    · exact hev
  cases res with
  | error o' =>
    obtain ⟨rfl, -⟩ := runs_ret.1 h2
    cases hev2
  | ok cr' =>
    dsimp only at h2
    split at h2
    · exact ((controlledFailover_asks .plain F _).mem h2 _ hev2).elim
    · next hfailover =>
      exact ⟨cr', t2, resumeStep_keeps h1, hfailover, h2, hev2, fun e he => mem_append_right _ he⟩

theorem exemptsPerPod_of (hplan : plan.podNames ≠ [])
    (h : planHasReason plan "tls-hash" = false ∨
      (∀ n ∈ plan.podNames, hasReasonForPod plan n "tls-hash" = true) ∧
        (formerMaster cr = "" ∨ hasReasonForPod plan (formerMaster cr) "tls-hash" = true)) :
    ExemptsPerPod F settings cr st plan := by
  intro t o hrun hsame ns name r hev hreason
  obtain ⟨hguard, cr', t', hkeeps, -, hexec, hev', hsub⟩ := rollingStep_evicts hrun hev
  rcases h with hnone | ⟨hall, hformer⟩
  · rcases hguard with hnil | htls | hguard
    · exact absurd hnil hplan
    · rw [hnone] at htls
      cases htls
    · exact hguard
  · exfalso
    have hkept : formerMaster cr' = formerMaster cr := hkeeps.formerMaster
    rcases executePlan_evicted hexec (fun e he => hsame e (hsub e he)) hev' with
      hname | ⟨hne, rfl⟩
    · rw [hall name hname] at hreason
      cases hreason
    · rw [hkept] at hne hreason
      rw [hformer.resolve_left hne] at hreason
      cases hreason

/-! ### Steps that skip the guards -/

theorem samePod_unavailable {e : Event Op} (h : e.rep = Req.unavailable e.req) : SamePod e := by
  obtain ⟨q, r⟩ := e
  obtain rfl : r = q.unavailable := h
  cases q <;> trivial

theorem exists_executePlan (st : State) {res : String × Option Error}
    (h : (execute cr plan st.redisPods st.runtime.health .redis settings).Runs t res) :
    ∃ t' o, (executePlan settings cr st plan : M (Except Outcome Unit)).Runs (t ++ t') o ∧
      ∀ e ∈ t', SamePod e := by
  obtain ⟨t', o, hrun, hrep⟩ := Runs.exists_bind Req.unavailable h
  exact ⟨t', o, hrun, fun e he => samePod_unavailable (hrep e he)⟩

/-- A Sentinel-mode cluster with a former master to restart. -/
def exemptCluster (former : String) : KeyValCluster :=
  { clusterA with annotations := (∅ : Map String).insert annotationRestartFormerMaster former }

/-- Its state, in which the health gate is not open. -/
def exemptState (former : String) (pods : List Pod) : State where
  cluster := exemptCluster former
  redisPods := pods

theorem exemptState_not_guards (former : String) (pods : List Pod) :
    ¬ GuardsHold (exemptCluster former) (exemptState former pods) :=
  fun h => by cases h.allowed

theorem append_x_ne (name : String) : name ++ "-x" ≠ name := by
  intro heq
  have hlist := congrArg String.toList heq
  simp [String.toList_append] at hlist

theorem rollingStep_exempt {former : String} {pods : List Pod}
    (htls : planHasReason plan "tls-hash" = true)
    (h : (executePlan settings (exemptCluster former) (exemptState former pods) plan).Runs t o) :
    (rollingStep F settings (exemptCluster former) (exemptState former pods) plan).Runs t o := by
  have hblocked : Map.str (exemptCluster former).annotations annotationUpdateBlocked = "" := by
    unfold exemptCluster
    rw [Map.str_insert_ne _ _ (by decide)]
    rfl
  have hresume : (resumeStep (exemptCluster former)).Runs [] (.ok (exemptCluster former)) := by
    unfold resumeStep clearUpdateBlockedAnnotation clearAnnotation
    rw [if_pos hblocked]
    exact .ret _
  unfold rollingStep
  dsimp only
  rw [(evaluateGuards_passes _ _ plan).2 (.inr (.inl htls)), if_neg (by simp)]
  refine runs_bind.2 ⟨[], _, t, rfl, hresume, ?_⟩
  dsimp only
  rw [if_neg (by simp [onlyMasterPending, exemptState])]
  exact h

theorem exempt_evicts_taken (F : Formats) (settings : Eviction.Settings) {former : String}
    {plan : Plan} {pods : List Pod} {pod : Pod} (htls : planHasReason plan "tls-hash" = true)
    (htakes : Takes (exemptCluster former) plan pods (some ∅) .redis pod) :
    ∃ t o, (rollingStep F settings (exemptCluster former) (exemptState former pods) plan :
        M (Except Outcome Unit)).Runs t o ∧ (∀ e ∈ t, SamePod e) ∧
      ⟨.evictPod pod.ns pod.name, .ok ()⟩ ∈ t := by
  have hrun := evictOne_ok settings .redis pod
  rw [← execute_takes htakes] at hrun
  obtain ⟨t, o, hplan, hrep⟩ := exists_executePlan (exemptState former pods) hrun
  refine ⟨_, o, rollingStep_exempt htls hplan, forall_mem_append.2 ⟨by simp [SamePod], hrep⟩, ?_⟩
  simp

/-- A candidate beside the pod that carries the label of the master. -/
def candidatePods (name : String) : List Pod :=
  [rolloutPod name "replica" true, rolloutPod (name ++ "-x") "master" true]

theorem candidatePods_takes (former : String) {name : String} (hname : name ∈ plan.podNames) :
    Takes (exemptCluster former) plan (candidatePods name) (some ∅) .redis
      (rolloutPod name "replica" true) := by
  have hx := append_x_ne name
  have hrole : (rolloutPod name "replica" true).role = "replica" := Pod.setRole_role _ _
  refine ⟨⟨?_, ?_⟩, ?_, ?_, ?_⟩
  · simp [candidatePods, rolloutPod, podA, Pod.setRole]
  · simp [candidatePods, rolloutPod, isPodReady]
  · simp [candidatePods, rolloutPod, podA, Pod.setRole]
  · have hhealthy : lastHealthy (candidatePods name) ∅ name = false := by
      simp [lastHealthy, candidatePods, healthStateForPod, rolloutPod, podA, Pod.setRole,
        isPodReady, hx]
    have hready : 1 < (candidatePods name).countP isPodReady := by
      simp [candidatePods, rolloutPod, isPodReady]
    have hname : (rolloutPod name "replica" true).name = name := rfl
    simp [skipped, hrole, PodRole.str, hname, hhealthy, hready]
  · obtain ⟨before, after, hsplit, hout⟩ := eq_append_cons_of_mem hname
    refine ⟨before, after, hsplit, fun n hn p hfind => ?_⟩
    -- a name before it is that of the master, or of no listed pod
    have hp := mem_of_find?_eq_some hfind
    have hpn : p.name = n := by simpa using find?_some hfind
    rcases mem_pair.1 hp with rfl | rfl
    · exact absurd hn (hpn ▸ hout)
    · have hrole : (rolloutPod (name ++ "-x") "master" true).role = "master" :=
        Pod.setRole_role _ _
      simp [skipped, hrole, PodRole.str, exemptCluster, clusterA, clusterNamed]

theorem exempt_evicts_former (F : Formats) (settings : Eviction.Settings) {former : String}
    (htls : planHasReason plan "tls-hash" = true) (hne : former ≠ "")
    (hname : former ∉ plan.podNames) :
    ∃ t o, (rollingStep F settings (exemptCluster former) (exemptState former
        [rolloutPod former "replica" false, rolloutPod (former ++ "-x") "master" true]) plan :
        M (Except Outcome Unit)).Runs t o ∧ (∀ e ∈ t, SamePod e) ∧
      ⟨.evictPod "prod" former, .ok ()⟩ ∈ t := by
  have hformer : formerMaster (exemptCluster former) = former := Map.str_insert_self _ _ _
  obtain ⟨t, o, hrun, hsame, hev⟩ := restartFormerMaster_ok settings (exemptCluster former)
    (exemptState former
      [rolloutPod former "replica" false, rolloutPod (former ++ "-x") "master" true])
    (rolloutPod former "replica" false) hne hformer (by simp [exemptState, rolloutPod, podA])
    rfl ⟨_, .tail _ (.head _), append_x_ne former, by simp [rolloutPod, isPodReady]⟩
  refine ⟨t, o, rollingStep_exempt htls ?_, hsame, hev⟩
  unfold executePlan
  -- the former master is not ready and not a candidate, which stops `execute`
  rw [execute_disturbed fun h => absurd (h.ready _ (.head _) hname)
    (by simp [rolloutPod, isPodReady])]
  exact hrun

end

/-- **When the exemption is one of each pod**: exactly when the plan has no reason to skip the
guards, or all pods that the step can evict have it. -/
theorem exemptsPerPod_iff {plan : Plan} (hplan : plan.podNames ≠ []) (former : String) :
    (∀ F settings cr st, formerMaster cr = former → ExemptsPerPod F settings cr st plan) ↔
      planHasReason plan "tls-hash" = false ∨
      (∀ n ∈ plan.podNames, hasReasonForPod plan n "tls-hash" = true) ∧
        (former = "" ∨ hasReasonForPod plan former "tls-hash" = true) := by
  constructor
  · intro h
    by_contra! hcon
    obtain ⟨htls, hcon⟩ := hcon
    have htls : planHasReason plan "tls-hash" = true := by simpa using htls
    have hformer : formerMaster (exemptCluster former) = former := Map.str_insert_self _ _ _
    have hall : ∀ n ∈ plan.podNames, hasReasonForPod plan n "tls-hash" = true := by
      intro n hn
      by_contra hreason
      obtain ⟨t, o, hrun, hsame, hev⟩ :=
        exempt_evicts_taken .decimal {} htls (candidatePods_takes former hn)
      exact exemptState_not_guards _ _
        (h _ _ _ _ hformer t o hrun hsame _ n _ hev (by simpa using hreason))
    obtain ⟨hne, hreason⟩ := hcon hall
    have hout : former ∉ plan.podNames := fun hmem => hreason (hall former hmem)
    obtain ⟨t, o, hrun, hsame, hev⟩ := exempt_evicts_former .decimal {} htls hne hout
    exact exemptState_not_guards _ _
      (h _ _ _ _ hformer t o hrun hsame _ _ _ hev (by simpa using hreason))
  · rintro h F settings cr st rfl
    exact exemptsPerPod_of hplan h

theorem exemptsPerPod_config : (planFor "config-hash" ["a-2", "a-1"]).podNames ≠ [] ∧
    ∀ F settings cr st, formerMaster cr = "" →
      ExemptsPerPod F settings cr st (planFor "config-hash" ["a-2", "a-1"]) :=
  ⟨by decide, (exemptsPerPod_iff (by decide) "").2 (.inl (by decide))⟩

/-- A plan whose pods have different reasons. -/
def mixedPlan : Plan where
  podNames := ["a-2", "a-1"]
  reasons := ((∅ : Map (List String)).insert "a-2" ["config-hash"]).insert "a-1" ["tls-hash"]

/-- The health gate forbids disruptions, and `a-2` is evicted for its configuration, because `a-1`
has a new certificate. -/
theorem mixedPlan_evicts_a2 :
    (∃ (t : Trace) (o : Except Outcome Unit),
      (rollingStep .decimal {} (exemptCluster "") (exemptState "" (readyA ["a-0", "a-1", "a-2"]))
        mixedPlan).Runs t o ∧
      (∀ e ∈ t, SamePod e) ∧ ⟨.evictPod "prod" "a-2", .ok ()⟩ ∈ t) ∧
    hasReasonForPod mixedPlan "a-2" "tls-hash" = false ∧
    ¬ GuardsHold (exemptCluster "") (exemptState "" (readyA ["a-0", "a-1", "a-2"])) ∧
    ¬ ExemptsPerPod .decimal {} (exemptCluster "")
      (exemptState "" (readyA ["a-0", "a-1", "a-2"])) mixedPlan := by
  have htakes : Takes (exemptCluster "") mixedPlan (readyA ["a-0", "a-1", "a-2"]) (some ∅) .redis
      (rolloutPod "a-2" "replica" true) :=
    ⟨⟨by decide, by decide⟩, by decide, by decide, [], _, rfl, forall_mem_nil _⟩
  obtain ⟨t, o, hrun, hsame, hev⟩ := exempt_evicts_taken .decimal {} (by decide) htakes
  have hguards := exemptState_not_guards "" (readyA ["a-0", "a-1", "a-2"])
  refine ⟨⟨t, o, hrun, hsame, hev⟩, by decide, hguards, fun h => hguards ?_⟩
  exact h t o hrun hsame _ _ _ hev (by decide)

end Keyval.Controller
