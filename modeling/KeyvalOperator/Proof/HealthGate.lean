import KeyvalOperator.Ops.Status

/-!
# The health gate

What `computeStatus` has seen when it allows disruptions.

* `conditionSatisfied_built`: a condition of the gate is the phases' own, or the computed one.
* `computeStatus_gate`: **the gate is sound**.
-/

namespace Keyval.Status

open Go List

section
variable {cr : KeyValCluster} {st : ClusterState} {now : Time}

/-! ## The loops over the pods -/

theorem foldl_masters (pods : List Pod) (m : Masters) :
    (pods.foldl (Masters.add st) m).count =
      m.count + pods.countP (fun p => roleOf st p = .master) := by
  induction pods generalizing m with
  | nil => rfl
  | cons p pods ih =>
    rw [foldl_cons, ih]
    by_cases hrole : roleOf st p = .master
    · simp only [Masters.add, hrole, if_true, countP_cons, decide_true]
      omega
    · simp [Masters.add, hrole]

theorem foldl_masters_last (pods : List Pod) (m : Masters) :
    (∃ p ∈ pods, roleOf st p = .master ∧ (pods.foldl (Masters.add st) m).ready = isPodReady p ∧
      (pods.foldl (Masters.add st) m).health = healthOf st p) ∨
    ∀ p ∈ pods, roleOf st p ≠ .master := by
  induction pods using List.reverseRecOn with
  | nil => exact .inr (forall_mem_nil _)
  | append_singleton pods p ih =>
    rw [foldl_concat]
    by_cases hrole : roleOf st p = .master
    · exact .inl ⟨p, by simp, hrole, by simp [Masters.add, hrole], by simp [Masters.add, hrole]⟩
    · rw [Masters.add, if_neg hrole]
      rcases ih with ⟨q, hq, hmaster, hready, hhealth⟩ | hnone
      · exact .inl ⟨q, by simp [hq], hmaster, hready, hhealth⟩
      · exact .inr (forall_mem_append.2 ⟨hnone, forall_mem_singleton.2 hrole⟩)

theorem eq_of_countP_eq_one {α : Type} {P : α → Bool} {l : List α} {a b : α} (h : l.countP P = 1)
    (ha : a ∈ l) (hPa : P a = true) (hb : b ∈ l) (hPb : P b = true) : b = a := by
  obtain ⟨l1, l2, rfl⟩ := append_of_mem ha
  rw [countP_append, countP_cons_of_pos hPa] at h
  rcases mem_append.1 hb with hb | hb
  · have hpos : 0 < l1.countP P := countP_pos_iff.2 ⟨b, hb, hPb⟩
    omega
  · rcases mem_cons.1 hb with rfl | hb
    · rfl
    · have hpos : 0 < l2.countP P := countP_pos_iff.2 ⟨b, hb, hPb⟩
      omega

/-- **One master is counted**: the pod, its readiness and its health. -/
theorem masters_spec (h : (masters st).count = 1) :
    ∃ p ∈ st.pods, roleOf st p = .master ∧ (masters st).ready = isPodReady p ∧
      (masters st).health = healthOf st p ∧ ∀ q ∈ st.pods, roleOf st q = .master → q = p := by
  have hcount : st.pods.countP (fun p => decide (roleOf st p = .master)) = 1 := by
    rw [masters, foldl_masters] at h
    simpa using h
  rcases foldl_masters_last st.pods {} with ⟨p, hp, hrole, hready, hhealth⟩ | hnone
  · refine ⟨p, hp, hrole, hready, hhealth, fun q hq hmaster => ?_⟩
    exact eq_of_countP_eq_one hcount hp (by simpa using hrole) hq (by simpa using hmaster)
  · have hzero : st.pods.countP (fun p => decide (roleOf st p = .master)) = 0 :=
      countP_eq_zero.2 (by simpa using hnone)
    omega

/-- The pod is a healthy replica. -/
def HealthyReplica (st : ClusterState) (p : Pod) : Bool :=
  st.roles.lookup p.name = some .replica && replicaHealth st p = .healthy

theorem foldl_members (st : ClusterState) (pods : List Pod) (m : Members) :
    (pods.foldl (Members.addReplica st) m).healthy = m.healthy + pods.countP (HealthyReplica st) ∧
    ((pods.foldl (Members.addReplica st) m).issues = [] →
      m.issues = [] ∧ ∀ p ∈ pods, st.roles.lookup p.name = some .replica →
        replicaHealth st p = .healthy) := by
  induction pods generalizing m with
  | nil => exact ⟨rfl, fun h => ⟨h, forall_mem_nil _⟩⟩
  | cons p pods ih =>
    rw [foldl_cons]
    obtain ⟨hcount, hissues⟩ := ih (Members.addReplica st m p)
    rw [hcount, countP_cons]
    by_cases hrole : st.roles.lookup p.name = some .replica
    · by_cases hhealth : replicaHealth st p = .healthy
      · have hadd : Members.addReplica st m p =
            { m with replicas := m.replicas + 1, healthy := m.healthy + 1 } := by
          simp [Members.addReplica, hrole, hhealth]
        rw [hadd] at hissues ⊢
        refine ⟨by simp [HealthyReplica, hrole, hhealth]; omega, fun h => ?_⟩
        obtain ⟨hm, hrest⟩ := hissues h
        exact ⟨hm, forall_mem_cons.2 ⟨fun _ => hhealth, hrest⟩⟩
      · have hadd : (Members.addReplica st m p).healthy = m.healthy ∧
            (Members.addReplica st m p).issues ≠ [] := by
          simp [Members.addReplica, hrole, hhealth]
        rw [hadd.1]
        exact ⟨by simp [HealthyReplica, hhealth], fun h => absurd (hissues h).1 hadd.2⟩
    · have hadd : Members.addReplica st m p = m := by simp [Members.addReplica, hrole]
      rw [hadd] at hissues ⊢
      refine ⟨by simp [HealthyReplica, hrole], fun h => ?_⟩
      obtain ⟨hm, hrest⟩ := hissues h
      exact ⟨hm, forall_mem_cons.2 ⟨fun h => absurd h hrole, hrest⟩⟩

/-- **No issue is found**: the master and every replica are healthy, and all of them are counted. -/
theorem members_spec {masterHealth : PodHealth} (hmaster : st.master ≠ "")
    (h : (members cr st masterHealth).issues = []) :
    masterHealth = .healthy ∧
    (∀ p ∈ st.pods, st.roles.lookup p.name = some .replica → replicaHealth st p = .healthy) ∧
    (members cr st masterHealth).healthy = 1 + st.pods.countP (HealthyReplica st) := by
  obtain ⟨hcount, hissues⟩ := foldl_members st st.pods (Members.addMaster st masterHealth)
  unfold members at h ⊢
  dsimp only at h ⊢
  split at h
  · simp at h
  · next hreplicas =>
    obtain ⟨hm, hrest⟩ := hissues h
    have hhealthy : masterHealth = .healthy := by
      by_contra hne
      simp [Members.addMaster, hmaster, hne] at hm
    refine ⟨hhealthy, hrest, ?_⟩
    rw [if_neg hreplicas, hcount]
    simp [Members.addMaster, hmaster, hhealthy]

/-! ## The conditions of the gate -/

theorem ConditionType.str_injective {a b : ConditionType} (h : a.str = b.str) : a = b := by
  cases a <;> cases b <;> first | rfl | exact absurd h (by decide)

theorem conditionSatisfied_built {type : ConditionType} {state : ConditionState} {want : Bool}
    (hdefault : (defaultStates cr st).find? (·.1 = type) = some (type, state)) :
    conditionSatisfied (builtConditions cr st now) type want = true ↔
      ((st.conditions.lookup type.str).getD state).status = if want then .true else .false := by
  have hfind : (builtConditions cr st now).find? (·.type = type.str) =
      some (build cr now type ((st.conditions.lookup type.str).getD state)) := by
    have hcomp : ((fun c : Condition => decide (c.type = type.str)) ∘
        fun x : ConditionType × ConditionState =>
          build cr now x.1 ((st.conditions.lookup x.1.str).getD x.2)) =
        fun x => decide (x.1 = type) := by
      funext x
      simp only [Function.comp_apply, build, decide_eq_decide]
      exact ⟨ConditionType.str_injective, congrArg _⟩
    unfold builtConditions
    rw [find?_map, hcomp, hdefault]
    rfl
  rw [conditionSatisfied, hfind]
  exact decide_eq_true_iff

theorem allowDisruptions_built (h : allowDisruptions (builtConditions cr st now) = true) :
    ((st.conditions.lookup ConditionType.available.str).getD
      (computeAvailableCondition st (masters st))).status = .true ∧
    ((st.conditions.lookup ConditionType.sentinelQuorum.str).getD
      (computeSentinelCondition cr st)).status = .true ∧
    ((st.conditions.lookup ConditionType.replicationHealthy.str).getD
      (computeReplicationHealthyCondition cr st (masters st).health (requiredMembers cr))).status =
      .true ∧
    (∀ type ∈ [ConditionType.disruptionsPaused, .upgradeInProgress, .bootstrapInProgress],
      ∀ cs, st.conditions.lookup type.str = some cs → cs.status = .false) ∧
    ∀ cs, st.conditions.lookup ConditionType.externalImport.str = some cs → cs.status = .true := by
  simp only [allowDisruptions, Bool.and_eq_true] at h
  obtain ⟨⟨⟨⟨⟨⟨⟨havailable, hsentinel⟩, hreplication⟩, -⟩, hpaused⟩, hupgrade⟩, hbootstrap⟩,
    himport⟩ := h
  -- the status of a condition that a phase imposes
  have hown : ∀ {type : ConditionType} {state : ConditionState} {want : Bool},
      (defaultStates cr st).find? (·.1 = type) = some (type, state) →
      conditionSatisfied (builtConditions cr st now) type want = true →
      ∀ cs, st.conditions.lookup type.str = some cs →
        cs.status = if want then .true else .false := by
    intro type state want hdefault hsatisfied cs hcs
    have hstatus := (conditionSatisfied_built hdefault).1 hsatisfied
    rwa [hcs] at hstatus
  refine ⟨(conditionSatisfied_built rfl).1 havailable, (conditionSatisfied_built rfl).1 hsentinel,
    (conditionSatisfied_built rfl).1 hreplication, ?_, hown rfl himport⟩
  exact forall_mem_cons.2 ⟨hown rfl hpaused, forall_mem_cons.2 ⟨hown rfl hupgrade,
    forall_mem_singleton.2 (hown rfl hbootstrap)⟩⟩

/-! ## The computed conditions -/

theorem available_true {m : Masters} (h : (computeAvailableCondition st m).status = .true) :
    st.master ≠ "" ∧ m.count = 1 ∧ m.ready = true := by
  unfold computeAvailableCondition at h
  split_ifs at h with hpods hmaster hcount hready
  · exact ⟨hmaster, not_not.1 hcount, hready⟩

theorem sentinel_true (h : (computeSentinelCondition cr st).status = .true)
    (hmode : cr.spec.mode = .sentinel) :
    expectedSentinels cr / 2 + 1 ≤ (readySentinels st : Int) := by
  unfold computeSentinelCondition at h
  rw [if_neg (not_not.2 hmode)] at h
  dsimp only at h
  split_ifs at h with hobserved hready
  · exact not_lt.1 hready

theorem replication_true {masterHealth : PodHealth} {required : Int}
    (h : (computeReplicationHealthyCondition cr st masterHealth required).status = .true) :
    (members cr st masterHealth).issues = [] ∧
      required ≤ ((members cr st masterHealth).healthy : Int) := by
  unfold computeReplicationHealthyCondition at h
  dsimp only at h
  split_ifs at h with hpods hthreshold hissues
  · exact ⟨not_not.1 hissues, not_lt.1 hthreshold⟩

theorem replicaHealth_eq_healthy {p : Pod} :
    replicaHealth st p = .healthy ↔ st.health.lookup p.name = some .healthy := by
  unfold replicaHealth
  cases st.health.lookup p.name <;> simp

theorem HealthyReplica.healthOf {p : Pod} (h : HealthyReplica st p = true) :
    healthOf st p = .healthy := by
  rw [HealthyReplica, Bool.and_eq_true, decide_eq_true_eq, decide_eq_true_eq,
    replicaHealth_eq_healthy] at h
  rw [Status.healthOf, h.2]

end

/-- The members that the spec asks for: the safety threshold, and one in Standalone mode. -/
def safetyThreshold (cr : KeyValCluster) : Int :=
  if cr.spec.mode = .standalone then 1 else (Health.settingsFor cr).minReplicasForSafety

theorem one_le_minReplicasForSafety (cr : KeyValCluster) :
    1 ≤ (Health.settingsFor cr).minReplicasForSafety := by
  unfold Health.settingsFor
  dsimp only
  split_ifs with h
  · exact le_refl 1
  · exact not_lt.1 h

theorem requiredMembers_eq (cr : KeyValCluster) : requiredMembers cr = safetyThreshold cr := by
  have hone := one_le_minReplicasForSafety cr
  unfold requiredMembers safetyThreshold
  by_cases hmode : cr.spec.mode = .standalone
  · simp only [hmode, true_and, if_true]
    split_ifs <;> omega
  · simp only [hmode, false_and, if_false]
    exact if_neg (not_lt.2 hone)

/-- What disruptions need: one master, ready and healthy, healthy replicas, enough healthy members
and ready Sentinels, and no operation of the phases under way. -/
structure SafeToDisrupt (cr : KeyValCluster) (st : ClusterState) : Prop where
  master : ∃ p ∈ st.pods, st.roles.lookup p.name = some .master ∧ isPodReady p = true ∧
    healthOf st p = .healthy ∧ ∀ q ∈ st.pods, st.roles.lookup q.name = some .master → q = p
  replicas : ∀ p ∈ st.pods, st.roles.lookup p.name = some .replica →
    st.health.lookup p.name = some .healthy
  members : safetyThreshold cr ≤ (st.pods.countP fun p => healthOf st p = .healthy : Nat)
  sentinels : cr.spec.mode = .sentinel → expectedSentinels cr / 2 + 1 ≤ (readySentinels st : Int)
  idle : ∀ type ∈ [ConditionType.disruptionsPaused, .upgradeInProgress, .bootstrapInProgress],
    ∀ cs, st.conditions.lookup type.str = some cs → cs.status = .false
  imported : ∀ cs, st.conditions.lookup ConditionType.externalImport.str = some cs →
    cs.status = .true

/-- **The health gate is sound**: when `computeStatus` allows disruptions, and no phase imposes the
conditions that it computes itself, the cluster is safe to disrupt. -/
theorem computeStatus_gate {cr : KeyValCluster} {st : ClusterState} {now : Time}
    (hroles : ∀ p ∈ st.pods, st.roles.lookup p.name = some .master ∨
      st.roles.lookup p.name = some .replica)
    (hcomputed : ∀ type ∈ [ConditionType.available, .replicationHealthy, .failoverInProgress,
      .sentinelQuorum], st.conditions.lookup type.str = none)
    (hgate : (computeStatus cr st now).healthGate = some true) : SafeToDisrupt cr st := by
  obtain ⟨havailable, hsentinel, hreplication, hidle, himport⟩ :=
    allowDisruptions_built (Option.some.inj hgate)
  rw [hcomputed _ (by simp)] at havailable hsentinel hreplication
  obtain ⟨hmaster, hcount, hready⟩ := available_true havailable
  obtain ⟨hissues, hthreshold⟩ := replication_true hreplication
  obtain ⟨p, hp, hrole, hpready, hphealth, honly⟩ := masters_spec hcount
  obtain ⟨hhealthy, hreplicas, hmembers⟩ := members_spec hmaster hissues
  -- the roles of the map are those that the loops see
  have hroleOf : ∀ {q : Pod} {r : PodRole}, st.roles.lookup q.name = some r → roleOf st q = r := by
    intro q r hq
    rw [roleOf, hq]
  have hpmaster : st.roles.lookup p.name = some .master := by
    refine (hroles p hp).resolve_right fun h => ?_
    rw [hroleOf h] at hrole
    cases hrole
  refine ⟨⟨p, hp, hpmaster, hpready.symm.trans hready, hphealth.symm.trans hhealthy,
    fun q hq hqmaster => honly q hq (hroleOf hqmaster)⟩, ?_, ?_, sentinel_true hsentinel, hidle,
    himport⟩
  · exact fun q hq hreplica => replicaHealth_eq_healthy.1 (hreplicas q hq hreplica)
  · -- the master is healthy and is not one of the healthy replicas
    have hcounted : 1 + st.pods.countP (HealthyReplica st) ≤
        st.pods.countP (fun q => decide (healthOf st q = .healthy)) := by
      obtain ⟨l1, l2, hsplit⟩ := append_of_mem hp
      have hmono : ∀ l : List Pod, l.countP (HealthyReplica st) ≤
          l.countP (fun q => decide (healthOf st q = .healthy)) := fun l =>
        countP_mono_left fun q _ hq => decide_eq_true (HealthyReplica.healthOf hq)
      have hnot : ¬ HealthyReplica st p = true := by simp [HealthyReplica, hpmaster]
      have hpos : decide (healthOf st p = .healthy) = true :=
        decide_eq_true (hphealth.symm.trans hhealthy)
      rw [hsplit, countP_append, countP_append, countP_cons_of_neg hnot, countP_cons, if_pos hpos]
      have h1 := hmono l1
      have h2 := hmono l2
      omega
    rw [requiredMembers_eq] at hthreshold
    omega

/-- A cluster that passes the gate. -/
def healthyA : ClusterState where
  master := "a-0"
  pods := ["a-0", "a-1", "a-2"].map readyPod
  roles := (((∅ : Map PodRole).insert "a-0" .master).insert "a-1" .replica).insert "a-2" .replica
  health := ((∅ : Map PodHealth).insert "a-1" .healthy).insert "a-2" .healthy
  sentinelPods := ["a-sentinel-0", "a-sentinel-1", "a-sentinel-2"].map readyPod

/-- The gate opens for a healthy cluster. -/
theorem computeStatus_gate_healthyA :
    (computeStatus clusterA healthyA 0).healthGate = some true ∧
      SafeToDisrupt clusterA healthyA := by
  have hgate : (computeStatus clusterA healthyA 0).healthGate = some true := by decide
  exact ⟨hgate, computeStatus_gate (by decide) (by decide) hgate⟩

end Keyval.Status
