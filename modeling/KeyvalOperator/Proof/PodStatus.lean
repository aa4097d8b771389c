import KeyvalOperator.Proof.StatusFixpoint

/-!
# What the status says of a pod

The health of a replica with its lag, and the time of the last change of its entry.

* `evaluatePodHealth_linked`: a replica that is linked and not syncing lags when its offset is
  behind at all. `honoursThreshold_iff`: **when the threshold of the spec is honoured**.
* `roleTransition_eq_none`: the time is dropped when only health or lag have changed.
  `keepsTransitionTimes_iff`: **when every entry has its time**.
-/

namespace Keyval

open Go List

namespace Health

/-! ## The lag threshold -/

/-- The replica's lag, in an `int32`. -/
def offsetLag (info : ReplicationInfo) : Int :=
  min (info.masterReplOffset - info.replicaReplOffset) (2 ^ 31 - 1)

/-- The reply of a replica whose link is up, that is not syncing and that knows both offsets. -/
structure Linked (info : ReplicationInfo) : Prop where
  role : info.role ≠ ""
  link : equalFold info.masterLinkStatus "up" = true
  sync : info.masterSyncInProgress = false
  master : 0 < info.masterReplOffset
  replica : 0 < info.replicaReplOffset

section
variable {info : ReplicationInfo} (ready : Bool) (threshold : Int)

theorem computeLagSeconds_isSome (h : Linked info) :
    (computeLagSeconds info.masterReplOffset info.replicaReplOffset).isSome =
      decide (info.replicaReplOffset < info.masterReplOffset) := by
  have hmaster := h.master
  have hreplica := h.replica
  unfold computeLagSeconds
  rw [if_neg (by omega)]
  split <;> grind

/-- Any difference of the offsets makes a replica lag, whatever the threshold. -/
theorem evaluatePodHealth_linked (h : Linked info) :
    (evaluatePodHealth .replica info ready threshold).1 =
      if info.replicaReplOffset < info.masterReplOffset then .lagging else .healthy := by
  have hlink : ¬ (info.masterLinkStatus ≠ "" ∧ ¬ equalFold info.masterLinkStatus "up" ∧
      ¬ equalFold info.masterLinkStatus "ok") := fun hc => hc.2.1 h.link
  unfold evaluatePodHealth
  dsimp only
  rw [if_neg h.role, if_neg hlink, if_pos ⟨h.master, h.replica⟩]
  simp only [h.sync, Bool.false_eq_true, if_false, and_true, computeLagSeconds_isSome h,
    decide_eq_true_eq]

end

theorem lagThresholdSeconds_nonneg (cr : KeyValCluster) : 0 ≤ lagThresholdSeconds cr := by
  unfold lagThresholdSeconds settingsFor
  cases cr.spec.health with
  | some hs => dsimp only; split <;> omega
  | none =>
    cases cr.spec.replicationHealth with
    | none => decide
    | some legacy =>
      dsimp only
      split
      · next hpos => exact le_of_lt hpos
      · decide

/-- A replica is reported as lagging when its offset lag exceeds the threshold of the spec and as
healthy otherwise, and a higher threshold does not turn a healthy replica into a lagging one. -/
structure HonoursThreshold (cr : KeyValCluster) (info : ReplicationInfo) (ready : Bool) : Prop where
  lagging : (evaluatePodHealth .replica info ready (lagThresholdSeconds cr)).1 = .lagging ↔
    lagThresholdSeconds cr < offsetLag info
  healthy : ¬ lagThresholdSeconds cr < offsetLag info →
    (evaluatePodHealth .replica info ready (lagThresholdSeconds cr)).1 = .healthy
  raised : ∀ threshold, lagThresholdSeconds cr ≤ threshold →
    (evaluatePodHealth .replica info ready (lagThresholdSeconds cr)).1 = .healthy →
    (evaluatePodHealth .replica info ready threshold).1 = .healthy

/-- The threshold is honoured for a replica that has caught up, or that is behind by more than the
threshold: one that is behind by less is reported as lagging all the same. -/
theorem honoursThreshold_iff (cr : KeyValCluster) (info : ReplicationInfo) (ready : Bool)
    (h : Linked info) :
    HonoursThreshold cr info ready ↔
      info.masterReplOffset ≤ info.replicaReplOffset ∨ lagThresholdSeconds cr < offsetLag info := by
  have hnonneg := lagThresholdSeconds_nonneg cr
  have hlag : lagThresholdSeconds cr < offsetLag info →
      info.replicaReplOffset < info.masterReplOffset := by
    unfold offsetLag
    omega
  have hhealth := evaluatePodHealth_linked ready (h := h)
  constructor
  · intro hh
    by_contra hc
    rw [not_or, not_le] at hc
    have hhealthy := hh.healthy hc.2
    rw [hhealth, if_pos hc.1] at hhealthy
    cases hhealthy
  · intro hc
    refine ⟨?_, ?_, ?_⟩
    · rw [hhealth]
      constructor
      · intro hl
        have hbehind : info.replicaReplOffset < info.masterReplOffset := by
          by_contra hcaught
          rw [if_neg hcaught] at hl
          cases hl
        exact hc.resolve_left (not_le.2 hbehind)
      · intro hover
        rw [if_pos (hlag hover)]
    · intro hunder
      rw [hhealth, if_neg (not_lt.2 (hc.resolve_right hunder))]
    · intro threshold _ hhealthy
      rw [hhealth] at hhealthy ⊢
      exact hhealthy

/-- The cluster `a` with a threshold of ten seconds. -/
def tolerant : KeyValCluster :=
  { clusterA with spec := { clusterA.spec with
      health := some { replicationLagSecondsMax := 10 } } }

/-- A replica at this offset. -/
def replicaAt (n : Int) : ReplicationInfo where
  role := "slave"
  masterLinkStatus := "up"
  masterReplOffset := 100
  replicaReplOffset := n

theorem honoursThreshold_far_behind : HonoursThreshold tolerant (replicaAt 50) true :=
  (honoursThreshold_iff tolerant (replicaAt 50) true (by constructor <;> decide)).2 (by decide)

/-- A replica that is one behind is lagging, with a threshold of ten. -/
theorem one_behind_lags :
    lagThresholdSeconds tolerant = 10 ∧ Linked (replicaAt 99) ∧ offsetLag (replicaAt 99) = 1 ∧
      (evaluatePodHealth .replica (replicaAt 99) true (lagThresholdSeconds tolerant)).1 = .lagging ∧
      ¬ HonoursThreshold tolerant (replicaAt 99) true := by
  have hlags : (evaluatePodHealth .replica (replicaAt 99) true (lagThresholdSeconds tolerant)).1 =
      .lagging := by decide
  refine ⟨by decide, by constructor <;> decide, by decide, hlags, fun h => ?_⟩
  exact absurd (h.lagging.1 hlags) (by decide)

end Health

namespace Status

/-! ## The times of the roles -/

section
variable (cr : KeyValCluster) (st : ClusterState) (now : Time)

/-- A pod of the cluster with the role that the state gives it. -/
def Observed (p : Pod) (role : PodRole) : Prop :=
  (p ∈ st.pods ∧ role = roleOf st p) ∨ (p ∈ st.sentinelPods ∧ role = .sentinel)

/-- Role and readiness of the pod are those of its entry in the status before. -/
def SameRole (prev : PodRoleStatus) (p : Pod) (role : PodRole) : Prop :=
  prev.role = role ∧ prev.ready = isPodReady p

/-- Health and lag of the pod are those of its entry in the status before. -/
def SameHealth (prev : PodRoleStatus) (p : Pod) : Prop :=
  prev.health = some (healthOf st p) ∧ prev.lagSeconds = st.lagSeconds.lookup p.name

theorem mem_roleEntries {entry : PodRoleStatus} :
    entry ∈ roleEntries cr st now ↔
      ∃ p role, Observed st p role ∧ entry = roleEntry cr st now p role := by
  simp only [roleEntries, mem_append, mem_map, Observed]
  constructor
  · rintro (⟨p, hp, rfl⟩ | ⟨p, hp, rfl⟩)
    · exact ⟨p, _, .inl ⟨hp, rfl⟩, rfl⟩
    · exact ⟨p, _, .inr ⟨hp, rfl⟩, rfl⟩
  · rintro ⟨p, role, ⟨hp, rfl⟩ | ⟨hp, rfl⟩, rfl⟩
    · exact .inl ⟨p, hp, rfl⟩
    · exact .inr ⟨p, hp, rfl⟩

variable {cr st now}

/-- The time of an entry is missing when only health or lag have changed, or when it was missing
before. -/
theorem roleTransition_eq_none {p : Pod} {role : PodRole} :
    (roleEntry cr st now p role).lastTransitionTime = none ↔
      ∃ prev, prevRole cr p.name = some prev ∧ SameRole prev p role ∧
        (SameHealth st prev p → prev.lastTransitionTime = none) := by
  unfold roleEntry roleTransition SameRole SameHealth
  cases prevRole cr p.name with
  | none => simp
  | some prev =>
    simp only [Option.some.injEq, exists_eq_left']
    by_cases hrole : prev.role = role ∧ prev.ready = isPodReady p
    · rw [if_pos hrole]
      split
      · next hsame => simp [hrole, hsame]
      · next hchanged => simp [hrole, hchanged]
    · rw [if_neg hrole]
      simp [hrole]

theorem prevRole_mem {name : String} {prev : PodRoleStatus} (h : prevRole cr name = some prev) :
    prev ∈ cr.status.roles :=
  mem_reverse.1 (mem_of_find?_eq_some h)

variable (cr st now)

/-- Every entry of the computed status has a time, and the one of the entry before where nothing has
changed. -/
def KeepsTransitionTimes : Prop :=
  ∀ entry ∈ (computeStatus cr st now).roles, entry.lastTransitionTime ≠ none ∧
    ∀ prev, prevRole cr entry.name = some prev → prev.role = entry.role →
      prev.ready = entry.ready → prev.health = entry.health → prev.lagSeconds = entry.lagSeconds →
      entry.lastTransitionTime = prev.lastTransitionTime

/-- From a status in which every entry has its time, the times are kept exactly where no pod with
its role and readiness of before has another health or lag than before. -/
theorem keepsTransitionTimes_iff
    (htimes : ∀ prev ∈ cr.status.roles, prev.lastTransitionTime ≠ none) :
    KeepsTransitionTimes cr st now ↔
      ∀ p role prev, Observed st p role → prevRole cr p.name = some prev →
        SameRole prev p role → SameHealth st prev p := by
  constructor
  · intro hkeeps p role prev hp hprev hrole
    by_contra hchanged
    have hmem := (mem_roleEntries cr st now).2 ⟨p, role, hp, rfl⟩
    exact (hkeeps _ hmem).1
      (roleTransition_eq_none.2 ⟨prev, hprev, hrole, fun hsame => absurd hsame hchanged⟩)
  · intro hcond entry hentry
    obtain ⟨p, role, hp, rfl⟩ := (mem_roleEntries cr st now).1 hentry
    refine ⟨fun hnone => ?_, fun prev hprev hrole hready hhealth hlag => ?_⟩
    · obtain ⟨prev, hprev, hrole, hmissing⟩ := roleTransition_eq_none.1 hnone
      exact htimes prev (prevRole_mem hprev) (hmissing (hcond p role prev hp hprev hrole))
    · have hprev' : prevRole cr p.name = some prev := hprev
      show roleTransition now (prevRole cr p.name) _ = _
      rw [hprev']
      exact roleTransition_same hrole hready hhealth hlag

end

/-- A single pod with this health. -/
def singleA (health : PodHealth) : ClusterState where
  master := "a-0"
  pods := [readyPod "a-0"]
  health := (∅ : Map PodHealth).insert "a-0" health

/-- A cluster whose status has the master. -/
def settledA : KeyValCluster :=
  { clusterA with
    status := { clusterA.status with
      roles := [{ name := "a-0", role := .master, ready := true, health := some .healthy
                  lastTransitionTime := some 7 }] } }

theorem settledA_times : ∀ prev ∈ settledA.status.roles, prev.lastTransitionTime ≠ none := by
  decide

theorem keepsTransitionTimes_settledA : KeepsTransitionTimes settledA (singleA .healthy) 9 := by
  refine (keepsTransitionTimes_iff settledA (singleA .healthy) 9 settledA_times).2 ?_
  rintro p role prev (⟨hp, -⟩ | ⟨hp, -⟩) hprev -
  · obtain rfl := mem_singleton.1 hp
    obtain rfl := mem_singleton.1 (prevRole_mem hprev)
    exact ⟨by decide, by decide⟩
  · cases hp

/-- The master of before, still ready, begins to lag: its entry has no time any more. -/
theorem lagging_loses_time :
    (∀ prev ∈ settledA.status.roles, prev.lastTransitionTime ≠ none) ∧
      (computeStatus settledA (singleA .lagging) 9).roles =
        [{ name := "a-0", role := .master, ready := true, health := some .lagging
           lastTransitionTime := none }] ∧
      ¬ KeepsTransitionTimes settledA (singleA .lagging) 9 := by
  have hroles : (computeStatus settledA (singleA .lagging) 9).roles =
      [{ name := "a-0", role := .master, ready := true, health := some .lagging
         lastTransitionTime := none }] := by decide
  refine ⟨settledA_times, hroles, fun h => ?_⟩
  rw [KeepsTransitionTimes, hroles] at h
  exact (h _ (mem_singleton.2 rfl)).1 rfl

end Status

end Keyval
