import KeyvalOperator.Proof.Requests

/-!
# Scaling down

The Workloads phase applies the Redis StatefulSet with the replica count of the spec, before the
plan, the guards and the failover of the same reconcile.

* `reconcile_applies`: every Redis StatefulSet that a reconcile applies has this replica count.
* `exists_apply`: some reconcile applies it, and no failover is accepted in that reconcile.
* `scalesSafely_iff`: **a reconcile keeps the pod of the master until a failover exactly when the
  spec keeps it**.
-/

namespace Keyval.Controller

open Go Interact Interact.Prog Phases List
open Replication (ask_asks runs_ask)

variable {t : Trace}

/-! ## What is applied -/

/-- A Redis StatefulSet of the cluster is applied with the replica count of the spec only. -/
def AppliesSpec (cr : KeyValCluster) : Req → Prop
  | .applyStatefulSet ss => ss.name = cr.name → ss.replicas = (redisStatefulSet cr).replicas
  | _ => True

theorem NoApply.appliesSpec {q : Req} (h : NoApply q) (cr : KeyValCluster) : AppliesSpec cr q := by
  cases q <;> trivial

theorem sentinel_name_ne (name : String) : name ++ "-sentinel" ≠ name := by
  intro h
  have hlen := congrArg (List.length ∘ String.toList) h
  simp [String.toList_append] at hlen

section
variable {F : Formats} {st : State}

theorem Plain.appliesSpec {q : Req} (h : Plain q) (cr : KeyValCluster) : AppliesSpec cr q :=
  NoApply.appliesSpec (Plain.noApply h) cr

theorem AppliesSpec.congr {cr cr' : KeyValCluster} (hname : cr'.name = cr.name)
    (hspec : cr'.spec = cr.spec) {q : Req} (h : AppliesSpec cr' q) : AppliesSpec cr q := by
  cases q with
  | applyStatefulSet ss =>
    intro hss
    have hrep := h (hss.trans hname.symm)
    unfold redisStatefulSet at hrep ⊢
    rwa [hspec] at hrep
  | _ => trivial

/-- **What a reconcile applies**: the Redis StatefulSet with the replica count of the spec. -/
theorem reconcile_applies (F : Formats) (settings : Eviction.Settings) (st : State) :
    Asks (AppliesSpec st.cluster) (reconcileClusterImpl F settings st) := by
  unfold reconcileClusterImpl
  split
  · exact handleDeletion_asks (fun _ h => Plain.appliesSpec h.plain _) fun _ => trivial
  · refine andThen_issues (ensureFinalizer_asks fun _ => trivial) fun t cr' h => ?_
    obtain ⟨hname, -, hspec⟩ := ensureFinalizer_run h
    refine andThen_issues ?_ fun _ st' _ => ?_
    · refine Issues.mono (P := AppliesSpec cr') ?_ fun _ => .congr hname hspec
      refine prepare_asks (fun _ h => Plain.appliesSpec h.plain cr') F { st with cluster := cr' }
        (fun _ => rfl) fun h => ?_
      exact absurd h (sentinel_name_ne cr'.name)
    · exact (afterWorkloads_asks F settings st').mono fun _ h => NoApply.appliesSpec h _

/-! ## A reconcile that applies -/

/-- The phases up to the Workloads phase succeed, the StatefulSets do not exist yet and are
accepted, and no failover is. -/
def Starting : Event Op → Prop
  | ⟨.patchCluster .., r⟩ => r = .ok ()
  | ⟨.security, r⟩ => ∃ s, r = .ok s
  | ⟨.config, r⟩ => ∃ hash, r = .ok hash
  | ⟨.services, r⟩ => r = .ok ()
  | ⟨.getStatefulSet .., r⟩ => ∃ e, r = .error e ∧ e.reason = .notFound
  | ⟨.applyStatefulSet _, r⟩ => r = .ok ()
  | ⟨.failover .., r⟩ => ∃ e, r = .error e
  | _ => True

/-- No StatefulSet is there yet. -/
def starting : Replies
  | .patchCluster .. => .ok ()
  | .security => .ok ({}, "")
  | .config => .ok ""
  | .services => .ok ()
  | .getStatefulSet .. => .error { msg := "not found", reason := .notFound }
  | .applyStatefulSet _ => .ok ()
  | q => q.unavailable

theorem starting_starting (q : Req) : Starting ⟨q, starting q⟩ := by
  cases q with
  | security => exact ⟨_, rfl⟩
  | config => exact ⟨_, rfl⟩
  | getStatefulSet ns name => exact ⟨_, rfl, rfl⟩
  | failover pod name => exact ⟨_, rfl⟩
  | _ => first | rfl | trivial

theorem workloads_applies {o : State × Option Error}
    (h : (workloads F st).Runs t o) (hS : ∀ e ∈ t, Starting e) :
    ⟨.applyStatefulSet (redisStatefulSet st.cluster), .ok ()⟩ ∈ t := by
  obtain ⟨rep, t1, rfl, h1⟩ := runs_call.1 h
  obtain ⟨hrep, hS1⟩ := forall_mem_cons.1 hS
  obtain ⟨e, rfl, hnf⟩ : ∃ e, rep = .error e ∧ e.reason = .notFound := hrep
  rw [ret_bind] at h1
  dsimp only at h1
  rw [if_neg (not_not.2 hnf)] at h1
  obtain ⟨t2, _, t3, rfl, -, h3⟩ := runs_bind.1 h1
  obtain ⟨r, t4, rfl, -⟩ := runs_call.1 h3
  obtain rfl : r = .ok () := hS1 ⟨.applyStatefulSet _, r⟩ (by simp)
  simp

theorem ensureFinalizer_starting {cr : KeyValCluster} {r : Except Outcome KeyValCluster}
    (h : (ensureFinalizer cr).Runs t r) (hS : ∀ e ∈ t, Starting e) : ∃ cr', r = .ok cr' := by
  unfold ensureFinalizer at h
  split at h
  · exact ⟨_, (runs_ret.1 h).2⟩
  · obtain ⟨rep, t', rfl, h'⟩ := runs_call.1 h
    obtain rfl : rep = .ok () := (forall_mem_cons.1 hS).1
    exact ⟨_, (runs_ret.1 h').2⟩

theorem prepare_applies {r : Except Outcome State}
    (h : (prepare F st).Runs t r) (hS : ∀ e ∈ t, Starting e) :
    ⟨.applyStatefulSet (redisStatefulSet st.cluster), .ok ()⟩ ∈ t := by
  unfold prepare at h
  obtain ⟨t1, r1, u1, rfl, h1, k1, -⟩ := runs_andThen_orFail h
  obtain ⟨hS1, hS'⟩ := forall_mem_append.1 hS
  obtain ⟨s, rfl⟩ : ∃ s, r1 = .ok s := hS1 ⟨.security, r1⟩ (by simp [runs_ask h1])
  obtain ⟨t2, r2, u2, rfl, h2, k2, -⟩ := runs_andThen_orFail (k1 s rfl)
  obtain ⟨hS2, hS'⟩ := forall_mem_append.1 hS'
  obtain ⟨hash, rfl⟩ : ∃ hash, r2 = .ok hash := hS2 ⟨.config, r2⟩ (by simp [runs_ask h2])
  obtain ⟨t3, r3, u3, rfl, h3, k3, -⟩ := runs_andThen_orFail (k2 hash rfl)
  obtain ⟨hS3, hS'⟩ := forall_mem_append.1 hS'
  obtain rfl : r3 = .ok () := hS3 ⟨.services, r3⟩ (by simp [runs_ask h3])
  obtain ⟨t4, st', err, u4, rfl, h4, -, -⟩ := runs_andThen_orFailPhase (k3 () rfl)
  have hmem := workloads_applies h4 (forall_mem_append.1 hS').1
  simp [hmem]

/-- **Some reconcile applies** the Redis StatefulSet, and no failover is accepted in it. -/
theorem exists_apply (F : Formats) (settings : Eviction.Settings)
    (hdel : st.cluster.deletionTimestamp = none) :
    ∃ t o ss, (reconcileClusterImpl F settings st).Runs t o ∧
      ⟨.applyStatefulSet ss, .ok ()⟩ ∈ t ∧ ss.name = st.cluster.name ∧
      ss.replicas = (redisStatefulSet st.cluster).replicas ∧
      ∀ pod name, (⟨.failover pod name, .ok ()⟩ : Event Op) ∉ t := by
  obtain ⟨t, o, hrun, hrep⟩ := exists_run starting (reconcileClusterImpl F settings st)
  have hS : ∀ e ∈ t, Starting e := by
    rintro ⟨q, r⟩ he
    obtain rfl : r = starting q := hrep _ he
    exact starting_starting q
  have happly : ∃ ss, ⟨.applyStatefulSet ss, .ok ()⟩ ∈ t ∧ ss.name = st.cluster.name := by
    have h := hrun
    unfold reconcileClusterImpl at h
    rw [if_neg (by simp [hdel])] at h
    obtain ⟨t1, r, t2, rfl, h1, h2⟩ := runs_bind.1 h
    obtain ⟨hS1, hS2⟩ := forall_mem_append.1 hS
    obtain ⟨cr', rfl⟩ := ensureFinalizer_starting h1 hS1
    obtain ⟨t3, r, t4, rfl, h3, -⟩ := runs_bind.1 h2
    have hmem := prepare_applies h3 (forall_mem_append.1 hS2).1
    exact ⟨redisStatefulSet cr', by simp [hmem], (ensureFinalizer_run h1).1⟩
  obtain ⟨ss, hmem, hname⟩ := happly
  refine ⟨t, o, ss, hrun, hmem, hname, ?_, fun pod name hfail => ?_⟩
  · exact (reconcile_applies F settings st).mem hrun _ hmem hname
  · obtain ⟨e, he⟩ := hS _ hfail
    cases he

/-! ## Scaling down -/

/-- A Sentinel accepts a failover. -/
def FailedOver (t : Trace) : Prop :=
  ∃ pod name, ⟨.failover pod name, .ok ()⟩ ∈ t

/-- No reconcile applies a Redis StatefulSet without the pod of the master `m` before a failover is
accepted. -/
def ScalesSafely (F : Formats) (settings : Eviction.Settings) (st : State) (m : String) : Prop :=
  ∀ t o, (reconcileClusterImpl F settings st).Runs t o → ∀ t1 ss t2,
    t = t1 ++ ⟨.applyStatefulSet ss, .ok ()⟩ :: t2 → ss.name = st.cluster.name →
    ss.replicas ≤ ordinal m → FailedOver t1

/-- **When scaling down is safe**: the spec keeps the pod of the master. -/
theorem scalesSafely_iff (F : Formats) (settings : Eviction.Settings) (m : String)
    (hdel : st.cluster.deletionTimestamp = none) :
    ScalesSafely F settings st m ↔ ordinal m < max 1 st.cluster.spec.redisReplicas := by
  have hreplicas : (redisStatefulSet st.cluster).replicas =
      max 1 st.cluster.spec.redisReplicas := by
    unfold redisStatefulSet
    dsimp only
    split <;> omega
  rw [← hreplicas]
  constructor
  · intro h
    by_contra hle
    obtain ⟨t, o, ss, hrun, hmem, hname, hrep, hno⟩ := exists_apply F settings hdel
    obtain ⟨t1, t2, rfl⟩ := append_of_mem hmem
    obtain ⟨pod, name, hfail⟩ := h _ o hrun t1 ss t2 rfl hname (by omega)
    exact hno pod name (mem_append_left _ hfail)
  · intro hlt t o hrun t1 ss t2 ht hname hle
    have hrep : ss.replicas = (redisStatefulSet st.cluster).replicas :=
      (reconcile_applies F settings st).mem hrun ⟨.applyStatefulSet ss, .ok ()⟩ (by simp [ht]) hname
    omega

end

/-- A cluster whose master is the fifth pod. -/
def scaledA (replicas : Int) : State where
  cluster := {
    name := "a", ns := "prod"
    spec := { mode := .sentinel, redisReplicas := replicas, sentinelCount := some 3 }
    status := { masterPod := "a-4" } }

theorem scalesSafely_five : ScalesSafely .decimal {} (scaledA 5) "a-4" :=
  (scalesSafely_iff .decimal {} "a-4" rfl).2 (by decide)

/-- The spec is lowered to three replicas: the StatefulSet without `a-4` is applied, and no failover
is accepted in the reconcile. -/
theorem scale_down_removes_a4 :
    (∃ t o ss, (reconcileClusterImpl .decimal {} (scaledA 3)).Runs t o ∧
      ⟨.applyStatefulSet ss, .ok ()⟩ ∈ t ∧ ss.name = "a" ∧ ss.replicas = 3 ∧
      ordinal "a-4" = 4 ∧ ¬ FailedOver t) ∧
    ¬ ScalesSafely .decimal {} (scaledA 3) "a-4" := by
  have hord : ordinal "a-4" = 4 := by decide
  have hdel : (scaledA 3).cluster.deletionTimestamp = none := rfl
  obtain ⟨t, o, ss, hrun, hmem, hname, hrep, hno⟩ := exists_apply .decimal {} hdel
  have hthree : ss.replicas = 3 := hrep
  have hfail : ¬ FailedOver t := fun ⟨pod, name, h⟩ => hno pod name h
  refine ⟨⟨t, o, ss, hrun, hmem, hname, hthree, hord, hfail⟩, fun h => ?_⟩
  obtain ⟨t1, t2, rfl⟩ := append_of_mem hmem
  obtain ⟨pod, name, hmem'⟩ := h _ o hrun t1 ss t2 rfl hname (by omega)
  exact hfail ⟨pod, name, mem_append_left _ hmem'⟩

end Keyval.Controller
