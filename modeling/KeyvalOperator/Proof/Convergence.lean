import KeyvalOperator.Proof.Planner
import KeyvalOperator.Proof.Quantities

/-!
# Convergence of the planner

A pod that Kubernetes creates from the current template should need no update. `planUpdates` derives
what it expects of the containers from the spec again, and compares the number of pods with
`redisReplicas` whatever the pods are.

* `eqResourceRequirements_withDefaults`: the planner accepts the defaults of a pod's requests
  exactly when every limit without a request is zero.
* `sentinelPlan_empty_iff`: **the Sentinel pods need no update exactly when there are not more of
  them than Redis pods, and their limits are requested**.
* `redisPlan_empty_iff`: **the Redis pods need none exactly when their limits are requested**.
-/

namespace Keyval.Update

open Go Resources List

variable {configHash tlsHash : String} {defaulting : Bool} {sec : Settings}

/-! ## Pods of a template -/

/-- Kubernetes sets the request of a resource that has only a limit. -/
def withDefaults (r : ResourceRequirements) : ResourceRequirements :=
  { r with requests := r.requests ∪ r.limits }

/-- A container as the API server stores it. -/
def created (defaulting : Bool) (c : Container) : Container :=
  if defaulting then { c with resources := withDefaults c.resources } else c

/-- The pod was created from the template: what the planner compares is that of the template. -/
structure CreatedFrom (defaulting : Bool) (tpl : PodTemplateSpec) (p : Pod) : Prop where
  configHash : Map.str p.annotations configHashAnnotationKey =
    Map.str tpl.annotations configHashAnnotationKey
  tlsHash : Map.str p.annotations Phases.tlsSecretHashAnnotationKey =
    Map.str tpl.annotations Phases.tlsSecretHashAnnotationKey
  nodeSelector : p.nodeSelector = tpl.nodeSelector
  containers : p.containers = tpl.containers.map (created defaulting)

/-- As many pods of the template, with the ordinals from 0 on, all ready and healthy. -/
structure RolledOut (defaulting : Bool) (tpl : PodTemplateSpec) (health : Map PodHealth) (n : Int)
    (pods : List Pod) : Prop where
  count : (pods.length : Int) = n
  ordinals : ∀ i, 0 ≤ i → i < n → ∃ p ∈ pods, ordinal p.name = i
  from_template : ∀ p ∈ pods, CreatedFrom defaulting tpl p
  ready : ∀ p ∈ pods, isPodReady p = true
  healthy : ∀ p ∈ pods, health.lookup p.name = some .healthy

/-- Every limit that is not zero has a request. -/
def LimitsRequested (r : ResourceRequirements) : Prop :=
  ∀ k (q : Quantity), r.limits.lookup k = some q → k ∉ r.requests → q.amount = 0

theorem eqResourceRequirements_withDefaults (r : ResourceRequirements) :
    eqResourceRequirements (withDefaults r) r = true ↔ LimitsRequested r := by
  rw [eqResourceRequirements_iff]
  constructor
  · intro ⟨_, hsame⟩ k q hlimit hnone
    have hk : amountOf (r.requests ∪ r.limits) k = amountOf r.requests k := hsame k
    have hdefault : (r.requests ∪ r.limits).lookup k = some q := by
      rw [Finmap.lookup_union_right hnone, hlimit]
    rwa [amountOf_of_lookup hdefault, amountOf_of_notMem hnone] at hk
  · intro h
    refine ⟨fun _ => rfl, fun k => ?_⟩
    show amountOf (r.requests ∪ r.limits) k = amountOf r.requests k
    by_cases hmem : k ∈ r.requests
    · rw [amountOf, amountOf, Finmap.lookup_union_left hmem]
    · rw [amountOf_of_notMem hmem, amountOf, Finmap.lookup_union_right hmem]
      cases hlimit : r.limits.lookup k with
      | none => rfl
      | some q => exact h k q hlimit hmem

section
variable {tpl : PodTemplateSpec} {c : Container}

@[simp] theorem created_name : (created defaulting c).name = c.name := by
  unfold created
  split <;> rfl

@[simp] theorem created_image : (created defaulting c).image = c.image := by
  unfold created
  split <;> rfl

@[simp] theorem created_args : (created defaulting c).args = c.args := by
  unfold created
  split <;> rfl

@[simp] theorem created_ports : (created defaulting c).ports = c.ports := by
  unfold created
  split <;> rfl

theorem eqResourceRequirements_created :
    eqResourceRequirements (created defaulting c).resources c.resources = true ↔
      (defaulting = true → LimitsRequested c.resources) := by
  cases defaulting with
  | false => simp [created, eqResourceRequirements]
  | true => simp [created, eqResourceRequirements_withDefaults]

end

/-- A ready pod made from the template. -/
def podOf (defaulting : Bool) (tpl : PodTemplateSpec) (name : String) : Pod where
  name
  ns := "prod"
  labels := tpl.labels
  annotations := tpl.annotations
  nodeSelector := tpl.nodeSelector
  containers := tpl.containers.map (created defaulting)
  conditions := [{ type := "Ready", isTrue := true }]

/-- The pods are all healthy. -/
def healthOf (names : List String) : Map PodHealth := names.foldl (fun m n => m.insert n .healthy) ∅

theorem rolledOut_podOf {defaulting : Bool} {tpl : PodTemplateSpec} {health : Map PodHealth}
    {names : List String} (n : Nat) (hord : names.map ordinal = (List.range n).map Int.ofNat)
    (hhealth : ∀ name ∈ names, health.lookup name = some .healthy) :
    RolledOut defaulting tpl health n (names.map (podOf defaulting tpl)) where
  count := by
    have hlen := congrArg List.length hord
    rw [length_map, length_map, length_range] at hlen
    rw [length_map, hlen]
  ordinals := by
    intro i h0 hn
    have hi : i ∈ names.map ordinal := by
      rw [hord]
      exact mem_map.2 ⟨i.toNat, mem_range.2 (by omega), Int.toNat_of_nonneg h0⟩
    obtain ⟨name, hname, hord⟩ := mem_map.1 hi
    exact ⟨_, mem_map_of_mem hname, hord⟩
  from_template := forall_mem_map.2 fun _ _ => ⟨rfl, rfl, rfl, rfl⟩
  ready := forall_mem_map.2 fun _ _ => rfl
  healthy := forall_mem_map.2 hhealth

/-! ## Reasons of a pod of the template -/

section
variable {cr : KeyValCluster} {ss : StatefulSet} {health : Map PodHealth} {n : Int} {p : Pod}
  {pods : List Pod}

/-- The hashes, the node selector and the health of a pod of the template give no reason. -/
theorem CreatedFrom.podReasons_eq_nil_iff (h : CreatedFrom defaulting ss.template p)
    (hhealth : health.lookup p.name = some .healthy) :
    podReasons cr (some ss) health ∅ p = [] ↔
      (∀ c ∈ ss.template.containers, containerReasons cr (created defaulting c) = []) ∧
      ¬ (cr.spec.mode = .sentinel ∧ hasContainer p redisContainerName = true ∧
        hasContainer p sentinelContainerName = true) ∧
      metricsReasons cr (some ss) p = [] := by
  have hhash : hashReasons (some ss) p = [] := by
    simp [hashReasons, desiredAnnotation, h.configHash, h.tlsHash]
  have hlayout : layoutReasons cr (some ss) p = [] ↔
      ¬ (cr.spec.mode = .sentinel ∧ hasContainer p redisContainerName = true ∧
        hasContainer p sentinelContainerName = true) := by
    simp only [layoutReasons, h.nodeSelector, Map.equal_self, append_eq_nil_iff,
      reasonIf_eq_nil, not_true_eq_false, not_false_eq_true, and_true]
  have hhealthy : healthReasons health p = [] := by simp [healthReasons, hhealth]
  have hnone : ((∅ : Map (List String)).lookup p.name).getD [] = [] := by simp
  simp only [podReasons, hnone, appendUniqueReasons, foldl_nil, hhash, hhealthy,
    append_eq_nil_iff, hlayout, h.containers, flatMap_eq_nil_iff, mem_map,
    forall_exists_index, and_imp, forall_apply_eq_imp_iff₂, true_and, and_true, and_assoc]

theorem CreatedFrom.hasContainer_eq (h : CreatedFrom defaulting ss.template p) (name : String) :
    hasContainer p name = ss.template.containers.any (·.name = name) := by
  simp only [hasContainer, h.containers, any_map, Function.comp_def, created_name]

/-- The plan for the pods of a template is that of any one of them, and of their number. -/
theorem RolledOut.plan_empty_iff {ok : Prop} (h : RolledOut defaulting ss.template health n pods)
    (hn : 1 ≤ n) (hreplicas : 0 ≤ cr.spec.redisReplicas)
    (hreasons : ∀ p, CreatedFrom defaulting ss.template p → health.lookup p.name = some .healthy →
      (podReasons cr (some ss) health ∅ p = [] ↔ ok)) :
    (planUpdates cr (some ss) pods health ∅).podNames = [] ↔ n ≤ cr.spec.redisReplicas ∧ ok := by
  have hplanned : plannedReplicas cr = cr.spec.redisReplicas := by
    unfold plannedReplicas
    split <;> omega
  have hpod : ∀ p ∈ pods, (podReasons cr (some ss) health ∅ p = [] ↔ ok) := fun p hp =>
    hreasons p (h.from_template p hp) (h.healthy p hp)
  rw [planUpdates_empty_iff, hplanned, h.count]
  constructor
  · rintro ⟨hnil, hcount⟩
    constructor
    · by_contra hlt
      obtain ⟨p, hp, hord⟩ := h.ordinals cr.spec.redisReplicas hreplicas (by omega)
      have := hcount (by omega) p hp
      omega
    · obtain ⟨p, hp, -⟩ := h.ordinals 0 le_rfl (by omega)
      exact (hpod p hp).1 (hnil p hp)
  · rintro ⟨hle, hok⟩
    exact ⟨fun p hp => (hpod p hp).2 hok, fun hlt => by omega⟩

/-! ## Sentinel -/

/-- A Sentinel cluster that the schema of the resource admits. -/
structure ValidSentinel (cr : KeyValCluster) (n : Int) : Prop where
  mode : cr.spec.mode = .sentinel
  image : cr.spec.image ≠ ""
  replicas : 3 ≤ cr.spec.redisReplicas
  count : cr.spec.sentinelCount = some n
  three_le : 3 ≤ n
  odd : n % 2 = 1

theorem plannedSentinelImage_eq (h : cr.spec.image ≠ "") :
    plannedSentinelImage cr = sentinelContainerImage cr := by
  have himage : resolveImage cr.spec = cr.spec.image := by simp [resolveImage, h]
  unfold plannedSentinelImage sentinelContainerImage
  cases cr.spec.sentinelImage <;> simp only [himage]

theorem sentinelPodReasons_iff (hvalid : ValidSentinel cr n)
    (h : CreatedFrom defaulting (sentinelStatefulSet cr configHash tlsHash sec).template p)
    (hhealth : health.lookup p.name = some .healthy) :
    podReasons cr (some (sentinelStatefulSet cr configHash tlsHash sec)) health ∅ p = [] ↔
      (defaulting = true → LimitsRequested (desiredSentinelResources cr)) := by
  have hcontainers : (sentinelStatefulSet cr configHash tlsHash sec).template.containers =
      [sentinelContainer cr] := by
    simp [sentinelStatefulSet]
  have hnames : sentinelContainerName ≠ redisContainerName := by decide
  have hredis : hasContainer p redisContainerName = false := by
    rw [h.hasContainer_eq, hcontainers]
    simp [sentinelContainer, hnames]
  have hmetrics :
      metricsReasons cr (some (sentinelStatefulSet cr configHash tlsHash sec)) p = [] := by
    simp [metricsReasons, hredis]
  have hreason : containerReasons cr (created defaulting (sentinelContainer cr)) = [] ↔
      eqResourceRequirements (created defaulting (sentinelContainer cr)).resources
        (sentinelContainer cr).resources = true := by
    simp [containerReasons, hnames, plannedSentinelImage_eq hvalid.image, hvalid.mode,
      sentinelContainer]
  rw [h.podReasons_eq_nil_iff hhealth, hcontainers, hredis, hmetrics, forall_mem_singleton,
    hreason, eqResourceRequirements_created]
  simp [sentinelContainer]

/-- **The Sentinel rollout converges exactly when there are not more Sentinel pods than Redis
pods**, and, where Kubernetes sets requests, every Sentinel limit has one. -/
theorem sentinelPlan_empty_iff {configHash tlsHash : String} (hvalid : ValidSentinel cr n)
    (h : RolledOut defaulting (sentinelStatefulSet cr configHash tlsHash sec).template health n
      pods) :
    (planUpdates cr (some (sentinelStatefulSet cr configHash tlsHash sec)) pods health ∅).podNames
        = [] ↔
      n ≤ cr.spec.redisReplicas ∧
        (defaulting = true → LimitsRequested (desiredSentinelResources cr)) := by
  have hn := hvalid.three_le
  have hreplicas := hvalid.replicas
  exact h.plan_empty_iff (by omega) (by omega) fun p hp hhealth =>
    sentinelPodReasons_iff hvalid hp hhealth

/-- A cluster with `count` Sentinels. -/
def sentinelA (count : Int) : KeyValCluster where
  name := "a"
  ns := "prod"
  spec := { mode := .sentinel, redisReplicas := 3, sentinelCount := some count, image := "redis:7" }

theorem validSentinel_three : ValidSentinel (sentinelA 3) 3 :=
  ⟨rfl, by decide, by decide, rfl, by decide, by decide⟩

theorem validSentinel_five : ValidSentinel (sentinelA 5) 5 :=
  ⟨rfl, by decide, by decide, rfl, by decide, by decide⟩

/-- Its Sentinels. -/
def sentinelPodsA (count : Int) (names : List String) : List Pod :=
  names.map (podOf true (sentinelStatefulSet (sentinelA count) "c" "" {}).template)

/-- Three Sentinel pods for three Redis pods need no update. -/
theorem sentinelPlan_empty_three :
    let names := ["a-sentinel-0", "a-sentinel-1", "a-sentinel-2"]
    (planUpdates (sentinelA 3) (some (sentinelStatefulSet (sentinelA 3) "c" "" {}))
      (sentinelPodsA 3 names) (healthOf names) ∅).podNames = [] :=
  (sentinelPlan_empty_iff validSentinel_three
    (rolledOut_podOf 3 (by decide) (by decide))).2
      ⟨by decide, fun _ _ _ hlimit => nomatch hlimit⟩

/-- **Five Sentinel pods for three Redis pods are restarted for ever.** -/
theorem sentinelPlan_five :
    let names := ["a-sentinel-0", "a-sentinel-1", "a-sentinel-2", "a-sentinel-3", "a-sentinel-4"]
    ValidSentinel (sentinelA 5) 5 ∧
    RolledOut true (sentinelStatefulSet (sentinelA 5) "c" "" {}).template (healthOf names) 5
      (sentinelPodsA 5 names) ∧
    (planUpdates (sentinelA 5) (some (sentinelStatefulSet (sentinelA 5) "c" "" {}))
      (sentinelPodsA 5 names) (healthOf names) ∅).podNames = ["a-sentinel-4", "a-sentinel-3"] :=
  ⟨validSentinel_five, rolledOut_podOf 5 (by decide) (by decide), by decide +kernel⟩

/-! ## Redis -/

theorem statefulSet_containers (sec : Settings) :
    (statefulSet cr configHash tlsHash sec).template.containers = redisContainers cr sec := by
  simp [statefulSet]

theorem metricsReasons_iff
    (h : CreatedFrom defaulting (statefulSet cr configHash tlsHash sec).template p) :
    metricsReasons cr (some (statefulSet cr configHash tlsHash sec)) p = [] ↔
      (metricsEnabled cr = true → defaulting = true →
        LimitsRequested (desiredMetricsResources cr)) := by
  have hnames : redisContainerName ≠ metricsContainerName := by decide
  have hredis : hasContainer p redisContainerName = true := by
    rw [h.hasContainer_eq, statefulSet_containers, redisContainers]
    split <;> simp [redisContainer]
  cases henabled : metricsEnabled cr with
  | false =>
    have hnone : hasContainer p metricsContainerName = false := by
      rw [h.hasContainer_eq, statefulSet_containers, redisContainers]
      simp [henabled, redisContainer, hnames]
    simp [metricsReasons, hredis, henabled, hnone]
  | true =>
    have hdesired : lastContainer (statefulSet cr configHash tlsHash sec).template.containers
        metricsContainerName = some (buildMetricsContainer cr sec) := by
      simp [statefulSet_containers, redisContainers, henabled, lastContainer, redisContainer,
        buildMetricsContainer, hnames]
    have hactual : lastContainer p.containers metricsContainerName =
        some (created defaulting (buildMetricsContainer cr sec)) := by
      simp [h.containers, statefulSet_containers, redisContainers, henabled, lastContainer,
        redisContainer, buildMetricsContainer, hnames]
    rw [show desiredMetricsResources cr = (buildMetricsContainer cr sec).resources from rfl]
    simp [metricsReasons, hredis, henabled, hactual, hdesired, eqResourceRequirements_created]

theorem redisPodReasons_iff (himage : cr.spec.image ≠ "")
    (h : CreatedFrom defaulting (statefulSet cr configHash tlsHash sec).template p)
    (hhealth : health.lookup p.name = some .healthy) :
    podReasons cr (some (statefulSet cr configHash tlsHash sec)) health ∅ p = [] ↔
      (defaulting = true → LimitsRequested (valueOrEmptyResources cr.spec.resources)) ∧
      (metricsEnabled cr = true → defaulting = true →
        LimitsRequested (desiredMetricsResources cr)) := by
  have hresolve : resolveImage cr.spec = cr.spec.image := by simp [resolveImage, himage]
  have hredis : containerReasons cr (created defaulting (redisContainer cr)) = [] ↔
      eqResourceRequirements (created defaulting (redisContainer cr)).resources
        (redisContainer cr).resources = true := by
    simp [containerReasons, redisContainer, hresolve]
  have hmetrics : containerReasons cr (created defaulting (buildMetricsContainer cr sec)) = [] := by
    have hnames : metricsContainerName ≠ redisContainerName ∧
      metricsContainerName ≠ sentinelContainerName := by decide
    simp [containerReasons, buildMetricsContainer, hnames]
  have hcontainer :
      (∀ c ∈ redisContainers cr sec, containerReasons cr (created defaulting c) = []) ↔
      (defaulting = true → LimitsRequested (valueOrEmptyResources cr.spec.resources)) := by
    rw [show valueOrEmptyResources cr.spec.resources = (redisContainer cr).resources from rfl,
      ← eqResourceRequirements_created, ← hredis, redisContainers]
    split <;> simp [hmetrics]
  have hsentinel : hasContainer p sentinelContainerName = false := by
    have hnames : redisContainerName ≠ sentinelContainerName ∧
      metricsContainerName ≠ sentinelContainerName := by decide
    rw [h.hasContainer_eq, statefulSet_containers, redisContainers]
    split <;> simp [redisContainer, buildMetricsContainer, hnames]
  rw [h.podReasons_eq_nil_iff hhealth, statefulSet_containers, hcontainer, hsentinel,
    metricsReasons_iff h]
  simp

/-- **The Redis rollout converges exactly when every limit has a request**: Kubernetes sets the
request of a limit that has none, and the planner compares it with the spec, which has none. -/
theorem redisPlan_empty_iff {configHash tlsHash : String} (himage : cr.spec.image ≠ "")
    (hreplicas : 1 ≤ cr.spec.redisReplicas)
    (h : RolledOut true (statefulSet cr configHash tlsHash sec).template health
      cr.spec.redisReplicas pods) :
    (planUpdates cr (some (statefulSet cr configHash tlsHash sec)) pods health ∅).podNames = [] ↔
      LimitsRequested (valueOrEmptyResources cr.spec.resources) ∧
      (metricsEnabled cr = true → LimitsRequested (desiredMetricsResources cr)) := by
  rw [h.plan_empty_iff hreplicas (by omega) fun p hp hhealth =>
    redisPodReasons_iff himage hp hhealth]
  simp

/-- A standalone cluster with these resources. -/
def standaloneA (resources : ResourceRequirements) : KeyValCluster where
  name := "a"
  ns := "prod"
  spec :=
    { mode := .standalone, redisReplicas := 1, image := "redis:7", resources := some resources }

/-- One gibibyte. -/
def memory : Map Quantity := (∅ : Map Quantity).insert "memory" ⟨2 ^ 30 * 1000000000, "1Gi"⟩

/-- Its Redis pod. -/
def redisPodsA (resources : ResourceRequirements) : List Pod :=
  ["a-0"].map (podOf true (statefulSet (standaloneA resources) "c" "" {}).template)

/-- A limit with a request needs no update. -/
theorem redisPlan_empty_requested :
    let resources : ResourceRequirements := { limits := memory, requests := memory }
    (planUpdates (standaloneA resources) (some (statefulSet (standaloneA resources) "c" "" {}))
      (redisPodsA resources) (healthOf ["a-0"]) ∅).podNames = [] :=
  (redisPlan_empty_iff (by decide) (by decide) (rolledOut_podOf 1 (by decide) (by decide))).2
    ⟨fun _ _ hlimit hnone => absurd (Finmap.mem_of_lookup_eq_some hlimit) hnone,
      fun _ _ _ hlimit => nomatch hlimit⟩

/-- **A pod with a limit and no request is restarted for ever.** -/
theorem redisPlan_limit :
    let resources : ResourceRequirements := { limits := memory }
    RolledOut true (statefulSet (standaloneA resources) "c" "" {}).template (healthOf ["a-0"]) 1
      (redisPodsA resources) ∧
    (planUpdates (standaloneA resources) (some (statefulSet (standaloneA resources) "c" "" {}))
      (redisPodsA resources) (healthOf ["a-0"]) ∅).podNames = ["a-0"] :=
  ⟨rolledOut_podOf 1 (by decide) (by decide), by decide +kernel⟩

end

end Keyval.Update
