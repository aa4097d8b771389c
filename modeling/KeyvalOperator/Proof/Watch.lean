import KeyvalOperator.Proof.Secrets
import KeyvalOperator.Watch

/-!
# What wakes the controller up

* `lifecycle_maps`: **the mapping of pods serves what the filter lets pass**.
* `update_silent_iff`, `changes_enqueue`: **no change is lost** along any history of a pod.
* `security_reads`: of the secrets that the Security phase reads, **those with certificates are
  watched**, and those with nothing but the password are not.
-/

namespace Keyval.Watch

open Go Interact Interact.Prog Security List

/-! ## Pods and their clusters -/

theorem labelsMatchCluster_own (labels : Map String) :
    labelsMatchCluster labels (Map.str labels labelClusterKey) = true := by
  simp [labelsMatchCluster]

section
variable {p : PodObject}

theorem clusterNamespacedName_of_label (h : Map.str p.labels labelClusterKey ≠ "") :
    clusterNamespacedName p = some ⟨p.ns, Map.str p.labels labelClusterKey⟩ :=
  if_pos ⟨h, labelsMatchCluster_own _⟩

theorem isClusterManagedPod_eq (p : PodObject) :
    isClusterManagedPod p = (clusterNamespacedName p).isSome := by
  by_cases h : Map.str p.labels labelClusterKey = ""
  · simp [isClusterManagedPod, clusterNamespacedName, h]
  · rw [clusterNamespacedName_of_label h]
    simp [isClusterManagedPod, h, labelsMatchCluster_own]

theorem isClusterManagedPod_of_label (h : Map.str p.labels labelClusterKey ≠ "") :
    isClusterManagedPod p = true := by
  rw [isClusterManagedPod_eq, clusterNamespacedName_of_label h]
  rfl

theorem podToClusterRequests_ne_nil_iff :
    podToClusterRequests p ≠ [] ↔ isClusterManagedPod p = true := by
  rw [isClusterManagedPod_eq, podToClusterRequests]
  cases clusterNamespacedName p <;> simp

end

theorem exists_managed {e : PodEvent} (h : podLifecyclePredicate e = true) :
    ∃ p ∈ e.objects, isClusterManagedPod p = true := by
  cases e with
  | create pod =>
    refine ⟨pod, mem_singleton_self _, ?_⟩
    simp only [podLifecyclePredicate, Bool.or_eq_true, decide_eq_true_eq] at h
    exact h.elim id isClusterManagedPod_of_label
  | delete pod => exact ⟨pod, mem_singleton_self _, h⟩
  | update oldPod newPod =>
    by_cases hold : isClusterManagedPod oldPod = true
    · exact ⟨oldPod, by simp [PodEvent.objects], hold⟩
    · refine ⟨newPod, by simp [PodEvent.objects], ?_⟩
      by_contra hnew
      simp [podLifecyclePredicate, hold, hnew] at h

/-- **The mapping serves what the filter lets pass**: an event that passes has a pod that is mapped
to a cluster. -/
theorem lifecycle_maps {e : PodEvent} (h : podLifecyclePredicate e = true) :
    ∃ p ∈ e.objects, podToClusterRequests p ≠ [] := by
  obtain ⟨p, hp, hmanaged⟩ := exists_managed h
  exact ⟨p, hp, podToClusterRequests_ne_nil_iff.2 hmanaged⟩

/-- A pod of the cluster `kv` that comes back with another address. -/
def restartedPod (podIP : String) : PodObject where
  name := "kv-0"
  ns := "prod"
  labels := Finmap.singleton labelClusterKey "kv"
  podIP

theorem lifecycle_maps_restarted :
    ∃ p ∈ (PodEvent.update (restartedPod "10.0.0.1") (restartedPod "10.0.0.2")).objects,
      podToClusterRequests p ≠ [] :=
  lifecycle_maps (by decide)

/-! ## Histories of a pod -/

/-- The watch sees no difference between two versions of a pod. -/
structure Unchanged (p v : PodObject) : Prop where
  deletion : v.deletionTimestamp.isSome → p.deletionTimestamp.isSome
  ready : isPodReady v.toPod = isPodReady p.toPod
  podIP : v.podIP = p.podIP
  phase : v.phase = p.phase
  labels : ∀ key ∈ [roleLabelKey, labelClusterKey, labelAppKey],
    Map.str v.labels key = Map.str p.labels key
  configHash : Map.str v.annotations Resources.configHashAnnotationKey =
    Map.str p.annotations Resources.configHashAnnotationKey

theorem Unchanged.trans {p v w : PodObject} (h : Unchanged p v) (h' : Unchanged v w) :
    Unchanged p w where
  deletion hw := h.deletion (h'.deletion hw)
  ready := h'.ready.trans h.ready
  podIP := h'.podIP.trans h.podIP
  phase := h'.phase.trans h.phase
  labels key hkey := (h'.labels key hkey).trans (h.labels key hkey)
  configHash := h'.configHash.trans h.configHash

/-- An update of a labelled pod is dropped exactly when nothing that the watch looks at changes. -/
theorem update_silent_iff {p v : PodObject} (h : Map.str p.labels labelClusterKey ≠ "") :
    podLifecyclePredicate (.update p v) = false ↔ Unchanged p v := by
  have hmanaged := isClusterManagedPod_of_label h
  have hdel : (p.deletionTimestamp.isNone && v.deletionTimestamp.isSome) = false ↔
      (v.deletionTimestamp.isSome → p.deletionTimestamp.isSome) := by
    cases p.deletionTimestamp <;> cases v.deletionTimestamp <;> simp
  have hlabels : operatorLabelChanged p.labels v.labels = false ↔
      ∀ key ∈ [roleLabelKey, labelClusterKey, labelAppKey],
        Map.str v.labels key = Map.str p.labels key := by
    simp only [operatorLabelChanged, any_eq_false, decide_eq_true_eq, ne_eq, not_not]
    exact forall₂_congr fun _ _ => eq_comm
  simp only [podLifecyclePredicate, hmanaged, not_true_eq_false, false_and, if_false,
    Bool.or_eq_false_iff, hdel, hlabels, bne_eq_false_iff_eq, operatorAnnotationChanged,
    decide_eq_false_iff_not, ne_eq, not_not]
  constructor
  · rintro ⟨⟨⟨⟨⟨hd, hr⟩, hip⟩, hph⟩, hl⟩, ha⟩
    exact ⟨hd, hr.symm, hip.symm, hph.symm, hl, ha.symm⟩
  · rintro ⟨hd, hr, hip, hph, hl, ha⟩
    exact ⟨⟨⟨⟨⟨hd, hr.symm⟩, hip.symm⟩, hph.symm⟩, hl⟩, ha.symm⟩

/-- The updates of a pod through the versions `vs`. -/
def updates (p : PodObject) (vs : List PodObject) : List PodEvent :=
  List.zipWith .update (p :: vs) vs

/-- **No change is lost**: along any history of a labelled pod, either no version differs in what
the watch looks at, or one of the updates enqueues its cluster. -/
theorem changes_enqueue (p : PodObject) (vs : List PodObject)
    (hlabel : Map.str p.labels labelClusterKey ≠ "") (hns : ∀ v ∈ vs, v.ns = p.ns) :
    (∀ v ∈ vs, Unchanged p v) ∨
      ∃ e ∈ updates p vs, ⟨p.ns, Map.str p.labels labelClusterKey⟩ ∈ enqueued e := by
  induction vs generalizing p with
  | nil => exact .inl (forall_mem_nil _)
  | cons v vs ih =>
    obtain ⟨hv, hvs⟩ := forall_mem_cons.1 hns
    by_cases hpass : podLifecyclePredicate (.update p v) = true
    · refine .inr ⟨.update p v, mem_cons_self, ?_⟩
      simp [enqueued, hpass, PodEvent.objects, podToClusterRequests,
        clusterNamespacedName_of_label hlabel]
    · -- the next version has the same cluster, so its history goes on as that of `p`
      have hsame := (update_silent_iff hlabel).1 (Bool.eq_false_iff.2 hpass)
      have hcluster := hsame.labels labelClusterKey (by simp)
      rcases ih v (hcluster ▸ hlabel) fun w hw => (hvs w hw).trans hv.symm with
        hall | ⟨e, he, hmem⟩
      · exact .inl (forall_mem_cons.2 ⟨hsame, fun w hw => hsame.trans (hall w hw)⟩)
      · rw [hv, hcluster] at hmem
        exact .inr ⟨e, mem_cons_of_mem _ he, hmem⟩

theorem changes_enqueue_restarted :
    ⟨"prod", "kv"⟩ ∈ enqueued (.update (restartedPod "10.0.0.1") (restartedPod "10.0.0.2")) := by
  have hlabel : Map.str (restartedPod "10.0.0.1").labels labelClusterKey = "kv" := by
    simp [restartedPod, Map.str]
  rcases changes_enqueue (restartedPod "10.0.0.1") [restartedPod "10.0.0.2"] (by simp [hlabel])
    (by simp [restartedPod]) with hall | ⟨e, he, hmem⟩
  · exact absurd (hall _ mem_cons_self).podIP (by decide)
  · rw [mem_singleton.1 he, hlabel] at hmem
    exact hmem

/-! ## Secrets -/

section
variable {cr : KeyValCluster} {name : String}

theorem mem_tlsSecretToClusterRequests {items : List KeyValCluster} (hcr : cr ∈ items)
    (hunique : ∀ c ∈ items, c.ns = cr.ns → c.name = cr.name → c = cr) :
    ⟨cr.ns, cr.name⟩ ∈ tlsSecretToClusterRequests name (.ok items) ↔ TLSFrom cr name := by
  simp only [tlsSecretToClusterRequests, mem_filterMap]
  constructor
  · rintro ⟨c, hc, hreq⟩
    split at hreq
    · cases hreq
    · next tls htls =>
      split at hreq
      · cases hreq
      · next hused =>
        simp only [Option.some.injEq, Request.mk.injEq] at hreq
        obtain rfl := hunique c hc hreq.1 hreq.2
        rw [not_or, not_not, not_not] at hused
        exact ⟨tls, htls, hused.1, hused.2⟩
  · rintro ⟨tls, htls, henabled, rfl⟩
    exact ⟨cr, hcr, by simp [htls, henabled]⟩

/-- **Which reads are watched**: the Security phase reads secrets of the cluster's namespace that
its spec names, and a change of one enqueues the cluster exactly when its certificates are there. -/
theorem security_reads (F : Formats) (cr : KeyValCluster) (items : List KeyValCluster)
    (hcr : cr ∈ items) (hunique : ∀ c ∈ items, c.ns = cr.ns → c.name = cr.name → c = cr)
    (t : Trace) (out : Result (Settings × String)) (h : (Phases.security F cr).Runs t out)
    (ns name : String) (r : Result Secret) (hread : ⟨.getSecret ns name, r⟩ ∈ t) :
    ns = cr.ns ∧ (TLSFrom cr name ∨ PasswordFrom cr name) ∧
      (⟨cr.ns, cr.name⟩ ∈ tlsSecretToClusterRequests name (.ok items) ↔ TLSFrom cr name) := by
  obtain ⟨hns, hnamed⟩ := (security_asks F cr).mem h _ hread
  exact ⟨hns, hnamed, mem_tlsSecretToClusterRequests hcr hunique⟩

/-- A cluster with a password and no TLS. -/
def passwordOnly : KeyValCluster where
  name := "kv"
  ns := "prod"
  spec :=
    { mode := .standalone
      redisReplicas := 1
      security := some { auth := some {
        enabled := true, passwordSecretRef := some { name := "pass", key := "password" } } } }

/-- A new password does not wake the controller up. -/
theorem security_reads_passwordOnly : ∃ t out, (Phases.security .decimal passwordOnly).Runs t out ∧
    ⟨.getSecret "prod" "pass", .error (.new "unavailable")⟩ ∈ t ∧
      ⟨"prod", "kv"⟩ ∉ tlsSecretToClusterRequests "pass" (.ok [passwordOnly]) := by
  let e : Event Op := ⟨.getSecret "prod" "pass", .error (.new "unavailable")⟩
  have hrun : (Phases.security .decimal passwordOnly).Runs [e] (.error _) := .call _ (.ret _)
  have hread := security_reads .decimal passwordOnly [passwordOnly] (mem_singleton_self _)
    (fun c hc _ _ => mem_singleton.1 hc) [e] _ hrun "prod" "pass" _ (mem_singleton_self _)
  refine ⟨[e], _, hrun, mem_singleton_self _, fun hmem => ?_⟩
  obtain ⟨tls, htls, -⟩ := hread.2.2.1 hmem
  cases htls

end

end Keyval.Watch
