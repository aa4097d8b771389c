import KeyvalOperator.Ops.Update

/-!
# Plans

What `planUpdates` puts in a plan, by the reasons of each pod.

* `planUpdates_empty_iff`: the plan is empty exactly when no pod has a reason and none is too many.
* `planUpdates_hasReason`: the reasons of a pod in a plan are its `podReasons`, but for scaling
  down.
* `mem_podReasons_tls`: a pod has the reason `tls-hash` exactly when its hash differs from that of
  the template.
-/

namespace Keyval.Update

open Go List

variable {cr : KeyValCluster} {ss : Option StatefulSet} {health : Map PodHealth}
  {storage : Map (List String)} {reason : String} {pods : List Pod} {name : String}
  {f : Pod → List String}

@[simp] theorem reasonIf_eq_nil {c : Prop} [Decidable c] :
    reasonIf c reason = [] ↔ ¬ c := by
  unfold reasonIf
  split <;> simp_all

@[simp] theorem mem_reasonIf {c : Prop} [Decidable c] {reason reason' : String} :
    reason' ∈ reasonIf c reason ↔ c ∧ reason' = reason := by
  unfold reasonIf
  split <;> simp_all

/-- The replicas of the spec, at least none. -/
def plannedReplicas (cr : KeyValCluster) : Int :=
  if cr.spec.redisReplicas < 0 then 0 else cr.spec.redisReplicas

theorem planUpdates_reasons (cr : KeyValCluster) (ss : Option StatefulSet) (pods : List Pod)
    (health : Map PodHealth) (storage : Map (List String)) :
    (planUpdates cr ss pods health storage).reasons =
      let reasons := pods.foldl
        (fun m p => addReasons m p.name (podReasons cr ss health storage p)) ∅
      if plannedReplicas cr < pods.length then
        pods.foldl (addScaleDown (plannedReplicas cr)) reasons
      else reasons := rfl

/-! ## When a plan is empty -/

theorem mem_foldl {step : Map (List String) → Pod → Map (List String)} {Q : Pod → Prop}
    (hstep : ∀ m p, name ∈ step m p ↔ name ∈ m ∨ p.name = name ∧ Q p) :
    ∀ (pods : List Pod) (m : Map (List String)),
      name ∈ pods.foldl step m ↔ name ∈ m ∨ ∃ p ∈ pods, p.name = name ∧ Q p := by
  intro pods
  induction pods with
  | nil => simp
  | cons p pods ih =>
    intro m
    rw [foldl_cons, ih, exists_mem_cons_iff, ← or_assoc, hstep]

theorem mem_foldl_addReasons (f : Pod → List String) (name : String) :
    ∀ (pods : List Pod) (m : Map (List String)),
      name ∈ pods.foldl (fun m p => addReasons m p.name (f p)) m ↔
        name ∈ m ∨ ∃ p ∈ pods, p.name = name ∧ f p ≠ [] := by
  refine mem_foldl fun m p => ?_
  unfold addReasons
  split
  · next h => simp [h]
  · next h => simp [h, or_comm, eq_comm]

theorem mem_foldl_addScaleDown (desired : Int) (name : String) :
    ∀ (pods : List Pod) (m : Map (List String)),
      name ∈ pods.foldl (addScaleDown desired) m ↔
        name ∈ m ∨ ∃ p ∈ pods, p.name = name ∧ desired ≤ ordinal p.name ∧ 0 ≤ ordinal p.name := by
  refine mem_foldl fun m p => ?_
  unfold addScaleDown
  split
  · next h => simp [h, or_comm, eq_comm]
  · next h => simp [h]

theorem plannedReplicas_nonneg (cr : KeyValCluster) : 0 ≤ plannedReplicas cr := by
  unfold plannedReplicas
  split <;> omega

theorem mem_planUpdates_reasons :
    name ∈ (planUpdates cr ss pods health storage).reasons ↔
      (∃ p ∈ pods, p.name = name ∧ podReasons cr ss health storage p ≠ []) ∨
      plannedReplicas cr < pods.length ∧ ∃ p ∈ pods, p.name = name ∧
        plannedReplicas cr ≤ ordinal p.name ∧ 0 ≤ ordinal p.name := by
  have hempty : name ∉ (∅ : Map (List String)) := Finmap.notMem_empty
  rw [planUpdates_reasons]
  split
  · next h => simp [mem_foldl_addScaleDown, mem_foldl_addReasons, h, hempty]
  · next h => simp [mem_foldl_addReasons, h, hempty]

theorem mem_planUpdates_podNames :
    name ∈ (planUpdates cr ss pods health storage).podNames ↔
      (∃ p ∈ pods, p.name = name) ∧ name ∈ (planUpdates cr ss pods health storage).reasons := by
  have hperm := perm_insertionSort (fun a b => ordinal b ≤ ordinal a)
    ((pods.map Pod.name).dedup.filter
      ((planUpdates cr ss pods health storage).reasons.lookup · |>.isSome))
  change List.Perm (planUpdates cr ss pods health storage).podNames _ at hperm
  rw [hperm.mem_iff, mem_filter, mem_dedup, mem_map, Finmap.lookup_isSome]

/-- **When the plan is empty**: no pod has a reason, and none is past the replica count while there
are too many. -/
theorem planUpdates_empty_iff :
    (planUpdates cr ss pods health storage).podNames = [] ↔
      (∀ p ∈ pods, podReasons cr ss health storage p = []) ∧
      (plannedReplicas cr < pods.length → ∀ p ∈ pods, ordinal p.name < plannedReplicas cr) := by
  have hpos := plannedReplicas_nonneg cr
  rw [eq_nil_iff_forall_not_mem]
  simp only [mem_planUpdates_podNames, mem_planUpdates_reasons]
  constructor
  · intro h
    refine ⟨fun p hp => ?_, fun hlt p hp => ?_⟩
    · by_contra hne
      exact h p.name ⟨⟨p, hp, rfl⟩, .inl ⟨p, hp, rfl, hne⟩⟩
    · by_contra hle
      exact h p.name ⟨⟨p, hp, rfl⟩, .inr ⟨hlt, p, hp, rfl, by omega, by omega⟩⟩
  · rintro ⟨hreasons, hcount⟩ name ⟨-, ⟨p, hp, -, hne⟩ | ⟨hlt, p, hp, -, hle, -⟩⟩
    · exact hne (hreasons p hp)
    · have := hcount hlt p hp
      omega

/-! ## Reasons of a plan -/

/-- The reasons for the pod. -/
def reasonsOf (m : Map (List String)) (name : String) : List String := (m.lookup name).getD []

theorem reasonsOf_addReasons_ne {m : Map (List String)} {name name' : String} {rsn : List String}
    (h : name ≠ name') : reasonsOf (addReasons m name' rsn) name = reasonsOf m name := by
  unfold addReasons reasonsOf
  split
  · rfl
  · rw [Finmap.lookup_insert_of_ne _ h]

theorem reasonsOf_addReasons_self {m : Map (List String)} {rsn : List String}
    (h : reasonsOf m name = []) : reasonsOf (addReasons m name rsn) name = rsn := by
  unfold addReasons
  split
  · next hnil => rw [h, hnil]
  · simp [reasonsOf]

theorem reasonsOf_foldl_of_notMem :
    ∀ {pods : List Pod} {m : Map (List String)}, name ∉ pods.map Pod.name →
      reasonsOf (pods.foldl (fun m p => addReasons m p.name (f p)) m) name = reasonsOf m name
  | [], _, _ => rfl
  | p :: pods, m, h => by
    rw [map_cons, mem_cons, not_or] at h
    rw [foldl_cons, reasonsOf_foldl_of_notMem h.2, reasonsOf_addReasons_ne h.1]

/-- The loop over the pods records the reasons of each, when their names differ. -/
theorem reasonsOf_foldl {p : Pod} :
    ∀ {pods : List Pod} {m : Map (List String)}, (pods.map Pod.name).Nodup → p ∈ pods →
      reasonsOf m p.name = [] →
      reasonsOf (pods.foldl (fun m p => addReasons m p.name (f p)) m) p.name = f p
  | q :: pods, m, hnodup, hp, hm => by
    rw [map_cons, nodup_cons] at hnodup
    rw [foldl_cons]
    rcases mem_cons.1 hp with rfl | hp
    · rw [reasonsOf_foldl_of_notMem hnodup.1, reasonsOf_addReasons_self hm]
    · have hne : p.name ≠ q.name := fun h =>
        hnodup.1 (h ▸ mem_map_of_mem hp)
      exact reasonsOf_foldl hnodup.2 hp (by rw [reasonsOf_addReasons_ne hne, hm])

theorem mem_reasonsOf_scaleDown {desired : Int} {name reason : String} (h : reason ≠ "scale-down") :
    ∀ {pods : List Pod} {m : Map (List String)},
      reason ∈ reasonsOf (pods.foldl (addScaleDown desired) m) name ↔ reason ∈ reasonsOf m name
  | [], _ => Iff.rfl
  | p :: pods, m => by
    rw [foldl_cons, mem_reasonsOf_scaleDown h]
    unfold addScaleDown
    split
    · by_cases hname : name = p.name
      · subst hname
        simp [reasonsOf, h]
      · rw [reasonsOf, Finmap.lookup_insert_of_ne _ hname, reasonsOf]
    · rfl

/-- **The reasons of a pod in the plan** are those of `podReasons`, but for scaling down. -/
theorem planUpdates_hasReason {p : Pod} (hnodup : (pods.map Pod.name).Nodup) (hp : p ∈ pods)
    (hreason : reason ≠ "scale-down") :
    hasReasonForPod (planUpdates cr ss pods health storage) p.name reason = true ↔
      reason ∈ podReasons cr ss health storage p := by
  have hfold : reasonsOf (pods.foldl
      (fun m p => addReasons m p.name (podReasons cr ss health storage p)) ∅) p.name =
      podReasons cr ss health storage p :=
    reasonsOf_foldl hnodup hp (by simp [reasonsOf])
  have hmem : hasReasonForPod (planUpdates cr ss pods health storage) p.name reason = true ↔
      reason ∈ reasonsOf (planUpdates cr ss pods health storage).reasons p.name := by
    simp [hasReasonForPod, reasonsOf]
  rw [hmem]
  rw [planUpdates_reasons]
  split
  · rw [mem_reasonsOf_scaleDown hreason, hfold]
  · rw [hfold]

theorem mem_appendUniqueReasons :
    ∀ {extras dst : List String}, reason ∈ appendUniqueReasons dst extras →
      reason ∈ dst ∨ reason ∈ extras
  | [], _, h => .inl h
  | x :: extras, dst, h => by
    have hstep := @mem_appendUniqueReasons extras _ h
    dsimp only at hstep
    split at hstep
    · exact hstep.imp_right (mem_cons_of_mem _)
    · rw [mem_append, mem_singleton, or_assoc] at hstep
      rcases hstep with h | h | h
      · exact .inl h
      · exact .inr (h ▸ .head _)
      · exact .inr (.tail _ h)

theorem mem_appendUniqueReasons_left :
    ∀ {extras dst : List String}, reason ∈ dst → reason ∈ appendUniqueReasons dst extras
  | [], _, h => h
  | x :: extras, dst, h => by
    refine @mem_appendUniqueReasons_left extras _ ?_
    dsimp only
    split
    · exact h
    · exact mem_append_left _ h

/-! ## The reason `tls-hash` -/

section
variable {p : Pod}

theorem not_tls_mem_containerReasons (c : Container) : "tls-hash" ∉ containerReasons cr c := by
  unfold containerReasons
  split
  · simp
  · split <;> simp

theorem not_tls_mem_layoutReasons : "tls-hash" ∉ layoutReasons cr ss p := by
  unfold layoutReasons
  cases ss <;> simp

theorem not_tls_mem_healthReasons : "tls-hash" ∉ healthReasons health p := by
  unfold healthReasons
  split <;> simp

theorem not_tls_mem_metricsReasons : "tls-hash" ∉ metricsReasons cr ss p := by
  unfold metricsReasons
  split
  · simp
  · split
    · split
      · simp
      · split <;> simp
    · simp

theorem mem_hashReasons_tls :
    "tls-hash" ∈ hashReasons ss p ↔
      Map.str p.annotations Phases.tlsSecretHashAnnotationKey ≠
        desiredAnnotation ss Phases.tlsSecretHashAnnotationKey := by
  simp only [hashReasons, mem_append, mem_reasonIf]
  constructor
  · rintro (⟨-, h⟩ | ⟨⟨-, h⟩, -⟩)
    · exact absurd h (by decide)
    · exact h
  · intro h
    refine .inr ⟨⟨?_, h⟩, trivial⟩
    -- two hashes that differ are not both empty
    by_contra hempty
    rw [not_or, not_not, not_not] at hempty
    exact h (hempty.2.trans hempty.1.symm)

theorem mem_podReasons_tls (hstorage : "tls-hash" ∉ (storage.lookup p.name).getD []) :
    "tls-hash" ∈ podReasons cr ss health storage p ↔
      Map.str p.annotations Phases.tlsSecretHashAnnotationKey ≠
        desiredAnnotation ss Phases.tlsSecretHashAnnotationKey := by
  rw [← mem_hashReasons_tls, podReasons, mem_append, or_iff_left not_tls_mem_metricsReasons]
  constructor
  · intro h
    have h := (mem_appendUniqueReasons h).resolve_right hstorage
    simpa [not_tls_mem_healthReasons, not_tls_mem_layoutReasons, not_tls_mem_containerReasons]
      using h
  · intro h
    refine mem_appendUniqueReasons_left ?_
    simp [h]

/-! ## The reasons that a plan can give -/

/-- The reasons that a pod can be given. -/
def podReasonTexts : List String :=
  ["config-hash", "tls-hash", "image:redis", "resources:redis", "image:sentinel",
    "resources:sentinel", "layout:sentinel-removed", "spec:node-selector", "health:lagging",
    "health:desynced", "health:offline", "metrics:missing", "metrics:missing-template",
    "metrics:image", "metrics:ports", "metrics:args", "resources:metrics",
    "metrics:present-when-disabled"]

theorem mem_podReasons (h : reason ∈ podReasons cr ss health storage p) :
    reason ∈ podReasonTexts ∨ reason ∈ (storage.lookup p.name).getD [] := by
  rw [podReasons, mem_append] at h
  rcases h with h | h
  · rcases mem_appendUniqueReasons h with h | h
    · refine .inl ?_
      simp only [mem_append, mem_flatMap] at h
      rcases h with ((h | ⟨c, -, h⟩) | h) | h
      · simp only [hashReasons, mem_append, mem_reasonIf] at h
        rcases h with ⟨-, rfl⟩ | ⟨-, rfl⟩ <;> decide
      · unfold containerReasons at h
        split_ifs at h
        · simp only [mem_append, mem_reasonIf] at h
          rcases h with ⟨-, rfl⟩ | ⟨-, rfl⟩ <;> decide
        · simp only [mem_append, mem_reasonIf] at h
          rcases h with ⟨-, rfl⟩ | ⟨-, rfl⟩ <;> decide
        · cases h
      · unfold layoutReasons at h
        cases ss with
        | none =>
          simp only [append_nil, mem_reasonIf] at h
          obtain ⟨-, rfl⟩ := h
          decide
        | some ss =>
          simp only [mem_append, mem_reasonIf] at h
          rcases h with ⟨-, rfl⟩ | ⟨-, rfl⟩ <;> decide
      · unfold healthReasons at h
        split at h <;> first | (obtain ⟨-, rfl⟩ := mem_reasonIf.1 h; decide) | cases h
    · exact .inr h
  · refine .inl ?_
    unfold metricsReasons at h
    split at h
    · cases h
    split at h
    · split at h
      · obtain rfl := mem_singleton.1 h
        decide
      · split at h
        · obtain rfl := mem_singleton.1 h
          decide
        · simp only [mem_append, mem_reasonIf] at h
          rcases h with ((⟨-, rfl⟩ | ⟨-, rfl⟩) | ⟨-, rfl⟩) | ⟨-, rfl⟩ <;> decide
    · obtain ⟨-, rfl⟩ := mem_reasonIf.1 h
      decide

end

theorem mem_reasonsOf_foldl {name reason : String} :
    ∀ {pods : List Pod} {m : Map (List String)},
      reason ∈ reasonsOf (pods.foldl (fun m p => addReasons m p.name (f p)) m) name →
      reason ∈ reasonsOf m name ∨ ∃ p ∈ pods, reason ∈ f p
  | [], _, h => .inl h
  | p :: pods, m, h => by
    rw [foldl_cons] at h
    rcases mem_reasonsOf_foldl h with h | ⟨p', hp', h⟩
    · unfold addReasons at h
      split at h
      · exact .inl h
      · by_cases hname : name = p.name
        · subst hname
          rw [reasonsOf, Finmap.lookup_insert] at h
          exact .inr ⟨p, .head _, h⟩
        · rw [reasonsOf, Finmap.lookup_insert_of_ne _ hname] at h
          exact .inl h
    · exact .inr ⟨p', .tail _ hp', h⟩

/-- **The reasons of a plan**: those of the planner, those of the storage, and `scale-down`. -/
theorem mem_planUpdates_reason {name reason : String}
    (h : reason ∈ reasonsOf (planUpdates cr ss pods health storage).reasons name) :
    reason = "scale-down" ∨ reason ∈ podReasonTexts ∨
      ∃ p ∈ pods, reason ∈ (storage.lookup p.name).getD [] := by
  by_cases hscale : reason = "scale-down"
  · exact .inl hscale
  refine .inr ?_
  have hfold : reason ∈ reasonsOf (pods.foldl
      (fun m p => addReasons m p.name (podReasons cr ss health storage p)) ∅) name := by
    rw [planUpdates_reasons] at h
    split at h
    · exact (mem_reasonsOf_scaleDown hscale).1 h
    · exact h
  rcases mem_reasonsOf_foldl hfold with hempty | ⟨p, hp, hreason⟩
  · rw [reasonsOf, Finmap.lookup_empty] at hempty
    cases hempty
  · exact (mem_podReasons hreason).imp_right fun hstorage => ⟨p, hp, hstorage⟩

end Keyval.Update
