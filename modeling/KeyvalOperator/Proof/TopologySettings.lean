import KeyvalOperator.Lib.Owned
import KeyvalOperator.Resources.Topology

/-!
# Topology settings among rules of the user

The operator recognises its own spread constraints and anti-affinity terms by their selector and
topology key. `pruneTopologyConstraints`, `mergeTopologyConstraints` and the `ensure` and `remove`
functions are those of a list with two owners (`Owned`).

* `applyTopologySettings_settles`: applied again, the settings change nothing; the rules of the user
  stay; of disabled settings nothing remains.
-/

namespace Keyval.Resources

open Go Owned List

variable {selector : Map String} {c : TopologySpreadConstraint} {term : PodAffinityTerm}
  {keys : List String}

/-! ## The operator's own rules -/

theorem labelSelectorMatches_iff {sel : Option LabelSelector} :
    labelSelectorMatches sel selector = true ↔ sel = some { matchLabels := selector } := by
  cases sel with
  | none => simp [labelSelectorMatches]
  | some s =>
    obtain ⟨labels, expressions⟩ := s
    simp [labelSelectorMatches, Map.equal_iff, and_comm]

theorem isOperatorTerm_iff :
    isOperatorTerm term selector = true ↔
      term.labelSelector = some { matchLabels := selector } ∧ term.topologyKey = labelHostname := by
  simp [isOperatorTerm, labelSelectorMatches_iff, and_comm]

theorem topologySpreadKeys_ne_nil (cfg : Option TopologySpreadSpec) :
    topologySpreadKeys cfg ≠ [] := by
  unfold topologySpreadKeys
  dsimp only
  split
  · decide
  · assumption

theorem isOperatorConstraint_iff (h : keys ≠ []) :
    isOperatorConstraint c selector keys = true ↔
      c.labelSelector = some { matchLabels := selector } ∧ c.topologyKey ∈ keys := by
  simp [isOperatorConstraint, labelSelectorMatches_iff, h]

theorem isOperatorConstraint_built {cfg : Option TopologySpreadSpec} :
    ∀ c ∈ buildTopologySpreadConstraints cfg selector keys,
      isOperatorConstraint c selector keys = true := by
  intro c hc
  unfold buildTopologySpreadConstraints at hc
  split at hc
  · cases hc
  · obtain ⟨key, hkey, rfl⟩ := mem_map.1 hc
    simp [isOperatorConstraint, labelSelectorMatches, hkey]

/-! ## Anti-affinity -/

/-- The preferred terms. -/
def preferredTerms (affinity : Option Affinity) : List WeightedPodAffinityTerm :=
  ((affinity.bind (·.podAntiAffinity)).getD {}).preferred

/-- The required terms. -/
def requiredTerms (affinity : Option Affinity) : List PodAffinityTerm :=
  ((affinity.bind (·.podAntiAffinity)).getD {}).required

section
variable (selector : Map String)

/-- The term is the operator's. -/
def ownPreferred (w : WeightedPodAffinityTerm) : Bool := isOperatorTerm w.podAffinityTerm selector

/-- The term is the operator's. -/
def ownRequired (term : PodAffinityTerm) : Bool := isOperatorTerm term selector

theorem ownRequired_operatorTerm : ownRequired selector (operatorTerm selector) = true :=
  isOperatorTerm_iff.2 ⟨rfl, rfl⟩

theorem ownPreferred_operatorTerm (weight : Int) :
    ownPreferred selector ⟨weight, operatorTerm selector⟩ = true :=
  ownRequired_operatorTerm selector

/-! ### Enabled -/

section
variable (cfg : Option TopologyAntiAffinitySpec)

/-- The required terms after the update. -/
def settleRequired (required : List PodAffinityTerm) :
    List PodAffinityTerm :=
  if (cfg.map (·.required)).getD false then
    ensureOwned (ownRequired selector) (operatorTerm selector) required
  else foreign (ownRequired selector) required

theorem settleRequired_twice (required : List PodAffinityTerm) :
    settleRequired selector cfg (settleRequired selector cfg required) =
      settleRequired selector cfg required := by
  unfold settleRequired
  split
  · exact ensureOwned_twice (ownRequired_operatorTerm selector) required
  · exact foreign_foreign required

theorem foreign_settleRequired (required : List PodAffinityTerm) :
    foreign (ownRequired selector) (settleRequired selector cfg required) =
      foreign (ownRequired selector) required := by
  unfold settleRequired
  split
  · exact foreign_ensureOwned (ownRequired_operatorTerm selector) required
  · exact foreign_foreign required

theorem ensurePreferredAntiAffinity_eq (paa : PodAntiAffinity) :
    ensurePreferredAntiAffinity paa selector = ⟨ensureOwned (ownPreferred selector)
      ⟨100, operatorTerm selector⟩ paa.preferred, paa.required⟩ := by
  unfold ensurePreferredAntiAffinity ensureOwned ownPreferred
  split <;> rfl

theorem applyPodAntiAffinity_eq (affinity : Option Affinity) :
    applyPodAntiAffinity cfg selector affinity = some {
      nodeAffinity := affinity.bind (·.nodeAffinity)
      podAffinity := affinity.bind (·.podAffinity)
      podAntiAffinity := some {
        preferred := ensureOwned (ownPreferred selector) ⟨100, operatorTerm selector⟩
          (preferredTerms affinity)
        required := settleRequired selector cfg (requiredTerms affinity) } } := by
  have hrequired (paa : PodAntiAffinity) :
      (if (cfg.map (·.required)).getD false then ensureRequiredAntiAffinity paa selector
        else removeRequiredAntiAffinity paa selector) =
        ⟨paa.preferred, settleRequired selector cfg paa.required⟩ := by
    unfold settleRequired ensureRequiredAntiAffinity removeRequiredAntiAffinity ensureOwned
    split
    · unfold ownRequired
      split <;> rfl
    · rfl
  unfold applyPodAntiAffinity
  dsimp only
  rw [hrequired, ensurePreferredAntiAffinity_eq]
  cases affinity <;> rfl

theorem applyPodAntiAffinity_twice (affinity : Option Affinity) :
    applyPodAntiAffinity cfg selector (applyPodAntiAffinity cfg selector affinity) =
      applyPodAntiAffinity cfg selector affinity := by
  rw [applyPodAntiAffinity_eq, applyPodAntiAffinity_eq]
  simp only [preferredTerms, requiredTerms, Option.bind_some, Option.getD_some,
    ensureOwned_twice (ownPreferred_operatorTerm selector 100), settleRequired_twice]

end

/-! ### Disabled -/

/-- The terms of others. -/
def foreignTerms (paa : PodAntiAffinity) : PodAntiAffinity :=
  ⟨foreign (ownPreferred selector) paa.preferred, foreign (ownRequired selector) paa.required⟩

theorem prunePodAntiAffinity_some (base : Affinity) (paa : PodAntiAffinity)
    (h : base.podAntiAffinity = some paa) :
    prunePodAntiAffinity selector (some base) =
      if foreignTerms selector paa = {} then
        if base.podAffinity = none ∧ base.nodeAffinity = none then none
        else some { base with podAntiAffinity := none }
      else some { base with podAntiAffinity := some (foreignTerms selector paa) } := by
  have hempty : foreignTerms selector paa = {} ↔
      (foreignTerms selector paa).preferred = [] ∧ (foreignTerms selector paa).required = [] := by
    rw [PodAntiAffinity.mk.injEq]
  simp only [hempty]
  unfold prunePodAntiAffinity
  simp only [h]
  rfl

/-- The affinity that disabled settings leave: nothing has changed, the anti-affinity is gone, or it
has the terms of the other writers. -/
theorem prunePodAntiAffinity_cases (affinity : Option Affinity) :
    (affinity.bind (·.podAntiAffinity) = none ∧ prunePodAntiAffinity selector affinity = affinity) ∨
    ∃ base paa, affinity = some base ∧ base.podAntiAffinity = some paa ∧
      ((foreignTerms selector paa = {} ∧ base.podAffinity = none ∧ base.nodeAffinity = none ∧
          prunePodAntiAffinity selector affinity = none) ∨
        (foreignTerms selector paa = {} ∧
          prunePodAntiAffinity selector affinity = some { base with podAntiAffinity := none }) ∨
        (foreignTerms selector paa ≠ {} ∧ prunePodAntiAffinity selector affinity =
          some { base with podAntiAffinity := some (foreignTerms selector paa) })) := by
  cases affinity with
  | none => exact .inl ⟨rfl, rfl⟩
  | some base =>
    cases hpaa : base.podAntiAffinity with
    | none =>
      refine .inl ⟨hpaa, ?_⟩
      simp [prunePodAntiAffinity, hpaa]
    | some paa =>
      refine .inr ⟨base, paa, rfl, hpaa, ?_⟩
      rw [prunePodAntiAffinity_some selector base paa hpaa]
      split
      · next hempty =>
        split
        · next hrest => exact .inl ⟨hempty, hrest.1, hrest.2, rfl⟩
        · exact .inr (.inl ⟨hempty, rfl⟩)
      · next hne => exact .inr (.inr ⟨hne, rfl⟩)

theorem prunePodAntiAffinity_twice (affinity : Option Affinity) :
    prunePodAntiAffinity selector (prunePodAntiAffinity selector affinity) =
      prunePodAntiAffinity selector affinity := by
  have hforeign (paa : PodAntiAffinity) :
      foreignTerms selector (foreignTerms selector paa) = foreignTerms selector paa := by
    simp [foreignTerms]
  obtain ⟨-, h⟩ | ⟨base, paa, rfl, hpaa, hcases⟩ := prunePodAntiAffinity_cases selector affinity
  · rw [h, h]
  · obtain ⟨-, -, -, h⟩ | ⟨-, h⟩ | ⟨hne, h⟩ := hcases
    · rw [h]
      rfl
    · rw [h]
      rfl
    · rw [h, prunePodAntiAffinity_some selector _ _ rfl, hforeign, if_neg hne]

theorem prunePodAntiAffinity_parts (affinity : Option Affinity) :
    preferredTerms (prunePodAntiAffinity selector affinity) =
        foreign (ownPreferred selector) (preferredTerms affinity) ∧
      requiredTerms (prunePodAntiAffinity selector affinity) =
        foreign (ownRequired selector) (requiredTerms affinity) ∧
      (prunePodAntiAffinity selector affinity).bind (·.nodeAffinity) =
        affinity.bind (·.nodeAffinity) ∧
      (prunePodAntiAffinity selector affinity).bind (·.podAffinity) =
        affinity.bind (·.podAffinity) := by
  obtain ⟨hnone, h⟩ | ⟨base, paa, rfl, hpaa, hcases⟩ := prunePodAntiAffinity_cases selector affinity
  · rw [h]
    simp [preferredTerms, requiredTerms, hnone, foreign]
  · have hpreferred : preferredTerms (some base) = paa.preferred := by simp [preferredTerms, hpaa]
    have hrequired : requiredTerms (some base) = paa.required := by simp [requiredTerms, hpaa]
    rw [hpreferred, hrequired]
    have hempty (h : foreignTerms selector paa = {}) :
        foreign (ownPreferred selector) paa.preferred = [] ∧
          foreign (ownRequired selector) paa.required = [] := by
      rwa [foreignTerms, PodAntiAffinity.mk.injEq] at h
    obtain ⟨hgone, hpod, hnode, h⟩ | ⟨hgone, h⟩ | ⟨-, h⟩ := hcases
    · rw [h, (hempty hgone).1, (hempty hgone).2]
      exact ⟨rfl, rfl, hnode.symm, hpod.symm⟩
    · rw [h, (hempty hgone).1, (hempty hgone).2]
      exact ⟨rfl, rfl, rfl, rfl⟩
    · rw [h]
      exact ⟨rfl, rfl, rfl, rfl⟩

end

/-! ## The template -/

section
variable (cr : KeyValCluster) (componentLabel : String)

/-- The labels of the component's pods. -/
def selectorLabels : Map String :=
  let clusterLabel : Map String := Finmap.singleton labelClusterKey cr.name
  if componentLabel ≠ "" then clusterLabel.insert labelAppKey componentLabel else clusterLabel

/-- The topology keys of the spec. -/
def currentKeys : List String := topologySpreadKeys (cr.spec.topology.bind (·.spread))

/-- The spec disables the spread. -/
def SpreadDisabled : Prop := ∃ spread, cr.spec.topology.bind (·.spread) = some spread ∧
  spread.disabled = true

/-- The spec disables the anti-affinity. -/
def AntiAffinityDisabled : Prop := ∃ anti, cr.spec.topology.bind (·.antiAffinity) = some anti ∧
  anti.disabled = true

/-- The operator's own constraints: its labels are all that is selected by, and the topology key is
one of the current keys. -/
def OwnConstraint (c : TopologySpreadConstraint) : Prop :=
  c.labelSelector = some { matchLabels := selectorLabels cr componentLabel } ∧
    c.topologyKey ∈ currentKeys cr

/-- The operator's own terms: its labels are all that is selected by, and the topology key is that
of the nodes. -/
def OwnTerm (term : PodAffinityTerm) : Prop :=
  term.labelSelector = some { matchLabels := selectorLabels cr componentLabel } ∧
    term.topologyKey = labelHostname

instance (c : TopologySpreadConstraint) : Decidable (OwnConstraint cr componentLabel c) :=
  inferInstanceAs (Decidable (_ ∧ _))

instance (term : PodAffinityTerm) : Decidable (OwnTerm cr componentLabel term) :=
  inferInstanceAs (Decidable (_ ∧ _))

/-- The rules of the user are the same in both templates, in the same order, and so are the node and
pod affinity. -/
structure KeepsUserRules (tpl tpl' : PodTemplateSpec) : Prop where
  constraints :
    tpl'.topologySpreadConstraints.filter (fun c => ¬ OwnConstraint cr componentLabel c) =
      tpl.topologySpreadConstraints.filter (fun c => ¬ OwnConstraint cr componentLabel c)
  preferred :
    (preferredTerms tpl'.affinity).filter (fun w => ¬ OwnTerm cr componentLabel w.podAffinityTerm) =
      (preferredTerms tpl.affinity).filter (fun w => ¬ OwnTerm cr componentLabel w.podAffinityTerm)
  required :
    (requiredTerms tpl'.affinity).filter (fun term => ¬ OwnTerm cr componentLabel term) =
      (requiredTerms tpl.affinity).filter (fun term => ¬ OwnTerm cr componentLabel term)
  nodeAffinity : tpl'.affinity.bind (·.nodeAffinity) = tpl.affinity.bind (·.nodeAffinity)
  podAffinity : tpl'.affinity.bind (·.podAffinity) = tpl.affinity.bind (·.podAffinity)

/-- The constraint is the operator's. -/
def ownConstraint (c : TopologySpreadConstraint) : Bool :=
  isOperatorConstraint c (selectorLabels cr componentLabel) (currentKeys cr)

variable {cr componentLabel}

theorem ownConstraint_iff :
    ownConstraint cr componentLabel c = true ↔ OwnConstraint cr componentLabel c :=
  isOperatorConstraint_iff (topologySpreadKeys_ne_nil _)

theorem ownRequired_iff :
    ownRequired (selectorLabels cr componentLabel) term = true ↔ OwnTerm cr componentLabel term :=
  isOperatorTerm_iff

theorem ownPreferred_iff {w : WeightedPodAffinityTerm} :
    ownPreferred (selectorLabels cr componentLabel) w = true ↔
      OwnTerm cr componentLabel w.podAffinityTerm :=
  isOperatorTerm_iff

theorem filter_constraints (l : List TopologySpreadConstraint) :
    l.filter (fun c => ¬ OwnConstraint cr componentLabel c) =
      foreign (ownConstraint cr componentLabel) l :=
  filter_not_eq_foreign (fun _ => ownConstraint_iff) l

theorem filter_preferred (l : List WeightedPodAffinityTerm) :
    l.filter (fun w => ¬ OwnTerm cr componentLabel w.podAffinityTerm) =
      foreign (ownPreferred (selectorLabels cr componentLabel)) l :=
  filter_not_eq_foreign (fun _ => ownPreferred_iff) l

theorem filter_required (l : List PodAffinityTerm) :
    l.filter (fun term => ¬ OwnTerm cr componentLabel term) =
      foreign (ownRequired (selectorLabels cr componentLabel)) l :=
  filter_not_eq_foreign (fun _ => ownRequired_iff) l

variable (cr componentLabel)

theorem applyTopologySettings_constraints (tpl : PodTemplateSpec) :
    (applyTopologySettings cr componentLabel tpl).topologySpreadConstraints =
      replaceOwned (ownConstraint cr componentLabel)
        (buildTopologySpreadConstraints (cr.spec.topology.bind (·.spread))
          (selectorLabels cr componentLabel) (currentKeys cr))
        tpl.topologySpreadConstraints := by
  unfold applyTopologySettings
  dsimp only
  split
  · next h =>
    have hnone : buildTopologySpreadConstraints (cr.spec.topology.bind (·.spread))
        (selectorLabels cr componentLabel) (currentKeys cr) = [] := if_pos h
    rw [hnone]
    exact (append_nil _).symm
  · rfl

theorem applyTopologySettings_affinity (tpl : PodTemplateSpec) :
    (applyTopologySettings cr componentLabel tpl).affinity =
      if ((cr.spec.topology.bind (·.antiAffinity)).map (·.disabled)).getD false then
        prunePodAntiAffinity (selectorLabels cr componentLabel) tpl.affinity
      else applyPodAntiAffinity (cr.spec.topology.bind (·.antiAffinity))
        (selectorLabels cr componentLabel) tpl.affinity := rfl

theorem applyTopologySettings_twice (tpl : PodTemplateSpec) :
    applyTopologySettings cr componentLabel (applyTopologySettings cr componentLabel tpl) =
      applyTopologySettings cr componentLabel tpl := by
  have hconstraints : (applyTopologySettings cr componentLabel
      (applyTopologySettings cr componentLabel tpl)).topologySpreadConstraints =
      (applyTopologySettings cr componentLabel tpl).topologySpreadConstraints := by
    simp only [applyTopologySettings_constraints]
    exact replaceOwned_twice isOperatorConstraint_built _
  have haffinity : (applyTopologySettings cr componentLabel
      (applyTopologySettings cr componentLabel tpl)).affinity =
      (applyTopologySettings cr componentLabel tpl).affinity := by
    simp only [applyTopologySettings_affinity]
    split
    · exact prunePodAntiAffinity_twice _ _
    · exact applyPodAntiAffinity_twice _ _ _
  -- all other fields are those of the given template
  show PodTemplateSpec.mk _ _ _ _ _ _ = PodTemplateSpec.mk _ _ _ _ _ _
  rw [PodTemplateSpec.mk.injEq]
  exact ⟨rfl, rfl, rfl, rfl, hconstraints, haffinity⟩

theorem applyTopologySettings_keeps (tpl : PodTemplateSpec) :
    KeepsUserRules cr componentLabel tpl (applyTopologySettings cr componentLabel tpl) := by
  have hconstraints : foreign (ownConstraint cr componentLabel)
      (applyTopologySettings cr componentLabel tpl).topologySpreadConstraints =
      foreign (ownConstraint cr componentLabel) tpl.topologySpreadConstraints := by
    rw [applyTopologySettings_constraints]
    exact foreign_replaceOwned isOperatorConstraint_built _
  obtain ⟨hpreferred, hrequired, hnode, hpod⟩ :=
    prunePodAntiAffinity_parts (selectorLabels cr componentLabel) tpl.affinity
  constructor
  · rw [filter_constraints, filter_constraints, hconstraints]
  · rw [filter_preferred, filter_preferred, applyTopologySettings_affinity]
    split
    · rw [hpreferred, foreign_foreign]
    · rw [applyPodAntiAffinity_eq]
      exact foreign_ensureOwned (ownPreferred_operatorTerm _ _) _
  · rw [filter_required, filter_required, applyTopologySettings_affinity]
    split
    · rw [hrequired, foreign_foreign]
    · rw [applyPodAntiAffinity_eq]
      exact foreign_settleRequired _ _ _
  · rw [applyTopologySettings_affinity]
    split
    · exact hnode
    · rw [applyPodAntiAffinity_eq]
      rfl
  · rw [applyTopologySettings_affinity]
    split
    · exact hpod
    · rw [applyPodAntiAffinity_eq]
      rfl

/-- **The topology settings of a template** are applied once and for all; every rule of the user is
kept, and of disabled settings nothing remains. -/
theorem applyTopologySettings_settles (tpl : PodTemplateSpec) :
    applyTopologySettings cr componentLabel (applyTopologySettings cr componentLabel tpl) =
        applyTopologySettings cr componentLabel tpl ∧
      KeepsUserRules cr componentLabel tpl (applyTopologySettings cr componentLabel tpl) ∧
      (SpreadDisabled cr →
        ∀ c ∈ (applyTopologySettings cr componentLabel tpl).topologySpreadConstraints,
          ¬ OwnConstraint cr componentLabel c) ∧
      (AntiAffinityDisabled cr →
        (∀ w ∈ preferredTerms (applyTopologySettings cr componentLabel tpl).affinity,
          ¬ OwnTerm cr componentLabel w.podAffinityTerm) ∧
        ∀ term ∈ requiredTerms (applyTopologySettings cr componentLabel tpl).affinity,
          ¬ OwnTerm cr componentLabel term) := by
  refine ⟨applyTopologySettings_twice cr componentLabel tpl,
    applyTopologySettings_keeps cr componentLabel tpl, ?_, ?_⟩
  · intro ⟨spread, hspread, hdisabled⟩ c hc hown
    have hnone : buildTopologySpreadConstraints (some spread) (selectorLabels cr componentLabel)
        (currentKeys cr) = [] := if_pos hdisabled
    rw [applyTopologySettings_constraints, hspread, hnone, replaceOwned, append_nil] at hc
    exact not_of_mem_foreign ownConstraint_iff hc hown
  · intro ⟨anti, hanti, hdisabled⟩
    obtain ⟨hpreferred, hrequired, -, -⟩ :=
      prunePodAntiAffinity_parts (selectorLabels cr componentLabel) tpl.affinity
    have haffinity : (applyTopologySettings cr componentLabel tpl).affinity =
        prunePodAntiAffinity (selectorLabels cr componentLabel) tpl.affinity := by
      rw [applyTopologySettings_affinity, hanti]
      exact if_pos hdisabled
    rw [haffinity, hpreferred, hrequired]
    constructor
    · intro w hw
      exact not_of_mem_foreign ownPreferred_iff hw
    · intro term hterm
      exact not_of_mem_foreign ownRequired_iff hterm

end

end Keyval.Resources
