import KeyvalOperator.Core.Naming

/-!
# Topology settings of a pod template

`resources/topology.go`: the spread constraints and the anti-affinity rules that the operator adds
to a pod template, among rules of the user that it keeps.
-/

namespace Keyval.Resources

open Go

def labelHostname : String := "kubernetes.io/hostname"

def defaultTopologyKeys : List String := ["topology.kubernetes.io/zone", labelHostname]

/-! ## Spread constraints -/

/-- The keys of the spec, trimmed and each once, else the default keys. -/
def topologySpreadKeys (cfg : Option TopologySpreadSpec) : List String :=
  let add (acc : List String) (key : String) : List String :=
    if trimSpace key = "" ∨ trimSpace key ∈ acc then acc else acc ++ [trimSpace key]
  let filtered := ((cfg.map (·.topologyKeys)).getD []).foldl add []
  if filtered = [] then defaultTopologyKeys else filtered

def buildTopologySpreadConstraints (cfg : Option TopologySpreadSpec) (selector : Map String)
    (keys : List String) : List TopologySpreadConstraint :=
  if (cfg.map (·.disabled)).getD false then []
  else
    let maxSkew := match cfg.bind (·.maxSkew) with
      | some n => if 0 < n then n else 1
      | none => 1
    let action := (cfg.map (·.whenUnsatisfiable)).getD ""
    keys.map fun key => {
      maxSkew
      topologyKey := key
      whenUnsatisfiable := if action = "" then "ScheduleAnyway" else action
      labelSelector := some { matchLabels := selector } }

/-- The selector has the labels and nothing else. -/
def labelSelectorMatches (sel : Option LabelSelector) (selector : Map String) : Bool :=
  match sel with
  | none => false
  | some s => s.matchExpressions = [] && Map.equal s.matchLabels selector

def isOperatorConstraint (c : TopologySpreadConstraint) (selector : Map String)
    (keys : List String) : Bool :=
  labelSelectorMatches c.labelSelector selector && (keys = [] || c.topologyKey ∈ keys)

def pruneTopologyConstraints (existing : List TopologySpreadConstraint) (selector : Map String)
    (keys : List String) : List TopologySpreadConstraint :=
  existing.filter fun c => !isOperatorConstraint c selector keys

def mergeTopologyConstraints (existing defaults : List TopologySpreadConstraint)
    (selector : Map String) (keys : List String) : List TopologySpreadConstraint :=
  pruneTopologyConstraints existing selector keys ++ defaults

/-! ## Anti-affinity -/

/-- The term spreads the selected pods over the nodes. -/
def isOperatorTerm (term : PodAffinityTerm) (selector : Map String) : Bool :=
  term.topologyKey = labelHostname && labelSelectorMatches term.labelSelector selector

/-- The term of the operator. -/
def operatorTerm (selector : Map String) : PodAffinityTerm where
  topologyKey := labelHostname
  labelSelector := some { matchLabels := selector }

def ensurePreferredAntiAffinity (paa : PodAntiAffinity) (selector : Map String) :
    PodAntiAffinity :=
  if paa.preferred.any fun w => isOperatorTerm w.podAffinityTerm selector then paa
  else { paa with preferred := paa.preferred ++ [⟨100, operatorTerm selector⟩] }

def ensureRequiredAntiAffinity (paa : PodAntiAffinity) (selector : Map String) : PodAntiAffinity :=
  if paa.required.any fun term => isOperatorTerm term selector then paa
  else { paa with required := paa.required ++ [operatorTerm selector] }

def removeRequiredAntiAffinity (paa : PodAntiAffinity) (selector : Map String) : PodAntiAffinity :=
  { paa with required := paa.required.filter fun term => !isOperatorTerm term selector }

def applyPodAntiAffinity (cfg : Option TopologyAntiAffinitySpec) (selector : Map String)
    (affinity : Option Affinity) : Option Affinity :=
  let base := affinity.getD {}
  let paa := ensurePreferredAntiAffinity (base.podAntiAffinity.getD {}) selector
  let paa := if (cfg.map (·.required)).getD false then ensureRequiredAntiAffinity paa selector
    else removeRequiredAntiAffinity paa selector
  some { base with podAntiAffinity := some paa }

/-- Remove the terms of the operator, and what is empty then. -/
def prunePodAntiAffinity (selector : Map String) (affinity : Option Affinity) : Option Affinity :=
  match affinity with
  | none => none
  | some base =>
    match base.podAntiAffinity with
    | none => some base
    | some paa =>
      let paa := removeRequiredAntiAffinity { paa with
        preferred := paa.preferred.filter fun w => !isOperatorTerm w.podAffinityTerm selector }
        selector
      if paa.preferred = [] ∧ paa.required = [] then
        if base.podAffinity = none ∧ base.nodeAffinity = none then none
        else some { base with podAntiAffinity := none }
      else some { base with podAntiAffinity := some paa }

/-! ## The template -/

/-- The template with the topology settings of the cluster; `componentLabel` is the value of the
label `app` of its pods. -/
def applyTopologySettings (cr : KeyValCluster) (componentLabel : String) (tpl : PodTemplateSpec) :
    PodTemplateSpec :=
  let clusterLabel : Map String := Finmap.singleton labelClusterKey cr.name
  let selector := if componentLabel ≠ "" then clusterLabel.insert labelAppKey componentLabel
    else clusterLabel
  let spread := cr.spec.topology.bind (·.spread)
  let anti := cr.spec.topology.bind (·.antiAffinity)
  let keys := topologySpreadKeys spread
  { tpl with
    topologySpreadConstraints :=
      if (spread.map (·.disabled)).getD false then
        pruneTopologyConstraints tpl.topologySpreadConstraints selector keys
      else
        mergeTopologyConstraints tpl.topologySpreadConstraints
          (buildTopologySpreadConstraints spread selector keys) selector keys
    affinity :=
      if (anti.map (·.disabled)).getD false then prunePodAntiAffinity selector tpl.affinity
      else applyPodAntiAffinity anti selector tpl.affinity }

section
variable (cr : KeyValCluster) (componentLabel : String) (tpl : PodTemplateSpec)

@[simp] theorem applyTopologySettings_labels :
    (applyTopologySettings cr componentLabel tpl).labels = tpl.labels := rfl

@[simp] theorem applyTopologySettings_annotations :
    (applyTopologySettings cr componentLabel tpl).annotations = tpl.annotations := rfl

@[simp] theorem applyTopologySettings_nodeSelector :
    (applyTopologySettings cr componentLabel tpl).nodeSelector = tpl.nodeSelector := rfl

@[simp] theorem applyTopologySettings_containers :
    (applyTopologySettings cr componentLabel tpl).containers = tpl.containers := rfl

end

end Keyval.Resources
