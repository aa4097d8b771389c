import KeyvalOperator.Phases.Services
import KeyvalOperator.Resources.Config
import KeyvalOperator.Resources.PDB

/-!
# Clusters next to each other

The objects that the builders generate for a cluster have its name with a fixed end, and their
selectors ask for an application label that is made in the same way. Two clusters in one namespace
share an object when one name with its end is the other name with its own.

* `separate_iff`: when two clusters share nothing, by their names and the labels of their Sentinels.
* `keepsSelection_iff`: when the labels of the user leave the selection of a cluster's pods intact.
-/

namespace Keyval.Resources

open Go Phases List

variable {cr : KeyValCluster} {labels : Map String} {i : Inputs} {a b : KeyValCluster}

/-! ## Objects -/

/-- The kinds of objects. -/
inductive ObjectKind
  | statefulSet
  | service
  | configMap
  | podDisruptionBudget
  deriving DecidableEq, Repr

/-- An object as other clusters meet it: its kind, its name and the pods that it selects. -/
structure Object where
  kind : ObjectKind
  name : String
  selector : Option (Map String) := none

/-- The object of a StatefulSet. -/
def Object.ofStatefulSet (ss : StatefulSet) : Object := ⟨.statefulSet, ss.name, some ss.matchLabels⟩

/-- The object of a Service. -/
def Object.ofService (svc : Service) : Object := ⟨.service, svc.name, some svc.selector⟩

/-- The object of a ConfigMap. -/
def Object.ofConfigMap (cm : ConfigMap) : Object := ⟨.configMap, cm.name, none⟩

/-- The object of a budget. -/
def Object.ofPDB (pdb : PodDisruptionBudget) : Object :=
  ⟨.podDisruptionBudget, pdb.name, some pdb.matchLabels⟩

/-- What the objects depend on besides the spec. -/
structure Inputs where
  configHash : String := ""
  tlsHash : String := ""
  sec : Settings := {}
  scripts : Scripts := {}
  redisMin : Int := 0
  sentinelMin : Int := 0

section
variable (cr : KeyValCluster) (i : Inputs)

/-- The objects that the builders generate for a cluster in its mode. -/
def generated : List Object :=
  [.ofStatefulSet (statefulSet cr i.configHash i.tlsHash i.sec),
    .ofConfigMap (configMap i.scripts cr i.sec), .ofPDB (redisPDB cr i.redisMin)] ++
  (ServiceKind.all cr).map (fun kind => .ofService (kind.build cr)) ++
  if cr.spec.mode = .sentinel then
    [.ofStatefulSet (sentinelStatefulSet cr i.configHash i.tlsHash i.sec),
      .ofPDB (sentinelPDB cr i.sentinelMin)]
  else []

/-- The labels of the cluster's pods. -/
def generatedPodLabels : List (Map String) :=
  (statefulSet cr i.configHash i.tlsHash i.sec).template.labels ::
  if cr.spec.mode = .sentinel then
    [(sentinelStatefulSet cr i.configHash i.tlsHash i.sec).template.labels]
  else []

end

/-- The selector selects these labels. -/
def Selects (selector labels : Map String) : Prop :=
  ∀ key value, selector.lookup key = some value → labels.lookup key = some value

/-- No selector selects a pod of the other. -/
def Spares (a b : KeyValCluster) (i j : Inputs) : Prop :=
  ∀ x ∈ generated a i, ∀ selector, x.selector = some selector →
    ∀ labels ∈ generatedPodLabels b j, ¬ Selects selector labels

/-- Two clusters share no object and select no pods of each other. -/
structure Separate (a b : KeyValCluster) (i j : Inputs) : Prop where
  objects : ∀ x ∈ generated a i, ∀ y ∈ generated b j, x.kind = y.kind → x.name ≠ y.name
  selects : Spares a b i j
  selected : Spares b a j i

theorem mem_generated {x : Object} : x ∈ generated cr i ↔
    (x = .ofStatefulSet (statefulSet cr i.configHash i.tlsHash i.sec) ∨
      x = .ofConfigMap (configMap i.scripts cr i.sec) ∨ x = .ofPDB (redisPDB cr i.redisMin) ∨
      x = .ofService (headlessService cr) ∨ x = .ofService (masterService cr) ∨
      x = .ofService (replicasService cr)) ∨
    cr.spec.mode = .sentinel ∧
      (x = .ofStatefulSet (sentinelStatefulSet cr i.configHash i.tlsHash i.sec) ∨
        x = .ofPDB (sentinelPDB cr i.sentinelMin) ∨ x = .ofService (sentinelService cr) ∨
        x = .ofService (sentinelHeadlessService cr)) := by
  by_cases hmode : cr.spec.mode = .sentinel
  · simp only [generated, ServiceKind.all, ServiceKind.build, hmode, if_true, map_append,
      map_cons, map_nil, mem_append, mem_cons, not_mem_nil, or_false,
      true_and]
    tauto
  · simp only [generated, ServiceKind.all, ServiceKind.build, hmode, if_false, map_append,
      map_cons, map_nil, mem_append, mem_cons, not_mem_nil, or_false,
      false_and]
    tauto

theorem mem_generatedPodLabels :
    labels ∈ generatedPodLabels cr i ↔
      labels = (statefulSet cr i.configHash i.tlsHash i.sec).template.labels ∨
      cr.spec.mode = .sentinel ∧
        labels = (sentinelStatefulSet cr i.configHash i.tlsHash i.sec).template.labels := by
  unfold generatedPodLabels
  split
  · next hmode => simp [hmode]
  · next hmode => simp [hmode]

/-! ## Names -/

/-- The suffixes of the names. -/
def suffixes : ObjectKind → List String
  | .statefulSet => [""]
  | .service => ["-headless", "-master", "-replicas"]
  | .configMap => ["-config"]
  | .podDisruptionBudget => ["-redis"]

/-- Those in Sentinel mode. -/
def sentinelSuffixes : ObjectKind → List String
  | .statefulSet => ["-sentinel"]
  | .service => ["-sentinel", "-sentinel-headless"]
  | .configMap => []
  | .podDisruptionBudget => ["-sentinel"]

theorem name_of_mem_generated {x : Object} (h : x ∈ generated cr i) : ∃ s, x.name = cr.name ++ s ∧
      (s ∈ suffixes x.kind ∨ cr.spec.mode = .sentinel ∧ s ∈ sentinelSuffixes x.kind) := by
  rcases mem_generated.1 h with (rfl | rfl | rfl | rfl | rfl | rfl) | ⟨hmode, rfl | rfl | rfl | rfl⟩
  · exact ⟨"", String.append_empty.symm, .inl (.head _)⟩
  · exact ⟨"-config", rfl, .inl (.head _)⟩
  · exact ⟨"-redis", rfl, .inl (.head _)⟩
  · exact ⟨"-headless", rfl, .inl (.head _)⟩
  · exact ⟨"-master", rfl, .inl (.tail _ (.head _))⟩
  · exact ⟨"-replicas", rfl, .inl (.tail _ (.tail _ (.head _)))⟩
  · exact ⟨"-sentinel", rfl, .inr ⟨hmode, .head _⟩⟩
  · exact ⟨"-sentinel", rfl, .inr ⟨hmode, .head _⟩⟩
  · exact ⟨"-sentinel", rfl, .inr ⟨hmode, .head _⟩⟩
  · exact ⟨"-sentinel-headless", rfl, .inr ⟨hmode, .tail _ (.head _)⟩⟩

/-- Among the ends of a kind, only one of Sentinel mode ends like another. -/
theorem suffix_cases (kind : ObjectKind) :
    ∀ s ∈ suffixes kind ++ sentinelSuffixes kind, ∀ t ∈ suffixes kind ++ sentinelSuffixes kind,
      t.toList <:+ s.toList → s = t ∨ s = "-sentinel" ++ t ∧ s ∉ suffixes kind := by
  cases kind <;> decide

theorem eq_of_longer {kind : ObjectKind} {s t u : String}
    (hs : s ∈ suffixes kind ++ sentinelSuffixes kind)
    (ht : t ∈ suffixes kind ++ sentinelSuffixes kind) (h : s = u ++ t) :
    u = "" ∨ u = "-sentinel" ∧ s ∉ suffixes kind := by
  have hsuffix : t.toList <:+ s.toList := ⟨u.toList, by rw [h, String.toList_append]⟩
  rcases suffix_cases kind s hs t ht hsuffix with heq | ⟨heq, hmem⟩
  · left
    have hempty : u ++ t = "" ++ t := by rw [← h, heq, String.empty_append]
    exact (String.append_left_inj t).1 hempty
  · right
    exact ⟨(String.append_left_inj t).1 (h.symm.trans heq), hmem⟩

theorem name_cases {i j : Inputs} {x y : Object} (hname : a.name ≠ b.name) (hx : x ∈ generated a i)
    (hy : y ∈ generated b j) (hkind : x.kind = y.kind) (heq : x.name = y.name) :
    (a.spec.mode = .sentinel ∧ b.name = a.name ++ "-sentinel") ∨
      (b.spec.mode = .sentinel ∧ a.name = b.name ++ "-sentinel") := by
  obtain ⟨s, hs, hsmem⟩ := name_of_mem_generated hx
  obtain ⟨t, ht, htmem⟩ := name_of_mem_generated hy
  rw [← hkind] at htmem
  have hall {cr : KeyValCluster} {u : String} (h : u ∈ suffixes x.kind ∨
      cr.spec.mode = .sentinel ∧ u ∈ sentinelSuffixes x.kind) :
      u ∈ suffixes x.kind ++ sentinelSuffixes x.kind :=
    mem_append.2 (h.imp_right And.right)
  have hmode {cr : KeyValCluster} {u : String} (h : u ∈ suffixes x.kind ∨
      cr.spec.mode = .sentinel ∧ u ∈ sentinelSuffixes x.kind) (hnot : u ∉ suffixes x.kind) :
      cr.spec.mode = .sentinel := (h.resolve_left hnot).1
  rcases append_cases (hs.symm.trans (heq.trans ht)) with ⟨u, hb, hlonger⟩ | ⟨u, ha, hlonger⟩
  · rcases eq_of_longer (hall hsmem) (hall htmem) hlonger with rfl | ⟨rfl, hnot⟩
    · exact absurd (hb.trans String.append_empty).symm hname
    · exact .inl ⟨hmode hsmem hnot, hb⟩
  · rcases eq_of_longer (hall htmem) (hall hsmem) hlonger with rfl | ⟨rfl, hnot⟩
    · exact absurd (ha.trans String.append_empty) hname
    · exact .inr ⟨hmode htmem hnot, ha⟩

theorem objects_iff (i j : Inputs) (hname : a.name ≠ b.name) :
    (∀ x ∈ generated a i, ∀ y ∈ generated b j, x.kind = y.kind → x.name ≠ y.name) ↔
      (a.spec.mode = .sentinel → b.name ≠ a.name ++ "-sentinel") ∧
      (b.spec.mode = .sentinel → a.name ≠ b.name ++ "-sentinel") := by
  constructor
  · intro h
    refine ⟨fun hmode heq => ?_, fun hmode heq => ?_⟩
    · -- the Sentinel StatefulSet of `a` is the Redis StatefulSet of `b`
      exact h _ (mem_generated.2 (.inr ⟨hmode, .inl rfl⟩)) _ (mem_generated.2 (.inl (.inl rfl))) rfl
        heq.symm
    · exact h _ (mem_generated.2 (.inl (.inl rfl))) _ (mem_generated.2 (.inr ⟨hmode, .inl rfl⟩)) rfl
        heq
  · intro ⟨ha, hb⟩ x hx y hy hkind heq
    rcases name_cases hname hx hy hkind heq with ⟨hmode, hshared⟩ | ⟨hmode, hshared⟩
    · exact ha hmode hshared
    · exact hb hmode hshared

/-! ## Selectors -/

/-- The app labels that are selected. -/
def selectedApps (cr : KeyValCluster) : List String :=
  appLabel cr :: if cr.spec.mode = .sentinel then [sentinelAppLabel cr] else []

/-- The app label of the Sentinel pods. -/
def sentinelPodApp (cr : KeyValCluster) : Option String :=
  (cr.spec.sentinelPod.getD {}).labels.lookup labelAppKey

/-- The app labels of the pods. -/
def podApps (cr : KeyValCluster) : List String :=
  appLabel cr :: if cr.spec.mode = .sentinel then [(sentinelPodApp cr).getD (sentinelAppLabel cr)]
    else []

theorem mem_selectedApps {app : String} : app ∈ selectedApps cr ↔
    app = appLabel cr ∨ cr.spec.mode = .sentinel ∧ app = sentinelAppLabel cr := by
  unfold selectedApps
  split
  · next hmode => simp [hmode]
  · next hmode => simp [hmode]

theorem mem_podApps {app : String} : app ∈ podApps cr ↔
    app = appLabel cr ∨
      cr.spec.mode = .sentinel ∧ app = (sentinelPodApp cr).getD (sentinelAppLabel cr) := by
  unfold podApps
  split
  · next hmode => simp [hmode]
  · next hmode => simp [hmode]

theorem lookup_app (app name : String) :
    ((Finmap.singleton labelAppKey app : Map String).insert labelClusterKey name).lookup
      labelAppKey = some app := by
  rw [Finmap.lookup_insert_of_ne _ (by decide), Finmap.lookup_singleton_eq]

theorem appSelector_labelsFor (cr : KeyValCluster) :
    appSelector (labelsFor cr) = Finmap.singleton labelAppKey (appLabel cr) := by
  rw [appSelector, labelsFor, Map.str_of_lookup (lookup_app (appLabel cr) cr.name)]

theorem appSelector_sentinelLabelsFor (cr : KeyValCluster) :
    appSelector (sentinelLabelsFor cr) = Finmap.singleton labelAppKey (sentinelAppLabel cr) := by
  rw [appSelector, sentinelLabelsFor, Map.str_of_lookup (lookup_app (sentinelAppLabel cr) cr.name)]

theorem selector_app {x : Object} {selector : Map String}
    (hx : x ∈ generated cr i) (h : x.selector = some selector) :
    ∃ app ∈ selectedApps cr, selector.lookup labelAppKey = some app := by
  have hredis : appLabel cr ∈ selectedApps cr := mem_selectedApps.2 (.inl rfl)
  have hrole (role : String) :
      ((appSelector (labelsFor cr)).insert roleLabelKey role).lookup labelAppKey =
        some (appLabel cr) := by
    rw [Finmap.lookup_insert_of_ne _ (by decide), appSelector_labelsFor]
    exact Finmap.lookup_singleton_eq
  have happ (app : String) : (Finmap.singleton labelAppKey app : Map String).lookup labelAppKey =
      some app := Finmap.lookup_singleton_eq
  rcases mem_generated.1 hx with (rfl | rfl | rfl | rfl | rfl | rfl) |
      ⟨hmode, rfl | rfl | rfl | rfl⟩
  · obtain rfl := Option.some.inj h
    exact ⟨_, hredis, lookup_app _ _⟩
  · cases h
  · obtain rfl := Option.some.inj h
    exact ⟨_, hredis, lookup_app _ _⟩
  · obtain rfl := Option.some.inj h
    exact ⟨_, hredis, (congrArg _ (appSelector_labelsFor cr)).trans (happ _)⟩
  · obtain rfl := Option.some.inj h
    exact ⟨_, hredis, hrole _⟩
  · obtain rfl := Option.some.inj h
    exact ⟨_, hredis, hrole _⟩
  all_goals
    have hsentinel : sentinelAppLabel cr ∈ selectedApps cr := mem_selectedApps.2 (.inr ⟨hmode, rfl⟩)
    obtain rfl := Option.some.inj h
  · exact ⟨_, hsentinel, lookup_app _ _⟩
  · exact ⟨_, hsentinel, lookup_app _ _⟩
  · exact ⟨_, hsentinel, (congrArg _ (appSelector_sentinelLabelsFor cr)).trans (happ _)⟩
  · exact ⟨_, hsentinel, (congrArg _ (appSelector_sentinelLabelsFor cr)).trans (happ _)⟩

theorem exists_selector (i : Inputs) {app : String}
    (h : app ∈ selectedApps cr) : ∃ x ∈ generated cr i,
      x.selector = some (Finmap.singleton labelAppKey app) := by
  rcases mem_selectedApps.1 h with rfl | ⟨hmode, rfl⟩
  · refine ⟨.ofService (headlessService cr), ?_, congrArg some (appSelector_labelsFor cr)⟩
    exact mem_generated.2 (.inl (.inr (.inr (.inr (.inl rfl)))))
  · refine ⟨.ofService (sentinelHeadlessService cr), ?_,
      congrArg some (appSelector_sentinelLabelsFor cr)⟩
    exact mem_generated.2 (.inr ⟨hmode, .inr (.inr (.inr rfl))⟩)

section
variable (cr : KeyValCluster) (i : Inputs)

theorem lookup_redisLabels (key : String) :
    (statefulSet cr i.configHash i.tlsHash i.sec).template.labels.lookup key =
      ((labelsFor cr).lookup key).or (cr.spec.podLabels.lookup key) := by
  rw [statefulSet, applyTopologySettings_labels]
  exact Map.lookup_union _ _ _

theorem lookup_sentinelLabels (key : String) :
    (sentinelStatefulSet cr i.configHash i.tlsHash i.sec).template.labels.lookup key =
      ((cr.spec.sentinelPod.getD {}).labels.lookup key).or
        (((sentinelLabelsFor cr).insert roleLabelKey PodRole.sentinel.str).lookup key) := by
  simp only [sentinelStatefulSet, applyTopologySettings_labels]
  exact Map.lookup_union _ _ _

end

theorem lookup_podLabels (i : Inputs) (app : String) :
    (∃ labels ∈ generatedPodLabels cr i, labels.lookup labelAppKey = some app) ↔
      app ∈ podApps cr := by
  have hredis : (statefulSet cr i.configHash i.tlsHash i.sec).template.labels.lookup labelAppKey =
      some (appLabel cr) := by
    rw [lookup_redisLabels, labelsFor, lookup_app, Option.some_or]
  have hsentinel : (sentinelStatefulSet cr i.configHash i.tlsHash i.sec).template.labels.lookup
      labelAppKey = some ((sentinelPodApp cr).getD (sentinelAppLabel cr)) := by
    rw [lookup_sentinelLabels, Finmap.lookup_insert_of_ne _ (by decide), sentinelLabelsFor,
      lookup_app, sentinelPodApp]
    cases (cr.spec.sentinelPod.getD {}).labels.lookup labelAppKey <;> rfl
  simp only [mem_generatedPodLabels, mem_podApps]
  constructor
  · rintro ⟨labels, rfl | ⟨hmode, rfl⟩, hlookup⟩
    · exact .inl (Option.some.inj (hlookup.symm.trans hredis))
    · exact .inr ⟨hmode, Option.some.inj (hlookup.symm.trans hsentinel)⟩
  · rintro (rfl | ⟨hmode, rfl⟩)
    · exact ⟨_, .inl rfl, hredis⟩
    · exact ⟨_, .inr ⟨hmode, rfl⟩, hsentinel⟩

theorem spares_iff (a b : KeyValCluster) (i j : Inputs) :
    Spares a b i j ↔ ∀ app ∈ selectedApps a, app ∉ podApps b := by
  constructor
  · intro h app hselected hpod
    obtain ⟨x, hx, hselector⟩ := exists_selector i hselected
    obtain ⟨labels, hlabels, hlookup⟩ := (lookup_podLabels j app).2 hpod
    refine h x hx _ hselector labels hlabels fun key value hkey => ?_
    obtain rfl : key = labelAppKey :=
      Finmap.mem_singleton _ _ _ |>.1 (Finmap.mem_of_lookup_eq_some hkey)
    rw [hlookup, ← hkey, Finmap.lookup_singleton_eq]
  · intro h x hx selector hselector labels hlabels hselects
    obtain ⟨app, hselected, hlookup⟩ := selector_app hx hselector
    have hpod := (lookup_podLabels j app).1 ⟨labels, hlabels, hselects _ _ hlookup⟩
    exact h app hselected hpod

/-- The labels that the spec of `b` sets for its Sentinel pods are none that `a` asks for. -/
def LabelsSpare (a b : KeyValCluster) : Prop :=
  b.spec.mode = .sentinel → ∀ app, sentinelPodApp b = some app →
    app ≠ a.name ++ "-redis" ∧ (a.spec.mode = .sentinel → app ≠ a.name ++ "-sentinel")

theorem redis_ne_sentinel (x y : String) : x ++ "-redis" ≠ y ++ "-sentinel" := by
  intro h
  have hsuffix {s t u : String} (heq : s = u ++ t) : t.toList <:+ s.toList :=
    ⟨u.toList, by rw [heq, String.toList_append]⟩
  rcases append_cases h with ⟨u, -, hu⟩ | ⟨u, -, hu⟩
  · exact absurd (hsuffix hu) (by decide)
  · exact absurd (hsuffix hu) (by decide)

theorem apps_iff (hname : a.name ≠ b.name) :
    (∀ app ∈ selectedApps a, app ∉ podApps b) ↔ LabelsSpare a b := by
  have hredis : appLabel a ≠ appLabel b := fun h => hname ((String.append_left_inj _).1 h)
  have hsentinel : sentinelAppLabel a ≠ sentinelAppLabel b :=
    fun h => hname ((String.append_left_inj _).1 h)
  simp only [mem_selectedApps, mem_podApps]
  constructor
  · intro h hb app happ
    refine ⟨fun heq => ?_, fun ha heq => ?_⟩
    · exact h _ (.inl rfl) (.inr ⟨hb, by rw [happ, heq]; rfl⟩)
    · exact h _ (.inr ⟨ha, rfl⟩) (.inr ⟨hb, by rw [happ, heq]; rfl⟩)
  · rintro h app (rfl | ⟨ha, rfl⟩) (heq | ⟨hb, heq⟩)
    · exact hredis heq
    · cases happ : sentinelPodApp b with
      | none =>
        rw [happ] at heq
        exact redis_ne_sentinel _ _ heq
      | some app =>
        rw [happ] at heq
        exact (h hb app happ).1 heq.symm
    · exact redis_ne_sentinel _ _ heq.symm
    · cases happ : sentinelPodApp b with
      | none =>
        rw [happ] at heq
        exact hsentinel heq
      | some app =>
        rw [happ] at heq
        exact (h hb app happ).2 ha heq.symm

/-! ## Two clusters -/

/-- Two clusters share no object and select no pods of each other exactly when neither, in Sentinel
mode, has the other's name with `-sentinel` as the name of its Sentinel objects, and the labels that
their specs set for Sentinel pods are not those of the other. -/
theorem separate_iff {a b : KeyValCluster} (i j : Inputs) (hname : a.name ≠ b.name) :
    Separate a b i j ↔ (a.spec.mode = .sentinel → b.name ≠ a.name ++ "-sentinel") ∧
      (b.spec.mode = .sentinel → a.name ≠ b.name ++ "-sentinel") ∧
      LabelsSpare a b ∧ LabelsSpare b a := by
  rw [← and_assoc, ← objects_iff i j hname, ← apps_iff hname, ← apps_iff hname.symm,
    ← spares_iff a b i j, ← spares_iff b a j i]
  constructor
  · intro h
    exact ⟨h.objects, h.selects, h.selected⟩
  · intro ⟨hobjects, hselects, hselected⟩
    exact ⟨hobjects, hselects, hselected⟩

/-- Two Sentinel clusters with unrelated names. -/
theorem separate_unrelated : Separate (clusterNamed "a") (clusterNamed "b") {} {} := by
  have hlabels (name name' : String) : LabelsSpare (clusterNamed name) (clusterNamed name') := by
    intro _ app happ
    cases happ
  exact (separate_iff {} {} (by decide)).2
    ⟨by decide, by decide, hlabels "a" "b", hlabels "b" "a"⟩

/-- A cluster named as the Sentinels of a. -/
def shadowA : KeyValCluster where
  name := "a-sentinel"
  ns := "prod"
  spec := { mode := .standalone, redisReplicas := 1 }

/-- Both clusters generate the StatefulSet `a-sentinel`. -/
theorem shadow_shares : (clusterNamed "a").name ≠ shadowA.name ∧
    (clusterNamed "a").ns = shadowA.ns ∧
    ¬ Separate (clusterNamed "a") shadowA {} {} := by
  refine ⟨by decide, rfl, fun h => ?_⟩
  exact ((objects_iff {} {} (by decide)).1 h.objects).1 rfl rfl

/-! ## The pods of a cluster -/

section
variable (cr : KeyValCluster) (i : Inputs)

/-- A pod template keeps the labels that the operator selects by: its own StatefulSet selects it, it
has the operator's values of `app` and `keyvalcluster`, and the master Service does not select it.
-/
structure KeepsLabels (ss : StatefulSet) (app : String) : Prop where
  selected : Selects ss.matchLabels ss.template.labels
  app : ss.template.labels.lookup labelAppKey = some app
  cluster : ss.template.labels.lookup labelClusterKey = some cr.name
  unserved : ¬ Selects (masterService cr).selector ss.template.labels

/-- The StatefulSets keep their labels. -/
structure KeepsSelection : Prop where
  redis : KeepsLabels cr (statefulSet cr i.configHash i.tlsHash i.sec) (appLabel cr)
  sentinel : KeepsLabels cr (sentinelStatefulSet cr i.configHash i.tlsHash i.sec)
    (sentinelAppLabel cr)

variable {cr i}

theorem lookup_cluster (app name : String) :
    ((Finmap.singleton labelAppKey app : Map String).insert labelClusterKey name).lookup
      labelClusterKey = some name :=
  Finmap.lookup_insert _

theorem selects_pair {k k' v v' : String} (hne : k ≠ k') :
    Selects ((Finmap.singleton k v).insert k' v') labels ↔
      labels.lookup k = some v ∧ labels.lookup k' = some v' := by
  constructor
  · intro h
    refine ⟨h _ _ ?_, h _ _ (Finmap.lookup_insert _)⟩
    rw [Finmap.lookup_insert_of_ne _ hne, Finmap.lookup_singleton_eq]
  · rintro ⟨hfirst, hsecond⟩ key value hkey
    by_cases hkey' : key = k'
    · subst hkey'
      rw [Finmap.lookup_insert] at hkey
      rw [hsecond, hkey]
    · rw [Finmap.lookup_insert_of_ne _ hkey'] at hkey
      obtain rfl : key = k := Finmap.mem_singleton _ _ _ |>.1 (Finmap.mem_of_lookup_eq_some hkey)
      rw [Finmap.lookup_singleton_eq] at hkey
      rw [hfirst, hkey]

theorem selects_labels {app name : String} :
    Selects ((Finmap.singleton labelAppKey app).insert labelClusterKey name) labels ↔
      labels.lookup labelAppKey = some app ∧ labels.lookup labelClusterKey = some name :=
  selects_pair (by decide)

theorem selects_master :
    Selects (masterService cr).selector labels ↔
      labels.lookup labelAppKey = some (appLabel cr) ∧
        labels.lookup roleLabelKey = some PodRole.master.str := by
  show Selects ((appSelector (labelsFor cr)).insert roleLabelKey _) labels ↔ _
  rw [appSelector_labelsFor]
  exact selects_pair (by decide)

/-- The labels of the operator win in a Redis pod, but the role is not one of them. -/
theorem redis_keepsLabels_iff :
    KeepsLabels cr (statefulSet cr i.configHash i.tlsHash i.sec) (appLabel cr) ↔
      cr.spec.podLabels.lookup roleLabelKey ≠ some PodRole.master.str := by
  have happ := lookup_redisLabels cr i labelAppKey
  have hcluster := lookup_redisLabels cr i labelClusterKey
  have hrole := lookup_redisLabels cr i roleLabelKey
  rw [labelsFor, lookup_app, Option.some_or] at happ
  rw [labelsFor, lookup_cluster, Option.some_or] at hcluster
  have hunset : (labelsFor cr).lookup roleLabelKey = none := by
    rw [labelsFor, Finmap.lookup_insert_of_ne _ (by decide)]
    exact Finmap.lookup_eq_none.2 fun hmem =>
      absurd (Finmap.mem_singleton _ _ _ |>.1 hmem) (by decide)
  rw [hunset, Option.none_or] at hrole
  constructor
  · intro h hmaster
    exact h.unserved (selects_master.2 ⟨happ, hrole.trans hmaster⟩)
  · intro h
    refine ⟨selects_labels.2 ⟨happ, hcluster⟩, happ, hcluster, fun hserved => ?_⟩
    exact h (hrole.symm.trans (selects_master.1 hserved).2)

/-- A label of the spec wins in a Sentinel pod. With its own application label it is not selected by
the master Service, whatever its role. -/
theorem sentinel_keepsLabels_iff :
    KeepsLabels cr (sentinelStatefulSet cr i.configHash i.tlsHash i.sec) (sentinelAppLabel cr) ↔
      (∀ app, (cr.spec.sentinelPod.getD {}).labels.lookup labelAppKey = some app →
        app = sentinelAppLabel cr) ∧
      ∀ name, (cr.spec.sentinelPod.getD {}).labels.lookup labelClusterKey = some name →
        name = cr.name := by
  have happ := lookup_sentinelLabels cr i labelAppKey
  have hcluster := lookup_sentinelLabels cr i labelClusterKey
  rw [Finmap.lookup_insert_of_ne _ (by decide), sentinelLabelsFor, lookup_app] at happ
  rw [Finmap.lookup_insert_of_ne _ (by decide), sentinelLabelsFor, lookup_cluster] at hcluster
  constructor
  · intro h
    refine ⟨fun app hset => ?_, fun name hset => ?_⟩
    · rw [hset, Option.some_or, h.app] at happ
      exact (Option.some.inj happ).symm
    · rw [hset, Option.some_or, h.cluster] at hcluster
      exact (Option.some.inj hcluster).symm
  · rintro ⟨hown, hname⟩
    have happ' : (sentinelStatefulSet cr i.configHash i.tlsHash i.sec).template.labels.lookup
        labelAppKey = some (sentinelAppLabel cr) := by
      rw [happ]
      cases hset : (cr.spec.sentinelPod.getD {}).labels.lookup labelAppKey with
      | none => rfl
      | some app => rw [Option.some_or, hown app hset]
    have hcluster' : (sentinelStatefulSet cr i.configHash i.tlsHash i.sec).template.labels.lookup
        labelClusterKey = some cr.name := by
      rw [hcluster]
      cases hset : (cr.spec.sentinelPod.getD {}).labels.lookup labelClusterKey with
      | none => rfl
      | some name => rw [Option.some_or, hname name hset]
    refine ⟨selects_labels.2 ⟨happ', hcluster'⟩, happ', hcluster', fun hserved => ?_⟩
    have hredis := (selects_master.1 hserved).1
    rw [happ'] at hredis
    exact redis_ne_sentinel cr.name cr.name (Option.some.inj hredis).symm

variable (cr i)

/-- The labels of the user leave the selection intact exactly when those of the Redis pods do not
set the role of a master, and those of the Sentinel pods set neither `app` nor `keyvalcluster` to
another value. -/
theorem keepsSelection_iff :
    KeepsSelection cr i ↔ cr.spec.podLabels.lookup roleLabelKey ≠ some PodRole.master.str ∧
      (∀ app, (cr.spec.sentinelPod.getD {}).labels.lookup labelAppKey = some app →
        app = sentinelAppLabel cr) ∧
      ∀ name, (cr.spec.sentinelPod.getD {}).labels.lookup labelClusterKey = some name →
        name = cr.name := by
  rw [← redis_keepsLabels_iff (i := i), ← sentinel_keepsLabels_iff (i := i)]
  exact ⟨fun h => ⟨h.redis, h.sentinel⟩, fun h => ⟨h.1, h.2⟩⟩

end

/-- The cluster a with these pod labels. -/
def labelledA (redis sentinel : Map String) : KeyValCluster :=
  { clusterNamed "a" with
    spec := { (clusterNamed "a").spec with
      podLabels := redis
      sentinelPod := some { labels := sentinel } } }

/-- A Redis pod that is born with the role of a master is served as the master, and a Sentinel pod
with another application label is not selected by its own StatefulSet. -/
theorem user_labels_break_selection :
    ¬ KeepsSelection (labelledA (Finmap.singleton "role" "master") ∅) {} ∧
      ¬ KeepsSelection (labelledA ∅ (Finmap.singleton "app" "mine")) {} := by
  refine ⟨fun h => ?_, fun h => ?_⟩
  · exact redis_keepsLabels_iff.1 h.redis (by decide)
  · exact absurd ((sentinel_keepsLabels_iff.1 h.sentinel).1 "mine" (by decide)) (by decide)

end Keyval.Resources
