import KeyvalOperator.Lib.MergePatch
import KeyvalOperator.Phases.PodMetadata

/-!
# The metadata of existing pods

`syncKeys` looks at each managed key by itself, so that its result does not depend on their order
(`lookup_syncKeys`), and reports a change exactly when some key differs (`syncKeys_changed`). A pod
is patched only when it differs from the template (`syncPod_run`, `syncPods_run`).

* `updatedPod_exact`: a patch sets the managed keys as in the template and nothing else.
* `syncPodMetadata_exact`: **a patched pod has the metadata of the template, and is not patched
  again**.
* `podMetadata_refines`: the phase refines the request that stands for it in the controller.
-/

namespace Keyval.Phases

open Go Interact Interact.Prog MergePatch List

variable {s : Map String × Bool} {template : PodTemplateMetadata} {st : State}
  {pods pods' : List Pod} {err : Option Error}

/-! ## Keys -/

section
variable {desired current : Map String} {keys : List String}

theorem syncKey_lookup (s : Map String × Bool) (k key : String) :
    (syncKey desired s k).1.lookup key =
      if key = k then desired.lookup key else s.1.lookup key := by
  unfold syncKey
  by_cases hkey : key = k
  · subst hkey
    rw [if_pos rfl]
    split
    · next value hvalue =>
      split
      · next hsame => rw [hsame, hvalue]
      · rw [Finmap.lookup_insert, hvalue]
    · next hnone =>
      split
      · rw [Finmap.lookup_erase, hnone]
      · next habsent => rw [Option.not_isSome_iff_eq_none.1 habsent, hnone]
  · rw [if_neg hkey]
    split
    · split
      · rfl
      · exact Finmap.lookup_insert_of_ne _ hkey
    · split
      · exact Finmap.lookup_erase_ne hkey
      · rfl

theorem foldl_syncKey_lookup (keys : List String) (s : Map String × Bool) (key : String) :
    (keys.foldl (syncKey desired) s).1.lookup key =
      if key ∈ keys then desired.lookup key else s.1.lookup key := by
  induction keys generalizing s with
  | nil => simp
  | cons k keys ih =>
    rw [foldl_cons, ih, syncKey_lookup]
    by_cases hkeys : key ∈ keys
    · simp [hkeys]
    · by_cases hkey : key = k <;> simp [hkeys, hkey]

/-- Every managed key has the desired value, or is gone; the others are as they were. -/
theorem lookup_syncKeys (desired : Map String) (keys : List String) (current : Map String)
    (key : String) : (syncKeys desired keys current).1.lookup key =
      if key ∈ keys then desired.lookup key else current.lookup key :=
  foldl_syncKey_lookup keys _ key

theorem syncKey_same {k : String} (h : s.1.lookup k = desired.lookup k) :
    syncKey desired s k = s := by
  unfold syncKey
  cases hvalue : desired.lookup k with
  | some value => exact if_pos (h.trans hvalue)
  | none => exact if_neg (by rw [h, hvalue]; exact Bool.false_ne_true)

theorem syncKey_changed {k : String} (h : s.1.lookup k ≠ desired.lookup k) :
    (syncKey desired s k).2 = true := by
  unfold syncKey
  cases hvalue : desired.lookup k with
  | some value =>
    rw [hvalue] at h
    dsimp only
    rw [if_neg h]
  | none =>
    rw [hvalue] at h
    rw [if_pos (Option.isSome_iff_ne_none.2 h)]

theorem syncKey_stays (h : s.2 = true) (k : String) : (syncKey desired s k).2 = true := by
  by_cases hsame : s.1.lookup k = desired.lookup k
  · rw [syncKey_same hsame, h]
  · exact syncKey_changed hsame

theorem foldl_syncKey_stays (keys : List String) (h : s.2 = true) :
    (keys.foldl (syncKey desired) s).2 = true := by
  induction keys generalizing s with
  | nil => exact h
  | cons k keys ih => exact ih (syncKey_stays h k)

theorem syncKeys_changed :
    (syncKeys desired keys current).2 = false ↔
      ∀ key ∈ keys, current.lookup key = desired.lookup key := by
  unfold syncKeys
  induction keys generalizing current with
  | nil => simp
  | cons k keys ih =>
    rw [foldl_cons, forall_mem_cons]
    by_cases hsame : current.lookup k = desired.lookup k
    · rw [syncKey_same (s := (current, false)) hsame, ih]
      simp [hsame]
    · have hfirst : (syncKey desired (current, false) k).2 = true := syncKey_changed hsame
      have hchanged : (keys.foldl (syncKey desired) (syncKey desired (current, false) k)).2 =
          true := foldl_syncKey_stays keys hfirst
      simp [hchanged, hsame]

end

/-! ## Pods -/

section
variable (template : PodTemplateMetadata)

theorem mem_managedLabels {key : String} : key ∈ managedLabels template ↔
    (key ∈ template.previousLabels ∨ key ∈ template.desiredLabels) ∧ key ≠ roleLabelKey := by
  simp [managedLabels, managedKeys, Map.mem_sortedKeys]

theorem mem_managedAnnotations {key : String} : key ∈ managedAnnotations template ↔
    (key ∈ template.previousAnnotations ∨ key ∈ template.desiredAnnotations) ∧
      key ≠ Resources.configHashAnnotationKey ∧ key ≠ tlsSecretHashAnnotationKey := by
  simp [managedAnnotations, managedKeys, Map.mem_sortedKeys]

/-- `after` has the metadata of the template where it is managed, and that of `before` elsewhere. -/
structure Exact (before after : Pod) : Prop where
  labels : ∀ key, key ∈ template.previousLabels ∨ key ∈ template.desiredLabels →
    key ≠ roleLabelKey → after.labels.lookup key = template.desiredLabels.lookup key
  otherLabels : ∀ key, key ∉ template.previousLabels ∧ key ∉ template.desiredLabels ∨
    key = roleLabelKey → after.labels.lookup key = before.labels.lookup key
  annotations : ∀ key, key ∈ template.previousAnnotations ∨ key ∈ template.desiredAnnotations →
    key ≠ Resources.configHashAnnotationKey → key ≠ tlsSecretHashAnnotationKey →
    after.annotations.lookup key = template.desiredAnnotations.lookup key
  otherAnnotations : ∀ key,
    key ∉ template.previousAnnotations ∧ key ∉ template.desiredAnnotations ∨
      key = Resources.configHashAnnotationKey ∨ key = tlsSecretHashAnnotationKey →
    after.annotations.lookup key = before.annotations.lookup key

theorem updatedPod_exact (cur : Pod) : Exact template cur (updatedPod template cur).1 := by
  have hlabels := lookup_syncKeys template.desiredLabels (managedLabels template) cur.labels
  have hannotations :=
    lookup_syncKeys template.desiredAnnotations (managedAnnotations template) cur.annotations
  refine ⟨?_, ?_, ?_, ?_⟩
  · intro key hmanaged hrole
    exact (hlabels key).trans (if_pos ((mem_managedLabels template).2 ⟨hmanaged, hrole⟩))
  · intro key hother
    refine (hlabels key).trans (if_neg fun hmem => ?_)
    have := (mem_managedLabels template).1 hmem
    tauto
  · intro key hmanaged hconfig htls
    exact (hannotations key).trans
      (if_pos ((mem_managedAnnotations template).2 ⟨hmanaged, hconfig, htls⟩))
  · intro key hother
    refine (hannotations key).trans (if_neg fun hmem => ?_)
    have := (mem_managedAnnotations template).1 hmem
    tauto

/-- The pod needs no patch. -/
def InSync (p : Pod) : Prop := (updatedPod template p).2 = false

theorem inSync_iff {p : Pod} : InSync template p ↔
    (∀ key ∈ managedLabels template, p.labels.lookup key = template.desiredLabels.lookup key) ∧
    ∀ key ∈ managedAnnotations template,
      p.annotations.lookup key = template.desiredAnnotations.lookup key := by
  rw [InSync, updatedPod, Bool.or_eq_false_iff, syncKeys_changed, syncKeys_changed]

variable {template}

theorem Exact.inSync {before after : Pod} (h : Exact template before after) :
    InSync template after := by
  refine (inSync_iff template).2 ⟨fun key hkey => ?_, fun key hkey => ?_⟩
  · obtain ⟨hmanaged, hrole⟩ := (mem_managedLabels template).1 hkey
    exact h.labels key hmanaged hrole
  · obtain ⟨hmanaged, hconfig, htls⟩ := (mem_managedAnnotations template).1 hkey
    exact h.annotations key hmanaged hconfig htls

end

/-! ## The API server -/

/-- The pod's namespace and name. -/
def podKey (p : Pod) : String × String := (p.ns, p.name)

/-- What the API server answers: a patch that succeeds was applied to the version that it was made
from, and the reply is the pod after it; a read returns the pod that was asked for. -/
def ServesPatch : Event Op → Prop
  | ⟨.patchPod base desired, .ok pod⟩ =>
    podKey pod = podKey base ∧
    pod.labels = mergeMembers .scalar base.labels (members .scalar base.labels desired.labels) ∧
    pod.annotations =
      mergeMembers .scalar base.annotations (members .scalar base.annotations desired.annotations)
  | ⟨.getPod ns name, .ok pod⟩ => podKey pod = (ns, name)
  | _ => True

theorem Exact.congr {before after after' : Pod}
    (h : Exact template before after) (hlabels : after'.labels = after.labels)
    (hannotations : after'.annotations = after.annotations) : Exact template before after' := by
  obtain ⟨h1, h2, h3, h4⟩ := h
  exact ⟨hlabels ▸ h1, hlabels ▸ h2, hannotations ▸ h3, hannotations ▸ h4⟩

theorem ServesPatch.exact {cur pod : Pod}
    (h : ServesPatch ⟨.patchPod cur (updatedPod template cur).1, .ok pod⟩) :
    Exact template cur pod := by
  obtain ⟨-, hlabels, hannotations⟩ := h
  rw [merge_members_scalars] at hlabels hannotations
  exact (updatedPod_exact template cur).congr hlabels hannotations

/-! ## Runs -/

section
variable {st' : State} {t : Trace}

/-- The runs of one attempt for a pod. -/
inductive PodRun (template : PodTemplateMetadata) (cur : Pod) : Trace → Pod → Prop
  | kept : InSync template cur → PodRun template cur [] cur
  | patched {pod : Pod} : ¬ InSync template cur →
      PodRun template cur [⟨.patchPod cur (updatedPod template cur).1, .ok pod⟩] pod
  | refused {e : Error} : ¬ InSync template cur →
      PodRun template cur [⟨.patchPod cur (updatedPod template cur).1, .error e⟩] cur
  | conflict {e : Error} {r : Result Pod} : ¬ InSync template cur →
      PodRun template cur [⟨.patchPod cur (updatedPod template cur).1, .error e⟩,
        ⟨.getPod cur.ns cur.name, r⟩] (r.toOption.getD cur)

theorem syncPod_run {cur pod : Pod} (h : (syncPod template st cur).Runs t (st', pod, err)) :
    PodRun template cur t pod := by
  unfold syncPod at h
  dsimp only at h
  split at h
  · next hsame =>
    obtain ⟨rfl, heq⟩ := runs_ret.1 h
    cases heq
    exact .kept (Bool.eq_false_iff.2 hsame)
  · next hchanged =>
    have hdiffers : ¬ InSync template cur := fun hsync => hchanged (by rw [hsync]; decide)
    obtain ⟨r, t1, rfl, h1⟩ := runs_asked.1 h
    cases r with
    | ok pod' =>
      obtain ⟨rfl, heq⟩ := runs_ret.1 h1
      cases heq
      exact .patched hdiffers
    | error e =>
      dsimp only at h1
      split at h1
      · obtain ⟨rfl, heq⟩ := runs_ret.1 h1
        cases heq
        exact .refused hdiffers
      split at h1
      · obtain ⟨r, t2, rfl, h2⟩ := runs_asked.1 h1
        cases r with
        | ok refreshed =>
          obtain ⟨rfl, heq⟩ := runs_ret.1 h2
          cases heq
          exact .conflict hdiffers
        | error e =>
          obtain ⟨rfl, heq⟩ := runs_ret.1 h2
          cases heq
          exact .conflict hdiffers
      · obtain ⟨rfl, heq⟩ := runs_ret.1 h1
        cases heq
        exact .refused hdiffers

namespace PodRun
variable {cur pod : Pod}

theorem patches {base desired : Pod} {r : Result Pod} (h : PodRun template cur t pod)
    (hmem : ⟨.patchPod base desired, r⟩ ∈ t) :
    base = cur ∧ desired = (updatedPod template cur).1 ∧ ¬ InSync template cur := by
  cases h with
  | kept => cases hmem
  | patched hdiffers =>
    cases mem_singleton.1 hmem
    exact ⟨rfl, rfl, hdiffers⟩
  | refused hdiffers =>
    cases mem_singleton.1 hmem
    exact ⟨rfl, rfl, hdiffers⟩
  | conflict hdiffers =>
    rcases mem_cons.1 hmem with heq | hmem
    · cases heq
      exact ⟨rfl, rfl, hdiffers⟩
    · cases mem_singleton.1 hmem

theorem returns {base desired q : Pod} (h : PodRun template cur t pod)
    (hmem : ⟨.patchPod base desired, .ok q⟩ ∈ t) : pod = q := by
  cases h with
  | kept => cases hmem
  | patched =>
    cases mem_singleton.1 hmem
    rfl
  | refused => cases mem_singleton.1 hmem
  | conflict =>
    rcases mem_cons.1 hmem with heq | hmem
    · cases heq
    · cases mem_singleton.1 hmem

theorem key (h : PodRun template cur t pod) (hserves : ∀ e ∈ t, ServesPatch e) :
    podKey pod = podKey cur := by
  cases h with
  | kept => rfl
  | patched => exact (hserves _ (.head _)).1
  | refused => rfl
  | @conflict e r =>
    cases r with
    | error e => rfl
    | ok refreshed => exact hserves _ (.tail _ (.head _))

end PodRun

/-- What the loop does: each patch is for a listed pod that differs from the template, a patch that
succeeds leaves the pod that was returned in memory, and every pod keeps its identity. -/
structure Synced (template : PodTemplateMetadata) (pods : List Pod) (t : Trace)
    (pods' : List Pod) : Prop where
  patches : ∀ base desired r, ⟨.patchPod base desired, r⟩ ∈ t →
    base ∈ pods ∧ desired = (updatedPod template base).1 ∧ ¬ InSync template base
  returned : ∀ base desired q, ⟨.patchPod base desired, .ok q⟩ ∈ t → q ∈ pods'
  keys : (∀ e ∈ t, ServesPatch e) → pods'.map podKey = pods.map podKey

theorem Synced.refl (pods : List Pod) : Synced template pods [] pods :=
  ⟨fun _ _ _ h => absurd h not_mem_nil, fun _ _ _ h => absurd h not_mem_nil, fun _ => rfl⟩

theorem Synced.cons {cur pod : Pod} {t1 t2 : Trace} (hcur : PodRun template cur t1 pod)
    (h : Synced template pods t2 pods') :
    Synced template (cur :: pods) (t1 ++ t2) (pod :: pods') := by
  refine ⟨fun base desired r hmem => ?_, fun base desired q hmem => ?_, fun hserves => ?_⟩
  · rcases mem_append.1 hmem with hmem | hmem
    · obtain ⟨rfl, hdesired, hdiffers⟩ := hcur.patches hmem
      exact ⟨.head _, hdesired, hdiffers⟩
    · obtain ⟨hbase, hrest⟩ := h.patches base desired r hmem
      exact ⟨.tail _ hbase, hrest⟩
  · rcases mem_append.1 hmem with hmem | hmem
    · rw [hcur.returns hmem]
      exact .head _
    · exact .tail _ (h.returned base desired q hmem)
  · obtain ⟨hserves1, hserves2⟩ := forall_mem_append.1 hserves
    rw [map_cons, map_cons, hcur.key hserves1, h.keys hserves2]

theorem syncPods_run : ∀ {pods pods' : List Pod} {st : State} {t : Trace}
    {err : Option Error}, (syncPods template st pods).Runs t (st', pods', err) →
    Synced template pods t pods'
  | [], pods', st, t, err, h => by
    obtain ⟨rfl, heq⟩ := runs_ret.1 h
    cases heq
    exact .refl _
  | cur :: pods, pods', st, t, err, h => by
    obtain ⟨t1, ⟨st1, pod, res⟩, t2, rfl, hcur, h2⟩ := runs_bind.1 h
    cases res with
    | some e =>
      obtain ⟨rfl, heq⟩ := runs_ret.1 h2
      cases heq
      exact .cons (syncPod_run hcur) (.refl _)
    | none =>
      obtain ⟨t3, ⟨st2, rest, err'⟩, t4, rfl, hrest, h4⟩ := runs_bind.1 h2
      obtain ⟨rfl, heq⟩ := runs_ret.1 h4
      cases heq
      rw [append_nil]
      exact .cons (syncPod_run hcur) (syncPods_run hrest)

theorem syncPodMetadata_run (h : (syncPodMetadata template st pods).Runs t (st', pods', err)) :
    Synced template pods t pods' := by
  unfold syncPodMetadata at h
  split at h
  · obtain ⟨rfl, heq⟩ := runs_ret.1 h
    cases heq
    exact .refl _
  · exact syncPods_run h

end

/-- **Exact and idempotent**: after a run without error, a pod whose patch succeeded has the
metadata of the template in every managed key and its own elsewhere, and a second run for the same
template does not patch it. -/
theorem syncPodMetadata_exact {template : PodTemplateMetadata} {st st' : State} {t : Trace}
    (hrun : (syncPodMetadata template st pods).Runs t (st', pods', none))
    (hserves : ∀ e ∈ t, ServesPatch e) {base desired q : Pod}
    (hpatched : ⟨.patchPod base desired, .ok q⟩ ∈ t) :
    base ∈ pods ∧ q ∈ pods' ∧ Exact template base q ∧
      ∀ st2 t2 o2, (syncPodMetadata template st2 pods').Runs t2 o2 →
        ∀ base2 desired2 r2, ⟨.patchPod base2 desired2, r2⟩ ∈ t2 →
          base2 ≠ q ∧ ((pods.map podKey).Nodup → podKey base2 ≠ podKey q) := by
  have hsynced := syncPodMetadata_run hrun
  obtain ⟨hbase, rfl, -⟩ := hsynced.patches _ _ _ hpatched
  have hq := hsynced.returned _ _ _ hpatched
  have hexact : Exact template base q := ServesPatch.exact (hserves _ hpatched)
  refine ⟨hbase, hq, hexact, fun st2 t2 ⟨st3, pods2, err2⟩ hrun2 base2 desired2 r2 hmem2 => ?_⟩
  obtain ⟨hbase2, -, hdiffers⟩ := (syncPodMetadata_run hrun2).patches _ _ _ hmem2
  have hne : base2 ≠ q := by
    rintro rfl
    exact hdiffers hexact.inSync
  refine ⟨hne, fun hnodup hkey => hne ?_⟩
  rw [← hsynced.keys hserves] at hnodup
  exact inj_on_of_nodup_map hnodup hbase2 hq hkey

/-- A template that replaces a label. -/
def tierA : PodTemplateMetadata where
  desiredLabels := Finmap.singleton "tier" "gold"
  previousLabels := Finmap.singleton "stale" "yes"

/-- A pod with the old label. -/
def staleA : Pod := { name := "a-0", ns := "prod", labels := Finmap.singleton "stale" "yes" }

theorem syncPod_patches {cur : Pod} (st : State)
    (h : ¬ InSync template cur) : (syncPod template st cur).Runs
      [⟨.patchPod cur (updatedPod template cur).1, .ok (updatedPod template cur).1⟩]
      (st, (updatedPod template cur).1, none) := by
  unfold syncPod
  dsimp only
  rw [if_neg (not_not.2 (Bool.not_eq_false _ ▸ h))]
  exact .call _ (.ret _)

/-- The standalone cluster. -/
def reconcileA : State where
  cluster := soloA

theorem syncPodMetadata_exact_stale : ∃ t pods' q,
    (syncPodMetadata tierA reconcileA [staleA]).Runs t (reconcileA, pods', none) ∧
    q ∈ pods' ∧ q.labels.lookup "tier" = some "gold" ∧ q.labels.lookup "stale" = none := by
  have hdiffers : ¬ InSync tierA staleA := by
    show (updatedPod tierA staleA).2 ≠ false
    decide
  have hrun : (syncPodMetadata tierA reconcileA [staleA]).Runs
      [⟨.patchPod staleA (updatedPod tierA staleA).1, .ok (updatedPod tierA staleA).1⟩]
      (reconcileA, [(updatedPod tierA staleA).1], none) := by
    rw [syncPodMetadata, if_neg (by decide)]
    exact (syncPod_patches _ hdiffers).bind (.ret _)
  have hexact := syncPodMetadata_exact hrun
    (forall_mem_singleton.2 ⟨rfl, (merge_members_scalars _ _).symm,
      (merge_members_scalars _ _).symm⟩) (.head _)
  exact ⟨_, _, _, hrun, hexact.2.1, hexact.2.2.1.labels "tier" (by decide) (by decide),
    hexact.2.2.1.labels "stale" (by decide) (by decide)⟩

/-! ## The request of the phase -/

/-- What the phase leaves alone: everything but the pods and the delays. -/
def metadataFrame (st : State) : State :=
  { st with redisPods := [], sentinelPods := [], accumulator := {} }

theorem syncPod_frame (cur : Pod) :
    Yields (fun o => metadataFrame o.1 = metadataFrame st) (syncPod template st cur) := by
  unfold syncPod
  dsimp only
  split
  · exact .ret rfl
  · refine .call fun r => ?_
    cases r with
    | ok pod => exact .ret rfl
    | error e =>
      dsimp only [ret_bind]
      split
      · exact .ret rfl
      split
      · refine .call fun r => ?_
        cases r <;> exact .ret rfl
      · exact .ret rfl

theorem syncPods_frame : ∀ {st : State} (pods : List Pod),
    Yields (fun o => metadataFrame o.1 = metadataFrame st) (syncPods template st pods)
  | st, [] => .ret rfl
  | st, cur :: pods => by
    refine (syncPod_frame cur).bind fun o ho => ?_
    obtain ⟨st1, pod, err⟩ := o
    cases err with
    | some e => exact .ret ho
    | none => exact (syncPods_frame pods).bind fun _ ho' => .ret (ho'.trans ho)

theorem syncPodMetadata_frame (pods : List Pod) :
    Yields (fun o => metadataFrame o.1 = metadataFrame st) (syncPodMetadata template st pods) := by
  unfold syncPodMetadata
  split
  · exact .ret rfl
  · exact syncPods_frame pods

theorem podMetadata_frame (redis sentinel : PodTemplateMetadata) :
    Yields (fun o => metadataFrame o.1 = metadataFrame st) (podMetadata redis sentinel st) := by
  refine (syncPodMetadata_frame _).bind fun o ho => ?_
  obtain ⟨st1, pods, err⟩ := o
  cases err with
  | some e => exact .ret ho
  | none =>
    dsimp only
    split
    · exact (syncPodMetadata_frame _).bind fun _ ho' => .ret (ho'.trans ho)
    · exact .ret ho

/-- **The phase refines its request**: the reply is the pods that the phase leaves, or its error,
and of the rest of the state only the delays change. -/
theorem podMetadata_refines (redis sentinel : PodTemplateMetadata) (st : State) :
    Refines (fun out rep =>
        rep = (match out.2 with
          | none => .ok (out.1.redisPods, out.1.sentinelPods)
          | some e => .error e) ∧ metadataFrame out.1 = metadataFrame st)
      (podMetadata redis sentinel st) (ask .podMetadata) :=
  fun _ _ h =>
    ⟨[⟨.podMetadata, _⟩], _, .call _ (.ret _), rfl, (podMetadata_frame redis sentinel).of_runs h⟩

end Keyval.Phases
