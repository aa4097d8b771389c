import KeyvalOperator.Proof.RoleLabels
import KeyvalOperator.Proof.Runtime

/-!
# The label master after a failed topology

When the topology fails, the Runtime phase takes the first listed pod for the master, and the Labels
phase gives it the label.

* `runtime_fallback`: after a topology error the master is the first listed pod.
* `keepsMaster_iff`: **the label stays exactly when the labelled pod is the first of the list.**
-/

namespace Keyval.Controller

open Go Interact Interact.Prog Phases List

variable {t : Trace} {F : Formats} {st : State}

/-! ## The Runtime phase with an error -/

section
variable {o : State × Option Error}

theorem runtime_fallback (hfac : st.clientFactory = true) (h : (runtime F st).Runs t o)
    (herr : o.1.runtime.replicationError ≠ none) {p : Pod} {rest : List Pod}
    (hpods : st.redisPods = p :: rest) : o.1.runtime.master = p.name := by
  obtain ⟨res, err, cand, t1, t2, -, -, -, -, hmaster, -, heq, -⟩ := runtime_run hfac h
  rw [heq] at herr
  obtain ⟨e, rfl⟩ := Option.ne_none_iff_exists'.1 herr
  rw [hmaster, hpods]
  rfl

theorem ensureOrBootstrap_unreachable {req : Replication.EnsureRequest} {n : Nat}
    {r : Replication.EnsureResult × Option Error × Bootstrap.Candidate}
    (h : (ensureOrBootstrap F req n).Runs t r)
    (hno : ∀ pod, (⟨.redisForPod pod, .ok ()⟩ : Event Op) ∉ t) : r.2.1 ≠ none := by
  obtain ⟨t1, ⟨res, err⟩, t2, rfl, h1, h2⟩ := runs_bind.1 h
  have herr : err ≠ none := Replication.ensureTopology_unreachable h1 fun pod hmem =>
    hno pod (mem_append_left _ hmem)
  dsimp only at h2
  split at h2
  · obtain ⟨t3, cand, t4, rfl, -, h4⟩ := runs_bind.1 h2
    split at h4
    · obtain ⟨t5, ⟨res', err'⟩, t6, rfl, h5, h6⟩ := runs_bind.1 h4
      obtain ⟨-, rfl⟩ := runs_ret.1 h6
      refine Replication.ensureTopology_unreachable h5 fun pod hmem => hno pod ?_
      simp [hmem]
    · obtain ⟨-, rfl⟩ := runs_ret.1 h4
      exact herr
  · obtain ⟨-, rfl⟩ := runs_ret.1 h2
    exact herr

end

/-! ## The requests before the Labels phase -/

theorem roleQuiet_of_runtimeReq {q : Req} (h : RuntimeReq q) : RoleQuiet q := by
  cases q <;> trivial

theorem reconcileTopology_labels {F : Formats} {st : State}
    {o : State × Option Error} (h : (reconcileTopology F st).Runs t o) :
    ∃ st1 u1, (runtime F st).Runs u1 (st1, none) ∧ u1 <+: t ∧
      (((∀ e ∈ t, RoleQuiet e.req) ∧ o.1.runtime = st1.runtime ∧ ∃ e, ⟨.sentinel, .error e⟩ ∈ t) ∨
        ∃ st2 t1 t2, t = t1 ++ t2 ∧ (∀ e ∈ t1, RoleQuiet e.req) ∧ (labels st2).Runs t2 o ∧
          st2.redisPods = st1.redisPods ∧ st2.runtime = st1.runtime) := by
  obtain ⟨st1, t1, t2, rfl, h1, hrest⟩ := reconcileTopology_run h
  have hq1 : ∀ e ∈ t1, RoleQuiet e.req := fun e he =>
    roleQuiet_of_runtimeReq ((runtime_asks F st).mem h1 e he)
  refine ⟨st1, t1, h1, prefix_append _ _, ?_⟩
  rcases hrest with ⟨e, rfl, rfl⟩ | ⟨sentinel, t3, t4, rfl, h3, h4⟩
  · refine .inl ⟨?_, requeueRuntime_runtime st1, e, by simp⟩
    rw [forall_mem_append]
    exact ⟨hq1, forall_mem_singleton.2 trivial⟩
  · refine .inr ⟨_, t1 ++ ⟨.sentinel, .ok sentinel⟩ :: t3, t4, by simp, ?_, h4,
      requeueRuntime_redisPods st1, requeueRuntime_runtime st1⟩
    rw [forall_mem_append, forall_mem_cons]
    exact ⟨hq1, trivial, (Bootstrap.updatePVCFreshness_asks _ _ _ _ trivial (fun _ _ => trivial)
      fun _ _ => trivial).mem h3⟩

/-! ## The label -/

/-- The pod of `status.masterPod` is listed, and it is the one that carries the label master. -/
structure MasterLabelled (st : State) : Prop where
  listed : ∃ p ∈ st.redisPods, p.name = st.cluster.status.masterPod
  role : ∀ p ∈ st.redisPods, p.role = PodRole.master.str ↔ p.name = st.cluster.status.masterPod

/-- In the store the pod of `status.masterPod` carries the label master and no other pod does. -/
def OnlyMasterPod (st : State) (s : LabelStore) : Prop :=
  ∀ p ∈ st.redisPods, s p.name = some PodRole.master.str ↔ p.name = st.cluster.status.masterPod

/-- In every run with a topology error the pod of `status.masterPod` keeps the label and no other
pod gains it. -/
def KeepsMaster (F : Formats) (st : State) : Prop :=
  ∀ s t o, (∀ p ∈ st.redisPods, s p.name = some p.role) → (reconcileTopology F st).Runs t o →
    labelWorld.Admits s t → o.1.runtime.replicationError ≠ none →
    OnlyMasterPod st (labelWorld.after s t)

theorem labelWorld_after_quiet (s : LabelStore)
    (h : ∀ e ∈ t, RoleQuiet e.req) : labelWorld.after s t = s :=
  funext fun pod => labelWorld_after_off s fun e he => (h e he).offPod pod

theorem labels_keep {st : State} {o : State × Option Error} {s : LabelStore} {m : String}
    (h : (labels st).Runs t o) (hadm : labelWorld.Admits s t) (hm : st.runtime.master = m)
    (hs : ∀ p ∈ st.redisPods, s p.name = some p.role)
    (hrole : ∀ p ∈ st.redisPods, p.role = PodRole.master.str ↔ p.name = m) :
    ∀ p ∈ st.redisPods, labelWorld.after s t p.name = some PodRole.master.str ↔ p.name = m := by
  intro p hp
  constructor
  · intro hmaster
    rcases labels_master hs h hadm prefix_rfl hp hmaster with hprole | ⟨hname, -⟩
    · exact (hrole p hp).1 hprole
    · exact hname.trans hm
  · intro hname
    have hprole := (hrole p hp).2 hname
    have hsame := hadm.mem labelWorld labelWorld_samePod
    -- the master has the label that it should have, so the requests are about other pods
    rw [labelWorld_after_off s fun e he => (labels_aligned h hsame e he).offPod ?_, hs p hp, hprole]
    intro q hq hqrole heq
    have hqname : q.name = m := heq.trans hname
    refine hqrole ?_
    rw [(hrole q hq).2 hqname, wantRole_master.2 (hqname.trans hm.symm)]

/-- What the Labels phase gets after a topology error: the pods with the names and labels of the
list, and its first pod as the master. -/
theorem labels_input (hfac : st.clientFactory = true) {st1 st2 : State}
    (h : (runtime F st).Runs t (st1, none)) (hpods : st2.redisPods = st1.redisPods) :
    (st2.redisPods.map Pod.name = st.redisPods.map Pod.name) ∧
    (∀ p' ∈ st2.redisPods, ∃ p ∈ st.redisPods, p'.name = p.name ∧ p'.role = p.role) ∧
    (∀ p ∈ st.redisPods, ∃ p' ∈ st2.redisPods, p'.name = p.name ∧ p'.role = p.role) := by
  obtain ⟨_, _, _, _, _, -, -, -, -, -, -, -, ⟨hash, names, heq⟩, -⟩ := runtime_run hfac h
  rw [hpods, heq]
  exact ⟨annotateConfigHash_names _ _ _, fun p' => mem_annotateConfigHash _ _ _,
    fun p => annotateConfigHash_mem _ _ _⟩

theorem keepsMaster_of_head (hfac : st.clientFactory = true) (hl : MasterLabelled st)
    (hhead : st.redisPods.head?.map Pod.name = some st.cluster.status.masterPod) :
    KeepsMaster F st := by
  intro s t o hs h hadm herr
  obtain ⟨p0, rest, hpods⟩ : ∃ p0 rest, st.redisPods = p0 :: rest := by
    obtain ⟨p, hp, -⟩ := hl.listed
    exact exists_cons_of_ne_nil (ne_nil_of_mem hp)
  have hp0 : p0.name = st.cluster.status.masterPod := by
    rw [hpods] at hhead
    exact Option.some.inj hhead
  obtain ⟨st1, u1, hrun, -, hrest⟩ := reconcileTopology_labels h
  rcases hrest with ⟨hq, -, -⟩ | ⟨st2, t1, t2, rfl, hq, hlab, hpods2, hrt⟩
  · intro p hp
    rw [labelWorld_after_quiet s hq, hs p hp, Option.some.injEq]
    exact hl.role p hp
  · obtain ⟨-, hmem, hmem'⟩ := labels_input hfac hrun hpods2
    have herr1 : st1.runtime.replicationError ≠ none := by
      obtain ⟨_, _, _, -, -, -, -, ho⟩ := labels_run hlab
      rw [ho] at herr
      rwa [← hrt]
    have hmaster : st2.runtime.master = st.cluster.status.masterPod := by
      rw [hrt, runtime_fallback hfac hrun herr1 hpods, hp0]
    rw [labelWorld.admits_append, labelWorld_after_quiet s hq] at hadm
    have hkeep := labels_keep hlab hadm.2 hmaster (fun p' hp' => by
        obtain ⟨p, hp, hname, hrole⟩ := hmem p' hp'
        rw [hname, hrole, hs p hp]) fun p' hp' => by
        obtain ⟨p, hp, hname, hrole⟩ := hmem p' hp'
        rw [hname, hrole, hl.role p hp]
    intro p hp
    obtain ⟨p', hp', hname, -⟩ := hmem' p hp
    rw [labelWorld.after_append, labelWorld_after_quiet s hq, ← hname]
    exact hkeep p' hp'

/-! ### A run that moves the label -/

/-- Redis and Sentinel cannot be reached. -/
def unreachable (_ : LabelStore) : Replies
  | .patchPodRole ns name _ role => .ok (Pod.setRole { name, ns } role)
  | .sentinel => .ok { quorumOK := false, detail := "" }
  | q => q.unavailable

/-- No pod is missing. -/
def AllExist (s : LabelStore) : Prop := ∀ pod, s pod ≠ none

theorem unreachable_ok (s : LabelStore) (q : Req) (hs : AllExist s) :
    labelWorld.ok s ⟨q, unreachable s q⟩ ∧ AllExist (labelWorld.step s ⟨q, unreachable s q⟩) := by
  cases q with
  | patchPodRole ns name rv role =>
    refine ⟨⟨hs name, rfl, Pod.setRole_role _ _⟩, fun pod => ?_⟩
    show Function.update s name (some role) pod ≠ none
    by_cases hpod : pod = name
    · rw [hpod, Function.update_self]
      exact Option.some_ne_none _
    · rw [Function.update_of_ne hpod]
      exact hs pod
  | _ => exact ⟨trivial, hs⟩

theorem unreachable_rep {s : LabelStore} {α : Type} {p : M α} {e : Event Op}
    (he : e ∈ (labelWorld.play unreachable s p).1) :
    (∀ pod, e ≠ ⟨.redisForPod pod, .ok ()⟩) ∧ (∀ err, e ≠ ⟨.sentinel, .error err⟩) ∧
      ¬ PatchFailed e := by
  obtain ⟨s', hrep⟩ := World.play_rep s p e he
  obtain ⟨q, r⟩ := e
  obtain rfl : r = unreachable s' q := hrep
  refine ⟨?_, ?_, ?_⟩
  · rintro pod heq
    obtain ⟨rfl, heq⟩ := Event.mk.inj heq
    cases eq_of_heq heq
  · rintro err heq
    obtain ⟨rfl, heq⟩ := Event.mk.inj heq
    cases eq_of_heq heq
  · cases q <;> exact id

theorem exists_store {pods : List Pod} (hnd : (pods.map Pod.name).Nodup) :
    ∃ s : LabelStore, AllExist s ∧ ∀ p ∈ pods, s p.name = some p.role := by
  classical
  refine ⟨fun n => some (if h : ∃ p ∈ pods, p.name = n then h.choose.role else ""),
    fun pod => Option.some_ne_none _, fun p hp => ?_⟩
  have hex : ∃ q ∈ pods, q.name = p.name := ⟨p, hp, rfl⟩
  have hq := hex.choose_spec
  simp only [dif_pos hex]
  rw [inj_on_of_nodup_map hnd hq.1 hp hq.2]

theorem head_of_keepsMaster (hfac : st.clientFactory = true)
    (hnd : (st.redisPods.map Pod.name).Nodup) (hl : MasterLabelled st) (hk : KeepsMaster F st) :
    st.redisPods.head?.map Pod.name = some st.cluster.status.masterPod := by
  by_contra hne
  obtain ⟨pm, hpm, hpmname⟩ := hl.listed
  obtain ⟨p0, rest, hpods⟩ := exists_cons_of_ne_nil (ne_nil_of_mem hpm)
  have hp0 : p0.name ≠ st.cluster.status.masterPod := fun heq => hne (by rw [hpods, ← heq]; rfl)
  obtain ⟨s, hall, hs⟩ := exists_store hnd
  -- a reconcile without a connection to Redis, in which every patch succeeds
  have hrun := World.runs_play (W := labelWorld) s (reconcileTopology F st) (r := unreachable)
  have hadm := World.admits_play_inv (W := labelWorld) unreachable_ok hall (reconcileTopology F st)
  have hrep := fun e => unreachable_rep (s := s) (p := reconcileTopology F st) (e := e)
  set t := (labelWorld.play unreachable s (reconcileTopology F st)).1
  set o := (labelWorld.play unreachable s (reconcileTopology F st)).2
  obtain ⟨st1, u1, hrt1, hu1, hrest⟩ := reconcileTopology_labels hrun
  have herr1 : st1.runtime.replicationError ≠ none := by
    obtain ⟨res, err, cand, v1, v2, rfl, htop, -, -, -, -, herr, -⟩ := runtime_run hfac hrt1
    rw [herr]
    refine ensureOrBootstrap_unreachable htop fun pod hmem => ?_
    exact (hrep _ (hu1.subset (mem_append_left _ hmem))).1 pod rfl
  rcases hrest with ⟨-, -, e, he⟩ | ⟨st2, t1, t2, hsplit, hq, hlab, hpods2, hrt⟩
  · exact (hrep _ he).2.1 e rfl
  have herr : o.1.runtime.replicationError ≠ none := by
    obtain ⟨_, _, _, -, -, -, -, ho⟩ := labels_run hlab
    rw [ho]
    show st2.runtime.replicationError ≠ none
    rwa [hrt]
  have hkept := (hk s t o hs hrun hadm herr pm hpm).2 hpmname
  -- the Labels phase takes the label from `pm`
  obtain ⟨hnames, hmem, hmem'⟩ := labels_input hfac hrt1 hpods2
  obtain ⟨p, hp, hpname, hprole⟩ := hmem' pm hpm
  rw [hsplit, labelWorld.admits_append, labelWorld_after_quiet s hq] at hadm
  rw [hsplit, labelWorld.after_append, labelWorld_after_quiet s hq, ← hpname] at hkept
  have hmaster : p.name ≠ st2.runtime.master := by
    rw [hrt, runtime_fallback hfac hrt1 herr1 hpods, hpname, hpmname]
    exact Ne.symm hp0
  have hrole : p.role = PodRole.master.str := by
    rw [hprole]
    exact (hl.role pm hpm).2 hpmname
  have hone : ∀ q ∈ st2.redisPods, q.role = PodRole.master.str → q.name = p.name := by
    intro q' hq' hq'role
    obtain ⟨q, hq, hqname, hqrole⟩ := hmem q' hq'
    rw [hqname, hpname, hpmname]
    exact (hl.role q hq).1 (hqrole ▸ hq'role)
  have hsp : s p.name = some p.role := by rw [hpname, hprole, hs pm hpm]
  obtain ⟨v1, v2, rfl, -, hoff, hout⟩ :=
    labels_demoted hlab hadm.2 (hnames ▸ hnd) hp hsp hrole hmaster hone
  have hfail : ∀ e ∈ v1 ++ v2, ¬ PatchFailed e := fun e he =>
    (hrep e (hsplit ▸ mem_append_right _ he)).2.2
  rw [labelWorld.after_append, labelWorld_after_off _ hoff] at hkept
  rcases hout with ⟨hconf, -⟩ | ⟨-, ⟨-, herr2⟩ | hl⟩
  · obtain ⟨e, he, hf⟩ := conflicts_patchFailed (by rw [hconf]; decide : 0 < conflicts p.name v1)
    exact hfail e (mem_append_left _ he) hf
  · obtain ⟨e, he, hf⟩ := labels_patchFailed hlab herr2
    exact hfail e he hf
  · exact hl hkept

/-- **The label master stays where it is in every reconcile with a topology error exactly when the
labelled pod is the first of the list.** -/
theorem keepsMaster_iff (F : Formats) (hfac : st.clientFactory = true)
    (hnd : (st.redisPods.map Pod.name).Nodup) (hl : MasterLabelled st) :
    KeepsMaster F st ↔ st.redisPods.head?.map Pod.name = some st.cluster.status.masterPod :=
  ⟨head_of_keepsMaster hfac hnd hl, keepsMaster_of_head hfac hl⟩

/-! ### The label on `a-1`, with `a-0` first in the list -/

/-- Two pods, one of them the master. -/
def listedA (master : String) : State where
  cluster := { clusterA with status := { masterPod := master } }
  redisPods := ["a-0", "a-1"].map fun n => podA n (if n = master then "master" else "replica")

theorem listedA_labelled_a0 : MasterLabelled (listedA "a-0") :=
  ⟨⟨_, mem_cons_self, rfl⟩, by decide⟩

theorem keepsMaster_a0 : KeepsMaster .decimal (listedA "a-0") :=
  (keepsMaster_iff .decimal rfl (by decide) listedA_labelled_a0).2 rfl

/-- The stored labels make a-1 the master. -/
def storedA1 : LabelStore := fun pod => if pod = "a-1" then some "master" else some "replica"

/-- A topology error with the label on `a-1`: afterwards `a-0` carries it. -/
theorem fallback_moves_label_to_a0 : MasterLabelled (listedA "a-1") ∧
    (∃ s t o, (∀ p ∈ (listedA "a-1").redisPods, s p.name = some p.role) ∧
      (reconcileTopology .decimal (listedA "a-1")).Runs t o ∧ labelWorld.Admits s t ∧
      o.1.runtime.replicationError ≠ none ∧
      labelWorld.after s t "a-0" = some "master" ∧ labelWorld.after s t "a-1" = some "replica") ∧
    ¬ KeepsMaster .decimal (listedA "a-1") := by
  have hs : ∀ p ∈ (listedA "a-1").redisPods, storedA1 p.name = some p.role := by decide
  have hrun := World.runs_play (W := labelWorld) (r := unreachable) storedA1
    (reconcileTopology .decimal (listedA "a-1"))
  have hadm := World.admits_play_inv (W := labelWorld) unreachable_ok (s := storedA1)
    (fun pod => by unfold storedA1; split <;> exact Option.some_ne_none _)
    (reconcileTopology .decimal (listedA "a-1"))
  have herr : (labelWorld.play unreachable storedA1
      (reconcileTopology .decimal (listedA "a-1"))).2.1.runtime.replicationError ≠ none := by decide
  have ha1 : labelWorld.after storedA1 (labelWorld.play unreachable storedA1
      (reconcileTopology .decimal (listedA "a-1"))).1 "a-1" = some "replica" := by decide
  refine ⟨⟨⟨podA "a-1" "master", by decide, rfl⟩, by decide⟩,
    ⟨storedA1, _, _, hs, hrun, hadm, herr, by decide, ha1⟩, fun hk => ?_⟩
  have hkept := (hk storedA1 _ _ hs hrun hadm herr (podA "a-1" "master") (by decide)).2 rfl
  exact absurd (ha1.symm.trans hkept) (by decide)

end Keyval.Controller
