import KeyvalOperator.Proof.HealthGate

/-!
# The status is a fixpoint

`computeStatus` carries the times of roles and conditions over from the status before. Computed
again from its own result it changes nothing, at any time.

* `computeStatus_again`: the status is a fixpoint, when no name is that of two pods.
* `updateStatus_settles`: **after one update the next ones send no patch**.
-/

namespace Keyval.Status

open Go Interact Interact.Prog List

variable {cr : KeyValCluster} {st : ClusterState}

theorem find?_reverse_of_mem {α κ : Type} [DecidableEq κ] {key : α → κ} {l : List α} {a : α}
    (hnd : (l.map key).Nodup) (ha : a ∈ l) : l.reverse.find? (fun b => key b = key a) = some a := by
  cases hfind : l.reverse.find? (fun b => key b = key a) with
  | none =>
    have := find?_eq_none.1 hfind a (mem_reverse.2 ha)
    simp at this
  | some b =>
    have hb : b ∈ l := mem_reverse.1 (mem_of_find?_eq_some hfind)
    have hkey : key b = key a := by simpa using find?_some hfind
    rw [inj_on_of_nodup_map hnd hb ha hkey]

section
variable {s : KeyValClusterStatus} {now now' : Time}

/-! ## Roles -/

theorem roleEntries_names : (roleEntries cr st now).map (·.name) =
    (st.pods ++ st.sentinelPods).map (·.name) := by
  unfold roleEntries
  rw [map_append, map_map, map_map, map_append]
  rfl

theorem roleTransition_same {prev entry : PodRoleStatus} (hrole : prev.role = entry.role)
    (hready : prev.ready = entry.ready) (hhealth : prev.health = entry.health)
    (hlag : prev.lagSeconds = entry.lagSeconds) :
    roleTransition now (some prev) entry = prev.lastTransitionTime := by
  unfold roleTransition
  dsimp only
  rw [if_pos ⟨hrole, hready⟩, if_pos ⟨hhealth, hlag⟩]

theorem roleEntry_again {p : Pod} {role : PodRole} (hnd : (s.roles.map (·.name)).Nodup)
    (hmem : roleEntry cr st now p role ∈ s.roles) :
    roleEntry { cr with status := s } st now' p role = roleEntry cr st now p role := by
  have hprev : prevRole { cr with status := s } p.name = some (roleEntry cr st now p role) :=
    find?_reverse_of_mem hnd hmem
  unfold roleEntry at hprev ⊢
  dsimp only at hprev ⊢
  rw [hprev, roleTransition_same]
  all_goals rfl

theorem roleEntries_again (hnd : ((st.pods ++ st.sentinelPods).map (·.name)).Nodup)
    (hs : s.roles = roleEntries cr st now) :
    roleEntries { cr with status := s } st now' = roleEntries cr st now := by
  have hnd' : (s.roles.map (·.name)).Nodup := by
    rw [hs, roleEntries_names]
    exact hnd
  unfold roleEntries at hs ⊢
  congr 1
  · refine map_congr_left fun p hp => roleEntry_again hnd' ?_
    rw [hs]
    exact mem_append_left _ (mem_map_of_mem hp)
  · refine map_congr_left fun p hp => roleEntry_again hnd' ?_
    rw [hs]
    exact mem_append_right _ (mem_map_of_mem hp)

/-! ## Conditions -/

theorem builtConditions_types : (builtConditions cr st now).map (·.type) =
    [ConditionType.reconciled, .available, .sentinelQuorum, .replicationHealthy,
      .failoverInProgress, .disruptionsPaused, .upgradeInProgress, .bootstrapInProgress,
      .externalImport, .storageCleanup].map ConditionType.str :=
  rfl

theorem runtimeConditions_type {c : Condition} (h : c ∈ runtimeConditions cr st now) :
    runtimeConditions cr st now = [c] ∧ c.type = ConditionType.runtimeConfigApplied.str := by
  unfold runtimeConditions at h ⊢
  split at h
  · obtain rfl := mem_singleton.1 h
    exact ⟨rfl, rfl⟩
  · have hprev : prevCondition cr ConditionType.runtimeConfigApplied.str = some c :=
      Option.mem_toList.1 h
    rw [hprev]
    exact ⟨rfl, by simpa using find?_some hprev⟩

theorem conditions_nodup :
    ((builtConditions cr st now ++ runtimeConditions cr st now).map (·.type)).Nodup := by
  have hbuilt : ((builtConditions cr st now).map (·.type)).Nodup := by
    rw [builtConditions_types]
    decide
  cases hrun : runtimeConditions cr st now with
  | nil => rwa [append_nil]
  | cons c rest =>
    obtain ⟨hone, htype⟩ := runtimeConditions_type (hrun ▸ mem_cons_self)
    rw [← hrun, hone, map_append, nodup_append]
    refine ⟨hbuilt, nodup_singleton _, ?_⟩
    rintro a ha b hb rfl
    obtain rfl : a = c.type := by simpa using hb
    rw [builtConditions_types, htype] at ha
    revert ha
    decide

theorem build_again {type : ConditionType} {state : ConditionState}
    (hnd : (s.conditions.map (·.type)).Nodup) (hmem : build cr now type state ∈ s.conditions) :
    build { cr with status := s } now' type state = build cr now type state := by
  have hprev : prevCondition { cr with status := s } type.str = some (build cr now type state) :=
    find?_reverse_of_mem hnd hmem
  unfold build at hprev ⊢
  rw [hprev]
  dsimp only
  rw [if_pos ⟨rfl, rfl⟩]

theorem conditions_again
    (hs : s.conditions = builtConditions cr st now ++ runtimeConditions cr st now) :
    builtConditions { cr with status := s } st now' = builtConditions cr st now ∧
      runtimeConditions { cr with status := s } st now' = runtimeConditions cr st now := by
  have hnd : (s.conditions.map (·.type)).Nodup := by
    rw [hs]
    exact conditions_nodup
  constructor
  · refine map_congr_left fun x hx => build_again hnd ?_
    rw [hs]
    exact mem_append_left _ (mem_map_of_mem hx)
  · cases hconfig : st.runtimeConfig with
    | some state =>
      unfold runtimeConditions at hs ⊢
      rw [hconfig] at hs ⊢
      dsimp only at hs ⊢
      rw [build_again hnd (by rw [hs]; exact mem_append_right _ (.head _))]
    | none =>
      -- the condition before is copied, and found again as the only one of its type
      unfold runtimeConditions
      rw [hconfig]
      have hcopy : runtimeConditions cr st now =
          (prevCondition cr ConditionType.runtimeConfigApplied.str).toList := by
        unfold runtimeConditions
        rw [hconfig]
      cases hprev : prevCondition cr ConditionType.runtimeConfigApplied.str with
      | some c =>
        have hmem : c ∈ runtimeConditions cr st now := by
          rw [hcopy, hprev]
          exact .head _
        have hfind : prevCondition { cr with status := s } c.type = some c :=
          find?_reverse_of_mem hnd (hs ▸ mem_append_right _ hmem)
        rw [(runtimeConditions_type hmem).2] at hfind
        rw [hfind]
      | none =>
        have hfind : prevCondition { cr with status := s }
            ConditionType.runtimeConfigApplied.str = none := by
          unfold prevCondition
          rw [find?_eq_none]
          intro c hc htype
          rw [mem_reverse, hs, hcopy, hprev, Option.toList_none, append_nil] at hc
          have hmem := mem_map_of_mem (f := Condition.type) hc
          rw [builtConditions_types, of_decide_eq_true htype] at hmem
          revert hmem
          decide
        rw [hfind]

/-! ## The status -/

/-- **The status is a fixpoint**: computed again over its own result it is the same, whatever the
clock says. -/
theorem computeStatus_again (hnd : ((st.pods ++ st.sentinelPods).map (·.name)).Nodup) :
    computeStatus { cr with status := computeStatus cr st now } st now' =
      computeStatus cr st now := by
  have hroles : roleEntries { cr with status := computeStatus cr st now } st now' =
      roleEntries cr st now := roleEntries_again hnd rfl
  obtain ⟨hbuilt, hruntime⟩ :
      builtConditions { cr with status := computeStatus cr st now } st now' =
        builtConditions cr st now ∧
      runtimeConditions { cr with status := computeStatus cr st now } st now' =
        runtimeConditions cr st now := conditions_again rfl
  unfold computeStatus at hroles hbuilt hruntime ⊢
  dsimp only at hroles hbuilt hruntime ⊢
  rw [hroles, hbuilt, hruntime]

end

/-- The cluster has the status that is computed for it at any time. -/
def Settled (cr : KeyValCluster) (st : ClusterState) : Prop :=
  ∀ now, computeStatus cr st now = cr.status

section
variable {cr' : KeyValCluster} {t : Trace}

/-- An update leaves the cluster settled, also when the write fails: the status in memory is
replaced first. -/
theorem updateStatus_settled {err : Option Error}
    (hnd : ((st.pods ++ st.sentinelPods).map (·.name)).Nodup)
    (h : (updateStatus cr st).Runs t (cr', err)) : Settled cr' st := by
  have hagain (now : Time) : Settled { cr with status := computeStatus cr st now } st :=
    fun _ => computeStatus_again hnd
  obtain ⟨now, t1, rfl, h1⟩ := runs_asked.1 h
  by_cases hsame : cr.status = computeStatus cr st now
  · rw [if_pos hsame] at h1
    obtain ⟨-, hres⟩ := runs_ret.1 h1
    obtain ⟨rfl, -⟩ := Prod.mk.inj hres
    have hcr := hagain now
    rw [← hsame] at hcr
    exact hcr
  · rw [if_neg hsame] at h1
    obtain ⟨r, t2, rfl, h2⟩ := runs_call.1 h1
    cases r with
    | ok u =>
      obtain ⟨-, hres⟩ := runs_ret.1 h2
      obtain ⟨rfl, -⟩ := Prod.mk.inj hres
      exact hagain now
    | error e =>
      obtain ⟨-, hres⟩ := runs_ret.1 h2
      obtain ⟨rfl, -⟩ := Prod.mk.inj hres
      exact hagain now

theorem Settled.updateStatus_idle {o : KeyValCluster × Option Error} (hset : Settled cr st)
    (h : (updateStatus cr st).Runs t o) : (∃ now, t = [⟨.now, now⟩]) ∧ o = (cr, none) := by
  obtain ⟨now, t1, rfl, h1⟩ := runs_asked.1 h
  rw [if_pos (hset now).symm] at h1
  obtain ⟨rfl, rfl⟩ := runs_ret.1 h1
  exact ⟨⟨now, rfl⟩, rfl⟩

end

/-- **The status settles**: it is a fixpoint of `computeStatus`, and an update that follows one with
the same state sends no patch. -/
theorem updateStatus_settles {cr : KeyValCluster} {st : ClusterState}
    (hnd : ((st.pods ++ st.sentinelPods).map (·.name)).Nodup) :
    (∀ now now', computeStatus { cr with status := computeStatus cr st now } st now' =
      computeStatus cr st now) ∧
    ∀ t cr' err, (updateStatus cr st).Runs t (cr', err) →
      ∀ t' o, (updateStatus cr' st).Runs t' o →
        (∀ e ∈ t', ∀ ns name s, e.req ≠ .patchStatus ns name s) ∧ o = (cr', none) := by
  refine ⟨fun now now' => computeStatus_again hnd, fun t cr' err h t' o h' => ?_⟩
  obtain ⟨⟨now, rfl⟩, ho⟩ := (updateStatus_settled hnd h).updateStatus_idle h'
  refine ⟨fun e he ns name s => ?_, ho⟩
  obtain rfl := mem_singleton.1 he
  nofun

/-- Three Redis and three Sentinel pods with the status that was computed for them. -/
theorem updateStatus_settles_healthyA :
    ((healthyA.pods ++ healthyA.sentinelPods).map (·.name)).Nodup ∧
    (∀ now now', computeStatus { clusterA with status := computeStatus clusterA healthyA now }
      healthyA now' = computeStatus clusterA healthyA now) ∧
    ∀ t cr' err, (updateStatus clusterA healthyA).Runs t (cr', err) →
      ∀ t' o, (updateStatus cr' healthyA).Runs t' o →
        (∀ e ∈ t', ∀ ns name s, e.req ≠ .patchStatus ns name s) ∧ o = (cr', none) := by
  have hnd : ((healthyA.pods ++ healthyA.sentinelPods).map (·.name)).Nodup := by decide
  exact ⟨hnd, updateStatus_settles hnd⟩

end Keyval.Status
