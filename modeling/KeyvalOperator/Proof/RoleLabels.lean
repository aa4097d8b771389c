import KeyvalOperator.Api.LabelStore
import KeyvalOperator.Phases.Labels

/-!
# One master label

The Labels phase against the role labels of the API server (`labelWorld`). A pod whose demotion
conflicts in every attempt keeps the label master, and the phase goes on to the promotions.

* `RoleRun`, `applyRole_run`: what the attempts on one pod can do.
* `RoleRun.outcome`: after attempts without an error the label is set or the pod is gone, unless
  every attempt met a conflict.
* `labels_atMostOne_iff`: **at most one pod carries the label master, unless a demotion runs out of
  attempts and the promotion succeeds.**
-/

namespace Keyval.Phases

open Go Interact Interact.Prog List

variable {t : Trace} {p : Pod} {master : String} {pods : List Pod} {o : LabelState × Option Error}
  {toRole : String} {err : Option Error} {x : Nat × String} {P : Pod → Prop} {e : Event Op}
  {n : Nat}

/-! ## The attempts on one pod -/

/-- The patch of the pod's role. -/
def patchRole (cur : Pod) (toRole : String) : Req :=
  .patchPodRole cur.ns cur.name cur.resourceVersion toRole

/-- The attempts on the pod `cur` with their events, the pod they leave in memory and their
error. -/
inductive RoleRun (toRole : String) : Nat → Pod → Trace → Pod → Option Error → Prop
  | idle (cur : Pod) : RoleRun toRole 0 cur [] cur none
  | kept {n : Nat} {cur : Pod} : cur.role = toRole → RoleRun toRole (n + 1) cur [] cur none
  | patched {n : Nat} {cur : Pod} (pod : Pod) : cur.role ≠ toRole →
      RoleRun toRole (n + 1) cur [⟨patchRole cur toRole, .ok pod⟩] pod none
  | failed {n : Nat} {cur : Pod} {e : Error} (e' : Error) : cur.role ≠ toRole →
      e.reason ≠ .conflict → RoleRun toRole (n + 1) cur [⟨patchRole cur toRole, .error e⟩]
        (cur.setRole toRole) (some e')
  | exhausted {cur : Pod} {e : Error} : cur.role ≠ toRole → e.reason = .conflict →
      RoleRun toRole 1 cur [⟨patchRole cur toRole, .error e⟩] cur none
  | gone {n : Nat} {cur : Pod} {e f : Error} : cur.role ≠ toRole → e.reason = .conflict →
      f.reason = .notFound → RoleRun toRole (n + 2) cur
        [⟨patchRole cur toRole, .error e⟩, ⟨.getPod cur.ns cur.name, .error f⟩] cur none
  | unread {n : Nat} {cur : Pod} {e f : Error} (e' : Error) : cur.role ≠ toRole →
      e.reason = .conflict → RoleRun toRole (n + 2) cur
        [⟨patchRole cur toRole, .error e⟩, ⟨.getPod cur.ns cur.name, .error f⟩] cur (some e')
  | retried {n : Nat} {cur pod p : Pod} {e : Error} {t : Trace} {err : Option Error} :
      cur.role ≠ toRole → e.reason = .conflict → RoleRun toRole (n + 1) pod t p err →
      RoleRun toRole (n + 2) cur
        (⟨patchRole cur toRole, .error e⟩ :: ⟨.getPod cur.ns cur.name, .ok pod⟩ :: t) p err

theorem applyRole_run {cur : Pod} {acc : RequeueAccumulator} {a : Applied}
    (h : (applyRole toRole n cur acc).Runs t a) : RoleRun toRole n cur t a.pod a.err := by
  induction n generalizing cur acc t with
  | zero =>
    obtain ⟨rfl, rfl⟩ := runs_ret.1 h
    exact .idle cur
  | succ n ih =>
    unfold applyRole at h
    by_cases hrole : cur.role = toRole
    · simp only [if_pos hrole, pure_eq] at h
      obtain ⟨rfl, rfl⟩ := runs_ret.1 h
      exact .kept hrole
    simp only [if_neg hrole, bind_eq, pure_eq, ask_eq, call_bind, ret_bind] at h
    obtain ⟨r, t1, rfl, h1⟩ := runs_call.1 h
    cases r with
    | ok pod =>
      obtain ⟨rfl, rfl⟩ := runs_ret.1 h1
      exact .patched pod hrole
    | error e =>
      by_cases hc : e.reason = .conflict
      · simp only [hc, ne_eq, not_true_eq_false, if_false] at h1
        by_cases hn : n = 0
        · simp only [if_pos hn] at h1
          obtain ⟨rfl, rfl⟩ := runs_ret.1 h1
          subst hn
          exact .exhausted hrole hc
        obtain ⟨k, rfl⟩ := Nat.exists_eq_succ_of_ne_zero hn
        simp only [if_neg hn] at h1
        obtain ⟨r', t2, rfl, h2⟩ := runs_call.1 h1
        cases r' with
        | ok pod => exact .retried hrole hc (ih h2)
        | error f =>
          by_cases hf : f.reason = .notFound
          · simp only [if_pos hf] at h2
            obtain ⟨rfl, rfl⟩ := runs_ret.1 h2
            exact .gone hrole hc hf
          · simp only [if_neg hf] at h2
            obtain ⟨rfl, rfl⟩ := runs_ret.1 h2
            exact .unread _ hrole hc
      · simp only [hc, ne_eq, not_false_eq_true, if_true] at h1
        obtain ⟨rfl, rfl⟩ := runs_ret.1 h1
        exact .failed _ hrole hc

theorem RoleRun.roleReq {cur p : Pod} (h : RoleRun toRole n cur t p err) (hs : ∀ e ∈ t, SamePod e) :
    p.name = cur.name ∧ ∀ e ∈ t, RoleReq cur.name toRole e.req := by
  induction h with
  | idle cur => exact ⟨rfl, fun e he => by cases he⟩
  | kept _ => exact ⟨rfl, fun e he => by cases he⟩
  | patched pod _ =>
    have hp : pod.name = _ := hs _ (.head _)
    exact ⟨hp, forall_mem_singleton.2 ⟨rfl, rfl⟩⟩
  | failed _ _ _ => exact ⟨rfl, forall_mem_singleton.2 ⟨rfl, rfl⟩⟩
  | exhausted _ _ => exact ⟨rfl, forall_mem_singleton.2 ⟨rfl, rfl⟩⟩
  | gone _ _ _ =>
    exact ⟨rfl, forall_mem_cons.2 ⟨⟨rfl, rfl⟩, forall_mem_singleton.2 rfl⟩⟩
  | unread _ _ _ =>
    exact ⟨rfl, forall_mem_cons.2 ⟨⟨rfl, rfl⟩, forall_mem_singleton.2 rfl⟩⟩
  | @retried n cur pod p e t err _ _ _ ih =>
    obtain ⟨-, hpod, ht⟩ : _ ∧ pod.name = cur.name ∧ ∀ e ∈ t, SamePod e := by
      simpa only [forall_mem_cons, SamePod] using hs
    obtain ⟨hp, hreq⟩ := ih ht
    rw [hpod] at hp hreq
    exact ⟨hp, forall_mem_cons.2 ⟨⟨rfl, rfl⟩, forall_mem_cons.2 ⟨rfl, hreq⟩⟩⟩

/-- A patch of the pod ends in a conflict. -/
def isConflict (pod : String) : Event Op → Bool
  | ⟨.patchPodRole _ n _ _, .error e⟩ => n = pod && e.reason = .conflict
  | _ => false

/-- The number of such patches. -/
def conflicts (pod : String) (t : Trace) : Nat := t.countP (isConflict pod)

@[simp] theorem conflicts_nil (pod : String) : conflicts pod [] = 0 := rfl

@[simp] theorem conflicts_append (pod : String) (t1 t2 : Trace) :
    conflicts pod (t1 ++ t2) = conflicts pod t1 + conflicts pod t2 := countP_append

theorem conflicts_cons_ok (pod : String) (h : isConflict pod e = false) (t : Trace) :
    conflicts pod (e :: t) = conflicts pod t :=
  countP_cons_of_neg (by simp [h])

theorem conflicts_cons_patch (cur : Pod) (toRole : String) {e : Error}
    (h : e.reason = .conflict) (t : Trace) :
    conflicts cur.name (⟨patchRole cur toRole, .error e⟩ :: t) = conflicts cur.name t + 1 :=
  countP_cons_of_pos (by simp [isConflict, patchRole, h])

theorem conflicts_off {pod : String} (h : ∀ e ∈ t, OffPod pod e.req) : conflicts pod t = 0 := by
  refine countP_eq_zero.2 fun e he => ?_
  have hoff := h e he
  obtain ⟨q, r⟩ := e
  cases q with
  | patchPodRole ns n rv role =>
    have hn : n ≠ pod := hoff
    cases r with
    | ok p => simp [isConflict]
    | error e => simp [isConflict, hn]
  | _ => simp [isConflict]

/-- After the attempts on a pod whose label is to change: a conflict in every attempt, and the label
as before; or fewer conflicts and, without an error, the new label or a pod that is gone. -/
theorem RoleRun.outcome {cur p : Pod} (h : RoleRun toRole n cur t p err) {s : LabelStore}
    (hadm : labelWorld.Admits s t) (hs : s cur.name = some cur.role) (hrole : cur.role ≠ toRole) :
    (conflicts cur.name t = n ∧ labelWorld.after s t cur.name = some cur.role) ∨
    (conflicts cur.name t < n ∧ (err = none →
      labelWorld.after s t cur.name = some toRole ∨ labelWorld.after s t cur.name = none)) := by
  induction h generalizing s with
  | idle cur => exact .inl ⟨rfl, hs⟩
  | kept hk => exact (hrole hk).elim
  | patched pod _ =>
    refine .inr ⟨?_, fun _ => .inl (Function.update_self _ _ _)⟩
    rw [conflicts_cons_ok _ rfl]
    exact Nat.succ_pos _
  | @failed n cur e e' _ hc =>
    refine .inr ⟨?_, fun h => by cases h⟩
    rw [conflicts_cons_ok _ (by simp [isConflict, patchRole, hc])]
    exact Nat.succ_pos _
  | @exhausted cur e _ hc =>
    refine .inl ⟨conflicts_cons_patch cur toRole hc [], ?_⟩
    simp [labelWorld, patchRole, hc, hs]
  | @gone n cur e f _ hc hf =>
    refine .inr ⟨?_, fun _ => .inr ?_⟩
    · rw [conflicts_cons_patch cur toRole hc, conflicts_cons_ok _ rfl, conflicts_nil]
      omega
    · simp [labelWorld, patchRole, hc, hf]
  | @unread n cur e f e' _ hc =>
    refine .inr ⟨?_, fun h => by cases h⟩
    rw [conflicts_cons_patch cur toRole hc, conflicts_cons_ok _ rfl, conflicts_nil]
    omega
  | @retried n cur pod p e t err _ hc _ ih =>
    -- the conflict and the read leave the store, and the read shows the stored label
    have hstep : labelWorld.step s ⟨patchRole cur toRole, .error e⟩ = s := by
      simp [labelWorld, patchRole, hc]
    obtain ⟨-, hread, htail⟩ := hadm
    rw [hstep] at hread htail
    obtain ⟨hname, hlabel⟩ : pod.name = cur.name ∧ s cur.name = some pod.role := hread
    have hsame : pod.role = cur.role := Option.some.inj (hlabel.symm.trans hs)
    have htail' : labelWorld.Admits s t := htail
    have hrest := ih htail' (by rw [hname, hlabel]) (hsame ▸ hrole)
    rw [hname, hsame] at hrest
    rw [conflicts_cons_patch cur toRole hc, conflicts_cons_ok _ rfl, labelWorld.after_cons, hstep,
      labelWorld.after_cons]
    refine hrest.imp (fun ⟨hn, hl⟩ => ⟨?_, hl⟩) fun ⟨hn, hl⟩ => ⟨?_, hl⟩
    all_goals omega

/-- The event is a failed patch. -/
def PatchFailed : Event Op → Prop
  | ⟨.patchPodRole .., .error _⟩ => True
  | _ => False

theorem RoleRun.patchFailed {cur p : Pod} (h : RoleRun toRole n cur t p err) (herr : err ≠ none) :
    ∃ e ∈ t, PatchFailed e := by
  cases h with
  | idle => exact (herr rfl).elim
  | kept _ => exact (herr rfl).elim
  | patched _ _ => exact (herr rfl).elim
  | exhausted _ _ => exact (herr rfl).elim
  | gone _ _ _ => exact (herr rfl).elim
  | failed _ _ _ => exact ⟨_, .head _, trivial⟩
  | unread _ _ _ => exact ⟨_, .head _, trivial⟩
  | retried _ _ _ => exact ⟨_, .head _, trivial⟩

theorem conflicts_patchFailed {pod : String} (h : 0 < conflicts pod t) :
    ∃ e ∈ t, PatchFailed e := by
  obtain ⟨⟨q, r⟩, he, hc⟩ := countP_pos_iff.1 h
  refine ⟨_, he, ?_⟩
  cases q with
  | patchPodRole ns n rv role =>
    cases r with
    | ok p => cases hc
    | error e => trivial
  | _ => cases hc

/-! ## The pods to change -/

/-- The role that the pod is to have. -/
def wantRole (master : String) (p : Pod) : String :=
  if p.name = master then PodRole.master.str else PodRole.replica.str

theorem wantRole_master : wantRole master p = PodRole.master.str ↔ p.name = master := by
  unfold wantRole
  split
  · simp [*]
  · simp [*, PodRole.str]

theorem wantRole_replica (h : p.name ≠ master) : wantRole master p = PodRole.replica.str := if_neg h

theorem updatePodRoleLabels_getElem? (pods : List Pod) (master : String) (i : Nat) :
    ((Replication.updatePodRoleLabels pods master)[i]?).map Pod.role =
      (pods[i]?).map (wantRole master) := by
  unfold Replication.updatePodRoleLabels
  simp only [getElem?_map, Option.map_map]
  congr 1
  funext p
  by_cases hp : p.name = master
  · simp [hp, wantRole]
  · by_cases hm : p.role = PodRole.master.str
    · simp [hp, hm, wantRole]
    · simp [hp, hm, wantRole]

/-- The pods to change are those with another label than they should have; the demotions are those
that lose the label master. -/
theorem mem_labelIdxs {d : Bool} :
    x ∈ labelIdxs d pods (Replication.updatePodRoleLabels pods master) ↔
      ∃ p, pods[x.1]? = some p ∧ x.2 = wantRole master p ∧ p.role ≠ wantRole master p ∧
        (d = true ↔ p.role = PodRole.master.str ∧ p.name ≠ master) := by
  obtain ⟨i, r⟩ := x
  have hwant := updatePodRoleLabels_getElem? pods master i
  simp only [labelIdxs, mem_map, mem_filter, Prod.mk.injEq, Prod.exists,
    mk_mem_zipIdx_iff_getElem?, getElem?_zip_eq_some]
  -- the condition of the source on the two labels, in terms of the label wanted
  have hcond : ∀ p w : Pod, w.role = wantRole master p →
      ((decide (p.role ≠ w.role) && (d == (decide (p.role = PodRole.master.str) &&
        decide (w.role ≠ PodRole.master.str)))) = true ↔ p.role ≠ wantRole master p ∧
        (d = true ↔ p.role = PodRole.master.str ∧ p.name ≠ master)) := by
    intro p w hw
    have hn : p.name ≠ master ↔ wantRole master p ≠ PodRole.master.str :=
      wantRole_master.not.symm
    rw [hw, hn]
    cases d <;> simp [imp_iff_not_or]
  constructor
  · rintro ⟨p, w, j, ⟨⟨hp, hw⟩, hc⟩, rfl, rfl⟩
    rw [hp, hw] at hwant
    have hrole : w.role = wantRole master p := Option.some.inj hwant
    exact ⟨p, hp, hrole, (hcond p w hrole).1 hc⟩
  · rintro ⟨p, hp, rfl, hc⟩
    rw [hp] at hwant
    obtain ⟨w, hw, hrole⟩ := Option.map_eq_some_iff.1 hwant
    exact ⟨p, w, i, ⟨⟨hp, hw⟩, (hcond p w hrole).2 hc⟩, rfl, hrole⟩

theorem labelIdxs_nodup (d : Bool) (pods desiredPods : List Pod) :
    (labelIdxs d pods desiredPods).Nodup := by
  refine List.Nodup.of_map Prod.fst ?_
  rw [labelIdxs, map_map]
  refine List.Nodup.sublist (filter_sublist.map _) ?_
  have hsnd : (Prod.fst ∘ fun x : (Pod × Pod) × Nat => (x.2, x.1.2.role)) = Prod.snd := rfl
  rw [hsnd, zipIdx_map_snd]
  exact nodup_range'

theorem labelIdxs_demote {i : Nat} (hnd : (pods.map Pod.name).Nodup) (hp : pods[i]? = some p)
    (hrole : p.role = PodRole.master.str) (hne : p.name ≠ master)
    (hone : ∀ q ∈ pods, q.role = PodRole.master.str → q.name = p.name) :
    labelIdxs true pods (Replication.updatePodRoleLabels pods master) =
      [(i, PodRole.replica.str)] := by
  set l := labelIdxs true pods (Replication.updatePodRoleLabels pods master) with hl
  have hmem : (i, PodRole.replica.str) ∈ l := by
    rw [hl, mem_labelIdxs]
    have hw := wantRole_replica hne
    refine ⟨p, hp, hw.symm, ?_, fun _ => ⟨hrole, hne⟩, fun _ => rfl⟩
    rw [hw, hrole]
    decide
  have hall : ∀ x ∈ l, x = (i, PodRole.replica.str) := by
    rintro ⟨j, r⟩ hx
    obtain ⟨q, hq, rfl, -, hd⟩ := mem_labelIdxs.1 hx
    obtain ⟨hqm, hqne⟩ := hd.1 rfl
    have hname : (pods.map Pod.name)[j]? = (pods.map Pod.name)[i]? := by
      rw [getElem?_map, getElem?_map, hq, hp]
      exact congrArg some (hone q (mem_of_getElem? hq) hqm)
    have hj : j < (pods.map Pod.name).length := by
      rw [length_map]
      exact (List.getElem?_eq_some_iff.1 hq).1
    have hij : j = i := (getElem?_inj hj hnd).1 hname
    rw [hij, wantRole_replica hqne]
  have hrep := eq_replicate_of_mem hall
  have hlen : l.length = 1 := by
    have hl' : l.Nodup := labelIdxs_nodup _ _ _
    rw [hrep] at hl'
    have hle := nodup_replicate.1 hl'
    have hpos := length_pos_of_mem hmem
    omega
  rw [hrep, hlen]
  rfl

/-! ## The phase -/

/-- The event gives a pod its role, or none. -/
def Aligned (pods : List Pod) (master : String) (P : Pod → Prop) (e : Event Op) : Prop :=
  (∃ p ∈ pods, P p ∧ RoleReq p.name (wantRole master p) e.req) ∨ RoleQuiet e.req

theorem applyAt_run {s : LabelState} (h : (applyAt s x).Runs t o) :
    (s.pods[x.1]? = none ∧ t = [] ∧ o = (s, none)) ∨
      ∃ cur p, s.pods[x.1]? = some cur ∧ o.1.pods = s.pods.set x.1 p ∧
        RoleRun x.2 podLabelPatchMaxAttempts cur t p o.2 := by
  unfold applyAt at h
  cases hp : s.pods[x.1]? with
  | none =>
    rw [hp] at h
    obtain ⟨rfl, rfl⟩ := runs_ret.1 h
    exact .inl ⟨rfl, rfl, rfl⟩
  | some cur =>
    rw [hp] at h
    obtain ⟨t1, a, t2, rfl, h1, h2⟩ := runs_bind.1 h
    obtain ⟨rfl, rfl⟩ := runs_ret.1 h2
    rw [append_nil]
    exact .inr ⟨cur, a.pod, rfl, rfl, applyRole_run h1⟩

theorem applyAt_names {s : LabelState} (h : (applyAt s x).Runs t o) (hsame : ∀ e ∈ t, SamePod e) :
    o.1.pods.map Pod.name = s.pods.map Pod.name := by
  rcases applyAt_run h with ⟨-, -, rfl⟩ | ⟨cur, p, hcur, hset, hrole⟩
  · rfl
  · have hcur' : (s.pods.map Pod.name)[x.1]? = some cur.name := by
      rw [getElem?_map, hcur]
      rfl
    obtain ⟨hlt, hget⟩ := List.getElem?_eq_some_iff.1 hcur'
    rw [hset, map_set, (hrole.roleReq hsame).1, ← hget, set_getElem_self]

theorem applyAt_aligned {xs : List (Nat × String)} {s : LabelState}
    (hxs : ∀ x ∈ xs, ∃ p, pods[x.1]? = some p ∧ x.2 = wantRole master p ∧ P p)
    (h : (Prog.forErr applyAt xs s).Runs t o) (hs : s.pods.map Pod.name = pods.map Pod.name)
    (hsame : ∀ e ∈ t, SamePod e) : ∀ e ∈ t, Aligned pods master P e := by
  refine (h.forErr_events (I := fun s => s.pods.map Pod.name = pods.map Pod.name) (R := SamePod)
    hs hsame ?_).2
  intro x hx s t o hs hsame hrun
  refine ⟨(applyAt_names hrun hsame).trans hs, ?_⟩
  obtain ⟨p, hp, hrole, hP⟩ := hxs x hx
  rcases applyAt_run hrun with ⟨-, rfl, -⟩ | ⟨cur, p', hcur, -, hrole'⟩
  · exact forall_mem_nil _
  · have hname : cur.name = p.name := by
      have hget : (s.pods.map Pod.name)[x.1]? = (pods.map Pod.name)[x.1]? := by rw [hs]
      rw [getElem?_map, getElem?_map, hcur, hp] at hget
      exact Option.some.inj hget
    intro e he
    refine .inl ⟨p, mem_of_getElem? hp, hP, ?_⟩
    rw [← hname, ← hrole]
    exact (hrole'.roleReq hsame).2 e he

theorem applyAt_demote {st : LabelState} {i : Nat} {s : LabelStore}
    (h : (applyAt st (i, PodRole.replica.str)).Runs t o) (hp : st.pods[i]? = some p)
    (hadm : labelWorld.Admits s t) (hs : s p.name = some p.role)
    (hrole : p.role = PodRole.master.str) :
    (∀ e ∈ t, RoleReq p.name PodRole.replica.str e.req) ∧
      ((conflicts p.name t = podLabelPatchMaxAttempts ∧
          labelWorld.after s t p.name = some PodRole.master.str) ∨
        conflicts p.name t < podLabelPatchMaxAttempts ∧ (o.2 = none →
          labelWorld.after s t p.name ≠ some PodRole.master.str)) := by
  have hsame := hadm.mem labelWorld labelWorld_samePod
  rcases applyAt_run h with ⟨hnone, -⟩ | ⟨cur, p', hcur, -, hrun⟩
  · rw [hp] at hnone
    cases hnone
  · obtain rfl : p = cur := Option.some.inj (hp.symm.trans hcur)
    refine ⟨(hrun.roleReq hsame).2, ?_⟩
    have hne : p.role ≠ PodRole.replica.str := by
      rw [hrole]
      decide
    rcases hrun.outcome hadm hs hne with ⟨hn, hl⟩ | ⟨hn, hl⟩
    · exact .inl ⟨hn, by rw [hl, hrole]⟩
    · refine .inr ⟨hn, fun herr => ?_⟩
      rcases hl herr with hl | hl
      · rw [hl]
        show some PodRole.replica.str ≠ some PodRole.master.str
        decide
      · rw [hl]
        exact (Option.some_ne_none _).symm

theorem labels_run {st : State} {o : State × Option Error}
    (h : (labels st).Runs t o) : ∃ s t1 t2, t = t1 ++ t2 ∧
      (Prog.forErr applyAt
        (labelIdxs true st.redisPods
            (Replication.updatePodRoleLabels st.redisPods st.runtime.master) ++
          labelIdxs false st.redisPods
            (Replication.updatePodRoleLabels st.redisPods st.runtime.master))
        ⟨st.redisPods, st.accumulator, 0⟩).Runs t1 (s, o.2) ∧
      (∀ e ∈ t2, RoleQuiet e.req) ∧ (o.2 ≠ none → t2 = []) ∧
      o.1 = { st with redisPods := s.pods, accumulator := s.accumulator } := by
  unfold labels at h
  by_cases hnil : st.redisPods = []
  · simp only [if_pos hnil, pure_eq] at h
    obtain ⟨rfl, rfl⟩ := runs_ret.1 h
    exact ⟨⟨st.redisPods, st.accumulator, 0⟩, [], [], rfl, by rw [hnil]; exact .ret _,
      forall_mem_nil _, fun _ => rfl, rfl⟩
  simp only [if_neg hnil, bind_eq, pure_eq, ask_eq] at h
  obtain ⟨t1, ⟨s, err⟩, t2, rfl, h1, h2⟩ := runs_bind.1 h
  cases err with
  | some e =>
    obtain ⟨rfl, rfl⟩ := runs_ret.1 h2
    exact ⟨s, t1, [], rfl, h1, forall_mem_nil _, fun _ => rfl, rfl⟩
  | none =>
    by_cases hc : 0 < s.changes
    · simp only [if_pos hc, call_bind, ret_bind] at h2
      obtain ⟨r, t3, rfl, h3⟩ := runs_call.1 h2
      obtain ⟨rfl, rfl⟩ := runs_ret.1 h3
      refine ⟨s, t1, _, rfl, h1, forall_mem_singleton.2 trivial, fun h => (h rfl).elim, rfl⟩
    · simp only [if_neg hc] at h2
      obtain ⟨rfl, rfl⟩ := runs_ret.1 h2
      exact ⟨s, t1, [], rfl, h1, forall_mem_nil _, fun _ => rfl, rfl⟩

section
variable {st : State} {o : State × Option Error} {s : LabelStore}

theorem labels_aligned (h : (labels st).Runs t o) (hsame : ∀ e ∈ t, SamePod e) :
    ∀ e ∈ t, Aligned st.redisPods st.runtime.master
      (fun p => p.role ≠ wantRole st.runtime.master p) e := by
  obtain ⟨s, t1, t2, rfl, h1, h2, -, -⟩ := labels_run h
  rw [forall_mem_append] at hsame ⊢
  refine ⟨applyAt_aligned (fun x hx => ?_) h1 rfl hsame.1, fun e he => .inr (h2 e he)⟩
  rcases mem_append.1 hx with hx | hx
  all_goals
    obtain ⟨p, hp, hrole, hne, -⟩ := mem_labelIdxs.1 hx
    exact ⟨p, hp, hrole, hne⟩

theorem labels_patchFailed (h : (labels st).Runs t o) (herr : o.2 ≠ none) :
    ∃ e ∈ t, PatchFailed e := by
  obtain ⟨s, t1, t2, rfl, h1, -⟩ := labels_run h
  obtain ⟨e, he⟩ := Option.ne_none_iff_exists'.1 herr
  rw [he] at h1
  obtain ⟨x, -, s1, u1, u2, rfl, hx⟩ := h1.forErr_error
  rcases applyAt_run hx with ⟨-, -, hcontra⟩ | ⟨cur, p, -, -, hrun⟩
  · cases hcontra
  · obtain ⟨ev, hev, hf⟩ := hrun.patchFailed (Option.some_ne_none e)
    exact ⟨ev, mem_append_left _ (mem_append_right _ hev), hf⟩

theorem Aligned.offPod {master pod : String} (h : Aligned pods master P e)
    (hP : ∀ p ∈ pods, P p → p.name ≠ pod) : OffPod pod e.req := by
  rcases h with ⟨p, hp, hPp, hreq⟩ | hq
  · exact hreq.offPod (Ne.symm (hP p hp hPp))
  · exact hq.offPod pod

theorem Aligned.setsMaster {master pod : String} (h : Aligned pods master P e)
    (hset : SetsRole pod PodRole.master.str e) : pod = master ∧ ∃ p ∈ pods, p.name = master := by
  obtain ⟨q, r⟩ := e
  cases q with
  | patchPodRole ns n rv role =>
    cases r with
    | error e => exact hset.elim
    | ok pod' =>
      obtain ⟨rfl, rfl⟩ : n = pod ∧ role = PodRole.master.str := hset
      rcases h with ⟨p, hp, -, hname, hrole⟩ | hq
      · have hm := wantRole_master.1 hrole.symm
        exact ⟨hname.trans hm, p, hp, hm⟩
      · exact hq.elim
  | _ => exact hset.elim

/-- The run of the phase seen from a pod that is to lose the label master, the only one labelled so:
first its own attempts, and then requests about other pods, unless the attempts failed. -/
theorem labels_demoted (h : (labels st).Runs t o) (hadm : labelWorld.Admits s t)
    (hnd : (st.redisPods.map Pod.name).Nodup) (hp : p ∈ st.redisPods) (hs : s p.name = some p.role)
    (hrole : p.role = PodRole.master.str) (hne : p.name ≠ st.runtime.master)
    (hone : ∀ q ∈ st.redisPods, q.role = PodRole.master.str → q.name = p.name) :
    ∃ t1 t2, t = t1 ++ t2 ∧ (∀ e ∈ t1, RoleReq p.name PodRole.replica.str e.req) ∧
      (∀ e ∈ t2, OffPod p.name e.req) ∧
      ((conflicts p.name t1 = podLabelPatchMaxAttempts ∧
          labelWorld.after s t1 p.name = some PodRole.master.str) ∨
        conflicts p.name t1 < podLabelPatchMaxAttempts ∧
          (t2 = [] ∧ o.2 ≠ none ∨ labelWorld.after s t1 p.name ≠ some PodRole.master.str)) := by
  have hsame := hadm.mem labelWorld labelWorld_samePod
  obtain ⟨i, hi⟩ := mem_iff_getElem?.1 hp
  obtain ⟨s', u, u', rfl, hloop, hquiet, herr, -⟩ := labels_run h
  rw [labelIdxs_demote hnd hi hrole hne hone, singleton_append] at hloop
  rw [forall_mem_append] at hsame
  rw [labelWorld.admits_append] at hadm
  rcases runs_forErr_cons.1 hloop with ⟨e, he, hp'⟩ | ⟨t1, s1, t2, rfl, hp', hrest⟩
  · -- the attempts end with an error, and so does the phase
    obtain ⟨hreq, hout⟩ := applyAt_demote hp' hi hadm.1 hs hrole
    have hne : o.2 ≠ none := by
      rw [he]
      exact Option.some_ne_none _
    obtain rfl : u' = [] := herr hne
    refine ⟨u, [], rfl, hreq, forall_mem_nil _, hout.imp_right fun h => ⟨h.1, .inl ⟨rfl, hne⟩⟩⟩
  · rw [labelWorld.admits_append] at hadm
    obtain ⟨hreq, hout⟩ := applyAt_demote hp' hi hadm.1.1 hs hrole
    rw [forall_mem_append] at hsame
    refine ⟨t1, t2 ++ u', append_assoc _ _ _, hreq, ?_,
      hout.imp_right fun h => ⟨h.1, .inr (h.2 rfl)⟩⟩
    rw [forall_mem_append]
    refine ⟨fun e he => ?_, fun e he => (hquiet e he).offPod _⟩
    -- the pods of the other loop are not labelled master and to be demoted, so they are others
    have hal : ∀ e ∈ t2, Aligned st.redisPods st.runtime.master
        (fun q => ¬ (q.role = PodRole.master.str ∧ q.name ≠ st.runtime.master)) e := by
      refine applyAt_aligned (fun x hx => ?_) hrest (applyAt_names hp' hsame.1.1) hsame.1.2
      obtain ⟨q, hq, hqrole, -, hd⟩ := mem_labelIdxs.1 hx
      exact ⟨q, hq, hqrole, fun hdem => Bool.false_ne_true (hd.2 hdem)⟩
    refine (hal e he).offPod fun q hq hqP heq => hqP ?_
    obtain rfl : q = p := inj_on_of_nodup_map hnd hq hp heq
    exact ⟨hrole, hne⟩

/-! ## At most one master -/

/-- At most one of the pods carries the label master in the store. -/
def AtMostOneMaster (pods : List Pod) (s : LabelStore) : Prop :=
  ∀ p ∈ pods, ∀ q ∈ pods, s p.name = some PodRole.master.str →
    s q.name = some PodRole.master.str → p.name = q.name

instance (pods : List Pod) (s : LabelStore) : Decidable (AtMostOneMaster pods s) :=
  inferInstanceAs (Decidable (∀ p ∈ pods, ∀ q ∈ pods, _ → _ → _))

/-- A pod that is to lose the label master meets a conflict in every attempt, and the patch that
gives the label to the designated master succeeds. -/
def Overtaken (st : State) (t : Trace) : Prop :=
  (∃ p ∈ st.redisPods, p.name ≠ st.runtime.master ∧ p.role = PodRole.master.str ∧
    conflicts p.name t = podLabelPatchMaxAttempts) ∧
  ∃ e ∈ t, SetsRole st.runtime.master PodRole.master.str e

theorem overtaken_two (hnd : (st.redisPods.map Pod.name).Nodup)
    (hs : ∀ p ∈ st.redisPods, s p.name = some p.role) (hone : AtMostOneMaster st.redisPods s)
    (h : (labels st).Runs t o) (hadm : labelWorld.Admits s t) (hov : Overtaken st t) :
    ∃ t', t' <+: t ∧ ¬ AtMostOneMaster st.redisPods (labelWorld.after s t') := by
  obtain ⟨⟨p, hp, hne, hrole, hconf⟩, e, he, hset⟩ := hov
  have hsame := hadm.mem labelWorld labelWorld_samePod
  obtain ⟨-, m, hm, hmname⟩ := (labels_aligned h hsame e he).setsMaster hset
  have hone' : ∀ q ∈ st.redisPods, q.role = PodRole.master.str → q.name = p.name :=
    fun q hq hqr => hone q hq p hp (by rw [hs q hq, hqr]) (by rw [hs p hp, hrole])
  obtain ⟨t1, t2, rfl, hreq, hoff, hout⟩ := labels_demoted h hadm hnd hp (hs p hp) hrole hne hone'
  rw [conflicts_append, conflicts_off hoff, Nat.add_zero] at hconf
  have hmaster : labelWorld.after s t1 p.name = some PodRole.master.str := by
    rcases hout with ⟨-, hl⟩ | ⟨hlt, -⟩
    · exact hl
    · omega
  -- the promotion is not among the attempts on `p`
  have he2 : e ∈ t2 := (mem_append.1 he).resolve_left fun he1 =>
    ((hreq e he1).offPod (Ne.symm hne)).not_setsRole hset
  obtain ⟨a, b, rfl⟩ := append_of_mem he2
  rw [forall_mem_append, forall_mem_cons] at hoff
  refine ⟨t1 ++ (a ++ [e]), ⟨b, by simp⟩, fun hone => hne ?_⟩
  rw [labelWorld.after_append, labelWorld.after_append] at hone
  rw [hone p hp m hm ?_ ?_, hmname]
  · have hlast : ∀ e' ∈ [e], OffPod p.name e'.req := forall_mem_singleton.2 hoff.2.1
    rw [labelWorld_after_off _ hlast, labelWorld_after_off _ hoff.1, hmaster]
  · rw [hmname]
    exact labelWorld_step_sets hset

theorem labels_master (hs : ∀ p ∈ st.redisPods, s p.name = some p.role) (h : (labels st).Runs t o)
    (hadm : labelWorld.Admits s t) {t' : Trace} (ht' : t' <+: t) (hp : p ∈ st.redisPods)
    (hmaster : labelWorld.after s t' p.name = some PodRole.master.str) :
    p.role = PodRole.master.str ∨
      p.name = st.runtime.master ∧ ∃ e ∈ t', SetsRole st.runtime.master PodRole.master.str e := by
  rcases labelWorld_gained hmaster with hbefore | ⟨e, he, hset⟩
  · rw [hs p hp] at hbefore
    exact .inl (Option.some.inj hbefore)
  · have hsame := hadm.mem labelWorld labelWorld_samePod
    have hname := ((labels_aligned h hsame e (ht'.subset he)).setsMaster hset).1
    exact .inr ⟨hname, e, he, hname ▸ hset⟩

theorem not_overtaken_one (hnd : (st.redisPods.map Pod.name).Nodup)
    (hs : ∀ p ∈ st.redisPods, s p.name = some p.role) (hone : AtMostOneMaster st.redisPods s)
    (h : (labels st).Runs t o) (hadm : labelWorld.Admits s t) (hov : ¬ Overtaken st t)
    {t' : Trace} (ht' : t' <+: t) (hp : p ∈ st.redisPods)
    (hrole : p.role = PodRole.master.str) (hne : p.name ≠ st.runtime.master)
    (hset : ∃ e ∈ t', SetsRole st.runtime.master PodRole.master.str e) :
    labelWorld.after s t' p.name ≠ some PodRole.master.str := by
  have hone' : ∀ q ∈ st.redisPods, q.role = PodRole.master.str → q.name = p.name :=
    fun q hq hqr => hone q hq p hp (by rw [hs q hq, hqr]) (by rw [hs p hp, hrole])
  obtain ⟨t1, t2, rfl, hreq, hoff, hout⟩ := labels_demoted h hadm hnd hp (hs p hp) hrole hne hone'
  obtain ⟨e, he, hset⟩ := hset
  -- `t'` goes beyond the attempts on `p`, since it has the promotion
  have hnot : ¬ t' <+: t1 := fun hpre =>
    ((hreq e (hpre.subset he)).offPod (Ne.symm hne)).not_setsRole hset
  obtain ⟨u, rfl⟩ : t1 <+: t' :=
    (List.prefix_or_prefix_of_prefix ht' (prefix_append t1 t2)).resolve_left hnot
  have hu : u <+: t2 := (prefix_append_right_inj t1).1 ht'
  rw [labelWorld.after_append, labelWorld_after_off _ fun e he => hoff e (hu.subset he)]
  rcases hout with ⟨hconf, -⟩ | ⟨-, ⟨rfl, -⟩ | hl⟩
  · refine (hov ⟨⟨p, hp, hne, hrole, ?_⟩, e, ht'.subset he, hset⟩).elim
    rw [conflicts_append, conflicts_off hoff, hconf, Nat.add_zero]
  · rw [prefix_nil.1 hu, append_nil] at hnot
    exact (hnot prefix_rfl).elim
  · exact hl

/-- **At most one listed pod carries the label master after every part of the run, unless a pod that
is to lose it meets a conflict in every attempt and the promotion then succeeds.** -/
theorem labels_atMostOne_iff (hnd : (st.redisPods.map Pod.name).Nodup)
    (hs : ∀ p ∈ st.redisPods, s p.name = some p.role) (hone : AtMostOneMaster st.redisPods s)
    (h : (labels st).Runs t o) (hadm : labelWorld.Admits s t) :
    (∀ t', t' <+: t → AtMostOneMaster st.redisPods (labelWorld.after s t')) ↔ ¬ Overtaken st t := by
  constructor
  · intro hall hov
    obtain ⟨t', ht', htwo⟩ := overtaken_two hnd hs hone h hadm hov
    exact htwo (hall t' ht')
  · intro hov t' ht' p hp q hq hpm hqm
    by_contra hpq
    -- one of the two had the label before, and the other is the designated master
    rcases labels_master hs h hadm ht' hp hpm with hprole | ⟨hpname, hset⟩
    · rcases labels_master hs h hadm ht' hq hqm with hqrole | ⟨hqname, hset⟩
      · exact hpq (hone p hp q hq (by rw [hs p hp, hprole]) (by rw [hs q hq, hqrole]))
      · exact not_overtaken_one hnd hs hone h hadm hov ht' hp hprole (hqname ▸ hpq) hset hpm
    · rcases labels_master hs h hadm ht' hq hqm with hqrole | ⟨hqname, -⟩
      · have hqne : q.name ≠ st.runtime.master := hpname ▸ Ne.symm hpq
        exact not_overtaken_one hnd hs hone h hadm hov ht' hq hqrole hqne hset hqm
      · exact hpq (hpname.trans hqname.symm)

end

/-! ### Moving the label from `a-0` to `a-1` -/

/-- A pod with this role. -/
def podA (name role : String) : Pod := Pod.setRole { name, ns := "prod" } role

/-- Labels from before a switch to a-1. -/
def stateA : State where
  cluster := clusterA
  redisPods := [podA "a-0" "master", podA "a-1" "replica"]
  runtime := { master := "a-1" }

/-- The labels as stored. -/
def labelsA : LabelStore := fun pod =>
  if pod = "a-0" then some "master" else if pod = "a-1" then some "replica" else none

/-- An API server that answers from the stored labels, with a conflict on every patch of a pod in
`busy`. -/
def contended (busy : List String) (s : LabelStore) : Replies
  | .patchPodRole _ name _ role =>
    if (s name).isNone then .error { msg := "not found", reason := .notFound }
    else if name ∈ busy then .error { msg := "conflict", reason := .conflict }
    else .ok (podA name role)
  | .getPod _ name =>
    match s name with
    | none => .error { msg := "not found", reason := .notFound }
    | some role => .ok (podA name role)
  | q => q.unavailable

theorem contended_ok (busy : List String) (s : LabelStore) (q : Req) :
    labelWorld.ok s ⟨q, contended busy s q⟩ := by
  cases q with
  | patchPodRole ns name rv role =>
    unfold contended
    by_cases hn : (s name).isNone
    · simp only [if_pos hn]
      trivial
    · by_cases hb : name ∈ busy
      · simp only [if_neg hn, if_pos hb]
        trivial
      · simp only [if_neg hn, if_neg hb]
        exact ⟨fun h => hn (by rw [h]; rfl), rfl, Pod.setRole_role _ _⟩
  | getPod ns name =>
    unfold contended
    cases h : s name with
    | none =>
      simp only [h]
      trivial
    | some role =>
      simp only [h]
      exact ⟨rfl, by rw [h, podA, Pod.setRole_role]⟩
  | _ => trivial

theorem labels_atMostOne_a1 :
    labelWorld.after labelsA (labelWorld.play (contended []) labelsA (labels stateA)).1 "a-1" =
        some "master" ∧
      ∀ t', t' <+: (labelWorld.play (contended []) labelsA (labels stateA)).1 →
        AtMostOneMaster stateA.redisPods (labelWorld.after labelsA t') := by
  have hconf : ∀ p ∈ stateA.redisPods, conflicts p.name
      (labelWorld.play (contended []) labelsA (labels stateA)).1 ≠ podLabelPatchMaxAttempts := by
    decide
  refine ⟨by decide, (labels_atMostOne_iff (by decide) (by decide) (by decide)
    (World.runs_play (W := labelWorld) labelsA (labels stateA))
    (World.admits_play (W := labelWorld) (contended_ok []) labelsA (labels stateA))).2 ?_⟩
  rintro ⟨⟨p, hp, -, -, hc⟩, -⟩
  exact hconf p hp hc

/-- Three conflicts on the demotion of `a-0`, and then the promotion of `a-1`: both carry the label
master. -/
theorem labels_a0_and_a1_master : AtMostOneMaster stateA.redisPods labelsA ∧
    (∀ p ∈ stateA.redisPods, labelsA p.name = some p.role) ∧
    ∃ t o, (labels stateA).Runs t o ∧ labelWorld.Admits labelsA t ∧ o.2 = none ∧
      labelWorld.after labelsA t "a-0" = some "master" ∧
      labelWorld.after labelsA t "a-1" = some "master" ∧
      ¬ AtMostOneMaster stateA.redisPods (labelWorld.after labelsA t) := by
  refine ⟨by decide, by decide, _, _,
    World.runs_play (W := labelWorld) labelsA (labels stateA),
    World.admits_play (W := labelWorld) (contended_ok ["a-0"]) labelsA (labels stateA),
    by decide, by decide, by decide, by decide⟩

end Keyval.Phases
