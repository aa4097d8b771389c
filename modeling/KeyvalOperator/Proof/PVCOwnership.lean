import KeyvalOperator.Ops.Storage
import KeyvalOperator.Api.PVCStore

/-!
# Ownership of volume claims

When do the operations of a cluster `a` leave the claims of another cluster `b` alone?

* `prefix_dash_iff`: the name test of `pvcBelongsToCluster` accepts a claim of `b` exactly when
  `b`'s name extends `a`'s with a dash.
* `cleanupPVCs_touches`, `ensureResize_touches`: both operations change only claims of the cluster.
* `pvcIsolated_iff`: the claims of `b` are safe from `a` unless `b`'s name does so.
-/

namespace Keyval.Storage

open Go Interact Interact.Prog List

variable {t : Trace} {cr : KeyValCluster} {ns name : String} {s : PVCStore} {e : Event Op}

/-- A claim of the StatefulSet of `b` for the ordinal `n`: name, labels and owner of `b`. -/
structure PVCOf (b : KeyValCluster) (n : Nat) (pvc : PersistentVolumeClaim) : Prop where
  name : pvc.name = dataPVCName (b.name ++ "-" ++ toString n)
  ns : pvc.ns = b.ns
  app : Map.str pvc.labels labelAppKey = appLabel b
  cluster : Map.str pvc.labels labelClusterKey = b.name
  owned : ⟨"StatefulSet", b.name⟩ ∈ pvc.ownerReferences
  owners : ∀ o ∈ pvc.ownerReferences, o.kind = "StatefulSet" → o.name = b.name

/-- The request deletes or patches the claim `ns/name`. -/
def Touches (ns name : String) : Req → Prop
  | .deletePVC ns' name' => ns' = ns ∧ name' = name
  | .patchPVC base _ => base.ns = ns ∧ base.name = name
  | _ => False

/-- The claims of `b` are not claims of `a`, and no run of `a`'s cleanup or resize, from any
store, deletes or patches one. -/
def PVCIsolated (F : Formats) (a b : KeyValCluster) : Prop :=
  (∀ n pvc, PVCOf b n pvc → pvcBelongsToCluster a pvc = false) ∧
  ∀ (s : PVCStore) (n : Nat) (pvc : PersistentVolumeClaim), PVCOf b n pvc →
    s.get pvc.ns pvc.name = some pvc →
    (∀ limit t r, (cleanupPVCs a limit).Runs t r → pvcWorld.Admits s t →
      ∀ e ∈ t, ¬ Touches pvc.ns pvc.name e.req) ∧
    (∀ pods t r, (ensureResize F a pods).Runs t r → pvcWorld.Admits s t →
      ∀ e ∈ t, ¬ Touches pvc.ns pvc.name e.req)

/-! ## Names -/

/-- A name with a dash at its end starts another name, a dash and a text without dashes only
where it starts the other name already. -/
theorem prefix_dash_iff {A B D : List Char} (hne : A ≠ B) (hD : '-' ∉ D) :
    A ++ ['-'] <+: B ++ '-' :: D ↔ A ++ ['-'] <+: B := by
  constructor
  · intro h
    by_cases hlen : (A ++ ['-']).length ≤ B.length
    · exact prefix_of_prefix_length_le h (prefix_append _ _) hlen
    -- otherwise the whole of `B` and its dash lie inside `A ++ "-"`
    exfalso
    obtain ⟨C, hC⟩ := prefix_of_prefix_length_le (prefix_append B _) h (by omega)
    rw [← hC, prefix_append_right_inj] at h
    cases C with
    | nil =>
      rw [append_nil] at hC
      exact hlen (by rw [hC])
    | cons c C' =>
      obtain ⟨rfl, hC'⟩ := cons_prefix_cons.1 h
      rcases eq_nil_or_concat C' with rfl | ⟨C'', d, rfl⟩
      · exact hne (append_cancel_right hC).symm
      · rw [concat_eq_append] at hC hC'
        rw [← cons_append, ← append_assoc] at hC
        have hd : [d] = ['-'] := append_inj_right' hC rfl
        rw [hd] at hC'
        exact hD (hC'.subset (by simp))
  · intro h
    exact h.trans (prefix_append _ _)

theorem dash_not_mem_toString (n : Nat) : '-' ∉ (toString n).toList := by
  intro h
  have := Nat.isDigit_of_mem_toDigits (b := 10) (n := n) (c := '-') (by decide) (by decide)
    (by simpa [toString, Nat.repr] using h)
  exact absurd this (by decide)

theorem hasPrefix_pvcPrefix_iff {a b : KeyValCluster} (hne : a.name ≠ b.name) (n : Nat) :
    hasPrefix (dataPVCName (b.name ++ "-" ++ toString n)) (pvcPrefix a) = true ↔
      hasPrefix b.name (a.name ++ "-") = true := by
  have hne' : a.name.toList ≠ b.name.toList := fun h => hne (String.toList_inj.1 h)
  rw [hasPrefix_iff, hasPrefix_iff, dataPVCName, pvcPrefix]
  simp only [String.toList_append, append_assoc, prefix_append_right_inj]
  exact prefix_dash_iff hne' (dash_not_mem_toString n)

theorem pvcBelongsToCluster_other {a b : KeyValCluster} (hns : a.ns = b.ns)
    (hne : a.name ≠ b.name) {n : Nat} {pvc : PersistentVolumeClaim} (h : PVCOf b n pvc) :
    pvcBelongsToCluster a pvc = hasPrefix b.name (a.name ++ "-") := by
  have hown : (pvc.ownerReferences.any fun o => o.kind = "StatefulSet" && o.name = a.name)
      = false := by
    simp only [any_eq_false, Bool.and_eq_true, decide_eq_true_eq, not_and]
    intro o ho hk hn
    exact hne (hn.symm.trans (h.owners o ho hk))
  have hlab : (Map.str pvc.labels labelClusterKey = a.name) = False := by
    rw [h.cluster]
    exact eq_false (Ne.symm hne)
  have hpre : hasPrefix pvc.name (pvcPrefix a) = hasPrefix b.name (a.name ++ "-") := by
    rw [h.name, Bool.eq_iff_iff]
    exact hasPrefix_pvcPrefix_iff hne n
  unfold pvcBelongsToCluster
  rw [if_neg (by rw [h.ns, hns]; simp), hpre, hown]
  simp [hlab]

/-! ## What the operations touch -/

/-- A patch returns the claim that was sent. -/
def SamePVC (e : Event Op) : Prop :=
  ∀ base desired pvc, e = ⟨.patchPVC base desired, .ok pvc⟩ →
    pvc.ns = base.ns ∧ pvc.name = base.name

theorem samePVC_of_ok (s : PVCStore) (e : Event Op) (h : pvcWorld.ok s e) : SamePVC e := by
  rintro base desired pvc rfl
  exact ⟨h.1, h.2.1⟩

/-- The request changes a claim of the list, if any. -/
def TouchesOnly (l : List PersistentVolumeClaim) (q : Req) : Prop :=
  ∀ ns name, Touches ns name q → ∃ pvc ∈ l, pvc.ns = ns ∧ pvc.name = name

theorem touchesOnly_event (l : List PersistentVolumeClaim) (e : Ev) : TouchesOnly l (.event e) :=
  fun _ _ h => h.elim

theorem touchesOnly_patchPVC (base desired : PersistentVolumeClaim) :
    TouchesOnly [base] (.patchPVC base desired) :=
  fun _ _ h => ⟨base, .head _, h⟩

theorem TouchesOnly.of_mem {l : List PersistentVolumeClaim} {pvc : PersistentVolumeClaim}
    (hp : pvc ∈ l) {q : Req} (h : TouchesOnly [pvc] q) : TouchesOnly l q := by
  intro ns name ht
  obtain ⟨pvc', hm, hk⟩ := h ns name ht
  obtain rfl := mem_singleton.1 hm
  exact ⟨pvc', hp, hk⟩

section
variable (F : Formats) (cr : KeyValCluster) (desired : Quantity) (pods : List Pod) (now : Time)

theorem trackResize_touches (res : ResizeResult) (podName : String) (pvc : PersistentVolumeClaim) :
    Issues SamePVC (TouchesOnly [pvc]) (trackResize F desired pods now res podName pvc) := by
  have hev := touchesOnly_event [pvc]
  have hpatch := touchesOnly_patchPVC pvc (completeResize F now pvc)
  unfold trackResize
  simp only [bind_eq, pure_eq, ask_eq, call_bind, ret_bind]
  split_ifs <;> simp [hev, hpatch]

theorem resizePVC_touches (res : ResizeResult) (pvc : PersistentVolumeClaim) :
    Issues SamePVC (TouchesOnly [pvc]) (resizePVC F cr desired pods now res pvc) := by
  have hev := touchesOnly_event [pvc]
  unfold resizePVC
  simp only [bind_eq, pure_eq, ask_eq, call_bind, ret_bind]
  split_ifs with hdel hgrow hshrink
  · exact .ret _
  · refine .call (touchesOnly_patchPVC pvc _) fun r hr => ?_
    match r with
    | .error e =>
      dsimp only
      split_ifs
      · exact .ret _
      · cases resizeThrottle e <;> simp [hev]
    | .ok pvc' =>
      obtain ⟨hns, hname⟩ := hr _ _ _ rfl
      refine .call (hev _) fun _ _ => ?_
      refine (trackResize_touches F desired pods now res _ pvc').mono fun q hq ns name ht => ?_
      obtain ⟨c, hc, hk⟩ := hq ns name ht
      obtain rfl := mem_singleton.1 hc
      exact ⟨pvc, .head _, hns ▸ hk.1, hname ▸ hk.2⟩
  · exact .call (hev _) fun _ _ => trackResize_touches F desired pods now res _ pvc
  · exact trackResize_touches F desired pods now res _ pvc

end

theorem cleanupPVC_touches (limit : Int) (s : CleanupResult × Int) (pvc : PersistentVolumeClaim) :
    Issues SamePVC (TouchesOnly [pvc]) (cleanupPVC limit s pvc) := by
  have hev := touchesOnly_event [pvc]
  unfold cleanupPVC
  simp only [bind_eq, pure_eq, ask_eq, call_bind, ret_bind]
  split_ifs
  · exact .ret _
  · refine .call (fun _ _ h => ⟨pvc, .head _, h⟩) fun r _ => ?_
    match r with
    | .error e =>
      dsimp only
      split_ifs <;> exact .ret _
    | .ok () => exact .call (hev _) fun _ _ => .ret _

theorem Issues.forErr_touches {σ : Type} {f : σ → PersistentVolumeClaim → M (σ × Option Error)}
    (hf : ∀ s pvc, Issues SamePVC (TouchesOnly [pvc]) (f s pvc)) (l : List PersistentVolumeClaim)
    (s : σ) :
    Issues SamePVC (TouchesOnly l) (forErr f l s) :=
  Issues.forErr s fun pvc hp s => (hf s pvc).mono fun _ hq => hq.of_mem hp

/-- **What goes through `listClusterPVCs` is owned**: a program that touches only the claims it is
given touches, when it is given the list, only stored claims that belong to the cluster. -/
theorem listClusterPVCs_owned {α : Type} {k : Result (List PersistentVolumeClaim) → M α} {a r : α}
    (hok : ∀ l, Issues SamePVC (TouchesOnly l) (k (.ok l)))
    (herr : ∀ e, Issues SamePVC (TouchesOnly []) (k (.error e)))
    (hr : (if ¬ hasPersistentData cr then .ret a else (listClusterPVCs cr).bind k).Runs t r)
    (hs : pvcWorld.Admits s t) (he : e ∈ t) (ht : Touches ns name e.req) :
    ∃ pvc, s.get ns name = some pvc ∧ pvcBelongsToCluster cr pvc = true := by
  split at hr
  · obtain ⟨rfl, -⟩ := runs_ret.1 hr
    cases he
  simp only [listClusterPVCs, bind_eq, ask_eq, call_bind, ret_bind] at hr
  obtain ⟨rep, t', rfl, hk⟩ := runs_call.1 hr
  have hsame := World.Admits.mem _ samePVC_of_ok hs.2
  rcases mem_cons.1 he with rfl | he'
  · exact ht.elim
  match rep with
  | .error err =>
    obtain ⟨pvc, hmem, -⟩ := (herr err).mem hk hsame e he' ns name ht
    cases hmem
  | .ok items =>
    obtain ⟨pvc, hmem, rfl, rfl⟩ := (hok _).mem hk hsame e he' ns name ht
    obtain ⟨hitem, hbel⟩ := mem_filter.1 hmem
    have hget : s.get cr.ns pvc.name = some pvc := hs.1 pvc hitem
    rw [(s.wf hget).1]
    exact ⟨pvc, hget, hbel⟩

/-- **Cleanup** deletes and patches only claims that belong to the cluster. -/
theorem cleanupPVCs_touches {limit : Int} {r : CleanupResult × Option Error}
    (hr : (cleanupPVCs cr limit).Runs t r) (hs : pvcWorld.Admits s t) (he : e ∈ t)
    (ht : Touches ns name e.req) :
    ∃ pvc, s.get ns name = some pvc ∧ pvcBelongsToCluster cr pvc = true := by
  refine listClusterPVCs_owned (fun l => ?_) (fun err => ?_) hr hs he ht
  · exact (Issues.forErr_touches (cleanupPVC_touches _) l _).bind fun
      | (_, some _) => .ret _
      | (_, none) => .ret _
  · exact .ret _

/-- **Resize** deletes and patches only claims that belong to the cluster. -/
theorem ensureResize_touches {F : Formats} {pods : List Pod} {r : ResizeResult × Option Error}
    (hr : (ensureResize F cr pods).Runs t r) (hs : pvcWorld.Admits s t) (he : e ∈ t)
    (ht : Touches ns name e.req) :
    ∃ pvc, s.get ns name = some pvc ∧ pvcBelongsToCluster cr pvc = true := by
  refine listClusterPVCs_owned (fun l => ?_) (fun err => ?_) hr hs he ht
  · refine .call (fun _ _ h => h.elim) fun now _ => ?_
    exact (Issues.forErr_touches (resizePVC_touches F cr _ pods now) l _).bind fun
      | (_, some _) => .ret _
      | (_, none) => .ret _
  · exact .ret _

/-! ## Isolation -/

/-- The claim that the StatefulSet controller creates for the ordinal `n` of `b`. -/
def statefulSetPVC (b : KeyValCluster) (n : Nat) : PersistentVolumeClaim where
  name := dataPVCName (b.name ++ "-" ++ toString n)
  ns := b.ns
  labels := (Finmap.singleton labelAppKey (appLabel b)).insert labelClusterKey b.name
  ownerReferences := [⟨"StatefulSet", b.name⟩]

theorem pvcOf_statefulSetPVC (b : KeyValCluster) (n : Nat) : PVCOf b n (statefulSetPVC b n) where
  name := rfl
  ns := rfl
  app := by
    show Map.str _ _ = _
    rw [statefulSetPVC, Map.str_insert_ne _ _ (by decide), Map.str, Finmap.lookup_singleton_eq]
    rfl
  cluster := Map.str_insert_self _ _ _
  owned := .head _
  owners := by simp [statefulSetPVC]

/-- **Isolation of the claims of two clusters** of one namespace: it holds exactly when the name
of the other cluster does not extend this cluster's name with a dash. -/
theorem pvcIsolated_iff (F : Formats) (a b : KeyValCluster) (hns : a.ns = b.ns)
    (hne : a.name ≠ b.name) : PVCIsolated F a b ↔ hasPrefix b.name (a.name ++ "-") = false := by
  constructor
  · intro h
    rw [← pvcBelongsToCluster_other hns hne (pvcOf_statefulSetPVC b 0)]
    exact h.1 0 _ (pvcOf_statefulSetPVC b 0)
  · intro h
    have hbel : ∀ n pvc, PVCOf b n pvc → pvcBelongsToCluster a pvc = false := by
      intro n pvc hp
      rw [pvcBelongsToCluster_other hns hne hp, h]
    refine ⟨hbel, fun s n pvc hp hget => ⟨fun limit t r hr hs e he ht => ?_,
      fun pods t r hr hs e he ht => ?_⟩⟩
    · obtain ⟨pvc', hget', hown⟩ := cleanupPVCs_touches hr hs he ht
      obtain rfl := Option.some.inj (hget.symm.trans hget')
      exact absurd hown (by simp [hbel n pvc hp])
    · obtain ⟨pvc', hget', hown⟩ := ensureResize_touches hr hs he ht
      obtain rfl := Option.some.inj (hget.symm.trans hget')
      exact absurd hown (by simp [hbel n pvc hp])

theorem pvcIsolated_cache :
    "redis" ≠ "cache" ∧ PVCIsolated .decimal (clusterNamed "redis") (clusterNamed "cache") :=
  ⟨by decide, (pvcIsolated_iff .decimal (clusterNamed "redis") (clusterNamed "cache") rfl
    (by decide)).2 (by decide)⟩

/-- The claim data-redis-x-0 is listed. -/
def answerCleanup (s : PVCStore) : Replies
  | .listPVCs ns => .ok (s.get ns "data-redis-x-0").toList
  | .deletePVC .. => .ok ()
  | q => q.unavailable

theorem answerCleanup_ok (s : PVCStore) (q : Req) : pvcWorld.ok s ⟨q, answerCleanup s q⟩ := by
  cases q with
  | listPVCs ns =>
    intro pvc hp
    have hget : s.get ns "data-redis-x-0" = some pvc := Option.mem_toList.1 hp
    rw [(s.wf hget).2]
    exact hget
  | _ => trivial

/-- The cleanup of the cluster `redis` deletes the claim `data-redis-x-0` of `redis-x`. -/
theorem cleanupPVCs_redis_deletes_redis_x :
    PVCOf (clusterNamed "redis-x") 0 (statefulSetPVC (clusterNamed "redis-x") 0) ∧
    pvcBelongsToCluster (clusterNamed "redis") (statefulSetPVC (clusterNamed "redis-x") 0) = true ∧
    (∃ t r, (cleanupPVCs (clusterNamed "redis") 3).Runs t r ∧
      pvcWorld.Admits (PVCStore.empty.put (statefulSetPVC (clusterNamed "redis-x") 0)) t ∧
      ⟨.deletePVC "prod" "data-redis-x-0", .ok ()⟩ ∈ t) ∧
    ¬ PVCIsolated .decimal (clusterNamed "redis") (clusterNamed "redis-x") := by
  have hof := pvcOf_statefulSetPVC (clusterNamed "redis-x") 0
  have hbel : pvcBelongsToCluster (clusterNamed "redis")
      (statefulSetPVC (clusterNamed "redis-x") 0) = true := by decide
  refine ⟨hof, hbel, ⟨_, _, World.runs_play (r := answerCleanup) _ _,
    World.admits_play answerCleanup_ok _ _, mem_of_getElem? (i := 1) rfl⟩, fun h => ?_⟩
  rw [h.1 0 _ hof] at hbel
  cases hbel

end Keyval.Storage
