import KeyvalOperator.Lib.Ranking
import KeyvalOperator.Proof.Names
import KeyvalOperator.Proof.Recovery
import Mathlib.Data.Prod.Lex

/-!
# The candidate for the master

`SelectCandidate` sorts the records of the pods by a comparison of five keys and takes the first.
The comparison is an order on the records of pods whose ordinals are numbers of the machine, and
only on those: a larger ordinal is read as a negative number, and names decide.

* `recordLess_iff`: **the comparison orders the records by rank**.
* `storedCandidate_canonical`: the candidate is the best pod.
* `selectCandidate_canonical`: **the candidate is the same for every order of the pods**.
* `huge_ordinals_by_name`: two pods whose ordinals are too large.
-/

namespace Keyval.Bootstrap

open Go Interact Interact.Prog Ranking OrderDual List

variable {cr : KeyValCluster} {pods pods' : List Pod} {p q : Pod}

/-! ## The order of the records -/

/-- `a` is better than `b`: it has the larger offset, then the later time, then the role of the
master, then the lower ordinal. -/
def Better (a b : FreshnessRecord) : Prop :=
  b.offset < a.offset ∨ a.offset = b.offset ∧
    (b.updatedAt < a.updatedAt ∨ a.updatedAt = b.updatedAt ∧
      (isMasterRole a.lastRole ∧ ¬ isMasterRole b.lastRole ∨
        isMasterRole a.lastRole = isMasterRole b.lastRole ∧ ordinal a.podName < ordinal b.podName))

instance (a b : FreshnessRecord) : Decidable (Better a b) := by
  unfold Better
  infer_instance

/-- Fresher records have a lower rank. -/
def rank (r : FreshnessRecord) : ℤᵒᵈ ×ₗ ℤᵒᵈ ×ₗ Boolᵒᵈ ×ₗ ℤ :=
  toLex (toDual r.offset, toLex (toDual r.updatedAt,
    toLex (toDual (isMasterRole r.lastRole), ordinal r.podName)))

theorem rank_lt_iff (a b : FreshnessRecord) : rank a < rank b ↔ Better a b := by
  unfold rank Better
  rw [Prod.Lex.toLex_lt_toLex, Prod.Lex.toLex_lt_toLex, Prod.Lex.toLex_lt_toLex]
  simp only [toDual_lt_toDual, toDual_inj, Bool.lt_iff]
  rw [Bool.not_eq_true, and_comm (a := isMasterRole b.lastRole = false)]

/-- **The comparison orders the records by rank**, when both have an ordinal. -/
theorem recordLess_iff {a b : FreshnessRecord} (ha : 0 ≤ ordinal a.podName)
    (hb : 0 ≤ ordinal b.podName) (hname : ordinal a.podName = ordinal b.podName →
      a.podName = b.podName) : recordLess a b = true ↔ rank a < rank b := by
  -- the last two keys
  have hlast : (if 0 ≤ ordinal a.podName ∧ 0 ≤ ordinal b.podName ∧
      ordinal a.podName ≠ ordinal b.podName then decide (ordinal a.podName < ordinal b.podName)
      else decide (a.podName < b.podName)) = true ↔ ordinal a.podName < ordinal b.podName := by
    by_cases heq : ordinal a.podName = ordinal b.podName
    · rw [if_neg fun h => h.2.2 heq, hname heq]
      simp
    · rw [if_pos ⟨ha, hb, heq⟩, decide_eq_true_eq]
  rw [rank_lt_iff]
  unfold recordLess Better
  by_cases hoffset : a.offset = b.offset
  · rw [if_neg (not_not.2 hoffset)]
    by_cases htime : a.updatedAt = b.updatedAt
    · rw [if_neg (not_not.2 htime)]
      generalize (if 0 ≤ ordinal a.podName ∧ 0 ≤ ordinal b.podName ∧
        ordinal a.podName ≠ ordinal b.podName then decide (ordinal a.podName < ordinal b.podName)
        else decide (a.podName < b.podName)) = last at hlast ⊢
      cases hrole : isMasterRole a.lastRole <;> cases hrole' : isMasterRole b.lastRole <;>
        simp [hoffset, htime, hlast]
    · rw [if_pos htime]
      simp [hoffset, htime]
  · rw [if_pos hoffset]
    simp [hoffset]

/-! ## The pods of a cluster -/

/-- The pods are named after the cluster, by distinct ordinals that are numbers of the machine. -/
structure Numbered (cr : KeyValCluster) (pods : List Pod) : Prop where
  named : ∀ p ∈ pods, ∃ n : Nat, n < 2 ^ 63 ∧ p.name = podName cr.name n
  distinct : pods.Pairwise fun p q => ordinal p.name ≠ ordinal q.name

section
variable {l : List Pod}

theorem Numbered.sublist (h : Numbered cr pods) (hl : l.Sublist pods) : Numbered cr l :=
  ⟨fun p hp => h.named p (hl.subset hp), h.distinct.sublist hl⟩

theorem Numbered.nonneg (h : Numbered cr pods) (hp : p ∈ pods) : 0 ≤ ordinal p.name := by
  obtain ⟨n, hn, hname⟩ := h.named p hp
  rw [hname, ordinal_name cr.name hn]
  exact Int.natCast_nonneg n

theorem Numbered.eq (h : Numbered cr pods) (hp : p ∈ pods) (hq : q ∈ pods)
    (heq : ordinal p.name = ordinal q.name) : p = q := by
  by_contra hne
  have : Std.Symm fun p q : Pod => ordinal p.name ≠ ordinal q.name := ⟨fun _ _ => Ne.symm⟩
  exact h.distinct.forall hp hq hne heq

end

section
variable (F : Formats) (cr : KeyValCluster) (s : PVCStore)

/-- The record of a pod, by the stored claim. -/
abbrev stored (p : Pod) : FreshnessRecord := freshnessRecord F p (storedAnnotations cr s p)

/-- The pod is annotated as the forced master. -/
def isForced (p : Pod) : Bool := equalFold (Map.str p.annotations annotationForceMaster) "true"

/-- The pod is better than all others. -/
structure Best (pods : List Pod) (p : Pod) : Prop where
  mem : p ∈ pods
  better : ∀ q ∈ pods, q ≠ p → Better (stored F cr s p) (stored F cr s q)

/-- **The candidate of the pods**: the best of those that are forced, else the best pod when some
stored offset is positive, else the first pod by name. -/
inductive Canonical (pods : List Pod) : Candidate → Prop
  | empty : pods = [] → Canonical pods {}
  | forced {p : Pod} : Best F cr s (pods.filter isForced) p →
      Canonical pods ⟨p.name, "force-master", (stored F cr s p).offset, (stored F cr s p).updatedAt⟩
  | freshest {p : Pod} : (∀ q ∈ pods, isForced q = false) →
      (∃ q ∈ pods, 0 < (stored F cr s q).offset) → Best F cr s pods p →
      Canonical pods ⟨p.name, "freshness", (stored F cr s p).offset, (stored F cr s p).updatedAt⟩
  | first {p : Pod} : (∀ q ∈ pods, isForced q = false) →
      (∀ q ∈ pods, (stored F cr s q).offset ≤ 0) → p ∈ pods → (∀ q ∈ pods, p.name ≤ q.name) →
      Canonical pods ⟨p.name, "seed", 0, 0⟩

end

section
variable {F : Formats} {s : PVCStore}

theorem Better.offset_le {a b : FreshnessRecord} (h : Better a b) : b.offset ≤ a.offset := by
  rcases h with h | h
  · exact h.le
  · exact h.1.ge

theorem Best.offset_le (h : Best F cr s pods p) (hq : q ∈ pods) :
    (stored F cr s q).offset ≤ (stored F cr s p).offset := by
  by_cases hne : q = p
  · rw [hne]
  · exact (h.better q hq hne).offset_le

theorem Best.unique (h : Best F cr s pods p) (h' : Best F cr s pods' q)
    (hmem : ∀ x, x ∈ pods' ↔ x ∈ pods) : p = q := by
  by_contra hne
  have hlt := (rank_lt_iff _ _).2 (h.better q ((hmem q).1 h'.mem) (Ne.symm hne))
  have hgt := (rank_lt_iff _ _).2 (h'.better p ((hmem p).2 h.mem) hne)
  exact lt_asymm hlt hgt

/-- **The first of the sorted records** is the record of the best pod. -/
theorem sortRecords_best (h : Numbered cr pods) {best : FreshnessRecord}
    {rest : List FreshnessRecord} (hsort : sortRecords (pods.map (stored F cr s)) = best :: rest) :
    ∃ p, Best F cr s pods p ∧ best = stored F cr s p := by
  have hless : ∀ {p q : Pod}, p ∈ pods → q ∈ pods →
      (recordLess (stored F cr s p) (stored F cr s q) = true ↔
        rank (stored F cr s p) < rank (stored F cr s q)) := fun hp hq =>
    recordLess_iff (h.nonneg hp) (h.nonneg hq) fun heq => congrArg Pod.name (h.eq hp hq heq)
  have hleast : Least rank (pods.map (stored F cr s)) best := by
    refine least_insertionSort (fun a ha b hb => ?_) hsort
    obtain ⟨p, hp, rfl⟩ := mem_map.1 ha
    obtain ⟨q, hq, rfl⟩ := mem_map.1 hb
    rw [← Bool.not_eq_true, hless hq hp, not_lt]
  have hdistinct : Distinct rank (pods.map (stored F cr s)) := by
    intro a ha b hb heq
    obtain ⟨p, hp, rfl⟩ := mem_map.1 ha
    obtain ⟨q, hq, rfl⟩ := mem_map.1 hb
    -- records of equal rank have the same ordinal
    have hordinal : ordinal p.name = ordinal q.name :=
      (Prod.mk.inj (Prod.mk.inj (Prod.mk.inj heq).2).2).2
    rw [h.eq hp hq hordinal]
  obtain ⟨p, hp, rfl⟩ := mem_map.1 hleast.mem
  refine ⟨p, ⟨hp, fun q hq hne => ?_⟩, rfl⟩
  rw [← rank_lt_iff]
  refine hleast.lt hdistinct (mem_map_of_mem hq) fun heq => hne ?_
  have hname : q.name = p.name := congrArg FreshnessRecord.podName heq
  exact h.eq hq hp (congrArg ordinal hname)

theorem sortRecords_eq_nil {recs : List FreshnessRecord} : sortRecords recs = [] ↔ recs = [] := by
  rw [← length_eq_zero_iff, sortRecords, length_insertionSort, length_eq_zero_iff]

/-- **The candidate is the best pod.** -/
theorem storedCandidate_canonical (h : Numbered cr pods) (hne : pods ≠ []) :
    Canonical F cr s pods (storedCandidate F cr s pods) := by
  have hfilter : (pods.map (stored F cr s)).filter (·.forceMaster) =
      (pods.filter isForced).map (stored F cr s) := by
    rw [filter_map]
    rfl
  -- the first pod by name, when nothing else decides
  have hfirst : (∀ q ∈ pods, isForced q = false) → (∀ q ∈ pods, (stored F cr s q).offset ≤ 0) →
      Canonical F cr s pods ⟨Replication.designated pods "", "seed", 0, 0⟩ := by
    intro hforced hoffset
    obtain ⟨p, hp, hname⟩ := Replication.designated_empty_mem hne
    rw [← hname]
    refine .first hforced hoffset hp fun q hq => ?_
    rw [hname]
    exact Replication.designated_empty_le hq
  unfold storedCandidate chooseCandidate
  rw [hfilter]
  split
  · next best rest hsort =>
    obtain ⟨p, hbest, rfl⟩ := sortRecords_best (h.sublist filter_sublist) hsort
    exact .forced hbest
  · next hsort =>
    have hnone : ∀ q ∈ pods, isForced q = false := by
      rw [sortRecords_eq_nil, map_eq_nil_iff, filter_eq_nil_iff] at hsort
      exact fun q hq => Bool.eq_false_iff.2 (hsort q hq)
    split
    · next best rest hsort =>
      obtain ⟨p, hbest, rfl⟩ := sortRecords_best h hsort
      by_cases hpos : 0 < (stored F cr s p).offset
      · rw [if_pos hpos]
        exact .freshest hnone ⟨p, hbest.mem, hpos⟩ hbest
      · rw [if_neg hpos]
        exact hfirst hnone fun q hq => (hbest.offset_le hq).trans (not_lt.1 hpos)
    · next hsort =>
      rw [sortRecords_eq_nil, map_eq_nil_iff] at hsort
      exact absurd hsort hne

theorem mem_filter_isForced (hmem : ∀ p, p ∈ pods' ↔ p ∈ pods) (p : Pod) :
    p ∈ pods'.filter isForced ↔ p ∈ pods.filter isForced := by
  rw [mem_filter, mem_filter, hmem]

theorem not_none_forced (hp : p ∈ pods.filter isForced) : ¬ ∀ q ∈ pods, isForced q = false := by
  obtain ⟨hp, hforced⟩ := mem_filter.1 hp
  intro hnone
  rw [hnone p hp] at hforced
  cases hforced

/-- **There is one candidate**, for every order of the pods. -/
theorem Canonical.unique {c c' : Candidate} (h : Canonical F cr s pods c)
    (h' : Canonical F cr s pods' c') (hmem : ∀ p, p ∈ pods' ↔ p ∈ pods) : c = c' := by
  have hnil : pods = [] → ∀ p, p ∉ pods' := by
    rintro rfl p hp
    cases (hmem p).1 hp
  have hnil' : pods' = [] → ∀ p, p ∉ pods := by
    rintro rfl p hp
    cases (hmem p).2 hp
  cases h with
  | empty hpods =>
    cases h' with
    | empty _ => rfl
    | forced hbest => exact absurd (mem_filter.1 hbest.mem).1 (hnil hpods _)
    | freshest _ _ hbest => exact absurd hbest.mem (hnil hpods _)
    | first _ _ hp _ => exact absurd hp (hnil hpods _)
  | forced hbest =>
    have hforced := not_none_forced ((mem_filter_isForced hmem _).2 hbest.mem)
    cases h' with
    | empty hpods => exact absurd (mem_filter.1 hbest.mem).1 (hnil' hpods _)
    | forced hbest' =>
      obtain rfl := hbest.unique hbest' (mem_filter_isForced hmem)
      rfl
    | freshest hnone _ _ => exact absurd hnone hforced
    | first hnone _ _ _ => exact absurd hnone hforced
  | freshest hnone hpos hbest =>
    obtain ⟨q, hq, hpos⟩ := hpos
    cases h' with
    | empty hpods => exact absurd hbest.mem (hnil' hpods _)
    | forced hbest' =>
      exact absurd hnone (not_none_forced ((mem_filter_isForced hmem _).1 hbest'.mem))
    | freshest _ _ hbest' =>
      obtain rfl := hbest.unique hbest' hmem
      rfl
    | first _ hneg _ _ => exact absurd (hneg q ((hmem q).2 hq)) (not_le.2 hpos)
  | first hnone hneg hp hle =>
    cases h' with
    | empty hpods => exact absurd hp (hnil' hpods _)
    | forced hbest' =>
      exact absurd hnone (not_none_forced ((mem_filter_isForced hmem _).1 hbest'.mem))
    | freshest _ hpos' _ =>
      obtain ⟨q, hq, hpos'⟩ := hpos'
      exact absurd (hneg q ((hmem q).1 hq)) (not_le.2 hpos')
    | first _ _ hp' hle' =>
      rw [String.le_antisymm (hle _ ((hmem _).1 hp')) (hle' _ ((hmem _).2 hp))]

theorem Numbered.perm (h : Numbered cr pods) (hperm : pods'.Perm pods) : Numbered cr pods' :=
  ⟨fun p hp => h.named p (hperm.mem_iff.1 hp),
    hperm.pairwise_iff (fun hne => hne.symm) |>.2 h.distinct⟩

theorem selectCandidate_returns {t : Trace} {c : Candidate} (h : Numbered cr pods)
    (hrun : (selectCandidate F cr pods).Runs t c) (hreads : ∀ e ∈ t, ReadsFrom s e) :
    Canonical F cr s pods c := by
  by_cases hne : pods = []
  · subst hne
    obtain ⟨-, rfl⟩ := runs_ret.1 hrun
    exact .empty rfl
  · rw [selectCandidate_stored hne hrun hreads]
    exact storedCandidate_canonical h hne

end

/-- **The candidate is the same for every order of the pods**, and it is the best pod. -/
theorem selectCandidate_canonical (F : Formats) (s : PVCStore) {cr : KeyValCluster}
    {pods : List Pod} (h : Numbered cr pods) :
    ∃ c, Canonical F cr s pods c ∧ ∀ pods', pods'.Perm pods →
      (∃ t, (selectCandidate F cr pods').Runs t c ∧ ∀ e ∈ t, ReadsFrom s e) ∧
      ∀ t c', (selectCandidate F cr pods').Runs t c' → (∀ e ∈ t, ReadsFrom s e) → c' = c := by
  obtain ⟨t, c, hrun, hreads⟩ := exists_candidate F cr pods s
  have hcanonical := selectCandidate_returns h hrun hreads
  refine ⟨c, hcanonical, fun pods' hperm => ?_⟩
  have hsame : ∀ t c', (selectCandidate F cr pods').Runs t c' → (∀ e ∈ t, ReadsFrom s e) →
      c' = c := by
    intro t' c' hrun' hreads'
    have hcanonical' := selectCandidate_returns (h.perm hperm) hrun' hreads'
    exact (hcanonical.unique hcanonical' fun p => hperm.mem_iff).symm
  obtain ⟨t', c', hrun', hreads'⟩ := exists_candidate F cr pods' s
  obtain rfl := hsame t' c' hrun' hreads'
  exact ⟨⟨t', hrun', hreads'⟩, hsame⟩

/-! ### Forced pods -/

/-- A pod that is forced to be the master. -/
def forcedA (n : Nat) : Pod :=
  { name := podName "a" n, ns := "prod"
    annotations := (∅ : Map String).insert annotationForceMaster "true" }

/-- Of two pods that are equally fresh, the one with the lower ordinal is the candidate, although it
is the last by name. -/
theorem selectCandidate_canonical_forced : ∃ c, c.name = "a-2" ∧
    ∀ pods', pods'.Perm [forcedA 10, forcedA 2] → ∃ t,
      (selectCandidate .decimal clusterA pods').Runs t c ∧ ∀ e ∈ t, ReadsFrom .empty e := by
  have hnumbered : Numbered clusterA [forcedA 10, forcedA 2] := by
    refine ⟨forall_mem_cons.2 ⟨?_, forall_mem_singleton.2 ?_⟩, by decide +kernel⟩
    · exact ⟨10, by decide, rfl⟩
    · exact ⟨2, by decide, rfl⟩
  obtain ⟨c, -, hperms⟩ := selectCandidate_canonical .decimal .empty hnumbered
  refine ⟨c, ?_, fun pods' hperm => (hperms pods' hperm).1⟩
  obtain ⟨t, hrun, hreads⟩ := (hperms _ (.refl _)).1
  rw [selectCandidate_stored (cons_ne_nil _ _) hrun hreads]
  decide +kernel

/-- Two pods whose ordinals do not fit an `int`. -/
def hugeA : List Pod := [forcedA (2 ^ 63), forcedA (10 ^ 19)]

/-- **Ordinals that are too large** are read as negative numbers, and the names decide for the pod
with the higher ordinal. -/
theorem huge_ordinals_by_name : (∀ p ∈ hugeA, ∃ n, p.name = podName clusterA.name n) ∧
    hugeA.Pairwise (fun p q => ordinal p.name ≠ ordinal q.name) ∧
    ∃ t c, (selectCandidate .decimal clusterA hugeA).Runs t c ∧ (∀ e ∈ t, ReadsFrom .empty e) ∧
      c.name = podName "a" (10 ^ 19) ∧ ¬ Canonical .decimal clusterA .empty hugeA c := by
  obtain ⟨t, c, hrun, hreads⟩ := exists_candidate .decimal clusterA hugeA .empty
  have hc : c = storedCandidate .decimal clusterA .empty hugeA :=
    selectCandidate_stored (cons_ne_nil _ _) hrun hreads
  have hforced : (storedCandidate .decimal clusterA .empty hugeA).name = podName "a" (10 ^ 19) ∧
      (storedCandidate .decimal clusterA .empty hugeA).source = "force-master" := by
    decide +kernel
  rw [← hc] at hforced
  have hbetter : ¬ Better (stored .decimal clusterA .empty (forcedA (10 ^ 19)))
      (stored .decimal clusterA .empty (forcedA (2 ^ 63))) := by
    decide +kernel
  have hnames : podName "a" (2 ^ 63) ≠ podName "a" (10 ^ 19) := by decide +kernel
  refine ⟨?_, by decide +kernel, t, c, hrun, hreads, hforced.1, fun hcanonical => ?_⟩
  · exact forall_mem_cons.2 ⟨⟨_, rfl⟩, forall_mem_singleton.2 ⟨_, rfl⟩⟩
  · cases hcanonical with
    | empty hnil => cases hnil
    | freshest _ _ _ =>
      have hsource : "freshness" ≠ "force-master" := by decide
      exact hsource hforced.2
    | first _ _ _ _ =>
      have hsource : "seed" ≠ "force-master" := by decide
      exact hsource hforced.2
    | forced hbest =>
      -- the pod of the candidate is the second, and the first is better
      have hmem := (mem_filter.1 hbest.mem).1
      rcases mem_pair.1 hmem with rfl | rfl
      · exact hnames hforced.1
      · refine hbetter (hbest.better (forcedA (2 ^ 63)) ?_ fun heq => ?_)
        · exact mem_filter.2 ⟨mem_cons_self, by decide +kernel⟩
        · exact hnames (congrArg Pod.name heq)

end Keyval.Bootstrap
