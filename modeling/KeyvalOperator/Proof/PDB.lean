import KeyvalOperator.Phases.PDB

/-!
# The disruption budget of the Sentinel pods

The builder of the Sentinel budget takes the bounds of the spec, and the PDB phase then sets the
minimum that it computes itself.

* `pdb_run`: a phase in Sentinel mode applies that budget, and no other one of its name.
* `appliesUserBudget_iff`: **the budget of the user is applied exactly when it is the minimum that
  the operator computes**.
-/

namespace Keyval.Phases

open Go Interact Interact.Prog List

/-- The name of the budget. -/
def sentinelPDBName (cr : KeyValCluster) : String := cr.name ++ "-sentinel"

/-- The minimum of the Sentinel budget: all Sentinels, or a majority of them while disruptions are
allowed, or the number in the stored budget when that is larger and annotated to be kept. -/
def sentinelMinimum (cr : KeyValCluster) (allowSentinel : Bool)
    (stored : Option PodDisruptionBudget) : Int :=
  let desired := sentinelDesiredCount cr
  let own := if allowSentinel then desired / 2 + 1 else desired
  match stored with
  | none => own
  | some pdb =>
    match pdb.minAvailable with
    | some (.int n) =>
      if annotationBoolTrue pdb.annotations pdbPreserveMinAnnotation then max n own else own
    | _ => own

theorem sentinelDesiredCount_pos (cr : KeyValCluster) : 0 < sentinelDesiredCount cr := by
  unfold sentinelDesiredCount
  split
  · split <;> omega
  · omega

theorem computeSentinelPDBMinAvailable_eq {cr : KeyValCluster} (hmode : cr.spec.mode = .sentinel)
    (allow : Bool) : computeSentinelPDBMinAvailable cr allow =
      if allow then sentinelDesiredCount cr / 2 + 1 else sentinelDesiredCount cr := by
  have hpos := sentinelDesiredCount_pos cr
  unfold computeSentinelPDBMinAvailable
  rw [if_neg (not_not.2 hmode)]
  dsimp only
  rw [if_neg (by omega)]
  cases allow with
  | false => rfl
  | true =>
    rw [if_neg (by decide), if_pos rfl]
    split <;> split <;> omega

/-- The bounds of the Sentinel budget do not depend on those that the builder has set. -/
theorem resolveBudget_sentinel {cr : KeyValCluster} (hmode : cr.spec.mode = .sentinel)
    (allow : Bool) (stored : Option PodDisruptionBudget) (built : PodDisruptionBudget) :
    let resolved := (resolveBudget stored (computeSentinelPDBMinAvailable cr allow) built).2
    resolved.name = built.name ∧ resolved.maxUnavailable = none ∧
      resolved.minAvailable = some (.int (sentinelMinimum cr allow stored)) := by
  have hpos := sentinelDesiredCount_pos cr
  have hown : 0 < if allow then sentinelDesiredCount cr / 2 + 1 else sentinelDesiredCount cr := by
    split <;> omega
  have hcomputed := computeSentinelPDBMinAvailable_eq hmode allow
  have hmin : (resolvePDBMinAvailable (stored.bind minAvailableValue)
      (computeSentinelPDBMinAvailable cr allow) ((stored.map (·.annotations)).getD ∅)).1 =
        sentinelMinimum cr allow stored := by
    unfold sentinelMinimum
    rw [hcomputed]
    dsimp only
    generalize (if allow then sentinelDesiredCount cr / 2 + 1 else sentinelDesiredCount cr) = own
    cases stored with
    | none => rfl
    | some pdb =>
      simp only [Option.bind_some, minAvailableValue]
      cases hvalue : pdb.minAvailable with
      | none => rfl
      | some v =>
        cases v with
        | str s => rfl
        | int n =>
          simp only [resolvePDBMinAvailable, Option.map_some, Option.getD_some]
          by_cases hkeep : annotationBoolTrue pdb.annotations pdbPreserveMinAnnotation
          · simp only [hkeep, true_and, if_true]
            split
            · next hlt => exact (max_eq_left hlt.le).symm
            · next hge => exact (max_eq_right (not_lt.1 hge)).symm
          · simp [hkeep]
  have hnonneg : ¬ sentinelMinimum cr allow stored < 0 := by
    unfold sentinelMinimum
    dsimp only
    split
    · omega
    · split
      · split <;> omega
      · omega
  unfold resolveBudget
  dsimp only
  rw [hmin]
  split <;> simp only [setMinAvailable, if_neg hnonneg, and_self]

section
variable {cr : KeyValCluster} {t : Trace}

/-- **One budget**: the stored one is read, the resolved one applied, and at most an event follows.
-/
theorem applyBudget_run {component : String} {allow : Bool} {computed min : Int}
    {built : PodDisruptionBudget} (h : (applyBudget cr component allow computed built).Runs t min) :
    ∃ reply applied result rest,
      t = ⟨.getPDB built.ns built.name, reply⟩ :: ⟨.applyPDB applied, result⟩ :: rest ∧
      applied = { Ssa.podDisruptionBudget (resolveBudget reply.toOption computed built).2 with
        ownerReferences := [⟨"KeyValCluster", cr.name⟩] } ∧
      ∀ e ∈ rest, ∃ ev, e.req = .event ev := by
  obtain ⟨reply, t1, rfl, h1⟩ := runs_asked.1 h
  obtain ⟨result, t2, rfl, h2⟩ := runs_asked.1 h1
  refine ⟨reply, _, result, t2, rfl, rfl, ?_⟩
  cases result with
  | error e =>
    obtain ⟨rfl, -⟩ := runs_ret.1 h2
    exact forall_mem_nil _
  | ok _ =>
    dsimp only at h2
    split at h2
    · obtain ⟨rfl, -⟩ := runs_ret.1 h2
      exact forall_mem_nil _
    · split at h2
      · obtain ⟨_, t3, rfl, h3⟩ := runs_call.1 h2
        obtain ⟨rfl, -⟩ := runs_ret.1 h3
        exact forall_mem_singleton.2 ⟨_, rfl⟩
      · obtain ⟨rfl, -⟩ := runs_ret.1 h2
        exact forall_mem_nil _

theorem redis_ne_sentinelPDB (cr : KeyValCluster) : cr.name ++ "-redis" ≠ sentinelPDBName cr := by
  intro h
  have hend := congrArg String.toList h
  rw [sentinelPDBName, String.toList_append, String.toList_append] at hend
  exact absurd (append_cancel_left hend) (by decide)

theorem resolveBudget_name (stored : Option PodDisruptionBudget) (computed : Int)
    (built : PodDisruptionBudget) : (resolveBudget stored computed built).2.name = built.name := by
  unfold resolveBudget
  dsimp only
  split <;> rfl

/-- **The phase in Sentinel mode**: it reads the stored Sentinel budget and applies one, with the
minimum that it computes from it. -/
theorem pdb_run {st : State} {o : DisruptionMinimums} (hmode : st.cluster.spec.mode = .sentinel)
    (h : (pdb st).Runs t o) :
    ∃ reply applied result, ⟨.getPDB st.cluster.ns (sentinelPDBName st.cluster), reply⟩ ∈ t ∧
      ⟨.applyPDB applied, result⟩ ∈ t ∧ applied.name = sentinelPDBName st.cluster ∧
      applied.maxUnavailable = none ∧
      applied.minAvailable =
        some (.int (sentinelMinimum st.cluster st.status.allowSentinel reply.toOption)) ∧
      ∀ pdb r, ⟨.applyPDB pdb, r⟩ ∈ t → pdb.name = sentinelPDBName st.cluster → pdb = applied := by
  obtain ⟨t1, redisMin, t2, rfl, hredis, h2⟩ := runs_bind.1 h
  obtain ⟨t3, sentinelMin, t4, rfl, hsentinel, h4⟩ := runs_bind.1 h2
  obtain ⟨rfl, -⟩ := runs_ret.1 h4
  unfold redisBudget at hredis
  unfold sentinelBudget at hsentinel
  dsimp only at hredis hsentinel
  rw [if_pos ⟨hmode, sentinelDesiredCount_pos _⟩] at hsentinel
  -- what the Redis budget applies has another name
  have hother : ∀ pdb r, ⟨.applyPDB pdb, r⟩ ∈ t1 → pdb.name ≠ sentinelPDBName st.cluster := by
    intro pdb r hmem
    split at hredis
    · obtain ⟨reply, applied, result, rest, rfl, happlied, hrest⟩ := applyBudget_run hredis
      have hpdb : pdb = applied := by
        rcases mem_cons.1 hmem with heq | hmem
        · cases heq
        rcases mem_cons.1 hmem with heq | hmem
        · cases heq
          rfl
        · obtain ⟨ev, hev⟩ := hrest _ hmem
          cases hev
      have hname : pdb.name = st.cluster.name ++ "-redis" := by
        rw [hpdb, happlied]
        exact resolveBudget_name _ _ _
      rw [hname]
      exact redis_ne_sentinelPDB _
    · obtain ⟨rfl, -⟩ := runs_ret.1 hredis
      cases hmem
  obtain ⟨reply, applied, result, rest, rfl, happlied, hrest⟩ := applyBudget_run hsentinel
  obtain ⟨hname, hmax, hmin⟩ := resolveBudget_sentinel hmode st.status.allowSentinel reply.toOption
    (Resources.sentinelPDB st.cluster
      (computeSentinelPDBMinAvailable st.cluster st.status.allowSentinel))
  refine ⟨reply, applied, result, by simp [Resources.sentinelPDB, sentinelPDBName], by simp, ?_, ?_,
    ?_, fun pdb r hmem hpdb => ?_⟩
  · rw [happlied]
    exact hname
  · rw [happlied]
    exact hmax
  · rw [happlied]
    exact hmin
  · rcases mem_append.1 hmem with hmem | hmem
    · exact absurd hpdb (hother pdb r hmem)
    rw [append_nil] at hmem
    rcases mem_cons.1 hmem with heq | hmem
    · cases heq
    rcases mem_cons.1 hmem with heq | hmem
    · cases heq
      rfl
    · obtain ⟨ev, hev⟩ := hrest _ hmem
      cases hev

end

/-! ## The budget of the user -/

/-- The budget of the spec. -/
def userBudget (cr : KeyValCluster) : PDBSpec := cr.spec.sentinelPDB.getD {}

/-- The spec sets one of the two bounds. -/
def SetsOne (spec : PDBSpec) : Prop := spec.minAvailable.isSome ≠ spec.maxUnavailable.isSome

instance (spec : PDBSpec) : Decidable (SetsOne spec) := inferInstanceAs (Decidable (_ ≠ _))

/-- The Sentinel budget is applied, with the bound of the spec in its field and the other one not
set. -/
def AppliesUserBudget (cr : KeyValCluster) (t : Trace) : Prop :=
  (∃ pdb r, ⟨.applyPDB pdb, r⟩ ∈ t ∧ pdb.name = sentinelPDBName cr) ∧
  ∀ pdb r, ⟨.applyPDB pdb, r⟩ ∈ t → pdb.name = sentinelPDBName cr →
    pdb.minAvailable = (userBudget cr).minAvailable ∧
      pdb.maxUnavailable = (userBudget cr).maxUnavailable

/-- In every run of the phase in Sentinel mode the budget of the user is applied exactly when it is
a minimum, given as a number, that is the one the operator computes. -/
theorem appliesUserBudget_iff {st : State} {stored : Option PodDisruptionBudget}
    {t : Trace} {o : DisruptionMinimums} (hmode : st.cluster.spec.mode = .sentinel)
    (hone : SetsOne (userBudget st.cluster)) (hrun : (pdb st).Runs t o)
    (hstored : ∀ r, ⟨.getPDB st.cluster.ns (sentinelPDBName st.cluster), r⟩ ∈ t →
      r.toOption = stored) :
    AppliesUserBudget st.cluster t ↔
      (userBudget st.cluster).minAvailable =
        some (.int (sentinelMinimum st.cluster st.status.allowSentinel stored)) := by
  obtain ⟨reply, applied, result, hread, happly, hname, hmax, hmin, honly⟩ := pdb_run hmode hrun
  rw [hstored reply hread] at hmin
  constructor
  · rintro ⟨-, hcarries⟩
    rw [← (hcarries applied result happly hname).1, hmin]
  · intro hvalue
    refine ⟨⟨applied, result, happly, hname⟩, fun pdb r hmem hpdb => ?_⟩
    rw [honly pdb r hmem hpdb]
    refine ⟨hmin.trans hvalue.symm, hmax.trans ?_⟩
    have hunset : (userBudget st.cluster).maxUnavailable.isSome = false := by
      simpa [SetsOne, hvalue] using hone
    exact (Option.not_isSome_iff_eq_none.1 (by simp [hunset])).symm

/-- A cluster with this budget. -/
def budgetA (spec : PDBSpec) : State where
  cluster := { clusterA with spec := { clusterA.spec with sentinelPDB := some spec } }

/-- No budget is stored. -/
def noBudgets : Replies
  | .getPDB _ _ => .error { msg := "not found", reason := .notFound }
  | .applyPDB _ => .ok ()
  | q => q.unavailable

theorem appliesUserBudget_three : ∃ t o,
    (pdb (budgetA { minAvailable := some (.int 3) })).Runs t o ∧
    AppliesUserBudget (budgetA { minAvailable := some (.int 3) }).cluster t := by
  obtain ⟨t, o, hrun, hrep⟩ :=
    exists_run noBudgets (pdb (budgetA { minAvailable := some (.int 3) }))
  have hnone : ∀ r, ⟨.getPDB "prod" "a-sentinel", r⟩ ∈ t → r.toOption = none := by
    intro r hmem
    have hr : r = noBudgets (.getPDB "prod" "a-sentinel") := hrep _ hmem
    rw [hr]
    rfl
  exact ⟨t, o, hrun, (appliesUserBudget_iff rfl (by decide) hrun hnone).2 (by decide)⟩

/-- One Sentinel may be unavailable by the spec, and the budget that is applied allows none. -/
theorem maxUnavailable_is_dropped :
    SetsOne (userBudget (budgetA { maxUnavailable := some (.int 1) }).cluster) ∧
    ∃ t o applied r, (pdb (budgetA { maxUnavailable := some (.int 1) })).Runs t o ∧
      ⟨.applyPDB applied, r⟩ ∈ t ∧ applied.name = "a-sentinel" ∧
      applied.minAvailable = some (.int 3) ∧ applied.maxUnavailable = none ∧
      ¬ AppliesUserBudget (budgetA { maxUnavailable := some (.int 1) }).cluster t := by
  refine ⟨by decide, ?_⟩
  obtain ⟨t, o, hrun, hrep⟩ := exists_run noBudgets
    (pdb (budgetA { maxUnavailable := some (.int 1) }))
  obtain ⟨reply, applied, result, hread, happly, hname, hmax, hmin, -⟩ := pdb_run rfl hrun
  have hreply : reply = noBudgets (.getPDB "prod" "a-sentinel") := hrep _ hread
  rw [hreply] at hmin
  refine ⟨t, o, applied, result, hrun, happly, hname, hmin, hmax, fun h => ?_⟩
  have hcarried := (h.2 applied _ happly hname).2
  rw [hmax] at hcarried
  cases hcarried

end Keyval.Phases
