import KeyvalOperator.Finalizer
import KeyvalOperator.Lib.History
import KeyvalOperator.Proof.Runtime
import KeyvalOperator.Proof.Secrets

/-!
# The finalizer

What one call of the finalizer deletes, and when it releases the custom resource.

* `run_deletesAllowed`: **claims are deleted only when allowed**, and the custom resource is
  released only with a reason.
* `run_releases_iff`: when a call after the timeout releases the custom resource.
* `handleDeletionFully_refines`: the deletion of the controller with the finalizer in it.
-/

namespace Keyval.Finalizer

open Go Interact Interact.Prog History List

variable {cr : KeyValCluster} {o : KeyValCluster × Option Error} {t1 t2 : Trace} {e : Event Op}
  {result : Storage.CleanupResult} {startedAt : Time} {F : Formats} {deps : Dependencies}
  {t : Trace} {s : Storage.CleanupResult × Int} {reason message : String}

/-! ## Requests -/

/-- A request of the cleanup itself. -/
def CleanupReq (cr : KeyValCluster) : Req → Prop
  | .listStatefulSets .. | .patchReplicas .. | .listPVCs _ | .deletePVC .. => True
  | .listPods _ matchLabels => matchLabels = clusterSelector cr
  | _ => False

/-- The request is none of the cleanup. -/
def Aside (cr : KeyValCluster) (q : Req) : Prop := ¬ CleanupReq cr q

/-- The reply ends the cleanup with an error. -/
def Fails (cr : KeyValCluster) : Event Op → Prop
  | ⟨.listStatefulSets .., .error _⟩ => True
  | ⟨.patchReplicas .., .error e⟩ => e.reason ≠ .notFound
  | ⟨.listPods _ matchLabels, .error _⟩ => matchLabels = clusterSelector cr
  | ⟨.listPVCs _, .error _⟩ => True
  | ⟨.deletePVC .., .error e⟩ => e.reason ≠ .notFound
  | _ => False

/-- A listing of the cluster's pods shows each of them terminating. -/
def ShowsDrained (cr : KeyValCluster) (e : Event Op) : Prop :=
  ∃ pods, e = ⟨.listPods cr.ns (clusterSelector cr), .ok pods⟩ ∧
    ∀ p ∈ pods, p.deletionTimestamp.isSome

/-- No request of the cleanup fails, and a listing shows the pods drained. -/
def Drains (cr : KeyValCluster) (t : Trace) : Prop :=
  (∀ e ∈ t, ¬ Fails cr e) ∧ ∃ e ∈ t, ShowsDrained cr e

/-- The request lists pods. -/
def ListsPods : Req → Prop
  | .listPods .. => True
  | _ => False

/-- The request deletes a claim. -/
def DeletesPVC : Req → Prop
  | .deletePVC .. => True
  | _ => False

/-- The event deletes a claim, or may have: a claim that is not found is not deleted. -/
def Deletes : Event Op → Bool
  | ⟨.deletePVC .., .ok _⟩ => true
  | ⟨.deletePVC .., .error e⟩ => e.reason ≠ .notFound
  | _ => false

/-- The number of claims deleted. -/
def deletions (t : Trace) : Nat := t.countP Deletes

theorem Aside.not_fails (h : Aside cr e.req) : ¬ Fails cr e := by
  obtain ⟨q, r⟩ := e
  intro hf
  apply h
  cases q <;> first | trivial | exact hf.elim | skip
  cases r with
  | error e => exact hf
  | ok pods => exact hf.elim

theorem Aside.not_showsDrained (h : Aside cr e.req) : ¬ ShowsDrained cr e := by
  rintro ⟨pods, rfl, -⟩
  exact h rfl

theorem not_showsDrained (h : ¬ ListsPods e.req) : ¬ ShowsDrained cr e := by
  rintro ⟨pods, rfl, -⟩
  exact h trivial

theorem drains_append (h : ∀ e ∈ t1, ¬ Fails cr e ∧ ¬ ShowsDrained cr e) :
    Drains cr (t1 ++ t2) ↔ Drains cr t2 := by
  constructor
  · rintro ⟨hfails, e, he, hs⟩
    refine ⟨fun e he => hfails e (mem_append_right _ he), e, ?_, hs⟩
    rcases mem_append.1 he with he | he
    · exact absurd hs (h e he).2
    · exact he
  · rintro ⟨hfails, e, he, hs⟩
    exact ⟨forall_mem_append.2 ⟨fun e he => (h e he).1, hfails⟩, e, mem_append_right _ he, hs⟩

theorem drains_append_aside
    (h : ∀ e ∈ t2, Aside cr e.req) : Drains cr (t1 ++ t2) ↔ Drains cr t1 := by
  have hcomm : Drains cr (t1 ++ t2) ↔ Drains cr (t2 ++ t1) := by
    simp only [Drains, mem_append, or_comm]
  exact hcomm.trans (drains_append fun e he => ⟨(h e he).not_fails, (h e he).not_showsDrained⟩)

theorem Drains.append_iff (h : Drains cr t1) : Drains cr (t1 ++ t2) ↔ ∀ e ∈ t2, ¬ Fails cr e := by
  obtain ⟨hfails, e, he, hs⟩ := h
  constructor
  · intro h e he
    exact h.1 e (mem_append_right _ he)
  · intro h
    exact ⟨forall_mem_append.2 ⟨hfails, h⟩, e, mem_append_left _ he, hs⟩

theorem Aside.not_deletesPVC {q : Req} (h : Aside cr q) : ¬ DeletesPVC q := by
  cases q <;> first | exact id | exact fun _ => h trivial

theorem not_deletes (h : ¬ DeletesPVC e.req) : Deletes e = false := by
  obtain ⟨q, r⟩ := e
  cases q <;> first | rfl | exact absurd trivial h

theorem deletions_eq_zero {t : Trace} (h : ∀ e ∈ t, ¬ DeletesPVC e.req) : deletions t = 0 :=
  countP_eq_zero.2 fun e he => by simp [not_deletes (h e he)]

theorem deletions_append (t1 t2 : Trace) :
    deletions (t1 ++ t2) = deletions t1 + deletions t2 := countP_append

/-! ### Requests aside of the cleanup -/

section
variable (F : Formats) (deps : Dependencies) (cr : KeyValCluster)

theorem app_ne_clusterSelector (v : String) :
    Finmap.singleton labelAppKey v ≠ clusterSelector cr := by
  intro h
  have hmem : labelAppKey ∈ clusterSelector cr := by
    rw [← h]
    exact (Finmap.mem_singleton _ _ _).2 rfl
  exact absurd ((Finmap.mem_singleton _ _ _).1 hmem) (by decide)

theorem topologyReq_aside {q : Req} (h : TopologyReq q) : Aside cr q := by
  cases q <;> first | exact id | exact h.elim

theorem fromSpec_asks : Asks (Aside cr) (Security.fromSpec F cr) := by
  refine (Security.fromSpec_asks F cr).mono fun q h => ?_
  cases q <;> first | exact id | exact h.elim

theorem alignReplication_asks : Asks (Aside cr) (alignReplication F deps cr) := by
  unfold alignReplication
  split
  · exact .ret _
  refine .call (app_ne_clusterSelector cr _) fun r _ => ?_
  cases r with
  | error e => exact .ret _
  | ok pods =>
    dsimp only [bind_eq, ret_bind]
    split
    · exact .ret _
    refine (fromSpec_asks F cr).bind fun r => ?_
    cases r with
    | error e => exact .ret _
    | ok settings =>
      refine Issues.bind ?_ fun _ => .ret _
      exact (Replication.ensureTopology_asks _ F).mono fun _ => topologyReq_aside cr

theorem unlockDisruptions_asks : Asks (Aside cr) (unlockDisruptions cr) := by
  refine .call id fun _ _ => ?_
  dsimp only [bind_eq, ret_bind]
  split
  · exact .call id fun _ _ => .ret _
  · exact .ret _

theorem clearFinalizerStart_asks (cr' : KeyValCluster) :
    Asks (Aside cr) (clearFinalizerStart cr') := by
  unfold clearFinalizerStart
  split
  · exact .call id fun _ _ => .ret _
  · exact .ret _

theorem setStorageCleanupCondition_asks (cr' : KeyValCluster) (status : ConditionStatus)
    (reason message : String) :
    Asks (Aside cr) (setStorageCleanupCondition cr' status reason message) := by
  unfold setStorageCleanupCondition setStatusCondition
  refine Issues.bind ?_ fun _ => .call id fun _ _ => .ret _
  split
  · exact .call id fun _ _ => .ret _
  · dsimp only
    split
    · exact .ret _
    · exact .call id fun _ _ => .ret _

theorem failCleanup_asks (cr' : KeyValCluster) (reason message : String) (err : Error) :
    Asks (Aside cr) (failCleanup cr' reason message err) :=
  (setStorageCleanupCondition_asks cr cr' _ _ _).bind fun _ => .ret _

theorem keepPVCs_asks (cr' : KeyValCluster) (reason message : String) :
    Asks (Aside cr) (keepPVCs cr' reason message) :=
  (clearFinalizerStart_asks cr cr').bind fun _ =>
    (setStorageCleanupCondition_asks cr _ _ _ _).bind fun _ => .ret _

theorem settle_asks (cr' : KeyValCluster) (startedAt : Time) (result : Storage.CleanupResult) :
    Asks (Aside cr) (settle deps cr' startedAt result) := by
  refine .call id fun now _ => ?_
  dsimp only [bind_eq, ret_bind]
  split
  · refine (clearFinalizerStart_asks cr cr').bind fun _ => ?_
    exact (setStorageCleanupCondition_asks cr _ _ _ _).bind fun _ => .call id fun _ _ => .ret _
  · refine (setStorageCleanupCondition_asks cr _ _ _ _).bind fun _ => ?_
    split
    · exact (clearFinalizerStart_asks cr _).bind fun _ => .call id fun _ _ => .ret _
    · exact .ret _

end

/-! ## The stages of a call -/

theorem settle_run (h : (settle deps cr startedAt result).Runs t o) :
    ∃ now, ⟨.now, now⟩ ∈ t ∧
      (o.2 = none ↔ result.pending = [] ∨ deps.cleanupTimeout < timeSub now startedAt) := by
  obtain ⟨now, t', rfl, hrest⟩ := runs_call.1 h
  refine ⟨now, .head _, ?_⟩
  rw [ret_bind] at hrest
  split at hrest
  · next hnil =>
    obtain ⟨t1, cr1, t2, -, -, h1⟩ := runs_bind.1 hrest
    obtain ⟨t3, cr2, t4, -, -, h2⟩ := runs_bind.1 h1
    obtain ⟨u, t5, -, h3⟩ := runs_call.1 h2
    obtain ⟨-, rfl⟩ := runs_ret.1 h3
    simp [hnil]
  · next hnil =>
    obtain ⟨t1, cr1, t2, -, -, h1⟩ := runs_bind.1 hrest
    split at h1
    · next hover =>
      obtain ⟨t3, cr2, t4, -, -, h2⟩ := runs_bind.1 h1
      obtain ⟨u, t5, -, h3⟩ := runs_call.1 h2
      obtain ⟨-, rfl⟩ := runs_ret.1 h3
      simp [hover]
    · next hover =>
      obtain ⟨-, rfl⟩ := runs_ret.1 h1
      simp [hnil, hover]

theorem failCleanup_run {err : Error} (h : (failCleanup cr reason message err).Runs t o) :
    o.2 = some err := by
  obtain ⟨t1, cr1, t2, -, -, h1⟩ := runs_bind.1 h
  obtain ⟨-, rfl⟩ := runs_ret.1 h1
  rfl

theorem keepPVCs_run (h : (keepPVCs cr reason message).Runs t o) : o.2 = none := by
  obtain ⟨t1, cr1, t2, -, -, h1⟩ := runs_bind.1 h
  obtain ⟨t3, cr2, t4, -, -, h2⟩ := runs_bind.1 h1
  obtain ⟨-, rfl⟩ := runs_ret.1 h2
  rfl

/-- The runs of `cleanUp`. -/
inductive CleanUpRun (deps : Dependencies) (cr : KeyValCluster) (startedAt : Time) :
    Trace → Option Error → Prop
  | undrained {td te : Trace} {e err : Error} :
      (drainStatefulSets cr).Runs td (some e) → (∀ e ∈ te, Aside cr e.req) →
      CleanUpRun deps cr startedAt (td ++ te) (some err)
  | drained {td tc te : Trace} {result : Storage.CleanupResult} {e err : Option Error} :
      (drainStatefulSets cr).Runs td none →
      (Storage.cleanupPVCs cr deps.cleanupBatchLimit).Runs tc (result, e) →
      (∀ e ∈ te, Aside cr e.req) →
      (e.isSome ∧ err.isSome ∨ e = none ∧ ∃ now, ⟨.now, now⟩ ∈ te ∧
        (err = none ↔ result.pending = [] ∨ deps.cleanupTimeout < timeSub now startedAt)) →
      CleanUpRun deps cr startedAt (td ++ (tc ++ te)) err

theorem cleanUp_run
    (h : (cleanUp deps cr startedAt).Runs t o) : CleanUpRun deps cr startedAt t o.2 := by
  obtain ⟨td, drain, t1, rfl, hdrain, h1⟩ := runs_bind.1 h
  cases drain with
  | some e =>
    rw [failCleanup_run h1]
    exact .undrained hdrain ((failCleanup_asks cr cr _ _ _).mem h1)
  | none =>
    obtain ⟨tc, ⟨result, err⟩, te, rfl, hclean, h2⟩ := runs_bind.1 h1
    cases err with
    | some e =>
      rw [failCleanup_run h2]
      exact .drained hdrain hclean ((failCleanup_asks cr cr _ _ _).mem h2) (.inl ⟨rfl, rfl⟩)
    | none =>
      exact .drained hdrain hclean ((settle_asks deps cr cr _ _).mem h2) (.inr ⟨rfl, settle_run h2⟩)

/-- The start of the cleanup: the recorded one, or a reading of the clock that is recorded. -/
inductive StartedAt (F : Formats) (cr : KeyValCluster) (t : Trace) : Time → Prop
  | recorded {started : Time} : recordedStart F cr = some started → StartedAt F cr t started
  | now {started : Time} : recordedStart F cr = none → ⟨.now, started⟩ ∈ t →
      ⟨.patchCluster cr.ns cr.name (recordStart F cr started).annotations cr.finalizers,
        .ok ()⟩ ∈ t → StartedAt F cr t started

/-- The runs of `execute`. -/
inductive ExecuteRun (F : Formats) (deps : Dependencies) (cr : KeyValCluster) :
    Trace → Option Error → Prop
  | kept {t : Trace} :
      ¬ (hasPersistentData cr = true ∧ storageCleanupEnabled cr = true) →
      (∀ e ∈ t, Aside cr e.req) → ExecuteRun F deps cr t none
  | unmarked {t : Trace} {err : Error} : recordedStart F cr = none →
      hasPersistentData cr = true → storageCleanupEnabled cr = true →
      (∀ e ∈ t, Aside cr e.req) → ExecuteRun F deps cr t (some err)
  | started {t0 t1 : Trace} {startedAt : Time} {annotations : Map String}
      {err : Option Error} :
      hasPersistentData cr = true → storageCleanupEnabled cr = true →
      (∀ e ∈ t0, Aside cr e.req) → StartedAt F cr t0 startedAt →
      CleanUpRun deps { cr with annotations } startedAt t1 err →
      ExecuteRun F deps cr (t0 ++ t1) err

theorem ensureFinalizerStart_run {cr' : KeyValCluster} {r : Result Time}
    (h : (ensureFinalizerStart F cr).Runs t (cr', r)) :
    (∀ e ∈ t, Aside cr e.req) ∧ (∃ annotations, cr' = { cr with annotations }) ∧
      ((∃ startedAt, r = .ok startedAt ∧ StartedAt F cr t startedAt) ∨
        (∃ e, r = .error e) ∧ recordedStart F cr = none) := by
  unfold ensureFinalizerStart at h
  cases hstart : recordedStart F cr with
  | some started =>
    simp only [hstart, pure_eq, runs_ret] at h
    obtain ⟨rfl, heq⟩ := h
    obtain ⟨rfl, rfl⟩ := Prod.mk.inj heq
    exact ⟨forall_mem_nil _, ⟨cr'.annotations, rfl⟩, .inl ⟨_, rfl, .recorded hstart⟩⟩
  | none =>
    simp only [hstart] at h
    obtain ⟨started, t1, rfl, h1⟩ := runs_asked.1 h
    obtain ⟨r1, t2, rfl, h2⟩ := runs_asked.1 h1
    cases r1 with
    | error e =>
      obtain ⟨rfl, heq⟩ := runs_ret.1 h2
      obtain ⟨rfl, rfl⟩ := Prod.mk.inj heq
      refine ⟨?_, ⟨_, rfl⟩, .inr ⟨⟨e, rfl⟩, rfl⟩⟩
      simp [Aside, CleanupReq]
    | ok u =>
      obtain ⟨u', t3, rfl, h3⟩ := runs_call.1 h2
      obtain ⟨rfl, heq⟩ := runs_ret.1 h3
      obtain ⟨rfl, rfl⟩ := Prod.mk.inj heq
      refine ⟨?_, ⟨_, rfl⟩, .inl ⟨_, rfl, .now hstart (.head _) (.tail _ (.head _))⟩⟩
      simp [Aside, CleanupReq]

theorem execute_run (h : (execute F deps cr).Runs t o) : ExecuteRun F deps cr t o.2 := by
  obtain ⟨cr2, err⟩ := o
  obtain ⟨ta, u, t1, rfl, halign, h1⟩ := runs_bind.1 h
  have ha := (alignReplication_asks F deps cr).mem halign
  split at h1
  · next hdata =>
    rw [keepPVCs_run h1]
    refine .kept (fun hboth => hdata hboth.1) ?_
    exact forall_mem_append.2 ⟨ha, (keepPVCs_asks cr cr _ _).mem h1⟩
  · next hdata =>
    split at h1
    · next hretain =>
      rw [keepPVCs_run h1]
      refine .kept (fun hboth => hretain hboth.2) ?_
      exact forall_mem_append.2 ⟨ha, (keepPVCs_asks cr cr _ _).mem h1⟩
    · next hretain =>
      have hdata := not_not.1 hdata
      have hclean := not_not.1 hretain
      obtain ⟨tu, u', t2, rfl, hunlock, h2⟩ := runs_bind.1 h1
      have hu := (unlockDisruptions_asks cr).mem hunlock
      obtain ⟨ts, ⟨cr', r⟩, t3, rfl, hstart, h3⟩ := runs_bind.1 h2
      obtain ⟨hs, ⟨annotations, rfl⟩, ⟨startedAt, rfl, hr⟩ | ⟨⟨e, rfl⟩, hr⟩⟩ :=
        ensureFinalizerStart_run hstart
      case inr =>
        rw [failCleanup_run h3]
        refine .unmarked hr hdata hclean ?_
        have hf := (failCleanup_asks cr _ _ _ _).mem h3
        exact forall_mem_append.2 ⟨ha, forall_mem_append.2 ⟨hu, forall_mem_append.2 ⟨hs, hf⟩⟩⟩
      case inl =>
        have hbefore : ∀ e ∈ ta ++ tu ++ ts, Aside cr e.req :=
          forall_mem_append.2 ⟨forall_mem_append.2 ⟨ha, hu⟩, hs⟩
        have hstarted : StartedAt F cr (ta ++ tu ++ ts) startedAt := by
          cases hr with
          | recorded hrec => exact .recorded hrec
          | now hrec hnow hpatch =>
            exact .now hrec (mem_append_right _ hnow) (mem_append_right _ hpatch)
        rw [← append_assoc, ← append_assoc]
        exact .started hdata hclean hbefore hstarted (cleanUp_run h3)

/-! ## The drain -/

theorem scaleToZero_none_iff {u : Unit} {ss : StatefulSet} {o : Unit × Option Error}
    (h : (scaleToZero u ss).Runs t o) : o.2 = none ↔ ∀ e ∈ t, ¬ Fails cr e := by
  unfold scaleToZero at h
  split at h
  · obtain ⟨rfl, rfl⟩ := runs_ret.1 h
    simp
  · obtain ⟨r, t', rfl, h1⟩ := runs_asked.1 h
    cases r with
    | error e =>
      obtain ⟨rfl, rfl⟩ := runs_ret.1 h1
      by_cases hfound : e.reason = .notFound <;> simp [hfound, Fails]
    | ok u =>
      obtain ⟨rfl, rfl⟩ := runs_ret.1 h1
      simp [Fails]

theorem showsDrained_iff {pods : List Pod} :
    ShowsDrained cr ⟨.listPods cr.ns (clusterSelector cr), .ok pods⟩ ↔ drained pods = true := by
  rw [drained, all_eq_true]
  constructor
  · rintro ⟨pods', heq, hpods⟩
    cases heq
    exact hpods
  · intro h
    exact ⟨pods, rfl, h⟩

/-- A poll ends the wait with an error or with a listing that shows the pods drained, or the wait
goes on. -/
theorem pollDrained_run {next : M (Option Error)} {o : Option Error}
    (h : (pollDrained cr next).Runs t o) :
    ∃ e t', t = e :: t' ∧
      (Fails cr e ∧ o.isSome ∧ t' = [] ∨ ShowsDrained cr e ∧ ¬ Fails cr e ∧ o = none ∧ t' = [] ∨
        ¬ ShowsDrained cr e ∧ ¬ Fails cr e ∧ next.Runs t' o) := by
  obtain ⟨r, t', rfl, h1⟩ := runs_asked.1 h
  refine ⟨_, t', rfl, ?_⟩
  cases r with
  | error e =>
    obtain ⟨rfl, rfl⟩ := runs_ret.1 h1
    exact .inl ⟨rfl, rfl, rfl⟩
  | ok pods =>
    dsimp only at h1
    split at h1
    · next hdrained =>
      obtain ⟨rfl, rfl⟩ := runs_ret.1 h1
      exact .inr (.inl ⟨showsDrained_iff.2 hdrained, id, rfl, rfl⟩)
    · next hdrained =>
      exact .inr (.inr ⟨fun hs => hdrained (showsDrained_iff.1 hs), id, h1⟩)

theorem pollsDrained_none_iff {n : Nat} {o : Option Error} (h : (pollsDrained cr n).Runs t o) :
    o = none ↔ Drains cr t := by
  induction n generalizing t with
  | zero =>
    obtain ⟨e, t', rfl, ⟨hf, hsome, rfl⟩ | ⟨hs, hf, rfl, rfl⟩ | ⟨hs, hf, h1⟩⟩ :=
      pollDrained_run h
    · obtain ⟨err, rfl⟩ := Option.isSome_iff_exists.1 hsome
      simp [Drains, hf]
    · simp [Drains, hs, hf]
    · obtain ⟨rfl, rfl⟩ := runs_ret.1 h1
      simp [Drains, hs]
  | succ n ih =>
    obtain ⟨e, t', rfl, ⟨hf, hsome, rfl⟩ | ⟨hs, hf, rfl, rfl⟩ | ⟨hs, hf, h1⟩⟩ :=
      pollDrained_run h
    · obtain ⟨err, rfl⟩ := Option.isSome_iff_exists.1 hsome
      simp [Drains, hf]
    · simp [Drains, hs, hf]
    · rw [ih h1]
      have hfirst : ∀ x ∈ [e], ¬ Fails cr x ∧ ¬ ShowsDrained cr x :=
        forall_mem_singleton.2 ⟨hf, hs⟩
      exact (drains_append hfirst).symm

theorem pollsDrained_last {n : Nat} (h : (pollsDrained cr n).Runs t none) :
    ∃ t0 e, t = t0 ++ [e] ∧ ShowsDrained cr e := by
  induction n generalizing t with
  | zero =>
    obtain ⟨e, t', rfl, ⟨-, hsome, -⟩ | ⟨hs, -, -, rfl⟩ | ⟨-, -, h1⟩⟩ := pollDrained_run h
    · cases hsome
    · exact ⟨[], e, rfl, hs⟩
    · cases (runs_ret.1 h1).2
  | succ n ih =>
    obtain ⟨e, t', rfl, ⟨-, hsome, -⟩ | ⟨hs, -, -, rfl⟩ | ⟨-, -, h1⟩⟩ := pollDrained_run h
    · cases hsome
    · exact ⟨[], e, rfl, hs⟩
    · obtain ⟨t0, e', rfl, hs'⟩ := ih h1
      exact ⟨e :: t0, e', rfl, hs'⟩

theorem scaleToZero_asks (u : Unit) (ss : StatefulSet) :
    Asks (fun q => ¬ ListsPods q ∧ ¬ DeletesPVC q) (scaleToZero u ss) := by
  unfold scaleToZero
  split
  · exact .ret _
  · refine .call ⟨id, id⟩ fun r _ => ?_
    cases r <;> exact .ret _

theorem pollsDrained_asks (n : Nat) : Asks (fun q => ¬ DeletesPVC q) (pollsDrained cr n) := by
  have hpoll : ∀ next : M (Option Error), Asks (fun q => ¬ DeletesPVC q) next →
      Asks (fun q => ¬ DeletesPVC q) (pollDrained cr next) := by
    intro next hnext
    refine .call id fun r _ => ?_
    rw [ret_bind]
    cases r with
    | error e => exact .ret _
    | ok pods =>
      dsimp only
      split
      · exact .ret _
      · exact hnext
  induction n with
  | zero => exact hpoll _ (.ret _)
  | succ n ih => exact hpoll _ ih

theorem drainStatefulSets_asks : Asks (fun q => ¬ DeletesPVC q) (drainStatefulSets cr) := by
  refine .call id fun r _ => ?_
  cases r with
  | error e => exact .ret _
  | ok items =>
    refine (Issues.forErr () fun ss _ u => (scaleToZero_asks u ss).mono fun _ h => h.2).bind
      fun r => ?_
    obtain ⟨u, err⟩ := r
    cases err with
    | some e => exact .ret _
    | none => exact .call id fun n _ => pollsDrained_asks n

/-- **The drain** meets no error exactly when none of its requests fails and a listing shows the
pods drained. -/
theorem drainStatefulSets_none_iff {o : Option Error} (h : (drainStatefulSets cr).Runs t o) :
    o = none ↔ Drains cr t := by
  obtain ⟨r, t1, rfl, h1⟩ := runs_asked.1 h
  cases r with
  | error e =>
    obtain ⟨rfl, rfl⟩ := runs_ret.1 h1
    simp [Drains, Fails]
  | ok items =>
    obtain ⟨ts, ⟨u, err⟩, t2, rfl, hscale, h2⟩ := runs_bind.1 h1
    have hscales := hscale.forErr_none_iff (Q := fun e => ¬ Fails cr e)
      fun ss _ s t o => scaleToZero_none_iff
    cases err with
    | some e =>
      obtain ⟨rfl, rfl⟩ := runs_ret.1 h2
      refine iff_of_false (by simp) fun hgood => ?_
      have hts : ∀ e ∈ ts, ¬ Fails cr e := fun e he => hgood.1 e (by simp [he])
      cases hscales.2 hts
    | none =>
      obtain ⟨n, t3, rfl, h3⟩ := runs_asked.1 h2
      have hlist := Asks.mem (Issues.forErr () fun ss _ u => scaleToZero_asks u ss) hscale
      -- before the first poll nothing fails and no pod is listed
      have hbefore : ∀ e ∈ (⟨.listStatefulSets cr.ns (clusterSelector cr), .ok items⟩ : Event Op)
          :: (ts ++ [⟨.polls, n⟩]), ¬ Fails cr e ∧ ¬ ShowsDrained cr e := by
        rw [forall_mem_cons, forall_mem_append, forall_mem_singleton]
        refine ⟨⟨id, not_showsDrained id⟩, fun e he => ⟨hscales.1 rfl e he, ?_⟩,
          id, not_showsDrained id⟩
        exact not_showsDrained (hlist e he).1
      rw [pollsDrained_none_iff h3, ← drains_append hbefore]
      simp

theorem drainStatefulSets_last (h : (drainStatefulSets cr).Runs t none) :
    ∃ t0 e, t = t0 ++ [e] ∧ ShowsDrained cr e := by
  obtain ⟨r, t1, rfl, h1⟩ := runs_asked.1 h
  cases r with
  | error e => cases (runs_ret.1 h1).2
  | ok items =>
    obtain ⟨ts, ⟨u, err⟩, t2, rfl, -, h2⟩ := runs_bind.1 h1
    cases err with
    | some e => cases (runs_ret.1 h2).2
    | none =>
      obtain ⟨n, t3, rfl, h3⟩ := runs_asked.1 h2
      obtain ⟨t0, e, rfl, hs⟩ := pollsDrained_last h3
      refine ⟨⟨.listStatefulSets cr.ns (clusterSelector cr), .ok items⟩ ::
        (ts ++ ⟨.polls, n⟩ :: t0), e, ?_, hs⟩
      simp

/-! ## The claims -/

section
variable {limit : Int}

theorem cleanupPVC_run (cr : KeyValCluster) {pvc : PersistentVolumeClaim}
    {o : (Storage.CleanupResult × Int) × Option Error}
    (h : (Storage.cleanupPVC limit s pvc).Runs t o) :
    o.1.1.pending = s.1.pending ++ [pvc.name] ∧ (o.2 = none ↔ ∀ e ∈ t, ¬ Fails cr e) ∧
      (∀ e ∈ t, ¬ ListsPods e.req) ∧
      (deletions t = 0 ∧ o.1.2 = s.2 ∨ deletions t = 1 ∧ s.2 < limit ∧ o.1.2 ≤ s.2 + 1 ∧
        (o.2 = none → o.1.2 = s.2 + 1)) := by
  unfold Storage.cleanupPVC at h
  split at h
  · obtain ⟨rfl, rfl⟩ := runs_ret.1 h
    simp [deletions]
  · next hgo =>
    obtain ⟨-, hlimit⟩ := not_or.1 hgo
    obtain ⟨r, t', rfl, h1⟩ := runs_asked.1 h
    cases r with
    | error e =>
      dsimp only at h1
      split at h1
      · next hfound =>
        obtain ⟨rfl, rfl⟩ := runs_ret.1 h1
        simp [deletions, Deletes, Fails, ListsPods, hfound]
      · next hfound =>
        obtain ⟨rfl, rfl⟩ := runs_ret.1 h1
        simp [deletions, Deletes, Fails, ListsPods, hfound, not_le.1 hlimit]
    | ok u =>
      obtain ⟨u', t2, rfl, h2⟩ := runs_call.1 h1
      obtain ⟨rfl, rfl⟩ := runs_ret.1 h2
      have hone : deletions [⟨.deletePVC pvc.ns pvc.name, .ok u⟩,
          ⟨.event (.storagePVCDeletionRequested pvc.name), u'⟩] = 1 := rfl
      simp [hone, Fails, ListsPods, not_le.1 hlimit]

theorem cleanupLoop_deletions (cr : KeyValCluster) {pvcs : List PersistentVolumeClaim}
    {o : (Storage.CleanupResult × Int) × Option Error}
    (h : (forErr (Storage.cleanupPVC limit) pvcs s).Runs t o) (hs : s.2 ≤ limit) :
    s.2 + deletions t ≤ limit := by
  induction pvcs generalizing s t with
  | nil =>
    obtain ⟨rfl, rfl⟩ := runs_ret.1 h
    simpa [deletions] using hs
  | cons pvc pvcs ih =>
    rcases runs_forErr_cons.1 h with ⟨e, he, hx⟩ | ⟨t1, s1, t2, rfl, hx, hxs⟩
    · obtain ⟨-, -, -, ⟨hcount, -⟩ | ⟨hcount, hlt, -⟩⟩ := cleanupPVC_run cr hx
      · rw [hcount]
        simpa using hs
      · rw [hcount]
        exact_mod_cast hlt
    · rw [deletions_append]
      obtain ⟨-, -, -, ⟨hcount, heq⟩ | ⟨hcount, hlt, -, heq⟩⟩ := cleanupPVC_run cr hx
      · dsimp only at heq
        have hrest := ih hxs (heq ▸ hs)
        omega
      · have heq : s1.2 = s.2 + 1 := heq rfl
        have hrest := ih hxs (by omega)
        omega

section
variable (hdata : hasPersistentData cr = true)
include hdata

theorem cleanupPVCs_run {err : Option Error}
    (h : (Storage.cleanupPVCs cr limit).Runs t (result, err)) :
    (∃ e, t = [⟨.listPVCs cr.ns, .error e⟩] ∧ err.isSome) ∨
      ∃ items t' s, t = ⟨.listPVCs cr.ns, .ok items⟩ :: t' ∧
        (forErr (Storage.cleanupPVC (if limit ≤ 0 then Storage.cleanupBatchDefault else limit))
          (items.filter (pvcBelongsToCluster cr)) ({}, 0)).Runs t' (s, err) ∧
        (err = none → result.pending = Storage.sortStrings s.1.pending) := by
  unfold Storage.cleanupPVCs at h
  rw [if_neg (not_not.2 hdata)] at h
  obtain ⟨t1, r, t2, rfl, hlist, h1⟩ := runs_bind.1 h
  obtain ⟨r', t3, rfl, h2⟩ := runs_asked.1 hlist
  cases r' with
  | error e =>
    obtain ⟨rfl, rfl⟩ := runs_ret.1 h2
    obtain ⟨rfl, heq⟩ := runs_ret.1 h1
    obtain ⟨-, rfl⟩ := Prod.mk.inj heq
    exact .inl ⟨e, rfl, rfl⟩
  | ok items =>
    obtain ⟨rfl, rfl⟩ := runs_ret.1 h2
    obtain ⟨t4, ⟨s, err'⟩, t5, rfl, hloop, h3⟩ := runs_bind.1 h1
    refine .inr ⟨items, t4 ++ t5, s, rfl, ?_⟩
    cases err' with
    | some e =>
      obtain ⟨rfl, heq⟩ := runs_ret.1 h3
      obtain ⟨-, rfl⟩ := Prod.mk.inj heq
      rw [append_nil]
      exact ⟨hloop, fun hnone => by cases hnone⟩
    | none =>
      obtain ⟨rfl, heq⟩ := runs_ret.1 h3
      obtain ⟨rfl, rfl⟩ := Prod.mk.inj heq
      rw [append_nil]
      exact ⟨hloop, fun _ => rfl⟩

/-- **The deletion of the claims** meets no error exactly when none of its requests fails. -/
theorem cleanupPVCs_none_iff {err : Option Error}
    (h : (Storage.cleanupPVCs cr limit).Runs t (result, err)) :
    err = none ↔ ∀ e ∈ t, ¬ Fails cr e := by
  rcases cleanupPVCs_run hdata h with ⟨e, rfl, hsome⟩ | ⟨items, t', s, rfl, hloop, -⟩
  · obtain ⟨err', rfl⟩ := Option.isSome_iff_exists.1 hsome
    simp [Fails]
  · rw [forall_mem_cons]
    refine (hloop.forErr_none_iff (Q := fun e => ¬ Fails cr e) ?_).trans
      (and_iff_right (show ¬ Fails cr ⟨.listPVCs cr.ns, .ok items⟩ from id)).symm
    intro pvc _ s t o hx
    exact (cleanupPVC_run cr hx).2.1

/-- **Batch limit.** -/
theorem cleanupPVCs_deletions {o : Storage.CleanupResult × Option Error}
    (hlimit : 0 < limit)
    (h : (Storage.cleanupPVCs cr limit).Runs t o) : deletions t ≤ limit := by
  obtain ⟨result, err⟩ := o
  rcases cleanupPVCs_run hdata h with ⟨e, rfl, -⟩ | ⟨items, t', s, rfl, hloop, -⟩
  · exact_mod_cast hlimit.le
  · rw [if_neg (not_le.2 hlimit)] at hloop
    have hcount := cleanupLoop_deletions cr hloop hlimit.le
    simpa [deletions, Deletes] using hcount

theorem cleanupPVCs_noListing {o : Storage.CleanupResult × Option Error}
    (h : (Storage.cleanupPVCs cr limit).Runs t o) :
    ∀ e ∈ t, ¬ ListsPods e.req := by
  obtain ⟨result, err⟩ := o
  rcases cleanupPVCs_run hdata h with ⟨e, rfl, -⟩ | ⟨items, t', s, rfl, hloop, -⟩
  · simp [ListsPods]
  · refine forall_mem_cons.2 ⟨id, ?_⟩
    have hloop' := hloop.forErr_events (I := fun _ => True) (R := fun _ => True)
      (Q := fun e => ¬ ListsPods e.req) trivial (fun _ _ => trivial)
      fun pvc _ s t o _ _ hx => ⟨trivial, (cleanupPVC_run cr hx).2.2.1⟩
    exact hloop'.2

theorem cleanupPVCs_pending
    (h : (Storage.cleanupPVCs cr limit).Runs t (result, none)) :
    ∃ items, ⟨.listPVCs cr.ns, .ok items⟩ ∈ t ∧
      (result.pending = [] ↔ ∀ pvc ∈ items, pvcBelongsToCluster cr pvc = false) := by
  rcases cleanupPVCs_run hdata h with ⟨e, -, hsome⟩ | ⟨items, t', s, rfl, hloop, hpending⟩
  · cases hsome
  refine ⟨items, .head _, ?_⟩
  have hnames : s.1.pending = (items.filter (pvcBelongsToCluster cr)).map (·.name) := by
    refine hloop.forErr_inv (I := fun done _ s => s.1.pending = done.map (·.name)) rfl ?_
    intro done pvc t0 s t1 s1 _ _ hI hx
    rw [(cleanupPVC_run cr hx).1, hI, map_append, map_singleton]
  rw [hpending rfl, Storage.sortStrings, ← length_eq_zero_iff, length_insertionSort,
    length_eq_zero_iff, hnames, map_eq_nil_iff, filter_eq_nil_iff]
  simp

end

end

/-! ## What a call deletes and when it releases the custom resource -/

section
variable {err : Option Error}

theorem fails_annotations (annotations : Map String) (e : Event Op) :
    Fails { cr with annotations } e ↔ Fails cr e := by
  obtain ⟨q, r⟩ := e
  cases q <;> exact Iff.rfl

theorem drains_annotations (annotations : Map String) :
    Drains { cr with annotations } t ↔ Drains cr t := by
  simp only [Drains, fails_annotations]
  exact Iff.rfl

variable (hdata : hasPersistentData cr = true)
include hdata

theorem CleanUpRun.none_iff
    (h : CleanUpRun deps cr startedAt t err)
    (hover : ∀ r, ⟨.now, r⟩ ∈ t → deps.cleanupTimeout < timeSub r startedAt) :
    err = none ↔ Drains cr t := by
  cases h with
  | undrained hd he =>
    rw [drains_append_aside he, ← drainStatefulSets_none_iff hd]
    simp
  | drained hd hc he hend =>
    rw [((drainStatefulSets_none_iff hd).1 rfl).append_iff, forall_mem_append,
      ← cleanupPVCs_none_iff hdata hc]
    have hrest : ∀ e ∈ _, ¬ Fails cr e := fun e h => (he e h).not_fails
    rcases hend with ⟨he, herr⟩ | ⟨rfl, now, hnow, hiff⟩
    · obtain ⟨e, rfl⟩ := Option.isSome_iff_exists.1 he
      obtain ⟨err, rfl⟩ := Option.isSome_iff_exists.1 herr
      simp
    · have hlate := hover now (mem_append_right _ (mem_append_right _ hnow))
      exact iff_of_true (hiff.2 (.inr hlate)) ⟨rfl, hrest⟩

theorem CleanUpRun.deletes
    (h : CleanUpRun deps cr startedAt t err) (ht : t = t1 ++ e :: t2) (he : DeletesPVC e.req) :
    Since (ShowsDrained cr) (fun e => ListsPods e.req) t1 := by
  cases h with
  | undrained hd haside =>
    have hmem : e ∈ t1 ++ e :: t2 := by simp
    rw [← ht] at hmem
    rcases mem_append.1 hmem with hmem | hmem
    · exact absurd he (drainStatefulSets_asks.mem hd e hmem)
    · exact absurd he (haside e hmem).not_deletesPVC
  | @drained td tc te _ _ _ hd hc haside _ =>
    have hnd := drainStatefulSets_asks.mem hd
    obtain ⟨c, rfl⟩ := prefix_of_split (P := fun e => DeletesPVC e.req) ht he hnd
    rw [append_assoc, append_cancel_left_eq] at ht
    -- what lies between the drain and the deletion is part of the deletion of the claims
    have hc' : ∀ y ∈ c, ¬ ListsPods y.req := by
      intro y hy
      rcases append_eq_append_iff.1 ht with ⟨c', -, hte⟩ | ⟨c', htc, -⟩
      · exact absurd he (haside e (by simp [hte])).not_deletesPVC
      · exact cleanupPVCs_noListing hdata hc y (by simp [htc, hy])
    obtain ⟨t0, e0, rfl, hs⟩ := drainStatefulSets_last hd
    exact ⟨t0, e0, c, by simp, hs, hc'⟩

theorem CleanUpRun.deletions_le
    (hlimit : 0 < deps.cleanupBatchLimit) (h : CleanUpRun deps cr startedAt t err) :
    deletions t ≤ deps.cleanupBatchLimit := by
  cases h with
  | undrained hd he =>
    rw [deletions_append, deletions_eq_zero (drainStatefulSets_asks.mem hd),
      deletions_eq_zero fun e h => (he e h).not_deletesPVC]
    exact_mod_cast hlimit.le
  | drained hd hc he _ =>
    rw [deletions_append, deletions_append, deletions_eq_zero (drainStatefulSets_asks.mem hd),
      deletions_eq_zero fun e h => (he e h).not_deletesPVC]
    simpa using cleanupPVCs_deletions hdata hlimit hc

/-- A listing of the claims of the namespace shows none of the cluster. -/
def ShowsNoPVC (cr : KeyValCluster) (e : Event Op) : Prop :=
  ∃ items, e = ⟨.listPVCs cr.ns, .ok items⟩ ∧ ∀ pvc ∈ items, pvcBelongsToCluster cr pvc = false

theorem CleanUpRun.released
    (h : CleanUpRun deps cr startedAt t none) :
    (∃ e ∈ t, ShowsNoPVC cr e) ∨
      ∃ now, ⟨.now, now⟩ ∈ t ∧ deps.cleanupTimeout < timeSub now startedAt := by
  cases h with
  | drained hd hc he hend =>
    rcases hend with ⟨-, herr⟩ | ⟨rfl, now, hnow, hiff⟩
    · cases herr
    obtain ⟨items, hitems, hpending⟩ := cleanupPVCs_pending hdata hc
    rcases hiff.1 rfl with hnil | hlate
    · exact .inl ⟨_, by simp [hitems], items, rfl, hpending.1 hnil⟩
    · exact .inr ⟨now, by simp [hnow], hlate⟩

end

/-! ### Results -/

/-- The timeout has passed since the start of the cleanup. -/
def TimedOut (F : Formats) (deps : Dependencies) (cr : KeyValCluster) (t : Trace) :
    Prop :=
  ∃ startedAt now, StartedAt F cr t startedAt ∧ ⟨.now, now⟩ ∈ t ∧
    deps.cleanupTimeout < timeSub now startedAt

/-- The spec asks for the cleanup. -/
def CleanupOnDelete (cr : KeyValCluster) : Prop :=
  ∃ storage, cr.spec.storage = some storage ∧ storage.cleanupOnDelete = true

theorem cleanupOnDelete_of_enabled (h : storageCleanupEnabled cr = true) : CleanupOnDelete cr := by
  unfold storageCleanupEnabled at h
  cases hst : cr.spec.storage with
  | none => simp [hst] at h
  | some st =>
    simp only [hst, Bool.and_eq_true] at h
    exact ⟨st, hst, h.2⟩

theorem newPipeline_cleanupBatchLimit_pos (deps : Dependencies) :
    0 < (newPipeline deps).cleanupBatchLimit := by
  unfold newPipeline
  dsimp only
  split
  · decide
  · next h => exact not_le.1 h

theorem StartedAt.append {F : Formats} (h : StartedAt F cr t1 startedAt) :
    StartedAt F cr (t1 ++ t2) startedAt := by
  cases h with
  | recorded hrec => exact .recorded hrec
  | now hrec hnow hpatch =>
    exact .now hrec (mem_append_left _ hnow) (mem_append_left _ hpatch)

/-- **Data is deleted only when allowed.** A call deletes a claim only if the storage is persistent
and `cleanupOnDelete` is set, only after the last listing of pods has shown each pod of the cluster
terminating, and at most `CleanupBatchLimit` of them. It returns no error only if the storage is
ephemeral, the claims are retained, a listing has shown no claim of the cluster, or the timeout has
passed. -/
theorem run_deletesAllowed {F : Formats} {deps : Dependencies} {cr cr' : KeyValCluster}
    {t : Trace} {err : Option Error} (h : (run F deps cr).Runs t (cr', err)) :
    (∀ t1 e t2, t = t1 ++ e :: t2 → DeletesPVC e.req →
      hasPersistentData cr = true ∧ CleanupOnDelete cr ∧
        Since (ShowsDrained cr) (fun e => ListsPods e.req) t1) ∧
    deletions t ≤ (newPipeline deps).cleanupBatchLimit ∧
    (err = none → hasPersistentData cr = false ∨ storageCleanupEnabled cr = false ∨
      (∃ e ∈ t, ShowsNoPVC cr e) ∨ TimedOut F (newPipeline deps) cr t) := by
  have hlimit := newPipeline_cleanupBatchLimit_pos deps
  have hnodelete : ∀ {t : Trace}, (∀ e ∈ t, Aside cr e.req) →
      ∀ t1 e t2, t = t1 ++ e :: t2 → ¬ DeletesPVC e.req := by
    intro t haside t1 e t2 ht
    exact (haside e (by simp [ht])).not_deletesPVC
  have hzero : ∀ {t : Trace}, (∀ e ∈ t, Aside cr e.req) → deletions t = 0 :=
    fun haside => deletions_eq_zero fun e he => (haside e he).not_deletesPVC
  cases execute_run h with
  | kept hkeep haside =>
    refine ⟨fun t1 e t2 ht he => absurd he (hnodelete haside t1 e t2 ht), ?_, fun _ => ?_⟩
    · rw [hzero haside]
      exact_mod_cast hlimit.le
    · rw [not_and_or, Bool.not_eq_true, Bool.not_eq_true] at hkeep
      exact hkeep.imp_right .inl
  | unmarked hrec hdata hclean haside =>
    refine ⟨fun t1 e t2 ht he => absurd he (hnodelete haside t1 e t2 ht), ?_, fun h => by cases h⟩
    rw [hzero haside]
    exact_mod_cast hlimit.le
  | @started t0 t1 startedAt annotations _ hdata hclean haside hstart hrun =>
    have hdata' : hasPersistentData { cr with annotations } = true := hdata
    refine ⟨fun u1 e u2 ht he => ⟨hdata, cleanupOnDelete_of_enabled hclean, ?_⟩, ?_, ?_⟩
    · obtain ⟨c, rfl⟩ := prefix_of_split (P := fun e => DeletesPVC e.req) ht he
        fun e he => (haside e he).not_deletesPVC
      rw [append_assoc, append_cancel_left_eq] at ht
      obtain ⟨l1, x, l2, rfl, hx, hl2⟩ := hrun.deletes hdata' ht he
      exact ⟨t0 ++ l1, x, l2, by simp, hx, hl2⟩
    · rw [deletions_append, hzero haside, Nat.zero_add]
      exact hrun.deletions_le hdata' hlimit
    · rintro rfl
      rcases hrun.released hdata' with ⟨e, he, hs⟩ | ⟨now, hnow, hlate⟩
      · exact .inr (.inr (.inl ⟨e, mem_append_right _ he, hs⟩))
      · exact .inr (.inr (.inr ⟨startedAt, now, hstart.append, mem_append_right _ hnow, hlate⟩))

/-- **Release after the timeout.** A call after the timeout returns no error exactly when, where
claims are to be deleted at all, no request of the drain or the deletion fails and a listing shows
the pods drained. -/
theorem run_releases_iff {F : Formats} {deps : Dependencies} {cr cr' : KeyValCluster}
    {t : Trace} {err : Option Error} {started : Time}
    (h : (run F deps cr).Runs t (cr', err)) (hstart : recordedStart F cr = some started)
    (hover : ∀ r, ⟨.now, r⟩ ∈ t → (newPipeline deps).cleanupTimeout < timeSub r started) :
    err = none ↔ (hasPersistentData cr = true → storageCleanupEnabled cr = true → Drains cr t) := by
  cases execute_run h with
  | kept hkeep haside =>
    refine iff_of_true rfl fun hdata hclean => ?_
    exact absurd ⟨hdata, hclean⟩ hkeep
  | unmarked hrec hdata hclean haside =>
    rw [hrec] at hstart
    cases hstart
  | @started t0 t1 startedAt annotations _ hdata hclean haside hstarted hrun =>
    obtain rfl : startedAt = started := by
      cases hstarted with
      | recorded hrec =>
        rw [hrec] at hstart
        exact Option.some.inj hstart
      | now hrec =>
        rw [hrec] at hstart
        cases hstart
    have hdata' : hasPersistentData { cr with annotations } = true := hdata
    have hrun := hrun.none_iff hdata' fun r hr => hover r (mem_append_right _ hr)
    rw [drains_annotations] at hrun
    have hbefore : Drains cr (t0 ++ t1) ↔ Drains cr t1 :=
      drains_append fun e he => ⟨(haside e he).not_fails, (haside e he).not_showsDrained⟩
    rw [hrun, hbefore]
    simp [hdata, hclean]

/-! ### Runs -/

/-- A cluster that is being deleted. -/
def deletedA : KeyValCluster where
  name := "a"
  ns := "prod"
  annotations := Finmap.singleton annotationFinalizerStarted "1"
  spec := { mode := .standalone, redisReplicas := 1, storage := some { cleanupOnDelete := true } }

/-- One claim is left. -/
def leftoverA : Replies
  | .now => (4 * minute : Int)
  | .listStatefulSets .. => .ok [{ name := "a", ns := "prod", replicas := 1 }]
  | .patchReplicas .. => .ok ()
  | .listPods .. => .ok []
  | .listPVCs _ => .ok [{ name := "data-a-0", ns := "prod" }]
  | .deletePVC .. => .ok ()
  | q => q.unavailable

/-- The API server is down. -/
def outageA : Replies
  | .now => (4 * minute : Int)
  | q => q.unavailable

/-- The finalizer with these replies. -/
def callA (r : Replies) : Trace × (KeyValCluster × Option Error) :=
  answer r (run .decimal {} deletedA)

theorem callA_runs (r : Replies) : (run .decimal {} deletedA).Runs (callA r).1 (callA r).2 :=
  runs_answer (E := Op) r _

theorem callA_overdue {r : Replies} (h : r .now = (4 * minute : Int)) :
    ∀ now, ⟨.now, now⟩ ∈ (callA r).1 → (newPipeline {}).cleanupTimeout < timeSub now (1 : Int) := by
  intro now hnow
  have hnow : now = (4 * minute : Int) := (answer_rep (E := Op) r _ _ hnow).trans h
  rw [hnow]
  decide

theorem run_deletesAllowed_leftover : ⟨.deletePVC "prod" "data-a-0", .ok ()⟩ ∈ (callA leftoverA).1 ∧
    deletions (callA leftoverA).1 ≤ (newPipeline {}).cleanupBatchLimit := by
  refine ⟨?_, (run_deletesAllowed (callA_runs leftoverA)).2.1⟩
  exact mem_of_getElem? (i := 7) rfl

theorem run_releases_leftover :
    (callA leftoverA).2.2 = none ∧ Drains deletedA (callA leftoverA).1 := by
  have hstart : recordedStart .decimal deletedA = some 1 := by decide +kernel
  have hiff := run_releases_iff (callA_runs leftoverA) hstart (callA_overdue rfl)
  have hnone : (callA leftoverA).2.2 = none := by decide +kernel
  exact ⟨hnone, hiff.1 hnone (by decide) (by decide)⟩

/-- Long after the timeout a call still fails when the StatefulSets cannot be listed. -/
theorem outage_keeps_cluster : (run .decimal {} deletedA).Runs (callA outageA).1 (callA outageA).2 ∧
    CleanupOnDelete deletedA ∧ recordedStart .decimal deletedA = some 1 ∧
    (∀ now, ⟨.now, now⟩ ∈ (callA outageA).1 →
      (newPipeline {}).cleanupTimeout < timeSub now (1 : Int)) ∧
    (callA outageA).2.2 = some (.new "drain statefulsets: unavailable") :=
  ⟨callA_runs outageA, ⟨_, rfl, rfl⟩, by decide +kernel, callA_overdue rfl, by decide +kernel⟩

end Keyval.Finalizer

namespace Keyval.Controller

open Go Interact Interact.Prog

theorem patchCluster_refines (text : String) {ns ns' name name' : String}
    {annotations annotations' : Map String} {finalizers finalizers' : List String} :
    Refines Eq (orWrap text (ask (.patchCluster ns name annotations finalizers)))
      (orWrap text (ask (.patchCluster ns' name' annotations' finalizers'))) := by
  intro t out h
  obtain ⟨r, t', rfl, hrest⟩ := runs_call.1 h
  exact ⟨⟨.patchCluster ns' name' annotations' finalizers', r⟩ :: t', out,
    runs_call.2 ⟨r, t', rfl, hrest⟩, rfl⟩

/-- **The finalizer refines its request**: a deletion with the finalizer ends as one in which the
request has the finalizer's outcome as its reply. -/
theorem handleDeletionFully_refines (F : Formats) (cr : KeyValCluster) :
    Refines Eq (handleDeletionFully F cr) (handleDeletion cr) := by
  intro t out h
  unfold handleDeletionFully at h
  unfold handleDeletion
  split at h
  · next hmem =>
    rw [if_pos hmem]
    obtain ⟨t1, r, t2, rfl, hwrap, h1⟩ := runs_bind.1 h
    obtain ⟨t3, r', t4, rfl, -, h2⟩ := runs_bind.1 hwrap
    cases r' with
    | error e =>
      obtain ⟨rfl, rfl⟩ := runs_ret.1 h2
      obtain ⟨rfl, rfl⟩ := runs_ret.1 h1
      exact ⟨[⟨.finalizeCluster, .error e⟩], _, .call _ (.ret _), rfl⟩
    | ok cr' =>
      obtain ⟨rfl, rfl⟩ := runs_ret.1 h2
      obtain ⟨t', out', hpatch, rfl⟩ := patchCluster_refines _ t2 out h1
      exact ⟨⟨.finalizeCluster, .ok ()⟩ :: t', out, .call _ hpatch, rfl⟩
  · next hmem =>
    rw [if_neg hmem]
    exact ⟨t, out, h, rfl⟩

end Keyval.Controller
