import KeyvalOperator.Proof.ImportSource
import KeyvalOperator.Proof.Requests

/-!
# Aborted reconciles and the progress of an import

The progress of an import lives in the status of the cluster, which every reconcile computes anew.
An apply conflict in the Workloads phase aborts the reconcile before the importer runs, and the
status is written without the progress.

* `prepareImport_refines`: the phases with the import in full refine those that ask for it.
* `status_run`: the status that is written has the progress that the state holds.
* `importKept_iff`: **an aborted reconcile keeps the progress exactly when there is none**.
-/

namespace Keyval.Controller

open Go Interact Interact.Prog Phases List
open Replication (runs_ask)

variable {F : Formats} {st : State} {t : Trace}

/-! ## Refinement -/

/-- The state without the progress of the import. -/
def outline (st : State) : State :=
  { st with importStatus := none, conditionOverrides := ∅, accumulator := {} }

/-- The phases end with the same error or in like states. -/
inductive SameEnd : Except Outcome State → Except Outcome State → Prop
  | ends {o o' : Outcome} : o.err = o'.err → SameEnd (.error o) (.error o')
  | goesOn {st st' : State} : outline st = outline st' → SameEnd (.ok st) (.ok st')

theorem SameEnd.refl (r : Except Outcome State) : SameEnd r r := by
  cases r with
  | error o => exact .ends rfl
  | ok st => exact .goesOn rfl

section
variable {st' : State} {err : Option Error}

theorem andThen_refines {α : Type} {p : M (Except Outcome α)} {k k' : α → M (Except Outcome State)}
    (h : ∀ a, Refines SameEnd (k a) (k' a)) : Refines SameEnd (andThen p k) (andThen p k') := by
  refine Refines.bind (.refl (R := Eq) (fun _ => rfl) p) ?_
  rintro r _ rfl
  cases r with
  | error o => exact .refl .refl _
  | ok a => exact h a

/-- The phase does nothing in an aborted reconcile; else it runs the importer. -/
theorem externalImport_run (h : (externalImport F st).Runs t (st', err)) :
    (st.abortDirective.isSome ∧ t = [] ∧ st' = st ∧ err = none) ∨
    (st.abortDirective = none ∧ (st'.abortDirective = none → outline st' = outline st)) := by
  unfold externalImport at h
  split at h
  · next habort =>
    obtain ⟨rfl, heq⟩ := runs_ret.1 h
    cases heq
    exact .inl ⟨habort, rfl, rfl, rfl⟩
  · next habort =>
    obtain ⟨t1, ⟨res, e⟩, t2, rfl, -, h1⟩ := runs_bind.1 h
    obtain ⟨-, heq⟩ := runs_ret.1 h1
    cases heq
    refine .inr ⟨by simpa using habort, fun hnone => ?_⟩
    split at hnone
    · cases hnone
    · next hgoes =>
      rw [if_neg hgoes]
      unfold State.requeueIf
      split <;> rfl

theorem abortAfterStatus_refines (st st' : State) (err : Option Error) :
    Refines SameEnd (abortAfterStatus st err) (abortWith st' err) := by
  intro t out hrun
  obtain ⟨t1, ⟨st1, cr, e⟩, t2, rfl, -, h1⟩ := runs_bind.1 hrun
  cases e with
  | some e =>
    obtain ⟨-, rfl⟩ := runs_ret.1 h1
    exact ⟨[⟨.status, .error e⟩], _, .call _ (.ret _), .ends rfl⟩
  | none =>
    obtain ⟨-, rfl⟩ := runs_ret.1 h1
    exact ⟨[⟨.status, .ok st1.status⟩], _, .call _ (.ret _), .ends rfl⟩

theorem importPhase_refines (st : State) :
    Refines SameEnd (importPhase F st) (importExternal st) := by
  intro t out hrun
  obtain ⟨t1, ⟨st1, err⟩, t2, rfl, himport, h1⟩ := runs_bind.1 hrun
  cases err with
  | some e =>
    obtain ⟨t', out', hrun', hsame⟩ := abortAfterStatus_refines st1 st (some e) t2 out h1
    exact ⟨⟨.externalImport, .error e⟩ :: t', out', .call _ hrun', hsame⟩
  | none =>
    dsimp only at h1
    cases habort : st1.abortDirective with
    | some err =>
      rw [habort] at h1
      obtain ⟨t', out', hrun', hsame⟩ := abortAfterStatus_refines st1 st err t2 out h1
      exact ⟨⟨.externalImport, .ok (some err)⟩ :: t', out', .call _ hrun', hsame⟩
    | none =>
      rw [habort] at h1
      obtain ⟨-, rfl⟩ := runs_ret.1 h1
      rcases externalImport_run himport with ⟨hsome, -, rfl, -⟩ | ⟨hnone, houtline⟩
      · rw [habort] at hsome
        cases hsome
      · refine ⟨[⟨.externalImport, .ok none⟩], .ok st, .call _ ?_, .goesOn (houtline habort)⟩
        rw [hnone]
        exact .ret _

/-- **The phases with the import in full refine those that ask for it.** -/
theorem prepareImport_refines (F : Formats) (st : State) :
    Refines SameEnd (prepareImport F st) (prepare F st) :=
  andThen_refines fun _ => andThen_refines fun _ => andThen_refines fun _ =>
    andThen_refines fun _ => andThen_refines fun _ => importPhase_refines _

/-! ## Apply conflicts -/

/-- The apply of a StatefulSet is refused because of a conflict with another field manager. -/
def Conflicts (F : Formats) : Event Op → Prop
  | ⟨.applyStatefulSet _, .error e⟩ => (detectStatefulSetApplyConflict F e).isSome
  | _ => False

/-- The request writes no status. -/
def NoStatus : Req → Prop
  | .patchStatus .. => False
  | _ => True

/-- The request writes no StatefulSet and no status. -/
def Aside : Req → Prop
  | .applyStatefulSet _ | .patchStatus .. => False
  | _ => True

theorem Aside.noStatus {q : Req} (h : Aside q) : NoStatus q := by
  cases q <;> trivial

theorem Aside.not_conflicts {F : Formats} {e : Event Op} (h : Aside e.req) : ¬ Conflicts F e := by
  obtain ⟨q, r⟩ := e
  cases q <;> first | exact h.elim | exact id

/-- What the Workloads phase leaves of its state: the cluster and the progress of the import, and an
abort directive when an apply conflicts. -/
structure Applies (F : Formats) (st : State) (t : Trace) (st' : State)
    (err : Option Error) : Prop where
  cluster : st'.cluster = st.cluster
  importStatus : st'.importStatus = st.importStatus
  aborts : (∃ e ∈ t, Conflicts F e) → err = none ∧ st'.abortDirective.isSome

theorem WorkloadReq.aside {q : Req} (h : WorkloadReq q) : Aside q := by
  cases q <;> trivial

theorem Applies.quiet (hcluster : st'.cluster = st.cluster)
    (himport : st'.importStatus = st.importStatus) (ht : ∀ e ∈ t, WorkloadReq e.req) :
    Applies F st t st' err := by
  refine ⟨hcluster, himport, ?_⟩
  rintro ⟨e, he, hconflicts⟩
  exact absurd hconflicts (ht e he).aside.not_conflicts

theorem Applies.after {st1 : State} {t1 : Trace} (h : Applies F st1 t st' err)
    (hcluster : st1.cluster = st.cluster) (himport : st1.importStatus = st.importStatus)
    (ht : ∀ e ∈ t1, ¬ Conflicts F e) : Applies F st (t1 ++ t) st' err := by
  refine ⟨h.cluster.trans hcluster, h.importStatus.trans himport, ?_⟩
  rintro ⟨e, he, hconflicts⟩
  refine h.aborts ⟨e, (mem_append.1 he).resolve_left fun he => ?_, hconflicts⟩
  exact ht e he hconflicts

theorem Applies.cons {st1 : State} {e : Event Op} (h : Applies F st1 t st' err)
    (hcluster : st1.cluster = st.cluster) (himport : st1.importStatus = st.importStatus)
    (he : ¬ Conflicts F e) : Applies F st (e :: t) st' err :=
  h.after hcluster himport (forall_mem_singleton.2 he)

theorem Applies.refused {ss : StatefulSet} {e : Error} (hcluster : st'.cluster = st.cluster)
    (himport : st'.importStatus = st.importStatus) (ht : ∀ e ∈ t, WorkloadReq e.req)
    (haborts : (detectStatefulSetApplyConflict F e).isSome → err = none ∧
      st'.abortDirective.isSome) :
    Applies F st (⟨.applyStatefulSet ss, .error e⟩ :: t) st' err := by
  refine ⟨hcluster, himport, ?_⟩
  rintro ⟨e', he', hconflicts⟩
  rcases mem_cons.1 he' with rfl | he'
  · exact haborts hconflicts
  · exact absurd hconflicts (ht e' he').aside.not_conflicts

theorem listSentinelPods_run (h : (listSentinelPods st).Runs t (st', err)) :
    Applies F st t st' err := by
  have hasks := (listSentinelPods_asks st).mem h
  obtain ⟨r, t1, rfl, h1⟩ := runs_call.1 h
  cases r with
  | error e =>
    obtain ⟨-, heq⟩ := runs_ret.1 h1
    cases heq
    exact .quiet rfl rfl hasks
  | ok pods =>
    obtain ⟨-, heq⟩ := runs_ret.1 h1
    cases heq
    refine .quiet (by simp) ?_ hasks
    unfold State.requeueIf
    split <;> rfl

theorem applySentinel_run (h : (applySentinel F st).Runs t (st', err)) :
    Applies F st t st' err := by
  -- the apply, after the present StatefulSet has been read
  have hit : ∀ {t : Trace}, (applySentinel.applyIt F st
      (sentinelStatefulSet st.cluster)).Runs t (st', err) → Applies F st t st' err := by
    intro t h
    obtain ⟨r, t1, rfl, h1⟩ := runs_asked.1 h
    cases r with
    | ok _ => exact (listSentinelPods_run h1).cons rfl rfl id
    | error e =>
      dsimp only at h1
      cases hconflict : detectStatefulSetApplyConflict F e with
      | some c =>
        rw [hconflict] at h1
        obtain ⟨_, t2, rfl, h2⟩ := runs_call.1 h1
        obtain ⟨rfl, heq⟩ := runs_ret.1 h2
        cases heq
        exact .refused rfl rfl (forall_mem_singleton.2 trivial) fun _ => ⟨rfl, rfl⟩
      | none =>
        rw [hconflict] at h1
        cases himmutable : detectSentinelImmutableCause e with
        | some c =>
          rw [himmutable] at h1
          obtain ⟨_, t2, rfl, h2⟩ := runs_call.1 h1
          refine (Applies.cons (listSentinelPods_run h2) rfl rfl ?_ : Applies F st _ st' err).cons
            rfl rfl ?_
          · exact id
          · simp [Conflicts, hconflict]
        | none =>
          rw [himmutable] at h1
          obtain ⟨_, t2, rfl, h2⟩ := runs_call.1 h1
          obtain ⟨rfl, heq⟩ := runs_ret.1 h2
          cases heq
          refine .refused rfl rfl (forall_mem_singleton.2 trivial) fun hsome => ?_
          rw [hconflict] at hsome
          cases hsome
  obtain ⟨r, t1, rfl, h1⟩ := runs_asked.1 h
  cases r with
  | ok existing => exact (hit h1).cons rfl rfl id
  | error e =>
    dsimp only at h1
    split at h1
    · obtain ⟨rfl, heq⟩ := runs_ret.1 h1
      cases heq
      exact .quiet rfl rfl (forall_mem_singleton.2 trivial)
    · exact (hit h1).cons rfl rfl id

theorem awaitPods_importStatus (h : (awaitPods st).Runs t st') :
    st'.importStatus = st.importStatus := by
  unfold awaitPods at h
  split at h
  · obtain ⟨backoff, t', -, h'⟩ := runs_call.1 h
    obtain ⟨-, rfl⟩ := runs_ret.1 h'
    rfl
  · obtain ⟨-, rfl⟩ := runs_ret.1 h
    rfl

theorem listRedisPods_run (h : (listRedisPods F st).Runs t (st', err)) :
    Applies F st t st' err := by
  obtain ⟨r, t1, rfl, h1⟩ := runs_asked.1 h
  cases r with
  | error e =>
    obtain ⟨rfl, heq⟩ := runs_ret.1 h1
    cases heq
    exact .quiet rfl rfl (forall_mem_singleton.2 trivial)
  | ok pods =>
    obtain ⟨t2, st1, t3, rfl, hawait, h2⟩ := runs_bind.1 h1
    have hcluster := awaitPods_cluster hawait
    have himport := awaitPods_importStatus hawait
    have hasks := (awaitPods_asks _).mem hawait
    split at h2
    · have hawaited := (applySentinel_run h2).after hcluster himport fun e he =>
        (hasks e he).aside.not_conflicts
      exact hawaited.cons rfl rfl id
    · obtain ⟨rfl, heq⟩ := runs_ret.1 h2
      cases heq
      rw [append_nil]
      exact .quiet hcluster himport (forall_mem_cons.2 ⟨trivial, hasks⟩)

/-- **An apply conflict sets the abort directive**, and the phase ends without an error. -/
theorem workloads_run (h : (workloads F st).Runs t (st', err)) : Applies F st t st' err := by
  have happly : ∀ {hash : String} {t : Trace},
      (applyRedis F st hash).Runs t (st', err) → Applies F st t st' err := by
    intro hash t h
    obtain ⟨t1, _, t2, rfl, hevent, h1⟩ := runs_bind.1 h
    have hasks : ∀ e ∈ t1, WorkloadReq e.req := (event_asks _ trivial).mem hevent
    refine Applies.after ?_ rfl rfl fun e he => (hasks e he).aside.not_conflicts
    obtain ⟨r, t3, rfl, h2⟩ := runs_asked.1 h1
    cases r with
    | ok _ => exact (listRedisPods_run h2).cons rfl rfl id
    | error e =>
      dsimp only at h2
      cases hconflict : detectStatefulSetApplyConflict F e with
      | some c =>
        rw [hconflict] at h2
        obtain ⟨_, t4, rfl, h3⟩ := runs_call.1 h2
        obtain ⟨rfl, heq⟩ := runs_ret.1 h3
        cases heq
        exact .refused rfl rfl (forall_mem_singleton.2 trivial) fun _ => ⟨rfl, rfl⟩
      | none =>
        rw [hconflict] at h2
        obtain ⟨_, t4, rfl, h3⟩ := runs_call.1 h2
        obtain ⟨rfl, heq⟩ := runs_ret.1 h3
        cases heq
        refine .refused rfl rfl (forall_mem_singleton.2 trivial) fun hsome => ?_
        rw [hconflict] at hsome
        cases hsome
  obtain ⟨r, t1, rfl, h1⟩ := runs_asked.1 h
  cases r with
  | ok existing => exact (happly h1).cons rfl rfl id
  | error e =>
    dsimp only at h1
    split at h1
    · obtain ⟨rfl, heq⟩ := runs_ret.1 h1
      cases heq
      exact .quiet rfl rfl (forall_mem_singleton.2 trivial)
    · exact (happly h1).cons rfl rfl id

end

/-! ## The status that is written -/

/-- A request for the time or a report. -/
def Reports : Req → Prop
  | .now | .event _ => True
  | _ => False

theorem Reports.aside {q : Req} (h : Reports q) : Aside q := by
  cases q <;> trivial

/-- The status phase: calm requests, and then the status is up to date, or it is written with the
progress of the import that the state holds. -/
theorem status_run {cr cr' : KeyValCluster} {st st' : State} {t : Trace}
    {err : Option Error} (h : (status cr st).Runs t (st', cr', err)) :
    ((∀ e ∈ t, Reports e.req) ∧ cr.status.externalImport = st.importStatus) ∨
    ∃ t0 want r, t = t0 ++ [⟨.patchStatus cr.ns cr.name want, r⟩] ∧ (∀ e ∈ t0, Reports e.req) ∧
      want.externalImport = st.importStatus := by
  have hquorum : ∀ prev want, Asks Reports (quorumEvents prev want) := by
    intro prev want
    unfold quorumEvents
    cases want with
    | none => exact .ret _
    | some want => exact Issues.bind (event_asks _ trivial) fun _ => event_asks _ trivial
  have hbootstrap : ∀ prev want master, Asks Reports (bootstrapEvents prev want master) := by
    intro prev want master
    exact Issues.bind (event_asks _ trivial) fun _ => event_asks _ trivial
  obtain ⟨now, t1, rfl, h1⟩ := runs_asked.1 h
  obtain ⟨t2, _, t3, rfl, hq, h2⟩ := runs_bind.1 h1
  obtain ⟨t4, _, t5, rfl, hb, h3⟩ := runs_bind.1 h2
  obtain ⟨t6, ⟨cr1, e1⟩, t7, rfl, hupdate, h4⟩ := runs_bind.1 h3
  obtain ⟨rfl, -⟩ := runs_ret.1 h4
  rw [append_nil]
  obtain ⟨now', t8, rfl, h5⟩ := runs_asked.1 hupdate
  have hreports : ∀ e ∈ ⟨.now, now⟩ :: (t2 ++ (t4 ++ [⟨.now, now'⟩])), Reports e.req := by
    refine forall_mem_cons.2 ⟨trivial, forall_mem_append.2 ⟨(hquorum _ _).mem hq, ?_⟩⟩
    exact forall_mem_append.2 ⟨(hbootstrap _ _ _).mem hb, forall_mem_singleton.2 trivial⟩
  dsimp only at h5
  split at h5
  · next hsame =>
    obtain ⟨rfl, -⟩ := runs_ret.1 h5
    exact .inl ⟨hreports, congrArg KeyValClusterStatus.externalImport hsame⟩
  · obtain ⟨r, t9, rfl, h6⟩ := runs_call.1 h5
    have ht9 : t9 = [] := by cases r <;> exact (runs_ret.1 h6).1
    subst ht9
    exact .inr ⟨_, _, r, by simp, hreports, rfl⟩

/-- The stored status. -/
def statusWorld : World Op KeyValClusterStatus where
  step s
    | ⟨.patchStatus _ _ status, .ok _⟩ => status
    | _ => s
  ok _ _ := True

/-- A status was written. -/
def StatusWritten (t : Trace) : Prop :=
  ∃ ns name status, ⟨.patchStatus ns name status, .ok ()⟩ ∈ t

theorem statusWorld_after {s : KeyValClusterStatus} {t : Trace}
    (h : ¬ StatusWritten t) : statusWorld.after s t = s := by
  refine statusWorld.after_inv (I := fun s' => s' = s) rfl ?_
  rintro ⟨q, r⟩ he s' rfl
  cases q with
  | patchStatus ns name status =>
    cases r with
    | error e => rfl
    | ok _ => exact absurd ⟨ns, name, status, he⟩ h
  | _ => rfl

section
variable {out : Except Outcome State}

/-- An aborted reconcile runs no import: a status that it writes has the progress of the state. -/
theorem importPhase_aborted (habort : st.abortDirective.isSome)
    (h : (importPhase F st).Runs t out) (hwritten : StatusWritten t) (s : KeyValClusterStatus) :
    (statusWorld.after s t).externalImport = st.importStatus := by
  obtain ⟨t1, ⟨st1, err⟩, t2, rfl, himport, h1⟩ := runs_bind.1 h
  rcases externalImport_run himport with ⟨-, rfl, rfl, rfl⟩ | ⟨hnone, -⟩
  · obtain ⟨err, habort⟩ := Option.isSome_iff_exists.1 habort
    dsimp only at h1
    rw [habort] at h1
    obtain ⟨t3, ⟨st2, cr, e⟩, t4, rfl, hstatus, h2⟩ := runs_bind.1 h1
    have ht4 : t4 = [] := by cases e <;> exact (runs_ret.1 h2).1
    subst ht4
    rw [nil_append, append_nil] at hwritten ⊢
    have hreport : ∀ {u : Trace}, (∀ e ∈ u, Reports e.req) → ¬ StatusWritten u := by
      rintro u hu ⟨ns, name, status, hmem⟩
      exact hu _ hmem
    rcases status_run hstatus with ⟨hreports, -⟩ | ⟨t0, want, r, rfl, hreports, hwant⟩
    · exact absurd hwritten (hreport hreports)
    · cases r with
      | ok _ =>
        rw [World.after_append]
        exact hwant
      | error e =>
        obtain ⟨ns, name, status, hmem⟩ := hwritten
        rcases mem_append.1 hmem with hmem | hmem
        · exact absurd ⟨ns, name, status, hmem⟩ (hreport hreports)
        · cases mem_singleton.1 hmem
  · rw [hnone] at habort
    cases habort

theorem importPhase_not_conflicts (h : (importPhase F st).Runs t out) :
    ∀ e ∈ t, ¬ Conflicts F e := by
  have habort : ∀ {st : State} {err : Option Error} {t : Trace},
      (abortAfterStatus (α := State) st err).Runs t out → ∀ e ∈ t, ¬ Conflicts F e := by
    intro st err t h
    obtain ⟨t1, ⟨st1, cr, e1⟩, t2, rfl, hstatus, h1⟩ := runs_bind.1 h
    have ht2 : t2 = [] := by cases e1 <;> exact (runs_ret.1 h1).1
    rw [ht2, append_nil]
    rcases status_run hstatus with ⟨hcalm, -⟩ | ⟨t0, want, r, rfl, hcalm, -⟩
    · exact fun e he => (hcalm e he).aside.not_conflicts
    · exact forall_mem_append.2
        ⟨fun e he => (hcalm e he).aside.not_conflicts, forall_mem_singleton.2 id⟩
  obtain ⟨t1, ⟨st1, err⟩, t2, rfl, himport, h1⟩ := runs_bind.1 h
  refine forall_mem_append.2 ⟨?_, ?_⟩
  · have hasks : Asks Importer.ImportReq (externalImport F st) := by
      unfold externalImport
      split
      · exact .ret _
      · exact Issues.bind (Importer.ensure_asks F _) fun _ => .ret _
    rintro ⟨q, r⟩ he
    have hq := hasks.mem himport _ he
    cases q <;> first | exact hq.elim | exact id
  · cases err with
    | some e => exact habort h1
    | none =>
      dsimp only at h1
      split at h1
      · exact habort h1
      · obtain ⟨rfl, -⟩ := runs_ret.1 h1
        exact forall_mem_nil _

/-! ## The whole reconcile -/

/-- When an apply conflicts and the status is written, the progress of the import is lost. -/
def Loses (F : Formats) (t : Trace) : Prop :=
  (∃ e ∈ t, Conflicts F e) → StatusWritten t → ∀ s, (statusWorld.after s t).externalImport = none

theorem not_statusWritten (h : ∀ e ∈ t, NoStatus e.req) : ¬ StatusWritten t :=
  fun ⟨_, _, _, hmem⟩ => h _ hmem

theorem Loses.of_unwritten (h : ∀ e ∈ t, NoStatus e.req) : Loses F t :=
  fun _ hwritten => absurd hwritten (not_statusWritten h)

theorem Loses.append {t1 : Trace} (h : Loses F t) (haside : ∀ e ∈ t1, Aside e.req) :
    Loses F (t1 ++ t) := by
  rintro ⟨e, he, hconflict⟩ ⟨ns, name, status, hmem⟩ s
  rw [World.after_append, statusWorld_after (not_statusWritten fun e he => (haside e he).noStatus)]
  refine h ⟨e, (mem_append.1 he).resolve_left fun he => ?_, hconflict⟩
    ⟨ns, name, status, (mem_append.1 hmem).resolve_left fun hmem => ?_⟩ s
  · exact (haside e he).not_conflicts hconflict
  · exact haside _ hmem

theorem workloads_noStatus (F : Formats) (st : State) : Asks NoStatus (workloads F st) :=
  workloads_asks (fun _ hq => hq.aside.noStatus) F st trivial trivial

theorem loses_importPhase {st' : State} {u : Trace} (hfresh : st'.importStatus = none)
    (haborts : (∃ e ∈ t, Conflicts F e) → st'.abortDirective.isSome)
    (hunwritten : ∀ e ∈ t, NoStatus e.req)
    (h : (andThen (orFail (ask .podMetadata)) fun (redisPods, sentinelPods) =>
      importPhase F { st' with redisPods, sentinelPods }).Runs u out) : Loses F (t ++ u) := by
  obtain ⟨t1, r, u1, rfl, h1, hok, herror⟩ := runs_andThen_orFail h
  have ht1 := runs_ask h1
  subst ht1
  rintro ⟨e, he, hconflict⟩ hwritten s
  cases r with
  | error e =>
    rw [herror e rfl] at hwritten
    refine absurd hwritten ?_
    rintro ⟨ns, name, status, hmem⟩
    rcases mem_append.1 hmem with hmem | hmem
    · exact hunwritten _ hmem
    · simp at hmem
  | ok pods =>
    have himport := hok pods rfl
    have hin : ∃ e ∈ t, Conflicts F e := by
      rcases mem_append.1 he with he | he
      · exact ⟨e, he, hconflict⟩
      rcases mem_cons.1 he with rfl | he
      · exact hconflict.elim
      · exact absurd hconflict (importPhase_not_conflicts himport e he)
    have hwritten' : StatusWritten u1 := by
      obtain ⟨ns, name, status, hmem⟩ := hwritten
      refine ⟨ns, name, status, ?_⟩
      rcases mem_append.1 hmem with hmem | hmem
      · exact (hunwritten _ hmem).elim
      · simpa using hmem
    rw [World.after_append, World.after_append]
    have habort : ({ st' with redisPods := pods.1, sentinelPods := pods.2 } :
      State).abortDirective.isSome := haborts hin
    exact (importPhase_aborted habort himport hwritten' _).trans hfresh

theorem prepareImport_loses (hfresh : st.importStatus = none)
    (h : (prepareImport F st).Runs t out) : Loses F t := by
  -- the request of a phase before the workloads
  have hask : ∀ {q : Req} {r : q.Rep} {t1 u : Trace}, (ask q).Runs t1 r →
      Aside q → Loses F u → Loses F (t1 ++ u) := by
    intro q r t1 u hrun haside hloses
    rw [runs_ask hrun]
    exact hloses.append (forall_mem_singleton.2 haside)
  have hnil : Loses F [] := .of_unwritten (forall_mem_nil _)
  obtain ⟨t1, r1, u1, rfl, h1, k1, n1⟩ := runs_andThen_orFail h
  refine hask h1 trivial ?_
  cases r1 with
  | error e => exact (n1 e rfl) ▸ hnil
  | ok s =>
  obtain ⟨t2, r2, u2, rfl, h2, k2, n2⟩ := runs_andThen_orFail (k1 s rfl)
  refine hask h2 trivial ?_
  cases r2 with
  | error e => exact (n2 e rfl) ▸ hnil
  | ok hash =>
  obtain ⟨t3, r3, u3, rfl, h3, k3, n3⟩ := runs_andThen_orFail (k2 hash rfl)
  refine hask h3 trivial ?_
  cases r3 with
  | error e => exact (n3 e rfl) ▸ hnil
  | ok _ =>
  obtain ⟨t4, st', err, u4, rfl, hworkloads, hok, herr⟩ := runs_andThen_orFailPhase (k3 () rfl)
  have happlies := workloads_run hworkloads
  have hunwritten := (workloads_noStatus F _).mem hworkloads
  cases err with
  | some e =>
    rw [herr (by simp), append_nil]
    exact .of_unwritten hunwritten
  | none =>
    exact loses_importPhase (happlies.importStatus.trans hfresh) (fun h => (happlies.aborts h).2)
      hunwritten (hok rfl)

/-- **An aborted reconcile keeps the progress of the import**, in the status that it persists,
exactly when there is none or the status is not written. -/
theorem importKept_iff (hfresh : st.importStatus = none) (h : (prepareImport F st).Runs t out)
    (hconflict : ∃ e ∈ t, Conflicts F e) :
    (statusWorld.after st.cluster.status t).externalImport = st.cluster.status.externalImport ↔
      st.cluster.status.externalImport = none ∨ ¬ StatusWritten t := by
  by_cases hwritten : StatusWritten t
  · rw [prepareImport_loses hfresh h hconflict hwritten, eq_comm]
    exact ⟨.inl, fun h => h.resolve_right (not_not.2 hwritten)⟩
  · rw [statusWorld_after hwritten]
    exact ⟨fun _ => .inr hwritten, fun _ => rfl⟩

end

/-! ### The cluster `a` -/

/-- The StatefulSet cannot be applied. -/
def conflicting : Replies
  | .security => .ok ({}, "")
  | .config => .ok "hash"
  | .services => .ok ()
  | .getStatefulSet .. => .error { Error.new "not found" with reason := .notFound }
  | .applyStatefulSet _ => .error { Error.new "conflict" with reason := .conflict }
  | .podMetadata => .ok ([], [])
  | .patchStatus .. => .ok ()
  | q => q.unavailable

/-- The cluster with this progress. -/
def stateWithImport (progress : Option ExternalImportStatus) : State where
  cluster := { soloA with status := { externalImport := progress } }

/-- The reconcile that fails so. -/
def abortedRun (progress : Option ExternalImportStatus) : Trace × Except Outcome State :=
  statusWorld.play (fun _ => conflicting) {} (prepareImport .decimal (stateWithImport progress))

theorem abortedRun_conflicts (progress : Option ExternalImportStatus) :
    ∃ e ∈ (abortedRun progress).1, Conflicts .decimal e :=
  ⟨⟨.applyStatefulSet (redisStatefulSet (stateWithImport progress).cluster),
    .error { Error.new "conflict" with reason := .conflict }⟩,
    .tail _ (.tail _ (.tail _ (.tail _ (.head _)))), rfl⟩

/-- A cluster without an import has none after the conflict. -/
theorem importKept_none :
    (statusWorld.after (stateWithImport none).cluster.status (abortedRun none).1).externalImport =
      (stateWithImport none).cluster.status.externalImport :=
  (importKept_iff rfl (World.runs_play _ _) (abortedRun_conflicts none)).2 (.inl rfl)

/-- An import in progress. -/
def progressA : ExternalImportStatus where
  state := Importer.importStateInProgress
  source := "redis://source:6379"
  mode := "Snapshot"

/-- **An apply conflict forgets an import in progress.** -/
theorem conflict_forgets_import :
    (prepareImport .decimal (stateWithImport (some progressA))).Runs
      (abortedRun (some progressA)).1 (abortedRun (some progressA)).2 ∧
    (∃ e ∈ (abortedRun (some progressA)).1, Conflicts .decimal e) ∧
    (stateWithImport (some progressA)).cluster.status.externalImport = some progressA ∧
    (statusWorld.after (stateWithImport (some progressA)).cluster.status
      (abortedRun (some progressA)).1).externalImport = none :=
  ⟨World.runs_play _ _, abortedRun_conflicts _, rfl, rfl⟩

end Keyval.Controller
