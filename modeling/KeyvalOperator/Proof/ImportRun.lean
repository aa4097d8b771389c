import KeyvalOperator.Lib.Transition
import KeyvalOperator.Proof.ImportPromotion

/-!
# Imports over many calls

Runs of `ensure` in which each call starts from the status that the call before it returned.

* `ensureSource_cases`: a call leaves the pod alone, or attaches it and goes on from there.
* `importRun_keepsData`: **a pod is attached only when it was seen empty for the same source and
  mode, and never after the import failed**.
-/

namespace Keyval.Importer

open Go Interact Interact.Prog History Transition List

variable {st : ExternalImportStatus} {spec : ExternalSourceSpec} {prev : ExternalImportStatus}
  {F : Formats}

/-! ## Runs -/

/-- A call of the import. -/
structure Call where
  opts : Options
  trace : Trace
  outcome : Outcome

/-- A call goes from the status it is given to the status it returns. -/
def CallStep (F : Formats) (s : Option ExternalImportStatus) (c : Call)
    (s' : Option ExternalImportStatus) : Prop :=
  c.opts.currentStatus = s ∧ (ensure F c.opts).Runs c.trace c.outcome ∧ s' = c.outcome.1.status

/-- A run of calls from an empty status. -/
abbrev ImportRun (F : Formats) : List Call → Option ExternalImportStatus → Prop :=
  Steps (CallStep F) none

/-- The status is of the source and the mode of the spec. -/
structure OfSpec (spec : ExternalSourceSpec) (st : ExternalImportStatus) : Prop where
  source : st.source = spec.address
  mode : st.mode = (syncMode spec).str

/-- The statuses are of one source. -/
structure SameSource (st st' : ExternalImportStatus) : Prop where
  source : st.source = st'.source
  mode : st.mode = st'.mode

theorem SameSource.rfl : SameSource st st := ⟨.refl _, .refl _⟩

theorem SameSource.trans {st st' st'' : ExternalImportStatus} (h : SameSource st st')
    (h' : SameSource st' st'') : SameSource st st'' :=
  ⟨h.source.trans h'.source, h.mode.trans h'.mode⟩

theorem stateReset_eq_false : stateReset spec prev = false ↔ OfSpec spec prev := by
  simp only [stateReset, Bool.or_eq_false_iff, decide_eq_false_iff_not, not_not]
  exact ⟨fun h => ⟨h.1, h.2⟩, fun h => ⟨h.source, h.mode⟩⟩

theorem startStatus_ofSpec (spec : ExternalSourceSpec) (prev : ExternalImportStatus) :
    OfSpec spec (startStatus spec prev) := by
  unfold startStatus
  constructor <;> (dsimp only; split_ifs <;> rfl)

theorem startStatus_eq (hspec : OfSpec spec prev) (hstate : prev.state ≠ "") :
    startStatus spec prev = prev := by
  have hreset := stateReset_eq_false.2 hspec
  unfold startStatus
  simp [hreset, hstate, ← hspec.source, ← hspec.mode]

theorem startStatus_pending (h : ¬ OfSpec spec prev ∨ prev.state = "") :
    (startStatus spec prev).state = importStatePending ∧
      (startStatus spec prev).startedAt = none := by
  have hstate : (if stateReset spec prev then "" else prev.state) = "" := by
    rcases h with h | h
    · rw [← stateReset_eq_false, Bool.not_eq_false] at h
      rw [if_pos h]
    · rw [h, ite_self]
  unfold startStatus
  simp [hstate]

theorem startStatus_not_pending (h : (startStatus spec prev).state ≠ importStatePending) :
    OfSpec spec prev ∧ startStatus spec prev = prev := by
  by_cases hspec : OfSpec spec prev
  · by_cases hstate : prev.state = ""
    · exact absurd (startStatus_pending (.inr hstate)).1 h
    · exact ⟨hspec, startStatus_eq hspec hstate⟩
  · exact absurd (startStatus_pending (.inl hspec)).1 h

/-! ## One call -/

/-- The event makes a pod a replica. -/
def AttachCommand (e : Event Op) : Prop := ∃ pod host port, e.req = .replicaOf pod host port

/-- The reply says that the pod replicates from the source: `INFO` names it, or `REPLICAOF`
succeeded. -/
def AttachesPod (src : ExternalConfig) : Event Op → Prop
  | ⟨.replicationInfo _, .ok info⟩ => attached src info = true
  | ⟨.replicaOf .., .ok ()⟩ => True
  | _ => False

/-- The event records the beginning of an import. -/
def RecordsAttempt : Event Op → Bool
  | ⟨.event (.externalImportStarted _), _⟩ => true
  | _ => false

theorem Early.not_attachCommand {e : Event Op} (h : Early e.req) : ¬ AttachCommand e := by
  rintro ⟨pod, host, port, heq⟩
  rw [heq] at h
  exact h

section
variable {opts : Options} {cfg : ExternalConfig} {pod : String} {status : ExternalImportStatus}
  {info : ReplicationInfo} {t t1 t2 : Trace} {out : Outcome} {startedAt : Time} {e : Event Op}

/-! ### The status that is returned -/

theorem SyncRun.sameSource (h : SyncRun opts spec pod info status t out) :
    ∃ st, out.1.status = some st ∧ SameSource st status := by
  cases h with
  | syncing _ hout | unready _ _ _ hout | refused _ _ hout => exact ⟨_, hout, .rfl⟩
  | following _ _ _ hout | promoted _ _ _ hout => exact ⟨_, hout, ⟨rfl, rfl⟩⟩

theorem LimitRun.sameSource (h : LimitRun opts spec pod prev info startedAt status t out) :
    ∃ st, out.1.status = some st ∧ SameSource st status := by
  cases h with
  | timedOut _ hout => exact ⟨_, hout, ⟨rfl, rfl⟩⟩
  | inTime _ hsync => exact hsync.sameSource

theorem StartRun.sameSource (h : StartRun opts spec pod prev info status t out) :
    ∃ st, out.1.status = some st ∧ SameSource st status := by
  cases h with
  | attempt _ hlimit | restarts _ _ hlimit =>
    obtain ⟨st, hst, hsame⟩ := hlimit.sameSource
    exact ⟨st, hst, hsame.source, hsame.mode⟩
  | goesOn _ _ hlimit => exact hlimit.sameSource

/-! ### The requests -/

theorem Checked.empty_of_pending (h : Checked spec pod status t)
    (hstate : status.state = importStatePending) (hon : spec.abortIfExistingData.getD true = true) :
    ∃ n ≤ 0, ⟨.dbSize pod, .ok n⟩ ∈ t := by
  cases h with
  | empty _ hn => exact ⟨_, hn, .head _⟩
  | unchecked hnot => exact absurd ⟨hstate, hon⟩ hnot

/-- A call with a source stops before it looks at the replication of the pod, or finds that the pod
has keys, or goes on to attach it. -/
inductive SourceRun (F : Formats) (opts : Options) (spec : ExternalSourceSpec)
    (prev : ExternalImportStatus) : Trace → Outcome → Prop
  | leaves {t : Trace} {out : Outcome} : (∀ e ∈ t, Prior e.req) →
      out.1.status = some prev ∨ out.1.status = some (startStatus spec prev) →
      SourceRun F opts spec prev t out
  | notEmpty {t : Trace} {detail message : String} {out : Outcome} :
      (∀ e ∈ t, Prior e.req) → (startStatus spec prev).state = importStatePending →
      out.1.status = some { startStatus spec prev with state := importStateFailed, message } →
      SourceRun F opts spec prev (t ++ [⟨.event (.externalImportFailed detail), ()⟩]) out
  | reaches {t t' : Trace} {cfg : ExternalConfig} {pod : String} {out : Outcome} :
      (startStatus spec prev).state ≠ importStateCompleted →
      (startStatus spec prev).state ≠ importStateFailed →
      (∀ e ∈ t, Prior e.req) →
      ((startStatus spec prev).state = importStatePending →
        spec.abortIfExistingData.getD true = true →
        ∃ n ≤ 0, ⟨.dbSize pod, .ok n⟩ ∈ t) →
      OfSource F spec cfg → AttachRun opts spec cfg pod prev (startStatus spec prev) t' out →
      SourceRun F opts spec prev (t ++ t') out

theorem ensureSource_cases (h : (ensureSource F opts spec prev).Runs t out) :
    SourceRun F opts spec prev t out := by
  rcases ensureSource_run h with ⟨hobstacle, -, hstatus⟩ |
    ⟨cfg, pod, t1, t2, -, -, hconfig, -, -, rfl, hrun⟩
  · exact .leaves (fun e he => (hobstacle.approaches e he).prior) hstatus
  -- the requests up to the client of the pod, and others after them
  have hprior : ∀ {t : Trace}, (∀ e ∈ t, Prior e.req) →
      ∀ e ∈ t1 ++ ⟨.redisForPod pod.name, .ok ()⟩ :: t, Prior e.req := by
    intro t ht
    refine forall_mem_append.2 ⟨fun e he => ?_, forall_mem_cons.2 ⟨trivial, ht⟩⟩
    exact ((buildExternalConfig_asks F _ spec).mem hconfig e he).prior
  have hcheck : ∀ {u u' : Trace} {r : Option Error},
      Checked spec pod.name (startStatus spec prev) u →
      (configureMasterAuth pod.name cfg.username cfg.password).Runs u' r →
      ∀ e ∈ u ++ u', Prior e.req := fun hchecked hauth =>
    forall_mem_append.2 ⟨hchecked.prior, fun e he =>
      ((configureMasterAuth_asks _ _ _).mem hauth e he).prior⟩
  cases hrun with
  | completed | failed => exact .leaves (hprior (forall_mem_nil _)) (.inr rfl)
  | noSize _ hout => exact .leaves (hprior (forall_mem_singleton.2 trivial)) (.inr hout)
  | @notEmpty n _ _ _ hpending _ hout =>
    have heq := append_cons t1 (⟨.redisForPod pod.name, .ok ()⟩ : Event Op)
    rw [heq, append_cons (t1 ++ _), append_assoc t1]
    exact .notEmpty (hprior (forall_mem_singleton.2 trivial)) hpending hout
  | noAuth _ _ hchecked hauth hout => exact .leaves (hprior (hcheck hchecked hauth)) (.inr hout)
  | @attaches u u' u'' _ hcompleted hfailed hchecked hauth hattaching =>
    rw [← append_assoc u, ← cons_append, ← append_assoc]
    refine .reaches hcompleted hfailed (hprior (hcheck hchecked hauth)) ?_
      (buildExternalConfig_source hconfig) hattaching
    intro hstate hon
    obtain ⟨n, hn, hmem⟩ := hchecked.empty_of_pending hstate hon
    exact ⟨n, hn, by simp [hmem]⟩

/-! ### The attach command -/

theorem Prior.not_attachCommand (h : Prior e.req) : ¬ AttachCommand e := h.early.not_attachCommand

theorem FinalRun.not_attachCommand (h : FinalRun prev t out) (he : e ∈ t) : ¬ AttachCommand e := by
  rintro ⟨pod, host, port, heq⟩
  obtain ⟨q, r⟩ := e
  cases heq
  cases h with
  | forgets => simp at he
  | keeps hdeclined => exact hdeclined _ he
  | promoted hclear =>
    simp only [mem_cons, mem_append, reduceCtorEq, Event.mk.injEq, false_and, or_false,
      false_or, not_mem_nil] at he
    exact (clearMasterAuth_asks _).mem hclear _ he

/-- **`REPLICAOF` comes after the check** of a pending import's target, and never in an import that
has ended. -/
theorem SourceRun.attachCommand (h : SourceRun F opts spec prev (t1 ++ e :: t2) out)
    (hon : spec.abortIfExistingData.getD true = true) (he : AttachCommand e) :
    (startStatus spec prev).state ≠ importStateCompleted ∧
    (startStatus spec prev).state ≠ importStateFailed ∧
    ((startStatus spec prev).state = importStatePending →
      ∃ pod, ∃ n ≤ 0, ⟨.dbSize pod, .ok n⟩ ∈ t1) := by
  generalize ht : t1 ++ e :: t2 = t at h
  have hmem : e ∈ t := by simp [← ht]
  cases h with
  | leaves hprior => exact absurd he (hprior e hmem).not_attachCommand
  | notEmpty hprior =>
    rcases mem_append.1 hmem with hmem | hmem
    · exact absurd he (hprior e hmem).not_attachCommand
    · cases mem_singleton.1 hmem
      obtain ⟨pod, host, port, heq⟩ := he
      cases heq
  | reaches hcompleted hfailed hprior hempty =>
    refine ⟨hcompleted, hfailed, fun hpending => ?_⟩
    obtain ⟨n, hn, hsize⟩ := hempty hpending hon
    have hprefix := prefix_of_split ht.symm he fun y hy => (hprior y hy).not_attachCommand
    exact ⟨_, n, hn, hprefix.subset hsize⟩

/-! ### The state -/

/-- The import is under way. -/
def Active (st : ExternalImportStatus) : Prop :=
  st.state ≠ "" ∧ st.state ≠ importStatePending ∧ st.state ≠ importStateCompleted ∧
    st.state ≠ importStateFailed

theorem startStatus_active (hpending : (startStatus spec prev).state ≠ importStatePending)
    (hcompleted : (startStatus spec prev).state ≠ importStateCompleted)
    (hfailed : (startStatus spec prev).state ≠ importStateFailed) :
    OfSpec spec prev ∧ startStatus spec prev = prev ∧ Active prev := by
  obtain ⟨hspec, heq⟩ := startStatus_not_pending hpending
  refine ⟨hspec, heq, fun hempty => ?_, ?_, ?_, ?_⟩
  · exact hpending (startStatus_pending (.inr hempty)).1
  all_goals
    rw [← heq]
    assumption

theorem AttachRun.sameSource (h : AttachRun opts spec cfg pod prev status t out) :
    ∃ st, out.1.status = some st ∧ SameSource st status := by
  cases h with
  | noInfo hout | unreachable _ hout | refused _ hout => exact ⟨_, hout, .rfl⟩
  | found _ hstart | attaches _ hstart => exact hstart.sameSource

/-- **An import is under way** when it was so before, for the same source, or when it was started by
this call, which saw an empty target. -/
theorem SourceRun.active (h : SourceRun F opts spec prev t out)
    (hon : spec.abortIfExistingData.getD true = true)
    (hst : out.1.status = some st) (hactive : Active st) :
    Active prev ∧ SameSource prev st ∨ ∃ pod, ∃ n ≤ 0, ⟨.dbSize pod, .ok n⟩ ∈ t := by
  have hkept : ∀ {st' : ExternalImportStatus}, out.1.status = some st' → st' = prev →
      Active prev ∧ SameSource prev st := by
    rintro _ hout rfl
    cases hst.symm.trans hout
    exact ⟨hactive, .rfl⟩
  cases h with
  | leaves _ hout =>
    rcases hout with hout | hout
    · exact .inl (hkept hout rfl)
    · cases hst.symm.trans hout
      exact .inl (hkept hst (startStatus_not_pending hactive.2.1).2)
  | notEmpty _ _ hout =>
    cases hst.symm.trans hout
    exact absurd rfl hactive.2.2.2
  | reaches hcompleted hfailed _ hempty _ hattaching =>
    by_cases hpending : (startStatus spec prev).state = importStatePending
    · obtain ⟨n, hn, hsize⟩ := hempty hpending hon
      exact .inr ⟨_, n, hn, mem_append_left _ hsize⟩
    · obtain ⟨-, heq, hprev⟩ := startStatus_active hpending hcompleted hfailed
      obtain ⟨st', hst', hsame⟩ := hattaching.sameSource
      cases hst.symm.trans hst'
      exact .inl ⟨hprev, by rw [← heq]; exact ⟨hsame.source.symm, hsame.mode.symm⟩⟩

theorem SourceRun.failed (h : SourceRun F opts spec prev t out)
    (hstate : prev.state = importStateFailed) :
    out.1.status = some prev ∨
      ¬ OfSpec spec prev ∧ ∃ st, out.1.status = some st ∧ OfSpec spec st := by
  have hstart := startStatus_ofSpec spec prev
  have heq : OfSpec spec prev → startStatus spec prev = prev := fun hof =>
    startStatus_eq hof (by rw [hstate]; decide)
  by_cases hof : OfSpec spec prev
  · cases h with
    | leaves _ hout =>
      rw [heq hof, or_self] at hout
      exact .inl hout
    | notEmpty _ hpending =>
      rw [heq hof, hstate] at hpending
      exact absurd hpending (by decide)
    | reaches _ hnot =>
      rw [heq hof] at hnot
      exact absurd hstate hnot
  · cases h with
    | leaves _ hout => exact hout.imp_right fun hout => ⟨hof, _, hout, hstart⟩
    | notEmpty _ _ hout => exact .inr ⟨hof, _, hout, hstart.source, hstart.mode⟩
    | reaches _ _ _ _ _ hattaching =>
      obtain ⟨st, hout, hsame⟩ := hattaching.sameSource
      exact .inr ⟨hof, st, hout, hsame.source.trans hstart.source, hsame.mode.trans hstart.mode⟩

theorem FinalRun.active (h : FinalRun prev t out)
    (hst : out.1.status = some st) (hactive : Active st) : st = prev := by
  cases h with
  | forgets hout => cases hst.symm.trans hout
  | keeps _ hout =>
    cases hst.symm.trans hout
    rfl
  | promoted _ hout =>
    cases hst.symm.trans hout
    exact absurd rfl hactive.2.2.1

end

/-! ## Existing data -/

/-- The call returns a status of the source and mode of `st`. -/
def Call.Keeps (st : ExternalImportStatus) (c : Call) : Prop :=
  ∃ st', c.outcome.1.status = some st' ∧ SameSource st' st

/-- Every spec of the call has `abortIfExistingData` on. -/
def Call.AbortsOnData (c : Call) : Prop :=
  ∀ spec, c.opts.spec = some spec → spec.abortIfExistingData.getD true = true

/-- No number of keys is negative. -/
def CountsKeys (c : Call) : Prop :=
  ∀ pod n, ⟨.dbSize pod, .ok n⟩ ∈ c.trace → 0 ≤ n

/-- `DBSIZE` returned 0 in the last calls of the run, which are all of the source and mode of `st`,
or in the first requests of the call after them. -/
def SeenEmpty (st : ExternalImportStatus) (calls : List Call) (t : Trace) : Prop :=
  ∃ b1 b2, calls = b1 ++ b2 ∧ (∀ c ∈ b2, c.Keeps st) ∧
    ∃ pod, ⟨.dbSize pod, .ok 0⟩ ∈ b2.flatMap Call.trace ++ t

section
variable {calls : List Call} {c : Call} {s s' : Option ExternalImportStatus}
  {st' : ExternalImportStatus}

theorem Active.some_getD (h : Active (s.getD {})) : s = some (s.getD {}) := by
  cases s with
  | none => exact absurd rfl h.1
  | some st => rfl

theorem CallStep.sourceRun (h : CallStep F s c s') (hspec : c.opts.spec = some spec) :
    SourceRun F c.opts spec (s.getD {}) c.trace c.outcome := by
  obtain ⟨rfl, hrun, -⟩ := h
  unfold ensure at hrun
  rw [hspec] at hrun
  exact ensureSource_cases hrun

theorem CallStep.finalRun (h : CallStep F s c s') (hspec : c.opts.spec = none) :
    FinalRun (s.getD {}) c.trace c.outcome := by
  obtain ⟨rfl, hrun, -⟩ := h
  unfold ensure at hrun
  rw [hspec] at hrun
  exact finalizeImport_run hrun

theorem CallStep.exists_spec (h : CallStep F s c s') {e : Event Op} (he : e ∈ c.trace)
    (hattach : AttachCommand e) : ∃ spec, c.opts.spec = some spec := by
  cases hspec : c.opts.spec with
  | none => exact absurd hattach ((h.finalRun hspec).not_attachCommand he)
  | some spec => exact ⟨spec, rfl⟩

theorem SeenEmpty.of_same (h : SeenEmpty st calls []) (hsame : SameSource st st') :
    SeenEmpty st' calls [] := by
  obtain ⟨b1, b2, hcalls, hkeeps, hempty⟩ := h
  refine ⟨b1, b2, hcalls, fun c hc => ?_, hempty⟩
  obtain ⟨st'', hst'', hsame'⟩ := hkeeps c hc
  exact ⟨st'', hst'', hsame'.trans hsame⟩

theorem SeenEmpty.snoc (h : SeenEmpty st calls []) (hc : c.Keeps st) :
    SeenEmpty st (calls ++ [c]) [] := by
  obtain ⟨b1, b2, rfl, hkeeps, pod, hempty⟩ := h
  rw [append_nil] at hempty
  refine ⟨b1, b2 ++ [c], append_assoc .., ?_, pod, by simp [hempty]⟩
  exact forall_mem_append.2 ⟨hkeeps, forall_mem_singleton.2 hc⟩

/-- **One call**: an import that is under way has seen an empty target. -/
theorem CallStep.seenEmpty (h : CallStep F s c s') (hon : c.AbortsOnData) (hcount : CountsKeys c)
    (hseen : ∀ st, s = some st → Active st → SeenEmpty st calls []) :
    ∀ st, s' = some st → Active st → SeenEmpty st (calls ++ [c]) [] := by
  intro st hst hactive
  have hout : c.outcome.1.status = some st := h.2.2.symm.trans hst
  have hkeeps : c.Keeps st := ⟨st, hout, .rfl⟩
  have hbefore : Active (s.getD {}) → SameSource (s.getD {}) st →
      SeenEmpty st (calls ++ [c]) [] := fun hprev hsame =>
    ((hseen _ hprev.some_getD hprev).of_same hsame).snoc hkeeps
  cases hspec : c.opts.spec with
  | none =>
    have heq := (h.finalRun hspec).active hout hactive
    exact hbefore (heq ▸ hactive) (heq ▸ .rfl)
  | some spec =>
    rcases (h.sourceRun hspec).active (hon spec hspec) hout hactive with ⟨hprev, hsame⟩ |
      ⟨pod, n, hn, hsize⟩
    · exact hbefore hprev hsame
    · have hzero : n = 0 := Int.le_antisymm hn (hcount pod n hsize)
      subst hzero
      exact ⟨calls, [c], rfl, forall_mem_singleton.2 hkeeps, pod, by simpa using hsize⟩

theorem CallStep.failed (h : CallStep F (some st) c s') (hstate : st.state = importStateFailed)
    (hc : c.Keeps st) : s' = some st := by
  obtain ⟨hcurrent, hrun, rfl⟩ := id h
  cases hspec : c.opts.spec with
  | none =>
    unfold ensure at hrun
    rw [hspec, hcurrent] at hrun
    exact (finalizeImport_failed hstate hrun).2
  | some spec =>
    rcases (h.sourceRun hspec).failed hstate with hout | ⟨hnot, st', hout, hof⟩
    · exact hout
    · obtain ⟨st'', hst'', hsame⟩ := hc
      cases hst''.symm.trans hout
      exact absurd ⟨hsame.source.symm.trans hof.source, hsame.mode.symm.trans hof.mode⟩ hnot

end

/-- **Existing data is not overwritten by an import.** In every run of calls from an empty status
with `abortIfExistingData` on, `REPLICAOF` is issued only when `DBSIZE` returned 0 before, in a call
since which source and mode are the same; and an import that has failed issues none until its source
or mode changes. -/
theorem importRun_keepsData {F : Formats} {calls : List Call} {s : Option ExternalImportStatus}
    (hrun : ImportRun F calls s) (hon : ∀ c ∈ calls, c.AbortsOnData)
    (hcount : ∀ c ∈ calls, CountsKeys c) :
    (∀ before c after t1 e t2, calls = before ++ c :: after → c.trace = t1 ++ e :: t2 →
      AttachCommand e →
      ∃ spec st, c.opts.spec = some spec ∧ OfSpec spec st ∧ SeenEmpty st before t1) ∧
    ∀ before c0 between c after st spec, calls = before ++ c0 :: (between ++ c :: after) →
      c0.outcome.1.status = some st → st.state = importStateFailed →
      (∀ c' ∈ between, c'.Keeps st) → c.opts.spec = some spec → OfSpec spec st →
      ∀ e ∈ c.trace, ¬ AttachCommand e := by
  have hmem : ∀ {before after : List Call} {c : Call},
      calls = before ++ c :: after → c ∈ calls := by
    rintro before after c rfl
    simp
  refine ⟨?_, ?_⟩
  · intro before c after t1 e t2 hcalls htrace he
    subst hcalls
    obtain ⟨s1, s2, hbefore, hstep, -⟩ := hrun.split
    -- the invariant of the calls before
    have hseen : ∀ st, s1 = some st → Active st → SeenEmpty st before [] := by
      refine hbefore.invariant (C := fun c => c.AbortsOnData ∧ CountsKeys c)
        (I := fun calls s => ∀ st, s = some st → Active st → SeenEmpty st calls [])
        (fun c' hc' => ⟨hon c' (by simp [hc']), hcount c' (by simp [hc'])⟩) ?_ ?_
      · rintro st ⟨⟩
      · intro calls s c' s' _ ih hc' hstep'
        exact hstep'.seenEmpty hc'.1 hc'.2 ih
    obtain ⟨spec, hspec⟩ := hstep.exists_spec (by simp [htrace]) he
    have hsource := hstep.sourceRun hspec
    rw [htrace] at hsource
    obtain ⟨hcompleted, hfailed, hempty⟩ :=
      hsource.attachCommand (hon c (hmem rfl) spec hspec) he
    by_cases hpending : (startStatus spec (s1.getD {})).state = importStatePending
    · obtain ⟨pod, n, hn, hsize⟩ := hempty hpending
      have hzero : n = 0 :=
        Int.le_antisymm hn (hcount c (hmem rfl) pod n (by simp [htrace, hsize]))
      subst hzero
      exact ⟨spec, _, hspec, startStatus_ofSpec spec {}, before, [], by simp,
        forall_mem_nil _, pod, by simpa using hsize⟩
    · obtain ⟨hof, -, hactive⟩ := startStatus_active hpending hcompleted hfailed
      obtain ⟨b1, b2, hsplit, hkeeps, pod, hsize⟩ := hseen _ hactive.some_getD hactive
      refine ⟨spec, _, hspec, hof, b1, b2, hsplit, hkeeps, pod, ?_⟩
      exact mem_append_left _ (by simpa using hsize)
  · intro before c0 between c after st spec hcalls hout hstate hkeeps hspec hof e he hattach
    subst hcalls
    obtain ⟨s0, s1, -, hstep0, hrest⟩ := hrun.split
    obtain ⟨s2, s3, hbetween, hstep, -⟩ := hrest.split
    obtain rfl : s1 = some st := hstep0.2.2.trans hout
    have hs2 : s2 = some st := by
      refine hbetween.invariant (C := Call.Keeps st) (I := fun _ s => s = some st) hkeeps rfl ?_
      rintro ls _ c' s' - rfl hc' hstep'
      exact hstep'.failed hstate hc'
    subst hs2
    have hne : st.state ≠ "" := by
      rw [hstate]
      decide
    obtain ⟨t1, t2, htrace⟩ := append_of_mem he
    have hsource := hstep.sourceRun hspec
    rw [htrace] at hsource
    have hc := hon c (by simp) spec hspec
    have hnot := (hsource.attachCommand hc hattach).2.1
    rw [Option.getD_some, startStatus_eq hof hne] at hnot
    exact hnot hstate

/-! ### Calls for the cluster `a` -/

/-- Every request succeeds, with these replies. -/
def replies (size : Int) (now : Time) (info : ReplicationInfo) : Replies
  | .dbSize _ => .ok size
  | .now => now
  | .replicationInfo _ => .ok info
  | .redisForPod _ => .ok ()
  | .configSet .. => .ok ()
  | .pingExternal .. => .ok ()
  | .replicaOf .. => .ok ()
  | q => q.unavailable

/-- A call for the pod a-0. -/
def callA (spec : ExternalSourceSpec) (st : Option ExternalImportStatus) (reply : Replies) : Call :=
  let opts := { optionsA {} [readyPod "a-0"] with spec := some spec, currentStatus := st }
  let played := redisWorld.play (fun _ => reply) (fun _ => .master) (ensure .decimal opts)
  ⟨opts, played.1, played.2⟩

theorem callA_step (spec : ExternalSourceSpec) (st : Option ExternalImportStatus)
    (reply : Replies) :
    CallStep .decimal st (callA spec st reply) (callA spec st reply).outcome.1.status := by
  unfold callA
  refine ⟨rfl, ?_, rfl⟩
  dsimp only
  exact World.runs_play _ _

/-- The first call. -/
def startsA : Call := callA sourceA none (replies 0 0 {})

/-- The first call attaches the pod, with an empty target before. -/
theorem importRun_keepsData_startsA :
    (∃ e ∈ startsA.trace, AttachCommand e) ∧ ∀ t1 e t2, startsA.trace = t1 ++ e :: t2 →
      AttachCommand e → ∃ spec st, startsA.opts.spec = some spec ∧ OfSpec spec st ∧
        SeenEmpty st [] t1 := by
  have hrun : ImportRun .decimal [startsA] startsA.outcome.1.status := .snoc .nil (callA_step ..)
  have hcount : CountsKeys startsA := by
    intro pod n hn
    obtain ⟨_, hrep⟩ := World.play_rep _ _ _ hn
    cases hrep
    decide
  refine ⟨⟨⟨.replicaOf "a-0" "source" 6379, .ok ()⟩, ?_, _, _, _, rfl⟩, fun t1 e t2 => ?_⟩
  · exact .tail _ (.tail _ (.tail _ (.tail _ (.tail _ (.tail _ (.head _))))))
  · refine (importRun_keepsData hrun ?_ (forall_mem_singleton.2 hcount)).1 [] _ [] t1 e t2 rfl
    rintro c hc spec hspec
    cases mem_singleton.1 hc
    cases hspec
    rfl

end Keyval.Importer
