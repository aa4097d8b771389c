import KeyvalOperator.Proof.ImportRun

/-!
# Progress of an import

How the state of an import moves over many calls.

* `SourceRun.progress`: a call leaves the state alone, or finds keys, or starts from an attached
  pod.
* `importRun_sparesOwnData`: **an attached pod leaves the state Pending**, in runs in which the
  source and the mode stay.
* `oneAttempt_iff`: **when a live import that follows its source is one attempt**.
-/

namespace Keyval.Importer

open Go Interact Interact.Prog History Transition List

/-- The start that the call leaves recorded. -/
def Call.startedAt (c : Call) : Option Time := c.outcome.1.status.bind (·.startedAt)

variable {F : Formats} {opts : Options} {spec : ExternalSourceSpec} {pod : String}
  {prev status st : ExternalImportStatus} {info : ReplicationInfo} {t : Trace} {out : Outcome}
  {startedAt : Time} {calls : List Call} {c : Call} {s s' : Option ExternalImportStatus}

/-! ## One call -/

section
variable {cfg : ExternalConfig} {t1 t2 : Trace} {e : Event Op}

/-- The event neither attaches a pod nor starts an attempt. -/
def Neutral (src : ExternalConfig) (e : Event Op) : Prop :=
  ¬ AttachesPod src e ∧ RecordsAttempt e = false

theorem Prior.neutral {src : ExternalConfig} (h : Prior e.req) : Neutral src e := by
  obtain ⟨q, r⟩ := e
  cases q <;> first | exact h.elim | exact ⟨id, rfl⟩

/-- A call with a source leaves the state of the import alone, or finds that the pod has keys, or
starts from an attached pod. -/
inductive Progress (F : Formats) (opts : Options) (spec : ExternalSourceSpec)
    (prev : ExternalImportStatus) : Trace → Outcome → Prop
  | leaves {t : Trace} {out : Outcome} : (∀ e ∈ t, Neutral (sourceOf F spec) e) →
      out.1.status = some prev ∨ out.1.status = some (startStatus spec prev) →
      Progress F opts spec prev t out
  | notEmpty {t : Trace} {message : String} {out : Outcome} :
      (∀ e ∈ t, Neutral (sourceOf F spec) e) →
      (startStatus spec prev).state = importStatePending →
      out.1.status = some { startStatus spec prev with state := importStateFailed, message } →
      Progress F opts spec prev t out
  | starts {t1 t2 : Trace} {pod : String} {info : ReplicationInfo} {out : Outcome} :
      (startStatus spec prev).state ≠ importStateCompleted →
      (startStatus spec prev).state ≠ importStateFailed →
      (∀ e ∈ t1, RecordsAttempt e = false) → (∃ e ∈ t1, AttachesPod (sourceOf F spec) e) →
      StartRun opts spec pod prev info (startStatus spec prev) t2 out →
      Progress F opts spec prev (t1 ++ t2) out

theorem SourceRun.progress (h : SourceRun F opts spec prev t out) :
    Progress F opts spec prev t out := by
  cases h with
  | leaves hprior hout => exact .leaves (fun e he => (hprior e he).neutral) hout
  | notEmpty hprior hpending hout =>
    refine .notEmpty (forall_mem_append.2 ⟨fun e he => (hprior e he).neutral, ?_⟩) hpending hout
    exact forall_mem_singleton.2 ⟨id, rfl⟩
  | @reaches v _ cfg pod _ hcompleted hfailed hprior _ hsource hattaching =>
    have hstays : ∀ {t : Trace}, (∀ e ∈ t, Neutral (sourceOf F spec) e) →
        ∀ e ∈ v ++ t, Neutral (sourceOf F spec) e := fun ht =>
      forall_mem_append.2 ⟨fun e he => (hprior e he).neutral, ht⟩
    have hquiet : ∀ e ∈ v, RecordsAttempt e = false := fun e he =>
      (Prior.neutral (hprior e he) : Neutral (sourceOf F spec) e).2
    -- a reply to `INFO` that names another master
    have hother : ∀ {info : ReplicationInfo}, attached cfg info = false →
        Neutral (sourceOf F spec) ⟨.replicationInfo pod, .ok info⟩ := by
      intro info hinfo
      refine ⟨fun hattaches => ?_, rfl⟩
      rw [AttachesPod, hsource.attached_eq, hinfo] at hattaches
      cases hattaches
    cases hattaching with
    | noInfo hout => exact .leaves (hstays (forall_mem_singleton.2 ⟨id, rfl⟩)) (.inr hout)
    | unreachable hinfo hout =>
      refine .leaves (hstays ?_) (.inr hout)
      exact forall_mem_cons.2 ⟨hother hinfo, forall_mem_singleton.2 ⟨id, rfl⟩⟩
    | refused hinfo hout =>
      refine .leaves (hstays ?_) (.inr hout)
      exact forall_mem_cons.2 ⟨hother hinfo, forall_mem_cons.2
        ⟨⟨id, rfl⟩, forall_mem_singleton.2 ⟨id, rfl⟩⟩⟩
    | @found info _ _ hinfo hstart =>
      rw [append_cons]
      refine .starts hcompleted hfailed ?_ ⟨⟨.replicationInfo pod, .ok info⟩, by simp, ?_⟩ hstart
      · exact forall_mem_append.2 ⟨hquiet, forall_mem_singleton.2 rfl⟩
      · exact (hsource.attached_eq info).trans hinfo
    | attaches _ hstart =>
      rw [append_cons, append_cons, append_cons]
      refine .starts hcompleted hfailed ?_
        ⟨⟨.replicaOf pod cfg.host cfg.port, .ok ()⟩, by simp, trivial⟩ hstart
      simp only [forall_mem_append, forall_mem_singleton]
      exact ⟨⟨⟨hquiet, rfl⟩, rfl⟩, rfl⟩

end

/-- The call finds the pod attached to its source, or attaches it. -/
def Call.Attached (F : Formats) (c : Call) : Prop :=
  ∃ spec, c.opts.spec = some spec ∧ ∃ e ∈ c.trace, AttachesPod (sourceOf F spec) e

/-- The call returns this state. -/
def Call.Returns (state : String) (c : Call) : Prop :=
  ∃ st, c.outcome.1.status = some st ∧ st.state = state

/-! ## The import's own data -/

/-- The import has started. -/
def Settled (st : ExternalImportStatus) : Prop := st.state ≠ "" ∧ st.state ≠ importStatePending

theorem SyncRun.settled (h : SyncRun opts spec pod info status t out) (hstatus : Settled status) :
    ∃ st, out.1.status = some st ∧ Settled st := by
  cases h with
  | syncing _ hout | unready _ _ _ hout | refused _ _ hout => exact ⟨_, hout, hstatus⟩
  | following _ _ _ hout | promoted _ _ _ hout => exact ⟨_, hout, by simp [Settled]; decide⟩

theorem LimitRun.settled (h : LimitRun opts spec pod prev info startedAt status t out)
    (hstatus : Settled status) : ∃ st, out.1.status = some st ∧ Settled st := by
  cases h with
  | timedOut _ hout => exact ⟨_, hout, by simp [Settled]; decide⟩
  | inTime _ hsync => exact hsync.settled hstatus

/-- An attached pod ends the state Pending, unless the import was in progress before. -/
theorem StartRun.settled (h : StartRun opts spec pod prev info status t out)
    (hprev : prev.state = importStateInProgress → Settled status) :
    ∃ st, out.1.status = some st ∧ Settled st := by
  cases h with
  | attempt _ hlimit => exact hlimit.settled (by simp [Settled]; decide)
  | goesOn hstate _ hlimit => exact hlimit.settled (hprev hstate)
  | restarts hstate _ hlimit => exact hlimit.settled (by exact hprev hstate)

theorem Settled.startStatus_eq (h : Settled prev) (hof : OfSpec spec prev) :
    startStatus spec prev = prev :=
  Importer.startStatus_eq hof h.1

/-! ### The check of the target -/

/-- The event asks for the number of keys. -/
def AsksSize (e : Event Op) : Prop := ∃ pod, e.req = .dbSize pod

theorem SyncRun.not_asksSize (h : SyncRun opts spec pod info status t out) :
    ∀ e ∈ t, ¬ AsksSize e := by
  cases h with
  | syncing | unready => exact forall_mem_nil _
  | following | refused => simp [AsksSize]
  | promoted _ _ hclear =>
    rintro e he ⟨pod', heq⟩
    simp only [mem_cons, mem_append, not_mem_nil, or_false] at he
    rcases he with rfl | he | rfl | rfl
    · cases heq
    · have hset := (clearMasterAuth_asks _).mem hclear e he
      rw [heq] at hset
      exact hset
    all_goals cases heq

theorem LimitRun.not_asksSize (h : LimitRun opts spec pod prev info startedAt status t out) :
    ∀ e ∈ t, ¬ AsksSize e := by
  cases h with
  | timedOut => simp [AsksSize]
  | inTime _ hsync => exact forall_mem_cons.2 ⟨by simp [AsksSize], hsync.not_asksSize⟩

theorem StartRun.not_asksSize (h : StartRun opts spec pod prev info status t out) :
    ∀ e ∈ t, ¬ AsksSize e := by
  cases h with
  | attempt _ hlimit =>
    exact forall_mem_cons.2 ⟨by simp [AsksSize], forall_mem_cons.2
      ⟨by simp [AsksSize], hlimit.not_asksSize⟩⟩
  | goesOn _ _ hlimit => exact hlimit.not_asksSize
  | restarts _ _ hlimit => exact forall_mem_cons.2 ⟨by simp [AsksSize], hlimit.not_asksSize⟩

theorem AttachRun.not_asksSize {cfg : ExternalConfig}
    (h : AttachRun opts spec cfg pod prev status t out) : ∀ e ∈ t, ¬ AsksSize e := by
  cases h with
  | noInfo | unreachable | refused => simp [AsksSize]
  | found _ hstart => exact forall_mem_cons.2 ⟨by simp [AsksSize], hstart.not_asksSize⟩
  | attaches _ hstart =>
    exact forall_mem_cons.2 ⟨by simp [AsksSize], forall_mem_cons.2 ⟨by simp [AsksSize],
      forall_mem_cons.2 ⟨by simp [AsksSize], hstart.not_asksSize⟩⟩⟩

theorem TargetRun.asksSize {cfg : ExternalConfig}
    (h : TargetRun opts spec cfg pod prev status t out) {e : Event Op} (he : e ∈ t)
    (hsize : AsksSize e) : status.state = importStatePending := by
  have hchecked : ∀ {u u' : Trace} {r : Option Error}, Checked spec pod status u →
      (configureMasterAuth pod cfg.username cfg.password).Runs u' r → e ∈ u ∨ e ∈ u' →
      status.state = importStatePending := by
    rintro u u' r hchecked hauth (he | he)
    · cases hchecked with
      | empty hpending => exact hpending
      | unchecked => simp at he
    · obtain ⟨pod', heq⟩ := hsize
      have hset := (configureMasterAuth_asks _ _ _).mem hauth e he
      rw [heq] at hset
      exact hset.elim
  cases h with
  | completed | failed => simp at he
  | noSize hpending => exact hpending
  | notEmpty hpending => exact hpending
  | noAuth _ _ hcheck hauth => exact hchecked hcheck hauth (mem_append.1 he)
  | attaches _ _ hcheck hauth hattaching =>
    rcases mem_append.1 he with he | he
    · exact hchecked hcheck hauth (.inl he)
    rcases mem_append.1 he with he | he
    · exact hchecked hcheck hauth (.inr he)
    · exact absurd hsize (hattaching.not_asksSize e he)

theorem ensureSource_asksSize (h : (ensureSource F opts spec prev).Runs t out) {e : Event Op}
    (he : e ∈ t) (hsize : AsksSize e) : (startStatus spec prev).state = importStatePending := by
  have happroaches : ¬ Approaches e.req := by
    obtain ⟨pod', heq⟩ := hsize
    rw [heq]
    exact id
  rcases ensureSource_run h with ⟨hobstacle, -, -⟩ |
    ⟨cfg, pod, t1, t2, -, -, hconfig, -, -, rfl, hrun⟩
  · exact absurd (hobstacle.approaches e he) happroaches
  rcases mem_append.1 he with he | he
  · exact absurd ((buildExternalConfig_asks F _ spec).mem hconfig e he) happroaches
  rcases mem_cons.1 he with rfl | he
  · exact absurd trivial happroaches
  · exact hrun.asksSize he hsize

/-! ### Settled imports -/

/-- **An attached pod** leaves a settled import, unless the call takes over one in progress from
another source. -/
theorem Progress.settled (h : Progress F opts spec prev t out)
    (hattached : ∃ e ∈ t, AttachesPod (sourceOf F spec) e)
    (hprev : prev.state = importStateInProgress → OfSpec spec prev) :
    ∃ st, out.1.status = some st ∧ Settled st := by
  obtain ⟨e, he, hattaches⟩ := hattached
  cases h with
  | leaves hneutral => exact absurd hattaches (hneutral e he).1
  | notEmpty hneutral => exact absurd hattaches (hneutral e he).1
  | starts _ _ _ _ hstart =>
    refine hstart.settled fun hstate => ?_
    have hsettled : Settled prev := by
      rw [Settled, hstate]
      decide
    rw [hsettled.startStatus_eq (hprev hstate)]
    exact hsettled

theorem Progress.keeps_settled (h : Progress F opts spec prev t out) (hsettled : Settled prev) :
    (∃ st, out.1.status = some st ∧ Settled st ∧ SameSource st prev) ∨
      ¬ OfSpec spec prev ∧ ∃ st, out.1.status = some st ∧ OfSpec spec st := by
  have hstart := startStatus_ofSpec spec prev
  by_cases hof : OfSpec spec prev
  · have heq := hsettled.startStatus_eq hof
    left
    cases h with
    | leaves _ hout =>
      rw [heq, or_self] at hout
      exact ⟨prev, hout, hsettled, .rfl⟩
    | notEmpty _ hpending =>
      rw [heq] at hpending
      exact absurd hpending hsettled.2
    | starts _ _ _ _ hrun =>
      rw [heq] at hrun
      obtain ⟨st, hout, hst⟩ := hrun.settled fun _ => hsettled
      obtain ⟨st', hout', hsame⟩ := hrun.sameSource
      cases hout.symm.trans hout'
      exact ⟨st, hout, hst, hsame⟩
  · cases h with
    | leaves _ hout =>
      rcases hout with hout | hout
      · exact .inl ⟨prev, hout, hsettled, .rfl⟩
      · exact .inr ⟨hof, _, hout, hstart⟩
    | notEmpty _ _ hout => exact .inr ⟨hof, _, hout, hstart.source, hstart.mode⟩
    | starts _ _ _ _ hrun =>
      obtain ⟨st, hout, hsame⟩ := hrun.sameSource
      exact .inr ⟨hof, st, hout, hsame.source.trans hstart.source, hsame.mode.trans hstart.mode⟩

/-- Whenever a call without error has an attached pod, the state is not Pending, and `DBSIZE` is not
asked again while source and mode stay. -/
structure SparesOwnData (F : Formats) (calls : List Call) : Prop where
  notPending : ∀ c ∈ calls, c.Attached F → c.outcome.2 = none →
    ∃ st, c.outcome.1.status = some st ∧ st.state ≠ importStatePending
  unchecked : ∀ before c0 between c after st spec, calls = before ++ c0 :: (between ++ c :: after) →
    c0.Attached F → c0.outcome.2 = none → c0.outcome.1.status = some st →
    (∀ c' ∈ between, c'.Keeps st) → c.opts.spec = some spec → OfSpec spec st →
    ∀ pod r, ⟨.dbSize pod, r⟩ ∉ c.trace

/-- The call does not change the source or the mode of an import that is in progress. -/
def Call.KeepsInProgress (c : Call) : Prop :=
  ∀ spec prev, c.opts.spec = some spec → c.opts.currentStatus = some prev →
    prev.state = importStateInProgress → OfSpec spec prev

theorem FinalRun.settled {t : Trace} {out : Outcome} (h : FinalRun prev t out)
    (hout : out.1.status = some st) (hsettled : Settled prev) :
    Settled st ∧ SameSource st prev := by
  cases h with
  | forgets hnone => cases hout.symm.trans hnone
  | keeps _ hkept =>
    cases hout.symm.trans hkept
    exact ⟨hsettled, .rfl⟩
  | promoted _ hdone =>
    cases hout.symm.trans hdone
    exact ⟨by simp [Settled]; decide, rfl, rfl⟩

theorem CallStep.settled (h : CallStep F (some prev) c s') (hsettled : Settled prev)
    (hsame : SameSource prev st) (hc : c.Keeps st) :
    ∃ st', s' = some st' ∧ Settled st' ∧ SameSource st' st := by
  obtain ⟨st', hout, hkeeps⟩ := hc
  refine ⟨st', h.2.2.trans hout, ?_, hkeeps⟩
  cases hspec : c.opts.spec with
  | none => exact ((h.finalRun hspec).settled hout hsettled).1
  | some spec =>
    rcases (h.sourceRun hspec).progress.keeps_settled hsettled with
      ⟨st'', hout', hst'', -⟩ | ⟨hnot, st'', hout', hof⟩
    · cases hout.symm.trans hout'
      exact hst''
    · cases hout.symm.trans hout'
      refine absurd ⟨?_, ?_⟩ hnot
      · exact hsame.source.trans (hkeeps.source.symm.trans hof.source)
      · exact hsame.mode.trans (hkeeps.mode.symm.trans hof.mode)

/-- **An import does not fail because of its own data**, in every run of calls of which none changes
the source or the mode of an import that is in progress. -/
theorem importRun_sparesOwnData {F : Formats} {calls : List Call}
    {s : Option ExternalImportStatus} (hrun : ImportRun F calls s)
    (hkeeps : ∀ c ∈ calls, c.KeepsInProgress) : SparesOwnData F calls := by
  -- a call with an attached pod returns a settled import
  have hsettles : ∀ c ∈ calls, c.Attached F → ∃ st, c.outcome.1.status = some st ∧ Settled st := by
    rintro c hc ⟨spec, hspec, hattached⟩
    obtain ⟨s1, s2, hstep⟩ := hrun.mem hc
    refine (hstep.sourceRun hspec).progress.settled hattached fun hstate => ?_
    cases s1 with
    | none => exact absurd hstate (by decide)
    | some prev => exact hkeeps c hc spec prev hspec hstep.1 hstate
  refine ⟨fun c hc hattached _ => ?_, ?_⟩
  · obtain ⟨st, hout, hst⟩ := hsettles c hc hattached
    exact ⟨st, hout, hst.2⟩
  · intro before c0 between c after st spec hcalls hattached _ hout hbetween hspec hof pod r hsize
    subst hcalls
    obtain ⟨st', hout', hst'⟩ := hsettles c0 (by simp) hattached
    cases hout.symm.trans hout'
    obtain ⟨s0, s1, -, hstep0, hrest⟩ := hrun.split
    obtain ⟨s2, s3, hmiddle, hstep, -⟩ := hrest.split
    obtain rfl : s1 = some st := hstep0.2.2.trans hout
    obtain ⟨prev, rfl, hprev, hsame⟩ :
        ∃ prev, s2 = some prev ∧ Settled prev ∧ SameSource prev st := by
      refine hmiddle.invariant (C := Call.Keeps st)
        (I := fun _ s => ∃ prev, s = some prev ∧ Settled prev ∧ SameSource prev st)
        hbetween ⟨st, rfl, hst', .rfl⟩ ?_
      rintro ls _ c' s' - ⟨prev, rfl, hprev, hsame⟩ hc' hstep'
      exact hstep'.settled hprev hsame hc'
    obtain ⟨hcurrent, hruns, -⟩ := hstep
    unfold ensure at hruns
    rw [hspec, hcurrent] at hruns
    have hpending := ensureSource_asksSize hruns hsize ⟨pod, rfl⟩
    rw [Option.getD_some, hprev.startStatus_eq
      ⟨hsame.source.trans hof.source, hsame.mode.trans hof.mode⟩] at hpending
    exact hprev.2 hpending

/-- The first call starts the import, and no call comes after it. -/
theorem importRun_sparesOwnData_startsA :
    startsA.Attached .decimal ∧ SparesOwnData .decimal [startsA] := by
  refine ⟨⟨sourceA, rfl, ⟨.replicaOf "a-0" "source" 6379, .ok ()⟩, ?_, trivial⟩,
    importRun_sparesOwnData (.snoc .nil (callA_step ..)) ?_⟩
  · exact .tail _ (.tail _ (.tail _ (.tail _ (.tail _ (.tail _ (.head _))))))
  · intro c hc spec prev _ hprev
    cases mem_singleton.1 hc
    cases hprev

/-- Another source. -/
def sourceB : ExternalSourceSpec := { address := "redis://other:6379" }

/-- A call after the source was changed. -/
def switchesA : Call := callA sourceB startsA.outcome.1.status (replies 0 0 {})

/-- The next call, when the pod has data. -/
def copiedA : Call := callA sourceB switchesA.outcome.1.status (replies 5 0 {})

/-- **An import from a new source fails because of its own data**: the pod is attached and the state
is still Pending, so the next call finds the keys that were copied. -/
theorem changed_source_fails_on_own_data :
    ImportRun .decimal [startsA, switchesA, copiedA] copiedA.outcome.1.status ∧
    switchesA.Attached .decimal ∧ switchesA.outcome.2 = none ∧
    switchesA.Returns importStatePending ∧ copiedA.Returns importStateFailed ∧
    ¬ SparesOwnData .decimal [startsA, switchesA, copiedA] := by
  have hattached : switchesA.Attached .decimal :=
    ⟨sourceB, rfl, ⟨.replicaOf "a-0" "other" 6379, .ok ()⟩,
      .tail _ (.tail _ (.tail _ (.tail _ (.tail _ (.tail _ (.head _)))))), trivial⟩
  refine ⟨?_, hattached, rfl, ⟨_, rfl, rfl⟩, ⟨_, rfl, rfl⟩, fun h => ?_⟩
  · exact .snoc (.snoc (.snoc .nil (callA_step ..)) (callA_step ..)) (callA_step ..)
  · obtain ⟨st, hst, hne⟩ := h.notPending switchesA (by simp) hattached rfl
    cases hst
    exact hne rfl

/-! ## Live imports -/

/-- The number of attempts recorded. -/
def attempts (calls : List Call) : Nat := (calls.flatMap Call.trace).countP RecordsAttempt

/-- The call gives up after the timeout. -/
def Call.TimesOut (c : Call) : Prop :=
  c.Returns importStateFailed ∧ c.outcome.1.condition.reason = "Timeout"

/-- Calls for one live source from an empty status, of which one follows the source. -/
structure LiveRun (F : Formats) (source : String) (calls : List Call)
    (s : Option ExternalImportStatus) : Prop where
  run : ImportRun F calls s
  live : ∀ c ∈ calls, ∃ spec, c.opts.spec = some spec ∧ spec.address = source ∧
    syncMode spec = .live
  follows : ∃ c ∈ calls, c.Returns importStateFollowing

/-- The import never times out once it follows its source, and it is begun once. -/
structure OneAttempt (calls : List Call) : Prop where
  noTimeout : ∀ before c0 between c after, calls = before ++ c0 :: (between ++ c :: after) →
    c0.Returns importStateFollowing → ¬ c.TimesOut
  once : attempts calls = 1
  startedAt : ∃ now, (∃ c ∈ calls, c.startedAt = some now) ∧
    ∀ c ∈ calls, c.startedAt = none ∨ c.startedAt = some now

/-- The call is made while the import follows its source. -/
def Call.FromFollowing (c : Call) : Prop :=
  ∃ prev, c.opts.currentStatus = some prev ∧ prev.state = importStateFollowing

section
variable {source : String} {now : Time}

theorem attempts_append (calls calls' : List Call) :
    attempts (calls ++ calls') = attempts calls + attempts calls' := by
  simp [attempts]

theorem attempts_singleton (c : Call) : attempts [c] = c.trace.countP RecordsAttempt := by
  simp [attempts]

theorem attempts_concat_quiet (h : ∀ e ∈ c.trace, RecordsAttempt e = false) :
    attempts (calls ++ [c]) = attempts calls := by
  have hzero : c.trace.countP RecordsAttempt = 0 := countP_eq_zero.2 (by simpa using h)
  rw [attempts_append, attempts_singleton, hzero, Nat.add_zero]

/-! ### A second attempt -/

theorem StartRun.attempt_of_ne (h : StartRun opts spec pod prev info status t out)
    (hprev : prev.state ≠ importStateInProgress) : 1 ≤ t.countP RecordsAttempt := by
  cases h with
  | attempt => exact countP_pos_iff.2 ⟨_, .tail _ (.head _), rfl⟩
  | goesOn hstate => exact absurd hstate hprev
  | restarts hstate => exact absurd hstate hprev

theorem Progress.begun (h : Progress F opts spec prev t out) (hout : out.1.status = some st)
    (hactive : Active st) : Active prev ∨ 1 ≤ t.countP RecordsAttempt := by
  cases h with
  | leaves _ hkept =>
    left
    rcases hkept with hkept | hkept
    · cases hout.symm.trans hkept
      exact hactive
    · cases hout.symm.trans hkept
      rw [(startStatus_not_pending hactive.2.1).2] at hactive
      exact hactive
  | notEmpty _ _ hfailed =>
    cases hout.symm.trans hfailed
    exact absurd rfl hactive.2.2.2
  | starts _ _ _ _ hstart =>
    by_cases hprev : prev.state = importStateInProgress
    · left
      rw [Active, hprev]
      decide
    · rw [countP_append]
      exact .inr (Nat.le_add_left_of_le (hstart.attempt_of_ne hprev))

theorem LiveRun.begun (hrun : ImportRun F calls (some st))
    (hsource : ∀ c ∈ calls, ∃ spec, c.opts.spec = some spec) (hactive : Active st) :
    1 ≤ attempts calls := by
  refine hrun.invariant (I := fun calls s => ∀ st, s = some st → Active st → 1 ≤ attempts calls)
    hsource (by simp) ?_ st rfl hactive
  rintro calls s c s' - ih ⟨spec, hspec⟩ hstep st rfl hactive
  rw [attempts_append, attempts_singleton]
  rcases (hstep.sourceRun hspec).progress.begun hstep.2.2.symm hactive with hprev | hcount
  · exact Nat.le_add_right_of_le (ih _ hprev.some_getD hprev)
  · exact Nat.le_add_left_of_le hcount

/-- **A call that finds the pod of a followed source attached begins the import again.** -/
theorem LiveRun.attempts_ge_two (h : LiveRun F source calls s) (hc : c ∈ calls)
    (hfrom : c.FromFollowing) (hattached : c.Attached F) : 2 ≤ attempts calls := by
  obtain ⟨before, after, rfl⟩ := append_of_mem hc
  obtain ⟨s1, s2, hbefore, hstep, -⟩ := h.run.split
  obtain ⟨prev, hcurrent, hstate⟩ := hfrom
  obtain rfl : s1 = some prev := hstep.1.symm.trans hcurrent
  have hactive : Active prev := by
    rw [Active, hstate]
    decide
  have hfirst : 1 ≤ attempts before := by
    refine LiveRun.begun hbefore (fun c' hc' => ?_) hactive
    obtain ⟨spec, hspec, -⟩ := h.live c' (by simp [hc'])
    exact ⟨spec, hspec⟩
  have hsecond : 1 ≤ attempts [c] := by
    obtain ⟨spec, hspec, e, he, hattaches⟩ := hattached
    have hprogress := (hstep.sourceRun hspec).progress
    rw [attempts_singleton]
    generalize c.trace = t at he hprogress ⊢
    cases hprogress with
    | leaves hneutral => exact absurd hattaches (hneutral e he).1
    | notEmpty hneutral => exact absurd hattaches (hneutral e he).1
    | starts _ _ _ _ hstart =>
      rw [countP_append]
      refine Nat.le_add_left_of_le (hstart.attempt_of_ne ?_)
      rw [Option.getD_some, hstate]
      decide
  rw [append_cons, attempts_append, attempts_append]
  omega

/-! ### The only attempt -/

/-- The import is in one of the states of an attempt that has begun, or has failed in it. -/
def Begun (st : ExternalImportStatus) : Prop :=
  st.state = importStateInProgress ∨ st.state = importStateFollowing ∨ st.state = importStateFailed

theorem LimitRun.begun (h : LimitRun opts spec pod prev info startedAt status t out)
    (hlive : syncMode spec = .live) (hstate : status.state = importStateInProgress) :
    (∀ e ∈ t, RecordsAttempt e = false) ∧ ∃ st, out.1.status = some st ∧ Begun st ∧
      SameSource st status ∧ st.startedAt = status.startedAt := by
  cases h with
  | timedOut _ hout => exact ⟨by simp [RecordsAttempt], _, hout, .inr (.inr rfl), ⟨rfl, rfl⟩, rfl⟩
  | inTime _ hsync =>
    cases hsync with
    | syncing _ hout | unready _ _ _ hout =>
      exact ⟨by simp [RecordsAttempt], _, hout, .inl hstate, .rfl, rfl⟩
    | following _ _ _ hout =>
      exact ⟨by simp [RecordsAttempt], _, hout, .inr (.inl rfl), ⟨rfl, rfl⟩, rfl⟩
    | refused _ hmode => exact absurd hlive hmode
    | promoted _ hmode => exact absurd hlive hmode

/-- The status is of the one attempt of the calls. -/
structure Attempt (source : String) (now : Time) (calls : List Call) (st : ExternalImportStatus) :
    Prop where
  source : st.source = source
  mode : st.mode = SyncMode.live.str
  startedAt : st.startedAt = some now
  once : attempts calls = 1
  starts : ∃ c ∈ calls, c.startedAt = some now
  only : ∀ c ∈ calls, c.startedAt = none ∨ c.startedAt = some now

/-- No call returns that the pod follows. -/
def NotFollowed (calls : List Call) : Prop := ∀ c ∈ calls, ¬ c.Returns importStateFollowing

/-- Where a live import is after the calls, when none of them found the pod of a followed source
attached. -/
inductive LivePhase (source : String) (calls : List Call) : Option ExternalImportStatus → Prop
  | waits {s : Option ExternalImportStatus} :
      ((s.getD {}).state = "" ∨ (s.getD {}).state = importStatePending) →
      (s.getD {}).startedAt = none → attempts calls = 0 → (∀ c ∈ calls, c.startedAt = none) →
      NotFollowed calls → LivePhase source calls s
  | begun {st : ExternalImportStatus} {now : Time} : Attempt source now calls st →
      st.state = importStateInProgress → NotFollowed calls → LivePhase source calls (some st)
  | follows {st : ExternalImportStatus} {now : Time} : Attempt source now calls st →
      st.state = importStateFollowing → LivePhase source calls (some st)
  | failed {st : ExternalImportStatus} : st.source = source → st.mode = SyncMode.live.str →
      st.state = importStateFailed → NotFollowed calls → LivePhase source calls (some st)

theorem NotFollowed.concat (h : NotFollowed calls) (hout : c.outcome.1.status = some st)
    (hstate : st.state ≠ importStateFollowing) : NotFollowed (calls ++ [c]) := by
  refine forall_mem_append.2 ⟨h, forall_mem_singleton.2 ?_⟩
  rintro ⟨st', hst', hfollowing⟩
  cases hout.symm.trans hst'
  exact hstate hfollowing

theorem Attempt.concat {prev : ExternalImportStatus} (h : Attempt source now calls prev)
    (hquiet : ∀ e ∈ c.trace, RecordsAttempt e = false) (hout : c.outcome.1.status = some st)
    (hsame : SameSource st prev) (hstarted : st.startedAt = prev.startedAt) :
    Attempt source now (calls ++ [c]) st where
  source := hsame.source.trans h.source
  mode := hsame.mode.trans h.mode
  startedAt := hstarted.trans h.startedAt
  once := (attempts_concat_quiet hquiet).trans h.once
  starts := by
    obtain ⟨c', hc', hnow⟩ := h.starts
    exact ⟨c', by simp [hc'], hnow⟩
  only := by
    refine forall_mem_append.2 ⟨h.only, forall_mem_singleton.2 (.inr ?_)⟩
    rw [Call.startedAt, hout]
    exact hstarted.trans h.startedAt

theorem LivePhase.of_begun (h : Attempt source now (calls ++ [c]) st) (hbegun : Begun st)
    (hout : c.outcome.1.status = some st) (hnot : NotFollowed calls) :
    LivePhase source (calls ++ [c]) (some st) := by
  rcases hbegun with hstate | hstate | hstate
  · exact .begun h hstate (hnot.concat hout (by rw [hstate]; decide))
  · exact .follows h hstate
  · exact .failed h.source h.mode hstate (hnot.concat hout (by rw [hstate]; decide))

theorem startStatus_waits (spec : ExternalSourceSpec)
    (hstate : prev.state = "" ∨ prev.state = importStatePending)
    (hstarted : prev.startedAt = none) :
    (startStatus spec prev).state = importStatePending ∧
      (startStatus spec prev).startedAt = none := by
  by_cases hnew : ¬ OfSpec spec prev ∨ prev.state = ""
  · exact startStatus_pending hnew
  · rw [not_or, not_not] at hnew
    rw [startStatus_eq hnew.1 hnew.2]
    exact ⟨hstate.resolve_left hnew.2, hstarted⟩

theorem Attempt.first (hzero : attempts calls = 0) (hnone : ∀ c ∈ calls, c.startedAt = none)
    (hcount : c.trace.countP RecordsAttempt = 1) (hout : c.outcome.1.status = some st)
    (hsource : st.source = source) (hmode : st.mode = SyncMode.live.str)
    (hstarted : st.startedAt = some now) : Attempt source now (calls ++ [c]) st where
  source := hsource
  mode := hmode
  startedAt := hstarted
  once := by rw [attempts_append, attempts_singleton, hzero, hcount]
  starts := ⟨c, by simp, by rw [Call.startedAt, hout]; exact hstarted⟩
  only := by
    refine forall_mem_append.2 ⟨fun c' hc' => .inl (hnone c' hc'), ?_⟩
    refine forall_mem_singleton.2 (.inr ?_)
    rw [Call.startedAt, hout]
    exact hstarted

/-- **One call from a waiting import.** -/
theorem LivePhase.step_waits
    (hstate : (s.getD {}).state = "" ∨ (s.getD {}).state = importStatePending)
    (hstarted : (s.getD {}).startedAt = none) (hzero : attempts calls = 0)
    (hnone : ∀ c ∈ calls, c.startedAt = none) (hnot : NotFollowed calls)
    (hlive : syncMode spec = .live) (h : Progress F opts spec (s.getD {}) c.trace c.outcome) :
    LivePhase spec.address (calls ++ [c]) c.outcome.1.status := by
  obtain ⟨hpending, hnew⟩ := startStatus_waits spec hstate hstarted
  have hof := startStatus_ofSpec spec (s.getD {})
  have hmode : (startStatus spec (s.getD {})).mode = SyncMode.live.str := hlive ▸ hof.mode
  generalize htrace : c.trace = t at h
  generalize hout' : c.outcome = out at h
  cases h with
  | leaves hneutral hout =>
    have hquiet : attempts (calls ++ [c]) = 0 :=
      (attempts_concat_quiet fun e he => (hneutral e (htrace ▸ he)).2).trans hzero
    have hwaits : ∀ {st : ExternalImportStatus}, out.1.status = some st →
        st.state = "" ∨ st.state = importStatePending → st.startedAt = none →
        LivePhase spec.address (calls ++ [c]) out.1.status := by
      intro st hst hstate' hstarted'
      refine .waits (by rw [hst]; exact hstate') (by rw [hst]; exact hstarted') hquiet ?_ ?_
      · refine forall_mem_append.2 ⟨hnone, forall_mem_singleton.2 ?_⟩
        rw [Call.startedAt, hout', hst]
        exact hstarted'
      · refine hnot.concat (hout' ▸ hst) ?_
        rcases hstate' with hstate' | hstate' <;> rw [hstate'] <;> decide
    rcases hout with hout | hout
    · exact hwaits hout hstate hstarted
    · exact hwaits hout (.inr hpending) hnew
  | notEmpty _ _ hout =>
    rw [hout]
    exact .failed hof.source hmode rfl (hnot.concat (hout' ▸ hout) (by dsimp only; decide))
  | starts _ _ hquiet _ hstart =>
    cases hstart with
    | attempt _ hlimit =>
      obtain ⟨hlate, st, hout, hbegun, hsame, hnow⟩ := hlimit.begun hlive rfl
      rw [hout]
      refine .of_begun (.first hzero hnone ?_ (hout' ▸ hout) (hsame.source.trans hof.source)
        (hsame.mode.trans hmode) hnow) hbegun (hout' ▸ hout) hnot
      have hfirst := countP_eq_zero.2 fun e he => ne_true_of_eq_false (hquiet e he)
      have hrest := countP_eq_zero.2 fun e he => ne_true_of_eq_false (hlate e he)
      rw [htrace, countP_append, hfirst, countP_cons_of_neg (by simp [RecordsAttempt]),
        countP_cons_of_pos rfl, hrest]
    | goesOn hprev =>
      rcases hstate with h | h <;> rw [h] at hprev <;> exact absurd hprev (by decide)
    | restarts hprev =>
      rcases hstate with h | h <;> rw [h] at hprev <;> exact absurd hprev (by decide)

/-- **One call**, made with a condition on the calls from a followed source. -/
theorem LivePhase.step (h : LivePhase source calls s) (hstep : CallStep F s c s')
    (hspec : c.opts.spec = some spec) (hsource : spec.address = source)
    (hlive : syncMode spec = .live) (hcond : c.FromFollowing → ¬ c.Attached F) :
    LivePhase source (calls ++ [c]) s' := by
  subst hsource
  have hsourceRun := hstep.sourceRun hspec
  have hprogress := hsourceRun.progress
  have hattached : (∃ e ∈ c.trace, AttachesPod (sourceOf F spec) e) → c.Attached F := fun hpod =>
    ⟨spec, hspec, hpod⟩
  obtain ⟨hcurrent, -, rfl⟩ := hstep
  have hof : ∀ {st : ExternalImportStatus}, st.source = spec.address →
      st.mode = SyncMode.live.str → OfSpec spec st := fun hsource hmode =>
    ⟨hsource, hmode.trans (congrArg SyncMode.str hlive.symm)⟩
  cases h with
  | waits hstate hstarted hzero hnone hnot =>
    exact .step_waits hstate hstarted hzero hnone hnot hlive hprogress
  | @begun st now hattempt hstate hnot =>
    have heq : startStatus spec st = st :=
      startStatus_eq (hof hattempt.source hattempt.mode) (by rw [hstate]; decide)
    rw [Option.getD_some] at hprogress
    generalize htrace : c.trace = t at hprogress
    generalize hout' : c.outcome = out at hprogress
    cases hprogress with
    | leaves hneutral hout =>
      rw [heq, or_self] at hout
      rw [hout]
      refine .begun (hattempt.concat (fun e he => (hneutral e (htrace ▸ he)).2) (hout' ▸ hout)
        .rfl rfl) hstate (hnot.concat (hout' ▸ hout) (by rw [hstate]; decide))
    | notEmpty _ hpending =>
      rw [heq, hstate] at hpending
      exact absurd hpending (by decide)
    | starts _ _ hquiet _ hstart =>
      rw [heq] at hstart
      cases hstart with
      | attempt hne => exact absurd hstate hne
      | goesOn _ _ hlimit =>
        obtain ⟨hlate, st', hout, hbegun, hsame, hnow⟩ := hlimit.begun hlive hstate
        rw [hout]
        refine .of_begun (hattempt.concat (fun e he => ?_) (hout' ▸ hout) hsame hnow) hbegun
          (hout' ▸ hout) hnot
        rw [htrace] at he
        exact (mem_append.1 he).elim (hquiet e) (hlate e)
      | restarts _ hnone => cases hattempt.startedAt.symm.trans hnone
  | @follows st now hattempt hstate =>
    have heq : startStatus spec st = st :=
      startStatus_eq (hof hattempt.source hattempt.mode) (by rw [hstate]; decide)
    have hunattached := fun hpod => hcond ⟨st, hcurrent, hstate⟩ (hattached hpod)
    rw [Option.getD_some] at hprogress
    generalize htrace : c.trace = t at hprogress hunattached
    generalize hout' : c.outcome = out at hprogress
    cases hprogress with
    | leaves hneutral hout =>
      rw [heq, or_self] at hout
      rw [hout]
      exact .follows (hattempt.concat (fun e he => (hneutral e (htrace ▸ he)).2) (hout' ▸ hout)
        .rfl rfl) hstate
    | notEmpty _ hpending =>
      rw [heq, hstate] at hpending
      exact absurd hpending (by decide)
    | starts _ _ _ hpod =>
      obtain ⟨e, he, hattaches⟩ := hpod
      exact absurd ⟨e, mem_append_left _ he, hattaches⟩ hunattached
  | @failed st hsource hmode hstate hnot =>
    rcases hsourceRun.failed hstate with hout | ⟨hne, -⟩
    · rw [hout]
      refine .failed hsource hmode hstate (hnot.concat hout ?_)
      rw [Option.getD_some, hstate]
      decide
    · exact absurd (hof hsource hmode) hne

theorem livePhase_of_run (hrun : ImportRun F calls s)
    (hlive : ∀ c ∈ calls, ∃ spec, c.opts.spec = some spec ∧ spec.address = source ∧
      syncMode spec = .live)
    (hcond : ∀ c ∈ calls, c.FromFollowing → ¬ c.Attached F) : LivePhase source calls s := by
  refine hrun.invariant (C := fun c => (∃ spec, c.opts.spec = some spec ∧ spec.address = source ∧
      syncMode spec = .live) ∧ (c.FromFollowing → ¬ c.Attached F)) (I := LivePhase source)
    (fun c hc => ⟨hlive c hc, hcond c hc⟩) ?_ ?_
  · exact .waits (.inl rfl) rfl rfl (forall_mem_nil _) (forall_mem_nil _)
  · rintro calls s c s' - ih ⟨⟨spec, hspec, hsource, hmode⟩, hc⟩ hstep
    exact ih.step hstep hspec hsource hmode hc

theorem LivePhase.following (h : LivePhase source calls s)
    (hfollows : ∃ c ∈ calls, c.Returns importStateFollowing) :
    ∃ st now, s = some st ∧ st.state = importStateFollowing ∧ Attempt source now calls st := by
  obtain ⟨c, hc, hreturns⟩ := hfollows
  cases h with
  | waits _ _ _ _ hnot => exact absurd hreturns (hnot c hc)
  | begun _ _ hnot => exact absurd hreturns (hnot c hc)
  | follows hattempt hstate => exact ⟨_, _, rfl, hstate, hattempt⟩
  | failed _ _ _ hnot => exact absurd hreturns (hnot c hc)

end

/-- **A live import that follows its source counts as one attempt and never times out** exactly when
no call that is made while it follows the source finds the pod attached or attaches it. -/
theorem oneAttempt_iff {F : Formats} {source : String} {calls : List Call}
    {s : Option ExternalImportStatus} (h : LiveRun F source calls s) :
    OneAttempt calls ↔ ∀ c ∈ calls, c.FromFollowing → ¬ c.Attached F := by
  constructor
  · intro hone c hc hfrom hattached
    have htwo := h.attempts_ge_two hc hfrom hattached
    have honce := hone.once
    omega
  · intro hcond
    obtain ⟨st, now, -, -, hattempt⟩ := (livePhase_of_run h.run h.live hcond).following h.follows
    refine ⟨?_, hattempt.once, now, hattempt.starts, hattempt.only⟩
    rintro before c0 between c after hcalls hfollows ⟨⟨st', hst', hfailed⟩, -⟩
    -- the run up to the call is in the state Following
    have hmem : ∀ c' ∈ before ++ c0 :: between ++ [c], c' ∈ calls := by
      intro c' hc'
      rw [hcalls]
      simp only [mem_append, mem_cons, not_mem_nil, or_false] at hc' ⊢
      tauto
    have hrun := h.run
    rw [hcalls, show before ++ c0 :: (between ++ c :: after) =
      before ++ c0 :: between ++ [c] ++ after by simp] at hrun
    obtain ⟨s2, hupto, -⟩ := steps_append.1 hrun
    obtain ⟨s1, -, hstep⟩ := steps_concat.1 hupto
    have hphase := livePhase_of_run hupto (fun c' hc' => h.live c' (hmem c' hc'))
      fun c' hc' => hcond c' (hmem c' hc')
    obtain ⟨st, now, rfl, hstate, -⟩ := hphase.following ⟨c0, by simp, hfollows⟩
    cases hstep.2.2.trans hst'
    rw [hstate] at hfailed
    exact absurd hfailed (by decide)

/-! ### The cluster `a` -/

/-- A source to follow. -/
def liveA : ExternalSourceSpec := { address := "redis://source:6379", syncMode := some .live }

/-- A call that follows it. -/
def followsA : Call := callA liveA none (replies 0 0 (RedisState.replica "source" 6379).info)

/-- The next call, without a client. -/
def noClientA : Call := callA liveA followsA.outcome.1.status Req.unavailable

/-- The next call, when the link is down. -/
def linkDownA : Call :=
  callA liveA followsA.outcome.1.status
    (replies 0 (10 * second) { masterHost := "source", masterPort := 6379 })

/-- A call half an hour later. -/
def stillDownA : Call :=
  callA liveA linkDownA.outcome.1.status
    (replies 0 (32 * minute) { masterHost := "source", masterPort := 6379 })

theorem liveRun_of {rest : List Call} {s : Option ExternalImportStatus}
    (hrun : ImportRun .decimal (followsA :: rest) s)
    (hrest : ∀ c ∈ rest, c.opts.spec = some liveA) :
    LiveRun .decimal "redis://source:6379" (followsA :: rest) s where
  run := hrun
  live := forall_mem_cons.2 ⟨⟨liveA, rfl, rfl, rfl⟩, fun c hc => ⟨liveA, hrest c hc, rfl, rfl⟩⟩
  follows := ⟨followsA, .head _, _, rfl, rfl⟩

/-- As long as the pod is not reached the import stays one attempt. -/
theorem oneAttempt_noClientA :
    followsA.Returns importStateFollowing ∧ OneAttempt [followsA, noClientA] := by
  have hrun : ImportRun .decimal [followsA, noClientA] noClientA.outcome.1.status :=
    .snoc (.snoc .nil (callA_step ..)) (callA_step ..)
  refine ⟨⟨_, rfl, rfl⟩, (oneAttempt_iff (liveRun_of hrun (forall_mem_singleton.2 rfl))).2 ?_⟩
  rintro c hc ⟨prev, hprev, -⟩ ⟨spec, -, e, he, hattaches⟩
  rw [mem_cons, mem_singleton] at hc
  rcases hc with rfl | rfl
  · cases hprev
  · cases mem_singleton.1 he
    exact hattaches

/-- The time that was read. -/
def clockTime : Event Op → Option Time
  | ⟨.now, now⟩ => some now
  | _ => none

/-- **A live import that follows its source times out**, after a second attempt that starts when the
link goes down. -/
theorem followed_source_times_out :
    LiveRun .decimal "redis://source:6379" [followsA, linkDownA, stillDownA]
      stillDownA.outcome.1.status ∧
    (([followsA, linkDownA, stillDownA].flatMap Call.trace).filterMap clockTime).Pairwise (· ≤ ·) ∧
    followsA.Returns importStateFollowing ∧ stillDownA.TimesOut ∧
    attempts [followsA, linkDownA, stillDownA] = 2 ∧
    ¬ OneAttempt [followsA, linkDownA, stillDownA] := by
  have hrun : ImportRun .decimal [followsA, linkDownA, stillDownA] stillDownA.outcome.1.status :=
    .snoc (.snoc (.snoc .nil (callA_step ..)) (callA_step ..)) (callA_step ..)
  have hfollows : followsA.Returns importStateFollowing := ⟨_, rfl, rfl⟩
  have htimeout : stillDownA.TimesOut := ⟨⟨_, rfl, rfl⟩, rfl⟩
  have hrest : ∀ c ∈ [linkDownA, stillDownA], c.opts.spec = some liveA :=
    forall_mem_cons.2 ⟨rfl, forall_mem_singleton.2 rfl⟩
  refine ⟨liveRun_of hrun hrest, ?_, hfollows, htimeout, rfl, fun h => ?_⟩
  · decide
  · exact h.noTimeout [] followsA [linkDownA] stillDownA [] rfl hfollows htimeout

end Keyval.Importer
