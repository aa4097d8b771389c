import Mathlib.Logic.Function.Basic
import KeyvalOperator.Ops.Importer

/-!
# Runs of the importer

What one call of `ensure` does, stage by stage, as inversion lemmas that the later results cite.

* `Ending`: how a call ends once the bootstrap pod is attached: it waits, or it promotes the pod.
* `AttachRun`: how a call attaches the pod, with the reply to `INFO` that was read before.
* `Obstacle`: why a call stops before it talks to the pod.
* `ensureSource_run`, `finalizeImport_run`: the whole call, with and without a source.
-/

namespace Keyval.Importer

open Go Interact Interact.Prog List

variable {q : Req}

/-! ## Requests -/

/-- A request for the time or a report. -/
def Calm : Req → Prop
  | .now | .event _ => True
  | _ => False

/-- A request from before the pod is attached. -/
def Early : Req → Prop
  | .getSecret .. | .redisForPod _ | .dbSize _ | .configSet .. | .event _ => True
  | _ => False

/-- The same without reports. -/
def Prior : Req → Prop
  | .getSecret .. | .redisForPod _ | .dbSize _ | .configSet .. => True
  | _ => False

/-- A request that reads a secret or makes a client. -/
def Approaches : Req → Prop
  | .getSecret .. | .redisForPod _ => True
  | _ => False

/-- The request sets a parameter. -/
def SetsConfig : Req → Prop
  | .configSet .. => True
  | _ => False

/-- The request changes the pod's Redis. -/
def Writes : Req → Prop
  | .replicaOf .. | .noOne _ | .configSet .. => True
  | _ => False

theorem Prior.early (h : Prior q) : Early q := by
  cases q <;> trivial

theorem SetsConfig.prior (h : SetsConfig q) : Prior q := by
  cases q <;> trivial

theorem Approaches.prior (h : Approaches q) : Prior q := by
  cases q <;> trivial

theorem Approaches.early (h : Approaches q) : Early q := h.prior.early

theorem Approaches.not_writes (h : Approaches q) : ¬ Writes q := by
  cases q <;> first | exact id | exact h.elim

/-- The call returns a completed import. -/
def IsCompleted (out : Outcome) : Prop :=
  ∃ st, out.1.status = some st ∧ st.state = importStateCompleted

theorem not_isCompleted {st : ExternalImportStatus} {out : Outcome} (hout : out.1.status = some st)
    (h : st.state ≠ importStateCompleted) : ¬ IsCompleted out := by
  rintro ⟨st', hst', hstate⟩
  rw [hout] at hst'
  cases hst'
  exact h hstate

theorem configureMasterAuth_asks (name username password : String) :
    Asks SetsConfig (configureMasterAuth name username password) := by
  refine .call trivial fun r _ => ?_
  cases r with
  | error e => exact .ret _
  | ok _ =>
    refine .call trivial fun r _ => ?_
    cases r <;> exact .ret _

theorem clearMasterAuth_asks (pod : String) : Asks SetsConfig (clearMasterAuth pod) := by
  refine .call trivial fun r _ => ?_
  cases r with
  | error e => exact .ret _
  | ok _ =>
    refine .call trivial fun r _ => ?_
    cases r <;> exact .ret _

/-! ## After the pod is attached -/

/-- The pods are ready to follow the source. -/
def FollowReady (opts : Options) : Bool :=
  (snapshotReadiness opts.cluster opts.pods opts.sentinelPods).redisReady &&
    (snapshotReadiness opts.cluster opts.pods opts.sentinelPods).sentinelReady

/-- The end of a call whose last reply to `INFO` is `info`: the call waits, or the promotion of the
pod is refused, or the pod is promoted. -/
inductive Ending (pod : String) (info : ReplicationInfo) : Trace → Outcome → Prop
  | waits {t : Trace} {out : Outcome} : (∀ e ∈ t, Calm e.req) → ¬ IsCompleted out →
      Ending pod info t out
  | refused {t : Trace} {e : Error} {out : Outcome} : inSync info = true →
      (∀ e ∈ t, Calm e.req) → ¬ IsCompleted out →
      Ending pod info (t ++ [⟨.noOne pod, .error e⟩]) out
  | promoted {t t' : Trace} {r : Option Error} {now : Time} {ev : Ev} {out : Outcome} :
      inSync info = true → (∀ e ∈ t, Calm e.req) → (clearMasterAuth pod).Runs t' r →
      IsCompleted out →
      Ending pod info (t ++ ⟨.noOne pod, .ok ()⟩ :: (t' ++ [⟨.now, now⟩, ⟨.event ev, ()⟩])) out

theorem Ending.calm {pod : String} {info : ReplicationInfo} {t : Trace} {out : Outcome}
    (h : Ending pod info t out) (t0 : Trace) (h0 : ∀ e ∈ t0, Calm e.req) :
    Ending pod info (t0 ++ t) out := by
  cases h with
  | waits h hout => exact .waits (forall_mem_append.2 ⟨h0, h⟩) hout
  | refused hsync h hout =>
    rw [← append_assoc]
    exact .refused hsync (forall_mem_append.2 ⟨h0, h⟩) hout
  | promoted hsync h hclear hout =>
    rw [← append_assoc]
    exact .promoted hsync (forall_mem_append.2 ⟨h0, h⟩) hclear hout

/-! ### Stages -/

/-- What a call does with the reply `info` to `INFO`, from the status `status`: the pod is not in
sync yet, or the other pods are not ready, or the import follows its source, or the pod is promoted
or its promotion refused. -/
inductive SyncRun (opts : Options) (spec : ExternalSourceSpec) (pod : String)
    (info : ReplicationInfo) (status : ExternalImportStatus) : Trace → Outcome → Prop
  | syncing {out : Outcome} : inSync info = false → out.1.status = some status → out.2 = none →
      SyncRun opts spec pod info status [] out
  | unready {out : Outcome} : inSync info = true → syncMode spec = .live →
      FollowReady opts = false → out.1.status = some status → out.2 = none →
      SyncRun opts spec pod info status [] out
  | following {now : Time} {message : String} {out : Outcome} : inSync info = true →
      syncMode spec = .live → FollowReady opts = true →
      out.1.status =
        some { status with state := importStateFollowing, lastSynced := some now, message } →
      out.2 = none → SyncRun opts spec pod info status [⟨.now, now⟩] out
  | refused {e : Error} {out : Outcome} : inSync info = true → syncMode spec ≠ .live →
      out.1.status = some status → out.2.isSome →
      SyncRun opts spec pod info status [⟨.noOne pod, .error e⟩] out
  | promoted {t : Trace} {r : Option Error} {now : Time} {ev : Ev} {message : String}
      {out : Outcome} : inSync info = true → syncMode spec ≠ .live →
      (clearMasterAuth pod).Runs t r →
      out.1.status =
        some { status with state := importStateCompleted, lastSynced := some now, message } →
      out.2 = none →
      SyncRun opts spec pod info status
        (⟨.noOne pod, .ok ()⟩ :: (t ++ [⟨.now, now⟩, ⟨.event ev, ()⟩])) out

/-- The limit of the initial sync, which began at `startedAt`, and what follows within it. -/
inductive LimitRun (opts : Options) (spec : ExternalSourceSpec) (pod : String)
    (prev : ExternalImportStatus) (info : ReplicationInfo) (startedAt : Time)
    (status : ExternalImportStatus) : Trace → Outcome → Prop
  | timedOut {now : Time} {detail message : String} {out : Outcome} :
      maxDuration spec < timeSub now startedAt ∧
        ¬ (syncMode spec = .live ∧ ¬ initialPhase spec prev) →
      out.1.status = some { status with state := importStateFailed, message } → out.2 = none →
      LimitRun opts spec pod prev info startedAt status
        [⟨.now, now⟩, ⟨.event (.externalImportFailed detail), ()⟩] out
  | inTime {now : Time} {t : Trace} {out : Outcome} :
      ¬ (maxDuration spec < timeSub now startedAt ∧
        ¬ (syncMode spec = .live ∧ ¬ initialPhase spec prev)) →
      SyncRun opts spec pod info status t out →
      LimitRun opts spec pod prev info startedAt status (⟨.now, now⟩ :: t) out

/-- The beginning of an import with an attached pod: a new attempt, or one that goes on. -/
inductive StartRun (opts : Options) (spec : ExternalSourceSpec) (pod : String)
    (prev : ExternalImportStatus) (info : ReplicationInfo) (status : ExternalImportStatus) :
    Trace → Outcome → Prop
  | attempt {now : Time} {detail message : String} {t : Trace} {out : Outcome} :
      prev.state ≠ importStateInProgress →
      LimitRun opts spec pod prev info now
        { status with startedAt := some now, state := importStateInProgress, message } t out →
      StartRun opts spec pod prev info status
        (⟨.now, now⟩ :: ⟨.event (.externalImportStarted detail), ()⟩ :: t) out
  | goesOn {startedAt : Time} {t : Trace} {out : Outcome} :
      prev.state = importStateInProgress → status.startedAt = some startedAt →
      LimitRun opts spec pod prev info startedAt status t out →
      StartRun opts spec pod prev info status t out
  | restarts {now : Time} {t : Trace} {out : Outcome} :
      prev.state = importStateInProgress → status.startedAt = none →
      LimitRun opts spec pod prev info now { status with startedAt := some now } t out →
      StartRun opts spec pod prev info status (⟨.now, now⟩ :: t) out

section
variable {F : Formats} {opts : Options} {spec : ExternalSourceSpec} {cfg : ExternalConfig}
  {pod : Pod} {prev status : ExternalImportStatus} {info : ReplicationInfo} {t : Trace}
  {out : Outcome}

theorem promote_run (hsync : inSync info = true) (hmode : syncMode spec ≠ .live)
    (h : (promote spec cfg pod status).Runs t out) :
    SyncRun opts spec pod.name info status t out := by
  obtain ⟨r, t1, rfl, h1⟩ := runs_asked.1 h
  cases r with
  | error e =>
    obtain ⟨rfl, rfl⟩ := runs_ret.1 h1
    exact .refused hsync hmode rfl rfl
  | ok _ =>
    obtain ⟨t2, r, t3, rfl, hclear, h2⟩ := runs_bind.1 h1
    obtain ⟨now, t4, rfl, h3⟩ := runs_call.1 h2
    obtain ⟨_, t5, rfl, h4⟩ := runs_call.1 h3
    obtain ⟨rfl, rfl⟩ := runs_ret.1 h4
    exact .promoted hsync hmode hclear rfl rfl

theorem follow_run (hsync : inSync info = true) (hmode : syncMode spec = .live)
    (h : (follow opts cfg status).Runs t out) : SyncRun opts spec pod.name info status t out := by
  unfold follow at h
  dsimp only at h
  split at h
  · next hready =>
    obtain ⟨rfl, rfl⟩ := runs_ret.1 h
    exact .unready hsync hmode (by simpa [FollowReady, imp_iff_not_or] using hready) rfl rfl
  · next hready =>
    obtain ⟨now, t1, rfl, h1⟩ := runs_call.1 h
    obtain ⟨rfl, rfl⟩ := runs_ret.1 h1
    exact .following hsync hmode (by simpa [FollowReady] using hready) rfl rfl

theorem evaluateSync_run (h : (evaluateSync opts spec cfg pod info status).Runs t out) :
    SyncRun opts spec pod.name info status t out := by
  unfold evaluateSync at h
  split at h
  · next hsync =>
    obtain ⟨rfl, rfl⟩ := runs_ret.1 h
    exact .syncing (Bool.not_eq_true _ ▸ hsync) rfl rfl
  · next hsync =>
    rw [not_not] at hsync
    split at h
    · next hmode => exact follow_run hsync hmode h
    · next hmode => exact promote_run hsync hmode h

theorem limitDuration_run {startedAt : Time}
    (h : (limitDuration F opts spec cfg pod prev info startedAt status).Runs t out) :
    LimitRun opts spec pod.name prev info startedAt status t out := by
  obtain ⟨now, t1, rfl, h1⟩ := runs_asked.1 h
  split at h1
  · next hlate =>
    obtain ⟨_, t2, rfl, h2⟩ := runs_call.1 h1
    obtain ⟨rfl, rfl⟩ := runs_ret.1 h2
    exact .timedOut hlate rfl rfl
  · next hlate => exact .inTime hlate (evaluateSync_run h1)

theorem start_cases (h : (start F opts spec cfg pod prev info status).Runs t out) :
    StartRun opts spec pod.name prev info status t out := by
  unfold start at h
  split at h
  · next hprev =>
    obtain ⟨now, t1, rfl, h1⟩ := runs_call.1 h
    obtain ⟨_, t2, rfl, h2⟩ := runs_call.1 h1
    exact .attempt hprev (limitDuration_run h2)
  · next hprev =>
    rw [not_not] at hprev
    split at h
    · next startedAt hstarted => exact .goesOn hprev hstarted (limitDuration_run h)
    · next hstarted =>
      obtain ⟨now, t1, rfl, h1⟩ := runs_call.1 h
      exact .restarts hprev hstarted (limitDuration_run h1)

theorem SyncRun.ending {pod : String} (hstate : status.state ≠ importStateCompleted)
    (h : SyncRun opts spec pod info status t out) : Ending pod info t out := by
  cases h with
  | syncing _ hout => exact .waits (forall_mem_nil _) (not_isCompleted hout hstate)
  | unready _ _ _ hout => exact .waits (forall_mem_nil _) (not_isCompleted hout hstate)
  | following _ _ _ hout =>
    exact .waits (by simp [Calm])
      (not_isCompleted hout (by decide : importStateFollowing ≠ importStateCompleted))
  | refused hsync _ hout =>
    exact .refused (t := []) hsync (forall_mem_nil _) (not_isCompleted hout hstate)
  | promoted hsync _ hclear hout =>
    exact .promoted (t := []) hsync (forall_mem_nil _) hclear ⟨_, hout, rfl⟩

theorem LimitRun.ending {pod : String} {startedAt : Time}
    (hstate : status.state ≠ importStateCompleted)
    (h : LimitRun opts spec pod prev info startedAt status t out) : Ending pod info t out := by
  cases h with
  | timedOut _ hout =>
    exact .waits (by simp [Calm])
      (not_isCompleted hout (by decide : importStateFailed ≠ importStateCompleted))
  | inTime _ hsync => exact (hsync.ending hstate).calm [_] (by simp [Calm])

/-- **Once the pod is attached** the call waits, or promotes the pod on the reply that it has. -/
theorem StartRun.ending {pod : String} (hstate : status.state ≠ importStateCompleted)
    (h : StartRun opts spec pod prev info status t out) : Ending pod info t out := by
  cases h with
  | attempt _ hlimit =>
    exact (hlimit.ending (by decide : importStateInProgress ≠ importStateCompleted)).calm
      [_, _] (by simp [Calm])
  | goesOn _ _ hlimit => exact hlimit.ending hstate
  | restarts _ _ hlimit => exact (hlimit.ending (by exact hstate)).calm [_] (by simp [Calm])

/-! ### The attachment -/

/-- How a call attaches the pod, with the reply to `INFO` that it has read before. -/
inductive AttachRun (opts : Options) (spec : ExternalSourceSpec) (cfg : ExternalConfig)
    (pod : String) (prev status : ExternalImportStatus) : Trace → Outcome → Prop
  | noInfo {e : Error} {out : Outcome} : out.1.status = some status → out.2.isSome →
      AttachRun opts spec cfg pod prev status [⟨.replicationInfo pod, .error e⟩] out
  | found {info : ReplicationInfo} {t : Trace} {out : Outcome} :
      attached cfg info = true → StartRun opts spec pod prev info status t out →
      AttachRun opts spec cfg pod prev status (⟨.replicationInfo pod, .ok info⟩ :: t) out
  | unreachable {info : ReplicationInfo} {e : Error} {out : Outcome} :
      attached cfg info = false → out.1.status = some status → out.2.isSome →
      AttachRun opts spec cfg pod prev status [⟨.replicationInfo pod, .ok info⟩,
        ⟨.pingExternal cfg.addr cfg.username cfg.password cfg.db cfg.tlsConfig, .error e⟩] out
  | refused {info : ReplicationInfo} {e : Error} {out : Outcome} :
      attached cfg info = false → out.1.status = some status → out.2.isSome →
      AttachRun opts spec cfg pod prev status [⟨.replicationInfo pod, .ok info⟩,
        ⟨.pingExternal cfg.addr cfg.username cfg.password cfg.db cfg.tlsConfig, .ok ()⟩,
        ⟨.replicaOf pod cfg.host cfg.port, .error e⟩] out
  | attaches {info : ReplicationInfo} {t : Trace} {out : Outcome} :
      attached cfg info = false → StartRun opts spec pod prev info status t out →
      AttachRun opts spec cfg pod prev status (⟨.replicationInfo pod, .ok info⟩ ::
        ⟨.pingExternal cfg.addr cfg.username cfg.password cfg.db cfg.tlsConfig, .ok ()⟩ ::
        ⟨.replicaOf pod cfg.host cfg.port, .ok ()⟩ :: t) out

theorem attach_run (h : (attach F opts spec cfg pod prev status).Runs t out) :
    AttachRun opts spec cfg pod.name prev status t out := by
  obtain ⟨r, t1, rfl, h1⟩ := runs_asked.1 h
  cases r with
  | error e =>
    obtain ⟨rfl, rfl⟩ := runs_ret.1 h1
    exact .noInfo rfl rfl
  | ok info =>
    dsimp only at h1
    split at h1
    · next hattached => exact .found hattached (start_cases h1)
    · next hattached =>
      rw [Bool.not_eq_true] at hattached
      obtain ⟨r, t2, rfl, h2⟩ := runs_call.1 h1
      cases r with
      | error e =>
        obtain ⟨rfl, rfl⟩ := runs_ret.1 h2
        exact .unreachable hattached rfl rfl
      | ok _ =>
        obtain ⟨r, t3, rfl, h3⟩ := runs_asked.1 h2
        cases r with
        | error e =>
          obtain ⟨rfl, rfl⟩ := runs_ret.1 h3
          exact .refused hattached rfl rfl
        | ok _ => exact .attaches hattached (start_cases h3)

/-! ## Before the pod is attached -/

/-- The check for existing data passes. -/
inductive Checked (spec : ExternalSourceSpec) (pod : String) (status : ExternalImportStatus) :
    Trace → Prop
  | empty {n : Int} : status.state = importStatePending → n ≤ 0 →
      Checked spec pod status [⟨.dbSize pod, .ok n⟩]
  | unchecked : ¬ (status.state = importStatePending ∧ spec.abortIfExistingData.getD true) →
      Checked spec pod status []

/-- A call with a client of the bootstrap pod, from the status that it starts with. -/
inductive TargetRun (opts : Options) (spec : ExternalSourceSpec) (cfg : ExternalConfig)
    (pod : String) (prev status : ExternalImportStatus) : Trace → Outcome → Prop
  | completed {message : String} : status.state = importStateCompleted →
      TargetRun opts spec cfg pod prev status [] (done (some status) "Completed" message, none)
  | failed {message : String} : status.state = importStateFailed →
      TargetRun opts spec cfg pod prev status [] (waiting (some status) "Failed" message, none)
  | noSize {e : Error} {out : Outcome} : status.state = importStatePending →
      out.1.status = some status → out.2.isSome →
      TargetRun opts spec cfg pod prev status [⟨.dbSize pod, .error e⟩] out
  | notEmpty {n : Int} {detail message : String} {out : Outcome} :
      status.state = importStatePending → 0 < n →
      out.1.status = some { status with state := importStateFailed, message } → out.2 = none →
      TargetRun opts spec cfg pod prev status
        [⟨.dbSize pod, .ok n⟩, ⟨.event (.externalImportFailed detail), ()⟩] out
  | noAuth {t t' : Trace} {e : Error} {out : Outcome} :
      status.state ≠ importStateCompleted → status.state ≠ importStateFailed →
      Checked spec pod status t →
      (configureMasterAuth pod cfg.username cfg.password).Runs t' (some e) →
      out.1.status = some status → out.2.isSome →
      TargetRun opts spec cfg pod prev status (t ++ t') out
  | attaches {t t' t'' : Trace} {out : Outcome} :
      status.state ≠ importStateCompleted → status.state ≠ importStateFailed →
      Checked spec pod status t →
      (configureMasterAuth pod cfg.username cfg.password).Runs t' none →
      AttachRun opts spec cfg pod prev status t'' out →
      TargetRun opts spec cfg pod prev status (t ++ (t' ++ t'')) out

/-- The part after the check, with the events `t0` of the check. -/
theorem importInto_run {t0 : Trace} (hchecked : Checked spec pod.name status t0)
    (hsettled : status.state = importStateCompleted ∨ status.state = importStateFailed → t0 = [])
    (h : (importInto F opts spec cfg pod prev status).Runs t out) :
    TargetRun opts spec cfg pod.name prev status (t0 ++ t) out := by
  unfold importInto at h
  split at h
  · next hcompleted =>
    obtain ⟨rfl, rfl⟩ := runs_ret.1 h
    rw [hsettled (.inl hcompleted)]
    exact .completed hcompleted
  · next hcompleted =>
    split at h
    · next hfailed =>
      obtain ⟨rfl, rfl⟩ := runs_ret.1 h
      rw [hsettled (.inr hfailed)]
      exact .failed hfailed
    · next hfailed =>
      obtain ⟨t1, r, t2, rfl, hauth, h1⟩ := runs_bind.1 h
      cases r with
      | some e =>
        obtain ⟨rfl, rfl⟩ := runs_ret.1 h1
        rw [append_nil]
        exact .noAuth hcompleted hfailed hchecked hauth rfl rfl
      | none => exact .attaches hcompleted hfailed hchecked hauth (attach_run h1)

theorem checkTarget_run (h : (checkTarget F opts spec cfg pod prev status).Runs t out) :
    TargetRun opts spec cfg pod.name prev status t out := by
  unfold checkTarget at h
  split at h
  · next hpending =>
    obtain ⟨r, t1, rfl, h1⟩ := runs_asked.1 h
    cases r with
    | error e =>
      obtain ⟨rfl, rfl⟩ := runs_ret.1 h1
      exact .noSize hpending.1 rfl rfl
    | ok size =>
      dsimp only at h1
      split at h1
      · next hsize =>
        obtain ⟨_, t2, rfl, h2⟩ := runs_call.1 h1
        obtain ⟨rfl, rfl⟩ := runs_ret.1 h2
        exact .notEmpty hpending.1 hsize rfl rfl
      · next hsize =>
        refine importInto_run (.empty hpending.1 (Int.not_lt.1 hsize)) ?_ h1
        rw [hpending.1]
        rintro (hstate | hstate) <;> exact absurd hstate (by decide)
  · next hpending => exact importInto_run (.unchecked hpending) (fun _ => rfl) h

theorem Checked.prior {pod : String} (h : Checked spec pod status t) : ∀ e ∈ t, Prior e.req := by
  cases h with
  | empty => exact forall_mem_singleton.2 trivial
  | unchecked => exact forall_mem_nil _

/-- **With a client of the pod** a call stops early, where only an import that was completed is so
afterwards, or it attaches the pod. -/
theorem TargetRun.stops_or_attaches {pod : String}
    (h : TargetRun opts spec cfg pod prev status t out) :
    (∀ e ∈ t, Early e.req) ∧ (IsCompleted out → status.state = importStateCompleted) ∨
      ∃ t1 t2, t = t1 ++ t2 ∧ status.state ≠ importStateCompleted ∧ (∀ e ∈ t1, Early e.req) ∧
        AttachRun opts spec cfg pod prev status t2 out := by
  have hearly : ∀ {t t' : Trace} {r : Option Error}, Checked spec pod status t →
      (configureMasterAuth pod cfg.username cfg.password).Runs t' r →
      ∀ e ∈ t ++ t', Early e.req := by
    intro t t' r hchecked hauth e he
    rcases mem_append.1 he with he | he
    · exact (hchecked.prior e he).early
    · exact ((configureMasterAuth_asks _ _ _).mem hauth e he).prior.early
  -- the status that a call returns when it stops
  have hkeeps : out.1.status = some status → IsCompleted out →
      status.state = importStateCompleted := by
    rintro hout ⟨st, hst, hstate⟩
    cases hout.symm.trans hst
    exact hstate
  cases h with
  | completed hstate => exact .inl ⟨forall_mem_nil _, fun _ => hstate⟩
  | failed => exact .inl ⟨forall_mem_nil _, hkeeps rfl⟩
  | noSize _ hout => exact .inl ⟨by simp [Early], hkeeps hout⟩
  | notEmpty _ _ hout =>
    exact .inl ⟨by simp [Early], fun h => absurd h
      (not_isCompleted hout (by decide : importStateFailed ≠ importStateCompleted))⟩
  | noAuth _ _ hchecked hauth hout => exact .inl ⟨hearly hchecked hauth, hkeeps hout⟩
  | @attaches t1 t2 t3 _ hstate _ hchecked hauth hattach =>
    exact .inr ⟨t1 ++ t2, t3, (append_assoc _ _ _).symm, hstate, hearly hchecked hauth, hattach⟩

/-- The call cannot come to a pod. -/
inductive Obstacle (F : Formats) (opts : Options) (spec : ExternalSourceSpec) :
    Trace → Prop
  | noFactory : opts.clientFactory = false → Obstacle F opts spec []
  | noKubeClient : opts.kubeClient = false → Obstacle F opts spec []
  | noConfig {t : Trace} {e : Error} :
      (buildExternalConfig F opts.cluster.ns spec).Runs t (.error e) → Obstacle F opts spec t
  | noPod {t : Trace} {cfg : ExternalConfig} :
      (buildExternalConfig F opts.cluster.ns spec).Runs t (.ok cfg) →
      selectBootstrapPod opts.pods = none → Obstacle F opts spec t
  | notReady {t : Trace} {cfg : ExternalConfig} {pod : Pod} :
      (buildExternalConfig F opts.cluster.ns spec).Runs t (.ok cfg) →
      selectBootstrapPod opts.pods = some pod → isPodReady pod = false → Obstacle F opts spec t
  | noClient {t : Trace} {cfg : ExternalConfig} {pod : Pod} {e : Error} :
      (buildExternalConfig F opts.cluster.ns spec).Runs t (.ok cfg) →
      selectBootstrapPod opts.pods = some pod →
      Obstacle F opts spec (t ++ [⟨.redisForPod pod.name, .error e⟩])

/-- **A call with a source** meets an obstacle and aborts, or has a client of the ready bootstrap
pod. -/
theorem ensureSource_run (h : (ensureSource F opts spec prev).Runs t out) :
    (Obstacle F opts spec t ∧ out.1.abort = true ∧
      (out.1.status = some prev ∨ out.1.status = some (startStatus spec prev))) ∨
    ∃ cfg pod t1 t2, opts.clientFactory = true ∧ opts.kubeClient = true ∧
      (buildExternalConfig F opts.cluster.ns spec).Runs t1 (.ok cfg) ∧
      selectBootstrapPod opts.pods = some pod ∧ isPodReady pod = true ∧
      t = t1 ++ ⟨.redisForPod pod.name, .ok ()⟩ :: t2 ∧
      TargetRun opts spec cfg pod.name prev (startStatus spec prev) t2 out := by
  unfold ensureSource at h
  split at h
  · next hfactory =>
    obtain ⟨rfl, rfl⟩ := runs_ret.1 h
    exact .inl ⟨.noFactory (Bool.not_eq_true _ ▸ hfactory), rfl, .inl rfl⟩
  · next hfactory =>
    split at h
    · next hkube =>
      obtain ⟨rfl, rfl⟩ := runs_ret.1 h
      exact .inl ⟨.noKubeClient (Bool.not_eq_true _ ▸ hkube), rfl, .inl rfl⟩
    · next hkube =>
      rw [not_not] at hfactory hkube
      obtain ⟨t1, r, t2, rfl, hconfig, h1⟩ := runs_bind.1 h
      cases r with
      | error e =>
        obtain ⟨rfl, rfl⟩ := runs_ret.1 h1
        rw [append_nil]
        exact .inl ⟨.noConfig hconfig, rfl, .inr rfl⟩
      | ok cfg =>
        dsimp only at h1
        split at h1
        · next hpod =>
          obtain ⟨rfl, rfl⟩ := runs_ret.1 h1
          rw [append_nil]
          exact .inl ⟨.noPod hconfig hpod, rfl, .inr rfl⟩
        · next pod hpod =>
          split at h1
          · next hready =>
            obtain ⟨rfl, rfl⟩ := runs_ret.1 h1
            rw [append_nil]
            exact .inl ⟨.notReady hconfig hpod (Bool.not_eq_true _ ▸ hready), rfl, .inr rfl⟩
          · next hready =>
            rw [not_not] at hready
            obtain ⟨r, t3, rfl, h2⟩ := runs_asked.1 h1
            cases r with
            | error e =>
              obtain ⟨rfl, rfl⟩ := runs_ret.1 h2
              exact .inl ⟨.noClient hconfig hpod, rfl, .inr rfl⟩
            | ok _ =>
              exact .inr ⟨cfg, pod, t1, t3, hfactory, hkube, hconfig, hpod, hready, rfl,
                checkTarget_run h2⟩

/-! ## Without a source -/

/-- A request that promotes no pod. -/
def Declined : Event Op → Prop
  | ⟨.redisForPod _, _⟩ | ⟨.noOne _, .error _⟩ => True
  | _ => False

/-- A call without a source: an import that was not started is forgotten, one that has ended is
kept, and any other ends with the promotion of the pod, when that succeeds. -/
inductive FinalRun (prev : ExternalImportStatus) : Trace → Outcome → Prop
  | forgets {out : Outcome} : out.1.status = none → FinalRun prev [] out
  | keeps {t : Trace} {out : Outcome} : (∀ e ∈ t, Declined e) →
      out.1.status = some prev → FinalRun prev t out
  | promoted {pod : String} {t : Trace} {r : Option Error} {now : Time} {ev : Ev}
      {message : String} {out : Outcome} : (clearMasterAuth pod).Runs t r →
      out.1.status =
        some { prev with state := importStateCompleted, lastSynced := some now, message } →
      FinalRun prev (⟨.redisForPod pod, .ok ()⟩ :: ⟨.noOne pod, .ok ()⟩ ::
        (t ++ [⟨.now, now⟩, ⟨.event ev, ()⟩])) out

theorem cutover_run (h : (cutover opts prev).Runs t out) : FinalRun prev t out := by
  unfold cutover at h
  split at h
  · obtain ⟨rfl, rfl⟩ := runs_ret.1 h
    exact .keeps (forall_mem_nil _) rfl
  · split at h
    · obtain ⟨rfl, rfl⟩ := runs_ret.1 h
      exact .keeps (forall_mem_nil _) rfl
    · obtain ⟨r, t1, rfl, h1⟩ := runs_asked.1 h
      cases r with
      | error e =>
        obtain ⟨rfl, rfl⟩ := runs_ret.1 h1
        exact .keeps (forall_mem_singleton.2 trivial) rfl
      | ok _ =>
        obtain ⟨r, t2, rfl, h2⟩ := runs_asked.1 h1
        cases r with
        | error e =>
          obtain ⟨rfl, rfl⟩ := runs_ret.1 h2
          exact .keeps (by simp [Declined]) rfl
        | ok _ =>
          obtain ⟨t3, r, t4, rfl, hclear, h3⟩ := runs_bind.1 h2
          obtain ⟨now, t5, rfl, h4⟩ := runs_call.1 h3
          obtain ⟨_, t6, rfl, h5⟩ := runs_call.1 h4
          obtain ⟨rfl, rfl⟩ := runs_ret.1 h5
          exact .promoted hclear rfl

theorem finalizeImport_run (h : (finalizeImport opts prev).Runs t out) : FinalRun prev t out := by
  unfold finalizeImport at h
  split at h
  · obtain ⟨rfl, rfl⟩ := runs_ret.1 h
    exact .forgets rfl
  split at h
  · obtain ⟨rfl, rfl⟩ := runs_ret.1 h
    exact .keeps (forall_mem_nil _) rfl
  split at h
  · obtain ⟨rfl, rfl⟩ := runs_ret.1 h
    exact .keeps (forall_mem_nil _) rfl
  · exact cutover_run h

theorem finalizeImport_failed (hstate : prev.state = importStateFailed)
    (h : (finalizeImport opts prev).Runs t out) : t = [] ∧ out.1.status = some prev := by
  unfold finalizeImport at h
  rw [hstate, if_neg (by decide), if_neg (by decide), if_pos rfl] at h
  obtain ⟨rfl, rfl⟩ := runs_ret.1 h
  exact ⟨rfl, rfl⟩

/-! ## Requests of the importer -/

/-- The request is one of the importer's: a secret, a command to Redis, the time or an event. -/
def ImportReq : Req → Prop
  | .getSecret .. | .redisForPod _ | .dbSize _ | .configSet .. | .replicationInfo _
  | .pingExternal .. | .replicaOf .. | .noOne _ | .now | .event _ => True
  | _ => False

theorem Prior.importReq (h : Prior q) : ImportReq q := by
  cases q <;> trivial

theorem promote_asks (status : ExternalImportStatus) :
    Asks ImportReq (promote spec cfg pod status) := by
  refine .call trivial fun r _ => ?_
  rw [ret_bind]
  cases r with
  | error e => exact .ret _
  | ok _ =>
    refine Issues.bind ((clearMasterAuth_asks _).mono fun q hq => hq.prior.importReq) fun _ => ?_
    exact .call trivial fun _ _ => .call trivial fun _ _ => .ret _

theorem evaluateSync_asks (info : ReplicationInfo) (status : ExternalImportStatus) :
    Asks ImportReq (evaluateSync opts spec cfg pod info status) := by
  unfold evaluateSync
  split
  · exact .ret _
  split
  · unfold follow
    dsimp only
    split
    · exact .ret _
    · exact .call trivial fun _ _ => .ret _
  · exact promote_asks status

theorem limitDuration_asks (info : ReplicationInfo) (startedAt : Time)
    (status : ExternalImportStatus) :
    Asks ImportReq (limitDuration F opts spec cfg pod prev info startedAt status) := by
  refine .call trivial fun now _ => ?_
  dsimp only [ret_bind]
  split
  · exact .call trivial fun _ _ => .ret _
  · exact evaluateSync_asks info status

theorem start_asks (info : ReplicationInfo) (status : ExternalImportStatus) :
    Asks ImportReq (start F opts spec cfg pod prev info status) := by
  unfold start
  split
  · exact .call trivial fun _ _ => .call trivial fun _ _ => limitDuration_asks ..
  · split
    · exact limitDuration_asks ..
    · exact .call trivial fun _ _ => limitDuration_asks ..

theorem attach_asks (status : ExternalImportStatus) :
    Asks ImportReq (attach F opts spec cfg pod prev status) := by
  refine .call trivial fun r _ => ?_
  cases r with
  | error e => exact .ret _
  | ok info =>
    dsimp only [ret_bind]
    split
    · exact start_asks ..
    · refine .call trivial fun r _ => ?_
      cases r with
      | error e => exact .ret _
      | ok _ =>
        refine .call trivial fun r _ => ?_
        cases r with
        | error e => exact .ret _
        | ok _ => exact start_asks ..

theorem checkTarget_asks (status : ExternalImportStatus) :
    Asks ImportReq (checkTarget F opts spec cfg pod prev status) := by
  have hinto : Asks ImportReq (importInto F opts spec cfg pod prev status) := by
    unfold importInto
    split
    · exact .ret _
    split
    · exact .ret _
    refine Issues.bind ((configureMasterAuth_asks _ _ _).mono fun q hq => hq.prior.importReq)
      fun r => ?_
    cases r with
    | some e => exact .ret _
    | none => exact attach_asks status
  unfold checkTarget
  split
  · refine .call trivial fun r _ => ?_
    cases r with
    | error e => exact .ret _
    | ok size =>
      dsimp only [ret_bind]
      split
      · exact .call trivial fun _ _ => .ret _
      · exact hinto
  · exact hinto

theorem finalizeImport_asks : Asks ImportReq (finalizeImport opts prev) := by
  have hcutover : Asks ImportReq (cutover opts prev) := by
    unfold cutover
    split
    · exact .ret _
    split
    · exact .ret _
    refine .call trivial fun r _ => ?_
    cases r with
    | error e => exact .ret _
    | ok _ =>
      refine .call trivial fun r _ => ?_
      rw [ret_bind]
      cases r with
      | error e => exact .ret _
      | ok _ =>
        refine Issues.bind ((clearMasterAuth_asks _).mono fun q hq => hq.prior.importReq)
          fun _ => ?_
        exact .call trivial fun _ _ => .call trivial fun _ _ => .ret _
  unfold finalizeImport
  split
  · exact .ret _
  split
  · exact .ret _
  split
  · exact .ret _
  · exact hcutover

end

end Keyval.Importer
