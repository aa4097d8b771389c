import KeyvalOperator.Phases.Sentinel

/-!
# The Sentinel phase

* `manageReset_run`: the phase waits, or attempts a reset under the conditions of its mode.
* `sentinel_run`: a run of the phase, part by part.
* `sentinel_refines`: the phase refines the request that stands for it in the controller.
-/

namespace Keyval.Phases

open Go Interact Interact.Prog List

variable {t : Trace} {st st' : State} {tr : SentinelResetTracker} {res : Result String}
  {F : Formats} {now : Time} {cr : KeyValCluster} {t1 t2 : Trace} {o : KeyValCluster × Option Error}
  {overrides : Map ConditionState} {e : Option Error}

/-! ## Timestamps -/

theorem normalizeTimestamp_eq (t : Time) : normalizeTimestamp t = t - t % second := by
  unfold normalizeTimestamp
  split
  · next h => rw [h]; rfl
  · rfl

theorem normalizeTimestamp_mono {t u : Time} (h : t ≤ u) :
    normalizeTimestamp t ≤ normalizeTimestamp u := by
  simp only [normalizeTimestamp_eq, second, Time, Duration] at *
  omega

theorem normalizeTimestamp_le (t : Time) : normalizeTimestamp t ≤ t := by
  simp only [normalizeTimestamp_eq, second, Time, Duration] at *
  omega

@[simp] theorem normalizeTimestamp_idem (t : Time) :
    normalizeTimestamp (normalizeTimestamp t) = normalizeTimestamp t := by
  simp only [normalizeTimestamp_eq, second, Time, Duration] at *
  omega

theorem second_dvd_normalizeTimestamp (t : Time) : second ∣ normalizeTimestamp t := by
  simp only [normalizeTimestamp_eq, second, Time, Duration] at *
  omega

/-- An elapsed time that was computed has passed, although `Sub` saturates. -/
theorem add_le_of_le_timeSub {now since : Time} {d : Duration}
    (hd : -(2 ^ 63) < d) (h : d ≤ timeSub now since) : since + d ≤ now := by
  simp only [timeSub, Time, Duration] at *
  omega

/-! ## The tracker in the annotations -/

section
variable (F : Formats)

/-- The time as it is read back. -/
def stored (t : Time) : Time :=
  if normalizeTimestamp t = 0 then 0
  else readTimestamp F (F.formatTime .rfc3339 (normalizeTimestamp t))

/-- `time.Parse` reads nothing else from a timestamp at second precision than what `Format` wrote;
outside of the years 0 to 9999 it reads nothing at all. -/
def ReadsBack : Prop :=
  ∀ t u : Time, second ∣ t → F.parseTime .rfc3339 (F.formatTime .rfc3339 t) = some u → u = t

end

theorem ReadsBack.stored (hF : ReadsBack F) (t : Time) :
    stored F t = 0 ∨ stored F t = normalizeTimestamp t := by
  unfold Phases.stored readTimestamp
  split
  · exact .inl rfl
  split
  · cases hparse : F.parseTime .rfc3339 (F.formatTime .rfc3339 (normalizeTimestamp t)) with
    | none => exact .inl rfl
    | some u => exact .inr (hF _ u (second_dvd_normalizeTimestamp t) hparse)
  · exact .inl rfl

theorem readAttempts_eq (raw : String) :
    readAttempts raw = ((parseInt 64 raw).filter (0 ≤ ·)).getD 0 := by
  unfold readAttempts
  split
  · rfl
  · next h =>
    rw [not_not.1 h]
    rfl

theorem readAttempts_range (raw : String) : 0 ≤ readAttempts raw ∧ readAttempts raw < 2 ^ 63 := by
  rw [readAttempts_eq]
  cases hparse : (parseInt 64 raw).filter (0 ≤ ·) with
  | none => exact ⟨le_refl _, by decide⟩
  | some n =>
    obtain ⟨hn, hpos⟩ := Option.filter_eq_some_iff.1 hparse
    unfold parseInt at hn
    obtain ⟨-, hrange⟩ := Option.filter_eq_some_iff.1 hn
    simp only [decide_eq_true_eq] at hpos hrange
    exact ⟨hpos, hrange.2⟩

theorem readAttempts_toString {n : Int} (hpos : 0 ≤ n) (hn : n < 2 ^ 63) :
    readAttempts (toString n) = n := by
  have hrange : -(2 ^ 63 : Int) ≤ n := by omega
  rw [readAttempts_eq, parseInt_toString]
  rw [Option.filter_some_pos (by simpa using ⟨hrange, hn⟩), Option.filter_some_pos (by simpa)]
  rfl

@[simp] theorem str_annotateOrDelete_self (m : Map String) (k v : String) (c : Prop)
    [Decidable c] : Map.str (annotateOrDelete m k c v) k = if c then v else "" := by
  unfold annotateOrDelete
  split
  · exact Map.str_insert_self m k v
  · simp [Map.str]

@[simp] theorem str_annotateOrDelete_ne (m : Map String) {k k' : String} (v : String) (c : Prop)
    [Decidable c] (h : k' ≠ k) : Map.str (annotateOrDelete m k c v) k' = Map.str m k' := by
  unfold annotateOrDelete
  split
  · exact Map.str_insert_ne m v h
  · simp [Map.str, Finmap.lookup_erase_ne h]

theorem read_trackerAnnotations (F : Formats) (m : Map String)
    (hpos : 0 ≤ tr.attempts) (hmax : tr.attempts < 2 ^ 63) :
    readSentinelResetTracker F (trackerAnnotations F m tr) =
      ⟨stored F tr.lossSince, tr.attempts, stored F tr.cooldownUntil⟩ := by
  have htime (t : Time) : readTimestamp F (if normalizeTimestamp t ≠ 0 then
      F.formatTime .rfc3339 (normalizeTimestamp t) else "") = stored F t := by
    unfold stored
    split_ifs <;> first | rfl | contradiction
  have hnumber : readAttempts (if 0 < tr.attempts then toString tr.attempts else "") =
      tr.attempts := by
    split
    · exact readAttempts_toString hpos hmax
    · next h => exact (le_antisymm (not_lt.1 h) hpos).symm
  have h1 : annotationSentinelQuorumLossSince ≠ annotationSentinelClusterResetAttempts := by decide
  have h2 : annotationSentinelQuorumLossSince ≠ annotationSentinelClusterResetCooldown := by decide
  have h3 : annotationSentinelClusterResetAttempts ≠ annotationSentinelClusterResetCooldown := by
    decide
  unfold readSentinelResetTracker trackerAnnotations
  simp only [if_neg (not_lt.2 hpos), str_annotateOrDelete_self, str_annotateOrDelete_ne _ _ _ h1,
    str_annotateOrDelete_ne _ _ _ h2, str_annotateOrDelete_ne _ _ _ h3, htime, hnumber]

theorem writeSentinelResetTracker_run {cr cr' : KeyValCluster}
    (h : (writeSentinelResetTracker F cr tr).Runs t (cr', e)) :
    (readSentinelResetTracker F cr.annotations = tr ∧ t = [] ∧ cr' = cr) ∨
    ∃ r, t = [⟨.patchCluster cr.ns cr.name (trackerAnnotations F cr.annotations tr) cr.finalizers,
      r⟩] ∧ cr' = match r with
        | .error _ => cr
        | .ok () => { cr with annotations := trackerAnnotations F cr.annotations tr } := by
  unfold writeSentinelResetTracker at h
  split at h
  · next heq =>
    obtain ⟨rfl, heq'⟩ := runs_ret.1 h
    cases heq'
    exact .inl ⟨heq, rfl, rfl⟩
  · obtain ⟨r, t', rfl, h1⟩ := runs_asked.1 h
    cases r with
    | error e' =>
      obtain ⟨rfl, heq⟩ := runs_ret.1 h1
      cases heq
      exact .inr ⟨_, rfl, rfl⟩
    | ok u =>
      obtain ⟨rfl, heq⟩ := runs_ret.1 h1
      cases heq
      exact .inr ⟨_, rfl, rfl⟩

/-! ## Clock readings and attempts -/

/-- The times that were read. -/
def readings (t : Trace) : List Time :=
  t.filterMap fun
    | ⟨.now, r⟩ => some r
    | _ => none

/-- The first time and the events after it. -/
def afterNow : Trace → Option (Time × Trace)
  | [] => none
  | ⟨.now, r⟩ :: t => some (r, t)
  | _ :: t => afterNow t

/-- The event makes a Sentinel client. -/
def opensClient : Event Op → Bool
  | ⟨.sentinelForPod _, _⟩ => true
  | _ => false

/-- The events after the second clock reading. -/
def afterSecond (t : Trace) : Option (Time × Trace) :=
  (afterNow t).bind fun p => afterNow p.2

/-- The time of the reset that a phase attempts: the phase reads the clock once more before it opens
the client of the first pod that is to be reset. -/
def attemptAt (t : Trace) : Option Time :=
  (afterSecond t).bind fun p => if p.2.any opensClient then some p.1 else none

@[simp] theorem readings_append (t1 t2 : Trace) :
    readings (t1 ++ t2) = readings t1 ++ readings t2 := filterMap_append

@[simp] theorem readings_now (r : Time) (t : Trace) :
    readings (⟨.now, r⟩ :: t) = r :: readings t := rfl

@[simp] theorem afterNow_now (r : Time) (t : Trace) : afterNow (⟨.now, r⟩ :: t) = some (r, t) := rfl

theorem afterNow_cons {e : Event Op} (h : e.req ≠ .now) (t : Trace) :
    afterNow (e :: t) = afterNow t := by
  obtain ⟨q, r⟩ := e
  cases q <;> first | rfl | exact absurd rfl h

theorem afterNow_append (h : ∀ e ∈ t, e.req ≠ .now)
    (t' : Trace) : afterNow (t ++ t') = afterNow t' := by
  induction t with
  | nil => rfl
  | cons e t ih =>
    rw [forall_mem_cons] at h
    rw [cons_append, afterNow_cons h.1, ih h.2]

theorem afterNow_spec {t t' : Trace} {r : Time} (h : afterNow t = some (r, t')) :
    r ∈ readings t ∧ t' <:+ t := by
  induction t with
  | nil => cases h
  | cons e t ih =>
    by_cases hnow : e.req = .now
    · obtain ⟨q, u⟩ := e
      obtain rfl : q = .now := hnow
      cases h
      exact ⟨.head _, suffix_cons _ _⟩
    · rw [afterNow_cons hnow] at h
      obtain ⟨hr, hsuffix⟩ := ih h
      refine ⟨?_, hsuffix.trans (suffix_cons _ _)⟩
      rw [← singleton_append, readings_append]
      exact mem_append_right _ hr

theorem attemptAt_mem {a : Time} (h : attemptAt t = some a) : a ∈ readings t := by
  obtain ⟨⟨r, t2⟩, h1, h2⟩ := Option.bind_eq_some_iff.1 h
  obtain ⟨⟨r1, t1⟩, h3, h4⟩ := Option.bind_eq_some_iff.1 h1
  obtain ⟨hr, -⟩ := afterNow_spec h4
  obtain ⟨-, u, hu⟩ := afterNow_spec h3
  split at h2
  · cases h2
    rw [← hu, readings_append]
    exact mem_append_right _ hr
  · cases h2

section
variable {r : Time}

theorem afterSecond_eq (h1 : ∀ e ∈ t1, e.req ≠ .now) :
    afterSecond (⟨.now, r⟩ :: (t1 ++ t2)) = afterNow t2 := by
  unfold afterSecond
  rw [afterNow_now, Option.bind_some, afterNow_append h1]

theorem attemptAt_eq_none (h1 : ∀ e ∈ t1, e.req ≠ .now) (h2 : ∀ e ∈ t2, opensClient e = false) :
    attemptAt (⟨.now, r⟩ :: (t1 ++ t2)) = none := by
  unfold attemptAt
  rw [afterSecond_eq h1]
  cases hnow : afterNow t2 with
  | none => rfl
  | some p =>
    obtain ⟨r', t'⟩ := p
    have hnone : ∀ e ∈ t', opensClient e = false := fun e he =>
      h2 e ((afterNow_spec hnow).2.mem he)
    simpa using hnone

theorem attemptAt_eq_some (h1 : ∀ e ∈ t1, e.req ≠ .now) (h2 : ∃ e ∈ t2, opensClient e = true) :
    attemptAt (⟨.now, r⟩ :: (t1 ++ ⟨.now, now⟩ :: t2)) = some now := by
  unfold attemptAt
  rw [afterSecond_eq h1, afterNow_now]
  simpa using h2

end

/-! ## Requests of the phase -/

/-- A request of the quorum check. -/
def QuorumReq : Req → Prop
  | .sentinelForPod _ | .checkQuorum .. => True
  | _ => False

theorem QuorumReq.not_now {q : Req} (h : QuorumReq q) : q ≠ .now := by
  rintro rfl
  exact h

/-- A request for the time or a report. -/
def WaitReq : Req → Prop
  | .now | .event _ => True
  | _ => False

theorem WaitReq.opensClient {e : Event Op} (h : WaitReq e.req) : opensClient e = false := by
  obtain ⟨q, r⟩ := e
  cases q <;> first | rfl | exact h.elim

theorem askQuorum_asks (cluster pod : String) : Asks QuorumReq (askQuorum cluster pod) := by
  refine .call trivial fun r _ => ?_
  match r with
  | .error _ => exact .ret _
  | .ok () => exact .call trivial fun _ _ => .ret _

theorem probeQuorum_asks (cluster : String) (acc : SentinelQuorumReport × List Error) (pod : Pod) :
    Asks QuorumReq (probeQuorum cluster acc pod) := by
  unfold probeQuorum
  split
  · exact (askQuorum_asks cluster pod.name).bind fun _ => .ret _
  · exact .ret _

theorem checkQuorum_asks (st : State) : Asks QuorumReq (checkQuorum st) := by
  unfold checkQuorum
  split
  · exact .ret _
  refine Issues.bind ?_ fun _ => .ret _
  unfold hasSentinelQuorum
  split
  · exact .ret _
  split
  · exact .ret _
  · exact (Issues.foldlM _ fun pod _ acc => probeQuorum_asks _ acc pod).bind fun _ => .ret _

theorem issueFrom_opens {cluster : String} {errs : List Error} {pods : List Pod}
    (h : (issueFrom cluster errs pods).Runs t res)
    (hready : ∃ pod ∈ pods, isPodReady pod = true) : ∃ e ∈ t, opensClient e = true := by
  induction pods with
  | nil =>
    obtain ⟨pod, hpod, -⟩ := hready
    cases hpod
  | cons pod rest ih =>
    unfold issueFrom at h
    split at h
    · obtain ⟨t1, r, t2, rfl, h1, -⟩ := runs_bind.1 h
      obtain ⟨r', t', rfl, -⟩ := runs_call.1 h1
      exact ⟨_, .head _, rfl⟩
    · next hpod =>
      refine ih h ?_
      obtain ⟨p, hp, hp'⟩ := hready
      rcases mem_cons.1 hp with rfl | hp
      · exact absurd hp' hpod
      · exact ⟨p, hp, hp'⟩

/-! ## Runs of the phase -/

theorem quorumTarget_pos (cr : KeyValCluster) : 0 < quorumTarget cr := by
  unfold quorumTarget
  dsimp only
  split <;> omega

/-- Only the delay differs. -/
def Delayed (st st' : State) : Prop := st' = { st with accumulator := st'.accumulator }

theorem Delayed.cluster (h : Delayed st st') : st'.cluster = st.cluster := by
  rw [h]

theorem requeueUntil_run {u : Time} (h : (requeueUntil st u).Runs t st') :
    Delayed st st' ∧ ∀ e ∈ t, e.req = .now := by
  obtain ⟨r, t', rfl, h1⟩ := runs_asked.1 h
  obtain ⟨rfl, rfl⟩ := runs_ret.1 h1
  exact ⟨rfl, forall_mem_singleton.2 rfl⟩

theorem coolDown_run {tr tr' : SentinelResetTracker} (h : (coolDown st tr now).Runs t (st', tr')) :
    Delayed st st' ∧ (∀ e ∈ t, e.req = .now) ∧ tr'.attempts = tr.attempts ∧
      tr'.lossSince = tr.lossSince := by
  obtain ⟨t1, st1, t2, rfl, h1, h2⟩ := runs_bind.1 h
  obtain ⟨rfl, heq⟩ := runs_ret.1 h2
  cases heq
  obtain ⟨hcl, ht⟩ := requeueUntil_run h1
  rw [append_nil]
  exact ⟨hcl, ht, rfl, rfl⟩

theorem resetDone_run {tr tr' : SentinelResetTracker} {pod : String}
    (h : (resetDone st tr now pod).Runs t (st', tr')) :
    Delayed st st' ∧ (∀ e ∈ t, e.req = .event (.sentinelResetDone pod)) ∧
      tr'.attempts = tr.attempts ∧ tr'.lossSince = tr.lossSince := by
  obtain ⟨r, t', rfl, h1⟩ := runs_asked.1 h
  obtain ⟨rfl, heq⟩ := runs_ret.1 h1
  cases heq
  exact ⟨rfl, forall_mem_singleton.2 rfl, rfl, rfl⟩

/-- What the phase does about resets: it waits, or it attempts one, after a quorum loss only when
the loss has lasted and attempts are left. -/
inductive ResetRun (st : State) (plan : ResetPlan) :
    Trace → SentinelResetTracker → Prop
  | idle {t : Trace} {tr : SentinelResetTracker} :
      (∀ e ∈ t, e.req = .now) → tr.attempts = plan.tracker.attempts →
      (tr.lossSince = plan.tracker.lossSince ∨ plan.tracker.lossSince = 0 ∧
        ∃ r ∈ readings t, tr.lossSince = normalizeTimestamp r) →
      (plan.mode = .topology → st.sentinelFactory = true → st.sentinelPods ≠ [] →
        failoverActive st = true ∨ plan.tracker.cooldownUntil ≠ 0 ∨
          (readySentinels st : Int) < quorumTarget st.cluster) →
      ResetRun st plan t tr
  | attempt {now : Time} {t1 t2 : Trace} {res : Result String}
      {tr : SentinelResetTracker} :
      failoverActive st = false → quorumTarget st.cluster ≤ readySentinels st →
      (issueSentinelReset st.sentinelPods st.cluster.name).Runs t1 res →
      (∀ e ∈ t2, WaitReq e.req) →
      (∀ pod, ∀ e ∈ t2, e.req = .event (.sentinelResetDone pod) → res = .ok pod) →
      (plan.mode = .quorumLoss → plan.tracker.lossSince ≠ 0 ∧
        plan.tracker.lossSince + sentinelResetObservationWindow ≤ normalizeTimestamp now ∧
        plan.tracker.attempts < sentinelResetMaxAttempts ∧
        tr.attempts = plan.tracker.attempts + 1 ∧ tr.lossSince = normalizeTimestamp now) →
      ResetRun st plan (⟨.now, now⟩ :: (t1 ++ t2)) tr

theorem resetEnd_run {tr1 tr2 tr' : SentinelResetTracker}
    (h : Runs (match res with
      | .error _ => coolDown st tr1 now
      | .ok pod => resetDone st tr2 now pod) t (st', tr')) :
    Delayed st st' ∧ (∀ e ∈ t, WaitReq e.req) ∧
      (∀ pod, ∀ e ∈ t, e.req = .event (.sentinelResetDone pod) → res = .ok pod) ∧
      ((tr'.attempts = tr1.attempts ∧ tr'.lossSince = tr1.lossSince) ∨
        (tr'.attempts = tr2.attempts ∧ tr'.lossSince = tr2.lossSince)) := by
  cases res with
  | error e =>
    obtain ⟨hcl, ht, hattempts, hloss⟩ := coolDown_run h
    refine ⟨hcl, fun e he => ?_, fun pod e he hdone => ?_, .inl ⟨hattempts, hloss⟩⟩
    · rw [ht e he]
      trivial
    · rw [ht e he] at hdone
      cases hdone
  | ok pod =>
    obtain ⟨hcl, ht, hattempts, hloss⟩ := resetDone_run h
    refine ⟨hcl, fun e he => ?_, fun pod e he hdone => ?_, .inr ⟨hattempts, hloss⟩⟩
    · rw [ht e he]
      trivial
    · rw [ht e he] at hdone
      cases hdone
      rfl

section
variable {plan : ResetPlan}

theorem quorumLossReset_run (hmode : plan.mode = .quorumLoss)
    (hfailover : failoverActive st = false) (hready : quorumTarget st.cluster ≤ readySentinels st)
    (h : (quorumLossReset st plan.tracker (normalizeTimestamp now)).Runs t (st', tr)) :
    Delayed st st' ∧ ResetRun st plan (⟨.now, now⟩ :: t) tr := by
  have hidle : plan.mode = .topology → st.sentinelFactory = true → st.sentinelPods ≠ [] →
      failoverActive st = true ∨ plan.tracker.cooldownUntil ≠ 0 ∨
        (readySentinels st : Int) < quorumTarget st.cluster := by
    intro htopology
    rw [hmode] at htopology
    cases htopology
  unfold quorumLossReset at h
  dsimp only at h
  generalize hL : (if plan.tracker.lossSince = 0 then normalizeTimestamp now
    else plan.tracker.lossSince) = L at h
  have hwaits : L = plan.tracker.lossSince ∨ plan.tracker.lossSince = 0 ∧
      ∃ r ∈ readings (⟨.now, now⟩ :: t), L = normalizeTimestamp r := by
    rw [← hL]
    split
    · next hzero => exact .inr ⟨hzero, now, .head _, rfl⟩
    · exact .inl rfl
  split at h
  · obtain ⟨rfl, heq⟩ := runs_ret.1 h
    cases heq
    exact ⟨rfl, .idle (forall_mem_singleton.2 rfl) rfl hwaits hidle⟩
  next helapsed =>
  split at h
  · obtain ⟨hcl, ht, hattempts, hloss⟩ := coolDown_run h
    exact ⟨hcl, .idle (forall_mem_cons.2 ⟨rfl, ht⟩) hattempts (hloss ▸ hwaits) hidle⟩
  next hleft =>
  obtain ⟨t1, res, t2, rfl, h1, h2⟩ := runs_bind.1 h
  obtain ⟨hcl, ht2, hdone, hend⟩ := resetEnd_run h2
  rw [or_self] at hend
  refine ⟨hcl, .attempt hfailover hready h1 ht2 hdone fun _ => ?_⟩
  have hpassed : L + sentinelResetObservationWindow ≤ normalizeTimestamp now :=
    add_le_of_le_timeSub (by decide) (not_lt.1 helapsed)
  split at hL
  · rw [hL] at hpassed
    exact absurd hpassed (by simp [sentinelResetObservationWindow, second])
  · next hloss => exact ⟨hloss, hL ▸ hpassed, not_le.1 hleft, hend.1, hend.2⟩

theorem manageReset_run (h : (manageReset st plan).Runs t (st', tr)) :
    Delayed st st' ∧ ResetRun st plan t tr := by
  unfold manageReset at h
  have htarget : 0 < quorumTarget st.cluster := quorumTarget_pos _
  by_cases hmode : plan.mode ≠ .none ∧ st.sentinelFactory = true ∧ st.sentinelPods ≠ []
  swap
  · rw [if_neg fun h => hmode ⟨h.1, h.2.1, h.2.2.1⟩] at h
    obtain ⟨rfl, heq⟩ := runs_ret.1 h
    cases heq
    refine ⟨rfl, .idle (forall_mem_nil _) rfl (.inl rfl) fun htopology hfactory hpods => ?_⟩
    exact absurd ⟨by simp [htopology], hfactory, hpods⟩ hmode
  rw [if_pos ⟨hmode.1, hmode.2.1, hmode.2.2, htarget⟩] at h
  split at h
  · next hactive =>
    obtain ⟨rfl, heq⟩ := runs_ret.1 h
    cases heq
    exact ⟨rfl, .idle (forall_mem_nil _) rfl (.inl rfl) fun _ _ _ => .inl hactive⟩
  next hactive =>
  obtain ⟨now, t', rfl, h1⟩ := runs_asked.1 h
  unfold attemptReset at h1
  dsimp only at h1
  split at h1
  · next hcooling =>
    obtain ⟨t1, st1, t2, rfl, h2, h3⟩ := runs_bind.1 h1
    obtain ⟨rfl, heq⟩ := runs_ret.1 h3
    cases heq
    obtain ⟨hcl, ht⟩ := requeueUntil_run h2
    rw [append_nil]
    exact ⟨hcl, .idle (forall_mem_cons.2 ⟨rfl, ht⟩) rfl (.inl rfl)
      fun _ _ _ => .inr (.inl hcooling.1)⟩
  split at h1
  · next hfew =>
    obtain ⟨rfl, heq⟩ := runs_ret.1 h1
    cases heq
    exact ⟨rfl, .idle (forall_mem_singleton.2 rfl) rfl (.inl rfl) fun _ _ _ => .inr (.inr hfew)⟩
  next hready =>
  have hfailover : failoverActive st = false := by simpa using hactive
  cases hplan : plan.mode with
  | none => exact absurd hplan hmode.1
  | quorumLoss =>
    rw [hplan] at h1
    exact quorumLossReset_run hplan hfailover (not_lt.1 hready) h1
  | topology =>
    rw [hplan] at h1
    obtain ⟨t1, res, t2, rfl, h2, h3⟩ := runs_bind.1 h1
    obtain ⟨hcl, ht2, hdone, -⟩ := resetEnd_run h3
    refine ⟨hcl, .attempt hfailover (not_lt.1 hready) h2 ht2 hdone fun hloss => ?_⟩
    rw [hplan] at hloss
    cases hloss

end

/-! ### The state that the reset sees -/

/-- The state has all that the phase reads. -/
structure SameView (st st' : State) : Prop where
  cluster : st'.cluster = st.cluster
  pods : st'.sentinelPods = st.sentinelPods
  factory : st'.sentinelFactory = st.sentinelFactory
  runtime : st'.runtime = st.runtime
  failover : failoverActive st' = failoverActive st

theorem SameView.ready (h : SameView st st') : readySentinels st' = readySentinels st := by
  unfold readySentinels
  rw [h.pods]

theorem SameView.planReset (h : SameView st st') : planReset st' = planReset st := by
  funext check tr now
  unfold Phases.planReset
  rw [h.runtime, h.cluster, h.ready]

theorem SameView.resetRun {plan : ResetPlan} (h : SameView st st') (hrun : ResetRun st' plan t tr) :
    ResetRun st plan t tr := by
  cases hrun with
  | idle ht hattempts hloss hreason =>
    rw [h.factory, h.pods, h.failover, h.ready, h.cluster] at hreason
    exact .idle ht hattempts hloss hreason
  | attempt hfailover hready hissue ht hdone hloss =>
    rw [h.failover] at hfailover
    rw [h.ready, h.cluster] at hready
    rw [h.pods, h.cluster] at hissue
    exact .attempt hfailover hready hissue ht hdone hloss

theorem requeueIf_sameView (st : State) (c : Prop) [Decidable c] (d : Duration) :
    SameView st (st.requeueIf c d) := by
  unfold State.requeueIf
  split <;> exact ⟨rfl, rfl, rfl, rfl, rfl⟩

theorem lookup_overrideIfAbsent {type type' : ConditionType} (h : type'.str ≠ type.str)
    (cond : ConditionState) :
    (overrideIfAbsent overrides type cond).lookup type'.str = overrides.lookup type'.str := by
  unfold overrideIfAbsent
  split
  · rfl
  · exact Finmap.lookup_insert_of_ne _ h

theorem lookup_nameCandidate {key : String} (h : key ≠ ConditionType.bootstrapInProgress.str)
    (cand : Bootstrap.Candidate) :
    (nameCandidate overrides cand).lookup key = overrides.lookup key := by
  unfold nameCandidate
  split
  · split
    · exact Finmap.lookup_insert_of_ne _ h
    · rfl
  · rfl

theorem reportQuorum_sameView (st : State) (check : QuorumCheck) :
    SameView st (reportQuorum st check) := by
  have hquorum : ConditionType.failoverInProgress.str ≠ ConditionType.sentinelQuorum.str := by
    decide
  unfold reportQuorum
  split
  · refine ⟨rfl, rfl, rfl, rfl, ?_⟩
    unfold failoverActive
    rw [Finmap.lookup_insert_of_ne _ hquorum]
  · refine ⟨rfl, rfl, rfl, rfl, ?_⟩
    unfold failoverActive State.requeueAfter lossOverrides
    rw [lookup_nameCandidate (by decide), lookup_overrideIfAbsent (by decide),
      lookup_overrideIfAbsent (by decide), Finmap.lookup_insert_of_ne _ hquorum]

theorem SameView.trans {st st' st'' : State} (h : SameView st st') (h' : SameView st' st'') :
    SameView st st'' :=
  ⟨h'.cluster.trans h.cluster, h'.pods.trans h.pods, h'.factory.trans h.factory,
    h'.runtime.trans h.runtime, h'.failover.trans h.failover⟩

theorem checkQuorum_requeueIf (st : State) (c : Prop) [Decidable c] (d : Duration) :
    checkQuorum (st.requeueIf c d) = checkQuorum st := by
  unfold State.requeueIf
  split <;> rfl

/-- A run of the phase in a cluster with Sentinels: a clock reading, the check of the quorum, the
reset and the write of the tracker. -/
structure PhaseRun (F : Formats) (st : State) (t : Trace) (st' : State) (now : Time)
    (check : QuorumCheck) (t1 t2 t3 : Trace) (tr : SentinelResetTracker) : Prop where
  events : t = ⟨.now, now⟩ :: (t1 ++ (t2 ++ t3))
  checked : (checkQuorum st).Runs t1 check
  reset : ResetRun st (planReset st check
    (readSentinelResetTracker F st.cluster.annotations) (normalizeTimestamp now)) t2 tr
  write : ∃ e, (writeSentinelResetTracker F st.cluster tr).Runs t3 (st'.cluster, e)
  quorum : st'.sentinel.quorumOK = check.ok

section
variable {err : Option Error}

theorem sentinel_run (hmode : st.cluster.spec.mode = .sentinel)
    (h : (sentinel F st).Runs t (st', err)) :
    ∃ now check t1 t2 t3 tr, PhaseRun F st t st' now check t1 t2 t3 tr := by
  unfold sentinel at h
  rw [if_neg (not_not.2 hmode)] at h
  obtain ⟨now, u, rfl, h1⟩ := runs_asked.1 h
  obtain ⟨t1, check, u1, rfl, hcheck, h2⟩ := runs_bind.1 h1
  obtain ⟨t2, ⟨st2, tr⟩, u2, rfl, hreset, h3⟩ := runs_bind.1 h2
  obtain ⟨t3, ⟨cr, e⟩, u3, rfl, hwrite, h4⟩ := runs_bind.1 h3
  obtain ⟨rfl, heq⟩ := runs_ret.1 h4
  cases heq
  have hview0 := requeueIf_sameView st
    ((st.sentinelPods.length : Int) < Status.expectedSentinels st.cluster) (2 * second)
  have hview := hview0.trans (reportQuorum_sameView _ check)
  obtain ⟨hdelayed, hrun⟩ := manageReset_run hreset
  rw [checkQuorum_requeueIf] at hcheck
  rw [hview.planReset, hview0.cluster] at hrun
  rw [hdelayed.cluster, hview.cluster] at hwrite
  exact ⟨now, check, t1, t2, t3, tr, by rw [append_nil], hcheck, hview.resetRun hrun,
    ⟨e, hwrite⟩, rfl⟩

theorem sentinel_unmanaged (hmode : st.cluster.spec.mode ≠ .sentinel)
    (h : (sentinel F st).Runs t (st', err)) :
    st' = { st with sentinel := { quorumOK := true, detail := "" } } := by
  unfold sentinel at h
  rw [if_pos hmode] at h
  exact (Prod.mk.inj (runs_ret.1 h).2).1

theorem sentinel_none (h : (sentinel F st).Runs t (st', err)) : err = none := by
  unfold sentinel at h
  split at h
  · exact (Prod.mk.inj (runs_ret.1 h).2).2
  obtain ⟨_, _, -, h1⟩ := runs_asked.1 h
  obtain ⟨_, _, _, -, -, h2⟩ := runs_bind.1 h1
  obtain ⟨_, _, _, -, -, h3⟩ := runs_bind.1 h2
  obtain ⟨_, _, _, -, -, h4⟩ := runs_bind.1 h3
  exact (Prod.mk.inj (runs_ret.1 h4).2).2

/-- The state without what the phase may change: the annotations of the cluster, the delays, the
conditions, the need for a reset and the quorum. -/
def sentinelFrame (st : State) : State :=
  { st with
    cluster := { st.cluster with annotations := ∅ }
    accumulator := {}
    conditionOverrides := ∅
    runtime := { st.runtime with needSentinelReset := false }
    sentinel := { quorumOK := false, detail := "" } }

theorem requeueIf_frame (st : State) (c : Prop) [Decidable c] (d : Duration) :
    sentinelFrame (st.requeueIf c d) = sentinelFrame st := by
  unfold State.requeueIf
  split <;> rfl

theorem reportQuorum_frame (st : State) (check : QuorumCheck) :
    sentinelFrame (reportQuorum st check) = sentinelFrame st := by
  unfold reportQuorum
  split <;> rfl

theorem Delayed.frame (h : Delayed st st') : sentinelFrame st' = sentinelFrame st := by
  rw [h]
  rfl

theorem writeSentinelResetTracker_frame (h : (writeSentinelResetTracker F cr tr).Runs t o) :
    { o.1 with annotations := ∅ } = { cr with annotations := (∅ : Map String) } := by
  rcases writeSentinelResetTracker_run h with ⟨-, -, hcr⟩ | ⟨r, -, hcr⟩
  · rw [hcr]
  · rw [hcr]
    cases r <;> rfl

theorem finishSentinel_frame {need : Bool} {check : QuorumCheck}
    (h : { cr with annotations := ∅ } = { st.cluster with annotations := (∅ : Map String) }) :
    sentinelFrame (finishSentinel st cr need check) = sentinelFrame st := by
  unfold sentinelFrame finishSentinel
  rw [h]

theorem sentinel_frame (h : (sentinel F st).Runs t (st', err)) :
    sentinelFrame st' = sentinelFrame st := by
  by_cases hmode : st.cluster.spec.mode = .sentinel
  swap
  · rw [sentinel_unmanaged hmode h]
    rfl
  unfold sentinel at h
  rw [if_neg (not_not.2 hmode)] at h
  obtain ⟨now, u, rfl, h1⟩ := runs_asked.1 h
  obtain ⟨t1, check, u1, rfl, -, h2⟩ := runs_bind.1 h1
  obtain ⟨t2, ⟨st2, tr⟩, u2, rfl, hreset, h3⟩ := runs_bind.1 h2
  obtain ⟨t3, ⟨cr, e⟩, u3, rfl, hwrite, h4⟩ := runs_bind.1 h3
  obtain ⟨rfl, heq⟩ := runs_ret.1 h4
  cases heq
  obtain ⟨hdelayed, -⟩ := manageReset_run hreset
  rw [finishSentinel_frame (writeSentinelResetTracker_frame hwrite), hdelayed.frame,
    reportQuorum_frame, requeueIf_frame]

/-- **The phase refines its request**: the reply is what the phase leaves, and the rest of the state
stays as it is. -/
theorem sentinel_refines (F : Formats) (st : State) :
    Refines (fun out rep => rep = .ok out.1.sentinel ∧ out.2 = none ∧
      sentinelFrame out.1 = sentinelFrame st) (sentinel F st) (ask .sentinel) := by
  rintro t ⟨st', err⟩ h
  exact ⟨[⟨.sentinel, .ok st'.sentinel⟩], .ok st'.sentinel, .call _ (.ret _), rfl,
    sentinel_none h, sentinel_frame h⟩

end

/-! ## What a phase leaves -/

/-- The start of the loss. -/
def lossBefore (s : SentinelResetTracker) (now : Time) : Time :=
  if s.lossSince = 0 then normalizeTimestamp now else s.lossSince

theorem expireCooldown_keeps (tr : SentinelResetTracker) (now : Time) :
    (expireCooldown tr now).lossSince = tr.lossSince ∧
      (expireCooldown tr now).attempts = tr.attempts := by
  unfold expireCooldown
  split <;> exact ⟨rfl, rfl⟩

/-- Without quorum the phase counts on from the loss that the tracker records, or from now. -/
theorem planReset_lost {check : QuorumCheck} (h : check.ok = false) (st : State)
    (tr : SentinelResetTracker) (now : Time) :
    (planReset st check tr (normalizeTimestamp now)).mode = .quorumLoss ∧
      (planReset st check tr (normalizeTimestamp now)).tracker.attempts = tr.attempts ∧
      (planReset st check tr (normalizeTimestamp now)).tracker.lossSince = lossBefore tr now := by
  obtain ⟨hloss, hattempts⟩ := expireCooldown_keeps tr (normalizeTimestamp now)
  unfold planReset
  rw [h]
  refine ⟨rfl, hattempts, ?_⟩
  simp only [Bool.false_eq_true, if_false, hloss]
  rfl

/-- The cluster's patch succeeds. -/
def PatchSucceeds : Event Op → Prop
  | ⟨.patchCluster .., r⟩ => r = .ok ()
  | _ => True

theorem issueSentinelReset_opens {st : State}
    (h : (issueSentinelReset st.sentinelPods st.cluster.name).Runs t res)
    (hready : quorumTarget st.cluster ≤ readySentinels st) : ∃ e ∈ t, opensClient e = true := by
  have hpos := quorumTarget_pos st.cluster
  have hcount : 0 < st.sentinelPods.countP isPodReady := by
    unfold readySentinels at hready
    omega
  obtain ⟨pod, hpod, hpod'⟩ := countP_pos_iff.1 hcount
  exact issueFrom_opens h ⟨pod, (mem_insertionSort _).2 hpod, hpod'⟩

theorem readAttempts_tracker (F : Formats) (m : Map String) :
    0 ≤ (readSentinelResetTracker F m).attempts ∧
      (readSentinelResetTracker F m).attempts < 2 ^ 63 := readAttempts_range _

theorem writeSentinelResetTracker_stores {cr cr' : KeyValCluster}
    (h : (writeSentinelResetTracker F cr tr).Runs t (cr', e)) (hpatch : ∀ e ∈ t, PatchSucceeds e)
    (hpos : 0 ≤ tr.attempts) (hmax : tr.attempts < 2 ^ 63) :
    (readSentinelResetTracker F cr'.annotations).attempts = tr.attempts ∧
      ((readSentinelResetTracker F cr'.annotations).lossSince = tr.lossSince ∨
        (readSentinelResetTracker F cr'.annotations).lossSince = stored F tr.lossSince) := by
  rcases writeSentinelResetTracker_run h with ⟨heq, -, rfl⟩ | ⟨r, rfl, hcr⟩
  · rw [heq]
    exact ⟨rfl, .inl rfl⟩
  · obtain rfl : r = .ok () := hpatch _ (.head _)
    subst hcr
    rw [read_trackerAnnotations F _ hpos hmax]
    exact ⟨rfl, .inr rfl⟩

theorem writeSentinelResetTracker_opens (h : (writeSentinelResetTracker F cr tr).Runs t o) :
    ∀ e ∈ t, opensClient e = false := by
  rcases writeSentinelResetTracker_run h with ⟨-, rfl, -⟩ | ⟨r, rfl, -⟩
  · exact forall_mem_nil _
  · exact forall_mem_singleton.2 rfl

section
variable {t3 : Trace} {check : QuorumCheck}

section
variable (h : PhaseRun F st t st' now check t1 t2 t3 tr)
include h

theorem PhaseRun.first : ∃ rest, readings t = now :: rest := by
  rw [h.events]
  exact ⟨_, readings_now now _⟩

theorem PhaseRun.mem_readings {r : Time} (hr : r ∈ readings t2) : r ∈ readings t := by
  rw [h.events, readings_now, readings_append, readings_append]
  exact .tail _ (mem_append_right _ (mem_append_left _ hr))

theorem PhaseRun.check_quiet : ∀ e ∈ t1, e.req ≠ .now := fun e he =>
  QuorumReq.not_now ((checkQuorum_asks st).mem h.checked e he)

theorem PhaseRun.idle (hidle : ∀ e ∈ t2, e.req = .now) : attemptAt t = none := by
  obtain ⟨e, hwrite⟩ := h.write
  rw [h.events]
  refine attemptAt_eq_none h.check_quiet (forall_mem_append.2 ⟨fun e he => ?_, ?_⟩)
  · exact WaitReq.opensClient (by rw [hidle e he]; trivial)
  · exact writeSentinelResetTracker_opens hwrite

end

theorem PhaseRun.attempt {a : Time} {u1 u2 : Trace}
    (h : PhaseRun F st t st' now check t1 (⟨.now, a⟩ :: (u1 ++ u2)) t3 tr)
    (hready : quorumTarget st.cluster ≤ readySentinels st)
    (hissue : (issueSentinelReset st.sentinelPods st.cluster.name).Runs u1 res) :
    attemptAt t = some a := by
  obtain ⟨e, he, hopens⟩ := issueSentinelReset_opens hissue hready
  rw [h.events, cons_append]
  exact attemptAt_eq_some h.check_quiet ⟨e, mem_append_left _ (mem_append_left _ he), hopens⟩

/-! ### Without quorum -/

/-- The tracker after a check without a quorum. -/
structure LostReset (s : SentinelResetTracker) (st : State) (t : Trace) (now : Time)
    (tr : SentinelResetTracker) : Prop where
  count : tr.attempts = s.attempts + (attemptAt t).toList.length
  loss : (tr.lossSince = lossBefore s now ∧ attemptAt t = none) ∨
    ∃ r ∈ readings t, tr.lossSince = normalizeTimestamp r ∧ ∀ a, attemptAt t = some a → a = r
  left : attemptAt t ≠ none → s.attempts < 3
  lasted : ∀ a, attemptAt t = some a → lossBefore s now + 30 * second ≤ normalizeTimestamp a
  allowed : attemptAt t ≠ none → failoverActive st = false ∧
    quorumTarget st.cluster ≤ readySentinels st

theorem PhaseRun.lost_reset (h : PhaseRun F st t st' now check t1 t2 t3 tr)
    (hlost : check.ok = false) :
    LostReset (readSentinelResetTracker F st.cluster.annotations) st t now tr := by
  have hreset := h.reset
  generalize readSentinelResetTracker F st.cluster.annotations = s at hreset ⊢
  obtain ⟨hmode, hplan, hloss⟩ := planReset_lost hlost st s now
  cases hreset with
  | idle hidle hattempts hwaits hreason =>
    have hnone := h.idle hidle
    have hno (a : Time) : attemptAt t ≠ some a := by simp [hnone]
    rw [hplan] at hattempts
    rw [hloss] at hwaits
    refine ⟨by simpa [hnone] using hattempts, ?_, fun hsome => absurd hnone hsome,
      fun a ha => absurd ha (hno a), fun hsome => absurd hnone hsome⟩
    rcases hwaits with hwaits | ⟨-, r, hr, hwaits⟩
    · exact .inl ⟨hwaits, hnone⟩
    · exact .inr ⟨r, h.mem_readings hr, hwaits, fun a ha => absurd ha (hno a)⟩
  | @attempt a u1 u2 res _ hfailover hready hissue hu2 _ hmade =>
    have hsome := h.attempt hready hissue
    have honly (a' : Time) (ha' : attemptAt t = some a') : a' = a :=
      (Option.some.inj (hsome.symm.trans ha')).symm
    obtain ⟨-, hlasted, hleft, hattempts, htr⟩ := hmade hmode
    rw [hplan] at hleft hattempts
    rw [hloss] at hlasted
    refine ⟨by simpa [hsome] using hattempts, .inr ⟨a, attemptAt_mem hsome, htr, honly⟩,
      fun _ => hleft, fun a' ha' => ?_, fun _ => ⟨hfailover, hready⟩⟩
    rw [honly a' ha']
    exact hlasted

theorem PhaseRun.stores (h : PhaseRun F st t st' now check t1 t2 t3 tr)
    (hlost : check.ok = false) (hpatch : ∀ e ∈ t, PatchSucceeds e) :
    (readSentinelResetTracker F st'.cluster.annotations).attempts = tr.attempts ∧
      ((readSentinelResetTracker F st'.cluster.annotations).lossSince = tr.lossSince ∨
        (readSentinelResetTracker F st'.cluster.annotations).lossSince =
          stored F tr.lossSince) := by
  obtain ⟨hpos, hmax⟩ := readAttempts_tracker F st.cluster.annotations
  have hr := h.lost_reset hlost
  obtain ⟨e, hwrite⟩ := h.write
  have hcount := hr.count
  have hleft := hr.left
  refine writeSentinelResetTracker_stores hwrite (fun e he => hpatch e ?_) (by omega) ?_
  · rw [h.events]
    exact .tail _ (mem_append_right _ (mem_append_right _ he))
  · cases hat : attemptAt t with
    | none => simp_all
    | some a =>
      have := hleft (by simp [hat])
      simp only [hat, Option.toList_some, length_singleton] at hcount
      omega

end

end Keyval.Phases
