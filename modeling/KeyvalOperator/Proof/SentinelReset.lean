import KeyvalOperator.Lib.Transition
import KeyvalOperator.Proof.SentinelPhase

/-!
# Sentinel resets

Runs of Sentinel phases, each of which starts from the tracker that the phase before it left in the
annotations, and what the reset of one phase reaches.

* `LossInv.step`: the attempts are counted, and the recorded loss moves with the last of them.
* `PhaseRun.inAttempt`: every `RESET` of a phase belongs to its one attempt.
* `quorumLossResets_bounded`: **at most three attempts, 30 seconds apart, until the quorum is
  back**.
* `PhaseRun.reaches`: a recorded reset was accepted by one ready Sentinel pod.
* `sentinel_resetsAll_iff`: **it reached every ready one just when there is only one**.
-/

namespace Keyval.Phases

open Go Interact Interact.Prog Transition List

variable {t : Trace} {F : Formats} {st st' : State} {t1 t2 t3 : Trace} {now : Time}
  {check : QuorumCheck} {tr : SentinelResetTracker}

/-! ## The resets of a phase -/

/-- A request that neither resets a Sentinel nor records anything. -/
def Silent : Req → Prop
  | .event _ | .sentinelReset .. => False
  | _ => True

theorem QuorumReq.silent {q : Req} (h : QuorumReq q) : Silent q := by
  cases q <;> first | exact h.elim | trivial

theorem writeSentinelResetTracker_silent {F : Formats} {cr : KeyValCluster}
    {tr : SentinelResetTracker} {o : KeyValCluster × Option Error}
    (h : (writeSentinelResetTracker F cr tr).Runs t o) : ∀ e ∈ t, Silent e.req := by
  rcases writeSentinelResetTracker_run h with ⟨-, rfl, -⟩ | ⟨r, rfl, -⟩
  · exact forall_mem_nil _
  · exact forall_mem_singleton.2 trivial

/-- A request of the RESET. -/
def ResetReq : Req → Prop
  | .sentinelForPod _ | .sentinelReset .. => True
  | _ => False

theorem issueFrom_asks (cluster : String) (errs : List Error) (pods : List Pod) :
    Asks ResetReq (issueFrom cluster errs pods) := by
  induction pods generalizing errs with
  | nil =>
    unfold issueFrom
    split <;> exact .ret _
  | cons p rest ih =>
    unfold issueFrom
    split
    swap
    · exact ih errs
    refine Issues.bind (.call trivial fun r _ => ?_) fun r => ?_
    · rw [ret_bind]
      cases r with
      | error e => exact .ret _
      | ok u => exact .call trivial fun _ _ => .ret _
    · cases r with
      | error e => exact ih _
      | ok u => exact .ret _

/-- `RESET` of a Sentinel. -/
def ResetsSentinel : Req → Prop
  | .sentinelReset .. => True
  | _ => False

theorem ResetsSentinel.not_silent {q : Req} (h : ResetsSentinel q) : ¬ Silent q := by
  cases q <;> first | exact h.elim | exact id

/-- All resets of a phase with the events `t` are those of one `issueSentinelReset`, right after the
clock reading `a`. -/
def InAttempt (st : State) (t : Trace) (a : Time) : Prop :=
  ∃ t1 t2 t3 res, t = t1 ++ ⟨.now, a⟩ :: (t2 ++ t3) ∧
    (issueSentinelReset st.sentinelPods st.cluster.name).Runs t2 res ∧
    ∀ e ∈ t1 ++ t3, ¬ ResetsSentinel e.req

theorem PhaseRun.silent (h : PhaseRun F st t st' now check t1 t2 t3 tr) {e : Event Op}
    (he : e ∈ t) (hreq : ¬ Silent e.req) : e ∈ t2 := by
  obtain ⟨err, hwrite⟩ := h.write
  rw [h.events] at he
  rcases mem_cons.1 he with rfl | he
  · exact absurd trivial hreq
  rcases mem_append.1 he with he | he
  · exact absurd ((checkQuorum_asks st).mem h.checked e he).silent hreq
  rcases mem_append.1 he with he | he
  · exact he
  · exact absurd (writeSentinelResetTracker_silent hwrite e he) hreq

/-- **A phase that resets a Sentinel makes an attempt**, which all of its resets belong to. -/
theorem PhaseRun.inAttempt (h : PhaseRun F st t st' now check t1 t2 t3 tr) {e : Event Op}
    (he : e ∈ t) (hreset : ResetsSentinel e.req) :
    ∃ a, attemptAt t = some a ∧ InAttempt st t a := by
  obtain ⟨err, hwrite⟩ := h.write
  have hmem := h.silent he hreset.not_silent
  have hrun := h.reset
  cases hrun with
  | idle hidle =>
    rw [hidle e hmem] at hreset
    exact hreset.elim
  | @attempt a u1 u2 res _ _ hready hissue hwaits =>
    refine ⟨a, h.attempt hready hissue, ⟨.now, now⟩ :: t1, u1, u2 ++ t3, res, ?_, hissue, ?_⟩
    · rw [h.events]
      simp
    · intro e he hreset
      rcases mem_append.1 he with he | he
      · rcases mem_cons.1 he with rfl | he
        · exact hreset
        · exact hreset.not_silent ((checkQuorum_asks st).mem h.checked e he).silent
      · rcases mem_append.1 he with he | he
        · have hwait := hwaits e he
          obtain ⟨q, r⟩ := e
          cases q <;> first | exact hreset | exact hwait
        · exact hreset.not_silent (writeSentinelResetTracker_silent hwrite e he)

/-! ## Runs of phases -/

/-- One run of the Sentinel phase. -/
structure SentinelPass where
  before : State
  events : Trace
  after : State

/-- A phase goes from the tracker that it reads to the tracker that it leaves. -/
def PassStep (F : Formats) (s : SentinelResetTracker) (p : SentinelPass)
    (s' : SentinelResetTracker) : Prop :=
  readSentinelResetTracker F p.before.cluster.annotations = s ∧
    (sentinel F p.before).Runs p.events (p.after, none) ∧
    s' = readSentinelResetTracker F p.after.cluster.annotations

/-- The times of the attempts. -/
def attempts (ps : List SentinelPass) : List Time := ps.filterMap (attemptAt ·.events)

/-- The times of a run: that of the loss recorded before it, and its clock readings. -/
def clock (s : SentinelResetTracker) (ps : List SentinelPass) : List Time :=
  (if s.lossSince = 0 then [] else [s.lossSince]) ++ ps.flatMap (readings ·.events)

@[simp] theorem attempts_concat (ps : List SentinelPass) (p : SentinelPass) :
    attempts (ps ++ [p]) = attempts ps ++ (attemptAt p.events).toList := by
  unfold attempts
  rw [filterMap_append]
  cases h : attemptAt p.events <;> simp [h]

@[simp] theorem clock_concat (s : SentinelResetTracker) (ps : List SentinelPass)
    (p : SentinelPass) : clock s (ps ++ [p]) = clock s ps ++ readings p.events := by
  simp [clock]

/-- What a phase without a quorum does. -/
structure LostPass (s : SentinelResetTracker) (p : SentinelPass) (s' : SentinelResetTracker)
    (now : Time) : Prop where
  first : ∃ rest, readings p.events = now :: rest
  count : s'.attempts = s.attempts + (attemptAt p.events).toList.length
  loss : s'.lossSince ≠ 0 → ∃ L, normalizeTimestamp L ≤ s'.lossSince ∧
    (L = lossBefore s now ∧ attemptAt p.events = none ∨
      L ∈ readings p.events ∧ ∀ a, attemptAt p.events = some a → a = L)
  left : attemptAt p.events ≠ none → s.attempts < 3
  lasted : ∀ a, attemptAt p.events = some a → lossBefore s now + 30 * second ≤ normalizeTimestamp a
  allowed : attemptAt p.events ≠ none → failoverActive p.before = false ∧
    quorumTarget p.before.cluster ≤ readySentinels p.before

/-- A timestamp that is written is read back truncated, or not at all. -/
theorem ReadsBack.keeps (hF : ReadsBack F) {s' : SentinelResetTracker} {L : Time}
    (hL : normalizeTimestamp L ≤ tr.lossSince)
    (hread : s'.lossSince = tr.lossSince ∨ s'.lossSince = Phases.stored F tr.lossSince)
    (hne : s'.lossSince ≠ 0) : normalizeTimestamp L ≤ s'.lossSince := by
  rcases hread with hread | hread
  · rwa [hread]
  · rcases hF.stored tr.lossSince with hzero | hnorm
    · exact absurd (hread.trans hzero) hne
    · rw [hread, hnorm, ← normalizeTimestamp_idem L]
      exact normalizeTimestamp_mono hL

theorem PhaseRun.lost (hF : ReadsBack F) (h : PhaseRun F st t st' now check t1 t2 t3 tr)
    (hlost : check.ok = false) (hpatch : ∀ e ∈ t, PatchSucceeds e) :
    LostPass (readSentinelResetTracker F st.cluster.annotations) ⟨st, t, st'⟩
      (readSentinelResetTracker F st'.cluster.annotations) now := by
  have hr := h.lost_reset hlost
  obtain ⟨hcount, hread⟩ := h.stores hlost hpatch
  refine ⟨h.first, hcount.trans hr.count, fun hne => ?_, hr.left, hr.lasted, hr.allowed⟩
  rcases hr.loss with ⟨htr, hnone⟩ | ⟨r, hmem, htr, hattempt⟩
  · exact ⟨_, hF.keeps (htr ▸ normalizeTimestamp_le _) hread hne, .inl ⟨rfl, hnone⟩⟩
  · exact ⟨r, hF.keeps htr.ge hread hne, .inr ⟨hmem, hattempt⟩⟩

theorem PassStep.lost {F : Formats} (hF : ReadsBack F) {s s' : SentinelResetTracker}
    {p : SentinelPass} (h : PassStep F s p s') (hlost : p.after.sentinel.quorumOK = false)
    (hpatch : ∀ e ∈ p.events, PatchSucceeds e) : ∃ now, LostPass s p s' now := by
  obtain ⟨rfl, hrun, rfl⟩ := h
  by_cases hmode : p.before.cluster.spec.mode = .sentinel
  · obtain ⟨now, check, t1, t2, t3, tr, hphase⟩ := sentinel_run hmode hrun
    exact ⟨now, hphase.lost hF (hphase.quorum.symm.trans hlost) hpatch⟩
  · rw [sentinel_unmanaged hmode hrun] at hlost
    cases hlost

/-! ## The bound -/

/-- The second time is at least 30 seconds after the first, in second-truncated time. -/
def Apart (a b : Time) : Prop := normalizeTimestamp a + 30 * second ≤ normalizeTimestamp b

/-- The start of the loss and the attempts. -/
def marks (s : SentinelResetTracker) (ps : List SentinelPass) : List Time :=
  (clock s ps).take 1 ++ attempts ps

theorem attempts_subset_clock (s : SentinelResetTracker) (ps : List SentinelPass) :
    ∀ a ∈ attempts ps, a ∈ clock s ps := by
  intro a ha
  obtain ⟨p, hp, hat⟩ := mem_filterMap.1 ha
  exact mem_append_right _ (mem_flatMap.2 ⟨p, hp, attemptAt_mem hat⟩)

theorem marks_subset_clock (s : SentinelResetTracker) (ps : List SentinelPass) :
    ∀ m ∈ marks s ps, m ∈ clock s ps := by
  intro m hm
  rcases mem_append.1 hm with hm | hm
  · exact mem_of_mem_take hm
  · exact attempts_subset_clock s ps m hm

/-- The invariant of the phases. -/
structure LossInv (s0 : SentinelResetTracker) (ps : List SentinelPass)
    (s : SentinelResetTracker) : Prop where
  /-- The tracker has counted the attempts. -/
  count : attempts ps = [] ∨ ((attempts ps).length : Int) ≤ s.attempts
  few : (attempts ps).length ≤ 3
  spaced : (marks s0 ps).Pairwise Apart
  /-- The recorded loss is not older than any attempt. -/
  since : s.lossSince ≠ 0 → ∀ m ∈ marks s0 ps, normalizeTimestamp m ≤ s.lossSince
  unstarted : clock s0 ps = [] → attempts ps = [] ∧ s.lossSince = 0

theorem LossInv.init (s : SentinelResetTracker) : LossInv s [] s where
  count := .inl rfl
  few := Nat.zero_le _
  spaced := by
    unfold marks clock
    split <;> simp [attempts]
  since hne m hm := by
    unfold marks clock at hm
    rw [if_neg hne] at hm
    obtain rfl : m = s.lossSince := by simpa [attempts] using hm
    exact normalizeTimestamp_le _
  unstarted h := by
    unfold clock at h
    split at h
    · next hzero => exact ⟨rfl, hzero⟩
    · simp at h

section
variable {s0 s s' : SentinelResetTracker} {ps : List SentinelPass} {p : SentinelPass}

/-- The marks before an attempt of the phase `p`: apart from each other, not after the loss that `p`
counts from, nor after a clock reading of `p`. -/
theorem LossInv.before (hI : LossInv s0 ps s) (hp : LostPass s p s' now)
    (hclock : (clock s0 (ps ++ [p])).Pairwise (· ≤ ·)) :
    ∃ base, marks s0 (ps ++ [p]) = base ++ (attemptAt p.events).toList ∧ base.Pairwise Apart ∧
      (∀ m ∈ base, normalizeTimestamp m ≤ lossBefore s now) ∧
      ∀ m ∈ base, ∀ r ∈ readings p.events, m ≤ r := by
  obtain ⟨rest, hfirst⟩ := hp.first
  refine ⟨(clock s0 (ps ++ [p])).take 1 ++ attempts ps, ?_, ?_⟩
  · rw [marks, attempts_concat, append_assoc]
  rw [clock_concat] at hclock ⊢
  obtain ⟨-, hreadings, hlater⟩ := pairwise_append.1 hclock
  by_cases hstart : clock s0 ps = []
  · -- the first phase of the run records the loss
    obtain ⟨hattempts, hzero⟩ := hI.unstarted hstart
    rw [hstart, hattempts, hfirst]
    rw [hfirst] at hreadings
    simp only [nil_append, take_succ_cons, take_zero, append_nil,
      forall_mem_singleton, forall_mem_cons]
    refine ⟨pairwise_singleton _ _, ?_, le_refl _, (pairwise_cons.1 hreadings).1⟩
    rw [lossBefore, if_pos hzero]
  · have htake : (clock s0 ps ++ readings p.events).take 1 = (clock s0 ps).take 1 :=
      take_append_of_le_length (length_pos_iff.2 hstart)
    rw [htake]
    have hle : ∀ m ∈ marks s0 ps, ∀ r ∈ readings p.events, m ≤ r := fun m hm =>
      hlater m (marks_subset_clock s0 ps m hm)
    refine ⟨hI.spaced, fun m hm => ?_, hle⟩
    unfold lossBefore
    split
    · exact normalizeTimestamp_mono (hle m hm now (hfirst ▸ .head _))
    · next hne => exact hI.since hne m hm

/-- **A phase without quorum keeps the invariant.** -/
theorem LossInv.step (hI : LossInv s0 ps s) (hp : LostPass s p s' now) (hpos : 0 ≤ s.attempts)
    (hclock : (clock s0 (ps ++ [p])).Pairwise (· ≤ ·)) : LossInv s0 (ps ++ [p]) s' := by
  obtain ⟨base, hmarks, hspaced, hloss, hle⟩ := hI.before hp hclock
  have hcounted : ((attempts ps).length : Int) ≤ s.attempts := by
    rcases hI.count with hnil | hcount
    · simpa [hnil] using hpos
    · exact hcount
  refine ⟨.inr ?_, ?_, ?_, fun hne m hm => ?_, fun hstart => ?_⟩
  · rw [attempts_concat, hp.count, length_append]
    push_cast
    omega
  · rw [attempts_concat, length_append]
    cases hat : attemptAt p.events with
    | none => simpa using hI.few
    | some a =>
      have hleft := hp.left (by simp [hat])
      simp only [Option.toList_some, length_singleton]
      omega
  · rw [hmarks]
    refine pairwise_append.2 ⟨hspaced, ?_, fun m hm a ha => ?_⟩
    · cases attemptAt p.events <;> simp
    · exact (add_le_add_left (hloss m hm) _).trans (hp.lasted a (Option.mem_toList.1 ha))
  · rw [hmarks] at hm
    obtain ⟨L, hL, ⟨rfl, hnone⟩ | ⟨hreading, hattempt⟩⟩ := hp.loss hne
    · rw [hnone, Option.toList_none, append_nil] at hm
      refine le_trans ?_ hL
      rw [← normalizeTimestamp_idem m]
      exact normalizeTimestamp_mono (hloss m hm)
    · rcases mem_append.1 hm with hm | hm
      · exact (normalizeTimestamp_mono (hle m hm L hreading)).trans hL
      · rwa [hattempt m (Option.mem_toList.1 hm)]
  · obtain ⟨rest, hfirst⟩ := hp.first
    rw [clock_concat, hfirst] at hstart
    simp at hstart

end

theorem lossInv_run {F : Formats} (hF : ReadsBack F) {s s' : SentinelResetTracker}
    {ps : List SentinelPass} (hrun : Steps (PassStep F) s ps s')
    (hlost : ∀ p ∈ ps, p.after.sentinel.quorumOK = false)
    (hpatch : ∀ p ∈ ps, ∀ e ∈ p.events, PatchSucceeds e)
    (hclock : (clock s ps).Pairwise (· ≤ ·)) : LossInv s ps s' := by
  induction hrun with
  | nil => exact .init s
  | snoc hrun hstep ih =>
    rw [forall_mem_append, forall_mem_singleton] at hlost hpatch
    obtain ⟨now, hp⟩ := hstep.lost hF hlost.2 hpatch.2
    have hI := ih hlost.1 hpatch.1 (by
      rw [clock_concat] at hclock
      exact (pairwise_append.1 hclock).1)
    obtain ⟨rfl, -⟩ := hstep
    exact hI.step hp (readAttempts_tracker F _).1 hclock

/-- **Bounded quorum-loss resets.** In a run of Sentinel phases without quorum, whose writes succeed
and whose clock does not go back, at most three resets are attempted, at least 30 seconds apart and
the first at least 30 seconds after the loss was recorded; none during a failover or with fewer
ready Sentinels than the quorum target. Every `RESET` is sent in one of these attempts. -/
theorem quorumLossResets_bounded {F : Formats} (hF : ReadsBack F) {s s' : SentinelResetTracker}
    {ps : List SentinelPass} (hrun : Steps (PassStep F) s ps s')
    (hlost : ∀ p ∈ ps, p.after.sentinel.quorumOK = false)
    (hpatch : ∀ p ∈ ps, ∀ e ∈ p.events, PatchSucceeds e) (hclock : (clock s ps).Pairwise (· ≤ ·)) :
    (attempts ps).length ≤ 3 ∧ (attempts ps).Pairwise Apart ∧
      (∀ loss ∈ (clock s ps).head?, ∀ a ∈ attempts ps, Apart loss a) ∧
      (∀ p ∈ ps, attemptAt p.events ≠ none → failoverActive p.before = false ∧
        quorumTarget p.before.cluster ≤ readySentinels p.before) ∧
      ∀ p ∈ ps, ∀ e ∈ p.events, ResetsSentinel e.req →
        ∃ a ∈ attempts ps, attemptAt p.events = some a ∧ InAttempt p.before p.events a := by
  have hI := lossInv_run hF hrun hlost hpatch hclock
  obtain ⟨-, hspaced, hfirst⟩ := pairwise_append.1 hI.spaced
  refine ⟨hI.few, hspaced, fun loss hloss a ha => ?_, fun p hp => ?_, fun p hp e he hreset => ?_⟩
  · refine hfirst loss ?_ a ha
    rw [Option.mem_def, head?_eq_some_iff] at hloss
    obtain ⟨rest, hrest⟩ := hloss
    rw [hrest]
    exact .head _
  · obtain ⟨s1, s2, hstep⟩ := hrun.mem hp
    obtain ⟨now, hpass⟩ := hstep.lost hF (hlost p hp) (hpatch p hp)
    exact hpass.allowed
  · obtain ⟨s1, s2, -, hphase, -⟩ := hrun.mem hp
    have hmode : p.before.cluster.spec.mode = .sentinel := by
      by_contra hmode
      have hquorum := hlost p hp
      rw [sentinel_unmanaged hmode hphase] at hquorum
      cases hquorum
    obtain ⟨now, check, t1, t2, t3, tr, hrun⟩ := sentinel_run hmode hphase
    obtain ⟨a, hattempt, hin⟩ := hrun.inAttempt he hreset
    exact ⟨a, mem_filterMap.2 ⟨p, hp, hattempt⟩, hattempt, hin⟩

/-! ### A quorum loss of the cluster `a` -/

/-- The Sentinels answer so at a time. -/
def sentinelsAt (now : Time) (quorum : Bool) : Replies
  | .now => now
  | .sentinelForPod _ | .sentinelReset .. | .patchCluster .. => .ok ()
  | .checkQuorum .. => .ok quorum
  | q => q.unavailable

/-- The phase then. -/
def passAt (now : Time) (quorum : Bool) (before : State) : SentinelPass :=
  let run := answer (sentinelsAt now quorum) (sentinel .decimal before)
  ⟨before, run.1, run.2.1⟩

theorem passAt_step (now : Time) (quorum : Bool) (before : State) :
    PassStep .decimal (readSentinelResetTracker .decimal before.cluster.annotations)
      (passAt now quorum before)
      (readSentinelResetTracker .decimal (passAt now quorum before).after.cluster.annotations) := by
  have hrun := runs_answer (sentinelsAt now quorum) (sentinel .decimal before)
  refine ⟨rfl, ?_, rfl⟩
  rw [← sentinel_none hrun]
  exact hrun

theorem passAt_patches (now : Time) (quorum : Bool) (before : State) :
    ∀ e ∈ (passAt now quorum before).events, PatchSucceeds e := by
  rintro ⟨q, r⟩ he
  have hrep := answer_rep _ _ _ he
  cases q <;> trivial

theorem readsBack_decimal : ReadsBack .decimal := by
  intro t u _ h
  have h' := (parseInt_toString 64 t).symm.trans h
  exact (Option.some.inj (Option.filter_eq_some_iff.1 h').1).symm

/-- A cluster with three ready Sentinel pods. -/
def sentinelA : State where
  cluster := clusterA
  sentinelPods := ["a-sentinel-0", "a-sentinel-1", "a-sentinel-2"].map readyPod

/-- The phase that notices the loss. -/
def lossA : SentinelPass := passAt (100 * second) false sentinelA

/-- The phase half a minute later. -/
def resetA : SentinelPass :=
  passAt (131 * second) false { sentinelA with cluster := lossA.after.cluster }

theorem quorumLossResets_bounded_resetA :
    attempts [lossA, resetA] = [131 * second] ∧
      (attempts [lossA, resetA]).length ≤ 3 ∧ (attempts [lossA, resetA]).Pairwise Apart ∧
      (∀ loss ∈ (clock {} [lossA, resetA]).head?, ∀ a ∈ attempts [lossA, resetA], Apart loss a) ∧
      (∀ p ∈ [lossA, resetA], attemptAt p.events ≠ none → failoverActive p.before = false ∧
        quorumTarget p.before.cluster ≤ readySentinels p.before) ∧
      ∀ p ∈ [lossA, resetA], ∀ e ∈ p.events, ResetsSentinel e.req →
        ∃ a ∈ attempts [lossA, resetA], attemptAt p.events = some a ∧
          InAttempt p.before p.events a := by
  have hrun : Steps (PassStep .decimal) {} [lossA, resetA] _ :=
    (Steps.nil.snoc (l := lossA) (passAt_step _ _ sentinelA)).snoc (l := resetA) (passAt_step _ _ _)
  have hlost : ∀ p ∈ [lossA, resetA], p.after.sentinel.quorumOK = false := by decide +kernel
  have hpatch : ∀ p ∈ [lossA, resetA], ∀ e ∈ p.events, PatchSucceeds e := by
    simp only [forall_mem_cons]
    exact ⟨passAt_patches _ _ _, passAt_patches _ _ _, forall_mem_nil _⟩
  have hclock : (clock {} [lossA, resetA]).Pairwise (· ≤ ·) := by decide +kernel
  exact ⟨by decide +kernel, quorumLossResets_bounded readsBack_decimal hrun hlost hpatch hclock⟩

/-! ## What a recorded reset reaches -/

/-- A Sentinel accepts the RESET. -/
def accepted (cluster pod : String) : Event Op := ⟨.sentinelReset pod cluster, .ok ()⟩

theorem resetPod_accepted {cluster pod : String} {r : Result Unit}
    (h : (resetPod cluster pod).Runs t r) (name : String) :
    accepted cluster name ∈ t ↔ name = pod ∧ r = .ok () := by
  unfold accepted
  obtain ⟨reply, t', rfl, h1⟩ := runs_asked.1 h
  cases reply with
  | error e =>
    obtain ⟨rfl, rfl⟩ := runs_ret.1 h1
    simp
  | ok u =>
    obtain ⟨reply, t'', rfl, h2⟩ := runs_call.1 h1
    obtain ⟨rfl, rfl⟩ := runs_ret.1 h2
    simp [eq_comm]

theorem issueFrom_accepted {cluster pod : String} {errs : List Error} {pods : List Pod}
    (h : (issueFrom cluster errs pods).Runs t (.ok pod)) :
    (∃ p ∈ pods, isPodReady p = true ∧ p.name = pod) ∧
      ∀ name, accepted cluster name ∈ t ↔ name = pod := by
  induction pods generalizing errs t with
  | nil =>
    unfold issueFrom at h
    split at h <;> cases (runs_ret.1 h).2
  | cons p rest ih =>
    unfold issueFrom at h
    split at h
    swap
    · obtain ⟨⟨q, hq, hready⟩, honly⟩ := ih h
      exact ⟨⟨q, .tail _ hq, hready⟩, honly⟩
    next hready =>
    obtain ⟨t1, r, t2, rfl, h1, h2⟩ := runs_bind.1 h
    have hpod := resetPod_accepted h1
    cases r with
    | error e =>
      obtain ⟨⟨q, hq, hready⟩, honly⟩ := ih h2
      refine ⟨⟨q, .tail _ hq, hready⟩, fun name => ?_⟩
      rw [mem_append, hpod, honly]
      simp
    | ok u =>
      obtain ⟨rfl, hname⟩ := runs_ret.1 h2
      cases hname
      refine ⟨⟨p, .head _, hready, rfl⟩, fun name => ?_⟩
      rw [append_nil, hpod]
      simp

/-- The RESET is reported. -/
def RecordsReset (t : Trace) (pod : String) : Prop :=
  ∃ e ∈ t, e.req = .event (.sentinelResetDone pod)

section
variable {pod : String}

theorem PhaseRun.reaches (h : PhaseRun F st t st' now check t1 t2 t3 tr)
    (hdone : RecordsReset t pod) :
    (∃ p ∈ st.sentinelPods, isPodReady p = true ∧ p.name = pod) ∧
      ∀ name, accepted st.cluster.name name ∈ t ↔ name = pod := by
  obtain ⟨e, he, hreq⟩ := hdone
  have he2 : e ∈ t2 := h.silent he (hreq ▸ id)
  have hsub : ∀ e ∈ t2, e ∈ t := by
    intro e he
    rw [h.events]
    exact .tail _ (mem_append_right _ (mem_append_left _ he))
  have hreset := h.reset
  cases hreset with
  | idle hidle _ _ _ =>
    rw [hidle e he2] at hreq
    cases hreq
  | @attempt a u1 u2 res _ _ _ hissue hwaits hres _ =>
    have hu2 : e ∈ u2 := by
      rcases mem_cons.1 he2 with rfl | he2
      · cases hreq
      · refine (mem_append.1 he2).resolve_left fun he1 => ?_
        have hask := (issueFrom_asks _ _ _).mem hissue e he1
        rw [hreq] at hask
        exact hask
    rw [hres pod e hu2 hreq] at hissue
    obtain ⟨⟨p, hp, hready⟩, honly⟩ := issueFrom_accepted hissue
    refine ⟨⟨p, (mem_insertionSort _).1 hp, hready⟩, fun name => ?_⟩
    rw [← honly name]
    constructor
    · intro hacc
      rcases mem_cons.1 (h.silent hacc id) with hnow | hacc
      · cases hnow
      · exact (mem_append.1 hacc).resolve_right fun hacc => hwaits _ hacc
    · exact fun hacc => hsub _ (.tail _ (mem_append_left _ hacc))

end

/-- Every ready Sentinel pod has accepted the reset of its own instance. -/
def ResetsAll (st : State) (t : Trace) : Prop :=
  ∀ p ∈ st.sentinelPods, isPodReady p = true → accepted st.cluster.name p.name ∈ t

/-- **A recorded reset covers the ready Sentinels just when there is only one.** -/
theorem sentinel_resetsAll_iff {F : Formats} {st : State} {t : Trace}
    {o : State × Option Error} {pod : String} (h : (sentinel F st).Runs t o)
    (hdone : RecordsReset t pod) :
    ResetsAll st t ↔ ∀ p ∈ st.sentinelPods, ∀ q ∈ st.sentinelPods,
      isPodReady p = true → isPodReady q = true → p.name = q.name := by
  obtain ⟨st', err⟩ := o
  have hmode : st.cluster.spec.mode = .sentinel := by
    by_contra hmode
    unfold sentinel at h
    rw [if_pos hmode] at h
    obtain ⟨rfl, -⟩ := runs_ret.1 h
    obtain ⟨e, he, -⟩ := hdone
    cases he
  obtain ⟨now, check, t1, t2, t3, tr, hphase⟩ := sentinel_run hmode h
  obtain ⟨⟨r, hr, hready, rfl⟩, honly⟩ := hphase.reaches hdone
  constructor
  · intro hall p hp q hq hp' hq'
    rw [(honly p.name).1 (hall p hp hp'), (honly q.name).1 (hall q hq hq')]
  · intro hone p hp hp'
    exact (honly p.name).2 (hone p hp r hr hp' hready)

theorem sentinel_resetsAll_iff_resetA :
    RecordsReset resetA.events "a-sentinel-0" ∧
      (ResetsAll resetA.before resetA.events ↔
        ∀ p ∈ resetA.before.sentinelPods, ∀ q ∈ resetA.before.sentinelPods,
          isPodReady p = true → isPodReady q = true → p.name = q.name) := by
  have hlast : resetA.events[10]? = some ⟨.event (.sentinelResetDone "a-sentinel-0"), ()⟩ := rfl
  have hdone : RecordsReset resetA.events "a-sentinel-0" := ⟨_, mem_of_getElem? hlast, rfl⟩
  exact ⟨hdone, sentinel_resetsAll_iff (passAt_step _ _ _).2.1 hdone⟩

/-- The cluster when its topology has changed. -/
def sentinelsA : State := { sentinelA with runtime := { needSentinelReset := true } }

/-- **The reset is recorded, and `a-sentinel-1` has not been reset.** -/
theorem sentinel_resets_only_first :
    (sentinel .decimal sentinelsA).Runs (passAt second true sentinelsA).events
        ((passAt second true sentinelsA).after, none) ∧
      RecordsReset (passAt second true sentinelsA).events "a-sentinel-0" ∧
      ¬ ResetsAll sentinelsA (passAt second true sentinelsA).events := by
  have hrun := (passAt_step second true sentinelsA).2.1
  have hlast : (passAt second true sentinelsA).events[10]? =
      some ⟨.event (.sentinelResetDone "a-sentinel-0"), ()⟩ := rfl
  have hdone : RecordsReset (passAt second true sentinelsA).events "a-sentinel-0" :=
    ⟨_, mem_of_getElem? hlast, rfl⟩
  refine ⟨hrun, hdone, fun hall => ?_⟩
  obtain ⟨now, check, t1, t2, t3, tr, hphase⟩ := sentinel_run rfl hrun
  have hsecond := (hphase.reaches hdone).2 "a-sentinel-1" |>.1 (hall _ (.tail _ (.head _)) rfl)
  simp at hsecond

end Keyval.Phases
