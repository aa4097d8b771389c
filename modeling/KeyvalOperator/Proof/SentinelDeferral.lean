import KeyvalOperator.Proof.Runtime
import KeyvalOperator.Proof.SentinelReset

/-!
# Deferred resets

Runs of reconciles, each of which is a Runtime and a Sentinel phase. The need for a reset lives in
the state of one reconcile; what survives is the tracker, which a quorum clears.

* `ReconcileStep.resets`: a reconcile sends a needed reset if nothing stands in the way.
* `ReconcileStep.keeps_loss`: without quorum the loss stays recorded, and calls for a reset later.
* `notLost_of_keeps`: **a reset is not lost when it is deferred only while there is no quorum**.
* `moved_topology_forgotten`: a change of the topology during a cooldown is forgotten.
-/

namespace Keyval.Phases

open Go Interact Interact.Prog Transition List

variable {t : Trace} {st : State} {check : QuorumCheck}
  {acc acc' : SentinelQuorumReport × List Error} {cluster : String} {F : Formats} {pods : List Pod}

/-! ## The quorum by the answers -/

/-- The event is part of the quorum check. -/
def isProbe : Event Op → Bool
  | ⟨.sentinelForPod _, _⟩ | ⟨.checkQuorum .., _⟩ => true
  | _ => false

/-- A Sentinel has its quorum. -/
def agrees : Event Op → Bool
  | ⟨.checkQuorum .., .ok true⟩ => true
  | _ => false

/-- The Sentinel could not be asked, and does not say that there is no quorum. -/
def failsToAnswer : Event Op → Bool
  | ⟨.sentinelForPod _, .error e⟩ | ⟨.checkQuorum .., .error e⟩ => !upperContains e.msg "NOQUORUM"
  | _ => false

/-- The answers have a quorum: enough Sentinels agree, and all could be asked. -/
def AnswersQuorate (target : Int) (t : Trace) : Prop :=
  target ≤ t.countP agrees ∧ ∀ e ∈ t, failsToAnswer e = false

/-- The report counts the replies. -/
structure Counted (acc : SentinelQuorumReport × List Error) (t : Trace)
    (acc' : SentinelQuorumReport × List Error) : Prop where
  healthy : acc'.1.healthy = acc.1.healthy
  ok : acc'.1.ok = acc.1.ok + t.countP agrees
  ready : acc.1.ready + t.countP agrees ≤ acc'.1.ready
  errs : acc'.2 = [] ↔ acc.2 = [] ∧ ∀ e ∈ t, failsToAnswer e = false

theorem Counted.refl (acc : SentinelQuorumReport × List Error) : Counted acc [] acc :=
  ⟨rfl, rfl, le_refl _, by simp⟩

theorem Counted.trans {acc acc' acc'' : SentinelQuorumReport × List Error}
    {t1 t2 : Trace} (h : Counted acc t1 acc') (h' : Counted acc' t2 acc'') :
    Counted acc (t1 ++ t2) acc'' where
  healthy := h'.healthy.trans h.healthy
  ok := by rw [h'.ok, h.ok, countP_append, Nat.add_assoc]
  ready := by
    have h1 := h.ready
    have h2 := h'.ready
    rw [countP_append]
    omega
  errs := by rw [h'.errs, h.errs, forall_mem_append, and_assoc]

theorem note_counts (report : SentinelQuorumReport) (detail : String) :
    (report.note detail).healthy = report.healthy ∧ (report.note detail).ok = report.ok ∧
      (report.note detail).ready = report.ready := by
  unfold SentinelQuorumReport.note
  split <;> exact ⟨rfl, rfl, rfl⟩

theorem askQuorum_run {cluster pod : String} {answer : Result Bool}
    (h : (askQuorum cluster pod).Runs t answer) :
    (∃ e, t = [⟨.sentinelForPod pod, .error e⟩] ∧ answer = .error e) ∨
      t = [⟨.sentinelForPod pod, .ok ()⟩, ⟨.checkQuorum pod cluster, answer⟩] := by
  obtain ⟨r, t', rfl, h1⟩ := runs_asked.1 h
  match r with
  | .error e =>
    obtain ⟨rfl, rfl⟩ := runs_ret.1 h1
    exact .inl ⟨e, rfl, rfl⟩
  | .ok () =>
    rw [Replication.runs_ask h1]
    exact .inr rfl

theorem countAnswer_error (pod : String) (report : SentinelQuorumReport) (errs : List Error)
    (e : Error) :
    (countAnswer pod report errs (.error e)).1.healthy = report.healthy ∧
      (countAnswer pod report errs (.error e)).1.ok = report.ok ∧
      (countAnswer pod report errs (.error e)).1.ready = report.ready ∧
      ((countAnswer pod report errs (.error e)).2 = [] ↔
        errs = [] ∧ upperContains e.msg "NOQUORUM" = true) := by
  unfold countAnswer
  dsimp only
  split
  · next hno => simp [hno, note_counts]
  · next hno => simp [hno, note_counts]

theorem countAnswer_counted {cluster pod : String} {answer : Result Bool}
    (h : (askQuorum cluster pod).Runs t answer) (acc : SentinelQuorumReport × List Error) :
    Counted acc t (countAnswer pod { acc.1 with ready := acc.1.ready + 1 } acc.2 answer) := by
  have herror := countAnswer_error pod { acc.1 with ready := acc.1.ready + 1 } acc.2
  rcases askQuorum_run h with ⟨e, rfl, rfl⟩ | rfl
  · obtain ⟨hhealthy, hok, hready, herrs⟩ := herror e
    exact ⟨hhealthy, by simp [hok, agrees], by simp [hready, agrees],
      by simp [herrs, failsToAnswer]⟩
  · match answer with
    | .error e =>
      obtain ⟨hhealthy, hok, hready, herrs⟩ := herror e
      exact ⟨hhealthy, by simp [hok, agrees], by simp [hready, agrees],
        by simp [herrs, failsToAnswer]⟩
    | .ok true => constructor <;> simp [countAnswer, agrees, failsToAnswer]
    | .ok false => constructor <;> simp [countAnswer, note_counts, agrees, failsToAnswer]

theorem probeQuorum_counted {pod : Pod}
    (h : (probeQuorum cluster acc pod).Runs t acc') : Counted acc t acc' := by
  unfold probeQuorum at h
  split at h
  · obtain ⟨t1, answer, t2, rfl, h1, h2⟩ := runs_bind.1 h
    obtain ⟨rfl, rfl⟩ := runs_ret.1 h2
    rw [append_nil]
    exact countAnswer_counted h1 acc
  · obtain ⟨rfl, rfl⟩ := runs_ret.1 h
    exact .refl _

theorem probes_counted (h : Runs (pods.foldlM (probeQuorum cluster) acc) t acc') :
    Counted acc t acc' := by
  induction pods generalizing acc t with
  | nil =>
    obtain ⟨rfl, rfl⟩ := runs_ret.1 h
    exact .refl _
  | cons pod pods ih =>
    rw [foldlM_cons] at h
    obtain ⟨t1, acc1, t2, rfl, h1, h2⟩ := runs_bind.1 h
    exact (probeQuorum_counted h1).trans (ih h2)

theorem hasSentinelQuorum_run {cr : KeyValCluster} {target : Int} (htarget : 0 < target)
    {report : SentinelQuorumReport} {err : Option Error}
    (h : (hasSentinelQuorum cr pods true target).Runs t (report, err)) :
    (report.healthy = true ∧ err = none) ↔ AnswersQuorate target t := by
  unfold hasSentinelQuorum at h
  rw [if_neg (by simp)] at h
  split at h
  · obtain ⟨rfl, heq⟩ := runs_ret.1 h
    cases heq
    simp [AnswersQuorate, htarget]
  obtain ⟨t1, ⟨report1, errs⟩, t2, rfl, h1, h2⟩ := runs_bind.1 h
  obtain ⟨rfl, heq⟩ := runs_ret.1 h2
  have hc := probes_counted h1
  rw [append_nil]
  have hhealthy : report1.healthy = false := hc.healthy
  have hok : report1.ok = t1.countP agrees := by simpa using hc.ok
  have hready : t1.countP agrees ≤ report1.ready := by simpa using hc.ready
  have herrs : errs = [] ↔ ∀ e ∈ t1, failsToAnswer e = false := by simpa using hc.errs
  unfold AnswersQuorate
  rw [← herrs, ← hok]
  unfold judgeQuorum at heq
  split at heq
  · next hzero =>
    cases heq
    have hnone : ¬ target ≤ report1.ok := by omega
    simp [hnone, hhealthy]
  · dsimp only at heq
    rw [if_neg (not_le.2 htarget)] at heq
    split at heq
    · next henough =>
      cases heq
      simp [henough]
    · next hfew =>
      cases heq
      simp [hfew, note_counts, hhealthy]

theorem explain_ok (check : QuorumCheck) (target : Int) (ready : Nat) :
    (check.explain target ready).ok = check.ok := by
  unfold QuorumCheck.explain
  split <;> rfl

theorem quorumFinding_ok (target : Int) (ready : Nat) (report : SentinelQuorumReport)
    (err : Option Error) :
    (quorumFinding target ready report err).ok = true ↔ report.healthy = true ∧ err = none := by
  cases err with
  | some e => simp [quorumFinding]
  | none =>
    unfold quorumFinding
    dsimp only
    split
    · next hhealthy => simp [hhealthy]
    · next hhealthy => simp [hhealthy]

theorem checkQuorum_ok (h : (checkQuorum st).Runs t check) :
    check.ok = true ↔ AnswersQuorate (quorumTarget st.cluster) t := by
  have htarget := quorumTarget_pos st.cluster
  unfold checkQuorum at h
  split at h
  · obtain ⟨rfl, rfl⟩ := runs_ret.1 h
    have hnone : ¬ quorumTarget st.cluster ≤ 0 := not_le.2 htarget
    simp [explain_ok, AnswersQuorate, hnone]
  · next hfactory =>
    obtain ⟨t1, ⟨report, err⟩, t2, rfl, h1, h2⟩ := runs_bind.1 h
    obtain ⟨rfl, rfl⟩ := runs_ret.1 h2
    rw [not_not.1 hfactory] at h1
    rw [append_nil, ← hasSentinelQuorum_run htarget h1, explain_ok, quorumFinding_ok]

theorem probes_agree_le (h : Runs (pods.foldlM (probeQuorum cluster) acc) t acc') :
    t.countP agrees ≤ pods.countP isPodReady := by
  induction pods generalizing acc t with
  | nil =>
    obtain ⟨rfl, -⟩ := runs_ret.1 h
    exact le_refl _
  | cons pod pods ih =>
    rw [foldlM_cons] at h
    obtain ⟨t1, acc1, t2, rfl, h1, h2⟩ := runs_bind.1 h
    have hrest := ih h2
    unfold probeQuorum at h1
    rw [countP_append]
    split at h1
    · next hready =>
      obtain ⟨u1, answer, u2, rfl, h3, h4⟩ := runs_bind.1 h1
      obtain ⟨rfl, -⟩ := runs_ret.1 h4
      have hone : u1.countP agrees ≤ 1 := by
        rcases askQuorum_run h3 with ⟨e, rfl, -⟩ | rfl
        · simp [agrees]
        · exact (countP_le_length (p := agrees) (l := [⟨.checkQuorum pod.name cluster, answer⟩]))
      rw [append_nil, countP_cons_of_pos hready]
      omega
    · next hready =>
      obtain ⟨rfl, -⟩ := runs_ret.1 h1
      rw [countP_cons_of_neg hready]
      simpa using hrest

theorem checkQuorum_agree_le
    (h : (checkQuorum st).Runs t check) : t.countP agrees ≤ readySentinels st := by
  unfold checkQuorum at h
  split at h
  · obtain ⟨rfl, -⟩ := runs_ret.1 h
    exact Nat.zero_le _
  obtain ⟨t1, r, t2, rfl, h1, h2⟩ := runs_bind.1 h
  obtain ⟨rfl, -⟩ := runs_ret.1 h2
  rw [append_nil]
  unfold hasSentinelQuorum at h1
  split at h1
  · obtain ⟨rfl, -⟩ := runs_ret.1 h1
    exact Nat.zero_le _
  split at h1
  · obtain ⟨rfl, -⟩ := runs_ret.1 h1
    exact Nat.zero_le _
  obtain ⟨u1, acc, u2, rfl, h3, h4⟩ := runs_bind.1 h1
  obtain ⟨rfl, -⟩ := runs_ret.1 h4
  rw [append_nil]
  exact (probes_agree_le h3).trans_eq ((perm_insertionSort _ _).countP_eq _)

/-- The quorum check of the phase. -/
def probes (t : Trace) : Trace :=
  ((afterNow t).map (·.2.takeWhile isProbe)).getD []

/-- The replies of the phase give a quorum. -/
def Quorate (p : SentinelPass) : Prop :=
  AnswersQuorate (quorumTarget p.before.cluster) (probes p.events)

instance (p : SentinelPass) : Decidable (Quorate p) := inferInstanceAs (Decidable (_ ∧ _))

theorem QuorumReq.isProbe {e : Event Op} (h : QuorumReq e.req) : isProbe e = true := by
  obtain ⟨q, r⟩ := e
  cases q <;> first | rfl | exact h.elim

section
variable {st' : State} {t1 t2 t3 : Trace} {now : Time} {tr : SentinelResetTracker}

theorem PhaseRun.probes (h : PhaseRun F st t st' now check t1 t2 t3 tr) : Phases.probes t = t1 := by
  have hprobes : ∀ e ∈ t1, isProbe e = true := fun e he =>
    ((checkQuorum_asks st).mem h.checked e he).isProbe
  -- the reset starts with a clock reading, and the write is a patch
  have hrest : (t2 ++ t3).takeWhile isProbe = [] := by
    have hreset := h.reset
    obtain ⟨e, hwrite⟩ := h.write
    have hwrites : t3.takeWhile isProbe = [] := by
      rcases writeSentinelResetTracker_run hwrite with ⟨-, rfl, -⟩ | ⟨r, rfl, -⟩ <;> rfl
    cases hreset with
    | attempt => rfl
    | idle hidle _ _ _ =>
      cases t2 with
      | nil => exact hwrites
      | cons e t2 =>
        obtain ⟨q, r⟩ := e
        obtain rfl : q = .now := hidle _ (.head _)
        rfl
  unfold Phases.probes
  rw [h.events, afterNow_now, Option.map_some, Option.getD_some,
    takeWhile_append_of_pos hprobes, hrest, append_nil]

theorem PhaseRun.quorate (h : PhaseRun F st t st' now check t1 t2 t3 tr) :
    check.ok = true ↔ Quorate ⟨st, t, st'⟩ := by
  unfold Quorate
  rw [h.probes]
  exact checkQuorum_ok h.checked

theorem PhaseRun.quorate_ready (h : PhaseRun F st t st' now check t1 t2 t3 tr)
    (hq : Quorate ⟨st, t, st'⟩) : quorumTarget st.cluster ≤ readySentinels st := by
  have hagree := checkQuorum_agree_le h.checked
  have henough : quorumTarget st.cluster ≤ (Phases.probes t).countP agrees := hq.1
  rw [h.probes] at henough
  omega

end

/-! ## Reconciles -/

/-- The Runtime and the Sentinel phase of a reconcile. -/
structure Reconcile where
  before : State
  runtimeEvents : Trace
  sentinel : SentinelPass

/-- A reconcile goes from the tracker that it reads to the tracker that it leaves. -/
def ReconcileStep (F : Formats) (s : SentinelResetTracker) (r : Reconcile)
    (s' : SentinelResetTracker) : Prop :=
  ∃ st, (runtime F r.before).Runs r.runtimeEvents (st, none) ∧
    r.sentinel.before = Controller.requeueRuntime st ∧ PassStep F s r.sentinel s'

/-- `RESET` of the pod. -/
def resetsPod (cluster : String) (p : Pod) : Event Op → Bool
  | ⟨.sentinelReset pod name, _⟩ => pod = p.name && name = cluster
  | _ => false

/-- The client of the pod fails. -/
def failsClient (p : Pod) : Event Op → Bool
  | ⟨.sentinelForPod pod, .error _⟩ => pod = p.name
  | _ => false

section
variable (F : Formats) (r : Reconcile)

/-- The tracker before the phase. -/
def Reconcile.tracker : SentinelResetTracker :=
  readSentinelResetTracker F r.sentinel.before.cluster.annotations

/-- The cluster has Sentinels. -/
def Managed : Prop := r.sentinel.before.cluster.spec.mode = .sentinel

/-- The topology changed, or its master was forced. -/
def TopologyMoved : Prop :=
  r.sentinel.before.runtime.topology.changed = true ∨
    r.sentinel.before.runtime.topology.source = .forced

/-- A reset is needed: the topology changed, its master was forced, or the quorum is back. -/
def Needed : Prop :=
  TopologyMoved r ∨ (Quorate r.sentinel ∧ (r.tracker F).lossSince ≠ 0)

/-- A cooldown is active when the Sentinel phase starts. -/
def Cooling : Prop :=
  (r.tracker F).cooldownUntil ≠ 0 ∧
    ∃ now ∈ (readings r.sentinel.events).head?, normalizeTimestamp now < (r.tracker F).cooldownUntil

/-- Too few Sentinels are ready. -/
def FewReady : Prop :=
  (readySentinels r.sentinel.before : Int) < quorumTarget r.sentinel.before.cluster

/-- A `RESET` is sent to a ready Sentinel pod. -/
def Resets : Prop :=
  ∃ p ∈ r.sentinel.before.sentinelPods, isPodReady p = true ∧
    r.sentinel.events.any (resetsPod r.sentinel.before.cluster.name p) = true

/-- After the second clock reading the client of every ready Sentinel pod fails. -/
def Unreachable : Prop :=
  ∀ p ∈ r.sentinel.before.sentinelPods, isPodReady p = true →
    ((afterSecond r.sentinel.events).any fun q => q.2.any (failsClient p)) = true

instance : Decidable (Managed r) := inferInstanceAs (Decidable (_ = _))

instance : Decidable (Cooling F r) := inferInstanceAs (Decidable (_ ∧ _))

instance : Decidable (FewReady r) := inferInstanceAs (Decidable (_ < _))

instance : Decidable (Resets r) := inferInstanceAs (Decidable (∃ p ∈ _, _))

instance : Decidable (Unreachable r) := inferInstanceAs (Decidable (∀ p ∈ _, _))

/-- A needed RESET is put off. -/
structure Deferred : Prop where
  managed : Managed r
  needed : Needed F r
  unissued : ¬ Resets r
  reason : Cooling F r ∨ failoverActive r.sentinel.before = true ∨ FewReady r

/-- Nothing stands in the way of a reset. -/
structure Eligible : Prop where
  managed : Managed r
  quorum : Quorate r.sentinel
  failover : failoverActive r.sentinel.before = false
  cooldown : ¬ Cooling F r
  ready : ¬ FewReady r

end

/-- After every deferred reset the first eligible reconcile sends a `RESET` to a ready Sentinel,
unless it can reach none of them. -/
def NotLost (F : Formats) (rs : List Reconcile) : Prop :=
  ∀ rs1 d rs2 r rs3, rs = rs1 ++ d :: (rs2 ++ r :: rs3) → Deferred F d →
    (∀ r' ∈ rs2, ¬ Eligible F r') → Eligible F r → Resets r ∨ Unreachable r

/-- A reconcile that forgets no reset: the tracker is written, its timestamps can be read back, and
a reset that is needed while there is quorum meets neither a failover nor a cooldown. -/
structure Keeps (F : Formats) (r : Reconcile) : Prop where
  patches : ∀ e ∈ r.sentinel.events, PatchSucceeds e
  clock : ∀ now ∈ readings r.sentinel.events, stored F now ≠ 0
  loss : (r.tracker F).lossSince ≠ 0 → stored F (r.tracker F).lossSince ≠ 0
  undeferred : Needed F r → Quorate r.sentinel →
    failoverActive r.sentinel.before = false ∧ ¬ Cooling F r

/-! ### The need -/

theorem runtimeState_topology (st : State) (pods : List Pod) (ts : TopologyState) (h : HealthState)
    (delay : Duration) (annotated : List String) :
    (runtimeState st pods ts h delay annotated).runtime.topology = ts.topology ∧
      (runtimeState st pods ts h delay annotated).runtime.needSentinelReset =
        ts.needSentinelReset := ⟨rfl, rfl⟩

theorem TopologyState.of_need {res : Replication.EnsureResult} {err : Option Error}
    {cand : Bootstrap.Candidate} (hmode : st.cluster.spec.mode = .sentinel)
    (hmoved : (TopologyState.of st res err cand).topology.changed = true ∨
      (TopologyState.of st res err cand).topology.source = .forced) :
    (TopologyState.of st res err cand).needSentinelReset = true := by
  cases err with
  | some e => simp [TopologyState.of] at hmoved
  | none =>
    have hmoved' : res.changed = true ∨ res.source = .forced := hmoved
    rcases hmoved' with hchanged | hforced
    · simp [TopologyState.of, TopologyState.found, hchanged, hmode]
    · simp [TopologyState.of, TopologyState.found, hforced]

theorem runtime_need {F : Formats} {st st' : State}
    (h : (runtime F st).Runs t (st', none)) (hmode : st'.cluster.spec.mode = .sentinel)
    (hmoved : st'.runtime.topology.changed = true ∨ st'.runtime.topology.source = .forced) :
    st'.runtime.needSentinelReset = true := by
  obtain ⟨u1, ⟨st1, ts⟩, u2, rfl, h1, h2⟩ := runs_bind.1 h
  obtain ⟨u3, hs, u4, rfl, -, h3⟩ := runs_bind.1 h2
  obtain ⟨⟨delay, annotated⟩, u5, rfl, h4⟩ := runs_asked.1 h3
  obtain ⟨u6, u, u7, rfl, -, h5⟩ := runs_bind.1 h4
  obtain ⟨-, heq⟩ := runs_ret.1 h5
  cases heq
  rw [runtimeState_cluster] at hmode
  obtain ⟨htopology, hneed⟩ := runtimeState_topology st1 st.redisPods ts
    (st1.sentinelPods.foldl (sentinelHealth st.cluster) hs) delay annotated
  rw [htopology] at hmoved
  rw [hneed]
  unfold runtimeTopology at h1
  split at h1
  swap
  · obtain ⟨-, heq⟩ := runs_ret.1 h1
    cases heq
    simp at hmoved
  obtain ⟨t1, ⟨res, err, cand⟩, t2, rfl, -, hset⟩ := runs_bind.1 h1
  obtain ⟨hcl, rfl⟩ := settleTopology_run hset
  rw [hcl] at hmode
  exact TopologyState.of_need hmode hmoved

theorem requeueRuntime_cluster (st : State) :
    (Controller.requeueRuntime st).cluster = st.cluster := by
  simp [Controller.requeueRuntime]

theorem checkQuorum_factory
    (h : (checkQuorum st).Runs t check) (hok : check.ok = true) : st.sentinelFactory = true := by
  by_contra hfactory
  unfold checkQuorum at h
  rw [if_pos hfactory] at h
  obtain ⟨-, rfl⟩ := runs_ret.1 h
  rw [explain_ok] at hok
  cases hok

theorem planReset_quorate (hok : check.ok = true) {tr : SentinelResetTracker} {now : Time}
    (hneed : st.runtime.needSentinelReset = true ∨ tr.lossSince ≠ 0)
    (hcooldown : ¬ (tr.cooldownUntil ≠ 0 ∧ now < tr.cooldownUntil)) :
    (planReset st check tr now).mode = .topology ∧
      (planReset st check tr now).tracker.cooldownUntil = 0 := by
  have hneed' : (st.runtime.needSentinelReset || decide (tr.lossSince ≠ 0)) = true := by
    simpa using hneed
  have hexpired : (expireCooldown tr now).cooldownUntil = 0 := by
    unfold expireCooldown
    split
    · rfl
    · next hactive =>
      by_contra hne
      exact hactive ⟨hne, fun hlt => hcooldown ⟨hne, hlt⟩⟩
  unfold planReset
  rw [hok]
  simp only [if_true, hneed']
  exact ⟨trivial, hexpired⟩

/-- **An attempt** sends a `RESET` to a ready pod, or fails to reach any. -/
theorem issueFrom_reaches {errs : List Error} {res : Result String}
    (h : (issueFrom cluster errs pods).Runs t res) :
    (∃ p ∈ pods, isPodReady p = true ∧ ∃ e ∈ t, resetsPod cluster p e = true) ∨
      ∀ p ∈ pods, isPodReady p = true → ∃ e ∈ t, failsClient p e = true := by
  induction pods generalizing errs t with
  | nil => exact .inr (forall_mem_nil _)
  | cons p rest ih =>
    unfold issueFrom at h
    split at h
    swap
    · next hready =>
      refine (ih h).imp ?_ fun hfails => forall_mem_cons.2 ⟨fun h => absurd h hready, hfails⟩
      rintro ⟨q, hq, hsent⟩
      exact ⟨q, .tail _ hq, hsent⟩
    next hready =>
    obtain ⟨t1, r, t2, rfl, h1, h2⟩ := runs_bind.1 h
    obtain ⟨reply, t', rfl, h3⟩ := runs_asked.1 h1
    cases reply with
    | ok u =>
      obtain ⟨reply, t'', rfl, h4⟩ := runs_call.1 h3
      exact .inl ⟨p, .head _, hready, _, mem_append_left _ (.tail _ (.head _)), by simp [resetsPod]⟩
    | error e =>
      obtain ⟨rfl, rfl⟩ := runs_ret.1 h3
      refine (ih h2).imp ?_ fun hfails => forall_mem_cons.2 ⟨fun _ => ?_, fun q hq hq' => ?_⟩
      · rintro ⟨q, hq, hq', e, he, hsent⟩
        exact ⟨q, .tail _ hq, hq', e, mem_append_right _ he, hsent⟩
      · exact ⟨_, .head _, by simp [failsClient]⟩
      · obtain ⟨e, he, hfail⟩ := hfails q hq hq'
        exact ⟨e, mem_append_right _ he, hfail⟩

/-! ### What a reconcile does -/

section
variable {s s' : SentinelResetTracker} {r : Reconcile}

theorem ReconcileStep.tracker (h : ReconcileStep F s r s') : r.tracker F = s := by
  obtain ⟨st, -, -, hread, -⟩ := h
  exact hread

theorem ReconcileStep.unmanaged (h : ReconcileStep F s r s') (hmode : ¬ Managed r) : s' = s := by
  obtain ⟨st, -, -, rfl, hrun, rfl⟩ := h
  rw [sentinel_unmanaged hmode hrun]

theorem ReconcileStep.ready (h : ReconcileStep F s r s') (hmode : Managed r)
    (hq : Quorate r.sentinel) : ¬ FewReady r := by
  obtain ⟨st, -, -, -, hrun, -⟩ := h
  obtain ⟨now, check, t1, t2, t3, tr, hphase⟩ := sentinel_run hmode hrun
  exact not_lt.2 (hphase.quorate_ready hq)

theorem ReconcileStep.keeps_loss (h : ReconcileStep F s r s') (hmode : Managed r)
    (hkeeps : Keeps F r) (hlost : ¬ Quorate r.sentinel) : s'.lossSince ≠ 0 := by
  have htracker := h.tracker
  obtain ⟨st, -, -, hread, hrun, rfl⟩ := h
  obtain ⟨now, check, t1, t2, t3, tr, hphase⟩ := sentinel_run hmode hrun
  have hok : check.ok = false := by
    rw [← Bool.not_eq_true, hphase.quorate]
    exact hlost
  have hr := hphase.lost_reset hok
  -- what the phase writes is zero neither before it is stored nor after
  have hreading (u : Time) (hu : u ∈ readings r.sentinel.events) :
      normalizeTimestamp u ≠ 0 ∧ stored F (normalizeTimestamp u) ≠ 0 := by
    have hstored := hkeeps.clock u hu
    unfold stored at hstored ⊢
    rw [normalizeTimestamp_idem]
    refine ⟨fun hzero => ?_, hstored⟩
    rw [if_pos hzero] at hstored
    exact hstored rfl
  have htr : tr.lossSince ≠ 0 ∧ stored F tr.lossSince ≠ 0 := by
    rcases hr.loss with ⟨hloss, -⟩ | ⟨u, hu, hloss, -⟩
    · rw [hloss]
      unfold lossBefore
      split
      · obtain ⟨rest, hfirst⟩ := hphase.first
        exact hreading now (hfirst ▸ .head _)
      · next hne => exact ⟨hne, hkeeps.loss hne⟩
    · rw [hloss]
      exact hreading u hu
  obtain ⟨-, hstores | hstores⟩ := hphase.stores hok hkeeps.patches
  · rw [hstores]
    exact htr.1
  · rw [hstores]
    exact htr.2

/-- **A needed reset is sent** when nothing stands in its way. -/
theorem ReconcileStep.resets (h : ReconcileStep F s r s') (he : Eligible F r)
    (hneed : Needed F r) : Resets r ∨ Unreachable r := by
  obtain ⟨st, hruntime, hbefore, hread, hrun, -⟩ := h
  obtain ⟨now, check, t1, t2, t3, tr, hphase⟩ := sentinel_run he.managed hrun
  have hok : check.ok = true := hphase.quorate.2 he.quorum
  have hready := hphase.quorate_ready he.quorum
  have hneeds : r.sentinel.before.runtime.needSentinelReset = true ∨
      (r.tracker F).lossSince ≠ 0 := by
    rcases hneed with hmoved | ⟨-, hloss⟩
    · refine .inl ?_
      have hmode := he.managed
      unfold TopologyMoved at hmoved
      unfold Managed at hmode
      rw [hbefore, requeueRuntime_cluster] at hmode
      rw [hbefore, Controller.requeueRuntime_runtime] at hmoved ⊢
      exact runtime_need hruntime hmode hmoved
    · exact .inr hloss
  have hcooldown : ¬ ((r.tracker F).cooldownUntil ≠ 0 ∧
      normalizeTimestamp now < (r.tracker F).cooldownUntil) := by
    rintro ⟨hne, hlt⟩
    obtain ⟨rest, hfirst⟩ := hphase.first
    exact he.cooldown ⟨hne, now, by rw [hfirst]; rfl, hlt⟩
  obtain ⟨hmode, hexpired⟩ := planReset_quorate hok hneeds hcooldown
  have hreset := hphase.reset
  cases hreset with
  | @attempt a u1 u2 _ _ _ _ hissue =>
    have hafter : afterSecond r.sentinel.events = some (a, u1 ++ u2 ++ t3) := by
      rw [hphase.events, afterSecond_eq hphase.check_quiet]
      rfl
    have hsub : ∀ e ∈ u1, e ∈ r.sentinel.events := by
      intro e he
      rw [hphase.events]
      simp [he]
    rcases issueFrom_reaches hissue with ⟨p, hp, hpready, e, he, hsent⟩ | hfails
    · exact .inl ⟨p, (mem_insertionSort _).1 hp, hpready, any_eq_true.2 ⟨e, hsub e he, hsent⟩⟩
    · refine .inr fun p hp hpready => ?_
      obtain ⟨e, he, hfail⟩ := hfails p ((mem_insertionSort _).2 hp) hpready
      rw [hafter]
      exact any_eq_true.2 ⟨e, by simp [he], hfail⟩
  | idle _ _ _ hreason =>
    have hpods : r.sentinel.before.sentinelPods ≠ [] := by
      intro hnil
      have hpos := quorumTarget_pos r.sentinel.before.cluster
      have hzero : readySentinels r.sentinel.before = 0 := by
        unfold readySentinels
        rw [hnil]
        rfl
      rw [hzero] at hready
      omega
    rcases hreason hmode (checkQuorum_factory hphase.checked hok) hpods with h | h | h
    · rw [he.failover] at h
      cases h
    · exact absurd hexpired h
    · exact absurd hready (not_le.2 h)

theorem ReconcileStep.keeps (h : ReconcileStep F s r s') (hkeeps : Keeps F r)
    (hloss : s.lossSince ≠ 0) (he : ¬ Eligible F r) : s'.lossSince ≠ 0 := by
  by_cases hmode : Managed r
  · by_cases hq : Quorate r.sentinel
    · have hneed : Needed F r := .inr ⟨hq, by rwa [h.tracker]⟩
      obtain ⟨hfailover, hcooldown⟩ := hkeeps.undeferred hneed hq
      exact absurd ⟨hmode, hq, hfailover, hcooldown, h.ready hmode hq⟩ he
    · exact h.keeps_loss hmode hkeeps hq
  · rwa [h.unmanaged hmode]

theorem ReconcileStep.deferred (h : ReconcileStep F s r s') (hkeeps : Keeps F r)
    (hd : Deferred F r) : s'.lossSince ≠ 0 := by
  by_cases hq : Quorate r.sentinel
  · obtain ⟨hfailover, hcooldown⟩ := hkeeps.undeferred hd.needed hq
    rcases hd.reason with hreason | hreason | hreason
    · exact absurd hreason hcooldown
    · rw [hfailover] at hreason
      cases hreason
    · exact absurd hreason (h.ready hd.managed hq)
  · exact h.keeps_loss hd.managed hkeeps hq

end

theorem steps_keep_loss {F : Formats} {s s' : SentinelResetTracker} {rs : List Reconcile}
    (h : Steps (ReconcileStep F) s rs s') (hkeeps : ∀ r ∈ rs, Keeps F r)
    (he : ∀ r ∈ rs, ¬ Eligible F r) (hloss : s.lossSince ≠ 0) : s'.lossSince ≠ 0 := by
  refine h.invariant (C := fun r => Keeps F r ∧ ¬ Eligible F r)
    (I := fun _ s => s.lossSince ≠ 0) (fun r hr => ⟨hkeeps r hr, he r hr⟩) hloss ?_
  intro _ s1 r s2 _ hs1 hr hstep
  exact hstep.keeps hr.1 hs1 hr.2

/-- **In a run whose reconciles all keep the reset no needed reset is lost.** -/
theorem notLost_of_keeps {F : Formats} {s s' : SentinelResetTracker} {rs : List Reconcile}
    (hrun : Steps (ReconcileStep F) s rs s') (hkeeps : ∀ r ∈ rs, Keeps F r) : NotLost F rs := by
  rintro rs1 d rs2 r rs3 rfl hd hnone he
  simp only [forall_mem_append, forall_mem_cons] at hkeeps
  obtain ⟨-, hkd, hk2, -, -⟩ := hkeeps
  obtain ⟨s1, s2, -, hstep, hrest⟩ := hrun.split
  obtain ⟨s3, s4, hbetween, hlast, -⟩ := hrest.split
  have hloss : s3.lossSince ≠ 0 :=
    steps_keep_loss hbetween hk2 hnone (hstep.deferred hkd hd)
  exact hlast.resets he (.inr ⟨he.quorum, by rwa [hlast.tracker]⟩)

/-! ### The cluster `a` -/

/-- A replica that may have lost its master. -/
def drifting (aligned : Bool) : Replies
  | .sentinelForPod _ | .redisForPod _ | .replicaOf .. => .ok ()
  | .getMasterAddrByName .. => .ok ("a-0.a-headless", 6379)
  | .replicationInfo pod =>
    if pod = "a-0" then .ok { role := "master" }
    else .ok { role := "replica", masterHost := if aligned then "a-0" else "" }
  | q => q.unavailable

/-- The two phases at a time. -/
def reconcileAt (now : Time) (quorum aligned : Bool) (before : State) : Reconcile :=
  let run := answer (drifting aligned) (runtime .decimal before)
  ⟨before, run.1, passAt now quorum (Controller.requeueRuntime run.2.1)⟩

theorem reconcileAt_step (now : Time) (quorum aligned : Bool) (before : State) :
    ReconcileStep .decimal ((reconcileAt now quorum aligned before).tracker .decimal)
      (reconcileAt now quorum aligned before)
      (readSentinelResetTracker .decimal
        (reconcileAt now quorum aligned before).sentinel.after.cluster.annotations) := by
  have hrun := runs_answer (drifting aligned) (runtime .decimal before)
  refine ⟨_, ?_, rfl, passAt_step _ _ _⟩
  rw [← runtime_none hrun]
  exact hrun

theorem reconcileAt_steps {now now' : Time} {quorum quorum' aligned aligned' : Bool}
    {before before' : State}
    (h : (reconcileAt now' quorum' aligned' before').tracker .decimal =
      readSentinelResetTracker .decimal
        (reconcileAt now quorum aligned before).sentinel.after.cluster.annotations) :
    ∃ s s', Steps (ReconcileStep .decimal) s
      [reconcileAt now quorum aligned before, reconcileAt now' quorum' aligned' before'] s' := by
  have hfirst := (Steps.nil : Steps (ReconcileStep .decimal) _ [] _).snoc
    (reconcileAt_step now quorum aligned before)
  rw [← h] at hfirst
  exact ⟨_, _, hfirst.snoc (reconcileAt_step now' quorum' aligned' before')⟩

/-- A cluster within the cooldown. -/
def coolingA : State :=
  { sentinelA with
    cluster := { sentinelA.cluster with
      annotations := (∅ : Map String).insert annotationSentinelClusterResetCooldown
        (toString (100 * second)) }
    redisPods := ["a-0", "a-1", "a-2"].map fun name => { name, ns := "prod" } }

/-- Its reconcile, with a replica to move. -/
def movedA : Reconcile := reconcileAt (50 * second) true false coolingA

/-- The reconcile after the cooldown. -/
def settledA : Reconcile :=
  reconcileAt (101 * second) true true { coolingA with cluster := movedA.sentinel.after.cluster }

/-- **The change of the topology during a cooldown is forgotten.** -/
theorem moved_topology_forgotten :
    (∃ s s', Steps (ReconcileStep .decimal) s [movedA, settledA] s') ∧
      ¬ NotLost .decimal [movedA, settledA] := by
  refine ⟨reconcileAt_steps (by decide +kernel), fun hkept => ?_⟩
  have hdeferred : Deferred .decimal movedA :=
    ⟨by decide +kernel, .inl (.inl (by decide +kernel)), by decide +kernel,
      .inl (by decide +kernel)⟩
  have heligible : Eligible .decimal settledA :=
    ⟨by decide +kernel, by decide +kernel, by decide +kernel, by decide +kernel, by decide +kernel⟩
  have hnone : ¬ (Resets settledA ∨ Unreachable settledA) := by decide +kernel
  exact hnone (hkept [] movedA [] settledA [] rfl hdeferred (forall_mem_nil _) heligible)

/-- The cluster without the cooldown. -/
def calmA : State := { coolingA with cluster := sentinelA.cluster }

/-- A reconcile during a failover. -/
def failingA : Reconcile :=
  reconcileAt (50 * second) false false { calmA with
    conditionOverrides := (∅ : Map ConditionState).insert ConditionType.failoverInProgress.str
      ⟨.true, "", ""⟩ }

/-- The one after the failover. -/
def restoredA : Reconcile :=
  reconcileAt (60 * second) true true { calmA with cluster := failingA.sentinel.after.cluster }

theorem notLost_of_keeps_restoredA :
    Deferred .decimal failingA ∧ Eligible .decimal restoredA ∧
      NotLost .decimal [failingA, restoredA] := by
  have hdeferred : Deferred .decimal failingA :=
    ⟨by decide +kernel, .inl (.inl (by decide +kernel)), by decide +kernel,
      .inr (.inl (by decide +kernel))⟩
  have heligible : Eligible .decimal restoredA :=
    ⟨by decide +kernel, by decide +kernel, by decide +kernel, by decide +kernel, by decide +kernel⟩
  have hfailing : Keeps .decimal failingA :=
    ⟨passAt_patches _ _ _, by decide +kernel, by decide +kernel,
      fun _ hq => absurd hq (by decide +kernel)⟩
  have hrestored : Keeps .decimal restoredA :=
    ⟨passAt_patches _ _ _, by decide +kernel, by decide +kernel,
      fun _ _ => ⟨heligible.failover, heligible.cooldown⟩⟩
  obtain ⟨s, s', hrun⟩ : ∃ s s', Steps (ReconcileStep .decimal) s [failingA, restoredA] s' :=
    reconcileAt_steps (by decide +kernel)
  refine ⟨hdeferred, heligible, notLost_of_keeps hrun ?_⟩
  simp only [forall_mem_cons]
  exact ⟨hfailing, hrestored, forall_mem_nil _⟩

end Keyval.Phases
