import Mathlib.Data.List.GetD
import KeyvalOperator.Proof.Disruption
import KeyvalOperator.Proof.Recorded
import KeyvalOperator.Reconcile.Pipeline

/-!
# Delays between passes

Passes of the pipeline for any clusters, whose calls on the one backoff tracker interleave.

* `serves_attempts`: the attempts of a key follow from the calls for that key alone (`tally`).
* `steps_tracked`: a reconcile that comes to its steps takes its delay from the tracker.
* `waiting_delay`: **a pass that waits gets a delay in the band of its step**, whatever other
  clusters do meanwhile.
-/

namespace Keyval.Controller

open Go Interact Interact.Prog Update Transition BackoffTracker List

/-! ## The tracker -/

/-- A call on the tracker: a delay that was asked for and given, or a reset. -/
inductive TrackerCall
  | next (key : String) (base delay : Duration)
  | reset (key : String)
  deriving DecidableEq

/-- The tracker's entry that the call is for. -/
def TrackerCall.entry : TrackerCall → String
  | next key _ _ | reset key => entryKey key

/-- A call of the tracker and the tracker after it. -/
inductive Serves : BackoffTracker → TrackerCall → BackoffTracker → Prop
  | next (b : BackoffTracker) (key : String) (base : Duration) (jitter : Jitter) :
      Serves b (.next key base (b.applyBackoffDelay key jitter base).1)
        (b.applyBackoffDelay key jitter base).2
  | reset (b : BackoffTracker) (key : String) : Serves b (.reset key) (b.reset key)

/-- The count of asks since a reset, after the call. -/
def tally (n : Nat) : TrackerCall → Nat
  | .next .. => min (n + 1) backoffSteps.length
  | .reset _ => 0

/-- The delay after `n` steps. -/
def backoffStep (n : Nat) : Duration := backoffSteps.getD (min n backoffSteps.length - 1) 0

/-- The delays that the `n`-th ask since a reset gives. -/
structure InBand (n : Nat) (base delay : Duration) : Prop where
  base_le : base ≤ delay
  lower : 9 * backoffStep n ≤ 10 * delay
  upper : 10 * delay ≤ max (10 * base) (11 * backoffStep n)

section
variable {b b' : BackoffTracker} {key : String} {calls : List TrackerCall}

theorem backoffStep_mem {n : Nat} (h : 0 < n) : backoffStep n ∈ backoffSteps := by
  have hlt : min n backoffSteps.length - 1 < backoffSteps.length := by
    simp only [backoffSteps, length_cons, length_nil]
    omega
  rw [backoffStep, getD_eq_getElem _ _ hlt]
  exact getElem_mem hlt

theorem backoffSteps_pos : ∀ base ∈ backoffSteps, 0 < base := by decide

theorem next_eq (b : BackoffTracker) (key : String) (jitter : Jitter) :
    b.next key jitter = (jitter.scale (backoffStep (b.attempts key + 1)),
      b.insert (entryKey key) (min (b.attempts key + 1) backoffSteps.length)) := by
  have hmem := backoffStep_mem (Nat.succ_pos (b.attempts key))
  have hpos := backoffSteps_pos _ hmem
  have hscale : 0 < jitter.scale (backoffStep (b.attempts key + 1)) := by
    have := (jitter.within _ hmem).1
    grind
  have hmin : (if backoffSteps.length < b.attempts key + 1 then backoffSteps.length
      else b.attempts key + 1) = min (b.attempts key + 1) backoffSteps.length := by
    split <;> omega
  unfold BackoffTracker.next
  simp only [hmin]
  rw [← backoffStep, if_neg (not_le.2 hpos), if_neg (not_le.2 hscale)]

theorem applyBackoffDelay_inBand (jitter : Jitter) (base : Duration) :
    InBand (b.attempts key + 1) base (b.applyBackoffDelay key jitter base).1 := by
  have hmem := backoffStep_mem (Nat.succ_pos (b.attempts key))
  obtain ⟨hlow, hhigh⟩ := jitter.within _ hmem
  have hpos := backoffSteps_pos _ hmem
  simp only [applyBackoffDelay, next_eq]
  constructor <;> grind

theorem attempts_next (key' : String) (jitter : Jitter) :
    (b.next key' jitter).2.attempts key =
      if entryKey key' = entryKey key then min (b.attempts key + 1) backoffSteps.length
      else b.attempts key := by
  rw [next_eq, attempts]
  split
  · next heq => rw [attempts, attempts, heq, Finmap.lookup_insert, Option.getD_some]
  · next hne => rw [Finmap.lookup_insert_of_ne _ (Ne.symm hne), attempts]

theorem attempts_reset (key' : String) :
    (b.reset key').attempts key = if entryKey key' = entryKey key then 0 else b.attempts key := by
  rw [BackoffTracker.reset, attempts]
  split
  · next heq => rw [heq, Finmap.lookup_erase, Option.getD_none]
  · next hne => rw [Finmap.lookup_erase_ne (Ne.symm hne), attempts]

theorem serves_attempts_step {c : TrackerCall} (h : Serves b c b') :
    b'.attempts key = if c.entry = entryKey key then tally (b.attempts key) c
      else b.attempts key := by
  cases h with
  | next key' _ jitter => exact attempts_next key' jitter
  | reset key' => exact attempts_reset key'

/-- **Interleaving**: calls for other keys do not count. -/
theorem serves_attempts (key : String) (h : Steps Serves b calls b') :
    b'.attempts key =
      (calls.filter fun c => c.entry = entryKey key).foldl tally (b.attempts key) := by
  induction h with
  | nil => rfl
  | @snoc calls c b1 b2 _ hc ih =>
    rw [serves_attempts_step hc, filter_append, foldl_append, ← ih, filter_singleton]
    by_cases heq : c.entry = entryKey key <;> simp [heq]

theorem serves_inBand {cs1 cs2 : List TrackerCall} {base delay : Duration}
    (h : Steps Serves b calls b') (hcalls : (calls.filter fun c => c.entry = entryKey key) =
      cs1 ++ .next key base delay :: cs2) :
    InBand (cs1.foldl tally (b.attempts key) + 1) base delay := by
  obtain ⟨l1, l2, rfl, h1, h2⟩ := filter_eq_append_iff.1 hcalls
  obtain ⟨l3, l4, rfl, hskip, -, -⟩ := filter_eq_cons_iff.1 h2
  rw [← append_assoc] at h
  obtain ⟨b1, b2, hbefore, hnext, -⟩ := h.split
  have hattempts := serves_attempts key hbefore
  rw [filter_append, h1, filter_eq_nil_iff.2 hskip, append_nil] at hattempts
  rw [← hattempts]
  cases hnext with
  | next _ _ jitter => exact applyBackoffDelay_inBand jitter base

end

/-! ## Where the delay of a reconcile comes from -/

/-- The base and the reply, when the event asks the tracker. -/
def askedDelay : Event Op → Option (Duration × Duration)
  | ⟨.backoff base, delay⟩ => some (base, delay)
  | _ => none

/-- The bases that are asked for and their delays. -/
def asked (t : Trace) : List (Duration × Duration) := t.filterMap askedDelay

theorem asked_append (t1 t2 : Trace) : asked (t1 ++ t2) = asked t1 ++ asked t2 :=
  filterMap_append

theorem asked_getLast?_append (t1 : Trace) {t2 : Trace} {d : Duration × Duration}
    (h : (asked t2).getLast? = some d) : (asked (t1 ++ t2)).getLast? = some d := by
  rw [asked_append, getLast?_append, h, Option.some_or]

/-- Runs that end with a requeue end with the delay of their last ask. -/
def Tracked {α : Type} (p : M (Except Outcome α)) : Prop :=
  ∀ t o, p.Runs t (.error o) → 0 < o.requeueAfter →
    ∃ base, (asked t).getLast? = some (base, o.requeueAfter)

section
variable {α β : Type}

theorem tracked_ok (a : α) : Tracked (.ret (.ok a)) := by
  intro t o h
  cases (runs_ret.1 h).2

theorem tracked_error (err : Option Error) : Tracked (α := α) (.ret (.error { err })) := by
  intro t o h hpos
  obtain ⟨-, heq⟩ := runs_ret.1 h
  obtain rfl := Except.error.inj heq
  exact absurd hpos (lt_irrefl _)

theorem Tracked.ite {c : Prop} [Decidable c] {p q : M (Except Outcome α)} (hp : Tracked p)
    (hq : Tracked q) : Tracked (if c then p else q) := by
  split
  · exact hp
  · exact hq

theorem Tracked.bind {p : M β} {f : β → M (Except Outcome α)} (h : ∀ b, Tracked (f b)) :
    Tracked (p.bind f) := by
  intro t o hrun hpos
  obtain ⟨t1, b, t2, rfl, -, h2⟩ := runs_bind.1 hrun
  obtain ⟨base, hlast⟩ := h b t2 o h2 hpos
  exact ⟨base, asked_getLast?_append t1 hlast⟩

theorem Tracked.andThen {p : M (Except Outcome β)} {k : β → M (Except Outcome α)}
    (hp : Tracked p) (hk : ∀ b, Tracked (k b)) : Tracked (andThen p k) := by
  intro t o hrun hpos
  obtain ⟨t1, r, t2, rfl, h1, h2⟩ := runs_bind.1 hrun
  cases r with
  | error o' =>
    obtain ⟨rfl, heq⟩ := runs_ret.1 h2
    obtain rfl := Except.error.inj heq
    rw [append_nil]
    exact hp t1 o h1 hpos
  | ok b =>
    obtain ⟨base, hlast⟩ := hk b t2 o h2 hpos
    exact ⟨base, asked_getLast?_append t1 hlast⟩

theorem tracked_orWrap (text : String) (p : M (Result α)) : Tracked (orWrap text p) := by
  refine .bind fun r => ?_
  cases r with
  | error e => exact tracked_error _
  | ok a => exact tracked_ok a

theorem tracked_requeue (base : Duration) : Tracked (α := α) (requeue base) := by
  intro t o h _
  obtain ⟨delay, t', rfl, h'⟩ := runs_asked.1 h
  obtain ⟨rfl, heq⟩ := runs_ret.1 h'
  obtain rfl := Except.error.inj heq
  exact ⟨base, rfl⟩

theorem tracked_requeueWith (base : Duration) (ev : Ev) :
    Tracked (α := α) (requeueWith base ev) := by
  intro t o h _
  obtain ⟨delay, t', rfl, h'⟩ := runs_asked.1 h
  obtain ⟨_, t'', rfl, h''⟩ := runs_asked.1 h'
  obtain ⟨rfl, heq⟩ := runs_ret.1 h''
  obtain rfl := Except.error.inj heq
  exact ⟨base, rfl⟩

variable (F : Formats) (settings : Eviction.Settings) (cr : KeyValCluster) (st : State)
  (plan : Plan)

theorem tracked_blockStep (text reason detail : String) (scaleDown : Bool) (delay : Duration) :
    Tracked (α := α) (blockStep cr text reason detail scaleDown delay) :=
  (tracked_orWrap _ _).andThen fun _ => .bind fun _ => .bind fun _ => tracked_requeue _

theorem tracked_resumeStep : Tracked (resumeStep cr) :=
  (tracked_orWrap _ _).andThen fun _ => .bind fun _ => tracked_ok _

theorem tracked_runFailover : Tracked (α := α) (runFailover F cr st) := by
  refine .bind fun _ => .bind fun _ => .bind fun r => ?_
  cases r with
  | error e =>
    exact .ite (.bind fun _ => tracked_requeue _) (.bind fun _ => .bind fun _ => tracked_requeue _)
  | ok r => exact .bind fun _ => .bind fun _ => .bind fun _ => tracked_requeue _

theorem tracked_controlledFailover : Tracked (α := α) (controlledFailover F cr st) := by
  refine .ite (tracked_requeue _) (.ite (tracked_requeue _) (.bind fun r => ?_))
  obtain ⟨_ | _, detail⟩ := r
  · exact .bind fun _ => tracked_requeue _
  · exact .ite (tracked_runFailover F cr st) (tracked_requeue _)

theorem tracked_restartFormerMaster : Tracked (α := α) (restartFormerMaster settings cr st) := by
  refine .ite (tracked_requeue _) (.bind fun r => ?_)
  match r with
  | .error e => exact .ite (tracked_blockStep _ _ _ _ _ _) (tracked_error _)
  | .ok true => exact .bind fun _ => tracked_requeueWith _ _
  | .ok false => exact tracked_requeue _

theorem tracked_executePlan : Tracked (α := α) (executePlan settings cr st plan) := by
  refine .bind fun r => ?_
  obtain ⟨evicted, _ | e⟩ := r
  · exact .ite (tracked_requeueWith _ _) (tracked_restartFormerMaster settings cr st)
  · exact .ite (tracked_blockStep _ _ _ _ _ _) (tracked_error _)

theorem tracked_rollingStep : Tracked (α := α) (rollingStep F settings cr st plan) := by
  refine .ite (tracked_blockStep _ _ _ _ _ _) ((tracked_resumeStep cr).andThen fun cr => ?_)
  exact .ite (tracked_controlledFailover F cr st) (tracked_executePlan settings cr st plan)

theorem tracked_executeSentinelPlan : Tracked (executeSentinelPlan settings cr st plan) := by
  refine .bind fun r => ?_
  obtain ⟨evicted, _ | e⟩ := r
  · exact .ite (tracked_requeueWith _ _) (tracked_ok _)
  · exact .ite (tracked_blockStep _ _ _ _ _ _) (tracked_error _)

theorem tracked_sentinelStep : Tracked (sentinelStep settings cr st) := by
  refine .ite (.bind fun sp => .ite (tracked_ok _) (.ite (tracked_blockStep _ _ _ _ _ _) ?_))
    (tracked_ok _)
  exact (tracked_resumeStep cr).andThen fun cr => tracked_executeSentinelPlan settings cr st _

/-- **The steps take their delay from the tracker.** -/
theorem steps_tracked : Tracked (steps F settings st) := by
  refine .bind fun plan => ?_
  refine Tracked.andThen ?_ fun r => Tracked.andThen ?_ fun cr => ?_
  · exact .ite ((tracked_orWrap _ _).andThen fun _ => .bind fun _ => tracked_ok _) (tracked_ok _)
  · exact .ite ((tracked_orWrap _ _).andThen fun _ => .bind fun _ => tracked_ok _) (tracked_ok _)
  · refine .ite (tracked_rollingStep F settings cr st plan) ?_
    exact (tracked_resumeStep cr).andThen fun cr => (tracked_sentinelStep settings cr st).andThen
      fun _ => .ite (tracked_requeue _) (tracked_ok _)

end

/-! ## Passes -/

/-- One reconcile, with its request's key. -/
structure Pass where
  key : String
  read : Result State
  events : Trace
  outcome : Outcome

/-- What the reconcile asks of the tracker. -/
def Pass.calls (p : Pass) : List TrackerCall :=
  (asked p.events).map (fun d => .next p.key d.1 d.2) ++
    if resetsBackoff p.outcome then [.reset p.key] else []

/-- The event is the plan for the Redis pods. -/
def plans : Event Op → Bool
  | ⟨.planUpdates false, _⟩ => true
  | _ => false

/-- The pass comes to its steps, and is to be run again. -/
structure Pass.Waits (F : Formats) (settings : Eviction.Settings) (p : Pass) : Prop where
  runs : (pipelineRun F settings p.read).Runs p.events p.outcome
  planned : p.events.any plans = true
  again : resetsBackoff p.outcome = false

section
variable {F : Formats} {settings : Eviction.Settings} {p : Pass} {ps : List Pass}

theorem Before.not_plans {cr : KeyValCluster} {e : Event Op} (h : Before cr e.req) :
    plans e = false := by
  obtain ⟨q, r⟩ := e
  cases q <;> first | rfl | exact h.elim

theorem pipelineRun_requeues {read : Result State} {t : Trace} {o : Outcome}
    (h : (pipelineRun F settings read).Runs t o) (hpos : 0 < o.requeueAfter) :
    ∃ st, (reconcileClusterImpl F settings st).Runs t (.error o) := by
  have hnone : ∀ err : Option Error, o ≠ { err } := by
    rintro err rfl
    exact lt_irrefl _ hpos
  cases read with
  | error e =>
    simp only [pipelineRun] at h
    split at h <;> exact absurd (runs_ret.1 h).2 (hnone _)
  | ok st =>
    obtain ⟨t1, r, t2, rfl, h1, h2⟩ := runs_bind.1 h
    cases r with
    | ok u => exact absurd (runs_ret.1 h2).2 (hnone none)
    | error o' =>
      obtain ⟨rfl, rfl⟩ := runs_ret.1 h2
      exact ⟨st, by rwa [append_nil]⟩

/-- **The delay of a waiting pass is the tracker's last answer.** -/
theorem Pass.Waits.asked_eq (h : p.Waits F settings) :
    ∃ asks base, asked p.events = asks ++ [(base, p.outcome.requeueAfter)] := by
  have hpos : 0 < p.outcome.requeueAfter := by
    have hagain := h.again
    simp only [resetsBackoff, Bool.or_eq_false_iff, decide_eq_false_iff_not, not_le] at hagain
    exact hagain.2
  obtain ⟨st, hrun⟩ := pipelineRun_requeues h.runs hpos
  rcases reconcile_reaches hrun with hbefore | ⟨t1, st', t2, heq, -, -, hsteps⟩
  · obtain ⟨e, he, hplans⟩ := any_eq_true.1 h.planned
    rw [(hbefore e he).not_plans] at hplans
    cases hplans
  · obtain ⟨base, hlast⟩ := steps_tracked F settings st' t2 _ hsteps hpos
    obtain ⟨asks, hasks⟩ := getLast?_eq_some_iff.1 (asked_getLast?_append t1 hlast)
    exact ⟨asks, base, heq ▸ hasks⟩

theorem Pass.Waits.calls_eq (h : p.Waits F settings) :
    p.calls = (asked p.events).map fun d => .next p.key d.1 d.2 := by
  rw [Pass.calls, h.again, if_neg Bool.false_ne_true, append_nil]

theorem foldl_tally_next (key : String) (asks : List (Duration × Duration)) :
    (asks.map fun d => TrackerCall.next key d.1 d.2).foldl tally 0 =
      min asks.length backoffSteps.length := by
  induction asks using List.reverseRecOn with
  | nil => rfl
  | append_singleton asks d ih =>
    rw [map_append, foldl_append, ih, length_append]
    simp only [map_cons, map_nil, foldl_cons, foldl_nil, tally, length_singleton]
    omega

theorem length_le_asks (h : ∀ q ∈ ps, q.Waits F settings) :
    ps.length ≤ (ps.flatMap fun q => asked q.events).length := by
  induction ps with
  | nil => rfl
  | cons q ps ih =>
    obtain ⟨asks, base, heq⟩ := (h q mem_cons_self).asked_eq
    have hle := ih fun q' hq' => h q' (mem_cons_of_mem _ hq')
    simp only [flatMap_cons, length_append, heq, length_cons, length_nil]
    omega

theorem calls_of_waits {key : String} (h : ∀ q ∈ ps, q.Waits F settings)
    (hkey : ∀ q ∈ ps, q.key = key) : ps.flatMap Pass.calls =
      (ps.flatMap fun q => asked q.events).map fun d => .next key d.1 d.2 := by
  rw [map_flatMap]
  refine flatMap_congr fun q hq => ?_
  rw [(h q hq).calls_eq, hkey q hq]

/-- **Delays follow the steps**: a pass for a key that waits, after `ps` that waited, ends with the
delay of its last ask, in the band that the base of this ask and the number of asks since the last
reset give. Passes for other keys do not matter. -/
theorem waiting_delay (key : String) (before ps : List Pass) (p : Pass) {b b' : BackoffTracker}
    {calls : List TrackerCall} (hserves : Steps Serves b calls b')
    (hcalls : (calls.filter fun c => c.entry = entryKey key) =
      (before ++ (ps ++ [p])).flatMap Pass.calls)
    (hkey : ∀ q ∈ ps ++ [p], q.key = key)
    (hreset : before = [] ∧ b.attempts key = 0 ∨
      ∃ qs q, before = qs ++ [q] ∧ resetsBackoff q.outcome = true)
    (hwaits : ∀ q ∈ ps ++ [p], q.Waits F settings) :
    ∃ n base, n = ((ps ++ [p]).flatMap fun q => asked q.events).length ∧ ps.length < n ∧
      (asked p.events).getLast? = some (base, p.outcome.requeueAfter) ∧
      InBand n base p.outcome.requeueAfter := by
  have hstart : (before.flatMap Pass.calls).foldl tally (b.attempts key) = 0 := by
    rcases hreset with ⟨rfl, hzero⟩ | ⟨qs, q, rfl, hq⟩
    · exact hzero
    · simp [Pass.calls, hq, tally]
  have hp : p ∈ ps ++ [p] := mem_append_right _ (mem_singleton_self p)
  obtain ⟨asks, base, heq⟩ := (hwaits p hp).asked_eq
  have hall : (ps ++ [p]).flatMap (fun q => asked q.events) =
      (ps.flatMap fun q => asked q.events) ++ asks ++ [(base, p.outcome.requeueAfter)] := by
    simp [heq]
  have hlt := length_le_asks hwaits
  rw [length_append, length_singleton] at hlt
  refine ⟨_, base, rfl, hlt, by rw [heq, getLast?_concat], ?_⟩
  rw [flatMap_append, calls_of_waits hwaits hkey, hall, map_append, map_singleton,
    ← append_assoc] at hcalls
  have hband := serves_inBand hserves hcalls
  rw [foldl_append, hstart, foldl_tally_next] at hband
  rw [hall, length_append, length_singleton]
  have hstep : ∀ n, backoffStep (min n backoffSteps.length + 1) = backoffStep (n + 1) := by
    intro n
    unfold backoffStep
    congr 2
    omega
  exact ⟨hband.base_le, hstep _ ▸ hband.lower, hstep _ ▸ hband.upper⟩

end

/-- The reconcile with fixed replies. -/
def playedPass (reply : Replies) (cr : KeyValCluster) : Pass :=
  let run := answer reply (pipelineRun .decimal {} (.ok { cluster := cr }))
  ⟨cr.ns ++ "/" ++ cr.name, .ok { cluster := cr }, run.1, run.2⟩

theorem playedPass_waits {reply : Replies} {cr : KeyValCluster}
    (hplanned : (playedPass reply cr).events.any plans = true)
    (hagain : resetsBackoff (playedPass reply cr).outcome = false) :
    (playedPass reply cr).Waits .decimal {} :=
  ⟨runs_answer _ _, hplanned, hagain⟩

/-- A reconcile that evicts a pod and waits for `delay`. -/
def evictingA (delay : Duration) : Pass :=
  playedPass (fun q => match q with
    | .evictPod .. => .ok ()
    | .backoff _ => delay
    | q => disrupting (readyA ["a-0", "a-1", "a-2"]) (planFor "tls-hash" ["a-2", "a-1"]) q) clusterA

/-- Two evictions in a row, with a call for another cluster between them. -/
theorem waiting_delay_evictingA :
    ∃ n base, n = ([evictingA (5 * second), evictingA (6 * second)].flatMap
      fun q => asked q.events).length ∧ 1 < n ∧
        (asked (evictingA (6 * second)).events).getLast? =
          some (base, (evictingA (6 * second)).outcome.requeueAfter) ∧
        InBand n base (evictingA (6 * second)).outcome.requeueAfter := by
  let jitter : Jitter := ⟨id, by decide⟩
  have hwaits : ∀ q ∈ [evictingA (5 * second), evictingA (6 * second)], q.Waits .decimal {} := by
    intro q hq
    rcases mem_pair.1 hq with rfl | rfl <;>
      exact playedPass_waits (by decide +kernel) (by decide +kernel)
  have hserves := ((Steps.nil.snoc (Serves.next ∅ "prod/a" (5 * second) jitter)).snoc
    (.next _ "prod/b" 0 jitter)).snoc (.next _ "prod/a" (5 * second) jitter)
  exact waiting_delay "prod/a" [] [evictingA (5 * second)] (evictingA (6 * second)) hserves
    (by decide +kernel) (by decide +kernel) (.inl ⟨rfl, by decide⟩) hwaits

/-! ## The cooldown of an event -/

/-- A question whether the event is due, with its answer. -/
structure EventCall where
  key : String
  now : Time
  due : Bool

/-- The answer, and the times recorded after it. -/
def Answers (last : Map Time) (c : EventCall) (last' : Map Time) : Prop :=
  shouldEmitNoGoodSlaveEvent last c.key c.now = (c.due, last')

/-- The clock of each key goes forward. -/
def Clocked (cs : List EventCall) : Prop := cs.Pairwise fun a b => a.key = b.key → a.now ≤ b.now

/-- The questions for the key that were answered with yes. -/
def emitted (key : String) (cs : List EventCall) : List EventCall :=
  cs.filter fun c => c.key = key ∧ c.due

section
variable {cs : List EventCall} {c : EventCall} {last last' : Map Time}

theorem Answers.due_iff (h : Answers last c last') :
    c.due = true ↔ ∀ t, last.lookup c.key = some t → 30 * second ≤ c.now - t := by
  unfold Answers shouldEmitNoGoodSlaveEvent timeSub at h
  cases hlookup : last.lookup c.key with
  | none => simp_all
  | some t =>
    simp only [hlookup, second, Time, Duration] at h ⊢
    grind

theorem Answers.last_eq (h : Answers last c last') :
    last' = if c.due then last.insert c.key c.now else last := by
  unfold Answers shouldEmitNoGoodSlaveEvent at h
  cases hlookup : last.lookup c.key <;> grind

/-- The map has the time of the last event of each key. -/
theorem answers_lookup (h : Steps Answers ∅ cs last) (key : String) :
    last.lookup key = (emitted key cs).getLast?.map EventCall.now := by
  induction h with
  | nil => rfl
  | @snoc cs c last last' _ hstep ih =>
    rw [hstep.last_eq, emitted, filter_append, ← emitted, filter_singleton]
    by_cases hdue : c.due = true <;> by_cases hkey : c.key = key
    · simp [hdue, hkey]
    · simp [hdue, hkey, ih, Finmap.lookup_insert_of_ne _ (Ne.symm hkey)]
    · simp [hdue, ih]
    · simp [hdue, ih]

/-- **At most one event in 30 seconds**, and no event is left out that the cooldown allows. -/
theorem event_due_iff (h : Steps Answers ∅ (cs ++ [c]) last) (hclock : Clocked (cs ++ [c])) :
    c.due = true ↔ ∀ c' ∈ emitted c.key cs, 30 * second ≤ c.now - c'.now := by
  obtain ⟨last1, hcs, hstep⟩ := steps_concat.1 h
  rw [hstep.due_iff, answers_lookup hcs]
  have hkey : ∀ c' ∈ emitted c.key cs, c'.key = c.key := fun c' hmem =>
    (of_decide_eq_true (mem_filter.1 hmem).2).1
  have hsorted : (emitted c.key cs).Pairwise fun a b => a.key = b.key → a.now ≤ b.now :=
    (pairwise_append.1 hclock).1.filter _
  rcases eq_nil_or_concat (emitted c.key cs) with hnil | ⟨l, c0, hlast⟩
  · simp [hnil]
  · rw [concat_eq_append] at hlast
    rw [hlast] at hkey hsorted ⊢
    have hlatest : ∀ c' ∈ l ++ [c0], c'.now ≤ c0.now := by
      refine forall_mem_append.2 ⟨fun c' hmem => ?_, forall_mem_singleton.2 le_rfl⟩
      exact (pairwise_append.1 hsorted).2.2 c' hmem c0 (by simp)
        ((hkey c' (by simp [hmem])).trans (hkey c0 (by simp)).symm)
    rw [getLast?_concat, Option.map_some]
    refine ⟨fun hall c' hmem => ?_, fun hall t ht => Option.some_inj.1 ht ▸ hall c0 (by simp)⟩
    exact (hall c0.now rfl).trans (Int.sub_le_sub_left (hlatest c' hmem) _)

/-- Ten seconds after the event of a cluster it is not due again, but it is for another one. -/
theorem event_due_iff_second : ∃ last,
    Steps Answers ∅ [⟨"prod/a", 0, true⟩, ⟨"prod/b", 0, true⟩, ⟨"prod/a", 10 * second, false⟩]
      last ∧
      ¬ ∀ c' ∈ emitted "prod/a" [⟨"prod/a", 0, true⟩, ⟨"prod/b", 0, true⟩],
        30 * second ≤ 10 * second - c'.now := by
  have hnext : ∀ last key now, Answers last ⟨key, now, (shouldEmitNoGoodSlaveEvent last key now).1⟩
      (shouldEmitNoGoodSlaveEvent last key now).2 := fun _ _ _ => rfl
  have hrun : Steps Answers ∅ ([⟨"prod/a", 0, true⟩, ⟨"prod/b", 0, true⟩] ++
      [⟨"prod/a", 10 * second, false⟩]) _ :=
    .snoc (.snoc (.snoc .nil (hnext ∅ "prod/a" 0)) (hnext _ "prod/b" 0)) (hnext _ "prod/a" _)
  have hdue := event_due_iff hrun (by simp [Clocked, second])
  exact ⟨_, hrun, mt hdue.2 (by simp)⟩

end

end Keyval.Controller
