import KeyvalOperator.Lib.Transition
import KeyvalOperator.Proof.ImportAbort

/-!
# What a reconcile leaves to the next one in an annotation

The controller has no memory of its own between two reconciles: that a scale operation is going on,
or that a former master waits for its restart, is an annotation of the cluster. The next reconcile
reads what the patches of the reconciles before it have recorded.

* `recorded read`: what is read of the annotations, as the patches that succeed leave it.
* `ReadsBack F read`: a reconcile that reads the recorded value and leaves another.
* `reconcile_reaches`: a reconcile patches no annotation before its steps, which find the pods of
  the PodMetadata phase counted.
-/

namespace Keyval.Controller

open Go Interact Interact.Prog Phases List

variable {err : Option Error} {t : Trace} {F : Formats} {st : State}

/-! ## The recorded value -/

/-- The text of an annotation, which is empty for one that is missing: what the code reads. -/
abbrev textOf (key : String) (annotations : Map String) : String := Map.str annotations key

/-- The entry of an annotation. -/
abbrev entryOf (key : String) (annotations : Map String) : Option String := annotations.lookup key

/-- What is read of the cluster's annotations, as the API server has them. -/
def recorded {α : Type} (read : Map String → α) : World Op α where
  step value
    | ⟨.patchCluster _ _ annotations _, .ok ()⟩ => read annotations
    | _ => value
  ok _ _ := True

/-- A patch of the annotations leaves what is read of them. -/
def LeavesAt {α : Type} (read : Map String → α) (value : α) : Req → Prop
  | .patchCluster _ _ annotations _ => read annotations = value
  | _ => True

/-- No patch of the cluster fails. -/
def Patched : Event Op → Prop
  | ⟨.patchCluster .., r⟩ => r = .ok ()
  | _ => True

section
variable {α : Type} {read : Map String → α} {value : α}

theorem recorded_step {e : Event Op} (h : LeavesAt read value e.req) :
    (recorded read).step value e = value := by
  obtain ⟨q, r⟩ := e
  cases q with
  | patchCluster ns name annotations finalizers =>
    cases r with
    | error e => rfl
    | ok u => exact h
  | _ => rfl

theorem recorded_after (h : ∀ e ∈ t, LeavesAt read value e.req) :
    (recorded read).after value t = value := by
  induction t with
  | nil => rfl
  | cons e t ih =>
    obtain ⟨he, ht⟩ := forall_mem_cons.1 h
    rw [World.after_cons, recorded_step he]
    exact ih ht

end

/-- One reconcile: the state that it starts from, with the cluster as it reads it, its requests with
their replies, and its result. -/
structure Round where
  settings : Eviction.Settings
  before : State
  events : Trace
  out : Except Outcome Unit

/-- A reconcile that reads the recorded value of the annotations, and the value that it leaves. -/
structure ReadsBack {α : Type} (F : Formats) (read : Map String → α) (value : α) (r : Round)
    (value' : α) : Prop where
  reads : read r.before.cluster.annotations = value
  runs : (reconcileClusterImpl F r.settings r.before).Runs r.events r.out
  leaves : value' = (recorded read).after value r.events

/-- The reconcile against an environment that answers `reply`. -/
def played {S : Type} (F : Formats) (W : World Op S) (reply : S → Replies) (s : S)
    (st : State) : Round where
  settings := {}
  before := st
  events := (W.play reply s (reconcileClusterImpl F {} st)).1
  out := (W.play reply s (reconcileClusterImpl F {} st)).2

section
variable {S : Type} {W : World Op S} {reply : S → Replies} {s : S}

theorem played_readsBack {α : Type} {read : Map String → α} {value value' : α}
    (hreads : read st.cluster.annotations = value)
    (hleaves : value' = (recorded read).after value (played F W reply s st).events) :
    ReadsBack F read value (played F W reply s st) value' :=
  ⟨hreads, World.runs_play _ _, hleaves⟩

theorem played_mem {P : Event Op → Prop} (h : ∀ s q, P ⟨q, reply s q⟩) :
    ∀ e ∈ (played F W reply s st).events, P e := by
  rintro ⟨q, r⟩ he
  obtain ⟨s', hrep⟩ := World.play_rep _ _ _ he
  obtain rfl : r = reply s' q := hrep
  exact h s' q

/-- The event reports `ev`. -/
def emits (ev : Ev) : Event Op → Bool
  | ⟨.event ev', _⟩ => ev' = ev
  | _ => false

theorem mem_of_emits {ev : Ev} {t : Trace} (h : t.any (emits ev) = true) : ⟨.event ev, ()⟩ ∈ t := by
  obtain ⟨⟨q, r⟩, hmem, he⟩ := any_eq_true.1 h
  cases q with
  | event ev' =>
    obtain rfl : ev' = ev := of_decide_eq_true he
    exact hmem
  | _ => cases he

end

/-! ## Up to the steps -/

section
variable {settings : Eviction.Settings} {st' : State}

/-- A request from before the steps. -/
def Before (cr : KeyValCluster) : Req → Prop
  | .patchCluster _ _ annotations _ => annotations = cr.annotations
  | .applyStatefulSet _ => True
  | q => PhaseReq q

theorem PhaseReq.before {cr : KeyValCluster} {q : Req} (h : PhaseReq q) : Before cr q := by
  cases q <;> first | exact h | exact h.elim

/-- The number of pods that do not terminate. -/
def active (pods : List Pod) : Nat := pods.countP (·.deletionTimestamp.isNone)

theorem not_abortWith {α : Type} {a : α} : ¬ (abortWith st err).Runs t (.ok a) := by
  intro h
  obtain ⟨_, _, _, -, -, h'⟩ := runs_andThen h
  cases (runs_ret.1 h').2

theorem importExternal_run (h : (importExternal st).Runs t (.ok st')) :
    t = [⟨.externalImport, .ok none⟩] ∧ st' = st := by
  obtain ⟨r, t', rfl, h1⟩ := runs_asked.1 h
  match r with
  | .error e => exact (not_abortWith h1).elim
  | .ok (some err) => exact (not_abortWith h1).elim
  | .ok none =>
    dsimp only at h1
    split at h1
    · exact (not_abortWith h1).elim
    · obtain ⟨rfl, heq⟩ := runs_ret.1 h1
      exact ⟨rfl, Except.ok.inj heq⟩

theorem runs_orFail {α : Type} {a : α} {p : M (Result α)}
    (h : (orFail p).Runs t (.ok a)) : p.Runs t (.ok a) := by
  obtain ⟨t1, r, t2, rfl, h1, h2⟩ := runs_bind.1 h
  cases r with
  | error e => cases (runs_ret.1 h2).2
  | ok a' =>
    obtain ⟨rfl, heq⟩ := runs_ret.1 h2
    cases heq
    rwa [append_nil]

theorem prepare_state (h : (prepare F st).Runs t (.ok st')) :
    st'.cluster = st.cluster ∧ ∃ sentinels, ⟨.podMetadata, .ok (st'.redisPods, sentinels)⟩ ∈ t := by
  unfold prepare at h
  obtain ⟨_, _, _, rfl, -, h1⟩ := runs_andThen h
  obtain ⟨_, _, _, rfl, -, h2⟩ := runs_andThen h1
  obtain ⟨_, _, _, rfl, -, h3⟩ := runs_andThen h2
  obtain ⟨_, st1, _, rfl, hworkloads, h4⟩ := runs_andThen h3
  obtain ⟨t5, ⟨pods, sentinels⟩, _, rfl, hpods, h5⟩ := runs_andThen h4
  have hcluster := (workloads_run (runs_of_orFailPhase hworkloads)).cluster
  obtain ⟨-, rfl⟩ := importExternal_run h5
  obtain rfl : t5 = [⟨.podMetadata, .ok (pods, sentinels)⟩] :=
    Replication.runs_ask (runs_orFail hpods)
  refine ⟨hcluster, sentinels, ?_⟩
  simp

theorem requirePods_state (h : (requirePods st).Runs t (.ok st')) : st' = st := by
  unfold requirePods at h
  split at h
  · split at h
    · cases (runs_ret.1 h).2
    · obtain ⟨_, _, -, h'⟩ := runs_call.1 h
      cases (runs_ret.1 h').2
  · exact Except.ok.inj (runs_ret.1 h).2

theorem ensureStorage_state (h : (ensureStorage F st).Runs t (.ok st')) :
    st'.cluster = st.cluster ∧ st'.redisPods = st.redisPods := by
  obtain ⟨_, ⟨plan, err⟩, _, -, -, h'⟩ := runs_bind.1 h
  cases err with
  | some e => cases (runs_ret.1 h').2
  | none =>
    obtain ⟨-, heq⟩ := runs_ret.1 h'
    obtain rfl := Except.ok.inj heq
    exact ⟨State.requeueIf_cluster _ _ _, State.requeueIf_redisPods _ _ _⟩

theorem runtime_state (h : (runtime F st).Runs t (st', err)) :
    st'.cluster = st.cluster ∧ st'.runtime.activePods = active st.redisPods := by
  obtain ⟨_, ⟨st1, ts⟩, _, -, htopology, h1⟩ := runs_bind.1 h
  obtain ⟨_, hs, _, -, -, h2⟩ := runs_bind.1 h1
  obtain ⟨⟨delay, annotated⟩, _, -, h3⟩ := runs_asked.1 h2
  obtain ⟨_, _, _, -, -, h4⟩ := runs_bind.1 h3
  obtain ⟨-, heq⟩ := runs_ret.1 h4
  cases heq
  have hcluster : st1.cluster = st.cluster := by
    unfold runtimeTopology at htopology
    split at htopology
    · obtain ⟨_, ⟨res, err, cand⟩, _, -, -, hset⟩ := runs_bind.1 htopology
      exact (settleTopology_run hset).1.trans (State.requeueIf_cluster _ _ _)
    · obtain ⟨-, heq⟩ := runs_ret.1 htopology
      cases heq
      exact State.requeueIf_cluster _ _ _
  exact ⟨(runtimeState_cluster _ _ _ _ _ _).trans hcluster, rfl⟩

theorem labels_state (h : (labels st).Runs t (st', err)) :
    st'.cluster = st.cluster ∧ st'.runtime = st.runtime := by
  unfold labels at h
  dsimp only at h
  split at h
  · obtain ⟨-, heq⟩ := runs_ret.1 h
    cases heq
    exact ⟨rfl, rfl⟩
  · obtain ⟨_, ⟨s, e⟩, _, -, -, h1⟩ := runs_bind.1 h
    cases e with
    | some e =>
      obtain ⟨-, heq⟩ := runs_ret.1 h1
      cases heq
      exact ⟨rfl, rfl⟩
    | none =>
      dsimp only at h1
      split at h1
      · obtain ⟨_, _, -, h2⟩ := runs_call.1 h1
        obtain ⟨-, heq⟩ := runs_ret.1 h2
        cases heq
        exact ⟨rfl, rfl⟩
      · obtain ⟨-, heq⟩ := runs_ret.1 h1
        cases heq
        exact ⟨rfl, rfl⟩

theorem reconcileTopology_state (h : (reconcileTopology F st).Runs t (st', err)) :
    st'.cluster = st.cluster ∧ st'.runtime.activePods = active st.redisPods := by
  obtain ⟨_, ⟨st1, e⟩, _, -, hruntime, h1⟩ := runs_bind.1 h
  obtain ⟨hcluster, hactive⟩ := runtime_state hruntime
  cases e with
  | some e =>
    obtain ⟨-, heq⟩ := runs_ret.1 h1
    cases heq
    exact ⟨hcluster, hactive⟩
  | none =>
    obtain ⟨r, _, -, h2⟩ := runs_asked.1 h1
    have hcluster' : (requeueRuntime st1).cluster = st.cluster := by
      simp [requeueRuntime, hcluster]
    have hactive' : (requeueRuntime st1).runtime.activePods = active st.redisPods := by
      simp [requeueRuntime, hactive]
    cases r with
    | error e =>
      obtain ⟨-, heq⟩ := runs_ret.1 h2
      cases heq
      exact ⟨hcluster', hactive'⟩
    | ok sentinel =>
      obtain ⟨_, _, _, -, -, h3⟩ := runs_bind.1 h2
      obtain ⟨hcl, hrt⟩ := labels_state h3
      exact ⟨hcl.trans hcluster', by rw [hrt]; exact hactive'⟩

theorem observe_state (h : (observe F st).Runs t (.ok st')) :
    st'.cluster = st.cluster ∧ st'.runtime.activePods = active st.redisPods := by
  unfold observe at h
  obtain ⟨_, st1, _, -, htopology, h1⟩ := runs_andThen h
  obtain ⟨_, _, _, -, -, h2⟩ := runs_andThen h1
  obtain ⟨_, _, _, -, -, h3⟩ := runs_andThen h2
  obtain ⟨hcluster, hactive⟩ := reconcileTopology_state (runs_of_orFailPhase htopology)
  obtain ⟨-, heq⟩ := runs_ret.1 h3
  cases heq
  exact ⟨hcluster, hactive⟩

/-- The phases of a reconcile. -/
def phases (F : Formats) (st : State) : M (Except Outcome State) :=
  andThen (ensureFinalizer st.cluster) fun cr =>
  andThen (prepare F { st with cluster := cr }) fun st =>
  andThen (requirePods st) fun st =>
  andThen (ensureStorage F st) fun st =>
  observe F st

theorem reconcile_phases (hdeletion : st.cluster.deletionTimestamp.isSome = false) :
    reconcileClusterImpl F settings st = andThen (phases F st) (steps F settings) := by
  unfold reconcileClusterImpl phases afterWorkloads
  simp only [hdeletion, Bool.false_eq_true, if_false, andThen_assoc]

theorem phases_asks (F : Formats) (st : State) : Asks (Before st.cluster) (phases F st) := by
  have hphase : ∀ q, PhaseReq q → Before st.cluster q := fun _ => PhaseReq.before
  unfold phases
  refine andThen_issues (ensureFinalizer_asks fun _ => rfl) fun _ cr _ => ?_
  refine andThen_issues (prepare_asks hphase F _ trivial trivial) fun _ st1 _ => ?_
  refine andThen_issues ((requirePods_asks st1).mono hphase) fun _ st2 _ => ?_
  refine andThen_issues ((ensureStorage_asks F st2).mono hphase) fun _ st3 _ => ?_
  exact (observe_asks F st3).mono hphase

/-- The state that the steps start from, after the events `t` of the phases: the annotations and the
spec are those that the reconcile has read, and the pods that the PodMetadata phase listed are
counted. -/
structure Reaches (st : State) (t : Trace) (st' : State) : Prop where
  annotations : st'.cluster.annotations = st.cluster.annotations
  spec : st'.cluster.spec = st.cluster.spec
  counted : ∃ pods sentinels, ⟨.podMetadata, .ok (pods, sentinels)⟩ ∈ t ∧
    st'.runtime.activePods = active pods

theorem phases_reaches (h : (phases F st).Runs t (.ok st')) : Reaches st t st' := by
  unfold phases at h
  obtain ⟨_, cr, _, rfl, hfinalizer, h1⟩ := runs_andThen h
  obtain ⟨_, st1, _, rfl, hprepare, h2⟩ := runs_andThen h1
  obtain ⟨_, st2, _, rfl, hpods, h3⟩ := runs_andThen h2
  obtain ⟨_, st3, _, rfl, hstorage, hobserve⟩ := runs_andThen h3
  obtain ⟨-, hannotations, hspec⟩ := ensureFinalizer_run hfinalizer
  obtain ⟨hcl1, sentinels, hlisted⟩ := prepare_state hprepare
  obtain rfl := requirePods_state hpods
  obtain ⟨hcl3, hsame⟩ := ensureStorage_state hstorage
  obtain ⟨hcl, hactive⟩ := observe_state hobserve
  have hcluster : st'.cluster = cr := hcl.trans (hcl3.trans hcl1)
  refine ⟨hcluster ▸ hannotations, hcluster ▸ hspec, st2.redisPods, sentinels, ?_, ?_⟩
  · exact mem_append_right _ (mem_append_left _ hlisted)
  · rw [hactive, hsame]

/-- **A reconcile patches no annotation before its steps**, and may end before them. -/
theorem reconcile_reaches {o : Except Outcome Unit}
    (h : (reconcileClusterImpl F settings st).Runs t o) :
    (∀ e ∈ t, Before st.cluster e.req) ∨
      ∃ t1 st' t2, t = t1 ++ t2 ∧ (∀ e ∈ t1, Before st.cluster e.req) ∧ Reaches st t1 st' ∧
        (steps F settings st').Runs t2 o := by
  cases hdeletion : st.cluster.deletionTimestamp.isSome with
  | true =>
    unfold reconcileClusterImpl at h
    rw [if_pos hdeletion] at h
    exact .inl ((handleDeletion_asks (fun _ => PhaseReq.before) fun _ => rfl).mem h)
  | false =>
    rw [reconcile_phases hdeletion] at h
    rcases runs_andThen_cases h with ⟨out, hphases⟩ | ⟨t1, st', t2, rfl, hphases, hsteps⟩
    · exact .inl ((phases_asks F st).mem hphases)
    · exact .inr ⟨t1, st', t2, rfl, (phases_asks F st).mem hphases, phases_reaches hphases, hsteps⟩

theorem reconcile_traces {P : Req → Prop} {T : Trace → Prop} (hT : Absorbs P T)
    (hP : ∀ q, Before st.cluster q → P q)
    (hsteps : ∀ st' : State, st'.cluster.annotations = st.cluster.annotations →
      Traces T (steps F settings st')) : Traces T (reconcileClusterImpl F settings st) := by
  intro t o h
  rcases reconcile_reaches h with hbefore | ⟨t1, st', t2, rfl, hbefore, hreaches, hrun⟩
  · exact hT.of_forall fun e he => hP _ (hbefore e he)
  · exact hT.append (fun e he => hP _ (hbefore e he)) (hsteps st' hreaches.annotations t2 o hrun)

end

end Keyval.Controller
