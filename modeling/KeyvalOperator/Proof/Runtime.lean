import KeyvalOperator.Controller
import KeyvalOperator.Proof.Topology

/-!
# The Runtime phase

* `runtime_split`: a run of the phase is a run of its topology, its report and the rest.
* `runtime_run`: the rest of the phase keeps the names and labels of the pods and takes the master
  from the topology.
* `reconcileTopology_run`: the phases from the topology to the labels, in turn.
-/

namespace Keyval

open Go Interact Interact.Prog List

variable {P : Req → Prop}

/-! ## Requests of the topology -/

/-- A request of the topology pass. -/
def TopologyReq : Req → Prop
  | .ctxErr | .polls | .redisForPod _ | .auth .. | .role _ | .replicationInfo _ | .replicaOf ..
  | .noOne _ | .sentinelForPod _ | .getMasterAddrByName .. | .cacheLookup .. | .cacheRemember ..
  | .cacheInvalidate .. => True
  | _ => False

/-- A request that asks Sentinel for the master. -/
def SentinelReq : Req → Prop
  | .sentinelForPod _ | .getMasterAddrByName .. => True
  | _ => False

/-- The request does not use the cache. -/
def NoCache : Req → Prop
  | .cacheLookup .. | .cacheRemember .. | .cacheInvalidate .. => False
  | _ => True

theorem SentinelReq.topologyReq {q : Req} (h : SentinelReq q) : TopologyReq q := by
  cases q <;> trivial

theorem SentinelReq.quiet {q : Req} (h : SentinelReq q) : Quiet q := by
  cases q <;> trivial

theorem SentinelReq.noCache {q : Req} (h : SentinelReq q) : NoCache q := by
  cases q <;> trivial

namespace Replication

section
variable (cr : KeyValCluster) (pods : List Pod) (m : String) (opts : EnsureOptions)

theorem ensureWithMaster_issues :
    Asks (fun q => TopologyReq q ∧ NoCache q) (ensureWithMaster cr pods m opts) := by
  unfold ensureWithMaster
  split
  · exact .ret _
  · refine Issues.forErr _ fun p _ res => ?_
    exact ensurePod_asks cr pods opts _ res p ⟨trivial, trivial⟩ ⟨trivial, trivial⟩
      ⟨trivial, trivial⟩ (fun _ => ⟨trivial, trivial⟩) ⟨trivial, trivial⟩
      (fun _ => ⟨trivial, trivial⟩) fun _ => ⟨trivial, trivial⟩

theorem ensureWithMaster_asks : Asks TopologyReq (ensureWithMaster cr pods m opts) :=
  (ensureWithMaster_issues cr pods m opts).mono fun _ h => h.1

theorem ensureWithMaster_noCache : Asks NoCache (ensureWithMaster cr pods m opts) :=
  (ensureWithMaster_issues cr pods m opts).mono fun _ h => h.2

end

theorem detectRoles_asks (pods : List Pod) (opts : EnsureOptions) (hctx : P .ctxErr)
    (hfor : ∀ pod, P (.redisForPod pod)) (hauth : ∀ pod user, P (.auth pod user opts.password))
    (hrole : ∀ pod, P (.role pod)) :
    Asks P (detectRoles pods opts) := by
  unfold detectRoles
  split
  · exact .ret _
  refine Issues.bind (Issues.forErr _ fun p _ s => ?_) fun r => ?_
  · unfold detectPod
    refine .call (hfor _) fun r _ => ?_
    cases r with
    | error e => exact .ret _
    | ok u =>
      refine (maybeAuth_asks p.name opts hctx (hauth _)).bind fun r => ?_
      cases r with
      | error e => exact .ret _
      | ok u =>
        refine (retry_asks hctx (ask_asks (hrole _)) 3).bind fun r => ?_
        cases r with
        | error e => exact .ret _
        | ok role =>
          dsimp only
          split <;> exact .ret _
  · obtain ⟨⟨roles, masters⟩, err⟩ := r
    cases err with
    | some e => exact .ret _
    | none =>
      dsimp only
      split <;> exact .ret _

theorem resolveFrom_asks (cr : KeyValCluster) (redisPods : List Pod) :
    ∀ (sps : List Pod) (errs : List Error), Asks SentinelReq (resolveFrom cr redisPods errs sps)
  | [], errs => by
    unfold resolveFrom
    split <;> exact .ret _
  | sp :: rest, errs => by
    unfold resolveFrom
    simp only [bind_eq, pure_eq, ask_eq, call_bind, ret_bind]
    refine .call trivial fun r _ => ?_
    cases r with
    | error e => exact resolveFrom_asks cr redisPods rest _
    | ok u =>
      refine .call trivial fun r _ => ?_
      cases r with
      | error e => exact resolveFrom_asks cr redisPods rest _
      | ok addr =>
        obtain ⟨host, port⟩ := addr
        dsimp only
        split_ifs
        all_goals first | exact resolveFrom_asks cr redisPods rest _ | exact .ret _

section
variable (req : EnsureRequest)

theorem ensureFromCache_asks (opts : EnsureOptions) :
    Asks TopologyReq (ensureFromCache req opts) := by
  unfold ensureFromCache
  simp only [bind_eq, pure_eq, ask_eq, call_bind, ret_bind]
  split
  · exact .ret _
  refine .call trivial fun r _ => ?_
  cases r with
  | none => exact .ret _
  | some c =>
    obtain ⟨candidate, detail⟩ := c
    dsimp only
    split
    · refine (ensureWithMaster_asks _ _ _ _).bind fun r => ?_
      obtain ⟨result, err⟩ := r
      cases err with
      | none => exact .ret _
      | some e => exact .call trivial fun _ _ => .ret _
    · exact .call trivial fun _ _ => .ret _

theorem remember_asks (master detail : String) (err : Option Error) :
    Asks TopologyReq (remember req master detail err) := by
  unfold remember
  split
  · exact ask_asks trivial
  · exact .ret _

theorem masterFromSentinel_asks : Asks SentinelReq (masterFromSentinel req) := by
  unfold masterFromSentinel
  simp only [bind_eq, pure_eq]
  split_ifs
  · exact .ret _
  · refine (resolveFrom_asks _ _ _ _).bind fun r => ?_
    cases r with
    | error e => exact .ret _
    | ok nd =>
      dsimp only
      split <;> exact .ret _
  · exact .ret _

theorem ensureByProbe_asks (cr : KeyValCluster) (pods : List Pod) (opts : EnsureOptions) :
    Asks TopologyReq (ensureByProbe cr pods opts) := by
  unfold ensureByProbe
  refine (detectRoles_asks _ _ trivial (fun _ => trivial) (fun _ _ => trivial)
    fun _ => trivial).bind fun r => ?_
  cases r with
  | error e => exact .ret _
  | ok mr => exact ensureWithMaster_asks _ _ _ _

theorem ensureResolved_asks (opts : EnsureOptions) :
    Asks TopologyReq (ensureResolved req opts) := by
  unfold ensureResolved
  refine ((masterFromSentinel_asks req).mono fun _ h => h.topologyReq).bind fun r => ?_
  cases r with
  | ok nd =>
    refine (ensureWithMaster_asks _ _ _ _).bind fun r => ?_
    exact (remember_asks req _ _ _).bind fun _ => .ret _
  | error failure =>
    refine (ensureByProbe_asks _ _ _).bind fun r => ?_
    exact (remember_asks req _ _ _).bind fun _ => .ret _

theorem ensureTopology_asks (F : Formats) : Asks TopologyReq (ensureTopology F req) := by
  unfold ensureTopology
  split
  · exact .ret _
  split
  · exact .ret _
  cases req.security.bind (clientTLSConfig F) with
  | some e => exact .ret _
  | none =>
    refine (ensureFromCache_asks req _).bind fun r => ?_
    cases r with
    | some result => exact .ret _
    | none =>
      dsimp only
      split
      · unfold ensureForced
        refine (ensureWithMaster_asks _ _ _ _).bind fun r => ?_
        exact (remember_asks req _ _ _).bind fun _ => .ret _
      · exact ensureResolved_asks req _

end

/-! ## Redis connections -/

theorem ensureWithMaster_connects {cr : KeyValCluster} {pods : List Pod} {m : String}
    {opts : EnsureOptions} {t : Trace} {res : EnsureResult}
    (h : (ensureWithMaster cr pods m opts).Runs t (res, none)) :
    ∃ pod, ⟨.redisForPod pod, .ok ()⟩ ∈ t := by
  unfold ensureWithMaster at h
  by_cases hpods : pods = []
  · rw [if_pos hpods] at h
    cases (runs_ret.1 h).2
  rw [if_neg hpods] at h
  cases hs : sortedPodsByName pods with
  | nil =>
    have hperm := sortedPodsByName_perm pods
    rw [hs] at hperm
    exact absurd hperm.symm.eq_nil hpods
  | cons p rest =>
    rw [hs] at h
    rcases runs_forErr_cons.1 h with ⟨e, he, -⟩ | ⟨t1, res', t2, rfl, hp, -⟩
    · cases he
    · unfold ensurePod at hp
      obtain ⟨r, t3, rfl, hp'⟩ := runs_asked.1 hp
      cases r with
      | error e => cases (runs_ret.1 hp').2
      | ok u => exact ⟨p.name, .head _⟩

theorem ensureTopology_unreachable {F : Formats} {req : EnsureRequest} {t : Trace}
    {o : EnsureResult × Option Error} (h : (ensureTopology F req).Runs t o)
    (hno : ∀ pod, (⟨.redisForPod pod, .ok ()⟩ : Event Op) ∉ t) : o.2 ≠ none := by
  obtain ⟨res, err⟩ := o
  rintro rfl
  obtain ⟨t1, t2, t3, res', hlast, -⟩ := ensureTopology_lastPass h
  obtain ⟨pod, hpod⟩ := ensureWithMaster_connects hlast.pass
  rw [hlast.split] at hno
  exact hno pod (mem_append_left _ (mem_append_right _ hpod))

end Replication

namespace Phases

open Replication (ask_asks)

variable {q : Req} {o : State × Option Error}

/-! ## Requests of the phase -/

/-- A request of the Runtime phase. -/
def RuntimeReq : Req → Prop
  | .getPVC .. | .applyRedisRuntime _ | .applySentinelRuntime => True
  | .event ev => ev.OfPhase
  | q => TopologyReq q

theorem TopologyReq.runtimeReq (h : TopologyReq q) : RuntimeReq q := by
  cases q <;> trivial

/-- A request after the topology pass. -/
def ReportReq : Req → Prop
  | .cacheRemember .. | .cacheInvalidate .. | .applyRedisRuntime _ | .applySentinelRuntime => True
  | .event ev => ev.OfPhase
  | _ => False

/-- A request of the configuration part. -/
def ApplyReq : Req → Prop
  | .applyRedisRuntime _ | .applySentinelRuntime => True
  | .event ev => ev.OfPhase
  | _ => False

theorem ApplyReq.reportReq (h : ApplyReq q) : ReportReq q := by
  cases q <;> first | exact h.elim | exact h

theorem ApplyReq.noCache (h : ApplyReq q) : NoCache q := by
  cases q <;> first | exact h.elim | trivial

theorem ReportReq.runtimeReq (h : ReportReq q) : RuntimeReq q := by
  cases q <;> trivial

theorem ReportReq.quiet (h : ReportReq q) : Quiet q := by
  cases q <;> trivial

theorem selectCandidate_asks (F : Formats) (cr : KeyValCluster) (pods : List Pod)
    (hget : ∀ ns name, P (.getPVC ns name)) : Asks P (Bootstrap.selectCandidate F cr pods) := by
  unfold Bootstrap.selectCandidate
  cases sortedPodsByName pods with
  | nil => exact .ret _
  | cons seed rest =>
    refine (Issues.mapAll fun p _ => ?_).bind fun _ => .ret _
    unfold Bootstrap.loadFreshnessRecord
    split
    · exact .ret _
    · refine .call (hget _ _) fun r _ => ?_
      cases r with
      | error e => exact .ret _
      | ok pvc => exact .ret _

theorem ensureTopology_runtimeReq (F : Formats) (req : Replication.EnsureRequest) :
    Asks RuntimeReq (Replication.ensureTopology F req) :=
  (Replication.ensureTopology_asks req F).mono fun _ => TopologyReq.runtimeReq

theorem ensureOrBootstrap_asks (F : Formats) (req : Replication.EnsureRequest) (n : Nat) :
    Asks RuntimeReq (ensureOrBootstrap F req n) := by
  unfold ensureOrBootstrap
  simp only [bind_eq, pure_eq]
  refine (ensureTopology_runtimeReq F req).bind fun r => ?_
  split
  · refine (selectCandidate_asks F _ _ fun _ _ => trivial).bind fun cand => ?_
    split
    · exact (ensureTopology_runtimeReq F _).bind fun _ => .ret _
    · exact .ret _
  · exact .ret _

theorem event_asks (c : Prop) [Decidable c] {ev : Ev} (h : P (.event ev)) :
    Asks P (event c ev) := by
  unfold event
  split
  · exact ask_asks h
  · exact .ret _

theorem updateCache_asks (st : State) (res : Replication.EnsureResult) :
    Asks ReportReq (updateCache st res) := by
  unfold updateCache
  split_ifs
  all_goals first | exact .ret _ | exact ask_asks trivial

/-- What the phase keeps of the pass. -/
def TopologyState.of (st : State) (res : Replication.EnsureResult) (err : Option Error)
    (cand : Bootstrap.Candidate) : TopologyState :=
  match err with
  | some e => { replicationErr := some e, bootstrapCandidate := cand }
  | none => .found st res cand

theorem settleTopology_asks (st : State) (res : Replication.EnsureResult) (err : Option Error)
    (cand : Bootstrap.Candidate) : Asks ReportReq (settleTopology st res err cand) := by
  unfold settleTopology
  cases err with
  | some e => exact .ret _
  | none =>
    refine (event_asks _ trivial).bind fun _ => (event_asks _ trivial).bind fun _ => ?_
    exact (updateCache_asks st res).bind fun _ => .ret _

theorem settleTopology_run {st st1 : State} {res : Replication.EnsureResult}
    {err : Option Error} {cand : Bootstrap.Candidate} {t : Trace} {ts : TopologyState}
    (h : (settleTopology st res err cand).Runs t (st1, ts)) :
    st1.cluster = st.cluster ∧ ts = .of st res err cand := by
  unfold settleTopology at h
  cases err with
  | some e =>
    obtain ⟨-, heq⟩ := runs_ret.1 h
    obtain ⟨rfl, rfl⟩ := Prod.mk.inj heq
    exact ⟨rfl, rfl⟩
  | none =>
    obtain ⟨_, _, _, -, -, h1⟩ := runs_bind.1 h
    obtain ⟨_, _, _, -, -, h2⟩ := runs_bind.1 h1
    obtain ⟨_, _, _, -, -, h3⟩ := runs_bind.1 h2
    obtain ⟨-, heq⟩ := runs_ret.1 h3
    obtain ⟨rfl, rfl⟩ := Prod.mk.inj heq
    exact ⟨State.requeueIf_cluster _ _ _, rfl⟩

theorem runtimeTopology_asks (F : Formats) (st : State) (n : Nat) :
    Asks RuntimeReq (runtimeTopology F st n) := by
  unfold runtimeTopology
  split
  · refine (ensureOrBootstrap_asks F _ n).bind fun r => ?_
    exact (settleTopology_asks st _ _ _).mono fun _ => ReportReq.runtimeReq
  · exact .ret _

theorem healthEvent_ofPhase {prev : Option PodHealth} {health : PodHealth} {pod : String}
    {lag : Option Int} {ev : Ev} (h : healthEvent prev health pod lag = some ev) : ev.OfPhase := by
  unfold healthEvent at h
  split at h
  · split_ifs at h
    cases h
    trivial
  · split_ifs at h
    cases h
    trivial
  · split_ifs at h
    cases h
    trivial
  · cases h

theorem healthAt_asks (cr : KeyValCluster) (master : String) (roles : Map PodRole)
    (infos : Map ReplicationInfo) (h : HealthState) (p : Pod) :
    Asks ApplyReq (healthAt cr master roles infos h p) := by
  refine Issues.bind ?_ fun _ => .ret _
  unfold recordEvent
  split
  · next hev => exact ask_asks (healthEvent_ofPhase hev)
  · exact .ret _

theorem applySentinelRuntime_asks (cr : KeyValCluster) :
    Asks ApplyReq (applySentinelRuntime cr) := by
  unfold applySentinelRuntime
  split
  · exact ask_asks trivial
  · exact .ret _

theorem runtime_asks (F : Formats) (st : State) : Asks RuntimeReq (runtime F st) := by
  unfold runtime
  refine (runtimeTopology_asks F _ _).bind fun r => ?_
  refine ((Issues.foldlM _ fun p _ h => healthAt_asks _ _ _ _ h p).mono fun _ h =>
    h.reportReq.runtimeReq).bind fun h => ?_
  refine .call trivial fun r _ => ?_
  obtain ⟨delay, annotated⟩ := r
  exact ((applySentinelRuntime_asks _).mono fun _ h =>
    h.reportReq.runtimeReq).bind fun _ => .ret _

/-! ## Runs of the phase -/

section
variable {F : Formats} {st : State} {t : Trace}

theorem topologyRequest_requeueIf (st : State) (c : Prop) [Decidable c] (d : Duration) :
    topologyRequest (st.requeueIf c d) = topologyRequest st := by
  unfold State.requeueIf
  split <;> rfl

theorem TopologyState.of_congr {st st' : State} (h : st.cluster = st'.cluster)
    (res : Replication.EnsureResult) (err : Option Error) (cand : Bootstrap.Candidate) :
    TopologyState.of st res err cand = .of st' res err cand := by
  unfold TopologyState.of TopologyState.found
  rw [h]

theorem TopologyState.of_err (st : State) (res : Replication.EnsureResult) (err : Option Error)
    (cand : Bootstrap.Candidate) : (TopologyState.of st res err cand).replicationErr = err := by
  cases err <;> rfl

section
variable (st : State) (pods : List Pod) (ts : TopologyState) (h : HealthState)
  (delay : Duration) (annotated : List String)

theorem runtimeState_runtime :
    (runtimeState st pods ts h delay annotated).runtime.master = (resolveRoles pods ts).1 ∧
    (runtimeState st pods ts h delay annotated).runtime.infos = (resolveRoles pods ts).2.2 ∧
    (runtimeState st pods ts h delay annotated).runtime.replicationError = ts.replicationErr :=
  ⟨rfl, rfl, rfl⟩

theorem runtimeState_cluster :
    (runtimeState st pods ts h delay annotated).cluster = st.cluster := by
  unfold runtimeState
  simp only [State.requeueIf_cluster]

theorem runtimeState_redisPods : ∃ hash,
    (runtimeState st pods ts h delay annotated).redisPods =
      annotateConfigHash hash annotated pods := ⟨_, rfl⟩

end

section
variable (hash : String) (names : List String) (pods : List Pod)

@[simp] theorem annotateConfigHash_names :
    (annotateConfigHash hash names pods).map Pod.name = pods.map Pod.name := by
  unfold annotateConfigHash
  rw [map_map]
  refine map_congr_left fun p _ => ?_
  show Pod.name (if p.name ∈ names then _ else p) = p.name
  split <;> rfl

theorem mem_annotateConfigHash {p' : Pod} (h : p' ∈ annotateConfigHash hash names pods) :
    ∃ p ∈ pods, p'.name = p.name ∧ p'.role = p.role := by
  obtain ⟨p, hp, rfl⟩ := mem_map.1 h
  refine ⟨p, hp, ?_⟩
  split <;> exact ⟨rfl, rfl⟩

theorem annotateConfigHash_mem {p : Pod} (h : p ∈ pods) :
    ∃ p' ∈ annotateConfigHash hash names pods, p'.name = p.name ∧ p'.role = p.role := by
  refine ⟨_, mem_map_of_mem h, ?_⟩
  split <;> exact ⟨rfl, rfl⟩

end

theorem runtime_none (h : (runtime F st).Runs t o) : o.2 = none := by
  obtain ⟨_, _, _, -, -, h2⟩ := runs_bind.1 h
  obtain ⟨_, _, _, -, -, h3⟩ := runs_bind.1 h2
  obtain ⟨_, _, -, h4⟩ := runs_asked.1 h3
  obtain ⟨_, _, _, -, -, h5⟩ := runs_bind.1 h4
  obtain ⟨-, rfl⟩ := runs_ret.1 h5
  rfl

/-- A run of the phase: the topology, its report, and the health and configuration of the pods. -/
structure RuntimeRun (F : Formats) (st : State) (t t1 t2 t3 : Trace)
    (o : State × Option Error) (res : Replication.EnsureResult) (err : Option Error)
    (cand : Bootstrap.Candidate) : Prop where
  events : t = t1 ++ (t2 ++ t3)
  topology : (ensureOrBootstrap F (topologyRequest st) (st.redisPods.countP isPodReady)).Runs t1
    (res, err, cand)
  report : ∃ st0 r, st0.cluster = st.cluster ∧ (settleTopology st0 res err cand).Runs t2 r
  rest : ∀ e ∈ t3, ApplyReq e.req
  cluster : o.1.cluster = st.cluster
  master : o.1.runtime.master = (resolveRoles st.redisPods (.of st res err cand)).1
  infos : o.1.runtime.infos = (resolveRoles st.redisPods (.of st res err cand)).2.2
  error : o.1.runtime.replicationError = err
  found : o.1.runtime.topology = (TopologyState.of st res err cand).topology
  pods : ∃ hash names, o.1.redisPods = annotateConfigHash hash names st.redisPods

theorem runtime_split (hfac : st.clientFactory = true) (h : (runtime F st).Runs t o) :
    ∃ t1 t2 t3 res err cand, RuntimeRun F st t t1 t2 t3 o res err cand := by
  obtain ⟨u1, ⟨st1, ts⟩, u2, rfl, h1, h2⟩ := runs_bind.1 h
  obtain ⟨u3, hs, u4, rfl, hhealth, h3⟩ := runs_bind.1 h2
  obtain ⟨⟨delay, annotated⟩, u5, rfl, h4⟩ := runs_asked.1 h3
  obtain ⟨u6, u, u7, rfl, hsen, h5⟩ := runs_bind.1 h4
  obtain ⟨rfl, rfl⟩ := runs_ret.1 h5
  set st0 := st.requeueIf (st.redisPods ≠ [] ∧
    st.redisPods.countP isPodReady < st.redisPods.length) (4 * second) with hst0
  have hcl : st0.cluster = st.cluster := State.requeueIf_cluster _ _ _
  have hfac0 : st0.clientFactory = true := by
    rw [hst0, State.requeueIf]
    split <;> exact hfac
  unfold runtimeTopology at h1
  rw [if_pos hfac0] at h1
  obtain ⟨t1, ⟨res, err, cand⟩, t2, rfl, htop, hset⟩ := runs_bind.1 h1
  rw [topologyRequest_requeueIf] at htop
  obtain ⟨hcl1, rfl⟩ := settleTopology_run hset
  rw [TopologyState.of_congr hcl]
  obtain ⟨hmaster, hinfos, herr⟩ := runtimeState_runtime st1 st.redisPods
    (.of st res err cand) (st1.sentinelPods.foldl (sentinelHealth st.cluster) hs) delay annotated
  obtain ⟨hash, hpods⟩ := runtimeState_redisPods st1 st.redisPods
    (.of st res err cand) (st1.sentinelPods.foldl (sentinelHealth st.cluster) hs) delay annotated
  refine ⟨t1, t2, _, res, err, cand, append_assoc _ _ _, htop, ⟨st0, _, hcl, hset⟩, ?_, ?_,
    hmaster, hinfos, herr.trans (TopologyState.of_err _ _ _ _), rfl, ⟨hash, annotated, hpods⟩⟩
  · simp only [forall_mem_append, forall_mem_cons]
    exact ⟨(Issues.foldlM _ fun p _ h => healthAt_asks _ _ _ _ h p).mem hhealth
      (fun _ _ => trivial), trivial, (applySentinelRuntime_asks _).mem hsen, forall_mem_nil _⟩
  · rw [runtimeState_cluster, hcl1, hcl]

theorem runtime_run (hfac : st.clientFactory = true) (h : (runtime F st).Runs t o) :
    ∃ res err cand t1 t2, t = t1 ++ t2 ∧
      (ensureOrBootstrap F (topologyRequest st) (st.redisPods.countP isPodReady)).Runs t1
        (res, err, cand) ∧
      o.2 = none ∧ o.1.cluster = st.cluster ∧
      o.1.runtime.master = (resolveRoles st.redisPods (.of st res err cand)).1 ∧
      o.1.runtime.infos = (resolveRoles st.redisPods (.of st res err cand)).2.2 ∧
      o.1.runtime.replicationError = err ∧
      (∃ hash names, o.1.redisPods = annotateConfigHash hash names st.redisPods) ∧
      ∀ e ∈ t2, ReportReq e.req := by
  obtain ⟨t1, t2, t3, res, err, cand, hrun⟩ := runtime_split hfac h
  obtain ⟨st0, r, -, hset⟩ := hrun.report
  exact ⟨res, err, cand, t1, t2 ++ t3, hrun.events, hrun.topology, runtime_none h, hrun.cluster,
    hrun.master, hrun.infos, hrun.error, hrun.pods, forall_mem_append.2
      ⟨(settleTopology_asks _ _ _ _).mem hset, fun e he => (hrun.rest e he).reportReq⟩⟩

end

/-- A state with two pods. -/
def pairA : State where
  cluster := clusterA
  redisPods := Replication.podsA

end Phases

namespace Bootstrap

theorem updatePVCFreshness_asks (F : Formats) (cr : KeyValCluster) (pods : List Pod)
    (infos : Map ReplicationInfo) (hnow : P .now) (hget : ∀ ns name, P (.getPVC ns name))
    (hpatch : ∀ base desired, P (.patchPVC base desired)) :
    Asks P (updatePVCFreshness F cr pods infos) := by
  unfold updatePVCFreshness
  split
  · exact .ret _
  refine .call hnow fun now _ => ?_
  refine (Issues.mapAll fun p _ => ?_).bind fun _ => .ret _
  unfold updateFreshness
  cases infos.lookup p.name with
  | none => exact .ret _
  | some info =>
    refine .call (hget _ _) fun r _ => ?_
    cases r with
    | error e => exact .ret _
    | ok pvc =>
      rw [ret_bind]
      dsimp only
      split
      · exact .ret _
      · exact .call (hpatch _ _) fun _ _ => .ret _

end Bootstrap

namespace Controller

open Phases

@[simp] theorem requeueRuntime_redisPods (st : State) :
    (requeueRuntime st).redisPods = st.redisPods := by simp [requeueRuntime]

@[simp] theorem requeueRuntime_runtime (st : State) :
    (requeueRuntime st).runtime = st.runtime := by simp [requeueRuntime]

/-- From the topology to the labels: the Runtime phase, and then the error of the Sentinel phase, or
the freshness of the claims and the Labels phase. -/
theorem reconcileTopology_run {F : Formats} {st : State} {t : Trace}
    {o : State × Option Error} (h : (reconcileTopology F st).Runs t o) :
    ∃ st1 t1 t2, t = t1 ++ t2 ∧ (runtime F st).Runs t1 (st1, none) ∧
      ((∃ e, t2 = [⟨.sentinel, .error e⟩] ∧ o = (requeueRuntime st1, some e)) ∨
        ∃ sentinel t3 t4, t2 = ⟨.sentinel, .ok sentinel⟩ :: (t3 ++ t4) ∧
          (Bootstrap.updatePVCFreshness F st1.cluster st1.redisPods st1.runtime.infos).Runs t3 () ∧
          (labels { requeueRuntime st1 with sentinel }).Runs t4 o) := by
  obtain ⟨t1, ⟨st1, err⟩, t2, rfl, h1, h2⟩ := runs_bind.1 h
  obtain rfl : err = none := runtime_none h1
  refine ⟨st1, t1, t2, rfl, h1, ?_⟩
  obtain ⟨r, u, rfl, h3⟩ := runs_asked.1 h2
  cases r with
  | error e =>
    obtain ⟨rfl, rfl⟩ := runs_ret.1 h3
    exact .inl ⟨e, rfl, rfl⟩
  | ok sentinel =>
    obtain ⟨t3, _, t4, rfl, h4, h5⟩ := runs_bind.1 h3
    exact .inr ⟨sentinel, t3, t4, rfl, h4, h5⟩

end Controller

end Keyval
