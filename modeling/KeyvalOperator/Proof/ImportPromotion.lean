import KeyvalOperator.Lib.History
import KeyvalOperator.Proof.ImportSource
import KeyvalOperator.Resources.Config

/-!
# Promotion at the end of an import

A call that promotes the bootstrap pod decides on the reply to `INFO` that it read before it
attached the pod. So the pod may be promoted right after `REPLICAOF`, on a reply about another
master, or on offsets whose 64-bit distance wraps.

* `completesInSync_iff`: **when a pod is promoted only after a real sync**, over many calls.
* `ensure_promoted`: a promotion is followed by the reset of the replication credentials.
* `credentialsRestored_iff`: **the cluster's credentials are back exactly when they are empty**.
-/

namespace Keyval.Importer

open Go Interact Interact.Prog History List

variable {cfg : ExternalConfig} {F : Formats} {opts : Options} {spec : ExternalSourceSpec}
  {t : Trace} {out : Outcome} {info : ReplicationInfo} {pod : String} {e : Event Op}
  {sec : Settings}

/-! ## Calls -/

section
variable {prev : ExternalImportStatus} {ns : String}

/-- The source of the spec. -/
def sourceOf (F : Formats) (spec : ExternalSourceSpec) : ExternalConfig :=
  match parseAddress F spec with
  | .ok cfg => cfg
  | .error _ => { host := "", port := 0 }

/-- The configuration is for the source. -/
structure OfSource (F : Formats) (spec : ExternalSourceSpec) (cfg : ExternalConfig) : Prop where
  host : cfg.host = (sourceOf F spec).host
  port : cfg.port = (sourceOf F spec).port

theorem OfSource.attached_eq (h : OfSource F spec cfg)
    (info : ReplicationInfo) : attached (sourceOf F spec) info = attached cfg info := by
  unfold attached
  rw [h.host, h.port]

theorem readCredentials_address {auth : Option ExternalSourceAuthSpec} {cfg cfg' : ExternalConfig}
    (h : (readCredentials ns auth cfg).Runs t (.ok cfg')) :
    cfg'.host = cfg.host ∧ cfg'.port = cfg.port := by
  unfold readCredentials at h
  cases auth with
  | none =>
    obtain ⟨-, heq⟩ := runs_ret.1 h
    cases heq
    exact ⟨rfl, rfl⟩
  | some auth =>
    obtain ⟨t1, r, t2, rfl, -, h1⟩ := runs_bind.1 h
    cases r with
    | error e => cases (runs_ret.1 h1).2
    | ok user =>
      obtain ⟨t3, r, t4, rfl, -, h2⟩ := runs_bind.1 h1
      cases r with
      | error e => cases (runs_ret.1 h2).2
      | ok pass =>
        obtain ⟨-, heq⟩ := runs_ret.1 h2
        cases heq
        exact ⟨rfl, rfl⟩

theorem buildExternalConfig_source
    (h : (buildExternalConfig F ns spec).Runs t (.ok cfg)) : OfSource F spec cfg := by
  unfold buildExternalConfig at h
  cases haddress : parseAddress F spec with
  | error e =>
    rw [haddress] at h
    cases (runs_ret.1 h).2
  | ok cfg0 =>
    rw [haddress] at h
    have hsource : sourceOf F spec = cfg0 := by rw [sourceOf, haddress]
    obtain ⟨t1, r, t2, rfl, hread, h1⟩ := runs_bind.1 h
    cases r with
    | error e => cases (runs_ret.1 h1).2
    | ok cfg1 =>
      obtain ⟨t3, r, t4, rfl, -, h2⟩ := runs_bind.1 h1
      cases r with
      | error e => cases (runs_ret.1 h2).2
      | ok tlsConfig =>
        obtain ⟨rfl, heq⟩ := runs_ret.1 h2
        cases heq
        obtain ⟨hhost, hport⟩ := readCredentials_address hread
        exact ⟨by rw [hsource]; exact hhost, by rw [hsource]; exact hport⟩

/-- The call completes the import. -/
def Completes (spec : ExternalSourceSpec) (prev : ExternalImportStatus) (out : Outcome) : Prop :=
  (∃ st, out.1.status = some st ∧ CompletedFor spec st) ∧ ¬ CompletedFor spec prev

theorem startStatus_completed (h : (startStatus spec prev).state = importStateCompleted) :
    CompletedFor spec prev := by
  have hpending : importStatePending ≠ importStateCompleted := by decide
  unfold startStatus at h
  cases hreset : stateReset spec prev with
  | true =>
    rw [hreset] at h
    exact absurd h hpending
  | false =>
    have hsame : prev.source = spec.address ∧ prev.mode = (syncMode spec).str := by
      simpa [stateReset] using hreset
    simp only [hreset, Bool.false_eq_true, if_false] at h
    split at h
    · exact absurd h hpending
    · exact ⟨h, hsame.1, hsame.2⟩

/-- **What a call does**: early requests, and then either nothing, or the pod is attached. -/
theorem ensure_attach (hspec : opts.spec = some spec) (h : (ensure F opts).Runs t out) :
    ∃ t0 t1, t = t0 ++ t1 ∧ (∀ e ∈ t0, Early e.req) ∧
      ((t1 = [] ∧ ¬ Completes spec (opts.currentStatus.getD {}) out) ∨
        ∃ cfg pod status, OfSource F spec cfg ∧ status.state ≠ importStateCompleted ∧
          AttachRun opts spec cfg pod (opts.currentStatus.getD {}) status t1 out) := by
  unfold ensure at h
  rw [hspec] at h
  rcases ensureSource_run h with ⟨hobstacle, -, hstatus⟩ |
    ⟨cfg, pod, t1, t2, -, -, hconfig, -, -, rfl, hrun⟩
  · refine ⟨t, [], (append_nil t).symm,
      fun e he => (hobstacle.approaches e he).early, .inl ⟨rfl, ?_⟩⟩
    rintro ⟨⟨st, hst, hfor⟩, hprev⟩
    rcases hstatus with heq | heq
    · cases hst.symm.trans heq
      exact hprev hfor
    · cases hst.symm.trans heq
      exact hprev (startStatus_completed hfor.state)
  · have hearly : ∀ {u : Trace}, (∀ e ∈ u, Early e.req) →
        ∀ e ∈ t1 ++ ⟨.redisForPod pod.name, .ok ()⟩ :: u, Early e.req := fun hu =>
      forall_mem_append.2 ⟨fun e he =>
        ((buildExternalConfig_asks F _ spec).mem hconfig e he).early,
        forall_mem_cons.2 ⟨trivial, hu⟩⟩
    rcases hrun.stops_or_attaches with ⟨hstops, hcompleted⟩ | ⟨t3, t4, rfl, hstate, hstops, hattach⟩
    · refine ⟨_, [], (append_nil _).symm, hearly hstops, .inl ⟨rfl, ?_⟩⟩
      rintro ⟨⟨st, hst, hfor⟩, hprev⟩
      exact hprev (startStatus_completed (hcompleted ⟨st, hst, hfor.state⟩))
    · exact ⟨t1 ++ ⟨.redisForPod pod.name, .ok ()⟩ :: t3, t4, by simp, hearly hstops,
        .inr ⟨cfg, pod.name, _, buildExternalConfig_source hconfig, hstate, hattach⟩⟩

end

/-! ## Promotion after a sync -/

section
variable (src : ExternalConfig) (pod : String)

/-- The distance of the offsets of a reply to `INFO`. -/
def offsetGap (info : ReplicationInfo) : Nat :=
  (info.masterReplOffset - info.replicaReplOffset).natAbs

/-- The reply to `INFO` shows the source as the pod's master, with the link up, no sync in progress
and offsets at most 1024 apart. -/
def Shows : Event Op → Prop
  | ⟨.replicationInfo pod', .ok info⟩ => pod' = pod ∧ attached src info = true ∧
    toLower info.masterLinkStatus = "up" ∧ info.masterSyncInProgress = false ∧
    offsetGap info ≤ 1024
  | _ => False

/-- `REPLICAOF` to the source. -/
def AttachesTo : Event Op → Prop
  | ⟨.replicaOf pod' host port, _⟩ => pod' = pod ∧ host = src.host ∧ port = src.port
  | _ => False

/-- A reply of the pod to `INFO`. -/
def Informs : Event Op → Prop
  | ⟨.replicationInfo pod', .ok _⟩ => pod' = pod
  | _ => False

/-- After the last `REPLICAOF` to the source, a reply showed the pod in sync with the source. -/
def SyncedSince (h : Trace) : Prop := Since (Shows src pod) (AttachesTo src pod) h

/-- The last reply of the pod to `INFO` names the source, and the distance of its offsets fits into
64 bits or an earlier reply showed the sync. -/
def LastTells (h : Trace) : Prop :=
  ∃ h1 info h2, h = h1 ++ ⟨.replicationInfo pod, .ok info⟩ :: h2 ∧ (∀ e ∈ h2, ¬ Informs pod e) ∧
    attached src info = true ∧ (offsetGap info < 2 ^ 63 ∨ SyncedSince src pod h1)

end

section
variable {src : ExternalConfig}

theorem diff64_eq {a b : Int} (h : (a - b).natAbs < 2 ^ 63) : diff64 a b = (a - b).natAbs := by
  unfold diff64
  split
  · rw [wrap64_of_range (by omega) (by omega)]
    omega
  · rw [wrap64_of_range (by omega) (by omega)]
    omega

/-- A reply on which the code promotes shows the sync when the distance does not wrap. -/
theorem shows_iff (pod : String) (hattached : attached src info = true)
    (hsync : inSync info = true) :
    Shows src pod ⟨.replicationInfo pod, .ok info⟩ ↔ offsetGap info < 2 ^ 63 := by
  simp only [inSync, Bool.and_eq_true, decide_eq_true_eq, Bool.not_eq_true'] at hsync
  obtain ⟨⟨hup, hidle⟩, hdiff⟩ := hsync
  constructor
  · rintro ⟨-, -, -, -, hgap⟩
    exact Nat.lt_of_le_of_lt hgap (by decide)
  · intro hgap
    rw [diff64_eq hgap] at hdiff
    exact ⟨rfl, hattached, hup, hidle, Int.ofNat_le.1 hdiff⟩

theorem Calm.neutral {pod : String} (h : Calm e.req) :
    ¬ Shows src pod e ∧ ¬ AttachesTo src pod e := by
  obtain ⟨q, r⟩ := e
  cases q <;> first | exact h.elim | exact ⟨id, id⟩

theorem Calm.not_replies {pod : String} (h : Calm e.req) : ¬ Informs pod e := by
  obtain ⟨q, r⟩ := e
  cases q <;> first | exact h.elim | exact id

theorem lastTells_iff (pod : String) (h : Trace) (ht : ∀ e ∈ t, ¬ Informs pod e) :
    LastTells src pod (h ++ ⟨.replicationInfo pod, .ok info⟩ :: t) ↔
      attached src info = true ∧ (offsetGap info < 2 ^ 63 ∨ SyncedSince src pod h) := by
  constructor
  · rintro ⟨h1, info', h2, heq, hnone, htells⟩
    obtain ⟨rfl, hevent, -⟩ := split_eq heq (fun _ hmem => ht _ hmem rfl)
      fun _ hmem => hnone _ hmem rfl
    cases hevent
    exact htells
  · exact fun htells => ⟨h, info, t, rfl, ht, htells⟩

theorem verdict_attached (pod : String) (h : Trace) (hattached : attached src info = true)
    (hsync : inSync info = true) (hcalm : ∀ e ∈ t, Calm e.req) :
    SyncedSince src pod (h ++ ⟨.replicationInfo pod, .ok info⟩ :: t) ↔
      LastTells src pod (h ++ ⟨.replicationInfo pod, .ok info⟩ :: t) := by
  rw [lastTells_iff pod h fun e he => (hcalm e he).not_replies, SyncedSince, append_cons,
    since_append fun e he => (hcalm e he).neutral, since_concat, shows_iff pod hattached hsync]
  exact ⟨fun hsynced => ⟨hattached, hsynced.imp_right And.left⟩,
    fun htells => htells.2.imp_right fun hsynced => ⟨hsynced, id⟩⟩

theorem verdict_attaches (pod : String) (h : Trace) {host : String} {port : Int}
    (hhost : host = src.host) (hport : port = src.port) (hattached : attached src info = false)
    {addr u p : String} {db : Int} {tls : Option TLSConfig} (hcalm : ∀ e ∈ t, Calm e.req) :
    ¬ SyncedSince src pod (h ++ ⟨.replicationInfo pod, .ok info⟩ ::
        ⟨.pingExternal addr u p db tls, .ok ()⟩ :: ⟨.replicaOf pod host port, .ok ()⟩ :: t) ∧
      ¬ LastTells src pod (h ++ ⟨.replicationInfo pod, .ok info⟩ ::
        ⟨.pingExternal addr u p db tls, .ok ()⟩ :: ⟨.replicaOf pod host port, .ok ()⟩ :: t) := by
  constructor
  · -- `REPLICAOF` is the last event that counts
    rw [SyncedSince, show ∀ a b c : Event Op, h ++ a :: b :: c :: t = h ++ [a, b] ++ [c] ++ t from
      fun a b c => by simp, since_append fun e he => (hcalm e he).neutral, since_concat]
    rintro (hshows | ⟨-, hnot⟩)
    · exact hshows
    · exact hnot ⟨rfl, hhost, hport⟩
  · -- the last reply to `INFO` names another master
    rw [lastTells_iff pod h]
    · rintro ⟨hnames, -⟩
      rw [hattached] at hnames
      cases hnames
    · refine forall_mem_cons.2 ⟨id, forall_mem_cons.2 ⟨id, fun e he => ?_⟩⟩
      exact (hcalm e he).not_replies

end

/-- `REPLICAOF NO ONE`. -/
def Promotes (e : Event Op) : Prop := ∃ pod, e.req = .noOne pod

theorem Calm.not_promotes (h : Calm e.req) : ¬ Promotes e := by
  rintro ⟨pod, hpod⟩
  rw [hpod] at h
  exact h

theorem Early.not_promotes (h : Early e.req) : ¬ Promotes e := by
  rintro ⟨pod, hpod⟩
  rw [hpod] at h
  exact h

section
variable {t1 t2 : Trace} {pod' : String} {r : Result Unit}

/-- A promotion in the end of a call is that of the bootstrap pod, on a reply in sync, after calm
requests. -/
theorem Ending.promotion {pre : Trace} (hpre : ∀ e ∈ pre, ¬ Promotes e)
    (h : Ending pod info t out) (heq : pre ++ t = t1 ++ ⟨.noOne pod', r⟩ :: t2) :
    pod' = pod ∧ inSync info = true ∧ ∃ t0, t1 = pre ++ t0 ∧ ∀ e ∈ t0, Calm e.req := by
  have hearly : ∀ {t0 : Trace}, (∀ e ∈ t0, Calm e.req) → ⟨.noOne pod', r⟩ ∉ pre ++ t0 :=
    fun hcalm hmem => forall_mem_append.2 ⟨hpre, fun e he => (hcalm e he).not_promotes⟩ _ hmem
      ⟨pod', rfl⟩
  cases h with
  | waits hcalm => exact absurd (by simp [heq]) (hearly hcalm)
  | @refused t0 e _ hsync hcalm =>
    rw [← append_assoc] at heq
    obtain ⟨rfl, hevent, -⟩ := split_eq heq.symm (fun hmem => absurd hmem (hearly hcalm)) (by simp)
    cases hevent
    exact ⟨rfl, hsync, t0, rfl, hcalm⟩
  | @promoted t0 t' _ _ _ _ hsync hcalm hclear =>
    rw [← append_assoc] at heq
    have hcleared := (clearMasterAuth_asks pod).mem hclear
    obtain ⟨rfl, hevent, -⟩ := split_eq heq.symm (fun hmem => absurd hmem (hearly hcalm))
      fun _ hmem => forall_mem_append.2 ⟨fun e he => (hcleared e he).prior.early.not_promotes,
        by simp [Promotes]⟩ _ hmem ⟨pod', rfl⟩
    cases hevent
    exact ⟨rfl, hsync, t0, rfl, hcalm⟩

/-- **At a promotion** the two readings of the history agree. -/
theorem AttachRun.verdict {pre past : Trace} {prev status : ExternalImportStatus}
    (hsource : OfSource F spec cfg) (hstate : status.state ≠ importStateCompleted)
    (hpre : ∀ e ∈ pre, ¬ Promotes e) (h : AttachRun opts spec cfg pod prev status t out)
    (heq : pre ++ t = t1 ++ ⟨.noOne pod', r⟩ :: t2) :
    SyncedSince (sourceOf F spec) pod' (past ++ t1) ↔
      LastTells (sourceOf F spec) pod' (past ++ t1) := by
  have hnone : ∀ {t : Trace}, pre ++ t = t1 ++ ⟨.noOne pod', r⟩ :: t2 →
      (∀ e ∈ t, ¬ Promotes e) → False := by
    intro t heq ht
    have hmem : ⟨.noOne pod', r⟩ ∈ pre ++ t := by simp [heq]
    exact forall_mem_append.2 ⟨hpre, ht⟩ _ hmem ⟨pod', rfl⟩
  cases h with
  | noInfo | unreachable | refused => exact (hnone heq (by simp [Promotes])).elim
  | @found info t _ hattached hstart =>
    rw [append_cons] at heq
    obtain ⟨rfl, hsync, t0, rfl, hcalm⟩ := (hstart.ending hstate).promotion
      (forall_mem_append.2 ⟨hpre, by simp [Promotes]⟩) heq
    rw [← append_cons, ← append_assoc]
    exact verdict_attached pod' (past ++ pre) ((hsource.attached_eq info).trans hattached) hsync
      hcalm
  | @attaches info t _ hattached hstart =>
    rw [append_cons, append_cons, append_cons] at heq
    obtain ⟨rfl, -, t0, rfl, hcalm⟩ := (hstart.ending hstate).promotion (by
      simp only [forall_mem_append]
      exact ⟨⟨⟨hpre, by simp [Promotes]⟩, by simp [Promotes]⟩, by simp [Promotes]⟩) heq
    rw [← append_cons, ← append_cons, ← append_cons, ← append_assoc]
    have hother := (hsource.attached_eq info).trans hattached
    exact iff_of_false (verdict_attaches pod' _ hsource.host hsource.port hother hcalm).1
      (verdict_attaches pod' _ hsource.host hsource.port hother hcalm).2

/-! ### Runs of calls -/

/-- A call for the source. -/
structure ImportCall (F : Formats) (spec : ExternalSourceSpec) where
  opts : Options
  trace : Trace
  outcome : Outcome
  source : opts.spec = some spec
  runs : (ensure F opts).Runs trace outcome

/-- The status before the call. -/
def ImportCall.prev (c : ImportCall F spec) : ExternalImportStatus := c.opts.currentStatus.getD {}

/-- The events of all calls. -/
def history (calls : List (ImportCall F spec)) : Trace :=
  (calls.map ImportCall.trace).flatten

theorem ImportCall.promotes (c : ImportCall F spec) (h : Completes spec c.prev c.outcome) :
    ∃ pod, ⟨.noOne pod, .ok ()⟩ ∈ c.trace := by
  obtain ⟨t0, t1, heq, -, hrest⟩ := ensure_attach c.source c.runs
  obtain ⟨⟨st, hst, hfor⟩, -⟩ := id h
  have hout : IsCompleted c.outcome := ⟨st, hst, hfor.state⟩
  have hend : ∀ {pod : String} {info : ReplicationInfo} {t : Trace},
      Ending pod info t c.outcome → ⟨.noOne pod, .ok ()⟩ ∈ t := by
    intro pod info t hend
    cases hend with
    | waits _ hnot => exact absurd hout hnot
    | refused _ _ hnot => exact absurd hout hnot
    | promoted => simp
  rw [heq]
  rcases hrest with ⟨-, hnot⟩ | ⟨cfg, pod, status, -, hstate, hattach⟩
  · exact absurd h hnot
  · refine ⟨pod, mem_append_right _ ?_⟩
    cases hattach with
    | noInfo hst | unreachable _ hst | refused _ hst =>
      exact absurd hout (not_isCompleted hst hstate)
    | found _ h => exact .tail _ (hend (h.ending hstate))
    | attaches _ h => exact .tail _ (.tail _ (.tail _ (hend (h.ending hstate))))

/-- A promotion in a run of calls, with the history before it. -/
def PromotedAfter (calls : List (ImportCall F spec)) (pod : String) (past : Trace) :
    Prop :=
  ∃ r rest, history calls = past ++ ⟨.noOne pod, r⟩ :: rest

theorem PromotedAfter.verdict {calls : List (ImportCall F spec)} {past : Trace}
    (h : PromotedAfter calls pod past) :
    SyncedSince (sourceOf F spec) pod past ↔ LastTells (sourceOf F spec) pod past := by
  obtain ⟨r, rest, heq⟩ := h
  obtain ⟨ls1, l, ls2, l1, l2, hls, hl, rfl⟩ := exists_split_flatten heq
  have hmem : l ∈ calls.map ImportCall.trace := by simp [hls]
  obtain ⟨c, -, rfl⟩ := mem_map.1 hmem
  obtain ⟨t0, t1, htrace, hearly, hrest⟩ := ensure_attach c.source c.runs
  rw [htrace] at hl
  rcases hrest with ⟨rfl, -⟩ | ⟨cfg, pod', status, hsource, hstate, hattach⟩
  · rw [append_nil] at hl
    have hpromotes : Early (.noOne pod) := hearly ⟨.noOne pod, r⟩ (by simp [hl])
    exact hpromotes.elim
  · exact hattach.verdict hsource hstate (fun e he => (hearly e he).not_promotes) hl

/-- The import completes only by promotions, and a pod is promoted only after a real sync. -/
structure CompletesInSync (calls : List (ImportCall F spec)) : Prop where
  promotes : ∀ c ∈ calls, Completes spec c.prev c.outcome → ∃ pod, ⟨.noOne pod, .ok ()⟩ ∈ c.trace
  synced : ∀ pod past, PromotedAfter calls pod past → SyncedSince (sourceOf F spec) pod past

/-- **Completion after a real sync**, over any number of calls with any statuses in between: exactly
when the last reply to `INFO` before each promotion names the source, with a distance of its offsets
that does not wrap or after a reply that showed the sync. -/
theorem completesInSync_iff (calls : List (ImportCall F spec)) :
    CompletesInSync calls ↔
      ∀ pod past, PromotedAfter calls pod past → LastTells (sourceOf F spec) pod past := by
  constructor
  · intro h pod past hpast
    exact hpast.verdict.1 (h.synced pod past hpast)
  · intro h
    exact ⟨fun c _ => c.promotes, fun pod past hpast => hpast.verdict.2 (h pod past hpast)⟩

end

/-- The target is empty, the source is reachable, every command succeeds, and `INFO` has the given
reply. -/
def importable (info : ReplicationInfo) : Replies
  | .dbSize _ => .ok 0
  | .configSet .. => .ok ()
  | .pingExternal .. => .ok ()
  | .replicationInfo _ => .ok info
  | q => healthy (fun _ => .master) q

/-- The first call for the source. -/
def firstCall (info : ReplicationInfo) : ImportCall .decimal sourceA where
  opts := optionsA {} [readyPod "a-0"]
  trace := (answer (importable info) (ensure .decimal (optionsA {} [readyPod "a-0"]))).1
  outcome := (answer (importable info) (ensure .decimal (optionsA {} [readyPod "a-0"]))).2
  source := rfl
  runs := runs_answer _ _

/-- The pod is in sync with another master. -/
def elsewhereA : ImportCall .decimal sourceA := firstCall (RedisState.replica "old" 6379).info

/-- The pod replicates from the source, with offsets `2 ^ 64 - 1` apart. -/
def wrappedA : ImportCall .decimal sourceA := firstCall {
  (RedisState.replica "source" 6379).info with
  masterReplOffset := 2 ^ 63 - 1
  replicaReplOffset := -2 ^ 63 }

/-- The events of a first call before it looks at the replication of the pod. -/
def checkedA : Trace := [⟨.redisForPod "a-0", .ok ()⟩, ⟨.dbSize "a-0", .ok 0⟩,
  ⟨.configSet "a-0" "masteruser" "", .ok ()⟩, ⟨.configSet "a-0" "masterauth" "", .ok ()⟩]

/-- The events of a first call once the pod is attached. -/
def startedA : Trace := [⟨.now, (0 : Int)⟩,
  ⟨.event (.externalImportStarted "address=source:6379"), ()⟩, ⟨.now, (0 : Int)⟩]

theorem checkedA_not_shows {src : ExternalConfig} : ∀ e ∈ checkedA, ¬ Shows src "a-0" e := by
  simp [checkedA, Shows]

theorem startedA_calm : ∀ e ∈ startedA, Calm e.req := by
  simp [startedA, Calm]

/-- **Two imports that are completed without a sync**: a pod in sync with another master is promoted
right after it is attached, and one that is far behind its source when the distance of the offsets
wraps. -/
theorem elsewhereA_completes :
    (Completes sourceA elsewhereA.prev elsewhereA.outcome ∧ ¬ CompletesInSync [elsewhereA]) ∧
      Completes sourceA wrappedA.prev wrappedA.outcome ∧ ¬ CompletesInSync [wrappedA] := by
  refine ⟨⟨⟨⟨_, rfl, rfl, rfl, rfl⟩, fun h => absurd h.state (by decide)⟩, fun h => ?_⟩,
    ⟨⟨_, rfl, rfl, rfl, rfl⟩, fun h => absurd h.state (by decide)⟩, fun h => ?_⟩
  · have hpast : PromotedAfter [elsewhereA] "a-0" (checkedA ++
        ⟨.replicationInfo "a-0", .ok (RedisState.replica "old" 6379).info⟩ ::
        ⟨.pingExternal "source:6379" "" "" 0 none, .ok ()⟩ ::
        ⟨.replicaOf "a-0" "source" 6379, .ok ()⟩ :: startedA) := ⟨_, _, rfl⟩
    exact (verdict_attaches _ _ rfl rfl rfl startedA_calm).1 (h.synced _ _ hpast)
  · have hpast : PromotedAfter [wrappedA] "a-0" (checkedA ++
        ⟨.replicationInfo "a-0", .ok { (RedisState.replica "source" 6379).info with
          masterReplOffset := 2 ^ 63 - 1, replicaReplOffset := -2 ^ 63 }⟩ :: startedA) :=
      ⟨_, _, rfl⟩
    have hsynced := h.synced _ _ hpast
    rw [verdict_attached _ _ (by decide) (by decide) startedA_calm,
      lastTells_iff _ _ fun e he => (startedA_calm e he).not_replies] at hsynced
    rcases hsynced.2 with hgap | ⟨h1, e, h2, heq, hshows, -⟩
    · exact absurd hgap (by decide)
    · exact checkedA_not_shows e (by simp [heq]) hshows

/-! ## Credentials -/

/-- The live configuration of the pods, by pod and directive. -/
abbrev LiveConfig := String → String → String

/-- The live parameters. -/
def configWorld : World Op LiveConfig where
  step live
    | ⟨.configSet pod key value, .ok _⟩ =>
      Function.update live pod (Function.update (live pod) key value)
    | _ => live
  ok _ _ := True

/-- Setting a parameter succeeds. -/
def ConfigSetOk : Event Op → Prop
  | ⟨.configSet .., r⟩ => r = .ok ()
  | _ => True

/-- The run ends with the pod's promotion. -/
def EndsPromoted (pod : String) (t : Trace) : Prop :=
  ∃ t0 t1 r now ev, (clearMasterAuth pod).Runs t1 r ∧
    t = t0 ++ ⟨.noOne pod, .ok ()⟩ :: (t1 ++ [⟨.now, now⟩, ⟨.event ev, ()⟩])

theorem EndsPromoted.append (h : EndsPromoted pod t) (t' : Trace) : EndsPromoted pod (t' ++ t) := by
  obtain ⟨t0, t1, r, now, ev, hclear, rfl⟩ := h
  exact ⟨t' ++ t0, t1, r, now, ev, hclear, (append_assoc _ _ _).symm⟩

theorem endsPromoted_of_mem (t0 : Trace) {t1 : Trace} {pod' : String}
    {r : Option Error} {now : Time} {ev : Ev} (hcalm : ∀ e ∈ t0, ¬ Promotes e)
    (hclear : (clearMasterAuth pod').Runs t1 r)
    (hpod : ⟨.noOne pod, .ok ()⟩ ∈
      t0 ++ ⟨.noOne pod', .ok ()⟩ :: (t1 ++ [⟨.now, now⟩, ⟨.event ev, ()⟩])) :
    EndsPromoted pod (t0 ++ ⟨.noOne pod', .ok ()⟩ :: (t1 ++ [⟨.now, now⟩, ⟨.event ev, ()⟩])) := by
  have hpromotes : Promotes ⟨.noOne pod, .ok ()⟩ := ⟨pod, rfl⟩
  have hasks := (clearMasterAuth_asks pod').mem hclear
  rcases mem_append.1 hpod with hmem | hmem
  · exact absurd hpromotes (hcalm _ hmem)
  rcases mem_cons.1 hmem with heq | hmem
  · cases heq
    exact ⟨t0, t1, r, now, ev, hclear, rfl⟩
  rcases mem_append.1 hmem with hmem | hmem
  · exact absurd hpromotes (hasks _ hmem).prior.early.not_promotes
  · simp at hmem

theorem Ending.endsPromoted {pod' : String} {info : ReplicationInfo} (h : Ending pod' info t out)
    (hpod : ⟨.noOne pod, .ok ()⟩ ∈ t) : EndsPromoted pod t := by
  have hpromotes : Promotes ⟨.noOne pod, .ok ()⟩ := ⟨pod, rfl⟩
  cases h with
  | waits hcalm => exact absurd hpromotes (hcalm _ hpod).not_promotes
  | refused _ hcalm =>
    rcases mem_append.1 hpod with hmem | hmem
    · exact absurd hpromotes (hcalm _ hmem).not_promotes
    · simp at hmem
  | promoted _ hcalm hclear =>
    exact endsPromoted_of_mem _ (fun e he => (hcalm e he).not_promotes) hclear hpod

theorem FinalRun.endsPromoted {prev : ExternalImportStatus} (h : FinalRun prev t out)
    (hpod : ⟨.noOne pod, .ok ()⟩ ∈ t) : EndsPromoted pod t := by
  cases h with
  | forgets => simp at hpod
  | keeps hdeclined => exact absurd (hdeclined _ hpod) id
  | promoted hclear => exact endsPromoted_of_mem [_] (by simp [Promotes]) hclear hpod

/-- **A promotion is followed by the reset of the credentials**, in an import and in a cutover. -/
theorem ensure_promoted (h : (ensure F opts).Runs t out) (hpod : ⟨.noOne pod, .ok ()⟩ ∈ t) :
    EndsPromoted pod t := by
  have hpromotes : Promotes ⟨.noOne pod, .ok ()⟩ := ⟨pod, rfl⟩
  cases hspec : opts.spec with
  | none =>
    unfold ensure at h
    rw [hspec] at h
    exact (finalizeImport_run h).endsPromoted hpod
  | some spec =>
    obtain ⟨t0, t1, rfl, hearly, hrest⟩ := ensure_attach hspec h
    have hmem : ⟨.noOne pod, .ok ()⟩ ∈ t1 := by
      rcases mem_append.1 hpod with hmem | hmem
      · exact absurd hpromotes (hearly _ hmem).not_promotes
      · exact hmem
    rcases hrest with ⟨rfl, -⟩ | ⟨cfg, pod', status, -, hstate, hattach⟩
    · simp at hmem
    · refine EndsPromoted.append ?_ t0
      cases hattach with
      | noInfo | unreachable | refused => simp at hmem
      | found _ hstart =>
        simp only [mem_cons, reduceCtorEq, Event.mk.injEq, false_and, false_or] at hmem
        exact ((hstart.ending hstate).endsPromoted hmem).append [_]
      | attaches _ hstart =>
        simp only [mem_cons, reduceCtorEq, Event.mk.injEq, false_and, false_or] at hmem
        exact ((hstart.ending hstate).endsPromoted hmem).append [_, _, _]

theorem EndsPromoted.live (h : EndsPromoted pod t) (hset : ∀ e ∈ t, ConfigSetOk e)
    (live : LiveConfig) :
    configWorld.after live t pod "masterauth" = "" ∧
      configWorld.after live t pod "masteruser" = "" := by
  obtain ⟨t0, t1, r, now, ev, hclear, rfl⟩ := h
  obtain ⟨r1, t2, rfl, h1⟩ := runs_asked.1 hclear
  have hauth : r1 = .ok () := hset ⟨.configSet pod "masterauth" "", r1⟩ (by simp)
  subst hauth
  obtain ⟨r2, t3, rfl, h2⟩ := runs_asked.1 h1
  have huser : r2 = .ok () := hset ⟨.configSet pod "masteruser" "", r2⟩ (by simp)
  subst huser
  obtain ⟨rfl, -⟩ := runs_ret.1 h2
  simp [configWorld]

/-! ### The cluster's credentials -/

theorem effectiveRedisConfig_masterauth {cr : KeyValCluster} (hauth : sec.authEnabled = true) :
    Map.str (Resources.effectiveRedisConfig cr sec) "masterauth" = sec.password := by
  unfold Resources.effectiveRedisConfig
  simp only [hauth, if_true]
  split_ifs <;> simp

theorem effectiveRedisConfig_masteruser {cr : KeyValCluster} (hauth : sec.authEnabled = true) :
    Map.str (Resources.effectiveRedisConfig cr sec) "masteruser" =
      if sec.username ≠ "" then sec.username else Map.str cr.spec.redisConfig "masteruser" := by
  have hdefaults : "masteruser" ∉ ((((∅ : Map String).insert "port" "6379").insert "dir"
      "/data").insert "save" "\"\"").insert "appendonly" "yes" := by decide
  unfold Resources.effectiveRedisConfig
  simp only [hauth, if_true]
  split_ifs <;> simp [Map.str_union_of_notMem hdefaults]

/-- **The replication credentials after an import**: when every `CONFIG SET` succeeds, the promoted
pod has those of the cluster's configuration exactly when they are empty. -/
theorem credentialsRestored_iff (hauth : sec.authEnabled = true) (h : (ensure F opts).Runs t out)
    (hpod : ⟨.noOne pod, .ok ()⟩ ∈ t) (hset : ∀ e ∈ t, ConfigSetOk e) (live : LiveConfig) :
    (∀ key ∈ ["masterauth", "masteruser"], configWorld.after live t pod key =
        Map.str (Resources.effectiveRedisConfig opts.cluster sec) key) ↔
      sec.password = "" ∧ sec.username = "" ∧
        Map.str opts.cluster.spec.redisConfig "masteruser" = "" := by
  obtain ⟨hliveAuth, hliveUser⟩ := (ensure_promoted h hpod).live hset live
  rw [forall_mem_cons, forall_mem_singleton, hliveAuth, hliveUser,
    effectiveRedisConfig_masterauth hauth, effectiveRedisConfig_masteruser hauth]
  split
  · next hname => simp [hname, Ne.symm hname]
  · next hname =>
    rw [not_not] at hname
    rw [eq_comm, eq_comm (a := ""), and_iff_right hname]

/-- The pod is in sync with the source. -/
def inSyncA : ImportCall .decimal sourceA := firstCall (RedisState.replica "source" 6379).info

theorem inSyncA_configSetOk : ∀ e ∈ inSyncA.trace, ConfigSetOk e := by
  rintro ⟨q, rep⟩ he
  obtain rfl : rep = importable _ q := answer_rep _ _ _ he
  cases q with
  | configSet pod key value => rfl
  | _ => trivial

theorem inSyncA_promoted : ⟨.noOne "a-0", .ok ()⟩ ∈ inSyncA.trace :=
  .tail _ (.tail _ (.tail _ (.tail _ (.tail _ (.tail _ (.tail _ (.tail _ (.head _))))))))

/-- A cluster with an empty password and no user needs no credentials. -/
theorem credentialsRestored_empty :
    IsCompleted inSyncA.outcome ∧ ∀ key ∈ ["masterauth", "masteruser"],
      configWorld.after (fun _ _ => "") inSyncA.trace "a-0" key =
        Map.str (Resources.effectiveRedisConfig inSyncA.opts.cluster { authEnabled := true }) key :=
  ⟨⟨_, rfl, rfl⟩,
    (credentialsRestored_iff rfl inSyncA.runs inSyncA_promoted inSyncA_configSetOk _).2
    ⟨rfl, rfl, by decide⟩⟩

/-- **After the import the pod cannot replicate from its peers**: the password of the cluster is
gone. -/
theorem credentials_lost : IsCompleted inSyncA.outcome ∧ ⟨.noOne "a-0", .ok ()⟩ ∈ inSyncA.trace ∧
    (∀ e ∈ inSyncA.trace, ConfigSetOk e) ∧
    configWorld.after (fun _ _ => "secret") inSyncA.trace "a-0" "masterauth" = "" ∧
    Map.str (Resources.effectiveRedisConfig inSyncA.opts.cluster
      { authEnabled := true, password := "secret" }) "masterauth" = "secret" :=
  ⟨⟨_, rfl, rfl⟩, inSyncA_promoted, inSyncA_configSetOk, rfl, by decide⟩

end Keyval.Importer
