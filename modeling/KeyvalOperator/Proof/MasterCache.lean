import KeyvalOperator.Lib.Transition
import KeyvalOperator.Ops.MasterCache
import KeyvalOperator.Proof.Recovery

/-!
# The age of a cached master

Runs of Runtime phases of any clusters against one master cache, with a clock reading for each
event. After a topology without drift the phase remembers the master, also when the master came from
the cache, so that a hit renews the entry.

* `runtime_stores`: what a phase asks of the cache: first lookups, then writes of its own master.
* `CacheStep.stores`: a phase that some reply disturbs stores only what it established itself.
* `masterCache_bounded`: **in a run of such phases a cached master is at most one TTL old**.
-/

namespace Keyval

open Go Interact Interact.Prog Transition List

variable {entry : CacheEntry} {ttl : Duration} {q : Req} {n : Nat}

namespace Replication

variable {res res' : EnsureResult} {opts : EnsureOptions} {t : Trace}

/-! ## Passes that find everything in place -/

section
variable (cr : KeyValCluster) (pods : List Pod) (opts : EnsureOptions) (m : String)

/-- A reply that makes a pass for the master `m` fail or send a command: no client for a pod, a
master that does not report its role, or a replica that does not look aligned. -/
def OutOfPlace : Event Op → Prop
  | ⟨.redisForPod _, .error _⟩ => True
  | ⟨.replicationInfo pod, .ok info⟩ =>
    if pod = m then info.role ≠ "master" else looksAligned cr pods opts m info = false
  | ⟨.replicationInfo pod, .error _⟩ => pod ≠ m
  | _ => False

/-- The request reads nothing of a pod's Redis. -/
def Unjudged : Req → Prop
  | .redisForPod _ | .replicationInfo _ => False
  | _ => True

end

section
variable {cr : KeyValCluster} {pods : List Pod} {m : String}

theorem Unjudged.inPlace {e : Event Op} (h : Unjudged e.req) : ¬ OutOfPlace cr pods opts m e := by
  obtain ⟨q, r⟩ := e
  cases q <;> first | exact h.elim | exact id

theorem alignReplica_drift {pod : String}
    (h : (alignReplica cr pods opts m res pod).Runs t (res', none)) : res'.drift ≠ [] := by
  obtain ⟨t1, r, t2, rfl, h1, h2⟩ := runs_bind.1 h
  cases r with
  | error e => cases (runs_ret.1 h2).2
  | ok u =>
    obtain ⟨t3, ⟨info, waitErr⟩, t4, rfl, h3, h4⟩ := runs_bind.1 h2
    obtain ⟨-, hres⟩ := runs_ret.1 h4
    obtain ⟨rfl, -⟩ := Prod.mk.inj hres
    simp [EnsureResult.addReplica]

theorem ensureMaster_inPlace {pod : String} {reply : Result ReplicationInfo}
    (h : (ensureMaster res pod reply).Runs t (res', none)) (hdrift : res'.drift = []) :
    res.drift = [] ∧ t = [] ∧ ∀ info, reply = .ok info → info.role = "master" := by
  unfold ensureMaster at h
  cases reply with
  | error e =>
    -- a failed `INFO` counts as a master
    rw [if_pos rfl] at h
    obtain ⟨rfl, hres⟩ := runs_ret.1 h
    obtain ⟨rfl, -⟩ := Prod.mk.inj hres
    exact ⟨hdrift, rfl, nofun⟩
  | ok info =>
    dsimp only at h
    split at h
    · next hrole =>
      obtain ⟨rfl, hres⟩ := runs_ret.1 h
      obtain ⟨rfl, -⟩ := Prod.mk.inj hres
      refine ⟨hdrift, rfl, fun info' heq => ?_⟩
      cases heq
      exact hrole
    · obtain ⟨t1, r, t2, rfl, -, h2⟩ := runs_bind.1 h
      cases r with
      | error e => cases (runs_ret.1 h2).2
      | ok u =>
        obtain ⟨-, hres⟩ := runs_ret.1 h2
        obtain ⟨rfl, -⟩ := Prod.mk.inj hres
        simp at hdrift

theorem ensurePod_inPlace {p : Pod} (h : (ensurePod cr pods opts m res p).Runs t (res', none))
    (hdrift : res'.drift = []) : res.drift = [] ∧ ∀ e ∈ t, ¬ OutOfPlace cr pods opts m e := by
  unfold ensurePod at h
  simp only [bind_eq, pure_eq, ask_eq, call_bind, ret_bind] at h
  obtain ⟨r, t1, rfl, h1⟩ := runs_call.1 h
  cases r with
  | error e => cases (runs_ret.1 h1).2
  | ok u =>
    obtain ⟨t2, r, t3, rfl, h2, h3⟩ := runs_bind.1 h1
    have hauth : ∀ e ∈ t2, ¬ OutOfPlace cr pods opts m e := fun e he => Unjudged.inPlace
      ((maybeAuth_asks (P := Unjudged) p.name opts trivial fun _ => trivial).mem h2 e he)
    cases r with
    | error e => cases (runs_ret.1 h3).2
    | ok u' =>
      obtain ⟨reply, t4, rfl, h4⟩ := runs_call.1 h3
      -- the reply to `INFO` decides between no command and a drift
      suffices hlast : res.drift = [] ∧ t4 = [] ∧
          ¬ OutOfPlace cr pods opts m ⟨.replicationInfo p.name, reply⟩ by
        obtain ⟨hres, rfl, hreply⟩ := hlast
        refine ⟨hres, ?_⟩
        simp only [forall_mem_cons, forall_mem_append]
        exact ⟨id, hauth, hreply, forall_mem_nil _⟩
      by_cases hm : p.name = m
      · rw [if_pos hm] at h4
        obtain ⟨hres, ht, hrole⟩ := ensureMaster_inPlace h4 hdrift
        refine ⟨hres, ht, ?_⟩
        cases reply with
        | error e => exact fun hne => hne hm
        | ok info =>
          show ¬ if p.name = m then info.role ≠ "master" else _
          rw [if_pos hm]
          exact fun hne => hne (hrole info rfl)
      · rw [if_neg hm] at h4
        unfold ensureReplica at h4
        cases reply with
        | error e => exact absurd hdrift (alignReplica_drift h4)
        | ok info =>
          dsimp only at h4
          split at h4
          · next haligned =>
            obtain ⟨rfl, hres⟩ := runs_ret.1 h4
            obtain ⟨rfl, -⟩ := Prod.mk.inj hres
            refine ⟨hdrift, rfl, ?_⟩
            show ¬ if p.name = m then info.role ≠ "master" else _
            rw [if_neg hm, haligned]
            exact nofun
          · exact absurd hdrift (alignReplica_drift h4)

/-- **A pass without error and without drift found every pod in its place.** -/
theorem ensureWithMaster_inPlace {res : EnsureResult} (hm : ∃ p ∈ pods, p.name = m)
    (h : (ensureWithMaster cr pods m opts).Runs t (res, none)) (hdrift : res.drift = []) :
    ∀ e ∈ t, ¬ OutOfPlace cr pods opts m e := by
  unfold ensureWithMaster at h
  rw [designated_of_mem hm] at h
  split_ifs at h
  · cases (runs_ret.1 h).2
  · refine h.forErr_inv (I := fun _ t res => res.drift = [] →
      ∀ e ∈ t, ¬ OutOfPlace cr pods opts m e) (fun _ => forall_mem_nil _) ?_ hdrift
    intro done p t0 s t1 s1 _ _ hI hrun hdrift
    obtain ⟨hs, hplace⟩ := ensurePod_inPlace hrun hdrift
    exact forall_mem_append.2 ⟨hI hs, hplace⟩

end

/-! ## Requests to the cache -/

/-- The source says that the master does not come from the cache. -/
def EnsureSource.Fresh (source : EnsureSource) : Prop :=
  source = .sentinel ∨ source = .probe ∨ source = .forced

/-- The request stores no master. -/
def NoRemember : Req → Prop
  | .cacheRemember .. => False
  | _ => True

/-- A request that does not read the cache, and stores nothing but the master `m` of the key. -/
def WriteReq (key : MasterCacheKey) (m : String) : Req → Prop
  | .cacheLookup .. => False
  | .cacheRemember ns name master _ => ⟨ns, name⟩ = key ∧ master = m
  | _ => True

theorem noRemember_of_noCache (h : NoCache q) : NoRemember q := by
  cases q <;> first | exact h.elim | trivial

theorem writeReq_of_noCache {key : MasterCacheKey} {m : String} (h : NoCache q) :
    WriteReq key m q := by
  cases q <;> first | exact h.elim | trivial

/-- After the event the cache has no entry. -/
def Clears (key : MasterCacheKey) : Event Op → Prop
  | ⟨.cacheLookup ns name, none⟩ => ⟨ns, name⟩ = key
  | ⟨.cacheInvalidate ns name, _⟩ => ⟨ns, name⟩ = key
  | _ => False

section
variable {req : EnsureRequest} {err : Option Error}

theorem CacheRun.noRemember {r : Option EnsureResult} (h : CacheRun req opts t r) :
    ∀ e ∈ t, NoRemember e.req := by
  cases h with
  | unused _ => exact forall_mem_nil _
  | miss _ => exact forall_mem_singleton.2 trivial
  | unlisted _ _ => exact forall_mem_cons.2 ⟨trivial, forall_mem_singleton.2 trivial⟩
  | hit _ _ hpass =>
    refine forall_mem_cons.2 ⟨trivial, fun e he => ?_⟩
    exact noRemember_of_noCache ((ensureWithMaster_noCache _ _ _ _).mem hpass e he)
  | failed _ _ hpass =>
    refine forall_mem_cons.2 ⟨trivial, forall_mem_append.2
      ⟨fun e he => ?_, forall_mem_singleton.2 trivial⟩⟩
    exact noRemember_of_noCache ((ensureWithMaster_noCache _ _ _ _).mem hpass e he)

theorem CacheRun.clears (h : CacheRun req opts t none) (hcache : req.masterCache = true) :
    ∃ e ∈ t, Clears (cacheKeyForCluster req.cluster) e := by
  cases h with
  | unused hnone =>
    rw [hcache] at hnone
    cases hnone
  | miss _ => exact ⟨_, .head _, rfl⟩
  | unlisted _ _ => exact ⟨_, .tail _ (.head _), rfl⟩
  | failed _ _ _ =>
    exact ⟨_, .tail _ (mem_append_right _ (.head _)), rfl⟩

theorem remember_writes {master detail : String} {u : Unit} {t1 t2 : Trace}
    (ht1 : ∀ e ∈ t1, NoCache e.req) (h : (remember req master detail err).Runs t2 u) {m : String}
    (hm : err = none → master = m) :
    (∀ e ∈ t1 ++ t2, WriteReq (cacheKeyForCluster req.cluster) m e.req) ∧
      (err ≠ none → ∀ e ∈ t1 ++ t2, NoRemember e.req) := by
  unfold remember at h
  split at h
  · next hstore =>
    have hnone : err = none := by simpa using hstore.1
    obtain ⟨r, t', rfl, h'⟩ := runs_call.1 h
    obtain ⟨rfl, -⟩ := runs_ret.1 h'
    refine ⟨forall_mem_append.2 ⟨fun e he => writeReq_of_noCache (ht1 e he), ?_⟩,
      fun hne => absurd hnone hne⟩
    exact forall_mem_singleton.2 ⟨rfl, hm hnone⟩
  · obtain ⟨rfl, -⟩ := runs_ret.1 h
    rw [append_nil]
    exact ⟨fun e he => writeReq_of_noCache (ht1 e he), fun _ e he =>
      noRemember_of_noCache (ht1 e he)⟩

theorem ensureForced_writes (h : (ensureForced req req.options).Runs t (res, err)) :
    res.source.Fresh ∧ (∀ e ∈ t, WriteReq (cacheKeyForCluster req.cluster) res.master e.req) ∧
      (err ≠ none → ∀ e ∈ t, NoRemember e.req) := by
  obtain ⟨t1, ⟨result, err⟩, t2, rfl, h1, h2⟩ := runs_bind.1 h
  obtain ⟨t3, u, t4, rfl, h3, h4⟩ := runs_bind.1 h2
  obtain ⟨rfl, hres⟩ := runs_ret.1 h4
  obtain ⟨rfl, rfl⟩ := Prod.mk.inj hres
  rw [append_nil]
  exact ⟨.inr (.inr rfl), remember_writes ((ensureWithMaster_noCache _ _ _ _).mem h1) h3
    fun _ => rfl⟩

theorem ensureResolved_writes (h : (ensureResolved req req.options).Runs t (res, err)) :
    res.source.Fresh ∧ (∀ e ∈ t, WriteReq (cacheKeyForCluster req.cluster) res.master e.req) ∧
      (err ≠ none → ∀ e ∈ t, NoRemember e.req) := by
  obtain ⟨t1, r, t2, rfl, h1, h2⟩ := runs_bind.1 h
  have ht1 : ∀ e ∈ t1, NoCache e.req := fun e he =>
    ((masterFromSentinel_asks req).mem h1 e he).noCache
  cases r with
  | ok nd =>
    obtain ⟨name, detail⟩ := nd
    obtain ⟨t3, ⟨result, err⟩, t4, rfl, h3, h4⟩ := runs_bind.1 h2
    obtain ⟨t5, u, t6, rfl, h5, h6⟩ := runs_bind.1 h4
    obtain ⟨rfl, hres⟩ := runs_ret.1 h6
    obtain ⟨rfl, rfl⟩ := Prod.mk.inj hres
    rw [append_nil, ← append_assoc]
    refine ⟨.inl rfl, remember_writes (forall_mem_append.2
      ⟨ht1, (ensureWithMaster_noCache _ _ _ _).mem h3⟩) h5 ?_⟩
    rintro rfl
    rw [ensureWithMaster_master h3]
    exact (if_neg (masterFromSentinel_ne h1)).symm
  | error failure =>
    obtain ⟨t3, ⟨result, err⟩, t4, rfl, h3, h4⟩ := runs_bind.1 h2
    obtain ⟨t5, u, t6, rfl, h5, h6⟩ := runs_bind.1 h4
    obtain ⟨rfl, hres⟩ := runs_ret.1 h6
    obtain ⟨rfl, rfl⟩ := Prod.mk.inj hres
    have ht3 : ∀ e ∈ t3, NoCache e.req := by
      refine Asks.mem ?_ h3
      unfold ensureByProbe
      refine (detectRoles_asks _ _ trivial (fun _ => trivial) (fun _ _ => trivial)
        fun _ => trivial).bind fun r => ?_
      cases r with
      | error e => exact .ret _
      | ok mr => exact ensureWithMaster_noCache _ _ _ _
    rw [append_nil, ← append_assoc]
    exact ⟨.inr (.inl rfl), remember_writes (forall_mem_append.2 ⟨ht1, ht3⟩) h5 fun _ => rfl⟩

theorem ensureTopology_failed {F : Formats} {e : Error}
    (h : (ensureTopology F req).Runs t (res, some e)) :
    (∀ e ∈ t, NoRemember e.req) ∧ (req.factory = true → req.redisPods ≠ [] →
      req.security.bind (clientTLSConfig F) = none → req.masterCache = true →
      ∃ e ∈ t, Clears (cacheKeyForCluster req.cluster) e) := by
  by_cases hready : req.factory = true ∧ req.redisPods ≠ [] ∧
      req.security.bind (clientTLSConfig F) = none
  swap
  · refine ⟨?_, fun hfac hpods htls => absurd ⟨hfac, hpods, htls⟩ hready⟩
    unfold ensureTopology at h
    split at h
    · obtain ⟨rfl, -⟩ := runs_ret.1 h
      exact forall_mem_nil _
    next hfac =>
    split at h
    · obtain ⟨rfl, -⟩ := runs_ret.1 h
      exact forall_mem_nil _
    next hpods =>
    split at h
    · obtain ⟨rfl, -⟩ := runs_ret.1 h
      exact forall_mem_nil _
    · next htls => exact absurd ⟨not_not.1 hfac, hpods, htls⟩ hready
  obtain ⟨hfac, hpods, htls⟩ := hready
  rcases ensureTopology_cases h hfac hpods htls with ⟨result, -, hres⟩ | ⟨t1, t2, rfl, h1, h2⟩
  · cases hres
  have hcache := ensureFromCache_run h1
  have hchosen : ∀ e ∈ t2, NoRemember e.req := by
    split_ifs at h2
    · exact (ensureForced_writes h2).2.2 nofun
    · exact (ensureResolved_writes h2).2.2 nofun
  refine ⟨forall_mem_append.2 ⟨hcache.noRemember, hchosen⟩, fun _ _ _ hused => ?_⟩
  obtain ⟨e, he, hclears⟩ := hcache.clears hused
  exact ⟨e, mem_append_left _ he, hclears⟩

theorem ensureTopology_stores {F : Formats} (h : (ensureTopology F req).Runs t (res, none)) :
    CacheRun req req.options t (some res) ∨ res.source.Fresh ∧ ∃ t1 t2, t = t1 ++ t2 ∧
      (∀ e ∈ t1, NoRemember e.req) ∧
      ∀ e ∈ t2, WriteReq (cacheKeyForCluster req.cluster) res.master e.req := by
  obtain ⟨hfac, hpods, htls⟩ := ensureTopology_ready h
  rcases ensureTopology_cases h hfac hpods htls with ⟨result, hcache, hres⟩ | ⟨t1, t2, rfl, h1, h2⟩
  · obtain ⟨rfl, -⟩ := Prod.mk.inj hres
    exact .inl (ensureFromCache_run hcache)
  · have hchosen : res.source.Fresh ∧
        ∀ e ∈ t2, WriteReq (cacheKeyForCluster req.cluster) res.master e.req := by
      split_ifs at h2
      · exact ⟨(ensureForced_writes h2).1, (ensureForced_writes h2).2.1⟩
      · exact ⟨(ensureResolved_writes h2).1, (ensureResolved_writes h2).2.1⟩
    exact .inr ⟨hchosen.1, t1, t2, rfl, (ensureFromCache_run h1).noRemember, hchosen.2⟩

end

end Replication

namespace Phases

open Replication

variable {x : Time × Event Op} {cand : Bootstrap.Candidate} {F : Formats}
  {c c' : MasterAddressCache}

/-! ## The phase and the cache -/

/-- After the events `u0` the phase finds the master `m` in the cache, and every pod in its place. A
lookup that is not the first comes after the entry was cleared. -/
def QuietHit (st : State) (t : Trace) (m : String) : Prop :=
  ∃ u0 detail u, t = u0 ++ ⟨.cacheLookup st.cluster.ns st.cluster.name, some (m, detail)⟩ :: u ∧
    hasRedisPod st.redisPods m = true ∧ (∀ e ∈ u0, NoRemember e.req) ∧
    (u0 = [] ∨ ∃ e ∈ u0, Clears (cacheKeyForCluster st.cluster) e) ∧
    ∀ e ∈ u, ¬ OutOfPlace st.cluster st.redisPods (topologyRequest st).options m e

section
variable {st : State} {t : Trace} {res : EnsureResult}

/-- A call that takes the cached master and finds no drift. -/
theorem quietHit_of_cacheRun {force reason : String} {u0 u : Trace}
    (h : CacheRun { topologyRequest st with forceMaster := force, forceReason := reason }
      (topologyRequest st).options u (some res)) (hdrift : res.drift = [])
    (hu0 : ∀ e ∈ u0, NoRemember e.req)
    (hfirst : st.masterCache = true →
      u0 = [] ∨ ∃ e ∈ u0, Clears (cacheKeyForCluster st.cluster) e) :
    QuietHit st (u0 ++ u) res.master := by
  cases h with
  | hit hcache hlisted hpass =>
    have hmaster := ensureWithMaster_master hpass
    rw [designated_of_mem (hasRedisPod_mem hlisted)] at hmaster
    subst hmaster
    exact ⟨u0, _, _, rfl, hlisted, hu0, hfirst hcache,
      ensureWithMaster_inPlace (hasRedisPod_mem hlisted) hpass hdrift⟩

theorem QuietHit.append {t' : Trace} {m : String} (h : QuietHit st t m)
    (ht' : ∀ e ∈ t', Unjudged e.req) : QuietHit st (t ++ t') m := by
  obtain ⟨u0, detail, u, rfl, hlisted, hu0, hfirst, hplace⟩ := h
  exact ⟨u0, detail, u ++ t', by simp, hlisted, hu0, hfirst,
    forall_mem_append.2 ⟨hplace, fun e he => (ht' e he).inPlace⟩⟩

theorem ensureOrBootstrap_run {req : EnsureRequest} {err : Option Error}
    (h : (ensureOrBootstrap F req n).Runs t (res, err, cand)) :
    (∃ t1 t2, t = t1 ++ t2 ∧ (ensureTopology F req).Runs t1 (res, err) ∧
      (∀ e ∈ t2, NoCache e.req) ∧ (err = none → t2 = [])) ∨
    ∃ t1 t2 t3 res1 e, t = t1 ++ t2 ++ t3 ∧ (ensureTopology F req).Runs t1 (res1, some e) ∧
      (∀ e ∈ t2, NoCache e.req) ∧
      (ensureTopology F { req with forceMaster := cand.name, forceReason := cand.source }).Runs t3
        (res, err) := by
  obtain ⟨t1, ⟨res1, err1⟩, t2, rfl, h1, h2⟩ := runs_bind.1 h
  dsimp only at h2
  split at h2
  swap
  · obtain ⟨rfl, heq⟩ := runs_ret.1 h2
    cases heq
    exact .inl ⟨t1, [], rfl, h1, forall_mem_nil _, fun _ => rfl⟩
  next hboot =>
  obtain ⟨e, rfl⟩ := Option.isSome_iff_exists.1 hboot.1
  obtain ⟨t3, cand', t4, rfl, h3, h4⟩ := runs_bind.1 h2
  have hclaims : ∀ e ∈ t3, NoCache e.req :=
    (selectCandidate_asks F _ _ fun _ _ => trivial).mem h3
  split at h4
  · obtain ⟨t5, ⟨res2, err2⟩, t6, rfl, h5, h6⟩ := runs_bind.1 h4
    obtain ⟨rfl, heq⟩ := runs_ret.1 h6
    cases heq
    rw [append_nil, ← append_assoc]
    exact .inr ⟨t1, t3, t5, res1, e, rfl, h1, hclaims, h5⟩
  · obtain ⟨rfl, heq⟩ := runs_ret.1 h4
    cases heq
    rw [append_nil]
    exact .inl ⟨t1, t3, rfl, h1, hclaims, nofun⟩

theorem ensureOrBootstrap_stores
    (h : (ensureOrBootstrap F (topologyRequest st) n).Runs t (res, none, cand)) :
    (∀ e ∈ t, NoRemember e.req) ∧ (res.drift = [] → QuietHit st t res.master) ∨
      res.source.Fresh ∧ ∃ t1 t2, t = t1 ++ t2 ∧ (∀ e ∈ t1, NoRemember e.req) ∧
        ∀ e ∈ t2, WriteReq (cacheKeyForCluster st.cluster) res.master e.req := by
  rcases ensureOrBootstrap_run h with ⟨t1, t2, rfl, h1, -, hnil⟩ |
      ⟨t1, t2, t3, res1, e, rfl, h1, hclaims, h3⟩
  · rw [hnil rfl, append_nil]
    refine (ensureTopology_stores h1).imp_left fun hhit => ⟨hhit.noRemember, fun hdrift => ?_⟩
    exact quietHit_of_cacheRun hhit hdrift (forall_mem_nil _) fun _ => .inl rfl
  -- the first call failed, and cleared the entry if it used the cache
  obtain ⟨hno1, hclears⟩ := ensureTopology_failed h1
  have hno : ∀ e ∈ t1 ++ t2, NoRemember e.req := forall_mem_append.2
    ⟨hno1, fun e he => noRemember_of_noCache (hclaims e he)⟩
  obtain ⟨hfac, hpods, htls⟩ := ensureTopology_ready h3
  rcases ensureTopology_stores h3 with hhit | ⟨hfresh, u1, u2, rfl, hreads, hwrites⟩
  · refine .inl ⟨forall_mem_append.2 ⟨hno, hhit.noRemember⟩, fun hdrift => ?_⟩
    refine quietHit_of_cacheRun hhit hdrift hno fun hcache => .inr ?_
    obtain ⟨e, he, hclear⟩ := hclears hfac hpods htls hcache
    exact ⟨e, mem_append_left _ he, hclear⟩
  · refine .inr ⟨hfresh, t1 ++ t2 ++ u1, u2, (append_assoc _ _ _).symm, ?_, hwrites⟩
    exact forall_mem_append.2 ⟨hno, hreads⟩

theorem ensureOrBootstrap_failed {e : Error}
    (h : (ensureOrBootstrap F (topologyRequest st) n).Runs t (res, some e, cand)) :
    ∀ e ∈ t, NoRemember e.req := by
  rcases ensureOrBootstrap_run h with ⟨t1, t2, rfl, h1, hclaims, -⟩ |
      ⟨t1, t2, t3, res1, e, rfl, h1, hclaims, h3⟩
  · exact forall_mem_append.2 ⟨(ensureTopology_failed h1).1, fun e he =>
      noRemember_of_noCache (hclaims e he)⟩
  · simp only [forall_mem_append]
    exact ⟨⟨(ensureTopology_failed h1).1, fun e he => noRemember_of_noCache (hclaims e he)⟩,
      (ensureTopology_failed h3).1⟩

theorem updateCache_stores {st0 : State} {u : Unit} (h : (updateCache st0 res).Runs t u) :
    (res.drift ≠ [] → ∀ e ∈ t, NoRemember e.req) ∧
      ∀ e ∈ t, WriteReq (cacheKeyForCluster st0.cluster) res.master e.req ∧ Unjudged e.req := by
  unfold updateCache at h
  split at h
  · obtain ⟨rfl, -⟩ := runs_ret.1 h
    exact ⟨fun _ => forall_mem_nil _, forall_mem_nil _⟩
  split at h
  · obtain ⟨_, _, rfl, h1⟩ := runs_call.1 h
    obtain ⟨rfl, -⟩ := runs_ret.1 h1
    exact ⟨fun _ => forall_mem_singleton.2 trivial, forall_mem_singleton.2 ⟨trivial, trivial⟩⟩
  next hdrift =>
  split at h
  · obtain ⟨_, _, rfl, h1⟩ := runs_call.1 h
    obtain ⟨rfl, -⟩ := runs_ret.1 h1
    exact ⟨fun hne => absurd hne hdrift, forall_mem_singleton.2 ⟨⟨rfl, rfl⟩, trivial⟩⟩
  · obtain ⟨rfl, -⟩ := runs_ret.1 h
    exact ⟨fun _ => forall_mem_nil _, forall_mem_nil _⟩

theorem settleTopology_stores {st0 : State} {err : Option Error}
    {r : State × TopologyState} (h : (settleTopology st0 res err cand).Runs t r) :
    (err ≠ none ∨ res.drift ≠ [] → ∀ e ∈ t, NoRemember e.req) ∧
      ∀ e ∈ t, WriteReq (cacheKeyForCluster st0.cluster) res.master e.req ∧ Unjudged e.req := by
  unfold settleTopology at h
  cases err with
  | some e =>
    obtain ⟨rfl, -⟩ := runs_ret.1 h
    exact ⟨fun _ => forall_mem_nil _, forall_mem_nil _⟩
  | none =>
    obtain ⟨t1, _, u1, rfl, h1, h2⟩ := runs_bind.1 h
    obtain ⟨t2, _, u2, rfl, h3, h4⟩ := runs_bind.1 h2
    obtain ⟨t3, _, u3, rfl, h5, h6⟩ := runs_bind.1 h4
    obtain ⟨rfl, -⟩ := runs_ret.1 h6
    have hevents {t : Trace} {c : Prop} [Decidable c] {ev : Ev} {u : Unit}
        (h : (event c ev).Runs t u) : ∀ e ∈ t, NoCache e.req ∧ Unjudged e.req :=
      (event_asks (P := fun q => NoCache q ∧ Unjudged q) c ⟨trivial, trivial⟩).mem h
    have hcache := updateCache_stores h5
    simp only [forall_mem_append]
    refine ⟨fun hor => ⟨fun e he => noRemember_of_noCache (hevents h1 e he).1, fun e he =>
      noRemember_of_noCache (hevents h3 e he).1, hcache.1 (hor.resolve_left fun hne => hne rfl),
      forall_mem_nil _⟩, fun e he => ?_, fun e he => ?_, hcache.2, forall_mem_nil _⟩
    · exact ⟨writeReq_of_noCache (hevents h1 e he).1, (hevents h1 e he).2⟩
    · exact ⟨writeReq_of_noCache (hevents h3 e he).1, (hevents h3 e he).2⟩

theorem ApplyReq.unjudged (h : ApplyReq q) : Unjudged q := by
  cases q <;> first | exact h.elim | trivial

theorem runtime_noFactory (F : Formats) {st : State} (hfac : ¬ st.clientFactory = true) :
    Asks ApplyReq (runtime F st) := by
  refine Issues.bind ?_ fun r => ?_
  · unfold runtimeTopology
    rw [if_neg]
    · exact .ret _
    · rw [State.requeueIf]
      split <;> exact hfac
  refine (Issues.foldlM _ fun p _ h => healthAt_asks _ _ _ _ h p).bind fun h => ?_
  refine .call trivial fun r _ => ?_
  exact (applySentinelRuntime_asks _).bind fun _ => .ret _

/-- **What a phase asks of the cache**: when it stores something, first lookups and then writes of
the master that it reports, which is fresh or comes from a quiet hit. -/
theorem runtime_stores {st' : State} (h : (runtime F st).Runs t (st', none)) :
    (∀ e ∈ t, NoRemember e.req) ∨
      (st'.runtime.topology.source.Fresh ∨ QuietHit st t st'.runtime.topology.master) ∧
        ∃ t1 t2, t = t1 ++ t2 ∧ (∀ e ∈ t1, NoRemember e.req) ∧ ∀ e ∈ t2,
          WriteReq (cacheKeyForCluster st.cluster) st'.runtime.topology.master e.req := by
  by_cases hfac : st.clientFactory = true
  swap
  · exact .inl fun e he => noRemember_of_noCache ((runtime_noFactory F hfac).mem h e he).noCache
  obtain ⟨t1, t2, t3, res, err, cand, hrun⟩ := runtime_split hfac h
  obtain ⟨st0, r, hcl, hset⟩ := hrun.report
  have htop := hrun.topology
  have hrest : ∀ e ∈ t3, NoCache e.req ∧ Unjudged e.req := fun e he =>
    ⟨(hrun.rest e he).noCache, (hrun.rest e he).unjudged⟩
  obtain ⟨hsettled, hreport⟩ := settleTopology_stores hset
  rw [hcl] at hreport
  have hnone (hor : err ≠ none ∨ res.drift ≠ []) : ∀ e ∈ t2 ++ t3, NoRemember e.req :=
    forall_mem_append.2 ⟨hsettled hor, fun e he => noRemember_of_noCache (hrest e he).1⟩
  have hwrites : ∀ e ∈ t2 ++ t3, WriteReq (cacheKeyForCluster st.cluster) res.master e.req :=
    forall_mem_append.2 ⟨fun e he => (hreport e he).1, fun e he =>
      writeReq_of_noCache (hrest e he).1⟩
  rw [hrun.events]
  cases err with
  | some e =>
    exact .inl (forall_mem_append.2 ⟨ensureOrBootstrap_failed htop, hnone (.inl nofun)⟩)
  | none =>
    have hfound : st'.runtime.topology = res := hrun.found
    rw [hfound]
    rcases ensureOrBootstrap_stores htop with ⟨hno, hquiet⟩ | ⟨hfresh, u1, u2, rfl, hreads, hstores⟩
    · by_cases hdrift : res.drift = []
      · refine .inr ⟨.inr ((hquiet hdrift).append ?_), t1, t2 ++ t3, rfl, hno, hwrites⟩
        exact forall_mem_append.2 ⟨fun e he => (hreport e he).2, fun e he => (hrest e he).2⟩
      · exact .inl (forall_mem_append.2 ⟨hno, hnone (.inr hdrift)⟩)
    · exact .inr ⟨.inl hfresh, u1, u2 ++ (t2 ++ t3), append_assoc _ _ _, hreads,
        forall_mem_append.2 ⟨hstores, hwrites⟩⟩

end

/-! ## The cache in time -/

/-- The cache answers an event, and changes with it, at the time of the event. Any entry may make
room for another. -/
def Serves (c : MasterAddressCache) (x : Time × Event Op) (c' : MasterAddressCache) : Prop :=
  match x with
  | (now, ⟨.cacheLookup ns name, r⟩) => c.lookup now ⟨ns, name⟩ = (r, c')
  | (now, ⟨.cacheRemember ns name master detail, _⟩) =>
    ∃ first, c' = c.remember now ⟨ns, name⟩ master detail first
  | (_, ⟨.cacheInvalidate ns name, _⟩) => c' = c.invalidate ⟨ns, name⟩
  | _ => c' = c

/-- The event stores the master. -/
def Stores (x : Time × Event Op) (key : MasterCacheKey) (master : String) : Prop :=
  ∃ detail, x.2.req = .cacheRemember key.ns key.name master detail

section
variable {key : MasterCacheKey} {now : Time} {xs : List (Time × Event Op)}

theorem lookup_of_erase {m : Finmap fun _ : MasterCacheKey => CacheEntry} {k : MasterCacheKey}
    (h : (m.erase key).lookup k = some entry) : m.lookup k = some entry := by
  by_cases hk : k = key
  · subst hk
    rw [Finmap.lookup_erase] at h
    cases h
  · rwa [Finmap.lookup_erase_ne hk] at h

theorem Serves.entries (h : Serves c x c') :
    c'.ttlDuration = c.ttlDuration ∧ ∀ k entry, c'.entries.lookup k = some entry →
      c.entries.lookup k = some entry ∨
        Stores x k entry.master ∧ entry.expires = x.1 + c.ttlDuration := by
  obtain ⟨now, q, r⟩ := x
  cases q with
  | cacheLookup ns name =>
    have h : c.lookup now ⟨ns, name⟩ = (r, c') := h
    unfold MasterAddressCache.lookup at h
    split at h
    · cases h
      exact ⟨rfl, fun k entry => .inl⟩
    · split at h
      · cases h
        exact ⟨rfl, fun k entry hk => .inl (lookup_of_erase hk)⟩
      · cases h
        exact ⟨rfl, fun k entry => .inl⟩
  | cacheRemember ns name master detail =>
    obtain ⟨first, rfl⟩ := h
    unfold MasterAddressCache.remember
    split
    · exact ⟨rfl, fun k entry => .inl⟩
    refine ⟨rfl, fun k entry hk => ?_⟩
    by_cases hkey : k = ⟨ns, name⟩
    · subst hkey
      rw [Finmap.lookup_insert] at hk
      cases hk
      exact .inr ⟨⟨detail, rfl⟩, rfl⟩
    · rw [Finmap.lookup_insert_of_ne _ hkey] at hk
      split at hk
      · exact .inl (lookup_of_erase hk)
      · exact .inl hk
  | cacheInvalidate ns name =>
    obtain rfl : c' = c.invalidate ⟨ns, name⟩ := h
    exact ⟨rfl, fun k entry hk => .inl (lookup_of_erase hk)⟩
  | _ =>
    obtain rfl : c' = c := h
    exact ⟨rfl, fun k entry => .inl⟩

theorem Serves.hit {ns name m detail : String}
    (h : Serves c (now, ⟨.cacheLookup ns name, some (m, detail)⟩) c') :
    ∃ entry, c.entries.lookup ⟨ns, name⟩ = some entry ∧ entry.master = m ∧ now ≤ entry.expires := by
  have h : c.lookup now ⟨ns, name⟩ = (some (m, detail), c') := h
  unfold MasterAddressCache.lookup at h
  split at h
  · cases h
  · next entry hentry =>
    split at h
    · cases h
    · next hvalid =>
      cases h
      exact ⟨entry, hentry, rfl, not_lt.1 hvalid⟩

theorem Serves.cleared (h : Serves c x c') (hx : Clears key x.2) :
    c'.entries.lookup key = none := by
  obtain ⟨now, q, r⟩ := x
  cases q with
  | cacheLookup ns name =>
    have h : c.lookup now ⟨ns, name⟩ = (r, c') := h
    cases r with
    | some md => exact hx.elim
    | none =>
      obtain rfl : (⟨ns, name⟩ : MasterCacheKey) = key := hx
      unfold MasterAddressCache.lookup at h
      split at h
      · next hnone =>
        cases h
        exact hnone
      · split at h
        · cases h
          exact Finmap.lookup_erase _ _
        · cases h
  | cacheInvalidate ns name =>
    obtain rfl : (⟨ns, name⟩ : MasterCacheKey) = key := hx
    obtain rfl : c' = c.invalidate ⟨ns, name⟩ := h
    exact Finmap.lookup_erase _ _
  | _ => exact hx.elim

theorem serves_entries (h : Steps Serves c xs c') :
    c'.ttlDuration = c.ttlDuration ∧ ∀ k entry, c'.entries.lookup k = some entry →
      c.entries.lookup k = some entry ∨
        ∃ x ∈ xs, Stores x k entry.master ∧ entry.expires = x.1 + c.ttlDuration := by
  induction h with
  | nil => exact ⟨rfl, fun k entry => .inl⟩
  | @snoc xs x c1 c2 _ hx ih =>
    obtain ⟨httl, hentries⟩ := hx.entries
    refine ⟨httl.trans ih.1, fun k entry hk => ?_⟩
    rcases hentries k entry hk with hk | ⟨hstores, hexp⟩
    · refine (ih.2 k entry hk).imp_right ?_
      rintro ⟨y, hy, hstored⟩
      exact ⟨y, mem_append_left _ hy, hstored⟩
    · exact .inr ⟨x, by simp, hstores, by rw [hexp, ih.1]⟩

theorem serves_shrinks (h : Steps Serves c xs c') (hno : ∀ x ∈ xs, NoRemember x.2.req)
    (hk : c'.entries.lookup key = some entry) :
    c.entries.lookup key = some entry := by
  refine ((serves_entries h).2 key entry hk).resolve_right ?_
  rintro ⟨x, hx, ⟨detail, hreq⟩, -⟩
  have hno := hno x hx
  rw [hreq] at hno
  exact hno

theorem serves_cleared (h : Steps Serves c xs c') (hno : ∀ x ∈ xs, NoRemember x.2.req) (hx : x ∈ xs)
    (hclears : Clears key x.2) : c'.entries.lookup key = none := by
  obtain ⟨xs1, xs2, rfl⟩ := append_of_mem hx
  obtain ⟨c1, c2, -, hserves, hrest⟩ := h.split
  have hnone := hserves.cleared hclears
  cases hk : c'.entries.lookup key with
  | none => rfl
  | some entry =>
    have hk2 := serves_shrinks hrest (fun y hy => hno y (by simp [hy])) hk
    rw [hnone] at hk2
    cases hk2

end

/-! ## Runs of phases -/

/-- A Runtime phase: the state it starts from, its events with their times, the state it leaves. -/
structure RuntimePass where
  before : State
  events : List (Time × Event Op)
  after : State

/-- The key of the cluster. -/
def RuntimePass.key (p : RuntimePass) : MasterCacheKey := cacheKeyForCluster p.before.cluster

/-- A phase with the cache before and after it. -/
def CacheStep (F : Formats) (c : MasterAddressCache) (p : RuntimePass) (c' : MasterAddressCache) :
    Prop :=
  (runtime F p.before).Runs (p.events.map Prod.snd) (p.after, none) ∧ Steps Serves c p.events c'

/-- The phase found the master by Sentinel, by probing or by force. -/
def Establishes (p : RuntimePass) (key : MasterCacheKey) (m : String) : Prop :=
  p.key = key ∧ p.after.runtime.topology.source.Fresh ∧ p.after.runtime.topology.master = m

/-- When the cache has an entry that the phase may use, some reply disturbs the pass for it. -/
def Disturbed (c : MasterAddressCache) (p : RuntimePass) : Prop :=
  ∀ entry, c.entries.lookup p.key = some entry →
    hasRedisPod p.before.redisPods entry.master = true →
    (∃ x ∈ p.events, x.1 ≤ entry.expires) →
    ∃ x ∈ p.events, OutOfPlace p.before.cluster p.before.redisPods
      (topologyRequest p.before).options entry.master x.2

/-- The cached masters of a phase were established by the earlier phases `ps` at most one TTL
before, and its entry does not live longer than before, unless the phase established the master
itself. -/
structure Bounded (ttl : Duration) (ps : List RuntimePass) (c : MasterAddressCache)
    (p : RuntimePass) (c' : MasterAddressCache) : Prop where
  recent : ∀ now m detail, (now, ⟨.cacheLookup p.before.cluster.ns p.before.cluster.name,
      some (m, detail)⟩) ∈ p.events →
    ∃ q ∈ ps, Establishes q p.key m ∧ ∃ x ∈ q.events, now ≤ x.1 + ttl
  kept : ∀ old new, c.entries.lookup p.key = some old → c'.entries.lookup p.key = some new →
    new.expires ≤ old.expires ∨ Establishes p p.key new.master

section
variable {p : RuntimePass}

theorem CacheStep.hit (h : CacheStep F c p c') {now : Time} {m detail : String}
    (hx : (now, ⟨.cacheLookup p.before.cluster.ns p.before.cluster.name, some (m, detail)⟩) ∈
      p.events) :
    ∃ entry, c.entries.lookup p.key = some entry ∧ entry.master = m ∧ now ≤ entry.expires := by
  obtain ⟨hrun, hserves⟩ := h
  -- nothing is stored before a lookup
  obtain ⟨xs1, xs2, hsplit, hno⟩ : ∃ xs1 xs2, p.events = xs1 ++ (now,
      ⟨.cacheLookup p.before.cluster.ns p.before.cluster.name, some (m, detail)⟩) :: xs2 ∧
      ∀ x ∈ xs1, NoRemember x.2.req := by
    rcases runtime_stores hrun with hno | ⟨-, t1, t2, ht, hreads, hwrites⟩
    · obtain ⟨xs1, xs2, hsplit⟩ := append_of_mem hx
      refine ⟨xs1, xs2, hsplit, fun x hx1 => hno _ (mem_map_of_mem ?_)⟩
      rw [hsplit]
      exact mem_append_left _ hx1
    · obtain ⟨ys1, ys2, hys, rfl, rfl⟩ := map_eq_append_iff.1 ht
      rw [hys] at hx
      rcases mem_append.1 hx with hx | hx
      · obtain ⟨xs1, xs2, rfl⟩ := append_of_mem hx
        refine ⟨xs1, xs2 ++ ys2, by rw [hys]; simp, fun x hx1 => hreads _ (mem_map_of_mem ?_)⟩
        exact mem_append_left _ hx1
      · exact (hwrites _ (mem_map_of_mem hx)).elim
  rw [hsplit] at hserves
  obtain ⟨c1, c2, hbefore, hlookup, -⟩ := hserves.split
  obtain ⟨entry, hentry, hmaster, hvalid⟩ := hlookup.hit
  exact ⟨entry, serves_shrinks hbefore hno hentry, hmaster, hvalid⟩

theorem CacheStep.stores (h : CacheStep F c p c') (hcond : Disturbed c p) (hx : x ∈ p.events)
    {key : MasterCacheKey} {m : String} (hstores : Stores x key m) : Establishes p key m := by
  have hhit := @CacheStep.hit F c c' p h
  obtain ⟨hrun, hserves⟩ := h
  obtain ⟨detail, hreq⟩ := hstores
  rcases runtime_stores hrun with hno | ⟨hsource, t1, t2, ht, hreads, hwrites⟩
  · have hno := hno _ (mem_map_of_mem hx)
    rw [hreq] at hno
    exact hno.elim
  have hwrite : WriteReq p.key p.after.runtime.topology.master x.2.req := by
    have hmem : x.2 ∈ t1 ++ t2 := ht ▸ mem_map_of_mem hx
    rcases mem_append.1 hmem with hx1 | hx2
    · have hno := hreads _ hx1
      rw [hreq] at hno
      exact hno.elim
    · exact hwrites _ hx2
  rw [hreq] at hwrite
  obtain ⟨hkey, hmaster⟩ := hwrite
  refine ⟨hkey.symm, hsource.resolve_right ?_, hmaster.symm⟩
  rintro ⟨u0, detail, u, hu, hlisted, hno, hfirst, hplace⟩
  obtain ⟨xs1, ys, hsplit, rfl, hys⟩ := map_eq_append_iff.1 hu
  obtain ⟨y, xs2, rfl, hy, rfl⟩ := map_eq_cons_iff.1 hys
  rcases hfirst with hnil | ⟨e, he, hclears⟩
  · -- the first lookup returns an entry from before the phase, which the replies should disturb
    obtain rfl : xs1 = [] := map_eq_nil_iff.1 hnil
    have hmem : (y.1, (⟨.cacheLookup p.before.cluster.ns p.before.cluster.name,
        some (p.after.runtime.topology.master, detail)⟩ : Event Op)) ∈ p.events := by
      rw [hsplit, ← hy]
      exact .head _
    obtain ⟨entry, hentry, hmaster, hvalid⟩ := hhit hmem
    rw [← hmaster] at hlisted hplace
    obtain ⟨z, hz, hout⟩ := hcond entry hentry hlisted ⟨_, hmem, hvalid⟩
    rw [hsplit] at hz
    rcases mem_cons.1 hz with rfl | hz
    · rw [hy] at hout
      exact hout
    · exact hplace _ (mem_map_of_mem hz) hout
  · -- a later lookup finds no entry
    obtain ⟨z, hz, rfl⟩ := mem_map.1 he
    rw [hsplit] at hserves
    obtain ⟨c1, c2, hbefore, hlookup, -⟩ := hserves.split
    have hnone := serves_cleared hbefore (fun w hw => hno _ (mem_map_of_mem hw)) hz hclears
    obtain ⟨now, e⟩ := y
    obtain rfl : e = _ := hy
    obtain ⟨entry, hentry, -, -⟩ := hlookup.hit
    rw [show (⟨p.before.cluster.ns, p.before.cluster.name⟩ : MasterCacheKey) =
      cacheKeyForCluster p.before.cluster from rfl, hnone] at hentry
    cases hentry

/-- Every entry was established by a phase of the run, and expires one TTL after a moment of it. -/
def EntriesFresh (ttl : Duration) (ps : List RuntimePass) (c : MasterAddressCache) : Prop :=
  c.ttlDuration = ttl ∧ ∀ key entry, c.entries.lookup key = some entry →
    ∃ q ∈ ps, Establishes q key entry.master ∧ ∃ x ∈ q.events, entry.expires = x.1 + ttl

theorem EntriesFresh.step {ps : List RuntimePass} (hI : EntriesFresh ttl ps c)
    (h : CacheStep F c p c') (hcond : Disturbed c p) : EntriesFresh ttl (ps ++ [p]) c' := by
  obtain ⟨httl, hentries⟩ := serves_entries h.2
  refine ⟨httl.trans hI.1, fun key entry hentry => ?_⟩
  rcases hentries key entry hentry with hold | ⟨x, hx, hstores, hexpires⟩
  · obtain ⟨q, hq, hq'⟩ := hI.2 key entry hold
    exact ⟨q, mem_append_left _ hq, hq'⟩
  · rw [hI.1] at hexpires
    exact ⟨p, by simp, h.stores hcond hx hstores, x, hx, hexpires⟩

end

/-- **Bounded staleness of the master cache.** In a run of phases from the empty cache in which
every phase that finds a usable entry also gets a reply that disturbs the pass for it, a cached
master was established at most one TTL earlier and no hit extends the lifetime of an entry. -/
theorem masterCache_bounded {F : Formats} {maxEntries : Int} {ps : List RuntimePass}
    {c c' : MasterAddressCache} {p : RuntimePass}
    (hrun : Steps (fun c p c' => CacheStep F c p c' ∧ Disturbed c p)
      (newMasterAddressCache ttl maxEntries) ps c) (hstep : CacheStep F c p c')
    (hcond : Disturbed c p) :
    Bounded (newMasterAddressCache ttl maxEntries).ttlDuration ps c p c' := by
  have hI : EntriesFresh (newMasterAddressCache ttl maxEntries).ttlDuration ps c := by
    refine hrun.invariant (C := fun _ => True) (fun _ _ => trivial) ⟨rfl, ?_⟩ ?_
    · intro key entry hentry
      cases hentry
    · intro ps c1 p c2 _ hI _ hstep
      exact hI.step hstep.1 hstep.2
  refine ⟨fun now m detail hx => ?_, fun old new hold hnew => ?_⟩
  · obtain ⟨entry, hentry, rfl, hvalid⟩ := hstep.hit hx
    obtain ⟨q, hq, hest, x, hx, hexpires⟩ := hI.2 _ _ hentry
    exact ⟨q, hq, hest, x, hx, hexpires ▸ hvalid⟩
  · rcases (serves_entries hstep.2).2 _ _ hnew with hsame | ⟨x, hx, hstores, -⟩
    · rw [hold] at hsame
      cases hsame
      exact .inl le_rfl
    · exact .inr (hstep.stores hcond hx hstores)

/-! ### A cache for the cluster `a` -/

/-- The cache at a time. -/
def cacheWorld (now : Time) : World Op MasterAddressCache where
  step c
    | ⟨.cacheLookup ns name, _⟩ => (c.lookup now ⟨ns, name⟩).2
    | ⟨.cacheRemember ns name master detail, _⟩ =>
      c.remember now ⟨ns, name⟩ master detail ⟨ns, name⟩
    | ⟨.cacheInvalidate ns name, _⟩ => c.invalidate ⟨ns, name⟩
    | _ => c
  ok _ _ := True

/-- The replies of the cache and of Redis. -/
def podsAt (now : Time) (g : Graph) (c : MasterAddressCache) : Replies
  | .cacheLookup ns name => (c.lookup now ⟨ns, name⟩).1
  | q => healthy g q

/-- The Runtime phase at a time. -/
def phaseAt (now : Time) (g : Graph) (c : MasterAddressCache) (st : State) : RuntimePass :=
  let run := (cacheWorld now).play (podsAt now g) c (runtime .decimal st)
  ⟨st, run.1.map fun e => (now, e), run.2.1⟩

/-- The cache after it. -/
def cacheAfter (now : Time) (g : Graph) (c : MasterAddressCache) (st : State) :
    MasterAddressCache :=
  (cacheWorld now).after c ((cacheWorld now).play (podsAt now g) c (runtime .decimal st)).1

theorem play_serves {α : Type} (now : Time) (g : Graph) (prog : M α) (c : MasterAddressCache) :
    Steps Serves c (((cacheWorld now).play (podsAt now g) c prog).1.map fun e => (now, e))
      ((cacheWorld now).after c ((cacheWorld now).play (podsAt now g) c prog).1) := by
  induction prog generalizing c with
  | ret a => exact .nil
  | call q k ih =>
    have hserves : Serves c (now, ⟨q, podsAt now g c q⟩)
        ((cacheWorld now).step c ⟨q, podsAt now g c q⟩) := by
      cases q with
      | cacheRemember ns name master detail => exact ⟨_, rfl⟩
      | _ => rfl
    exact steps_append.2 ⟨_, .snoc .nil hserves, ih _ _⟩

theorem phaseAt_step (now : Time) (g : Graph) (c : MasterAddressCache) (st : State) :
    CacheStep .decimal c (phaseAt now g c st) (cacheAfter now g c st) := by
  have hrun := World.runs_play (W := cacheWorld now) (r := podsAt now g) c (runtime .decimal st)
  refine ⟨?_, play_serves now g (runtime .decimal st) c⟩
  have hnone := runtime_none hrun
  have hevents : (phaseAt now g c st).events.map Prod.snd =
      ((cacheWorld now).play (podsAt now g) c (runtime .decimal st)).1 := by
    unfold phaseAt
    simp
  rw [hevents, ← hnone]
  exact hrun

theorem phaseAt_time {now : Time} {g : Graph} {c : MasterAddressCache} {st : State}
    (hx : x ∈ (phaseAt now g c st).events) : x.1 = now := by
  obtain ⟨e, -, rfl⟩ := mem_map.1 hx
  rfl

/-- Two pods with the cache in use. -/
def cachedA : State := { pairA with masterCache := true }

/-- The empty cache, with entries for ten seconds. -/
def cache0 : MasterAddressCache := newMasterAddressCache (10 * second) 0

/-- The first phase, that stores a-0. -/
def probed : RuntimePass := phaseAt 0 graphA cache0 cachedA

/-- The cache after it. -/
def cache1 : MasterAddressCache := cacheAfter 0 graphA cache0 cachedA

theorem probed_disturbed : Disturbed cache0 probed := by
  intro entry hentry
  cases hentry

/-- A phase that finds a-1 on another master. -/
def realigned : RuntimePass :=
  phaseAt (9 * second) (fun pod => if pod = "a-0" then .master else .replica "10.0.0.9" 6379) cache1
    cachedA

theorem realigned_disturbed : Disturbed cache1 realigned := by
  intro entry hentry _ _
  obtain rfl : entry = ⟨"a-0", "", 10 * second⟩ := (Option.some.inj hentry).symm
  have hinfo : realigned.events[4]? = some (9 * second, ⟨.replicationInfo "a-1",
    .ok (RedisState.replica "10.0.0.9" 6379).info⟩) := rfl
  exact ⟨_, mem_of_getElem? hinfo, rfl⟩

theorem masterCache_bounded_realigned :
    realigned.events[0]? = some (9 * second, ⟨.cacheLookup "prod" "a", some ("a-0", "")⟩) ∧
      Bounded (10 * second) [probed] cache1 realigned (cacheAfter (9 * second)
        (fun pod => if pod = "a-0" then .master else .replica "10.0.0.9" 6379) cache1 cachedA) := by
  have hrun : Steps (fun c p c' => CacheStep .decimal c p c' ∧ Disturbed c p)
      (newMasterAddressCache (10 * second) 0) [probed] cache1 :=
    .snoc .nil ⟨phaseAt_step 0 graphA cache0 cachedA, probed_disturbed⟩
  exact ⟨rfl, masterCache_bounded hrun (phaseAt_step _ _ _ _) realigned_disturbed⟩

/-- A phase that renews the entry. -/
def renewed : RuntimePass := phaseAt (9 * second) graphA cache1 cachedA

/-- The cache after it. -/
def cache2 : MasterAddressCache := cacheAfter (9 * second) graphA cache1 cachedA

/-- A phase within ten seconds of that. -/
def stale : RuntimePass := phaseAt (18 * second) graphA cache2 cachedA

/-- The cache after it. -/
def cache3 : MasterAddressCache := cacheAfter (18 * second) graphA cache2 cachedA

/-- **The hit after nine seconds extends the lifetime of the entry, and after 18 seconds a master is
used that was established 18 seconds ago, with a TTL of ten seconds.** -/
theorem hit_renews_entry :
    CacheStep .decimal cache0 probed cache1 ∧ CacheStep .decimal cache1 renewed cache2 ∧
      CacheStep .decimal cache2 stale cache3 ∧
      ¬ Bounded (10 * second) [probed] cache1 renewed cache2 ∧
      ¬ Bounded (10 * second) [probed, renewed] cache2 stale cache3 := by
  have hcached : renewed.after.runtime.topology.source = .cache := rfl
  have hnot {key : MasterCacheKey} {m : String} : ¬ Establishes renewed key m := by
    rintro ⟨-, hfresh, -⟩
    rw [hcached] at hfresh
    simp [EnsureSource.Fresh] at hfresh
  refine ⟨phaseAt_step _ _ _ _, phaseAt_step _ _ _ _, phaseAt_step _ _ _ _, fun h => ?_,
    fun h => ?_⟩
  · have hlonger := (h.kept ⟨"a-0", "", 10 * second⟩ ⟨"a-0", "", 19 * second⟩ rfl rfl).resolve_right
      hnot
    exact absurd hlonger (by decide)
  · have hhit : stale.events[0]? =
        some (18 * second, ⟨.cacheLookup "prod" "a", some ("a-0", "")⟩) := rfl
    obtain ⟨q, hq, hest, x, hx, hle⟩ := h.recent _ _ _ (mem_of_getElem? hhit)
    rcases mem_cons.1 hq with rfl | hq
    · rw [phaseAt_time hx] at hle
      exact absurd hle (by decide)
    · obtain rfl := mem_singleton.1 hq
      exact hnot hest

end Phases

end Keyval
