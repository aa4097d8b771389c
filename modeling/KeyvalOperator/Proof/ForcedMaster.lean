import KeyvalOperator.Proof.Recovery

/-!
# A forced master and the cache

`ensureTopology` looks at the cache before it looks at the master that the caller forces.

* `ensureForced_wins`: the forced branch reports the forced master and does not demote it.
* `forcedMaster_wins_iff`: **the forced master wins just when the cache names no listed pod**.
-/

namespace Keyval.Replication

open Go Interact Interact.Prog List

/-- The call reports the master that the caller forces, and did not make it a replica of another
pod on the way. -/
structure ForcedWins (req : EnsureRequest) (t : Trace) (res : EnsureResult) : Prop where
  master : res.master = req.forceMaster
  source : res.source = .forced
  spared : ∀ p ∈ req.redisPods, p.name ≠ req.forceMaster → ∀ port r,
    ⟨.replicaOf req.forceMaster (masterHost req.cluster req.redisPods p.name) port, r⟩ ∉ t

/-- A cached master that ends the call when the pass for it succeeds: the call gets past the checks
of its request and the cache names a listed pod. -/
def CacheDecides (F : Formats) (req : EnsureRequest) (cached : Option (String × String)) : Prop :=
  req.factory = true ∧ req.security.bind (clientTLSConfig F) = none ∧ req.masterCache = true ∧
    ∃ candidate detail, cached = some (candidate, detail) ∧
      hasRedisPod req.redisPods candidate = true

section
variable {req : EnsureRequest} {t : Trace} {res : EnsureResult}

theorem ensureForced_wins (hforce : req.forceMaster ≠ "")
    (hlisted : ∃ p ∈ req.redisPods, p.name = req.forceMaster)
    (h : (ensureForced req req.options).Runs t (res, none)) :
    res.master = req.forceMaster ∧ res.source = .forced ∧
      ∀ e ∈ t, Spares req.forceMaster e.req := by
  obtain ⟨t1, ⟨result, err⟩, t2, rfl, h1, h2⟩ := runs_bind.1 h
  obtain ⟨t3, u, t4, rfl, h3, h4⟩ := runs_bind.1 h2
  obtain ⟨rfl, hres⟩ := runs_ret.1 h4
  obtain ⟨rfl, rfl⟩ := Prod.mk.inj hres
  refine ⟨(ensureWithMaster_master h1).trans (if_neg hforce), rfl, ?_⟩
  rw [append_nil]
  refine forall_mem_append.2 ⟨(ensureWithMaster_spares hlisted).mem h1, fun e he => ?_⟩
  obtain ⟨ns, name, master, detail, hreq⟩ := remember_rest h3 e he
  rw [hreq]
  trivial

/-- Without a listed pod in the cache the cache changes no pod and decides nothing. -/
theorem CacheRun.quiet {r : Option EnsureResult} {opts : EnsureOptions} (h : CacheRun req opts t r)
    (hunlisted : ∀ candidate detail, req.masterCache = true →
      ⟨.cacheLookup req.cluster.ns req.cluster.name, some (candidate, detail)⟩ ∈ t →
      hasRedisPod req.redisPods candidate ≠ true) :
    r = none ∧ ∀ e ∈ t, Quiet e.req := by
  cases h with
  | unused _ => exact ⟨rfl, forall_mem_nil _⟩
  | miss _ =>
    refine ⟨rfl, ?_⟩
    rw [forall_mem_singleton]
    trivial
  | unlisted _ _ =>
    refine ⟨rfl, ?_⟩
    rw [forall_mem_cons, forall_mem_singleton]
    exact ⟨trivial, trivial⟩
  | hit hcache hlisted _ => exact absurd hlisted (hunlisted _ _ hcache (.head _))
  | failed hcache hlisted _ => exact absurd hlisted (hunlisted _ _ hcache (.head _))

theorem exists_pass (cr : KeyValCluster) {pods : List Pod} (m : String) (opts : EnsureOptions)
    (hpods : pods ≠ []) : ∃ t res, (ensureWithMaster cr pods m opts).Runs t (res, none) := by
  have hrun := World.runs_play (W := redisWorld) (r := healthy) (fun _ => .master)
    (ensureWithMaster cr pods m opts)
  have hnone := ensureWithMaster_recovers hpods hrun fun e he => by
    obtain ⟨g, hrep⟩ := World.play_rep (W := redisWorld) _ _ _ he
    have hrec := healthy_recovering g e.req
    rwa [← hrep] at hrec
  generalize redisWorld.play healthy (fun _ => .master) (ensureWithMaster cr pods m opts) = run
    at hrun hnone
  obtain ⟨t, res, err⟩ := run
  obtain rfl : err = none := hnone
  exact ⟨t, res, hrun⟩

theorem CacheDecides.run {F : Formats} {cached : Option (String × String)}
    (h : CacheDecides F req cached) (hpods : req.redisPods ≠ []) :
    ∃ t res, (ensureTopology F req).Runs t (res, none) ∧ res.source = .cache ∧
      ∀ r, ⟨.cacheLookup req.cluster.ns req.cluster.name, r⟩ ∈ t → r = cached := by
  obtain ⟨hfac, htls, hcache, candidate, detail, rfl, hlisted⟩ := h
  obtain ⟨t, result, hpass⟩ := exists_pass req.cluster candidate req.options hpods
  let lookup : Event Op :=
    ⟨.cacheLookup req.cluster.ns req.cluster.name, some (candidate, detail)⟩
  let fromCache : EnsureResult := { result with
    source := .cache
    reason := if result.reason = "" then detail else result.reason }
  have hcacheRun : (ensureFromCache req req.options).Runs (lookup :: t) (some fromCache) := by
    unfold ensureFromCache
    simp only [bind_eq, pure_eq, ask_eq, call_bind, ret_bind]
    rw [if_neg (not_not.2 hcache)]
    refine runs_call.2 ⟨_, _, rfl, ?_⟩
    dsimp only
    rw [if_pos hlisted]
    exact runs_bind.2 ⟨t, _, [], (append_nil t).symm, hpass, runs_ret.2 ⟨rfl, rfl⟩⟩
  refine ⟨lookup :: t, fromCache, ?_, rfl, fun r hr => ?_⟩
  · unfold ensureTopology
    rw [if_neg (not_not.2 hfac), if_neg hpods, htls]
    exact runs_bind.2 ⟨_, _, [], (append_nil _).symm, hcacheRun, runs_ret.2 ⟨rfl, rfl⟩⟩
  · rcases mem_cons.1 hr with heq | hr
    · simpa [lookup] using heq
    · exact ((ensureWithMaster_noCache _ _ _ _).mem hpass _ hr).elim

end

/-- **A forced master wins over the cache just when the cache does not name a listed pod** (or is
not asked, because the call fails its own checks): for a request that forces a listed pod and a
reply of the cache, whatever the clients reply. -/
theorem forcedMaster_wins_iff {F : Formats} {req : EnsureRequest}
    {cached : Option (String × String)} (hforce : req.forceMaster ≠ "")
    (hlisted : ∃ p ∈ req.redisPods, p.name = req.forceMaster) :
    (∀ t res, (ensureTopology F req).Runs t (res, none) →
      (∀ r, ⟨.cacheLookup req.cluster.ns req.cluster.name, r⟩ ∈ t → r = cached) →
      ForcedWins req t res) ↔ ¬ CacheDecides F req cached := by
  have hpods : req.redisPods ≠ [] := by
    obtain ⟨p, hp, -⟩ := hlisted
    exact ne_nil_of_mem hp
  constructor
  · intro hwins hdecides
    obtain ⟨t, res, hrun, hsource, hlookup⟩ := hdecides.run hpods
    have hforced := (hwins t res hrun hlookup).source
    rw [hsource] at hforced
    cases hforced
  · intro hdecides t res hrun hlookup
    obtain ⟨hfac, -, htls⟩ := ensureTopology_ready hrun
    have hunlisted : ∀ candidate detail, req.masterCache = true →
        ⟨.cacheLookup req.cluster.ns req.cluster.name, some (candidate, detail)⟩ ∈ t →
        hasRedisPod req.redisPods candidate ≠ true := by
      intro candidate detail hcache he hcand
      exact hdecides ⟨hfac, htls, hcache, candidate, detail, (hlookup _ he).symm, hcand⟩
    rcases ensureTopology_cases hrun hfac hpods htls with ⟨result, hcache, -⟩ |
        ⟨t1, t2, rfl, hcache, hforced⟩
    · cases ((ensureFromCache_run hcache).quiet hunlisted).1
    · obtain ⟨-, hquiet⟩ := (ensureFromCache_run hcache).quiet fun candidate detail h he =>
        hunlisted candidate detail h (mem_append_left _ he)
      rw [if_pos hforce] at hforced
      obtain ⟨hmaster, hsource, hspares⟩ := ensureForced_wins hforce hlisted hforced
      refine ⟨hmaster, hsource, fun p _ _ port r he => ?_⟩
      rcases mem_append.1 he with he | he
      · exact hquiet _ he
      · exact hspares _ he rfl

/-- A request that forces a-1 to be the master. -/
def forcedA : EnsureRequest :=
  { cluster := clusterA, redisPods := podsA, masterCache := true, forceMaster := "a-1" }

theorem forcedMaster_wins_iff_forcedA :
    (∀ t res, (ensureTopology .decimal forcedA).Runs t (res, none) →
      (∀ r, ⟨.cacheLookup "prod" "a", r⟩ ∈ t → r = none) → ForcedWins forcedA t res) ↔
      ¬ CacheDecides .decimal forcedA none :=
  forcedMaster_wins_iff (by decide) ⟨_, .tail _ (.head _), rfl⟩

/-- The cache holds a-0. -/
def cachedA0 (g : Graph) : Replies
  | .cacheLookup .. => some ("a-0", "")
  | q => healthy g q

/-- A run that demotes a-1. -/
def demotesA1 : Trace :=
  [⟨.cacheLookup "prod" "a", some ("a-0", "")⟩, ⟨.redisForPod "a-0", .ok ()⟩,
    ⟨.replicationInfo "a-0", .ok { role := "master" }⟩, ⟨.redisForPod "a-1", .ok ()⟩,
    ⟨.replicationInfo "a-1", .ok { role := "master" }⟩, ⟨.ctxErr, none⟩,
    ⟨.replicaOf "a-1" "10.0.0.1" 6379, .ok ()⟩, ⟨.polls, (0 : Nat)⟩, ⟨.ctxErr, none⟩,
    ⟨.replicationInfo "a-1", .ok (RedisState.replica "10.0.0.1" 6379).info⟩]

theorem play_forcedA : (redisWorld.play cachedA0 (fun _ => .master)
    (ensureTopology .decimal forcedA)).1 = demotesA1 :=
  rfl

/-- **The cached master `a-0` is reported, and the forced master `a-1` becomes its replica.** -/
theorem cache_overrides_forced_a1 :
    ∃ res, (ensureTopology .decimal forcedA).Runs demotesA1 (res, none) ∧ res.master = "a-0" ∧
      res.source = .cache ∧ ¬ ForcedWins forcedA demotesA1 res := by
  have hrun := World.runs_play (W := redisWorld) (r := cachedA0) (fun _ => .master)
    (ensureTopology .decimal forcedA)
  rw [play_forcedA] at hrun
  refine ⟨_, hrun, rfl, rfl, fun hwins => ?_⟩
  refine hwins.spared _ (.head _) (by decide) 6379 (.ok ()) ?_
  simp [demotesA1, forcedA, masterHost, podsA]

end Keyval.Replication
