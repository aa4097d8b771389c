import KeyvalOperator.Proof.MasterSwitch

/-!
# The topology after `ensureTopology`

`ensureTopology` can make two passes (a cached master that fails, then another one), and its last
pass decides the topology it reports:

* `ensureTopology_lastPass`: a run without error ends with a successful pass of
  `ensureWithMaster` for the reported master (`LastPass`).
* `Pass.follows_iff`: when every pod follows the master after a pass.
* `ensureTopology_post_iff`: so for the postcondition (`Post`) of `ensureTopology`.
-/

namespace Keyval.Replication

open Go Interact Interact.Prog List

variable {m : String} {opts : EnsureOptions} {pods : List Pod} {t : Trace}
    {req : EnsureRequest} {res : EnsureResult}

/-! ## Probing -/

theorem designated_empty_mem (h : pods ≠ []) : ∃ p ∈ pods, p.name = designated pods "" := by
  have hperm := sortedPodsByName_perm pods
  cases hs : sortedPodsByName pods with
  | nil =>
    rw [hs] at hperm
    exact absurd hperm.symm.eq_nil h
  | cons p rest =>
    refine ⟨p, hperm.mem_iff.1 (by rw [hs]; exact .head _), ?_⟩
    unfold designated
    rw [if_pos rfl, hs]
    rfl

theorem detectPod_masters {s s' : Map PodRole × List String} {p : Pod}
    (h : (detectPod opts s p).Runs t (s', none)) : s'.2 = s.2 ∨ s'.2 = s.2 ++ [p.name] := by
  obtain ⟨r, t1, rfl, h1⟩ := runs_asked.1 h
  cases r with
  | error e => cases (runs_ret.1 h1).2
  | ok u =>
    obtain ⟨t2, r, t3, rfl, -, h3⟩ := runs_bind.1 h1
    cases r with
    | error e => cases (runs_ret.1 h3).2
    | ok u' =>
      obtain ⟨t4, r, t5, rfl, -, h5⟩ := runs_bind.1 h3
      cases r with
      | error e => cases (runs_ret.1 h5).2
      | ok role =>
        dsimp only at h5
        split_ifs at h5
        · obtain ⟨-, hs⟩ := runs_ret.1 h5
          obtain ⟨rfl, -⟩ := Prod.mk.inj hs
          exact .inr rfl
        · obtain ⟨-, hs⟩ := runs_ret.1 h5
          obtain ⟨rfl, -⟩ := Prod.mk.inj hs
          exact .inl rfl

theorem detectRoles_mem {roles : Map PodRole} (hpods : pods ≠ [])
    (h : (detectRoles pods opts).Runs t (.ok (m, roles))) : ∃ p ∈ pods, p.name = m := by
  unfold detectRoles at h
  rw [if_neg hpods] at h
  obtain ⟨t1, ⟨⟨roles', masters⟩, err⟩, t2, rfl, h1, h2⟩ := runs_bind.1 h
  cases err with
  | some e => cases (runs_ret.1 h2).2
  | none =>
    have hmem : ∀ x ∈ masters, x ∈ (sortedPodsByName pods).map (·.name) := by
      refine h1.forErr_inv (I := fun done _ s => ∀ x ∈ s.2, x ∈ done.map (·.name)) nofun ?_
      intro done p t0 s t1 s1 _ _ hI hr x hx
      rw [map_append, mem_append]
      rcases detectPod_masters hr with heq | heq
      · exact .inl (hI x (heq ▸ hx))
      · rw [heq] at hx
        rcases mem_append.1 hx with hx | hx
        · exact .inl (hI x hx)
        · exact .inr hx
    dsimp only at h2
    split at h2
    · obtain ⟨-, hres⟩ := runs_ret.1 h2
      obtain ⟨rfl, -⟩ := Prod.mk.inj (Except.ok.inj hres)
      exact designated_empty_mem hpods
    · rename_i m' rest hsort
      obtain ⟨-, hres⟩ := runs_ret.1 h2
      obtain ⟨rfl, -⟩ := Prod.mk.inj (Except.ok.inj hres)
      have hm : m ∈ masters := (perm_insertionSort _ masters).mem_iff.1
        (by rw [hsort]; exact .head _)
      obtain ⟨p, hp, hpm⟩ := mem_map.1 (hmem m hm)
      exact ⟨p, (sortedPodsByName_perm pods).mem_iff.1 hp, hpm⟩

/-! ## The last pass -/

/-- The results agree but for the source of the master. -/
structure EnsureResult.Agrees (res res' : EnsureResult) : Prop where
  changed : res.changed = res'.changed
  master : res.master = res'.master
  roles : res.roles = res'.roles
  infos : res.infos = res'.infos
  drift : res.drift = res'.drift
  pending : res.pending = res'.pending

/-- The run `t1 ++ t2 ++ t3` ends with a successful pass `t2` for the master `m`; only the cache is
written after it. -/
structure LastPass (req : EnsureRequest) (m : String) (t t1 t2 t3 : Trace)
    (res : EnsureResult) : Prop where
  split : t = t1 ++ t2 ++ t3
  pass : (ensureWithMaster req.cluster req.redisPods m req.options).Runs t2 (res, none)
  rest : ∀ e ∈ t3, ∃ ns name master detail, e.req = .cacheRemember ns name master detail

theorem ensureWithMaster_master {cr : KeyValCluster}
    (h : (ensureWithMaster cr pods m opts).Runs t (res, none)) :
    res.master = designated pods m := by
  unfold ensureWithMaster at h
  split_ifs at h
  · cases (runs_ret.1 h).2
  · refine h.forErr_inv (I := fun _ _ res => res.master = designated pods m) rfl ?_
    intro done p t0 s t1 s1 _ _ hI hr
    obtain ⟨role, info, -, hadds⟩ := ensurePod_cases hr (fun _ => .master)
    exact hadds.master.trans hI

/-- A successful pass for a given or listed master, with only cache writes after it. -/
theorem LastPass.of (t1 : Trace) {t2 t3 : Trace} {res res' : EnsureResult}
    (hpass : (ensureWithMaster req.cluster req.redisPods m req.options).Runs t2 (res', none))
    (hm : m ≠ "" ∨ ∃ p ∈ req.redisPods, p.name = m)
    (hrest : ∀ e ∈ t3, ∃ ns name master detail, e.req = .cacheRemember ns name master detail)
    (hres : res.Agrees res') :
    ∃ u1 u2 u3 res', LastPass req res.master (t1 ++ t2 ++ t3) u1 u2 u3 res' ∧
      res.Agrees res' := by
  have hdes : designated req.redisPods m = m := by
    rcases hm with hm | hm
    · exact if_neg hm
    · exact designated_of_mem hm
  have hmaster : res.master = m := by
    rw [hres.master, ensureWithMaster_master hpass, hdes]
  exact ⟨t1, t2, t3, res', ⟨rfl, hmaster ▸ hpass, hrest⟩, hres⟩

theorem remember_rest {master detail : String} {err : Option Error} {u : Unit}
    (h : (remember req master detail err).Runs t u) :
    ∀ e ∈ t, ∃ ns name master detail, e.req = .cacheRemember ns name master detail := by
  unfold remember at h
  intro e he
  split_ifs at h
  · obtain ⟨r, t', rfl, h'⟩ := runs_call.1 h
    obtain ⟨rfl, -⟩ := runs_ret.1 h'
    obtain rfl := mem_singleton.1 he
    exact ⟨_, _, _, _, rfl⟩
  · obtain ⟨rfl, -⟩ := runs_ret.1 h
    cases he

theorem hasRedisPod_mem {name : String} (h : hasRedisPod pods name = true) :
    ∃ p ∈ pods, p.name = name := by
  simp only [hasRedisPod, Bool.and_eq_true, any_eq_true, decide_eq_true_eq] at h
  exact h.2

/-- What `ensureFromCache` does: the cache is not used, has no entry or one for a pod that is not
listed, or a pass for the cached master decides the call or fails. -/
inductive CacheRun (req : EnsureRequest) (opts : EnsureOptions) :
    Trace → Option EnsureResult → Prop
  | unused : req.masterCache = false → CacheRun req opts [] none
  | miss : req.masterCache = true →
      CacheRun req opts [⟨.cacheLookup req.cluster.ns req.cluster.name, none⟩] none
  | unlisted {candidate detail : String} {u : Unit} : req.masterCache = true →
      hasRedisPod req.redisPods candidate = false →
      CacheRun req opts
        [⟨.cacheLookup req.cluster.ns req.cluster.name, some (candidate, detail)⟩,
          ⟨.cacheInvalidate req.cluster.ns req.cluster.name, u⟩] none
  | hit {candidate detail : String} {t : Trace} {result : EnsureResult} :
      req.masterCache = true → hasRedisPod req.redisPods candidate = true →
      (ensureWithMaster req.cluster req.redisPods candidate opts).Runs t (result, none) →
      CacheRun req opts
        (⟨.cacheLookup req.cluster.ns req.cluster.name, some (candidate, detail)⟩ :: t)
        (some { result with
          source := .cache
          reason := if result.reason = "" then detail else result.reason })
  | failed {candidate detail : String} {t : Trace} {result : EnsureResult} {e : Error}
      {u : Unit} : req.masterCache = true → hasRedisPod req.redisPods candidate = true →
      (ensureWithMaster req.cluster req.redisPods candidate opts).Runs t (result, some e) →
      CacheRun req opts
        (⟨.cacheLookup req.cluster.ns req.cluster.name, some (candidate, detail)⟩ ::
          (t ++ [⟨.cacheInvalidate req.cluster.ns req.cluster.name, u⟩])) none

theorem ensureFromCache_run {r : Option EnsureResult}
    (h : (ensureFromCache req opts).Runs t r) : CacheRun req opts t r := by
  unfold ensureFromCache at h
  simp only [bind_eq, pure_eq, ask_eq, call_bind, ret_bind] at h
  by_cases hcache : req.masterCache
  swap
  · rw [if_pos hcache] at h
    obtain ⟨rfl, rfl⟩ := runs_ret.1 h
    exact .unused (by simpa using hcache)
  rw [if_neg (not_not.2 hcache)] at h
  obtain ⟨r, t1, rfl, h1⟩ := runs_call.1 h
  cases r with
  | none =>
    obtain ⟨rfl, rfl⟩ := runs_ret.1 h1
    exact .miss hcache
  | some c =>
    obtain ⟨candidate, detail⟩ := c
    dsimp only at h1
    split_ifs at h1 with hcand
    · obtain ⟨t2, ⟨result, err⟩, t3, rfl, h2, h3⟩ := runs_bind.1 h1
      cases err with
      | none =>
        obtain ⟨rfl, rfl⟩ := runs_ret.1 h3
        rw [append_nil]
        exact .hit hcache hcand h2
      | some e =>
        obtain ⟨u, t4, rfl, h4⟩ := runs_call.1 h3
        obtain ⟨rfl, rfl⟩ := runs_ret.1 h4
        exact .failed hcache hcand h2
    · obtain ⟨u, t2, rfl, h2⟩ := runs_call.1 h1
      obtain ⟨rfl, rfl⟩ := runs_ret.1 h2
      exact .unlisted hcache (by simpa using hcand)

theorem ensureTopology_ready {F : Formats} (h : (ensureTopology F req).Runs t (res, none)) :
    req.factory = true ∧ req.redisPods ≠ [] ∧ req.security.bind (clientTLSConfig F) = none := by
  unfold ensureTopology at h
  by_cases hfac : req.factory
  swap
  · rw [if_pos hfac] at h
    cases (runs_ret.1 h).2
  rw [if_neg (not_not.2 hfac)] at h
  by_cases hpods : req.redisPods = []
  · rw [if_pos hpods] at h
    cases (runs_ret.1 h).2
  rw [if_neg hpods] at h
  cases htls : req.security.bind (clientTLSConfig F) with
  | some e =>
    rw [htls] at h
    cases (runs_ret.1 h).2
  | none => exact ⟨hfac, hpods, rfl⟩

theorem ensureTopology_cases {F : Formats} {o : EnsureResult × Option Error}
    (h : (ensureTopology F req).Runs t o) (hfac : req.factory = true) (hpods : req.redisPods ≠ [])
    (htls : req.security.bind (clientTLSConfig F) = none) :
    (∃ result, (ensureFromCache req req.options).Runs t (some result) ∧ o = (result, none)) ∨
    ∃ t1 t2, t = t1 ++ t2 ∧ (ensureFromCache req req.options).Runs t1 none ∧
      (if req.forceMaster ≠ "" then ensureForced req req.options
        else ensureResolved req req.options).Runs t2 o := by
  unfold ensureTopology at h
  rw [if_neg (not_not.2 hfac), if_neg hpods, htls] at h
  obtain ⟨t1, r, t2, rfl, h1, h2⟩ := runs_bind.1 h
  cases r with
  | some result =>
    obtain ⟨rfl, rfl⟩ := runs_ret.1 h2
    rw [append_nil]
    exact .inl ⟨result, h1, rfl⟩
  | none => exact .inr ⟨t1, t2, rfl, h1, h2⟩

theorem ensureFromCache_lastPass (h : (ensureFromCache req req.options).Runs t (some res)) :
    ∃ t1 t2 t3 res', LastPass req res.master t t1 t2 t3 res' ∧ res.Agrees res' := by
  have hrun := ensureFromCache_run h
  cases hrun with
  | @hit candidate detail t result _ hcand hpass =>
    rw [← append_nil (_ :: t)]
    exact LastPass.of [⟨.cacheLookup req.cluster.ns req.cluster.name, some (candidate, detail)⟩]
      hpass (.inr (hasRedisPod_mem hcand)) (forall_mem_nil _) ⟨rfl, rfl, rfl, rfl, rfl, rfl⟩

theorem ensureForced_lastPass (hforce : req.forceMaster ≠ "")
    (h : (ensureForced req req.options).Runs t (res, none)) :
    ∃ t1 t2 t3 res', LastPass req res.master t t1 t2 t3 res' ∧ res.Agrees res' := by
  obtain ⟨t1, ⟨result, err⟩, t2, rfl, h1, h2⟩ := runs_bind.1 h
  obtain ⟨t3, u, t4, rfl, h3, h4⟩ := runs_bind.1 h2
  obtain ⟨rfl, hres⟩ := runs_ret.1 h4
  obtain ⟨rfl, rfl⟩ := Prod.mk.inj hres
  rw [append_nil]
  exact LastPass.of [] h1 (.inl hforce) (remember_rest h3) ⟨rfl, rfl, rfl, rfl, rfl, rfl⟩

theorem masterFromSentinel_ne {name detail : String}
    (h : (masterFromSentinel req).Runs t (.ok (name, detail))) : name ≠ "" := by
  unfold masterFromSentinel at h
  simp only [bind_eq, pure_eq] at h
  split_ifs at h
  · cases (runs_ret.1 h).2
  · obtain ⟨t1, r, t2, rfl, -, h2⟩ := runs_bind.1 h
    cases r with
    | error e => cases (runs_ret.1 h2).2
    | ok nd =>
      dsimp only at h2
      split_ifs at h2 with hne
      · obtain ⟨-, hres⟩ := runs_ret.1 h2
        obtain ⟨rfl, -⟩ := Prod.mk.inj (Except.ok.inj hres)
        exact hne
      · cases (runs_ret.1 h2).2
  · cases (runs_ret.1 h).2

theorem ensureResolved_lastPass (hpods : req.redisPods ≠ [])
    (h : (ensureResolved req req.options).Runs t (res, none)) :
    ∃ t1 t2 t3 res', LastPass req res.master t t1 t2 t3 res' ∧ res.Agrees res' := by
  obtain ⟨t1, r, t2, rfl, h1, h2⟩ := runs_bind.1 h
  cases r with
  | ok nd =>
    obtain ⟨name, detail⟩ := nd
    obtain ⟨t3, ⟨result, err⟩, t4, rfl, h3, h4⟩ := runs_bind.1 h2
    obtain ⟨t5, u, t6, rfl, h5, h6⟩ := runs_bind.1 h4
    obtain ⟨rfl, hres⟩ := runs_ret.1 h6
    obtain ⟨rfl, rfl⟩ := Prod.mk.inj hres
    rw [append_nil, ← append_assoc]
    exact LastPass.of _ h3 (.inl (masterFromSentinel_ne h1)) (remember_rest h5)
      ⟨rfl, rfl, rfl, rfl, rfl, rfl⟩
  | error failure =>
    obtain ⟨t3, ⟨result, err⟩, t4, rfl, h3, h4⟩ := runs_bind.1 h2
    obtain ⟨t5, u, t6, rfl, h5, h6⟩ := runs_bind.1 h4
    obtain ⟨rfl, hres⟩ := runs_ret.1 h6
    obtain ⟨rfl, rfl⟩ := Prod.mk.inj hres
    obtain ⟨t7, r, t8, rfl, h7, h8⟩ := runs_bind.1 h3
    cases r with
    | error e => cases (runs_ret.1 h8).2
    | ok mr =>
      have hsplit : t1 ++ (t7 ++ t8 ++ (t5 ++ [])) = (t1 ++ t7) ++ t8 ++ t5 := by simp
      rw [hsplit]
      exact LastPass.of _ h8 (.inr (detectRoles_mem hpods h7)) (remember_rest h5)
        ⟨rfl, rfl, rfl, rfl, rfl, rfl⟩

/-- **The last pass**: a run without error ends with a successful pass for the reported master. -/
theorem ensureTopology_lastPass {F : Formats} (h : (ensureTopology F req).Runs t (res, none)) :
    ∃ t1 t2 t3 res', LastPass req res.master t t1 t2 t3 res' ∧ res.Agrees res' := by
  obtain ⟨hfac, hpods, htls⟩ := ensureTopology_ready h
  rcases ensureTopology_cases h hfac hpods htls with ⟨result, hcache, hres⟩ | ⟨t1, t2, rfl, -, h2⟩
  · obtain ⟨rfl, -⟩ := Prod.mk.inj hres
    exact ensureFromCache_lastPass hcache
  · have hmore : ∃ u1 u2 u3 res', LastPass req res.master t2 u1 u2 u3 res' ∧
        res.Agrees res' := by
      split_ifs at h2 with hforce
      · exact ensureForced_lastPass hforce h2
      · exact ensureResolved_lastPass hpods h2
    obtain ⟨u1, u2, u3, res', hlast, hagree⟩ := hmore
    refine ⟨t1 ++ u1, u2, u3, res', ⟨?_, hlast.pass, hlast.rest⟩, hagree⟩
    rw [hlast.split, append_assoc, append_assoc, append_assoc]

/-! ## The postcondition -/

section
variable (req : EnsureRequest)
  -- which hosts are addresses of which pod
  (denotes : String → String → Prop)

/-- The pod `m` is a master and every other pod replicates from an address of `m` and its port. -/
structure Follows (m : String) (g : Graph) : Prop where
  master : g m = .master
  target : ∀ p ∈ req.redisPods, p.name ≠ m →
    ∃ host, g p.name = .replica host (redisPort req.cluster) ∧ denotes m host

/-- The reported topology is the actual one: every pod follows the master, and the roles name
every pod and exactly one master. -/
structure Post (res : EnsureResult) (g : Graph) : Prop where
  follows : Follows req denotes res.master g
  defined : ∀ p ∈ req.redisPods, p.name ∈ res.roles
  unique : ∀ q, res.roles.lookup q = some .master ↔ q = res.master

/-- What the last pass must have seen, with `g` the graph before it and `t` its events: the master
was one already or answered `INFO`, and a pod whose `INFO` looks aligned points to the master. -/
structure Sound (m : String) (g : Graph) (t : Trace) : Prop where
  master : g m = .master ∨ ∃ info, (infoReplies m t).head? = some (.ok info)
  target : ∀ p ∈ req.redisPods, p.name ≠ m → ∀ info,
    (infoReplies p.name t).head? = some (.ok info) →
    looksAligned req.cluster req.redisPods req.options m info = true →
    denotes m info.masterHost ∧ info.masterPort = redisPort req.cluster

end

section
variable {cr : KeyValCluster} {s s' : RedisState} {replies : List (Result ReplicationInfo)}
  {role : PodRole} {info : ReplicationInfo}

theorem PodPass.role_master (h : PodPass cr pods opts m m s replies s' role info) :
    role = .master := by
  cases h with
  | unread | seen | promoted => rfl
  | aligned hne | realigned hne => exact absurd rfl hne

theorem PodPass.role_replica {pod : String} (hne : pod ≠ m)
    (h : PodPass cr pods opts m pod s replies s' role info) : role = .replica := by
  cases h with
  | unread heq | seen heq | promoted heq => exact absurd heq hne
  | aligned | realigned => rfl

theorem PodPass.master_iff (h : PodPass cr pods opts m m s replies s' role info)
    (htruth : ∀ i rest, replies = .ok i :: rest → s.Shows i) :
    s' = .master ↔ s = .master ∨ ∃ i, replies.head? = some (.ok i) := by
  cases h with
  | unread => simp
  | seen _ hrole =>
    have hs : s = .master := by
      have hshow := htruth _ _ rfl
      cases s with
      | master => rfl
      | replica host port =>
        have hr := hshow.1
        rw [hrole] at hr
        exact absurd hr (by decide)
    simp [hs]
  | promoted => simp
  | aligned hne | realigned hne => exact absurd rfl hne

theorem PodPass.target_iff {pod : String} (hne : pod ≠ m) (denotes : String → Prop)
    (hden : denotes (masterHost cr pods m)) (h : PodPass cr pods opts m pod s replies s' role info)
    (htruth : ∀ i rest, replies = .ok i :: rest → s.Shows i) :
    (∃ host, s' = .replica host (redisPort cr) ∧ denotes host) ↔
      ∀ i, replies.head? = some (.ok i) → looksAligned cr pods opts m i = true →
        denotes i.masterHost ∧ i.masterPort = redisPort cr := by
  cases h with
  | unread heq | seen heq | promoted heq => exact absurd heq hne
  | @aligned i _ ha =>
    have hshow := htruth _ _ rfl
    constructor
    · rintro ⟨host, rfl, hd⟩ j hj -
      obtain rfl := Except.ok.inj (Option.some.inj hj)
      obtain ⟨-, hhost, hport⟩ := hshow
      exact ⟨hhost ▸ hd, hport⟩
    · intro hall
      obtain ⟨hd, hport⟩ := hall i rfl ha
      cases s with
      | master =>
        -- an aligned reply is not the reply of a master
        have hrole : i.role = "master" := hshow
        simp only [looksAligned, hrole, Bool.and_eq_true] at ha
        exact absurd ha.1.1.1 (by decide)
      | replica host port =>
        obtain ⟨-, hhost, hport'⟩ := hshow
        exact ⟨host, by rw [← hport, hport'], hhost ▸ hd⟩
  | @realigned r rest i _ hno _ =>
    refine ⟨fun _ j hj ha => ?_, fun _ => ⟨_, rfl, hden⟩⟩
    rw [hno j (Option.some.inj hj)] at ha
    cases ha

end

section
variable {g : Graph}

theorem Pass.designated_iff
    (hpass : Pass req.cluster req.redisPods req.options m g t res req.redisPods)
    (hadm : redisWorld.Admits g t) (hm : ∃ p ∈ req.redisPods, p.name = m) :
    redisWorld.after g t m = .master ↔
      g m = .master ∨ ∃ i, (infoReplies m t).head? = some (.ok i) := by
  obtain ⟨p, hp, rfl⟩ := hm
  obtain ⟨role, info, hpp, -, -⟩ := hpass.pod p hp
  exact hpp.master_iff (hpass.truth hadm p hp)

theorem Pass.follows_iff {denotes : String → String → Prop}
    (hpass : Pass req.cluster req.redisPods req.options m g t res req.redisPods)
    (hadm : redisWorld.Admits g t) (hden : denotes m (masterHost req.cluster req.redisPods m))
    (hm : ∃ p ∈ req.redisPods, p.name = m) :
    Follows req denotes m (redisWorld.after g t) ↔ Sound req denotes m g t := by
  have hmaster := hpass.designated_iff hadm hm
  constructor
  · refine fun h => ⟨hmaster.1 h.master, fun p hp hne => ?_⟩
    obtain ⟨role, info, hpp, -, -⟩ := hpass.pod p hp
    exact (hpp.target_iff hne (denotes m) hden (hpass.truth hadm p hp)).1 (h.target p hp hne)
  · refine fun h => ⟨hmaster.2 h.master, fun p hp hne => ?_⟩
    obtain ⟨role, info, hpp, -, -⟩ := hpass.pod p hp
    exact (hpp.target_iff hne (denotes m) hden (hpass.truth hadm p hp)).2 (h.target p hp hne)

theorem Pass.roles (hpass : Pass req.cluster req.redisPods req.options m g t res req.redisPods)
    (hm : ∃ p ∈ req.redisPods, p.name = m) :
    (∀ p ∈ req.redisPods, p.name ∈ res.roles) ∧ ∀ q, res.roles.lookup q = some .master ↔ q = m := by
  refine ⟨fun p hp => ?_, fun q => ⟨fun hq => ?_, ?_⟩⟩
  · obtain ⟨role, info, -, hrole, -⟩ := hpass.pod p hp
    exact Finmap.mem_of_lookup_eq_some hrole
  · by_contra hne
    by_cases hmem : q ∈ req.redisPods.map (·.name)
    · obtain ⟨p, hp, rfl⟩ := mem_map.1 hmem
      obtain ⟨role, info, hpp, hrole, -⟩ := hpass.pod p hp
      rw [hq, hpp.role_replica hne] at hrole
      cases hrole
    · rw [(hpass.frame q hmem).2.2.1] at hq
      cases hq
  · rintro rfl
    obtain ⟨p, hp, rfl⟩ := hm
    obtain ⟨role, info, hpp, hrole, -⟩ := hpass.pod p hp
    rw [hrole, hpp.role_master]

end

theorem LastPass.after_eq {t t1 t2 t3 : Trace} (h : LastPass req m t t1 t2 t3 res)
    (g : Graph) : redisWorld.after g t = redisWorld.after (redisWorld.after g t1) t2 := by
  have hquiet : ∀ e ∈ t3, Quiet e.req := by
    intro e he
    obtain ⟨ns, name, master, detail, hreq⟩ := h.rest e he
    rw [hreq]
    trivial
  rw [h.split, World.after_append, World.after_append, after_quiet _ hquiet]

theorem LastPass.admits {t t1 t2 t3 : Trace} (h : LastPass req m t t1 t2 t3 res)
    {g : Graph} (hadm : redisWorld.Admits g t) : redisWorld.Admits (redisWorld.after g t1) t2 := by
  rw [h.split, World.admits_append, World.admits_append] at hadm
  exact hadm.1.2

/-- **The topology of `ensureTopology`**: a run without error that reports a listed master has a
last pass, and it reaches the postcondition exactly when that pass saw what it relies on: the
master was one already or answered `INFO`, and every pod left alone points to the master. -/
theorem ensureTopology_post_iff {F : Formats} {req : EnsureRequest}
    {denotes : String → String → Prop} {g : Graph} {t : Trace} {res : EnsureResult}
    (hnd : (req.redisPods.map (·.name)).Nodup)
    (hden : ∀ p ∈ req.redisPods, denotes p.name (masterHost req.cluster req.redisPods p.name))
    (hrun : (ensureTopology F req).Runs t (res, none)) (hadm : redisWorld.Admits g t)
    (hm : ∃ p ∈ req.redisPods, p.name = res.master) :
    (∃ t1 t2 t3 res', LastPass req res.master t t1 t2 t3 res') ∧
    ∀ t1 t2 t3 res', LastPass req res.master t t1 t2 t3 res' →
      (Post req denotes res (redisWorld.after g t) ↔
        Sound req denotes res.master (redisWorld.after g t1) t2) := by
  obtain ⟨u1, u2, u3, res0, hlast0, hagree⟩ := ensureTopology_lastPass hrun
  have hden' : denotes res.master (masterHost req.cluster req.redisPods res.master) := by
    obtain ⟨p, hp, hpm⟩ := hm
    exact hpm ▸ hden p hp
  have hpass : ∀ {t1 t2 t3 res'}, LastPass req res.master t t1 t2 t3 res' →
      Pass req.cluster req.redisPods req.options res.master (redisWorld.after g t1) t2 res'
        req.redisPods := by
    intro t1 t2 t3 res' hlast
    have h := ensureWithMaster_pass hlast.pass hnd (redisWorld.after g t1)
    rwa [designated_of_mem hm] at h
  obtain ⟨hdefined, hunique⟩ := (hpass hlast0).roles hm
  refine ⟨⟨u1, u2, u3, res0, hlast0⟩, fun t1 t2 t3 res' hlast => ?_⟩
  have hiff := (hpass hlast).follows_iff (hlast.admits hadm) hden' hm
  rw [← hlast.after_eq g] at hiff
  constructor
  · intro h
    exact hiff.1 h.follows
  · intro h
    rw [← hagree.roles] at hdefined hunique
    exact ⟨hiff.2 h, hdefined, hunique⟩

/-- The host is the pod's address. -/
def podAddress (pod host : String) : Prop := host = masterHost clusterA podsA pod

/-- Probing `a` when `a-0` is the master. -/
theorem ensureTopology_post_iff_a0 :
    ∃ t res, (ensureTopology .decimal { cluster := clusterA, redisPods := podsA }).Runs t
        (res, none) ∧ redisWorld.Admits graphA t ∧ res.master = "a-0" ∧
      (∃ t1 t2 t3 res', LastPass { cluster := clusterA, redisPods := podsA } res.master t t1 t2 t3
        res') ∧
      ∀ t1 t2 t3 res', LastPass { cluster := clusterA, redisPods := podsA } res.master t t1 t2 t3
          res' →
        (Post { cluster := clusterA, redisPods := podsA } podAddress res
          (redisWorld.after graphA t) ↔
        Sound { cluster := clusterA, redisPods := podsA } podAddress res.master
          (redisWorld.after graphA t1) t2) := by
  let p := ensureTopology .decimal { cluster := clusterA, redisPods := podsA }
  refine ⟨(redisWorld.play healthy graphA p).1, (redisWorld.play healthy graphA p).2.1,
    World.runs_play graphA p, World.admits_play healthy_ok graphA p, rfl, ?_⟩
  exact ensureTopology_post_iff (F := .decimal) (by decide) (fun _ _ => rfl)
    (World.runs_play graphA p) (World.admits_play healthy_ok graphA p)
    ⟨_, mem_cons_self, rfl⟩

-- A replica of another cluster's `a-0` looks aligned: hosts are compared by their first label.
example : looksAligned clusterA podsA {} "a-0"
    { role := "replica", masterHost := "a-0.b-headless.test.svc", masterPort := 6379 } = true := by
  decide

/-- Replicas of a host that is gone. -/
def orphans : Graph := fun _ => .replica "10.0.0.9" 6379

/-- The Redis of a-0 does not answer. -/
def deafA0 (g : Graph) : Replies
  | .replicationInfo pod => if pod = "a-0" then .error (.new "i/o timeout") else .ok (g pod).info
  | q => healthy g q

theorem deafA0_ok (g : Graph) (q : Req) : redisWorld.ok g ⟨q, deafA0 g q⟩ := by
  cases q with
  | replicationInfo pod =>
    by_cases h : pod = "a-0"
    · simp only [deafA0, if_pos h]
      trivial
    · simp only [deafA0, if_neg h]
      exact healthy_ok g (.replicationInfo pod)
  | role pod => exact healthy_ok g (.role pod)
  | _ => trivial

/-- Both pods are replicas and `INFO` fails on `a-0`: the topology is reported with the master
`a-0`, which still is a replica. -/
theorem ensureTopology_reports_replica_as_master : (podsA.map (·.name)).Nodup ∧
    ∃ t res, (ensureTopology .decimal { cluster := clusterA, redisPods := podsA }).Runs t
        (res, none) ∧ redisWorld.Admits orphans t ∧ res.master = "a-0" ∧
      redisWorld.after orphans t "a-0" = .replica "10.0.0.9" 6379 ∧
      ∀ denotes, ¬ Post { cluster := clusterA, redisPods := podsA } denotes res
        (redisWorld.after orphans t) := by
  let p := ensureTopology .decimal { cluster := clusterA, redisPods := podsA }
  have hstate : redisWorld.after orphans (redisWorld.play deafA0 orphans p).1 "a-0" =
      .replica "10.0.0.9" 6379 := by decide
  refine ⟨by decide, (redisWorld.play deafA0 orphans p).1, (redisWorld.play deafA0 orphans p).2.1,
    World.runs_play orphans p, World.admits_play deafA0_ok orphans p, rfl, hstate,
    fun denotes h => ?_⟩
  have hmaster : redisWorld.after orphans (redisWorld.play deafA0 orphans p).1 "a-0" = .master :=
    h.follows.master
  rw [hstate] at hmaster
  cases hmaster

end Keyval.Replication
