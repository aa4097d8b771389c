import KeyvalOperator.Proof.Recovery

/-!
# A second call

`ensureTopology` is called again with the same request, after a call that succeeded. Pods and
Sentinel give the same answers, and every replica reports its link up.

* `Pointing`: the state of a replica that the pass leaves alone when its link is up; a pass leaves
  every other pod in such a state (`PodPass.pointing`).
* `Picks`: how a call comes to its master. The second call comes to the same one (`Picks.same`).
* `ensureTopology_idle_iff`: **when the second call does nothing**.
-/

namespace Keyval.Replication

open Go Interact Interact.Prog List

variable {o : EnsureResult × Option Error} {p : Pod} {res : EnsureResult} {m master : String}
  {info : ReplicationInfo} {cr : KeyValCluster} {pods : List Pod} {opts : EnsureOptions} {g : Graph}
  {t : Trace} {req : EnsureRequest} {s : RedisState} {pod : String} {F : Formats}

/-! ## Replicas in place -/

/-- The reply to `INFO` shows a link that is up and no sync in progress. -/
def LinkUp (info : ReplicationInfo) : Prop :=
  info.masterLinkStatus = "up" ∧ info.masterSyncInProgress = false

/-- The pod replicates the master, on its port. -/
def Pointing (cr : KeyValCluster) (pods : List Pod) (m : String) : RedisState → Prop
  | .master => False
  | .replica host port =>
    hostMatchesMaster host m (masterHost cr pods m) pods = true ∧ (port = 0 ∨ port = redisPort cr)

theorem Pointing.ne_master (h : Pointing cr pods m s) : s ≠ .master := by
  rintro rfl
  exact h

theorem hostMatchesMaster_ne {host masterName masterIP : String}
    (h : hostMatchesMaster host masterName masterIP pods = true) : host ≠ "" := by
  rintro rfl
  exact absurd h (by simp [hostMatchesMaster])

theorem masterHost_ne : masterHost cr pods m ≠ "" := by
  unfold masterHost
  dsimp only
  split
  · unfold podDNSName podFQDN
    split <;> simp
  · assumption

theorem pointing_of_aligned (hshow : s.Shows info) (h : looksAligned cr pods opts m info = true) :
    Pointing cr pods m s := by
  simp only [looksAligned, Bool.and_eq_true, Bool.or_eq_true, decide_eq_true_eq] at h
  obtain ⟨⟨⟨hrole, hhost⟩, hport⟩, -⟩ := h
  cases s with
  | master =>
    rw [show info.role = "master" from hshow] at hrole
    exact absurd hrole (by decide)
  | replica host port =>
    obtain ⟨-, rfl, rfl⟩ := hshow
    exact ⟨hhost, hport⟩

theorem aligned_of_pointing (h : Pointing cr pods m s) (hshow : s.Shows info)
    (hlink : LinkUp info) : looksAligned cr pods opts m info = true := by
  cases s with
  | master => exact h.elim
  | replica host port =>
    obtain ⟨hrole, rfl, rfl⟩ := hshow
    obtain ⟨hhost, hport⟩ := h
    have hfold : equalFold "replica" "replica" = true := by decide
    have hup : equalFold "up" "up" = true := by decide
    simp only [looksAligned, replicaAligned, hrole, hlink.1, hlink.2, hfold, hup, hhost,
      Bool.and_eq_true, Bool.or_eq_true, decide_eq_true_eq, Bool.not_false, and_true, true_and,
      or_true, true_or]
    exact ⟨hport, hostMatchesMaster_ne hhost⟩

theorem PodPass.pointing {s s' : RedisState} {replies : List (Result ReplicationInfo)}
    {role : PodRole} (h : PodPass cr pods opts m pod s replies s' role info) (hne : pod ≠ m)
    (htruth : ∀ i rest, replies = .ok i :: rest → s.Shows i) : Pointing cr pods m s' := by
  cases h with
  | unread heq | seen heq | promoted heq => exact absurd heq hne
  | aligned _ ha => exact pointing_of_aligned (htruth _ _ rfl) ha
  | realigned =>
    refine ⟨?_, .inr rfl⟩
    unfold hostMatchesMaster
    rw [if_neg masterHost_ne]
    split
    · rfl
    · rw [if_pos ⟨masterHost_ne, rfl⟩]

/-! ## Probing -/

/-- The master that probing finds: the first master by name, else the first pod by name. -/
def probeMaster (pods : List Pod) (g : Graph) : String :=
  match (((sortedPodsByName pods).filter fun p => g p.name = .master).map
      (·.name)).insertionSort (· ≤ ·) with
  | [] => designated pods ""
  | m :: _ => m

theorem probeMaster_cases (pods : List Pod) (g : Graph) :
    (∃ p ∈ pods, p.name = probeMaster pods g ∧ g p.name = .master) ∨
      probeMaster pods g = designated pods "" ∧ ∀ p ∈ pods, g p.name ≠ .master := by
  unfold probeMaster
  split
  · next hnone =>
    right
    refine ⟨rfl, fun p hp hmaster => ?_⟩
    have hmem : p.name ∈ (((sortedPodsByName pods).filter fun p => g p.name = .master).map
        (·.name)).insertionSort (· ≤ ·) := by
      refine (perm_insertionSort _ _).mem_iff.2 (mem_map_of_mem ?_)
      exact mem_filter.2 ⟨(sortedPodsByName_perm pods).mem_iff.2 hp, by simpa using hmaster⟩
    rw [hnone] at hmem
    cases hmem
  · next m rest hsome =>
    left
    have hmem := (perm_insertionSort _ _).mem_iff.1 (hsome ▸ mem_cons_self)
    obtain ⟨p, hp, rfl⟩ := mem_map.1 hmem
    obtain ⟨hlisted, hmaster⟩ := mem_filter.1 hp
    exact ⟨p, (sortedPodsByName_perm pods).mem_iff.1 hlisted, rfl, by simpa using hmaster⟩

theorem probeMaster_mem {pods : List Pod} (hpods : pods ≠ []) (g : Graph) :
    ∃ p ∈ pods, p.name = probeMaster pods g := by
  rcases probeMaster_cases pods g with ⟨p, hp, hname, -⟩ | ⟨hfirst, -⟩
  · exact ⟨p, hp, hname⟩
  · rw [hfirst]
    exact designated_empty_mem hpods

theorem probeMaster_again {pods : List Pod} {g g' : Graph}
    (hother : ∀ p ∈ pods, p.name ≠ probeMaster pods g → g' p.name ≠ .master)
    (hstays : g (probeMaster pods g) = .master → g' (probeMaster pods g) = .master) :
    probeMaster pods g' = probeMaster pods g := by
  rcases probeMaster_cases pods g' with ⟨p, hp, hname, hmaster⟩ | ⟨hfirst, hnone⟩
  · by_contra hne
    exact hother p hp (hname ▸ hne) hmaster
  · rcases probeMaster_cases pods g with ⟨p, hp, hname, hmaster⟩ | ⟨hfirst', -⟩
    · exact absurd (hstays (hname ▸ hmaster)) (hname ▸ hnone p hp)
    · rw [hfirst, hfirst']

theorem detectPod_truth {s s' : Map PodRole × List String}
    (h : (detectPod opts s p).Runs t (s', none)) (hok : ∀ e ∈ t, redisWorld.ok g e) :
    s'.2 = s.2 ++ ([p].filter fun p => g p.name = .master).map (·.name) := by
  obtain ⟨r, t1, rfl, h1⟩ := runs_asked.1 h
  cases r with
  | error e => cases (runs_ret.1 h1).2
  | ok u =>
    obtain ⟨t2, r, t3, rfl, -, h3⟩ := runs_bind.1 h1
    cases r with
    | error e => cases (runs_ret.1 h3).2
    | ok u' =>
      obtain ⟨t4, r, t5, rfl, h4, h5⟩ := runs_bind.1 h3
      cases r with
      | error e => cases (runs_ret.1 h5).2
      | ok role =>
        obtain ⟨t6, t7, rfl, -, h7⟩ := retryFrom_ok (Q := fun _ => True) (fun _ => trivial)
          (fun _ _ _ _ _ => trivial) h4
        have hrole : role = (g p.name).role :=
          hok ⟨.role p.name, .ok role⟩ (by simp [runs_ask h7])
        dsimp only at h5
        cases hg : g p.name with
        | master =>
          rw [hrole, hg, if_pos (show RedisState.master.role = "master" from rfl)] at h5
          obtain ⟨-, hres⟩ := runs_ret.1 h5
          obtain ⟨rfl, -⟩ := Prod.mk.inj hres
          simp [hg]
        | replica host port =>
          have hne : (RedisState.replica host port).role ≠ "master" := by
            show "replica" ≠ "master"
            decide
          rw [hrole, hg, if_neg hne] at h5
          obtain ⟨-, hres⟩ := runs_ret.1 h5
          obtain ⟨rfl, -⟩ := Prod.mk.inj hres
          simp [hg]

theorem detectRoles_truth {roles : Map PodRole} (hpods : pods ≠ [])
    (h : (detectRoles pods opts).Runs t (.ok (m, roles))) (hok : ∀ e ∈ t, redisWorld.ok g e) :
    m = probeMaster pods g := by
  unfold detectRoles at h
  rw [if_neg hpods] at h
  obtain ⟨t1, ⟨⟨roles', masters⟩, err⟩, t2, rfl, h1, h2⟩ := runs_bind.1 h
  have hok1 := (forall_mem_append.1 hok).1
  cases err with
  | some e => cases (runs_ret.1 h2).2
  | none =>
    have hmasters : masters =
        ((sortedPodsByName pods).filter fun p => g p.name = .master).map (·.name) := by
      refine h1.forErr_inv (I := fun done _ s => s.2 =
        (done.filter fun p => g p.name = .master).map (·.name)) rfl ?_
      intro done p t0 s u s1 _ hu hI hrun
      have hmem : ∀ e ∈ u, e ∈ t1 := fun e he => hu.subset (mem_append_right _ he)
      rw [detectPod_truth hrun fun e he => hok1 e (hmem e he), hI, filter_append, map_append]
    unfold probeMaster
    rw [← hmasters]
    dsimp only at h2
    cases hsort : masters.insertionSort (· ≤ ·) with
    | nil =>
      rw [hsort] at h2
      obtain ⟨-, hres⟩ := runs_ret.1 h2
      exact (Prod.mk.inj (Except.ok.inj hres)).1
    | cons m' rest =>
      rw [hsort] at h2
      obtain ⟨-, hres⟩ := runs_ret.1 h2
      exact (Prod.mk.inj (Except.ok.inj hres)).1

/-! ## The second pass -/

/-- The replies of a second call: the pods are reachable, every pod that is a replica in `g` reports
its link up, and the cache knows no other master than `m`. -/
def Steady (g : Graph) (m : String) : Event Op → Prop
  | ⟨.ctxErr, r⟩ => r = none
  | ⟨.redisForPod _, r⟩ => r = .ok ()
  | ⟨.auth .., r⟩ => r = .ok ()
  | ⟨.role _, r⟩ => ∃ role, r = .ok role
  | ⟨.replicationInfo pod, r⟩ => g pod ≠ .master → ∃ info, r = .ok info ∧ LinkUp info
  | ⟨.cacheLookup .., r⟩ => ∀ candidate detail, r = some (candidate, detail) → candidate = m
  | _ => True

/-- A request that only looks at the Redis pods. -/
def AccessReq : Req → Prop
  | .ctxErr | .redisForPod _ | .auth .. | .role _ => True
  | _ => False

theorem Steady.recovering {e : Event Op} (h : Steady g m e) (hq : AccessReq e.req) :
    Recovering e := by
  obtain ⟨q, r⟩ := e
  cases q <;> first | exact h | exact hq.elim

theorem maybeAuth_steady {opts : EnsureOptions} {r : Result Unit}
    (h : (maybeAuth pod opts).Runs t r) (hsteady : ∀ e ∈ t, Steady g m e) : ∃ u, r = .ok u := by
  refine maybeAuth_recovers h fun e he => (hsteady e he).recovering ?_
  exact (maybeAuth_asks pod opts trivial fun _ => trivial).mem h e he

theorem detectPod_steady {s : Map PodRole × List String}
    {o : (Map PodRole × List String) × Option Error} (h : (detectPod opts s p).Runs t o)
    (hsteady : ∀ e ∈ t, Steady g master e) : o.2 = none := by
  obtain ⟨r, t1, rfl, h1⟩ := runs_asked.1 h
  obtain ⟨hr, hsteady1⟩ := forall_mem_cons.1 hsteady
  obtain rfl : r = .ok () := hr
  obtain ⟨t2, r, t3, rfl, h2, h3⟩ := runs_bind.1 h1
  obtain ⟨hsteady2, hsteady3⟩ := forall_mem_append.1 hsteady1
  obtain ⟨u, rfl⟩ := maybeAuth_steady h2 hsteady2
  obtain ⟨t4, r, t5, rfl, h4, h5⟩ := runs_bind.1 h3
  have hrole : ∀ e ∈ t4, Recovering e := fun e he =>
    (hsteady3 e (mem_append_left _ he)).recovering
      ((retry_asks (P := AccessReq) trivial (ask_asks trivial) 3).mem h4 e he)
  obtain ⟨role, rfl⟩ := retryFrom_recovers
    (fun t r hr hR => recovering_ask (q := .role _) hr hR) h4 hrole
  dsimp only at h5
  split at h5
  · rw [(runs_ret.1 h5).2]
  · rw [(runs_ret.1 h5).2]

theorem detectRoles_steady {r : Result (String × Map PodRole)}
    (h : (detectRoles pods opts).Runs t r) (hsteady : ∀ e ∈ t, Steady g master e) :
    ∃ a, r = .ok a := by
  unfold detectRoles at h
  split at h
  · exact ⟨_, (runs_ret.1 h).2⟩
  obtain ⟨t1, ⟨⟨roles, masters⟩, err⟩, t2, rfl, h1, h2⟩ := runs_bind.1 h
  have hsteady1 := (forall_mem_append.1 hsteady).1
  cases err with
  | some e =>
    obtain ⟨p, -, s, u1, u2, rfl, hrun⟩ := h1.forErr_error
    cases detectPod_steady hrun (forall_mem_append.1 hsteady1).2
  | none =>
    dsimp only at h2
    split at h2
    · exact ⟨_, (runs_ret.1 h2).2⟩
    · exact ⟨_, (runs_ret.1 h2).2⟩

theorem ensurePod_reaches
    (h : (ensurePod cr pods opts m res p).Runs t o) (hsteady : ∀ e ∈ t, Steady g master e) :
    ∃ t0 reply t1, t = t0 ++ ⟨.replicationInfo p.name, reply⟩ :: t1 ∧ (∀ e ∈ t0, Quiet e.req) ∧
      (if p.name = m then ensureMaster res p.name reply
        else ensureReplica cr pods opts m res p.name reply).Runs t1 o := by
  obtain ⟨r, t1, rfl, h1⟩ := runs_asked.1 h
  obtain ⟨hr, hsteady1⟩ := forall_mem_cons.1 hsteady
  obtain rfl : r = .ok () := hr
  obtain ⟨t2, r, t3, rfl, h2, h3⟩ := runs_bind.1 h1
  obtain ⟨u, rfl⟩ := maybeAuth_steady h2 (forall_mem_append.1 hsteady1).1
  obtain ⟨reply, t4, rfl, h4⟩ := runs_call.1 h3
  refine ⟨⟨.redisForPod p.name, .ok ()⟩ :: t2, reply, t4, rfl, fun e he => ?_, h4⟩
  rcases mem_cons.1 he with rfl | he
  · trivial
  · exact (maybeAuth_asks (P := Quiet) p.name opts trivial fun _ => trivial).mem h2 e he

theorem reply_steady {reply : Result ReplicationInfo} {t0 t1 : Trace}
    (hquiet : ∀ e ∈ t0, Quiet e.req)
    (hadm : redisWorld.Admits g (t0 ++ ⟨.replicationInfo pod, reply⟩ :: t1))
    (hsteady : ∀ e ∈ t0 ++ ⟨.replicationInfo pod, reply⟩ :: t1, Steady g master e) :
    (∀ info, reply = .ok info → (g pod).Shows info) ∧
      (g pod ≠ .master → ∃ info, reply = .ok info ∧ LinkUp info) := by
  constructor
  · rintro info rfl
    have hok := (redisWorld.admits_append.1 hadm).2.1
    rw [after_quiet g hquiet] at hok
    exact hok
  · exact hsteady ⟨.replicationInfo pod, reply⟩ (by simp)

/-- The pod has the role that the call is to give it. -/
def InPlace (cr : KeyValCluster) (pods : List Pod) (m : String) (g : Graph) (p : Pod) : Prop :=
  if p.name = m then g p.name = .master else Pointing cr pods m (g p.name)

/-- **A pod in place** is left alone. -/
theorem ensurePod_idle
    (h : (ensurePod cr pods opts m res p).Runs t o) (hadm : redisWorld.Admits g t)
    (hsteady : ∀ e ∈ t, Steady g master e) (hplace : InPlace cr pods m g p) :
    (∀ e ∈ t, Quiet e.req) ∧ o.2 = none ∧ o.1.changed = res.changed ∧ o.1.drift = res.drift := by
  obtain ⟨t0, reply, t1, rfl, hquiet, h1⟩ := ensurePod_reaches h hsteady
  obtain ⟨hshow, hlink⟩ := reply_steady hquiet hadm hsteady
  have hdone (hnil : t1 = []) :
      ∀ e ∈ t0 ++ ⟨.replicationInfo p.name, reply⟩ :: t1, Quiet e.req := by
    subst hnil
    exact forall_mem_append.2 ⟨hquiet, forall_mem_cons.2 ⟨trivial, forall_mem_nil _⟩⟩
  unfold InPlace at hplace
  by_cases hm : p.name = m
  · rw [if_pos hm] at h1 hplace
    unfold ensureMaster at h1
    cases reply with
    | error e =>
      rw [if_pos rfl] at h1
      obtain ⟨hnil, rfl⟩ := runs_ret.1 h1
      exact ⟨hdone hnil, rfl, rfl, rfl⟩
    | ok info =>
      have hrole : info.role = "master" := by
        have hinfo := hshow info rfl
        rw [hplace] at hinfo
        exact hinfo
      rw [if_pos hrole] at h1
      obtain ⟨hnil, rfl⟩ := runs_ret.1 h1
      exact ⟨hdone hnil, rfl, rfl, rfl⟩
  · rw [if_neg hm] at h1 hplace
    obtain ⟨info, rfl, hup⟩ := hlink hplace.ne_master
    unfold ensureReplica at h1
    dsimp only at h1
    rw [if_pos (aligned_of_pointing hplace (hshow info rfl) hup)] at h1
    obtain ⟨hnil, rfl⟩ := runs_ret.1 h1
    exact ⟨hdone hnil, rfl, rfl, rfl⟩

theorem ensurePod_promotes (h : (ensurePod cr pods opts m res p).Runs t o)
    (hadm : redisWorld.Admits g t) (hsteady : ∀ e ∈ t, Steady g master e) (hm : p.name = m)
    (hg : g p.name ≠ .master) : ¬ ∀ e ∈ t, Quiet e.req := by
  obtain ⟨t0, reply, t1, rfl, hquiet, h1⟩ := ensurePod_reaches h hsteady
  obtain ⟨hshow, hlink⟩ := reply_steady hquiet hadm hsteady
  obtain ⟨info, rfl, -⟩ := hlink hg
  have hrole : info.role ≠ "master" := (hshow info rfl).role_ne hg
  rw [if_pos hm] at h1
  unfold ensureMaster at h1
  rw [if_neg hrole] at h1
  -- the context is not done, so the first attempt asks the pod
  obtain ⟨t2, r, t3, rfl, h2, -⟩ := runs_bind.1 h1
  obtain ⟨rep, t4, rfl, h4⟩ := runs_call.1 h2
  obtain rfl : rep = none := hsteady ⟨.ctxErr, rep⟩ (by simp)
  obtain ⟨rep, t5, rfl, -⟩ := runs_call.1 h4
  intro hall
  exact hall ⟨.noOne p.name, rep⟩ (by simp)

theorem forErr_idle : ∀ {ps : List Pod} {res : EnsureResult} {t : Trace}
    {o : EnsureResult × Option Error}, (Prog.forErr (ensurePod cr pods opts m) ps res).Runs t o →
      redisWorld.Admits g t → (∀ e ∈ t, Steady g master e) → (∀ p ∈ ps, InPlace cr pods m g p) →
      (∀ e ∈ t, Quiet e.req) ∧ o.2 = none ∧ o.1.changed = res.changed ∧ o.1.drift = res.drift
  | [], res, t, o, h, _, _, _ => by
    obtain ⟨rfl, rfl⟩ := runs_ret.1 h
    exact ⟨forall_mem_nil _, rfl, rfl, rfl⟩
  | p :: ps, res, t, o, h, hadm, hsteady, hplace => by
    obtain ⟨hp, hps⟩ := forall_mem_cons.1 hplace
    rcases runs_forErr_cons.1 h with ⟨e, -, h1⟩ | ⟨t1, res1, t2, rfl, h1, h2⟩
    · exact ensurePod_idle h1 hadm hsteady hp
    · obtain ⟨hadm1, hadm2⟩ := redisWorld.admits_append.1 hadm
      obtain ⟨hsteady1, hsteady2⟩ := forall_mem_append.1 hsteady
      obtain ⟨hquiet1, -, hchanged1, hdrift1⟩ := ensurePod_idle h1 hadm1 hsteady1 hp
      rw [after_quiet g hquiet1] at hadm2
      obtain ⟨hquiet2, herr, hchanged2, hdrift2⟩ := forErr_idle h2 hadm2 hsteady2 hps
      exact ⟨forall_mem_append.2 ⟨hquiet1, hquiet2⟩, herr, hchanged2.trans hchanged1,
        hdrift2.trans hdrift1⟩

theorem forErr_promotes : ∀ {ps : List Pod} {res : EnsureResult} {t : Trace}
    {o : EnsureResult × Option Error}, (Prog.forErr (ensurePod cr pods opts m) ps res).Runs t o →
      redisWorld.Admits g t → (∀ e ∈ t, Steady g master e) →
      (∀ p ∈ ps, p.name ≠ m → InPlace cr pods m g p) → g m ≠ .master → (∃ p ∈ ps, p.name = m) →
      ¬ ∀ e ∈ t, Quiet e.req
  | [], _, _, _, _, _, _, _, _, hmem => by
    obtain ⟨p, hp, -⟩ := hmem
    cases hp
  | p :: ps, res, t, o, h, hadm, hsteady, hplace, hg, hmem => by
    intro hall
    rcases runs_forErr_cons.1 h with ⟨e, herr, h1⟩ | ⟨t1, res1, t2, rfl, h1, h2⟩
    · by_cases hm : p.name = m
      · exact ensurePod_promotes h1 hadm hsteady hm (hm ▸ hg) hall
      · obtain ⟨-, hnone, -, -⟩ :=
          ensurePod_idle h1 hadm hsteady (hplace p mem_cons_self hm)
        rw [hnone] at herr
        cases herr
    · obtain ⟨hadm1, hadm2⟩ := redisWorld.admits_append.1 hadm
      obtain ⟨hsteady1, hsteady2⟩ := forall_mem_append.1 hsteady
      obtain ⟨hall1, hall2⟩ := forall_mem_append.1 hall
      by_cases hm : p.name = m
      · exact ensurePod_promotes h1 hadm1 hsteady1 hm (hm ▸ hg) hall1
      · rw [after_quiet g hall1] at hadm2
        obtain ⟨q, hq, hqm⟩ := hmem
        have hq' : q ∈ ps := (mem_cons.1 hq).resolve_left fun heq => hm (heq ▸ hqm)
        exact forErr_promotes h2 hadm2 hsteady2 (fun p hp => hplace p (.tail _ hp)) hg
          ⟨q, hq', hqm⟩ hall2

/-! ## How a call comes to its master -/

theorem ensureFromCache_cases {opts : EnsureOptions} {r : Option EnsureResult}
    (h : (ensureFromCache req opts).Runs t r) :
    (r = none ∧ ∀ e ∈ t, Quiet e.req) ∨
    ∃ candidate detail t1 t2 result err, t = ⟨.cacheLookup req.cluster.ns req.cluster.name,
        some (candidate, detail)⟩ :: (t1 ++ t2) ∧
      (ensureWithMaster req.cluster req.redisPods candidate opts).Runs t1 (result, err) ∧
      (err = none → t2 = [] ∧ ∃ result', r = some result' ∧ result'.source = .cache ∧
        result'.Agrees result) ∧ (err ≠ none → r = none) := by
  have hrun := ensureFromCache_run h
  cases hrun with
  | unused _ => exact .inl ⟨rfl, forall_mem_nil _⟩
  | miss _ => exact .inl ⟨rfl, forall_mem_cons.2 ⟨trivial, forall_mem_nil _⟩⟩
  | unlisted _ _ =>
    refine .inl ⟨rfl, ?_⟩
    simp only [forall_mem_cons]
    exact ⟨trivial, trivial, forall_mem_nil _⟩
  | hit _ _ hpass =>
    refine .inr ⟨_, _, _, [], _, none, by rw [append_nil], hpass, fun _ => ⟨rfl, _, rfl, rfl,
      rfl, rfl, rfl, rfl, rfl, rfl⟩, fun h => absurd rfl h⟩
  | failed _ _ hpass => exact .inr ⟨_, _, _, _, _, _, rfl, hpass, nofun, fun _ => rfl⟩

/-- How a call comes to its master when the cache does not decide: it is forced, named by Sentinel
with the given answers, or found by probing in the graph. -/
inductive Picks (req : EnsureRequest) (answers : Replies) (g : Graph) : String → Prop
  | forced : req.forceMaster ≠ "" → Picks req answers g req.forceMaster
  | sentinel {t : Trace} {name detail : String} : req.forceMaster = "" →
      (masterFromSentinel req).Runs t (.ok (name, detail)) → (∀ e ∈ t, e.rep = answers e.req) →
      Picks req answers g name
  | probe {t : Trace} {failure : String} : req.forceMaster = "" →
      (masterFromSentinel req).Runs t (.error failure) → (∀ e ∈ t, e.rep = answers e.req) →
      Picks req answers g (probeMaster req.redisPods g)

theorem Picks.designated {answers : Replies} {g : Graph} (h : Picks req answers g m)
    (hpods : req.redisPods ≠ []) : designated req.redisPods m = m := by
  cases h with
  | forced hforce => exact if_neg hforce
  | sentinel _ hrun => exact if_neg (masterFromSentinel_ne hrun)
  | probe => exact designated_of_mem (probeMaster_mem hpods g)

theorem Picks.same {answers : Replies} {g g' : Graph} {m m' : String}
    (h : Picks req answers g m) (h' : Picks req answers g' m')
    (hprobe : m = probeMaster req.redisPods g →
      probeMaster req.redisPods g' = probeMaster req.redisPods g) : m' = m := by
  cases h with
  | forced hforce =>
    cases h' with
    | forced => rfl
    | sentinel hno | probe hno => exact absurd hno hforce
  | sentinel hno hrun hrep =>
    cases h' with
    | forced hforce => exact absurd hno hforce
    | sentinel _ hrun' hrep' =>
      have hsame := (hrun.unique hrun' hrep hrep').2
      exact (Prod.mk.inj (Except.ok.inj hsame)).1.symm
    | probe _ hrun' hrep' => cases (hrun.unique hrun' hrep hrep').2
  | probe hno hrun hrep =>
    cases h' with
    | forced hforce => exact absurd hno hforce
    | sentinel _ hrun' hrep' => cases (hrun.unique hrun' hrep hrep').2
    | probe => exact hprobe rfl

/-! ### Picking and the pass -/

section
variable {answers : Replies}

/-- After the cache: quiet requests that pick a master, a pass for it, and writes to the cache. The
search needs reachable pods only when nothing else is known about its end. -/
theorem picks_pass (hpods : req.redisPods ≠ [])
    (h : (if req.forceMaster ≠ "" then ensureForced req req.options
      else ensureResolved req req.options).Runs t o) (hadm : redisWorld.Admits g t)
    (hsentinel : ∀ e ∈ t, SentinelReq e.req → e.rep = answers e.req)
    (hprobe : o.2 = none ∨ ∃ g' master, ∀ e ∈ t, Steady g' master e) :
    ∃ m t1 t2 t3 result err, t = t1 ++ t2 ++ t3 ∧ Picks req answers g m ∧ (∀ e ∈ t1, Quiet e.req) ∧
      (ensureWithMaster req.cluster req.redisPods m req.options).Runs t2 (result, err) ∧
      (∀ e ∈ t3, ∃ ns name master detail, e.req = .cacheRemember ns name master detail) ∧
      o.2 = err ∧ o.1.source ≠ .cache ∧ o.1.Agrees result := by
  by_cases hforce : req.forceMaster ≠ ""
  · rw [if_pos hforce] at h
    obtain ⟨t1, ⟨result, err⟩, t2, rfl, h1, h2⟩ := runs_bind.1 h
    obtain ⟨t3, u, t4, rfl, h3, h4⟩ := runs_bind.1 h2
    obtain ⟨rfl, rfl⟩ := runs_ret.1 h4
    exact ⟨_, [], t1, t3, result, err, by simp, .forced hforce, forall_mem_nil _, h1,
      remember_rest h3, rfl, nofun, rfl, rfl, rfl, rfl, rfl, rfl⟩
  rw [if_neg hforce] at h
  rw [not_not] at hforce
  obtain ⟨t1, r, t2, rfl, h1, h2⟩ := runs_bind.1 h
  have hasks := (masterFromSentinel_asks req).mem h1
  have hquiet1 : ∀ e ∈ t1, Quiet e.req := fun e he => (hasks e he).quiet
  have hrep : ∀ e ∈ t1, e.rep = answers e.req := fun e he =>
    hsentinel e (mem_append_left _ he) (hasks e he)
  cases r with
  | ok nd =>
    obtain ⟨name, detail⟩ := nd
    obtain ⟨t3, ⟨result, err⟩, t4, rfl, h3, h4⟩ := runs_bind.1 h2
    obtain ⟨t5, u, t6, rfl, h5, h6⟩ := runs_bind.1 h4
    obtain ⟨rfl, rfl⟩ := runs_ret.1 h6
    exact ⟨name, t1, t3, t5, result, err, by simp, .sentinel hforce h1 hrep, hquiet1, h3,
      remember_rest h5, rfl, nofun, rfl, rfl, rfl, rfl, rfl, rfl⟩
  | error failure =>
    obtain ⟨t3, ⟨result, err⟩, t4, rfl, h3, h4⟩ := runs_bind.1 h2
    obtain ⟨t5, u, t6, rfl, h5, h6⟩ := runs_bind.1 h4
    obtain ⟨rfl, rfl⟩ := runs_ret.1 h6
    obtain ⟨t7, r, t8, rfl, h7, h8⟩ := runs_bind.1 h3
    have hquiet7 : ∀ e ∈ t7, Quiet e.req := (detectRoles_asks _ _ trivial (fun _ => trivial)
      (fun _ _ => trivial) fun _ => trivial).mem h7
    cases r with
    | error e =>
      obtain ⟨-, hres⟩ := runs_ret.1 h8
      obtain ⟨-, rfl⟩ := Prod.mk.inj hres
      rcases hprobe with herr | ⟨g', master, hsteady⟩
      · cases herr
      · obtain ⟨a, ha⟩ := detectRoles_steady h7 fun e he => hsteady e (by simp [he])
        cases ha
    | ok mr =>
      obtain ⟨m, roles⟩ := mr
      have hok : ∀ e ∈ t7, redisWorld.ok g e := by
        have hadm2 := (redisWorld.admits_append.1 hadm).2
        rw [after_quiet g hquiet1, append_assoc] at hadm2
        exact admits_quiet (redisWorld.admits_append.1 hadm2).1 hquiet7
      have hm := detectRoles_truth hpods h7 hok
      refine ⟨m, t1 ++ t7, t8, t5, result, err, by simp, ?_,
        forall_mem_append.2 ⟨hquiet1, hquiet7⟩, h8, remember_rest h5, rfl, nofun, rfl, rfl,
        rfl, rfl, rfl, rfl⟩
      rw [hm]
      exact .probe hforce h1 hrep

/-- A first call whose master does not come from the cache: the master that it picks in the graph
before its last pass. -/
theorem ensureTopology_picks (h : (ensureTopology F req).Runs t (res, none))
    (hadm : redisWorld.Admits g t) (hsentinel : ∀ e ∈ t, SentinelReq e.req → e.rep = answers e.req)
    (hsource : res.source ≠ .cache) :
    ∃ t1 t2 t3 result, LastPass req res.master t t1 t2 t3 result ∧ res.Agrees result ∧
      Picks req answers (redisWorld.after g t1) res.master := by
  obtain ⟨hfac, hpods, htls⟩ := ensureTopology_ready h
  rcases ensureTopology_cases h hfac hpods htls with ⟨result, hcache, hres⟩ | ⟨t1, t2, rfl, -, h2⟩
  · obtain ⟨rfl, -⟩ := Prod.mk.inj hres
    rcases ensureFromCache_cases hcache with ⟨hnone, -⟩ |
        ⟨candidate, detail, u1, u2, result, err, -, -, hok, hfail⟩
    · cases hnone
    · cases err with
      | none =>
        obtain ⟨-, result', hsome, hfrom, -⟩ := hok rfl
        obtain rfl := Option.some.inj hsome
        exact absurd hfrom hsource
      | some e => cases hfail nofun
  · obtain ⟨m, u1, u2, u3, result, err, rfl, hpicks, hquiet, hpass, hrest, herr, -, hagree⟩ :=
      picks_pass hpods h2 (redisWorld.admits_append.1 hadm).2
        (fun e he => hsentinel e (mem_append_right _ he)) (.inl rfl)
    obtain rfl : err = none := herr.symm
    have hmaster : res.master = m := by
      rw [hagree.master, ensureWithMaster_master hpass, hpicks.designated hpods]
    subst hmaster
    refine ⟨t1 ++ u1, u2, u3, result, ⟨by simp, hpass, hrest⟩, hagree, ?_⟩
    rw [World.after_append, after_quiet _ hquiet]
    exact hpicks

/-- A second call: after quiet requests its first pass is for the master that it picks, or for that
of the cache. -/
theorem ensureTopology_firstPass (h : (ensureTopology F req).Runs t o)
    (hadm : redisWorld.Admits g t) (hsentinel : ∀ e ∈ t, SentinelReq e.req → e.rep = answers e.req)
    (hsteady : ∀ e ∈ t, Steady g m e) (hfac : req.factory = true) (hpods : req.redisPods ≠ [])
    (htls : req.security.bind (clientTLSConfig F) = none)
    (hpick : ∀ m', Picks req answers g m' → m' = m) :
    ∃ t1 t2 t3 result err, t = t1 ++ t2 ++ t3 ∧ (∀ e ∈ t1, Quiet e.req) ∧
      (ensureWithMaster req.cluster req.redisPods m req.options).Runs t2 (result, err) ∧
      (err = none → (∀ e ∈ t3, Quiet e.req) ∧ o.2 = none ∧ o.1.Agrees result) := by
  -- a pass for the cached master comes first, whatever follows it
  have hcached {t0 rest : Trace} {r : Option EnsureResult} (ht : t = t0 ++ rest)
      (hrun : (ensureFromCache req req.options).Runs t0 r)
      (hsome : ∀ result, r = some result → o = (result, none) ∧ rest = []) :
      (r = none ∧ ∀ e ∈ t0, Quiet e.req) ∨ ∃ t1 t2 t3 result err, t = t1 ++ t2 ++ t3 ∧
        (∀ e ∈ t1, Quiet e.req) ∧
        (ensureWithMaster req.cluster req.redisPods m req.options).Runs t2 (result, err) ∧
        (err = none → (∀ e ∈ t3, Quiet e.req) ∧ o.2 = none ∧ o.1.Agrees result) := by
    rcases ensureFromCache_cases hrun with hnone |
        ⟨candidate, detail, u1, u2, result, err, rfl, hpass, hok, -⟩
    · exact .inl hnone
    · obtain rfl : candidate = m := hsteady ⟨.cacheLookup req.cluster.ns req.cluster.name,
        some (candidate, detail)⟩ (by simp [ht]) candidate detail rfl
      refine .inr ⟨[⟨.cacheLookup req.cluster.ns req.cluster.name, some (candidate, detail)⟩], u1,
        u2 ++ rest, result, err, by simpa using ht,
        forall_mem_cons.2 ⟨trivial, forall_mem_nil _⟩, hpass, fun herr => ?_⟩
      obtain ⟨rfl, result', hr, -, hagree⟩ := hok herr
      obtain ⟨rfl, rfl⟩ := hsome result' hr
      exact ⟨forall_mem_nil _, rfl, hagree⟩
  rcases ensureTopology_cases h hfac hpods htls with ⟨result, hcache, hres⟩ |
      ⟨t1, t2, rfl, hcache, h2⟩
  · rcases hcached (append_nil t).symm hcache fun r hr => by
        obtain rfl := Option.some.inj hr
        exact ⟨hres, rfl⟩ with ⟨hnone, -⟩ | hdone
    · cases hnone
    · exact hdone
  · rcases hcached rfl hcache nofun with ⟨-, hquiet1⟩ | hdone
    · have hadm2 := (redisWorld.admits_append.1 hadm).2
      rw [after_quiet g hquiet1] at hadm2
      obtain ⟨m', u1, u2, u3, result, err, rfl, hpicks, hquiet, hpass, hrest, herr, -, hagree⟩ :=
        picks_pass hpods h2 hadm2 (fun e he => hsentinel e (mem_append_right _ he))
          (.inr ⟨g, m, fun e he => hsteady e (mem_append_right _ he)⟩)
      obtain rfl := hpick m' hpicks
      refine ⟨t1 ++ u1, u2, u3, result, err, by simp,
        forall_mem_append.2 ⟨hquiet1, hquiet⟩, hpass, ?_⟩
      rintro rfl
      refine ⟨fun e he => ?_, herr, hagree⟩
      obtain ⟨ns, name, master, detail, hreq⟩ := hrest e he
      rw [hreq]
      trivial
    · exact hdone

end

/-! ## The second call -/

/-- A call that succeeded with a master that does not come from the cache, and a second one with the
same request: replies are truthful, Sentinel answers the same in both, and in the second every
replica reports its link up. -/
structure Repeated (F : Formats) (req : EnsureRequest) (answers : Replies) (g : Graph)
    (t : Trace) (res : EnsureResult) (t' : Trace)
    (o : EnsureResult × Option Error) : Prop where
  run : (ensureTopology F req).Runs t (res, none)
  admits : redisWorld.Admits g t
  source : res.source ∈ [.sentinel, .probe, .forced]
  again : (ensureTopology F req).Runs t' o
  admits_again : redisWorld.Admits (redisWorld.after g t) t'
  steady : ∀ e ∈ t', Steady (redisWorld.after g t) res.master e
  sentinel : ∀ e ∈ t ++ t', SentinelReq e.req → e.rep = answers e.req

/-- The second call sends no command and reports what the first one did, without a change. -/
structure Idle (res : EnsureResult) (t' : Trace) (o : EnsureResult × Option Error) :
    Prop where
  quiet : ∀ e ∈ t', Quiet e.req
  ok : o.2 = none
  master : o.1.master = res.master
  roles : o.1.roles = res.roles
  changed : o.1.changed = false
  drift : o.1.drift = []

section
variable {g' : Graph} {t' : Trace} {res' : EnsureResult}

theorem Pass.roles_eq (h : Pass cr pods opts m g t res pods)
    (h' : Pass cr pods opts m g' t' res' pods) : res'.roles = res.roles := by
  refine Finmap.ext_lookup fun q => ?_
  by_cases hq : q ∈ pods.map (·.name)
  · obtain ⟨p, hp, rfl⟩ := mem_map.1 hq
    obtain ⟨role, info, hpp, hrole, -⟩ := h.pod p hp
    obtain ⟨role', info', hpp', hrole', -⟩ := h'.pod p hp
    rw [hrole, hrole']
    by_cases hm : p.name = m
    · subst hm
      rw [hpp.role_master, hpp'.role_master]
    · rw [hpp.role_replica hm, hpp'.role_replica hm]
  · rw [(h.frame q hq).2.2.1, (h'.frame q hq).2.2.1]

end

theorem LastPass.leaves {req : EnsureRequest} {g : Graph}
    {t t1 t2 t3 : Trace} {result : EnsureResult}
    (h : LastPass req m t t1 t2 t3 result) (hdes : designated req.redisPods m = m)
    (hnd : (req.redisPods.map (·.name)).Nodup) (hadm : redisWorld.Admits g t) :
    Pass req.cluster req.redisPods req.options m (redisWorld.after g t1) t2 result req.redisPods ∧
      (∀ p ∈ req.redisPods, p.name ≠ m →
        Pointing req.cluster req.redisPods m (redisWorld.after g t p.name)) ∧
      ((∃ p ∈ req.redisPods, p.name = m) → (redisWorld.after g t m = .master ↔
        redisWorld.after g t1 m = .master ∨
          ∃ info, (infoReplies m t2).head? = some (.ok info))) := by
  have hpass := ensureWithMaster_pass h.pass hnd (redisWorld.after g t1)
  rw [hdes] at hpass
  have hadm2 := h.admits hadm
  rw [h.after_eq g]
  refine ⟨hpass, fun p hp hne => ?_, fun hm => hpass.designated_iff hadm2 hm⟩
  obtain ⟨role, info, hpp, -, -⟩ := hpass.pod p hp
  exact hpp.pointing hne (hpass.truth hadm2 p hp)

/-- **A second call**: it does nothing exactly when in the first call the designated master, if it
is one of the pods, was a master before the last pass or answered `INFO` in it. -/
theorem ensureTopology_idle_iff {req : EnsureRequest} {answers : Replies} {g : Graph} {t t' : Trace}
    {res : EnsureResult} {o : EnsureResult × Option Error}
    (hnd : (req.redisPods.map (·.name)).Nodup) (h : Repeated F req answers g t res t' o) :
    (∃ t1 t2 t3 result, LastPass req res.master t t1 t2 t3 result) ∧
    ∀ t1 t2 t3 result, LastPass req res.master t t1 t2 t3 result →
      (Idle res t' o ↔ ((∃ p ∈ req.redisPods, p.name = res.master) →
        redisWorld.after g t1 res.master = .master ∨
          ∃ info, (infoReplies res.master t2).head? = some (.ok info))) := by
  obtain ⟨hfac, hpods, htls⟩ := ensureTopology_ready h.run
  obtain ⟨hsentinel, hsentinel'⟩ := forall_mem_append.1 h.sentinel
  have hsource : res.source ≠ .cache := by
    intro heq
    have := h.source
    rw [heq] at this
    revert this
    decide
  obtain ⟨u1, u2, u3, result0, hlast0, hagree0, hpicks⟩ :=
    ensureTopology_picks h.run h.admits hsentinel hsource
  have hdes := hpicks.designated hpods
  obtain ⟨hpass0, hpoint, hmaster0⟩ := hlast0.leaves hdes hnd h.admits
  refine ⟨⟨u1, u2, u3, result0, hlast0⟩, fun t1 t2 t3 result hlast => ?_⟩
  have hmaster := (hlast.leaves hdes hnd h.admits).2.2
  -- the second call comes to the same master
  have hpick : ∀ m', Picks req answers (redisWorld.after g t) m' → m' = res.master := by
    refine fun m' hm' => hpicks.same hm' fun heq => ?_
    refine probeMaster_again (fun p hp hne => (hpoint p hp (heq ▸ hne)).ne_master) fun hg => ?_
    rw [← heq] at hg ⊢
    exact (hmaster0 (heq ▸ probeMaster_mem hpods _)).2 (.inl hg)
  obtain ⟨v1, v2, v3, result', err, ht', hquiet1, hrun, hdone⟩ :=
    ensureTopology_firstPass h.again h.admits_again hsentinel' h.steady hfac hpods htls hpick
  have hadm2 : redisWorld.Admits (redisWorld.after g t) v2 := by
    have hadm := h.admits_again
    rw [ht', World.admits_append, World.admits_append, after_quiet _ hquiet1] at hadm
    exact hadm.1.2
  have hsteady2 : ∀ e ∈ v2, Steady (redisWorld.after g t) res.master e := fun e he =>
    h.steady e (by simp [ht', he])
  have hloop := hrun
  unfold ensureWithMaster at hloop
  rw [if_neg hpods] at hloop
  rw [hdes] at hloop
  have hmem := fun {p : Pod} => (sortedPodsByName_perm req.redisPods).mem_iff (a := p)
  constructor
  · intro hidle hlisted
    by_contra hcond
    have hquiet : ∀ e ∈ v2, Quiet e.req := fun e he => hidle.quiet e (by simp [ht', he])
    refine forErr_promotes hloop hadm2 hsteady2 (fun p hp hne => ?_)
      (fun hg => hcond ((hmaster hlisted).1 hg)) ?_ hquiet
    · unfold InPlace
      rw [if_neg hne]
      exact hpoint p (hmem.1 hp) hne
    · obtain ⟨p, hp, hpm⟩ := hlisted
      exact ⟨p, hmem.2 hp, hpm⟩
  · intro hcond
    have hplace : ∀ p ∈ sortedPodsByName req.redisPods,
        InPlace req.cluster req.redisPods res.master (redisWorld.after g t) p := by
      intro p hp
      unfold InPlace
      split
      · next hpm =>
        have hlisted : ∃ p ∈ req.redisPods, p.name = res.master := ⟨p, hmem.1 hp, hpm⟩
        rw [hpm]
        exact (hmaster hlisted).2 (hcond hlisted)
      · next hne => exact hpoint p (hmem.1 hp) hne
    obtain ⟨hquiet2, herr, hchanged, hdrift⟩ := forErr_idle hloop hadm2 hsteady2 hplace
    obtain rfl : err = none := herr
    obtain ⟨hquiet3, hnone, hagree⟩ := hdone rfl
    have hpass' := ensureWithMaster_pass hrun hnd (redisWorld.after g t)
    rw [hdes] at hpass'
    constructor
    · rw [ht']
      exact forall_mem_append.2 ⟨forall_mem_append.2 ⟨hquiet1, hquiet2⟩, hquiet3⟩
    · exact hnone
    · exact hagree.master.trans hpass'.master
    · rw [hagree.roles, hagree0.roles]
      exact hpass0.roles_eq hpass'
    · exact hagree.changed.trans hchanged
    · exact hagree.drift.trans hdrift

/-- A call for the two pods. -/
def requestA : EnsureRequest := { cluster := clusterA, redisPods := podsA }

/-- The role of each pod is read. -/
def probesA (role0 role1 : String) : Trace :=
  [⟨.redisForPod "a-0", .ok ()⟩, ⟨.ctxErr, none⟩, ⟨.role "a-0", .ok role0⟩,
    ⟨.redisForPod "a-1", .ok ()⟩, ⟨.ctxErr, none⟩, ⟨.role "a-1", .ok role1⟩]

theorem probesA_steady {g : Graph} {m role0 role1 : String} :
    ∀ e ∈ probesA role0 role1, Steady g m e := by
  simp [probesA, Steady]

/-- A run that changes nothing. -/
def idleA : Trace :=
  probesA "master" "replica" ++ [⟨.redisForPod "a-0", .ok ()⟩,
    ⟨.replicationInfo "a-0", .ok (graphA "a-0").info⟩, ⟨.redisForPod "a-1", .ok ()⟩,
    ⟨.replicationInfo "a-1", .ok (graphA "a-1").info⟩]

theorem play_graphA :
    (redisWorld.play healthy graphA (ensureTopology .decimal requestA)).1 = idleA :=
  rfl

theorem after_idleA : redisWorld.after graphA idleA = graphA := rfl

/-- Probing `a` twice when `a-0` is the master. -/
theorem ensureTopology_idle_iff_a0 :
    ∃ t res t' o, Repeated .decimal requestA (healthy graphA) graphA t res t' o ∧
      (∃ t1 t2 t3 result, LastPass requestA res.master t t1 t2 t3 result) ∧
      ∀ t1 t2 t3 result, LastPass requestA res.master t t1 t2 t3 result →
        (Idle res t' o ↔ ((∃ p ∈ requestA.redisPods, p.name = res.master) →
          redisWorld.after graphA t1 res.master = .master ∨
            ∃ info, (infoReplies res.master t2).head? = some (.ok info))) := by
  have hrun := World.runs_play (W := redisWorld) (r := healthy) graphA
    (ensureTopology .decimal requestA)
  have hadm := World.admits_play (W := redisWorld) healthy_ok graphA
    (ensureTopology .decimal requestA)
  rw [play_graphA] at hrun hadm
  have h : Repeated .decimal requestA (healthy graphA) graphA idleA
      (redisWorld.play healthy graphA (ensureTopology .decimal requestA)).2.1 idleA _ := {
    run := hrun
    admits := hadm
    source := .tail _ (.head _)
    again := hrun
    admits_again := by
      rw [after_idleA]
      exact hadm
    steady := by
      refine forall_mem_append.2 ⟨probesA_steady, ?_⟩
      simp [Steady, LinkUp, after_idleA, graphA, RedisState.info]
    sentinel := by
      simp [idleA, probesA, SentinelReq] }
  exact ⟨_, _, _, _, h, ensureTopology_idle_iff (by decide) h⟩

/-- A run in which a-0 does not answer. -/
def deafRunA : Trace :=
  probesA "replica" "replica" ++ [⟨.redisForPod "a-0", .ok ()⟩,
    ⟨.replicationInfo "a-0", .error (.new "i/o timeout")⟩, ⟨.redisForPod "a-1", .ok ()⟩,
    ⟨.replicationInfo "a-1", .ok (orphans "a-1").info⟩, ⟨.ctxErr, none⟩,
    ⟨.replicaOf "a-1" "10.0.0.1" 6379, .ok ()⟩, ⟨.polls, (0 : Nat)⟩, ⟨.ctxErr, none⟩,
    ⟨.replicationInfo "a-1", .ok (RedisState.replica "10.0.0.1" 6379).info⟩]

/-- Redis after it. -/
def halfway : Graph := redisWorld.after orphans deafRunA

/-- The run after it, that promotes a-0. -/
def promotesA : Trace :=
  probesA "replica" "replica" ++ [⟨.redisForPod "a-0", .ok ()⟩,
    ⟨.replicationInfo "a-0", .ok (halfway "a-0").info⟩, ⟨.ctxErr, none⟩, ⟨.noOne "a-0", .ok ()⟩,
    ⟨.redisForPod "a-1", .ok ()⟩, ⟨.replicationInfo "a-1", .ok (halfway "a-1").info⟩]

theorem play_halfway :
    (redisWorld.play healthy halfway (ensureTopology .decimal requestA)).1 = promotesA :=
  rfl

/-- The first call succeeds without an answer of `a-0`; the second one promotes it. -/
theorem ensureTopology_promotes_again :
    ∃ t res t' o, (requestA.redisPods.map (·.name)).Nodup ∧
      Repeated .decimal requestA (healthy orphans) orphans t res t' o ∧
      (∃ e ∈ t', e.req = .noOne "a-0") ∧ o.1.changed = true ∧ ¬ Idle res t' o := by
  have hrun := World.runs_play (W := redisWorld) (r := healthy) halfway
    (ensureTopology .decimal requestA)
  have hadm := World.admits_play (W := redisWorld) healthy_ok halfway
    (ensureTopology .decimal requestA)
  rw [play_halfway] at hrun hadm
  have h : Repeated .decimal requestA (healthy orphans) orphans deafRunA
      (redisWorld.play deafA0 orphans (ensureTopology .decimal requestA)).2.1 promotesA _ := {
    run := World.runs_play (W := redisWorld) (r := deafA0) orphans
      (ensureTopology .decimal requestA)
    admits := World.admits_play (W := redisWorld) deafA0_ok orphans
      (ensureTopology .decimal requestA)
    source := .tail _ (.head _)
    again := hrun
    admits_again := hadm
    steady := by
      refine forall_mem_append.2 ⟨probesA_steady, ?_⟩
      have h0 : LinkUp (halfway "a-0").info := ⟨rfl, rfl⟩
      have h1 : LinkUp (halfway "a-1").info := ⟨rfl, rfl⟩
      simp [Steady, h0, h1]
    sentinel := by
      refine forall_mem_append.2 ⟨?_, ?_⟩
      · simp [deafRunA, probesA, SentinelReq]
      · simp [promotesA, probesA, SentinelReq] }
  have hno : ∃ e ∈ promotesA, e.req = .noOne "a-0" :=
    ⟨⟨.noOne "a-0", .ok ()⟩, by simp [promotesA], rfl⟩
  refine ⟨_, _, _, _, by decide, h, hno, rfl, fun hidle => ?_⟩
  cases hidle.changed

end Keyval.Replication
