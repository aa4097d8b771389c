import KeyvalOperator.Api.PVCStore
import KeyvalOperator.Proof.Runtime

/-!
# The master of a recovered cluster

Every Redis pod is reachable and a replica, the master cache is empty and Sentinel names no master.
The topology is then found by probing, which promotes the first pod by name; the stored freshness
is read only when the topology fails.

* `ensureTopology_recovers`: the run succeeds, with the first pod by name as the master.
* `Pass.master_iff`: the pass leaves that pod as the only master.
* `promotesCandidate_iff`: **the candidate is promoted exactly when it is that pod**.
-/

namespace Keyval

open Go Interact Interact.Prog List

variable {g : Graph} {pod : String} {p : Pod}

/-- The reply is one of a reachable pod, an empty cache or a Sentinel that names no master. -/
def Recovering : Event Op → Prop
  | ⟨.ctxErr, r⟩ => r = none
  | ⟨.redisForPod _, r⟩ => r = .ok ()
  | ⟨.auth .., r⟩ => r = .ok ()
  | ⟨.role _, r⟩ => ∃ role, r = .ok role
  | ⟨.replicationInfo _, r⟩ => ∃ info, r = .ok info
  | ⟨.noOne _, r⟩ => r = .ok ()
  | ⟨.replicaOf .., r⟩ => r = .ok ()
  | ⟨.cacheLookup .., r⟩ => r = none
  | ⟨.getMasterAddrByName .., r⟩ => ∃ e, r = .error e
  | _ => True

theorem healthy_recovering (g : Graph) (q : Req) : Recovering ⟨q, healthy g q⟩ := by
  cases q with
  | role pod => exact ⟨_, rfl⟩
  | replicationInfo pod => exact ⟨_, rfl⟩
  | getMasterAddrByName pod name => exact ⟨_, rfl⟩
  | _ => first | rfl | trivial

theorem admits_quiet {t : Trace} (h : redisWorld.Admits g t) (hq : ∀ e ∈ t, Quiet e.req) :
    ∀ e ∈ t, redisWorld.ok g e := by
  induction t with
  | nil => exact forall_mem_nil _
  | cons e t ih =>
    obtain ⟨hok, ht⟩ := redisWorld.admits_cons.1 h
    obtain ⟨hqe, hqt⟩ := forall_mem_cons.1 hq
    rw [step_quiet g hqe] at ht
    exact forall_mem_cons.2 ⟨hok, ih ht hqt⟩

theorem RedisState.Shows.role_ne {s : RedisState} {info : ReplicationInfo} (h : s.Shows info)
    (hs : s ≠ .master) : info.role ≠ "master" := by
  cases s with
  | master => exact absurd rfl hs
  | replica host port =>
    rw [show info.role = "replica" from h.1]
    decide

theorem mem_of_infoReplies {t : Trace} {r : Result ReplicationInfo} (h : r ∈ infoReplies pod t) :
    ⟨.replicationInfo pod, r⟩ ∈ t := by
  obtain ⟨⟨q, rep⟩, he, hr⟩ := mem_filterMap.1 h
  cases q with
  | replicationInfo p =>
    unfold infoReply at hr
    dsimp only at hr
    split at hr
    · rename_i hp
      subst hp
      obtain rfl := Option.some.inj hr
      exact he
    · cases hr
  | _ => cases hr

namespace Replication

variable {o : EnsureResult × Option Error} {t : Trace} {opts : EnsureOptions} {res : EnsureResult}

/-! ## Reachable pods give no error -/

section
variable {α : Type} {fn : M (Result α)} {r : Result α}

theorem retryFrom_recovers (hfn : ∀ t r, fn.Runs t r → (∀ e ∈ t, Recovering e) → ∃ a, r = .ok a)
    {n : Nat} (h : (retryFrom fn n).Runs t r) (hR : ∀ e ∈ t, Recovering e) : ∃ a, r = .ok a := by
  cases n with
  | zero =>
    obtain ⟨rep, t', rfl, h'⟩ := runs_call.1 h
    obtain ⟨hrep, ht'⟩ := forall_mem_cons.1 hR
    obtain rfl : rep = none := hrep
    exact hfn t' r h' ht'
  | succ n =>
    obtain ⟨rep, t', rfl, h'⟩ := runs_call.1 h
    obtain ⟨hrep, ht'⟩ := forall_mem_cons.1 hR
    obtain rfl : rep = none := hrep
    obtain ⟨u, r', v, rfl, hu, hv⟩ := runs_bind (p := fn).1 h'
    obtain ⟨a, rfl⟩ := hfn u r' hu (forall_mem_append.1 ht').1
    exact ⟨a, (runs_ret.1 hv).2⟩

end

theorem recovering_ask {q : Req} {r : q.Rep} (h : (ask q).Runs t r)
    (hR : ∀ e ∈ t, Recovering e) : Recovering ⟨q, r⟩ := by
  rw [runs_ask h] at hR
  exact hR _ mem_cons_self

theorem authUsers_recovers {pod password user : String} {rest : List String} {r : Result Unit}
    (h : (authUsers pod password (user :: rest)).Runs t r) (hR : ∀ e ∈ t, Recovering e) :
    ∃ u, r = .ok u := by
  obtain ⟨rep, t', rfl, h'⟩ := runs_call.1 h
  obtain rfl : rep = .ok () := (forall_mem_cons.1 hR).1
  exact ⟨(), (runs_ret.1 h').2⟩

theorem maybeAuth_recovers {r : Result Unit} (h : (maybeAuth pod opts).Runs t r)
    (hR : ∀ e ∈ t, Recovering e) : ∃ u, r = .ok u := by
  unfold maybeAuth at h
  split at h
  · exact ⟨(), (runs_ret.1 h).2⟩
  · refine retryFrom_recovers (fun t r hr hR => ?_) h hR
    split at hr
    · exact authUsers_recovers hr hR
    · exact authUsers_recovers hr hR

section
variable {cr : KeyValCluster} {pods : List Pod} {m : String}

theorem alignReplica_recovers (h : (alignReplica cr pods opts m res pod).Runs t o)
    (hR : ∀ e ∈ t, Recovering e) : o.2 = none := by
  obtain ⟨t1, r, t2, rfl, h1, h2⟩ := runs_bind.1 h
  obtain ⟨u, rfl⟩ := retryFrom_recovers
    (fun t r hr hR => ⟨(), recovering_ask (q := .replicaOf ..) hr hR⟩) h1
    (forall_mem_append.1 hR).1
  obtain ⟨t3, ⟨info, waitErr⟩, t4, rfl, -, h4⟩ := runs_bind.1 h2
  rw [(runs_ret.1 h4).2]

theorem ensurePod_recovers (h : (ensurePod cr pods opts m res p).Runs t o)
    (hR : ∀ e ∈ t, Recovering e) : o.2 = none := by
  unfold ensurePod at h
  simp only [bind_eq, pure_eq, ask_eq, call_bind, ret_bind] at h
  obtain ⟨r, t1, rfl, h1⟩ := runs_call.1 h
  obtain ⟨hr, hR1⟩ := forall_mem_cons.1 hR
  obtain rfl : r = .ok () := hr
  obtain ⟨t2, r, t3, rfl, h2, h3⟩ := runs_bind.1 h1
  obtain ⟨hR2, hR3⟩ := forall_mem_append.1 hR1
  obtain ⟨u, rfl⟩ := maybeAuth_recovers h2 hR2
  obtain ⟨reply, t4, rfl, h4⟩ := runs_call.1 h3
  obtain ⟨hreply, hR4⟩ := forall_mem_cons.1 hR3
  obtain ⟨info, rfl⟩ : ∃ info, reply = .ok info := hreply
  by_cases hm : p.name = m
  · rw [if_pos hm] at h4
    unfold ensureMaster at h4
    dsimp only at h4
    split at h4
    · rw [(runs_ret.1 h4).2]
    · obtain ⟨t5, r, t6, rfl, h5, h6⟩ := runs_bind.1 h4
      obtain ⟨u, rfl⟩ := retryFrom_recovers
        (fun t r hr hR => ⟨(), recovering_ask (q := .noOne _) hr hR⟩) h5
        (forall_mem_append.1 hR4).1
      rw [(runs_ret.1 h6).2]
  · rw [if_neg hm] at h4
    unfold ensureReplica at h4
    dsimp only at h4
    split at h4
    · rw [(runs_ret.1 h4).2]
    · exact alignReplica_recovers h4 hR4

theorem ensureWithMaster_recovers (hpods : pods ≠ [])
    (h : (ensureWithMaster cr pods m opts).Runs t o) (hR : ∀ e ∈ t, Recovering e) : o.2 = none := by
  unfold ensureWithMaster at h
  rw [if_neg hpods] at h
  obtain ⟨res, err⟩ := o
  cases err with
  | none => rfl
  | some e =>
    obtain ⟨p, -, res1, t1, t2, rfl, hp⟩ := h.forErr_error
    exact ensurePod_recovers hp (forall_mem_append.1 hR).2

/-! ## Probing replicas -/

theorem detectPod_recovers {s : Map PodRole × List String}
    {o : (Map PodRole × List String) × Option Error} (h : (detectPod opts s p).Runs t o)
    (hR : ∀ e ∈ t, Recovering e) (hok : ∀ e ∈ t, redisWorld.ok g e) (hp : g p.name ≠ .master) :
    o.1.2 = s.2 ∧ o.2 = none := by
  obtain ⟨r, t1, rfl, h1⟩ := runs_asked.1 h
  obtain ⟨hr, hR1⟩ := forall_mem_cons.1 hR
  obtain rfl : r = .ok () := hr
  obtain ⟨t2, r, t3, rfl, h2, h3⟩ := runs_bind.1 h1
  obtain ⟨hR2, hR3⟩ := forall_mem_append.1 hR1
  obtain ⟨u, rfl⟩ := maybeAuth_recovers h2 hR2
  obtain ⟨t4, r, t5, rfl, h4, h5⟩ := runs_bind.1 h3
  obtain ⟨role, rfl⟩ := retryFrom_recovers
    (fun t r hr hR => recovering_ask (q := .role _) hr hR) h4 (forall_mem_append.1 hR3).1
  obtain ⟨t6, t7, rfl, -, h7⟩ := retryFrom_ok (Q := fun _ => True) (fun _ => trivial)
    (fun _ _ _ _ _ => trivial) h4
  have hrole : role = (g p.name).role := hok ⟨.role p.name, .ok role⟩ (by simp [runs_ask h7])
  have hne : role ≠ "master" := by
    rw [hrole]
    cases hg : g p.name with
    | master => exact absurd hg hp
    | replica host port =>
      show "replica" ≠ "master"
      decide
  dsimp only at h5
  rw [if_neg hne] at h5
  rw [(runs_ret.1 h5).2]
  exact ⟨rfl, rfl⟩

theorem detectRoles_recovers {r : Result (String × Map PodRole)} (hpods : pods ≠ [])
    (h : (detectRoles pods opts).Runs t r) (hR : ∀ e ∈ t, Recovering e)
    (hok : ∀ e ∈ t, redisWorld.ok g e) (hg : ∀ p ∈ pods, g p.name ≠ .master) :
    ∃ roles, r = .ok (designated pods "", roles) := by
  have hg' : ∀ p ∈ sortedPodsByName pods, g p.name ≠ .master := fun p hp =>
    hg p ((sortedPodsByName_perm pods).mem_iff.1 hp)
  unfold detectRoles at h
  rw [if_neg hpods] at h
  obtain ⟨t1, ⟨⟨roles, masters⟩, err⟩, t2, rfl, h1, h2⟩ := runs_bind.1 h
  have hR1 := (forall_mem_append.1 hR).1
  have hok1 := (forall_mem_append.1 hok).1
  cases err with
  | some e =>
    obtain ⟨p, hp, s, u1, u2, rfl, hrun⟩ := h1.forErr_error
    cases (detectPod_recovers hrun (forall_mem_append.1 hR1).2
      (forall_mem_append.1 hok1).2 (hg' p hp)).2
  | none =>
    have hnil : masters = [] := by
      refine h1.forErr_inv (I := fun _ _ s => s.2 = []) rfl ?_
      intro done p t0 s u s1 hdone hu hI hrun
      have hmem : ∀ e ∈ u, e ∈ t1 := fun e he => hu.subset (mem_append_right _ he)
      have hp : p ∈ sortedPodsByName pods := hdone.subset (by simp)
      rw [(detectPod_recovers hrun (fun e he => hR1 e (hmem e he))
        (fun e he => hok1 e (hmem e he)) (hg' p hp)).1, hI]
    subst hnil
    exact ⟨roles, (runs_ret.1 h2).2⟩

/-! ## The topology -/

theorem resolveFrom_recovers {redisPods : List Pod} :
    ∀ {sps : List Pod} {errs : List Error} {t : Trace} {r : Result (String × String)},
      (resolveFrom cr redisPods errs sps).Runs t r → (∀ e ∈ t, Recovering e) → ∃ e, r = .error e
  | [], errs, t, r, h, hR => by
    unfold resolveFrom at h
    split at h
    · exact ⟨_, (runs_ret.1 h).2⟩
    · exact ⟨_, (runs_ret.1 h).2⟩
  | sp :: rest, errs, t, r, h, hR => by
    obtain ⟨rep, t1, rfl, h1⟩ := runs_asked.1 h
    have hR1 := (forall_mem_cons.1 hR).2
    cases rep with
    | error e => exact resolveFrom_recovers h1 hR1
    | ok u =>
      obtain ⟨rep, t2, rfl, h2⟩ := runs_call.1 h1
      obtain ⟨hrep, hR2⟩ := forall_mem_cons.1 hR1
      obtain ⟨e, rfl⟩ : ∃ e, rep = .error e := hrep
      exact resolveFrom_recovers h2 hR2

end

section
variable {req : EnsureRequest}

theorem masterFromSentinel_recovers {r : Except String (String × String)}
    (h : (masterFromSentinel req).Runs t r) (hR : ∀ e ∈ t, Recovering e) :
    ∃ failure, r = .error failure := by
  unfold masterFromSentinel at h
  simp only [bind_eq, pure_eq] at h
  split_ifs at h
  · exact ⟨_, (runs_ret.1 h).2⟩
  · obtain ⟨t1, r', t2, rfl, h1, h2⟩ := runs_bind.1 h
    obtain ⟨e, rfl⟩ := resolveFrom_recovers h1 (forall_mem_append.1 hR).1
    exact ⟨_, (runs_ret.1 h2).2⟩
  · exact ⟨_, (runs_ret.1 h).2⟩

theorem ensureFromCache_recovers {r : Option EnsureResult} (h : (ensureFromCache req opts).Runs t r)
    (hR : ∀ e ∈ t, Recovering e) : r = none ∧ ∀ e ∈ t, Quiet e.req := by
  have hrun := ensureFromCache_run h
  cases hrun with
  | unused _ => exact ⟨rfl, forall_mem_nil _⟩
  | miss _ => exact ⟨rfl, forall_mem_cons.2 ⟨trivial, forall_mem_nil _⟩⟩
  -- an entry in the cache is not a reply of such a run
  | unlisted _ _ => cases (forall_mem_cons.1 hR).1
  | hit _ _ _ => cases (forall_mem_cons.1 hR).1
  | failed _ _ _ => cases (forall_mem_cons.1 hR).1

/-- **Recovery**: with every pod a reachable replica, the topology succeeds with a pass for the
first pod by name, and nothing before that pass changes a pod. -/
theorem ensureTopology_recovers (req : EnsureRequest) {F : Formats} (hfac : req.factory = true)
    (hpods : req.redisPods ≠ []) (htls : req.security.bind (clientTLSConfig F) = none)
    (hforce : req.forceMaster = "") (h : (ensureTopology F req).Runs t o)
    (hR : ∀ e ∈ t, Recovering e) (hadm : redisWorld.Admits g t)
    (hg : ∀ p ∈ req.redisPods, g p.name ≠ .master) :
    o.2 = none ∧ o.1.master = designated req.redisPods "" ∧
      ∃ t1 t2 t3 res, LastPass req (designated req.redisPods "") t t1 t2 t3 res ∧
        ∀ e ∈ t1, Quiet e.req := by
  rcases ensureTopology_cases h hfac hpods htls with ⟨result, hcache, -⟩ | ⟨t1, t2, rfl, h1, h2⟩
  · cases (ensureFromCache_recovers hcache hR).1
  obtain ⟨hR1, hR2⟩ := forall_mem_append.1 hR
  obtain ⟨hadm1, hadm2⟩ := redisWorld.admits_append.1 hadm
  obtain ⟨-, hq1⟩ := ensureFromCache_recovers h1 hR1
  rw [after_quiet g hq1] at hadm2
  rw [if_neg (not_not.2 hforce)] at h2
  obtain ⟨t3, r, t4, rfl, h3, h4⟩ := runs_bind.1 h2
  obtain ⟨hR3, hR4⟩ := forall_mem_append.1 hR2
  obtain ⟨hadm3, hadm4⟩ := redisWorld.admits_append.1 hadm2
  have hq3 : ∀ e ∈ t3, Quiet e.req := fun e he =>
    ((masterFromSentinel_asks req).mem h3 e he).quiet
  rw [after_quiet g hq3] at hadm4
  obtain ⟨failure, rfl⟩ := masterFromSentinel_recovers h3 hR3
  obtain ⟨t5, ⟨res, err⟩, t6, rfl, h5, h6⟩ := runs_bind.1 h4
  obtain ⟨hR5, -⟩ := forall_mem_append.1 hR4
  obtain ⟨hadm5, -⟩ := redisWorld.admits_append.1 hadm4
  obtain ⟨t7, u, t8, rfl, h7, h8⟩ := runs_bind.1 h6
  obtain ⟨rfl, rfl⟩ := runs_ret.1 h8
  -- probing finds no master, so the pass is for the first pod by name
  obtain ⟨u1, r, u2, rfl, hu1, hu2⟩ := runs_bind.1 h5
  obtain ⟨hRu1, hRu2⟩ := forall_mem_append.1 hR5
  have hqu1 : ∀ e ∈ u1, Quiet e.req := (detectRoles_asks _ _ trivial (fun _ => trivial)
    (fun _ _ => trivial) fun _ => trivial).mem hu1
  obtain ⟨roles, rfl⟩ := detectRoles_recovers hpods hu1 hRu1
    (admits_quiet (redisWorld.admits_append.1 hadm5).1 hqu1) hg
  obtain rfl : err = none := ensureWithMaster_recovers hpods hu2 hRu2
  refine ⟨rfl, ?_, t1 ++ t3 ++ u1, u2, t7, res, ⟨by simp, hu2, remember_rest h7⟩, ?_⟩
  · exact (ensureWithMaster_master hu2).trans (designated_of_mem (designated_empty_mem hpods))
  · simp only [forall_mem_append]
    exact ⟨⟨hq1, hq3⟩, hqu1⟩

end

theorem Pass.master_iff {cr : KeyValCluster} {pods : List Pod} {m : String}
    (hpass : Pass cr pods opts m g t res pods) (hR : ∀ e ∈ t, Recovering e)
    (hadm : redisWorld.Admits g t) (hg : ∀ p ∈ pods, g p.name ≠ .master) (hp : p ∈ pods) :
    redisWorld.after g t p.name = .master ↔ p.name = m := by
  obtain ⟨role, info, hpp, -, -⟩ := hpass.pod p hp
  have hshows := hpass.truth hadm p hp
  generalize hreplies : infoReplies p.name t = replies at hpp hshows
  generalize redisWorld.after g t p.name = s at hpp ⊢
  cases hpp with
  | unread hm =>
    have hmem := mem_of_infoReplies (t := t) (hreplies ▸ mem_cons_self)
    obtain ⟨info, hi⟩ := hR _ hmem
    cases hi
  | seen hm hrole => exact absurd hrole ((hshows _ _ rfl).role_ne (hg p hp))
  | promoted hm hrole => exact ⟨fun _ => hm, fun _ => rfl⟩
  | aligned hne _ => exact ⟨fun h => absurd h (hg p hp), fun h => absurd h hne⟩
  | realigned hne _ _ => exact ⟨nofun, fun h => absurd h hne⟩

end Replication

namespace Bootstrap

/-! ## The stored candidate -/

/-- A read answers from the store. -/
def ReadsFrom (s : PVCStore) : Event Op → Prop
  | ⟨.getPVC ns name, r⟩ => s.get ns name = r.toOption
  | _ => True

section
variable (F : Formats) (cr : KeyValCluster) (s : PVCStore)

/-- The annotations of the pod's stored claim. -/
def storedAnnotations (pod : Pod) : Map String :=
  if hasPersistentData cr then
    ((s.get pod.ns (dataPVCName pod.name)).map (·.annotations)).getD ∅
  else ∅

/-- The candidate by the stored claims. -/
def storedCandidate (pods : List Pod) : Candidate :=
  chooseCandidate (pods.map fun p => freshnessRecord F p (storedAnnotations cr s p))
    (Replication.designated pods "")

variable {F cr s} {t : Trace}

theorem loadFreshnessRecord_stored {pod : Pod} {r : FreshnessRecord}
    (h : (loadFreshnessRecord F cr pod).Runs t r) (hs : ∀ e ∈ t, ReadsFrom s e) :
    r = freshnessRecord F pod (storedAnnotations cr s pod) := by
  unfold loadFreshnessRecord at h
  unfold storedAnnotations
  by_cases hp : hasPersistentData cr
  · rw [if_neg (not_not.2 hp)] at h
    rw [if_pos hp]
    obtain ⟨rep, t', rfl, h'⟩ := runs_call.1 h
    have hread : s.get pod.ns (dataPVCName pod.name) = rep.toOption :=
      (forall_mem_cons.1 hs).1
    rw [hread]
    cases rep with
    | error e => exact (runs_ret.1 h').2
    | ok pvc => exact (runs_ret.1 h').2
  · rw [if_pos hp] at h
    rw [if_neg hp]
    exact (runs_ret.1 h).2

theorem mapAll_loaded : ∀ {pods : List Pod} {t : Trace} {rs : List FreshnessRecord},
    (Prog.mapAll (loadFreshnessRecord F cr) pods).Runs t rs → (∀ e ∈ t, ReadsFrom s e) →
    rs = pods.map fun p => freshnessRecord F p (storedAnnotations cr s p)
  | [], t, rs, h, _ => (runs_ret.1 h).2
  | p :: pods, t, rs, h, hs => by
    obtain ⟨t1, r, t2, rfl, h1, h2⟩ := runs_bind.1 h
    obtain ⟨t3, rs', t4, rfl, h3, h4⟩ := runs_bind.1 h2
    obtain ⟨hs1, hs2⟩ := forall_mem_append.1 hs
    rw [(runs_ret.1 h4).2, loadFreshnessRecord_stored h1 hs1,
      mapAll_loaded h3 (forall_mem_append.1 hs2).1]
    rfl

theorem selectCandidate_stored {pods : List Pod} {c : Candidate} (hpods : pods ≠ [])
    (h : (selectCandidate F cr pods).Runs t c) (hs : ∀ e ∈ t, ReadsFrom s e) :
    c = storedCandidate F cr s pods := by
  unfold selectCandidate at h
  unfold storedCandidate Replication.designated
  rw [if_pos rfl]
  cases hsort : sortedPodsByName pods with
  | nil =>
    have hperm := Replication.sortedPodsByName_perm pods
    rw [hsort] at hperm
    exact absurd hperm.symm.eq_nil hpods
  | cons seed rest =>
    rw [hsort] at h
    obtain ⟨t1, records, t2, rfl, h1, h2⟩ := runs_bind.1 h
    rw [(runs_ret.1 h2).2, mapAll_loaded h1 (forall_mem_append.1 hs).1]
    rfl

end

/-- Reads find the stored claims. -/
def reading (s : PVCStore) : Replies
  | .getPVC ns name =>
    (s.get ns name).elim (.error { msg := "not found", reason := .notFound }) .ok
  | q => q.unavailable

theorem reading_readsFrom (s : PVCStore) (q : Req) : ReadsFrom s ⟨q, reading s q⟩ := by
  cases q with
  | getPVC ns name =>
    show s.get ns name =
      ((s.get ns name).elim (.error _ : Result PersistentVolumeClaim) .ok).toOption
    cases s.get ns name <;> rfl
  | _ => trivial

theorem exists_candidate (F : Formats) (cr : KeyValCluster) (pods : List Pod) (s : PVCStore) :
    ∃ t c, (selectCandidate F cr pods).Runs t c ∧ ∀ e ∈ t, ReadsFrom s e := by
  obtain ⟨t, c, hrun, hrep⟩ := exists_run (reading s) (selectCandidate F cr pods)
  refine ⟨t, c, hrun, ?_⟩
  rintro ⟨q, r⟩ he
  obtain rfl : r = reading s q := hrep _ he
  exact reading_readsFrom s q

end Bootstrap

namespace Phases

open Replication (designated)

/-! ## The Runtime phase -/

/-- A run of the Runtime phase on reachable replicas, without a cached master or one that Sentinel
names. -/
structure Recovery (F : Formats) (st : State) (g : Graph) (t : Trace)
    (o : State × Option Error) : Prop where
  run : (runtime F st).Runs t o
  replicas : ∀ p ∈ st.redisPods, g p.name ≠ .master
  admits : redisWorld.Admits g t
  events : ∀ e ∈ t, Recovering e

/-- `pod` is the master that the phase reports and the only one among the pods. -/
def Promoted (st : State) (o : State × Option Error) (g : Graph) (pod : String) : Prop :=
  o.1.runtime.master = pod ∧ ∀ p ∈ st.redisPods, g p.name = .master ↔ p.name = pod

/-- In every recovery the candidate that `selectCandidate` returns for the stored claims is
promoted. -/
def PromotesCandidate (F : Formats) (st : State) (s : PVCStore) : Prop :=
  ∀ g t o t' cand, Recovery F st g t o →
    (Bootstrap.selectCandidate F st.cluster st.redisPods).Runs t' cand →
    (∀ e ∈ t', Bootstrap.ReadsFrom s e) → Promoted st o (redisWorld.after g t) cand.name

section
variable {F : Formats} {st : State}

theorem ensureOrBootstrap_of_ok {req : Replication.EnsureRequest} {n : Nat}
    {t : Trace} {r : Replication.EnsureResult × Option Error × Bootstrap.Candidate}
    (h : (ensureOrBootstrap F req n).Runs t r)
    (hok : ∀ t1 t2 o, t = t1 ++ t2 → (Replication.ensureTopology F req).Runs t1 o → o.2 = none) :
    (Replication.ensureTopology F req).Runs t (r.1, none) ∧ r.2.1 = none := by
  obtain ⟨t1, ⟨res, err⟩, t2, rfl, h1, h2⟩ := runs_bind.1 h
  obtain rfl : err = none := hok t1 t2 _ rfl h1
  dsimp only at h2
  rw [if_neg (by simp)] at h2
  obtain ⟨rfl, rfl⟩ := runs_ret.1 h2
  exact ⟨by simpa using h1, rfl⟩

/-- **The Runtime phase promotes the first pod by name.** -/
theorem Recovery.promoted {t : Trace} {o : State × Option Error} (hfac : st.clientFactory = true)
    (hpods : st.redisPods ≠ []) (hnd : (st.redisPods.map (·.name)).Nodup)
    (htls : Replication.clientTLSConfig F st.settings = none) (h : Recovery F st g t o) :
    Promoted st o (redisWorld.after g t) (designated st.redisPods "") := by
  obtain ⟨res, err, cand, t1, t2, rfl, htop, -, -, hmaster, -, -, -, hreport⟩ :=
    runtime_run hfac h.run
  obtain ⟨hR1, -⟩ := forall_mem_append.1 h.events
  obtain ⟨hadm1, -⟩ := redisWorld.admits_append.1 h.admits
  have htls' : (topologyRequest st).security.bind (Replication.clientTLSConfig F) = none := htls
  have hdes : designated (topologyRequest st).redisPods (designated st.redisPods "") =
      designated st.redisPods "" :=
    Replication.designated_of_mem (Replication.designated_empty_mem hpods)
  -- whatever follows the first topology, it succeeds
  obtain ⟨hrun, rfl⟩ := ensureOrBootstrap_of_ok htop fun u1 u2 o' heq hrun => by
    rw [heq] at hR1 hadm1
    exact (Replication.ensureTopology_recovers _ hfac hpods htls' rfl hrun
      (forall_mem_append.1 hR1).1 (redisWorld.admits_append.1 hadm1).1 h.replicas).1
  obtain ⟨-, hres, u1, u2, u3, res', hlast, hq⟩ := Replication.ensureTopology_recovers _ hfac
    hpods htls' rfl hrun hR1 hadm1 h.replicas
  refine ⟨hmaster.trans hres, fun p hp => ?_⟩
  have hpass := Replication.ensureWithMaster_pass hlast.pass hnd g
  rw [show (topologyRequest st).redisPods = st.redisPods from rfl] at hdes hpass
  rw [hdes] at hpass
  rw [World.after_append, after_quiet _ fun e he => ReportReq.quiet (hreport e he),
    hlast.after_eq, after_quiet g hq]
  rw [hlast.split] at hR1 hadm1
  obtain ⟨⟨-, hRu⟩, -⟩ := (forall_mem_append.1 hR1).imp_left forall_mem_append.1
  obtain ⟨-, hadmu⟩ := redisWorld.admits_append.1 (redisWorld.admits_append.1 hadm1).1
  rw [after_quiet g hq] at hadmu
  exact hpass.master_iff hRu hadmu h.replicas hp

theorem exists_recovery (F : Formats) (st : State) : ∃ g t o, Recovery F st g t o := by
  let g : Graph := fun _ => .replica "" 0
  refine ⟨g, _, _, World.runs_play (W := redisWorld) (r := healthy) g (runtime F st),
    fun _ _ => nofun, World.admits_play healthy_ok g _, ?_⟩
  rintro ⟨q, r⟩ he
  obtain ⟨g', hrep⟩ := World.play_rep g _ _ he
  obtain rfl : r = healthy g' q := hrep
  exact healthy_recovering g' q

/-- **Who is promoted**: the candidate is promoted in every recovery exactly when it is the first
pod by name. -/
theorem promotesCandidate_iff (s : PVCStore) (hfac : st.clientFactory = true)
    (hpods : st.redisPods ≠ []) (hnd : (st.redisPods.map (·.name)).Nodup)
    (htls : Replication.clientTLSConfig F st.settings = none) :
    PromotesCandidate F st s ↔
      (Bootstrap.storedCandidate F st.cluster s st.redisPods).name =
        designated st.redisPods "" := by
  constructor
  · intro h
    obtain ⟨g, t, o, hrec⟩ := exists_recovery F st
    obtain ⟨t', cand, hcand, hreads⟩ := Bootstrap.exists_candidate F st.cluster st.redisPods s
    have hprom := h g t o t' cand hrec hcand hreads
    rw [← Bootstrap.selectCandidate_stored hpods hcand hreads, ← hprom.1]
    exact (hrec.promoted hfac hpods hnd htls).1
  · intro heq g t o t' cand hrec hcand hreads
    rw [Bootstrap.selectCandidate_stored hpods hcand hreads, heq]
    exact hrec.promoted hfac hpods hnd htls

end

/-! ### The data on `a-1` -/

/-- Only the claim of the pod has an offset. -/
def offsetOn (pod : String) : PVCStore :=
  PVCStore.empty.put
    { name := dataPVCName pod, ns := "prod"
      annotations := (∅ : Map String).insert annotationPVCReplicationOffset "7" }

theorem promotesCandidate_a0 : PromotesCandidate .decimal pairA (offsetOn "a-0") :=
  (promotesCandidate_iff (offsetOn "a-0") rfl (by decide) (by decide) rfl).2 (by decide)

/-- Only `a-1` has stored data, and `a-0` is promoted. -/
theorem recovery_promotes_a0_over_a1 :
    (∃ g t o t' cand, Recovery .decimal pairA g t o ∧
      (Bootstrap.selectCandidate .decimal pairA.cluster pairA.redisPods).Runs t' cand ∧
      (∀ e ∈ t', Bootstrap.ReadsFrom (offsetOn "a-1") e) ∧
      cand.name = "a-1" ∧ cand.source = "freshness" ∧
      o.1.runtime.master = "a-0" ∧ redisWorld.after g t "a-0" = .master ∧
      redisWorld.after g t "a-1" ≠ .master) ∧
    ¬ PromotesCandidate .decimal pairA (offsetOn "a-1") := by
  obtain ⟨g, t, o, hrec⟩ := exists_recovery .decimal pairA
  obtain ⟨t', cand, hcand, hreads⟩ := Bootstrap.exists_candidate .decimal pairA.cluster
    pairA.redisPods (offsetOn "a-1")
  have hstored := Bootstrap.selectCandidate_stored (by decide) hcand hreads
  have hname : cand.name = "a-1" := by
    rw [hstored]
    decide
  have hsource : cand.source = "freshness" := by
    rw [hstored]
    decide
  obtain ⟨hmaster, hgraph⟩ := hrec.promoted rfl (by decide) (by decide) rfl
  have ha0 : o.1.runtime.master = "a-0" := hmaster
  refine ⟨⟨g, t, o, t', cand, hrec, hcand, hreads, hname, hsource, ha0, ?_, ?_⟩, fun h => ?_⟩
  · exact (hgraph _ mem_cons_self).2 rfl
  · exact fun h => absurd ((hgraph _ (.tail _ mem_cons_self)).1 h) (by decide)
  · have hprom := (h g t o t' cand hrec hcand hreads).1
    rw [ha0, hname] at hprom
    exact absurd hprom (by decide)

end Phases

end Keyval
