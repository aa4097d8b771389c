import KeyvalOperator.Ops.Sentinel
import KeyvalOperator.Proof.Topology

/-!
# Controlled failover moves the master

`triggerFailover` takes the first address that Sentinel gives after it accepted the failover,
whether or not Sentinel has switched by then.

* `triggerFailover_cases`: a failover without error enforces the pod of that host as the master.
* `triggerFailover_moves_iff`: the master moves exactly when that address is not the old master's.
-/

namespace Keyval.Sentinel

open Go Interact Interact.Prog Replication List

variable {t : Trace} {F : Formats} {P : Req → Prop} {sec : Option Settings} {cr : KeyValCluster}
  {redisPods sentinelPods : List Pod} {sentinel name host : String} {roles : Map PodRole}
  {pods : List Pod} {master : String}

/-! ## The address Sentinel gives -/

/-- The host of a reply to `get-master-addr-by-name` that has a host and a port. -/
def addrHost : Event Op → Option String
  | ⟨.getMasterAddrByName _ _, .ok (host, port)⟩ => if host ≠ "" ∧ 0 < port then some host else none
  | _ => none

/-- The first host that a Sentinel names. -/
def firstAddr (t : Trace) : Option String := t.findSome? addrHost

/-- The request asks no Sentinel for the master. -/
def NoAddr : Req → Prop
  | .getMasterAddrByName .. => False
  | _ => True

theorem addrHost_noAddr {e : Event Op} (h : NoAddr e.req) : addrHost e = none := by
  obtain ⟨q, r⟩ := e
  cases q <;> first | rfl | exact h.elim

theorem firstAddr_noAddr (h : ∀ e ∈ t, NoAddr e.req) : firstAddr t = none :=
  findSome?_eq_none_iff.2 fun e he => addrHost_noAddr (h e he)

theorem firstAddr_append (t1 t2 : Trace) :
    firstAddr (t1 ++ t2) = (firstAddr t1).or (firstAddr t2) := findSome?_append

theorem firstAddr_retry_ok {port : Int} {n : Nat}
    (h : (retry n (ask (.getMasterAddrByName sentinel name))).Runs t (.ok (host, port))) :
    firstAddr t = if host ≠ "" ∧ 0 < port then some host else none := by
  obtain ⟨t0, t1, rfl, h0, h1⟩ := retryFrom_ok (Q := fun e => addrHost e = none) (fun _ => rfl)
    (fun t e ht ev hev => by rw [runs_ask_mem ht hev]; rfl) h
  rw [firstAddr_append, runs_ask h1, firstAddr, findSome?_eq_none_iff.2 h0, Option.none_or]
  show ([_] : Trace).findSome? addrHost = _
  rw [findSome?_singleton]
  rfl

theorem firstAddr_retry_error {sentinel name : String} {e : Error} {n : Nat}
    (h : (retry n (ask (.getMasterAddrByName sentinel name))).Runs t (.error e)) :
    firstAddr t = none :=
  findSome?_eq_none_iff.2 <| retryFrom_error (Q := fun e => addrHost e = none)
    (fun _ => rfl) (fun t e ht ev hev => by rw [runs_ask_mem ht hev]; rfl) h

theorem pollMaster_ok {port : Int} :
    ∀ {n : Nat} {t : Trace}, (pollMaster sentinel name n).Runs t (.ok (host, port)) →
      firstAddr t = some host
  | 0, t, h => by cases (runs_ret.1 h).2
  | n + 1, t, h => by
    have hwait : ∀ {t}, (pollWait (pollMaster sentinel name n)).Runs t (.ok (host, port)) →
        firstAddr t = some host := by
      intro t h
      obtain ⟨r, t', rfl, h'⟩ := runs_call.1 h
      cases r with
      | some e => cases (runs_ret.1 h').2
      | none =>
        show firstAddr t' = some host
        exact pollMaster_ok h'
    obtain ⟨t1, r, t2, rfl, h1, h2⟩ := runs_bind.1 h
    rw [firstAddr_append]
    cases r with
    | error e =>
      rw [firstAddr_retry_error h1, Option.none_or]
      exact hwait h2
    | ok hp =>
      obtain ⟨host', port'⟩ := hp
      rw [firstAddr_retry_ok h1]
      by_cases hvalid : host' ≠ "" ∧ 0 < port'
      · simp only [if_pos hvalid] at h2 ⊢
        obtain ⟨-, hres⟩ := runs_ret.1 h2
        obtain ⟨rfl, -⟩ := Prod.mk.inj (Except.ok.inj hres)
        rfl
      · simp only [if_neg hvalid] at h2 ⊢
        exact hwait h2

/-! ## The failover -/

theorem acceptFailover_asks {name : String} (hctx : P .ctxErr)
    (hfor : ∀ pod, P (.sentinelForPod pod)) (hfail : ∀ pod, P (.failover pod name)) :
    ∀ (l : List Pod) (errs : List Error), Asks P (acceptFailover name errs l)
  | [], errs => by
    unfold acceptFailover
    split_ifs <;> exact .ret _
  | sp :: rest, errs => by
    refine .call (hfor _) fun r _ => ?_
    cases r with
    | error e => exact acceptFailover_asks hctx hfor hfail rest _
    | ok u =>
      have honce : Asks P (failoverOnce sp.name name) := by
        refine .call (hfail _) fun r _ => ?_
        cases r with
        | ok u => exact .ret _
        | error e =>
          by_cases h : upperContains e.msg "NOGOODSLAVE"
          · simp only [ret_bind, if_pos h]
            exact .ret _
          · simp only [ret_bind, if_neg h]
            exact .ret _
      refine (retry_asks hctx honce 3).bind fun r => ?_
      cases r with
      | ok u => exact .ret _
      | error e =>
        dsimp only
        split_ifs
        · exact .ret _
        · exact acceptFailover_asks hctx hfor hfail rest _

theorem pollMaster_asks {sentinel name : String} (hctx : P .ctxErr)
    (haddr : P (.getMasterAddrByName sentinel name)) :
    ∀ n, Asks P (pollMaster sentinel name n)
  | 0 => .ret _
  | n + 1 => by
    have hwait : Asks P (pollWait (pollMaster sentinel name n)) := by
      refine .call hctx fun r _ => ?_
      cases r with
      | some e => exact .ret _
      | none => exact pollMaster_asks hctx haddr n
    refine Issues.bind (retry_asks hctx (ask_asks haddr) 3) fun r => ?_
    cases r with
    | error e => exact hwait
    | ok hp =>
      dsimp only
      split_ifs
      · exact .ret _
      · exact hwait

theorem podForHost_mem {host pod : String} (h : podForHost F pods host = .ok pod) :
    pod ≠ "" ∧ ∃ p ∈ pods, p.name = pod := by
  unfold podForHost at h
  dsimp only at h
  split_ifs at h with hname hip haddr
  · obtain rfl := Except.ok.inj h
    refine ⟨hname, ?_⟩
    unfold matchPodByHost at hname ⊢
    split at hname
    · split_ifs at hname ⊢ with hmem
      · obtain ⟨p, hp, hpn⟩ := mem_map.1 hmem
        exact ⟨p, hp, hpn⟩
      · exact absurd rfl hname
    · exact absurd rfl hname
  · obtain rfl := Except.ok.inj h
    refine ⟨haddr, ?_⟩
    cases hfind : pods.find? (·.podIP = host) with
    | none =>
      rw [hfind] at haddr
      exact absurd rfl haddr
    | some p => exact ⟨p, mem_of_find?_eq_some hfind, rfl⟩

theorem ensureTopology_forced_asks {req : EnsureRequest}
    (hcache : req.masterCache = false) (hforce : req.forceMaster ≠ "")
    (hpass : Asks P (ensureWithMaster req.cluster req.redisPods req.forceMaster req.options)) :
    Asks P (ensureTopology F req) := by
  have hfrom : ensureFromCache req req.options = .ret none := by
    unfold ensureFromCache
    simp [hcache]
  have hremember : ∀ m d err, remember req m d err = .ret () := by
    intro m d err
    unfold remember
    simp [hcache]
  unfold ensureTopology
  simp only [bind_eq, pure_eq, hfrom, ret_bind, if_pos hforce]
  by_cases hfac : req.factory = true
  · rw [if_neg (not_not.2 hfac)]
    by_cases hpods : req.redisPods = []
    · rw [if_pos hpods]
      exact .ret _
    rw [if_neg hpods]
    cases req.security.bind (clientTLSConfig F) with
    | some e => exact .ret _
    | none =>
      unfold ensureForced
      simp only [bind_eq, pure_eq, hremember, ret_bind]
      exact hpass.bind fun _ => .ret _
  · rw [if_pos hfac]
    exact .ret _

theorem ensureReplicationToMaster_spares {m : String} (hne : m ≠ "") (hm : ∃ p ∈ pods, p.name = m) :
    Asks (Spares m) (ensureReplicationToMaster F cr pods m sec) := by
  refine Issues.bind (ensureTopology_forced_asks rfl hne (ensureWithMaster_spares hm)) fun r => ?_
  obtain ⟨res, err⟩ := r
  cases err with
  | some e => exact .ret _
  | none => exact .ret _

/-- **The failover**: without error, it enforces as the master the pod of the first address that
Sentinel gives. -/
theorem triggerFailover_cases
    (h : (triggerFailover F cr redisPods sentinelPods sec).Runs t (.ok (master, roles))) :
    ∃ host, firstAddr t = some host ∧ podForHost F redisPods host = .ok master ∧
      ∀ e ∈ t, Spares master e.req := by
  unfold triggerFailover at h
  simp only [bind_eq, pure_eq, ask_eq, call_bind, ret_bind] at h
  split_ifs at h
  · cases (runs_ret.1 h).2
  · cases (runs_ret.1 h).2
  · cases (runs_ret.1 h).2
  cases htls : sec.bind (clientTLSConfig F) with
  | some e =>
    rw [htls] at h
    cases (runs_ret.1 h).2
  | none =>
    rw [htls] at h
    obtain ⟨t1, r, t2, rfl, h1, h2⟩ := runs_bind.1 h
    cases r with
    | error e => cases (runs_ret.1 h2).2
    | ok sentinel =>
      obtain ⟨n, t3, rfl, h3⟩ := runs_call.1 h2
      obtain ⟨t4, r, t5, rfl, h4, h5⟩ := runs_bind.1 h3
      cases r with
      | error e => cases (runs_ret.1 h5).2
      | ok addr =>
        obtain ⟨host, port⟩ := addr
        dsimp only at h5
        cases hpod : podForHost F redisPods host with
        | error e =>
          rw [hpod] at h5
          cases (runs_ret.1 h5).2
        | ok masterName =>
          rw [hpod] at h5
          obtain ⟨t6, r, t7, rfl, h6, h7⟩ := runs_bind.1 h5
          cases r with
          | error e => cases (runs_ret.1 h7).2
          | ok out =>
            obtain ⟨rfl, hres⟩ := runs_ret.1 h7
            obtain ⟨rfl, -⟩ := Prod.mk.inj (Except.ok.inj hres)
            obtain ⟨hne, hmem⟩ := podForHost_mem hpod
            have haddr1 : firstAddr t1 = none := firstAddr_noAddr <|
              (acceptFailover_asks trivial (fun _ => trivial) (fun _ => trivial) _ _).mem h1
            have hsp1 := (acceptFailover_asks (P := Spares master) trivial (fun _ => trivial)
              (fun _ => trivial) _ _).mem h1
            have hsp4 := (pollMaster_asks (P := Spares master) trivial trivial n).mem h4
            have hsp6 := (ensureReplicationToMaster_spares hne hmem).mem h6
            refine ⟨host, ?_, hpod, fun e he => ?_⟩
            · have hpoll : firstAddr (⟨.polls, n⟩ :: (t4 ++ (t6 ++ []))) =
                  firstAddr (t4 ++ (t6 ++ [])) := rfl
              rw [firstAddr_append, haddr1, Option.none_or, hpoll, firstAddr_append,
                pollMaster_ok h4, Option.some_or]
            · rcases mem_append.1 he with he | he
              · exact hsp1 e he
              rcases mem_cons.1 he with rfl | he
              · trivial
              rcases mem_append.1 he with he | he
              · exact hsp4 e he
              · rw [append_nil] at he
                exact hsp6 e he

/-- **Controlled failover moves the master** and leaves the replica `e` that Sentinel elects alone
exactly when the first address that Sentinel gives is not the address of the old master `m`. -/
theorem triggerFailover_moves_iff {F : Formats} {t : Trace} {m e : String}
    (hrun : (triggerFailover F cr redisPods sentinelPods sec).Runs t (.ok (master, roles)))
    -- a switched Sentinel names the replica it elected
    (helect : ∀ host p, firstAddr t = some host → podForHost F redisPods host = .ok p → p ≠ m →
      e = p) :
    (master ≠ m ∧ ∀ ev ∈ t, ∀ port, ev.req ≠ .replicaOf e (masterHost cr redisPods m) port) ↔
      ∀ host, firstAddr t = some host → podForHost F redisPods host ≠ .ok m := by
  obtain ⟨host, haddr, hpod, hspares⟩ := triggerFailover_cases hrun
  constructor
  · rintro ⟨hne, -⟩ host' haddr' hpod'
    obtain rfl := Option.some.inj (haddr.symm.trans haddr')
    exact hne (Except.ok.inj (hpod.symm.trans hpod'))
  · intro h
    have hne : master ≠ m := by
      rintro rfl
      exact h host haddr hpod
    refine ⟨hne, fun ev hev port hreq => ?_⟩
    obtain rfl := helect host master haddr hpod hne
    have hsp := hspares ev hev
    rw [hreq] at hsp
    exact hsp rfl

/-! ## A stale address -/

/-- A Sentinel. -/
def sentinelPodsA : List Pod := [{ name := "a-sentinel-0", ns := "prod" }]

/-- Sentinel accepts the failover and names `host` as the master; the Redis pods are healthy. -/
def sentinelNames (host : String) (g : Graph) : Replies
  | .sentinelForPod _ => .ok ()
  | .failover .. => .ok ()
  | .polls => (1 : Nat)
  | .getMasterAddrByName .. => .ok (host, 6379)
  | q => healthy g q

theorem sentinelNames_ok (host : String) (g : Graph) (q : Req) :
    redisWorld.ok g ⟨q, sentinelNames host g q⟩ := by
  cases q with
  | replicationInfo pod => exact healthy_ok g (.replicationInfo pod)
  | role pod => exact healthy_ok g (.role pod)
  | _ => trivial

/-- A failover that Sentinel answers with `host`. -/
def failoverA (host : String) : Trace × Result (String × Map PodRole) :=
  redisWorld.play (sentinelNames host) (fun _ => .master)
    (triggerFailover .decimal clusterA podsA sentinelPodsA none)

theorem runs_failoverA (host : String) :
    (triggerFailover .decimal clusterA podsA sentinelPodsA none).Runs (failoverA host).1
      (failoverA host).2 :=
  World.runs_play _ _

/-- Sentinel has switched when it is asked. -/
theorem triggerFailover_moves_to_a1 :
    ∃ t roles, (triggerFailover .decimal clusterA podsA sentinelPodsA none).Runs t
        (.ok ("a-1", roles)) ∧ "a-1" ≠ "a-0" ∧
      ∀ ev ∈ t, ∀ port, ev.req ≠ .replicaOf "a-1" (masterHost clusterA podsA "a-0") port := by
  have hrun := runs_failoverA "a-1.a-headless.prod.svc"
  have haddr : firstAddr (failoverA "a-1.a-headless.prod.svc").1 =
      some "a-1.a-headless.prod.svc" := rfl
  have hpod : podForHost .decimal podsA "a-1.a-headless.prod.svc" = .ok "a-1" := rfl
  refine ⟨_, _, hrun, (triggerFailover_moves_iff hrun (m := "a-0") (e := "a-1")
    fun host p hhost hp _ => ?_).2 fun host hhost hp => ?_⟩
  · obtain rfl := Option.some.inj (haddr.symm.trans hhost)
    exact Except.ok.inj (hpod.symm.trans hp)
  · obtain rfl := Option.some.inj (haddr.symm.trans hhost)
    exact absurd (Except.ok.inj (hpod.symm.trans hp)) (by decide)

/-- Sentinel still names `a-0` when it is asked: the failover returns `a-0` and makes `a-1`, which
Sentinel has promoted, a replica of `a-0`. -/
theorem triggerFailover_keeps_a0 :
    ∃ t roles, (triggerFailover .decimal clusterA podsA sentinelPodsA none).Runs t
        (.ok ("a-0", roles)) ∧ redisWorld.Admits (fun _ => .master) t ∧
      ⟨.replicaOf "a-1" (masterHost clusterA podsA "a-0") 6379, .ok ()⟩ ∈ t ∧
      redisWorld.after (fun _ => .master) t "a-1" = .replica "10.0.0.1" 6379 := by
  refine ⟨_, _, runs_failoverA "a-0.a-headless.prod.svc",
    World.admits_play (sentinelNames_ok _) _ _, ?_, rfl⟩
  exact mem_of_getElem? (i := 11) rfl

end Keyval.Sentinel
