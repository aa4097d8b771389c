import KeyvalOperator.Ops.Replication
import KeyvalOperator.Api.RedisWorld

/-!
# One pass over the pods

What `ensureWithMaster` can do to each pod, said once:

* `PodPass`: the outcomes of the loop body on one pod, with the replies to `INFO`, the state of the
  pod before and after, and what is recorded; `ensurePod_cases`: the body has one of them.
* `ensureWithMaster_pass`: a pass without error has one of them on every pod.
-/

namespace Keyval.Replication

open Go Interact Interact.Prog List

variable {t : Trace} {P : Req → Prop} {res res' : EnsureResult} {p : Pod} {q : Req}
  {next : ReplicationInfo → Option Error → M (ReplicationInfo × Option Error)}
  {reply : Result ReplicationInfo}

theorem ask_asks (h : P q) : Asks P (ask q) := .call h fun _ _ => .ret _

/-! ## Retry -/

section
variable {α : Type} {fn : M (Result α)}

theorem retryFrom_asks (hctx : P .ctxErr) (hfn : Asks P fn) : ∀ n, Asks P (retryFrom fn n)
  | 0 => by
    refine .call hctx fun r _ => ?_
    cases r with
    | some e => exact .ret _
    | none => exact hfn
  | n + 1 => by
    refine .call hctx fun r _ => ?_
    cases r with
    | some e => exact .ret _
    | none =>
      show Asks P (Prog.bind fn _)
      refine Issues.bind hfn fun r => ?_
      cases r with
      | ok a => exact .ret _
      | error e =>
        refine .call hctx fun r _ => ?_
        cases r with
        | some e => exact .ret _
        | none => exact retryFrom_asks hctx hfn n

theorem retry_asks (hctx : P .ctxErr) (hfn : Asks P fn) (attempts : Nat) :
    Asks P (retry attempts fn) := retryFrom_asks hctx hfn _

section
variable {Q : Event Op → Prop} (hctx : ∀ r, Q ⟨.ctxErr, r⟩)
  (hfail : ∀ t e, fn.Runs t (.error e) → ∀ ev ∈ t, Q ev)
include hctx hfail

theorem retryFrom_ok {a : α} : ∀ {n : Nat} {t : Trace},
    (retryFrom fn n).Runs t (.ok a) → ∃ t0 t1, t = t0 ++ t1 ∧ (∀ ev ∈ t0, Q ev) ∧ fn.Runs t1 (.ok a)
  | 0, t, h => by
    obtain ⟨r, t', rfl, h'⟩ := runs_call.1 h
    cases r with
    | some e => cases (runs_ret.1 h').2
    | none =>
      refine ⟨[⟨.ctxErr, none⟩], t', rfl, fun ev hev => ?_, h'⟩
      obtain rfl := mem_singleton.1 hev
      exact hctx _
  | n + 1, t, h => by
    obtain ⟨r, t', rfl, h'⟩ := runs_call.1 h
    cases r with
    | some e => cases (runs_ret.1 h').2
    | none =>
      obtain ⟨u, r, v, rfl, hu, hv⟩ := runs_bind (p := fn).1 h'
      cases r with
      | ok b =>
        obtain ⟨rfl, hb⟩ := runs_ret.1 hv
        obtain rfl := Except.ok.inj hb
        refine ⟨[⟨.ctxErr, none⟩], u, by simp, fun ev hev => ?_, hu⟩
        obtain rfl := mem_singleton.1 hev
        exact hctx _
      | error e =>
        obtain ⟨r, v', rfl, hv'⟩ := runs_call.1 hv
        cases r with
        | some e => cases (runs_ret.1 hv').2
        | none =>
          obtain ⟨t0, t1, rfl, h0, h1⟩ := retryFrom_ok hv'
          refine ⟨⟨.ctxErr, none⟩ :: (u ++ ⟨.ctxErr, none⟩ :: t0), t1, by simp,
            fun ev hev => ?_, h1⟩
          rcases mem_cons.1 hev with rfl | hev
          · exact hctx _
          rcases mem_append.1 hev with hev | hev
          · exact hfail u e hu ev hev
          rcases mem_cons.1 hev with rfl | hev
          · exact hctx _
          · exact h0 ev hev

theorem retryFrom_error {e : Error} : ∀ {n : Nat} {t : Trace},
    (retryFrom fn n).Runs t (.error e) → ∀ ev ∈ t, Q ev
  | 0, t, h, ev, hev => by
    obtain ⟨r, t', rfl, h'⟩ := runs_call.1 h
    rcases mem_cons.1 hev with rfl | hev'
    · exact hctx _
    cases r with
    | some e =>
      obtain ⟨rfl, -⟩ := runs_ret.1 h'
      cases hev'
    | none => exact hfail t' e h' ev hev'
  | n + 1, t, h, ev, hev => by
    obtain ⟨r, t', rfl, h'⟩ := runs_call.1 h
    rcases mem_cons.1 hev with rfl | hev'
    · exact hctx _
    cases r with
    | some e =>
      obtain ⟨rfl, -⟩ := runs_ret.1 h'
      cases hev'
    | none =>
      obtain ⟨u, r, v, rfl, hu, hv⟩ := runs_bind (p := fn).1 h'
      cases r with
      | ok b => cases (runs_ret.1 hv).2
      | error e' =>
        rcases mem_append.1 hev' with hev' | hev'
        · exact hfail u e' hu ev hev'
        obtain ⟨r, v', rfl, hv'⟩ := runs_call.1 hv
        rcases mem_cons.1 hev' with rfl | hev''
        · exact hctx _
        cases r with
        | some e =>
          obtain ⟨rfl, -⟩ := runs_ret.1 hv'
          cases hev''
        | none => exact retryFrom_error hv' ev hev''

end

end

theorem runs_ask {r : q.Rep} (h : (ask q).Runs t r) : t = [⟨q, r⟩] := by
  obtain ⟨r', t', rfl, h'⟩ := runs_call.1 h
  obtain ⟨rfl, rfl⟩ := runs_ret.1 h'
  rfl

theorem runs_ask_mem {r : q.Rep} (h : (ask q).Runs t r) {e : Event Op} (he : e ∈ t) :
    e = ⟨q, r⟩ := by
  rw [runs_ask h] at he
  exact mem_singleton.1 he

/-- The event leaves Redis as it is. -/
def Unchanging (e : Event Op) : Prop := ∀ g, redisWorld.step g e = g

theorem after_unchanging (g : Graph) (h : ∀ e ∈ t, Unchanging e) : redisWorld.after g t = g :=
  redisWorld.after_inv (I := fun g' => g' = g) rfl fun e he g' hg => by rw [h e he g', hg]

theorem after_retry {cmd : M (Result Unit)} {e : Event Op} {n : Nat} (g : Graph)
    (h : (retry n cmd).Runs t (.ok ())) (hok : ∀ {t}, cmd.Runs t (.ok ()) → t = [e])
    (hfail : ∀ t err, cmd.Runs t (.error err) → ∀ ev ∈ t, Unchanging ev) :
    redisWorld.after g t = redisWorld.step g e := by
  obtain ⟨t0, t1, rfl, h0, h1⟩ := retryFrom_ok (fun _ _ => rfl) hfail h
  rw [hok h1, World.after_append, after_unchanging g h0]
  rfl

theorem retry_noOne_ok {pod : String} {n : Nat} (h : (retry n (ask (.noOne pod))).Runs t (.ok ()))
    (g : Graph) : redisWorld.after g t = Function.update g pod .master :=
  after_retry g h runs_ask fun _ _ ht _ hev => runs_ask_mem ht hev ▸ fun _ => rfl

theorem retry_replicaOf_ok {pod host : String} {port : Int} {n : Nat}
    (h : (retry n (ask (.replicaOf pod host port))).Runs t (.ok ())) (g : Graph) :
    redisWorld.after g t = Function.update g pod (.replica host port) :=
  after_retry g h runs_ask fun _ _ ht _ hev => runs_ask_mem ht hev ▸ fun _ => rfl

/-! ## Credentials and waiting -/

theorem authUsers_asks (pod password : String)
    (hP : ∀ user, P (.auth pod user password)) : ∀ users, Asks P (authUsers pod password users)
  | [] => .ret _
  | user :: rest => by
    unfold authUsers
    simp only [bind_eq, pure_eq, ask_eq, call_bind, ret_bind]
    refine .call (hP user) fun r _ => ?_
    cases r with
    | ok u => exact .ret _
    | error e =>
      by_cases h : ¬ isWrongPassError e ∨ rest = []
      · simp only [if_pos h, issues_ret]
      · simp only [if_neg h]
        exact authUsers_asks pod password hP rest

theorem maybeAuth_asks (pod : String) (opts : EnsureOptions) (hctx : P .ctxErr)
    (hP : ∀ user, P (.auth pod user opts.password)) : Asks P (maybeAuth pod opts) := by
  unfold maybeAuth
  by_cases h : opts.password = ""
  · rw [if_pos h]
    exact .ret _
  · rw [if_neg h]
    exact retry_asks hctx (authUsers_asks pod opts.password hP _) 2

section
variable {pod : String} {threshold : Int}

theorem waitPoll_asks (hctx : P .ctxErr) (hP : P (.replicationInfo pod))
    (hnext : ∀ info err, Asks P (next info err)) (info : ReplicationInfo) (err : Option Error) :
    Asks P (waitPoll pod threshold next info err) := by
  unfold waitPoll
  simp only [bind_eq, pure_eq, ask_eq, call_bind, ret_bind]
  refine .call hctx fun r _ => ?_
  cases r with
  | some e => exact .ret _
  | none =>
    refine .call hP fun r _ => ?_
    cases r with
    | error e => exact hnext _ _
    | ok i =>
      dsimp only
      split
      · exact .ret _
      · exact hnext _ _

theorem waitPolls_asks (hctx : P .ctxErr) (hP : P (.replicationInfo pod)) :
    ∀ n info err, Asks P (waitPolls pod threshold n info err)
  | 0 => waitPoll_asks hctx hP fun _ _ => .ret _
  | n + 1 => waitPoll_asks hctx hP fun info err => by
    refine .call hctx fun r _ => ?_
    cases r with
    | some e => exact .ret _
    | none => exact waitPolls_asks hctx hP n info err

/-- The record `info` is a reply to `INFO` in `t`, or the initial one and no `INFO` succeeded. -/
def Received (pod : String) (init : ReplicationInfo) (t : Trace) (info : ReplicationInfo) : Prop :=
  .ok info ∈ infoReplies pod t ∨ info = init ∧ ∀ i, .ok i ∉ infoReplies pod t

theorem waitPoll_info
    (hnext : ∀ init e t info err, (next init e).Runs t (info, err) → Received pod init t info)
    {init info : ReplicationInfo} {e err : Option Error}
    (h : (waitPoll pod threshold next init e).Runs t (info, err)) : Received pod init t info := by
  unfold waitPoll at h
  simp only [bind_eq, pure_eq, ask_eq, call_bind, ret_bind] at h
  obtain ⟨r, t', rfl, h'⟩ := runs_call.1 h
  cases r with
  | some c =>
    obtain ⟨rfl, hb⟩ := runs_ret.1 h'
    obtain ⟨rfl, -⟩ := Prod.mk.inj hb
    exact .inr ⟨rfl, fun _ => not_mem_nil⟩
  | none =>
    obtain ⟨r, u, rfl, hu⟩ := runs_call.1 h'
    have hcons : infoReplies pod (⟨.ctxErr, none⟩ :: ⟨.replicationInfo pod, r⟩ :: u) =
        r :: infoReplies pod u := infoReplies_cons_info pod r u
    unfold Received
    rw [hcons]
    cases r with
    | error c =>
      rcases hnext _ _ _ _ _ hu with hin | ⟨rfl, hno⟩
      · exact .inl (.tail _ hin)
      · refine .inr ⟨rfl, fun i hi => ?_⟩
        rcases mem_cons.1 hi with heq | hi
        · cases heq
        · exact hno i hi
    | ok i =>
      dsimp only at hu
      split at hu
      · obtain ⟨rfl, hb⟩ := runs_ret.1 hu
        obtain ⟨rfl, -⟩ := Prod.mk.inj hb
        exact .inl (.head _)
      · rcases hnext _ _ _ _ _ hu with hin | ⟨rfl, -⟩
        · exact .inl (.tail _ hin)
        · exact .inl (.head _)

theorem waitPolls_info :
    ∀ {n : Nat} {init info : ReplicationInfo} {e err : Option Error} {t : Trace},
      (waitPolls pod threshold n init e).Runs t (info, err) → Received pod init t info
  | 0, _, _, _, _, _, h => by
    refine waitPoll_info (fun init e t info err h => ?_) h
    obtain ⟨rfl, hb⟩ := runs_ret.1 h
    obtain ⟨rfl, -⟩ := Prod.mk.inj hb
    exact .inr ⟨rfl, fun _ => not_mem_nil⟩
  | n + 1, _, _, _, _, _, h => by
    refine waitPoll_info (fun init e t info err h => ?_) h
    obtain ⟨r, t', rfl, h'⟩ := runs_call.1 h
    cases r with
    | some c =>
      obtain ⟨rfl, hb⟩ := runs_ret.1 h'
      obtain ⟨rfl, -⟩ := Prod.mk.inj hb
      exact .inr ⟨rfl, fun _ => not_mem_nil⟩
    | none =>
      show Received pod init t' info
      exact waitPolls_info h'

end

/-! ## One pod -/

section
variable (cr : KeyValCluster) (pods : List Pod) (opts : EnsureOptions) (m : String)

/-- The outcomes of the loop body on a pod in the state `s`: the replies to `INFO`, the state
after, and the role and the info recorded. -/
inductive PodPass (pod : String) (s : RedisState) :
    List (Result ReplicationInfo) → RedisState → PodRole → ReplicationInfo → Prop
  /-- The designated master whose `INFO` fails is left alone. -/
  | unread {e : Error} : pod = m → PodPass pod s [.error e] s .master { role := "master" }
  | seen {info : ReplicationInfo} : pod = m → info.role = "master" →
      PodPass pod s [.ok info] s .master info
  | promoted {info : ReplicationInfo} : pod = m → info.role ≠ "master" →
      PodPass pod s [.ok info] .master .master { info with role := "master", masterHost := "" }
  | aligned {info : ReplicationInfo} : pod ≠ m → looksAligned cr pods opts m info = true →
      PodPass pod s [.ok info] s .replica (replicaInfo info)
  | realigned {r : Result ReplicationInfo} {rest : List (Result ReplicationInfo)}
      {info : ReplicationInfo} : pod ≠ m →
      (∀ i, r = .ok i → looksAligned cr pods opts m i = false) →
      (.ok info ∈ rest ∨ info = {} ∧ ∀ i, .ok i ∉ rest) →
      PodPass pod s (r :: rest) (.replica (masterHost cr pods m) (redisPort cr)) .replica
        (replicaInfo info)

variable {cr pods opts m}

/-- The result gets a role and a reply for the pod. -/
structure Adds (res res' : EnsureResult) (pod : String) (role : PodRole)
    (info : ReplicationInfo) : Prop where
  master : res'.master = res.master
  roles : res'.roles = res.roles.insert pod role
  infos : res'.infos = res.infos.insert pod info

theorem alignReplica_cases {pod : String}
    (h : (alignReplica cr pods opts m res pod).Runs t (res', none)) (g : Graph) :
    redisWorld.after g t pod = .replica (masterHost cr pods m) (redisPort cr) ∧
    ∃ info, (.ok info ∈ infoReplies pod t ∨ info = {} ∧ ∀ i, .ok i ∉ infoReplies pod t) ∧
      Adds res res' pod .replica (replicaInfo info) := by
  obtain ⟨t1, r, t2, rfl, h1, h2⟩ := runs_bind.1 h
  cases r with
  | error e => cases (runs_ret.1 h2).2
  | ok u =>
    obtain ⟨t3, ⟨info, werr⟩, t4, rfl, h3, h4⟩ := runs_bind.1 h2
    obtain ⟨rfl, hres⟩ := runs_ret.1 h4
    obtain ⟨rfl, -⟩ := Prod.mk.inj hres
    -- the commands are in `t1`, the replies in `t3`
    have hq3 : ∀ e ∈ t3, Quiet e.req := by
      refine Asks.mem ?_ h3
      exact .call trivial fun n _ => waitPolls_asks trivial trivial n {} none
    have hn1 : ∀ e ∈ t1, NoInfo e.req := by
      refine Asks.mem ?_ h1
      exact retry_asks trivial (ask_asks trivial) 3
    have hinfo : Received pod {} t3 info := by
      obtain ⟨n, t5, rfl, h5⟩ := runs_call.1 h3
      show Received pod {} t5 info
      exact waitPolls_info h5
    rw [append_nil, World.after_append, after_quiet _ hq3, retry_replicaOf_ok h1,
      Function.update_self, infoReplies_append, infoReplies_noInfo hn1, nil_append]
    exact ⟨rfl, info, hinfo, rfl, rfl, rfl⟩

theorem ensureReplica_cases {pod : String} (hpod : pod ≠ m)
    (h : (ensureReplica cr pods opts m res pod reply).Runs t (res', none)) (g : Graph) :
    ∃ role info, PodPass cr pods opts m pod (g pod) (reply :: infoReplies pod t)
      (redisWorld.after g t pod) role info ∧ Adds res res' pod role info := by
  unfold ensureReplica at h
  have halign : (alignReplica cr pods opts m res pod).Runs t (res', none) →
      (∀ i, reply = .ok i → looksAligned cr pods opts m i = false) →
      ∃ role info, PodPass cr pods opts m pod (g pod) (reply :: infoReplies pod t)
        (redisWorld.after g t pod) role info ∧ Adds res res' pod role info := by
    intro h hno
    obtain ⟨hs, info, hinfo, hadds⟩ := alignReplica_cases h g
    rw [hs]
    exact ⟨.replica, replicaInfo info, .realigned hpod hno hinfo, hadds⟩
  cases reply with
  | error e => exact halign h nofun
  | ok info =>
    dsimp only at h
    by_cases ha : looksAligned cr pods opts m info = true
    · rw [if_pos ha] at h
      obtain ⟨rfl, hres⟩ := runs_ret.1 h
      obtain ⟨rfl, -⟩ := Prod.mk.inj hres
      exact ⟨.replica, replicaInfo info, .aligned hpod ha, rfl, rfl, rfl⟩
    · rw [if_neg ha] at h
      refine halign h fun i hi => ?_
      obtain rfl := Except.ok.inj hi
      exact Bool.eq_false_iff.2 ha

theorem ensureMaster_cases (h : (ensureMaster res m reply).Runs t (res', none)) (g : Graph) :
    ∃ role info, PodPass cr pods opts m m (g m) (reply :: infoReplies m t)
      (redisWorld.after g t m) role info ∧ Adds res res' m role info := by
  unfold ensureMaster at h
  cases reply with
  | error e =>
    rw [if_pos rfl] at h
    obtain ⟨rfl, hres⟩ := runs_ret.1 h
    obtain ⟨rfl, -⟩ := Prod.mk.inj hres
    exact ⟨.master, _, .unread rfl, rfl, rfl, rfl⟩
  | ok info =>
    by_cases hrole : info.role = "master"
    · rw [if_pos hrole] at h
      obtain ⟨rfl, hres⟩ := runs_ret.1 h
      obtain ⟨rfl, -⟩ := Prod.mk.inj hres
      exact ⟨.master, _, .seen rfl hrole, rfl, rfl, rfl⟩
    · rw [if_neg hrole] at h
      obtain ⟨t1, r, t2, rfl, h1, h2⟩ := runs_bind.1 h
      cases r with
      | error e => cases (runs_ret.1 h2).2
      | ok u =>
        obtain ⟨rfl, hres⟩ := runs_ret.1 h2
        obtain ⟨rfl, -⟩ := Prod.mk.inj hres
        have hn1 : ∀ e ∈ t1, NoInfo e.req := by
          refine Asks.mem ?_ h1
          exact retry_asks trivial (ask_asks trivial) 3
        rw [append_nil, retry_noOne_ok h1, Function.update_self, infoReplies_noInfo hn1]
        exact ⟨.master, _, .promoted rfl hrole, rfl, rfl, rfl⟩

/-- The loop body without error: quiet requests, then `INFO`, then what its reply leads to. -/
theorem ensurePod_split (h : (ensurePod cr pods opts m res p).Runs t (res', none)) :
    ∃ t0 reply t1, t = t0 ++ ⟨.replicationInfo p.name, reply⟩ :: t1 ∧
      (∀ e ∈ t0, Quiet e.req ∧ NoInfo e.req) ∧
      (if p.name = m then ensureMaster res p.name reply
        else ensureReplica cr pods opts m res p.name reply).Runs t1 (res', none) := by
  obtain ⟨r, t1, rfl, h1⟩ := runs_asked.1 h
  cases r with
  | error e => cases (runs_ret.1 h1).2
  | ok u =>
    obtain ⟨t2, r, t3, rfl, h2, h3⟩ := runs_bind.1 h1
    cases r with
    | error e => cases (runs_ret.1 h3).2
    | ok u' =>
      obtain ⟨reply, t4, rfl, h4⟩ := runs_call.1 h3
      refine ⟨⟨.redisForPod p.name, .ok u⟩ :: t2, reply, t4, rfl, fun e he => ?_, h4⟩
      rcases mem_cons.1 he with rfl | he
      · exact ⟨trivial, trivial⟩
      · exact (maybeAuth_asks (P := fun q => Quiet q ∧ NoInfo q) p.name opts ⟨trivial, trivial⟩
          fun _ => ⟨trivial, trivial⟩).mem h2 e he

/-- **One pod**: the loop body without error has one of the outcomes of `PodPass`. -/
theorem ensurePod_cases (h : (ensurePod cr pods opts m res p).Runs t (res', none)) (g : Graph) :
    ∃ role info, PodPass cr pods opts m p.name (g p.name) (infoReplies p.name t)
      (redisWorld.after g t p.name) role info ∧ Adds res res' p.name role info := by
  obtain ⟨t0, reply, t1, rfl, hq, h1⟩ := ensurePod_split h
  have hafter : redisWorld.after g (t0 ++ ⟨.replicationInfo p.name, reply⟩ :: t1) =
      redisWorld.after g t1 := by
    rw [World.after_append, after_quiet g fun e he => (hq e he).1]
    rfl
  rw [hafter, infoReplies_append, infoReplies_noInfo fun e he => (hq e he).2, nil_append,
    infoReplies_cons_info]
  by_cases hm : p.name = m
  · rw [if_pos hm] at h1
    subst hm
    exact ensureMaster_cases h1 g
  · rw [if_neg hm] at h1
    exact ensureReplica_cases hm h1 g

theorem ensurePod_truth {g : Graph} (h : (ensurePod cr pods opts m res p).Runs t (res', none))
    (hg : redisWorld.Admits g t) {info : ReplicationInfo} {rest : List (Result ReplicationInfo)}
    (hi : infoReplies p.name t = .ok info :: rest) : (g p.name).Shows info := by
  obtain ⟨t0, reply, t1, rfl, hq, -⟩ := ensurePod_split h
  rw [infoReplies_append, infoReplies_noInfo fun e he => (hq e he).2, nil_append,
    infoReplies_cons_info] at hi
  obtain ⟨rfl, -⟩ := List.cons.inj hi
  have hok := (redisWorld.admits_append.1 hg).2.1
  rw [after_quiet g fun e he => (hq e he).1] at hok
  exact hok

variable (cr pods opts m)

theorem ensurePod_asks (res : EnsureResult) (p : Pod) (hctx : P .ctxErr) (hpolls : P .polls)
    (hfor : P (.redisForPod p.name)) (hauth : ∀ user, P (.auth p.name user opts.password))
    (hinfo : P (.replicationInfo p.name)) (hno : p.name = m → P (.noOne p.name))
    (hof : p.name ≠ m → P (.replicaOf p.name (masterHost cr pods m) (redisPort cr))) :
    Asks P (ensurePod cr pods opts m res p) := by
  have halign : p.name ≠ m → Asks P (alignReplica cr pods opts m res p.name) := by
    intro hm
    refine Issues.bind (retry_asks hctx (ask_asks (hof hm)) 3) fun r => ?_
    cases r with
    | error e => exact .ret _
    | ok u =>
      refine Issues.bind ?_ fun _ => .ret _
      exact .call hpolls fun n _ => waitPolls_asks hctx hinfo n {} none
  unfold ensurePod
  simp only [bind_eq, pure_eq, ask_eq, call_bind, ret_bind]
  refine .call hfor fun r _ => ?_
  cases r with
  | error e => exact .ret _
  | ok u =>
    refine (maybeAuth_asks p.name opts hctx hauth).bind fun r => ?_
    cases r with
    | error e => exact .ret _
    | ok u' =>
      refine .call hinfo fun reply _ => ?_
      by_cases hm : p.name = m
      · rw [if_pos hm]
        unfold ensureMaster
        simp only [bind_eq, pure_eq]
        split_ifs
        · exact .ret _
        · refine Issues.bind (retry_asks hctx (ask_asks (hno hm)) 3) fun r => ?_
          cases r <;> exact .ret _
      · rw [if_neg hm]
        unfold ensureReplica
        cases reply with
        | error e => exact halign hm
        | ok info =>
          dsimp only
          split_ifs
          · exact .ret _
          · exact halign hm

theorem ensurePod_onPod (res : EnsureResult) (p : Pod) :
    Asks (OnPod p.name) (ensurePod cr pods opts m res p) :=
  ensurePod_asks cr pods opts m res p trivial trivial trivial (fun _ => trivial) rfl
    (fun _ => rfl) (fun _ => rfl)

/-! ## The whole pass -/

/-- What a pass without error over the pods `done` leaves: every pod of `done` has an outcome, its
`INFO` was truthful, and no other pod was asked or changed. -/
structure Pass (g : Graph) (t : Trace) (res : EnsureResult) (done : List Pod) :
    Prop where
  master : res.master = m
  pod : ∀ p ∈ done, ∃ role info, PodPass cr pods opts m p.name (g p.name)
    (infoReplies p.name t) (redisWorld.after g t p.name) role info ∧
    res.roles.lookup p.name = some role ∧ res.infos.lookup p.name = some info
  truth : redisWorld.Admits g t → ∀ p ∈ done, ∀ info rest,
    infoReplies p.name t = .ok info :: rest → (g p.name).Shows info
  frame : ∀ q ∉ done.map (·.name), redisWorld.after g t q = g q ∧ infoReplies q t = [] ∧
    res.roles.lookup q = none ∧ res.infos.lookup q = none

variable {cr pods opts m}

theorem Pass.step {g : Graph} {t0 t1 : Trace} {done : List Pod}
    (hI : Pass cr pods opts m g t0 res done) (hp : p.name ∉ done.map (·.name))
    (h : (ensurePod cr pods opts m res p).Runs t1 (res', none)) :
    Pass cr pods opts m g (t0 ++ t1) res' (done ++ [p]) := by
  have hon := (ensurePod_onPod cr pods opts m res p).mem h
  obtain ⟨hgp, hip, -, -⟩ := hI.frame p.name hp
  obtain ⟨role, info, hpass, hadds⟩ := ensurePod_cases h (redisWorld.after g t0)
  -- pods other than `p` keep their state, their replies and their records
  have hstate : ∀ q, q ≠ p.name → redisWorld.after g (t0 ++ t1) q = redisWorld.after g t0 q := by
    intro q hq
    rw [World.after_append, after_onPod _ hon hq]
  have hreplies : ∀ q, q ≠ p.name → infoReplies q (t0 ++ t1) = infoReplies q t0 := by
    intro q hq
    rw [infoReplies_append, infoReplies_onPod hon hq, append_nil]
  have hlookup : ∀ q, q ≠ p.name → res'.roles.lookup q = res.roles.lookup q ∧
      res'.infos.lookup q = res.infos.lookup q := by
    intro q hq
    rw [hadds.roles, hadds.infos, Finmap.lookup_insert_of_ne _ hq, Finmap.lookup_insert_of_ne _ hq]
    exact ⟨rfl, rfl⟩
  have hne : ∀ q ∈ done, q.name ≠ p.name := by
    intro q hq heq
    exact hp (heq ▸ mem_map_of_mem hq)
  refine ⟨hadds.master.trans hI.master, fun q hq => ?_, fun hadm q hq i rest hi => ?_,
    fun q hq => ?_⟩
  · rcases mem_append.1 hq with hq | hq
    · obtain ⟨role, info, hpass, hr, hi⟩ := hI.pod q hq
      rw [hstate _ (hne q hq), hreplies _ (hne q hq), (hlookup _ (hne q hq)).1,
        (hlookup _ (hne q hq)).2]
      exact ⟨role, info, hpass, hr, hi⟩
    · obtain rfl := mem_singleton.1 hq
      rw [infoReplies_append, hip, nil_append, World.after_append, hadds.roles, hadds.infos,
        Finmap.lookup_insert, Finmap.lookup_insert]
      rw [hgp] at hpass
      exact ⟨role, info, hpass, rfl, rfl⟩
  · obtain ⟨hadm0, hadm1⟩ := redisWorld.admits_append.1 hadm
    rcases mem_append.1 hq with hq | hq
    · rw [hreplies _ (hne q hq)] at hi
      exact hI.truth hadm0 q hq i rest hi
    · obtain rfl := mem_singleton.1 hq
      rw [infoReplies_append, hip, nil_append] at hi
      rw [← hgp]
      exact ensurePod_truth h hadm1 hi
  · rw [map_append, mem_append, not_or] at hq
    have hqp : q ≠ p.name := fun heq => hq.2 (heq ▸ mem_singleton.2 rfl)
    rw [hstate q hqp, hreplies q hqp, (hlookup q hqp).1, (hlookup q hqp).2]
    exact hI.frame q hq.1

theorem sortedPodsByName_perm (pods : List Pod) : (sortedPodsByName pods).Perm pods :=
  perm_insertionSort _ _

/-- **The pass**: without error, `ensureWithMaster` has an outcome of `PodPass` on every pod. -/
theorem ensureWithMaster_pass {masterName : String} {res : EnsureResult}
    (h : (ensureWithMaster cr pods masterName opts).Runs t (res, none))
    (hnd : (pods.map (·.name)).Nodup) (g : Graph) :
    Pass cr pods opts (designated pods masterName) g t res pods := by
  unfold ensureWithMaster at h
  by_cases hpods : pods = []
  · rw [if_pos hpods] at h
    cases (runs_ret.1 h).2
  rw [if_neg hpods] at h
  have hperm := sortedPodsByName_perm pods
  have hnd' : ((sortedPodsByName pods).map (·.name)).Nodup := (hperm.map _).nodup_iff.2 hnd
  have hpass := h.forErr_inv
    (I := fun done t res => Pass cr pods opts (designated pods masterName) g t res done)
    ⟨rfl, nofun, nofun, fun q _ => ⟨rfl, rfl, rfl, rfl⟩⟩
    (fun done p t0 s t1 s1 hpre _ hI hr => hI.step (fun hmem => ?_) hr)
  · exact ⟨hpass.master, fun p hp => hpass.pod p (hperm.mem_iff.2 hp),
      fun hadm p hp => hpass.truth hadm p (hperm.mem_iff.2 hp),
      fun q hq => hpass.frame q fun hmem => hq ((hperm.map _).mem_iff.1 hmem)⟩
  · obtain ⟨rest, hrest⟩ := hpre
    rw [← hrest, map_append, map_append] at hnd'
    have := (nodup_append.1 (nodup_append.1 hnd').1).2.2
    exact this p.name hmem p.name (by simp) rfl

end

end Keyval.Replication
