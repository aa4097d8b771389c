import Mathlib
import KeyvalOperator.Api.PVCStore
import KeyvalOperator.Proof.Runtime

/-!
# The stored freshness of a pod

The Runtime phase records an `INFO` reply for each pod, and the freshness of the claims is stored
from these records. A pod that is not heard gets a record all the same: `role: master` for the
designated master, an empty one for a pod that is silent after `REPLICAOF`; its stored offset is
then overwritten with 0.

* `hears`: whether a pod answered `INFO` since it was last connected to or pointed to a master.
* `ensureWithMaster_records`: the record of a pod is a reply exactly when the pod is heard.
* `freshnessKept_iff`: **the stored offset is safe exactly for the pods that are heard**.
-/

namespace Keyval

open Go Interact Interact.Prog List

variable {o : State × Option Error} {p : Pod} {reply : Result ReplicationInfo}
  {pvc : PersistentVolumeClaim}

/-! ## Hearing a pod -/

/-- The pod answered `INFO` since the operator connected to it or pointed it to a master. -/
def hears (pod : String) : World Op Bool where
  step heard
    | ⟨.redisForPod p, _⟩ => if p = pod then false else heard
    | ⟨.replicaOf p _ _, .ok _⟩ => if p = pod then false else heard
    | ⟨.replicationInfo p, .ok _⟩ => if p = pod then true else heard
    | _ => heard
  ok _ _ := True

/-- The request does not go to the pod's Redis. -/
def Deaf (pod : String) : Req → Prop
  | .redisForPod p => p ≠ pod
  | .replicaOf p _ _ => p ≠ pod
  | .replicationInfo p => p ≠ pod
  | _ => True

/-- The request goes to no Redis. -/
def Listens : Req → Prop
  | .redisForPod _ => False
  | .replicaOf .. => False
  | _ => True

section
variable {pod : String} {t : Trace}

theorem hears_step_deaf (heard : Bool) {e : Event Op} (h : Deaf pod e.req) :
    (hears pod).step heard e = heard := by
  obtain ⟨q, r⟩ := e
  cases q with
  | redisForPod p => exact if_neg h
  | replicaOf p host port =>
    cases r with
    | error e => rfl
    | ok u => exact if_neg h
  | replicationInfo p =>
    cases r with
    | error e => rfl
    | ok i => exact if_neg h
  | _ => rfl

theorem hears_deaf (heard : Bool) (h : ∀ e ∈ t, Deaf pod e.req) :
    (hears pod).after heard t = heard :=
  (hears pod).after_inv (I := fun b => b = heard) rfl fun e he b hb => by
    rw [hears_step_deaf b (h e he), hb]

theorem hears_step_ok (heard : Bool) (i : ReplicationInfo) :
    (hears pod).step heard ⟨.replicationInfo pod, .ok i⟩ = true := if_pos rfl

theorem infoReply_deaf {e : Event Op} (h : Deaf pod e.req) : infoReply pod e = none := by
  obtain ⟨q, r⟩ := e
  cases q with
  | replicationInfo p => exact if_neg h
  | _ => rfl

theorem hears_listens (heard : Bool) (h : ∀ e ∈ t, Listens e.req) :
    (hears pod).after heard t = true ↔ heard = true ∨ ∃ i, .ok i ∈ infoReplies pod t := by
  induction t generalizing heard with
  | nil => simp
  | cons e t ih =>
    obtain ⟨he, ht⟩ := forall_mem_cons.1 h
    rw [World.after_cons, ih _ ht]
    by_cases hd : Deaf pod e.req
    · rw [hears_step_deaf heard hd, infoReplies, infoReplies,
        filterMap_cons_none (infoReply_deaf hd)]
    · obtain ⟨q, r⟩ := e
      cases q with
      | replicationInfo p =>
        obtain rfl : p = pod := not_not.1 hd
        rw [infoReplies_cons_info]
        cases r with
        | error e =>
          show heard = true ∨ _ ↔ _
          simp
        | ok i =>
          rw [hears_step_ok]
          exact ⟨fun _ => .inr ⟨i, .head _⟩, fun _ => .inl rfl⟩
      | redisForPod p => exact he.elim
      | replicaOf p host port => exact he.elim
      | _ => exact absurd trivial hd

end

namespace Replication

open Bootstrap (freshnessOffset)

variable {pod : String}

/-! ## Records -/

/-- The offset of the record `info` of a pod after the events `t`: that of a reply of a pod that is
heard, and 0 for one that is not. -/
inductive Record (pod : String) (t : Trace) : Bool → ReplicationInfo → Prop
  | received {i info : ReplicationInfo} (role : String) : .ok i ∈ infoReplies pod t →
      freshnessOffset info = freshnessOffset { i with role } → Record pod t true info
  | synthetic {info : ReplicationInfo} : freshnessOffset info = 0 → Record pod t false info

theorem Record.append {t : Trace} {heard : Bool}
    {info : ReplicationInfo} (h : Record pod t heard info) (t1 t2 : Trace) :
    Record pod (t1 ++ t ++ t2) heard info := by
  cases h with
  | received role hi heq =>
    refine .received role ?_ heq
    rw [infoReplies_append, infoReplies_append]
    exact mem_append_left _ (mem_append_right _ hi)
  | synthetic h0 => exact .synthetic h0

theorem Record.replica {t : Trace} {i : ReplicationInfo}
    (h : .ok i ∈ infoReplies pod t) : Record pod t true (replicaInfo i) := by
  unfold replicaInfo
  split
  · exact .received "replica" h rfl
  · exact .received i.role h rfl

section
variable {cr : KeyValCluster} {pods : List Pod} {opts : EnsureOptions} {m : String}
  {t : Trace} {res res' : EnsureResult}

theorem alignReplica_record (heard : Bool)
    (h : (alignReplica cr pods opts m res pod).Runs t (res', none)) :
    ∃ info, res'.infos = res.infos.insert pod info ∧
      Record pod t ((hears pod).after heard t) info := by
  obtain ⟨t1, r, t2, rfl, h1, h2⟩ := runs_bind.1 h
  cases r with
  | error e => cases (runs_ret.1 h2).2
  | ok u =>
    obtain ⟨t3, ⟨info, werr⟩, t4, rfl, h3, h4⟩ := runs_bind.1 h2
    obtain ⟨rfl, hres⟩ := runs_ret.1 h4
    obtain ⟨rfl, -⟩ := Prod.mk.inj hres
    refine ⟨replicaInfo info, rfl, ?_⟩
    have hreset : (hears pod).after heard t1 = false := by
      obtain ⟨t5, t6, rfl, -, h6⟩ := retryFrom_ok (Q := fun _ => True) (fun _ => trivial)
        (fun _ _ _ _ _ => trivial) h1
      rw [runs_ask h6, World.after_append]
      exact if_pos rfl
    have hlisten : ∀ e ∈ t3, Listens e.req := by
      refine Asks.mem ?_ h3
      exact .call trivial fun n _ => waitPolls_asks trivial trivial n {} none
    have hinfo : Received pod {} t3 info := by
      obtain ⟨n, t5, rfl, h5⟩ := runs_call.1 h3
      show Received pod {} t5 info
      exact waitPolls_info h5
    rw [World.after_append, hreset, ← append_assoc, append_nil t3]
    refine Record.append ?_ t1 []
    rcases hinfo with hin | ⟨rfl, hno⟩
    · rw [(hears_listens false hlisten).2 (.inr ⟨info, hin⟩)]
      exact .replica hin
    · have hdeaf : (hears pod).after false t3 = false := by
        rw [Bool.eq_false_iff, Ne, hears_listens false hlisten]
        rintro (h | ⟨i, hi⟩)
        · cases h
        · exact hno i hi
      rw [hdeaf]
      exact .synthetic rfl

theorem ensureMaster_record (h : (ensureMaster res pod reply).Runs t (res', none)) :
    ∃ info, res'.infos = res.infos.insert pod info ∧
      Record pod (⟨.replicationInfo pod, reply⟩ :: t)
        ((hears pod).after false (⟨.replicationInfo pod, reply⟩ :: t)) info := by
  unfold ensureMaster at h
  cases reply with
  | error e =>
    rw [if_pos rfl] at h
    obtain ⟨rfl, hres⟩ := runs_ret.1 h
    obtain ⟨rfl, -⟩ := Prod.mk.inj hres
    exact ⟨{ role := "master" }, rfl, .synthetic rfl⟩
  | ok info =>
    have hmem : .ok info ∈ infoReplies pod (⟨.replicationInfo pod, .ok info⟩ :: t) := by
      rw [infoReplies_cons_info]
      exact .head _
    rw [World.after_cons, hears_step_ok]
    dsimp only at h
    split at h
    · obtain ⟨rfl, hres⟩ := runs_ret.1 h
      obtain ⟨rfl, -⟩ := Prod.mk.inj hres
      exact ⟨info, rfl, .received info.role hmem rfl⟩
    · obtain ⟨t1, r, t2, rfl, h1, h2⟩ := runs_bind.1 h
      cases r with
      | error e => cases (runs_ret.1 h2).2
      | ok u =>
        obtain ⟨rfl, hres⟩ := runs_ret.1 h2
        obtain ⟨rfl, -⟩ := Prod.mk.inj hres
        have hdeaf : ∀ e ∈ t1, Deaf pod e.req := (retry_asks trivial (ask_asks trivial) 3).mem h1
        rw [append_nil] at hmem ⊢
        rw [hears_deaf true hdeaf]
        exact ⟨_, rfl, .received "master" hmem rfl⟩

theorem ensureReplica_record (h : (ensureReplica cr pods opts m res pod reply).Runs t (res', none))
    :
    ∃ info, res'.infos = res.infos.insert pod info ∧
      Record pod (⟨.replicationInfo pod, reply⟩ :: t)
        ((hears pod).after false (⟨.replicationInfo pod, reply⟩ :: t)) info := by
  have halign : (alignReplica cr pods opts m res pod).Runs t (res', none) →
      ∃ info, res'.infos = res.infos.insert pod info ∧
        Record pod (⟨.replicationInfo pod, reply⟩ :: t)
          ((hears pod).after false (⟨.replicationInfo pod, reply⟩ :: t)) info := by
    intro h
    obtain ⟨info, hinfos, hrec⟩ := alignReplica_record
      ((hears pod).step false ⟨.replicationInfo pod, reply⟩) h
    refine ⟨info, hinfos, ?_⟩
    simpa using hrec.append [⟨.replicationInfo pod, reply⟩] []
  unfold ensureReplica at h
  cases reply with
  | error e => exact halign h
  | ok info =>
    dsimp only at h
    split at h
    · obtain ⟨rfl, hres⟩ := runs_ret.1 h
      obtain ⟨rfl, -⟩ := Prod.mk.inj hres
      rw [World.after_cons, hears_step_ok]
      refine ⟨replicaInfo info, rfl, .replica ?_⟩
      rw [infoReplies_cons_info]
      exact .head _
    · exact halign h

/-- **One pod**: its record is a reply exactly when it is heard. -/
theorem ensurePod_record (heard : Bool) (h : (ensurePod cr pods opts m res p).Runs t (res', none)) :
    ∃ info, res'.infos = res.infos.insert p.name info ∧
      Record p.name t ((hears p.name).after heard t) info := by
  unfold ensurePod at h
  simp only [bind_eq, pure_eq, ask_eq, call_bind, ret_bind] at h
  obtain ⟨r, t1, rfl, h1⟩ := runs_call.1 h
  cases r with
  | error e => cases (runs_ret.1 h1).2
  | ok u =>
    obtain ⟨t2, r, t3, rfl, h2, h3⟩ := runs_bind.1 h1
    cases r with
    | error e => cases (runs_ret.1 h3).2
    | ok u' =>
      obtain ⟨reply, t4, rfl, h4⟩ := runs_call.1 h3
      -- the connection makes the pod unheard, the authentication changes nothing
      have hdeaf : ∀ e ∈ t2, Deaf p.name e.req :=
        (maybeAuth_asks p.name opts trivial fun _ => trivial).mem h2
      have hconn : (hears p.name).step heard ⟨.redisForPod p.name, .ok u⟩ = false := if_pos rfl
      rw [World.after_cons, hconn, World.after_append, hears_deaf false hdeaf]
      have hrecord : ∃ info, res'.infos = res.infos.insert p.name info ∧
          Record p.name (⟨.replicationInfo p.name, reply⟩ :: t4)
            ((hears p.name).after false (⟨.replicationInfo p.name, reply⟩ :: t4)) info := by
        by_cases hm : p.name = m
        · rw [if_pos hm] at h4
          exact ensureMaster_record h4
        · rw [if_neg hm] at h4
          exact ensureReplica_record h4
      obtain ⟨info, hinfos, hrec⟩ := hrecord
      refine ⟨info, hinfos, ?_⟩
      simpa using hrec.append (⟨.redisForPod p.name, .ok u⟩ :: t2) []

/-- **The pass**: the record of a pod is a reply exactly when the pod is heard. -/
theorem ensureWithMaster_records (heard : String → Bool) (hnd : (pods.map (·.name)).Nodup)
    (h : (ensureWithMaster cr pods m opts).Runs t (res, none)) :
    ∀ p ∈ pods, ∃ info, res.infos.lookup p.name = some info ∧
      Record p.name t ((hears p.name).after (heard p.name) t) info := by
  unfold ensureWithMaster at h
  by_cases hpods : pods = []
  · rw [if_pos hpods] at h
    cases (runs_ret.1 h).2
  rw [if_neg hpods] at h
  have hperm := sortedPodsByName_perm pods
  have hnd' : ((sortedPodsByName pods).map (·.name)).Nodup := (hperm.map _).nodup_iff.2 hnd
  have hall := h.forErr_inv
    (I := fun done t res => ∀ p ∈ done, ∃ info, res.infos.lookup p.name = some info ∧
      Record p.name t ((hears p.name).after (heard p.name) t) info) nofun ?_
  · exact fun p hp => hall p (hperm.mem_iff.2 hp)
  intro done p t0 res t1 res1 hdone _ hI hr q hq
  obtain ⟨info, hinfos, hrec⟩ := ensurePod_record ((hears p.name).after (heard p.name) t0) hr
  rw [hinfos, World.after_append]
  rcases mem_append.1 hq with hq | hq
  · have hne : q.name ≠ p.name := by
      obtain ⟨rest, hrest⟩ := hdone
      rw [← hrest, map_append, map_append] at hnd'
      exact (nodup_append.1 (nodup_append.1 hnd').1).2.2 q.name (mem_map_of_mem hq) p.name (by simp)
    have hdeaf : ∀ e ∈ t1, Deaf q.name e.req :=
      (ensurePod_asks cr pods opts _ res p trivial trivial hne.symm (fun _ => trivial) hne.symm
        (fun _ => trivial) (fun _ => hne.symm)).mem hr
    obtain ⟨info', hinfo', hrec'⟩ := hI q hq
    rw [Finmap.lookup_insert_of_ne _ hne, hears_deaf _ hdeaf]
    exact ⟨info', hinfo', hrec'.append [] t1⟩
  · obtain rfl := mem_singleton.1 hq
    rw [Finmap.lookup_insert]
    refine ⟨info, rfl, ?_⟩
    simpa using hrec.append t0 []

end

end Replication

namespace Bootstrap

variable {info : ReplicationInfo}

/-! ## Storing -/

/-- The offset stored with the pod's claim. -/
def storedOffset (s : PVCStore) (p : Pod) : Option String :=
  (s.get p.ns (dataPVCName p.name)).bind (·.annotations.lookup annotationPVCReplicationOffset)

theorem dataPVCName_inj {a b : String} (h : dataPVCName a = dataPVCName b) : a = b := by
  have hl := congrArg String.toList h
  simp only [dataPVCName, String.toList_append] at hl
  exact String.toList_inj.1 (append_cancel_left hl)

section
variable {F : Formats} {infos : Map ReplicationInfo} {now : Time} {s : PVCStore} {t : Trace}

theorem recordFreshness_offset (F : Formats) (info : ReplicationInfo) (now : Time)
    (pvc : PersistentVolumeClaim) :
    (recordFreshness F info now pvc).annotations.lookup annotationPVCReplicationOffset =
      some (toString (freshnessOffset info)) := by
  unfold recordFreshness
  rw [Finmap.lookup_insert_of_ne _ (by decide), Finmap.lookup_insert_of_ne _ (by decide),
    Finmap.lookup_insert]

theorem updateFreshness_stored {q : Pod} {u : Unit} (p : Pod)
    (h : (updateFreshness F infos now q).Runs t u) (hadm : pvcWorld.Admits s t) :
    storedOffset (pvcWorld.after s t) p = storedOffset s p ∨
      ∃ info, infos.lookup p.name = some info ∧
        storedOffset (pvcWorld.after s t) p = some (toString (freshnessOffset info)) := by
  unfold updateFreshness at h
  cases hl : infos.lookup q.name with
  | none =>
    rw [hl] at h
    obtain ⟨rfl, -⟩ := runs_ret.1 h
    exact .inl rfl
  | some info =>
    rw [hl] at h
    obtain ⟨r, t1, rfl, h1⟩ := runs_asked.1 h
    cases r with
    | error e =>
      obtain ⟨rfl, -⟩ := runs_ret.1 h1
      exact .inl rfl
    | ok pvc =>
      dsimp only at h1
      split at h1
      · obtain ⟨rfl, -⟩ := runs_ret.1 h1
        exact .inl rfl
      · obtain ⟨r, t2, rfl, h2⟩ := runs_call.1 h1
        obtain ⟨rfl, -⟩ := runs_ret.1 h2
        obtain ⟨hget, hpatch, -⟩ := hadm
        cases r with
        | error e => exact .inl rfl
        | ok stored =>
          obtain ⟨hns, hname, hann⟩ : stored.ns = pvc.ns ∧ stored.name = pvc.name ∧
              (s.get pvc.ns pvc.name = some pvc →
                stored.annotations = (recordFreshness F info now pvc).annotations) := hpatch
          have hget' : s.get q.ns (dataPVCName q.name) = some pvc := hget
          obtain ⟨hpns, hpname⟩ := s.wf hget'
          by_cases hk : p.ns = stored.ns ∧ dataPVCName p.name = stored.name
          · right
            have hpq : p.name = q.name :=
              dataPVCName_inj (hk.2.trans (hname.trans hpname))
            refine ⟨info, hpq ▸ hl, ?_⟩
            show storedOffset (s.put stored) p = _
            unfold storedOffset
            rw [hk.1, hk.2, PVCStore.put_get_self, Option.bind_some,
              hann (by rw [hpns, hpname]; exact hget')]
            exact recordFreshness_offset F info now pvc
          · left
            show storedOffset (s.put stored) p = _
            unfold storedOffset
            rw [PVCStore.put_get_ne s hk]

theorem mapAll_stored (p : Pod) : ∀ {pods : List Pod} {s : PVCStore} {t : Trace}
    {us : List Unit}, (Prog.mapAll (updateFreshness F infos now) pods).Runs t us →
    pvcWorld.Admits s t →
    storedOffset (pvcWorld.after s t) p = storedOffset s p ∨
      ∃ info, infos.lookup p.name = some info ∧
        storedOffset (pvcWorld.after s t) p = some (toString (freshnessOffset info))
  | [], s, t, us, h, _ => by
    obtain ⟨rfl, -⟩ := runs_ret.1 h
    exact .inl rfl
  | q :: pods, s, t, us, h, hadm => by
    obtain ⟨t1, u, t2, rfl, h1, h2⟩ := runs_bind.1 h
    obtain ⟨t3, us', t4, rfl, h3, h4⟩ := runs_bind.1 h2
    obtain ⟨rfl, -⟩ := runs_ret.1 h4
    rw [append_nil] at hadm ⊢
    obtain ⟨hadm1, hadm3⟩ := pvcWorld.admits_append.1 hadm
    rw [World.after_append]
    rcases mapAll_stored p h3 hadm3 with heq | hnew
    · rw [heq]
      exact updateFreshness_stored p h1 hadm1
    · exact .inr hnew

/-- **Storing**: the stored offset of a pod is kept, or it is the one of its record. -/
theorem updatePVCFreshness_stored {cr : KeyValCluster} {pods : List Pod} {u : Unit} (p : Pod)
    (h : (updatePVCFreshness F cr pods infos).Runs t u) (hadm : pvcWorld.Admits s t) :
    storedOffset (pvcWorld.after s t) p = storedOffset s p ∨
      hasPersistentData cr = true ∧ ∃ info, infos.lookup p.name = some info ∧
        storedOffset (pvcWorld.after s t) p = some (toString (freshnessOffset info)) := by
  unfold updatePVCFreshness at h
  split at h
  · obtain ⟨rfl, -⟩ := runs_ret.1 h
    exact .inl rfl
  · rename_i hcond
    obtain ⟨now, t1, rfl, h1⟩ := runs_asked.1 h
    obtain ⟨t2, us, t3, rfl, h2, h3⟩ := runs_bind.1 h1
    obtain ⟨rfl, -⟩ := runs_ret.1 h3
    rw [append_nil] at hadm ⊢
    rcases mapAll_stored p h2 hadm.2 with heq | hnew
    · exact .inl heq
    · exact .inr ⟨not_not.1 (not_or.1 hcond).1, hnew⟩

theorem admits_unavailable (s : PVCStore) {t : Trace}
    (h : ∀ e ∈ t, e.rep = e.req.unavailable) : pvcWorld.Admits s t ∧ pvcWorld.after s t = s := by
  induction t with
  | nil => exact ⟨trivial, rfl⟩
  | cons e t ih =>
    obtain ⟨q, r⟩ := e
    obtain ⟨hr, ht⟩ := forall_mem_cons.1 h
    obtain rfl : r = q.unavailable := hr
    have hstep : pvcWorld.ok s ⟨q, q.unavailable⟩ ∧ pvcWorld.step s ⟨q, q.unavailable⟩ = s := by
      cases q <;> exact ⟨trivial, rfl⟩
    rw [World.admits_cons, World.after_cons, hstep.2]
    exact ⟨⟨hstep.1, (ih ht).1⟩, (ih ht).2⟩

theorem exists_skip {α : Type} (prog : M α) (s : PVCStore) :
    ∃ t a, prog.Runs t a ∧ pvcWorld.Admits s t ∧ pvcWorld.after s t = s := by
  obtain ⟨t, a, hrun, hrep⟩ := exists_run Req.unavailable prog
  exact ⟨t, a, hrun, admits_unavailable s hrep⟩

variable (F now)

theorem exists_overwrite {q : Pod} (hinfo : infos.lookup q.name = some info)
    (hget : s.get q.ns (dataPVCName q.name) = some pvc)
    (hne : Map.str pvc.annotations annotationPVCReplicationOffset ≠
      toString (freshnessOffset info)) :
    ∃ t, (updateFreshness F infos now q).Runs t () ∧ pvcWorld.Admits s t ∧
      storedOffset (pvcWorld.after s t) q = some (toString (freshnessOffset info)) := by
  let desired := recordFreshness F info now pvc
  have hdiff : pvcEqualAnnotations pvc desired ≠ true := by
    intro heq
    have hstr := all_eq_true.1 heq annotationPVCReplicationOffset (.head _)
    rw [decide_eq_true_eq] at hstr
    apply hne
    rw [hstr]
    unfold Map.str
    rw [recordFreshness_offset]
    rfl
  refine ⟨[⟨.getPVC q.ns (dataPVCName q.name), .ok pvc⟩, ⟨.patchPVC pvc desired, .ok desired⟩],
    ?_, ⟨hget, ⟨rfl, rfl, fun _ => rfl⟩, trivial⟩, ?_⟩
  · unfold updateFreshness
    rw [hinfo]
    refine .call _ ?_
    rw [ret_bind]
    dsimp only
    rw [if_neg hdiff]
    exact .call _ (.ret _)
  · obtain ⟨hns, hname⟩ := s.wf hget
    show storedOffset (s.put desired) q = _
    unfold storedOffset
    rw [← hns, ← hname]
    exact (congrArg (Option.bind · _) (PVCStore.put_get_self s desired)).trans
      (recordFreshness_offset F info now pvc)

theorem exists_stored (hinfo : infos.lookup p.name = some info)
    (hget : s.get p.ns (dataPVCName p.name) = some pvc)
    (hne : Map.str pvc.annotations annotationPVCReplicationOffset ≠
      toString (freshnessOffset info)) : ∀ {pods : List Pod}, p ∈ pods →
    ∃ t us, (Prog.mapAll (updateFreshness F infos now) pods).Runs t us ∧ pvcWorld.Admits s t ∧
      storedOffset (pvcWorld.after s t) p = some (toString (freshnessOffset info))
  | q :: pods, hp => by
    rcases mem_cons.1 hp with rfl | hp
    · obtain ⟨t1, h1, hadm1, hoff⟩ := exists_overwrite F now hinfo hget hne
      obtain ⟨t2, us, h2, hadm2, hafter⟩ := exists_skip
        (Prog.mapAll (updateFreshness F infos now) pods) (pvcWorld.after s t1)
      refine ⟨t1 ++ (t2 ++ []), () :: us, h1.bind (h2.bind (.ret _)), ?_, ?_⟩
      · rw [append_nil]
        exact pvcWorld.admits_append.2 ⟨hadm1, hadm2⟩
      · rw [append_nil, World.after_append, hafter, hoff]
    · obtain ⟨t1, u, h1, hadm1, hafter⟩ := exists_skip (updateFreshness F infos now q) s
      obtain ⟨t2, us, h2, hadm2, hoff⟩ := exists_stored hinfo hget hne hp
      refine ⟨t1 ++ (t2 ++ []), u :: us, h1.bind (h2.bind (.ret _)), ?_, ?_⟩
      · rw [append_nil]
        exact pvcWorld.admits_append.2 ⟨hadm1, hafter.symm ▸ hadm2⟩
      · rw [append_nil, World.after_append, hafter, hoff]

theorem exists_updatePVCFreshness {cr : KeyValCluster} (hcr : hasPersistentData cr = true)
    {pods : List Pod} (hp : p ∈ pods) (hinfo : infos.lookup p.name = some info) (offset : String)
    (hne : offset ≠ toString (freshnessOffset info)) :
    ∃ s t, (updatePVCFreshness F cr pods infos).Runs t () ∧ pvcWorld.Admits s t ∧
      storedOffset s p = some offset ∧
      storedOffset (pvcWorld.after s t) p = some (toString (freshnessOffset info)) := by
  let pvc : PersistentVolumeClaim :=
    { name := dataPVCName p.name, ns := p.ns
      annotations := (∅ : Map String).insert annotationPVCReplicationOffset offset }
  have hget : (PVCStore.empty.put pvc).get p.ns (dataPVCName p.name) = some pvc :=
    PVCStore.put_get_self _ pvc
  have hlook : pvc.annotations.lookup annotationPVCReplicationOffset = some offset :=
    Finmap.lookup_insert _
  have hstr : Map.str pvc.annotations annotationPVCReplicationOffset = offset := by
    unfold Map.str
    rw [hlook]
    rfl
  obtain ⟨t, us, hrun, hadm, hoff⟩ := exists_stored F 0 hinfo hget (hstr.symm ▸ hne) hp
  refine ⟨PVCStore.empty.put pvc, ⟨.now, (0 : Int)⟩ :: (t ++ []), ?_, ⟨trivial, ?_⟩, ?_, ?_⟩
  · unfold updatePVCFreshness
    rw [if_neg (not_or.2 ⟨not_not.2 hcr, ne_nil_of_mem hp⟩)]
    refine .call _ ?_
    exact hrun.bind (.ret _)
  · rw [append_nil]
    exact hadm
  · unfold storedOffset
    rw [hget, Option.bind_some, hlook]
  · rw [append_nil]
    exact hoff

end

end Bootstrap

namespace Phases

open Replication (LastPass Record)
open Bootstrap (storedOffset freshnessOffset updatePVCFreshness)

section
variable {F : Formats} {st : State} {t : Trace}

theorem ensureOrBootstrap_lastPass {req : Replication.EnsureRequest} {n : Nat}
    {res : Replication.EnsureResult} {cand : Bootstrap.Candidate}
    (h : (ensureOrBootstrap F req n).Runs t (res, none, cand)) :
    ∃ t1 t2 t3 res', LastPass req res.master t t1 t2 t3 res' ∧ res.Agrees res' := by
  obtain ⟨t1, ⟨res1, err⟩, t2, rfl, h1, h2⟩ := runs_bind.1 h
  dsimp only at h2
  split at h2
  · rename_i herr
    obtain ⟨t3, cand', t4, rfl, -, h4⟩ := runs_bind.1 h2
    split at h4
    · obtain ⟨t5, ⟨res2, err2⟩, t6, rfl, h5, h6⟩ := runs_bind.1 h4
      obtain ⟨rfl, heq⟩ := runs_ret.1 h6
      obtain ⟨rfl, heq'⟩ := Prod.mk.inj heq
      obtain ⟨rfl, -⟩ := Prod.mk.inj heq'
      obtain ⟨u1, u2, u3, res', hlast, hagree⟩ := Replication.ensureTopology_lastPass h5
      refine ⟨t1 ++ t3 ++ u1, u2, u3, res', ⟨?_, hlast.pass, hlast.rest⟩, hagree⟩
      rw [hlast.split]
      simp
    · obtain ⟨-, heq⟩ := runs_ret.1 h4
      obtain ⟨rfl, heq'⟩ := Prod.mk.inj heq
      obtain ⟨rfl, -⟩ := Prod.mk.inj heq'
      simp at herr
  · obtain ⟨rfl, heq⟩ := runs_ret.1 h2
    obtain ⟨rfl, heq'⟩ := Prod.mk.inj heq
    obtain ⟨rfl, -⟩ := Prod.mk.inj heq'
    rw [append_nil]
    exact Replication.ensureTopology_lastPass h1

theorem ReportReq.deaf {q : Req} (h : ReportReq q) (pod : String) : Deaf pod q := by
  cases q <;> trivial

/-- **Records of the phase**: with a topology, every pod has a record, and it is a reply exactly
when the pod is heard. -/
theorem runtime_records (hfac : st.clientFactory = true) (hnd : (st.redisPods.map (·.name)).Nodup)
    (h : (runtime F st).Runs t o) (herr : o.1.runtime.replicationError = none)
    (hp : p ∈ st.redisPods) :
    ∃ info, o.1.runtime.infos.lookup p.name = some info ∧
      Record p.name t ((hears p.name).after false t) info := by
  obtain ⟨res, err, cand, t1, t2, rfl, htop, -, -, -, hinfos, heq, -, hreport⟩ :=
    runtime_run hfac h
  obtain rfl : err = none := heq.symm.trans herr
  obtain ⟨u1, u2, u3, res', hlast, hagree⟩ := ensureOrBootstrap_lastPass htop
  obtain ⟨info, hinfo, hrec⟩ := Replication.ensureWithMaster_records
    (fun pod => (hears pod).after false u1) hnd hlast.pass p hp
  refine ⟨info, ?_, ?_⟩
  · rw [hinfos]
    show res.infos.lookup p.name = some info
    rw [hagree.infos, hinfo]
  · have hdeaf2 : ∀ e ∈ t2, Deaf p.name e.req := fun e he => (hreport e he).deaf p.name
    have hdeaf3 : ∀ e ∈ u3, Deaf p.name e.req := by
      intro e he
      obtain ⟨ns, name, master, detail, hreq⟩ := hlast.rest e he
      rw [hreq]
      trivial
    rw [World.after_append, hears_deaf _ hdeaf2, hlast.split, World.after_append,
      hears_deaf _ hdeaf3, World.after_append, append_assoc]
    exact hrec.append u1 (u3 ++ t2)

theorem runtime_no_records (hfac : st.clientFactory = true) (h : (runtime F st).Runs t o)
    (herr : o.1.runtime.replicationError ≠ none) :
    o.1.runtime.infos = ∅ := by
  obtain ⟨res, err, cand, t1, t2, -, -, -, -, -, hinfos, heq, -⟩ := runtime_run hfac h
  rw [heq] at herr
  obtain ⟨e, rfl⟩ := Option.ne_none_iff_exists'.1 herr
  rw [hinfos]
  rfl

/-! ## The stored offset -/

/-- The offset is computed from a reply that the pod gave in the run. -/
def FromReply (pod : String) (t : Trace) (offset : Int) : Prop :=
  ∃ i role, .ok i ∈ infoReplies pod t ∧ offset = freshnessOffset { i with role }

/-- After the run `t` of the Runtime phase, storing the freshness keeps the stored offset of a pod
that answered no `INFO`, and computes the one of any other pod from a reply, if it writes it. -/
def FreshnessKept (F : Formats) (o : State) (t : Trace) (p : Pod) : Prop :=
  ∀ s t', (updatePVCFreshness F o.cluster o.redisPods o.runtime.infos).Runs t' () →
    pvcWorld.Admits s t' →
    storedOffset (pvcWorld.after s t') p = storedOffset s p ∨
      ∃ offset, FromReply p.name t offset ∧
        storedOffset (pvcWorld.after s t') p = some (toString offset)

/-- A record with the offset 0 is stored over any offset, so it has to come from a reply. -/
theorem FreshnessKept.zero {o : State} {info : ReplicationInfo} (hkept : FreshnessKept F o t p)
    (hcr : hasPersistentData o.cluster = true) (hp : p ∈ o.redisPods)
    (hinfo : o.runtime.infos.lookup p.name = some info) (h0 : freshnessOffset info = 0) :
    FromReply p.name t 0 := by
  obtain ⟨s, t', hrun, hadm, hbefore, hafter⟩ := Bootstrap.exists_updatePVCFreshness F
    hcr hp hinfo "1" (by rw [h0]; decide)
  rw [h0] at hafter
  rcases hkept s t' hrun hadm with heq | ⟨offset, hreply, heq⟩
  · rw [hbefore, hafter] at heq
    exact absurd heq (by decide)
  · rw [hafter] at heq
    rwa [← Int.repr_injective (Option.some.inj heq)] at hreply

/-- **When the stored offset is safe**: the data is persistent and there is a topology only if the
pod is heard, or a reply of it carries the offset 0. -/
theorem freshnessKept_iff (hfac : st.clientFactory = true) (hnd : (st.redisPods.map (·.name)).Nodup)
    (h : (runtime F st).Runs t o) (hp : p ∈ o.1.redisPods) :
    FreshnessKept F o.1 t p ↔
      (hasPersistentData o.1.cluster = true → o.1.runtime.replicationError = none →
        (hears p.name).after false t = true ∨ FromReply p.name t 0) := by
  obtain ⟨q, hq, hname⟩ : ∃ q ∈ st.redisPods, p.name = q.name := by
    obtain ⟨_, _, _, _, _, -, -, -, -, -, -, -, ⟨hash, names, heq⟩, -⟩ := runtime_run hfac h
    obtain ⟨q, hq, hname, -⟩ := mem_annotateConfigHash hash names _ (heq ▸ hp)
    exact ⟨q, hq, hname⟩
  constructor
  · intro hkept hcr herr
    obtain ⟨info, hinfo, hrec⟩ := runtime_records hfac hnd h herr hq
    rw [← hname] at hinfo hrec
    generalize (hears p.name).after false t = heard at hrec ⊢
    cases hrec with
    | received role hi heq => exact .inl rfl
    | synthetic h0 => exact .inr (hkept.zero hcr hp hinfo h0)
  · intro hcond s t' hrun hadm
    rcases Bootstrap.updatePVCFreshness_stored p hrun hadm with heq | ⟨hcr, info', hinfo', hoff⟩
    · exact .inl heq
    · have herr : o.1.runtime.replicationError = none := by
        by_contra hne
        rw [runtime_no_records hfac h hne] at hinfo'
        exact absurd hinfo' (by simp)
      obtain ⟨info, hinfo, hrec⟩ := runtime_records hfac hnd h herr hq
      rw [← hname] at hinfo hrec
      obtain rfl : info = info' := Option.some.inj (hinfo.symm.trans hinfo')
      refine .inr ⟨freshnessOffset info, ?_, hoff⟩
      have hheard := hcond hcr herr
      generalize (hears p.name).after false t = heard at hrec hheard
      cases hrec with
      | received role hi heq => exact ⟨_, role, hi, heq⟩
      | synthetic h0 =>
        rw [h0]
        exact hheard.resolve_left Bool.false_ne_true

end

/-! ### A silent master -/

/-- The pod a-0. -/
def podA0 : Pod := { name := "a-0", ns := "prod", podIP := "10.0.0.1" }

/-- With every pod reachable the stored offset of `a-0` is safe. -/
theorem freshnessKept_a0 :
    ∃ t o, (runtime .decimal pairA).Runs t o ∧ podA0 ∈ o.1.redisPods ∧
      FreshnessKept .decimal o.1 t podA0 := by
  let r := redisWorld.play healthy Replication.graphA (runtime .decimal pairA)
  have hrun : (runtime .decimal pairA).Runs r.1 r.2 := World.runs_play _ _
  have hp : podA0 ∈ r.2.1.redisPods := by decide
  exact ⟨_, _, hrun, hp, (freshnessKept_iff rfl (by decide) hrun hp).2 fun _ _ => .inl (by decide)⟩

/-- The Redis of a-0 does not answer. -/
def silentA0 (s : PVCStore) : Replies
  | .getPVC ns name =>
    (s.get ns name).elim (.error { msg := "not found", reason := .notFound }) .ok
  | .patchPVC base desired => .ok { base with annotations := desired.annotations }
  | .sentinel => .ok { quorumOK := true, detail := "" }
  | q => Replication.deafA0 Replication.graphA q

theorem silentA0_ok (s : PVCStore) (q : Req) : pvcWorld.ok s ⟨q, silentA0 s q⟩ := by
  cases q with
  | getPVC ns name =>
    show pvcWorld.ok s ⟨.getPVC ns name, (s.get ns name).elim (.error _) .ok⟩
    cases h : s.get ns name with
    | none => trivial
    | some pvc => exact h
  | patchPVC base desired => exact ⟨rfl, rfl, fun _ => rfl⟩
  | _ => trivial

/-- The claim of a-0, with an offset. -/
def claimsA : PVCStore :=
  PVCStore.empty.put
    { name := "data-a-0", ns := "prod"
      annotations := (∅ : Map String).insert annotationPVCReplicationOffset "7" }

/-- Every `INFO` on the master `a-0` fails, and its stored offset 7 becomes 0. -/
theorem silent_master_stores_zero :
    (∃ t o, (Controller.reconcileTopology .decimal pairA).Runs t o ∧
      pvcWorld.Admits claimsA t ∧ (∀ i, .ok i ∉ infoReplies "a-0" t) ∧
      storedOffset claimsA podA0 = some "7" ∧
      storedOffset (pvcWorld.after claimsA t) podA0 = some "0") ∧
    ∃ t o, (runtime .decimal pairA).Runs t o ∧ (∀ i, .ok i ∉ infoReplies "a-0" t) ∧
      ¬ FreshnessKept .decimal o.1 t podA0 := by
  have hsilent : ∀ {t : Trace}, (infoReplies "a-0" t).all (!·.isOk) = true →
      ∀ i, .ok i ∉ infoReplies "a-0" t := by
    intro t h i hi
    exact absurd (all_eq_true.1 h _ hi) (by simp [Except.isOk, Except.toBool])
  constructor
  · let r := pvcWorld.play silentA0 claimsA (Controller.reconcileTopology .decimal pairA)
    exact ⟨r.1, r.2, World.runs_play _ _, World.admits_play silentA0_ok _ _,
      hsilent (by decide), by decide, by decide⟩
  · let r := pvcWorld.play silentA0 claimsA (runtime .decimal pairA)
    have hno : ∀ i, .ok i ∉ infoReplies "a-0" r.1 := hsilent (by decide)
    have hinfo : r.2.1.runtime.infos.lookup "a-0" = some { role := "master" } := by decide
    refine ⟨r.1, r.2, World.runs_play (W := pvcWorld) (r := silentA0) claimsA _, hno,
      fun hkept => ?_⟩
    obtain ⟨i, role, hi, -⟩ := hkept.zero (by decide) (by decide) hinfo rfl
    exact hno i hi

end Phases

end Keyval
