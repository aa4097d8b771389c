import Mathlib.Logic.Function.Basic
import KeyvalOperator.Api.Op

/-!
# The Redis pods

The replication graph of the Redis pods and how client commands change it (`redisWorld`): a
successful `REPLICAOF NO ONE` makes a pod a master, a successful `REPLICAOF` makes it a replica of
the given address, a failed command changes nothing; a successful `INFO` or `ROLE` is truthful.

* `Quiet`, `after_quiet`: requests that change no pod.
* `OnPod`, `after_onPod`: requests that change at most one pod.
* `infoReplies`: the replies to `INFO` on a pod in a run.
-/

namespace Keyval

open Interact

inductive RedisState
  | master
  | replica (host : String) (port : Int)
  deriving DecidableEq, Repr

/-- The state of each pod, by name. -/
abbrev Graph := String → RedisState

/-- The reply to `INFO` shows the state. -/
def RedisState.Shows : RedisState → ReplicationInfo → Prop
  | .master, info => info.role = "master"
  | .replica host port, info =>
    info.role = "replica" ∧ info.masterHost = host ∧ info.masterPort = port

/-- The reply to `ROLE`. -/
def RedisState.role : RedisState → String
  | .master => "master"
  | .replica _ _ => "replica"

def redisWorld : World Op Graph where
  step g
    | ⟨.noOne pod, .ok _⟩ => Function.update g pod .master
    | ⟨.replicaOf pod host port, .ok _⟩ => Function.update g pod (.replica host port)
    | _ => g
  ok g
    | ⟨.replicationInfo pod, .ok info⟩ => (g pod).Shows info
    | ⟨.role pod, .ok role⟩ => role = (g pod).role
    | _ => True

/-- The reply to `INFO` of a pod whose link is up. -/
def RedisState.info : RedisState → ReplicationInfo
  | .master => { role := "master" }
  | .replica host port =>
    { role := "replica", masterHost := host, masterPort := port, masterLinkStatus := "up" }

/-- An environment in which every pod is reachable, answers truthfully and obeys. -/
def healthy (g : Graph) : Replies
  | .redisForPod _ => .ok ()
  | .auth .. => .ok ()
  | .replicaOf .. => .ok ()
  | .noOne _ => .ok ()
  | .replicationInfo pod => .ok (g pod).info
  | .role pod => .ok (g pod).role
  | q => q.unavailable

theorem healthy_ok (g : Graph) (q : Req) : redisWorld.ok g ⟨q, healthy g q⟩ := by
  cases q with
  | replicationInfo pod =>
    show (g pod).Shows (g pod).info
    cases g pod with
    | master => rfl
    | replica host port => exact ⟨rfl, rfl, rfl⟩
  | role pod => rfl
  | _ => trivial

/-! ## What requests change -/

/-- The request is no replication command. -/
def Quiet : Req → Prop
  | .noOne _ => False
  | .replicaOf .. => False
  | _ => True

/-- The request is no replication command and no `INFO` on another pod than `pod`. -/
def OnPod (pod : String) : Req → Prop
  | .noOne p => p = pod
  | .replicaOf p _ _ => p = pod
  | .replicationInfo p => p = pod
  | _ => True

/-- The request is no `INFO`. -/
def NoInfo : Req → Prop
  | .replicationInfo _ => False
  | _ => True

theorem step_quiet (g : Graph) {e : Event Op} (h : Quiet e.req) : redisWorld.step g e = g := by
  obtain ⟨q, r⟩ := e
  cases q <;> first | rfl | exact h.elim

theorem step_onPod (g : Graph) {e : Event Op} {pod q : String} (h : OnPod pod e.req)
    (hq : q ≠ pod) : redisWorld.step g e q = g q := by
  obtain ⟨req, rep⟩ := e
  cases req with
  | noOne p =>
    obtain rfl : p = pod := h
    cases rep with
    | error e => rfl
    | ok u => exact Function.update_of_ne hq _ _
  | replicaOf p host port =>
    obtain rfl : p = pod := h
    cases rep with
    | error e => rfl
    | ok u => exact Function.update_of_ne hq _ _
  | _ => rfl

theorem after_quiet (g : Graph) {t : Trace} (h : ∀ e ∈ t, Quiet e.req) :
    redisWorld.after g t = g :=
  redisWorld.after_inv (I := fun g' => g' = g) rfl fun e he g' hg => by
    rw [step_quiet g' (h e he), hg]

theorem after_onPod (g : Graph) {t : Trace} {pod q : String}
    (h : ∀ e ∈ t, OnPod pod e.req) (hq : q ≠ pod) : redisWorld.after g t q = g q :=
  redisWorld.after_inv (I := fun g' => g' q = g q) rfl fun e he g' hg => by
    rw [step_onPod g' (h e he) hq, hg]

/-! ## Replies to INFO -/

/-- The reply to `INFO` on the pod, when the event is one. -/
def infoReply (pod : String) : Event Op → Option (Result ReplicationInfo)
  | ⟨.replicationInfo p, r⟩ => if p = pod then some r else none
  | _ => none

/-- The replies to `INFO` on the pod in a run. -/
def infoReplies (pod : String) (t : Trace) : List (Result ReplicationInfo) :=
  t.filterMap (infoReply pod)

section
variable {pod : String} {t : Trace}

@[simp] theorem infoReplies_nil (pod : String) : infoReplies pod [] = [] := rfl

@[simp] theorem infoReplies_append (pod : String) (t1 t2 : Trace) :
    infoReplies pod (t1 ++ t2) = infoReplies pod t1 ++ infoReplies pod t2 :=
  List.filterMap_append

theorem infoReplies_cons_info (pod : String) (r : Result ReplicationInfo) (t : Trace) :
    infoReplies pod (⟨.replicationInfo pod, r⟩ :: t) = r :: infoReplies pod t := by
  rw [infoReplies, List.filterMap_cons_some (b := r)]
  · rfl
  · exact if_pos rfl

theorem infoReply_noInfo {e : Event Op} (h : NoInfo e.req) (pod : String) :
    infoReply pod e = none := by
  obtain ⟨q, r⟩ := e
  cases q <;> first | rfl | exact h.elim

theorem infoReplies_noInfo (h : ∀ e ∈ t, NoInfo e.req) (pod : String) :
    infoReplies pod t = [] :=
  List.filterMap_eq_nil_iff.2 fun e he => infoReply_noInfo (h e he) pod

theorem infoReplies_onPod {q : String} (h : ∀ e ∈ t, OnPod pod e.req) (hq : q ≠ pod) :
    infoReplies q t = [] := by
  refine List.filterMap_eq_nil_iff.2 fun e he => ?_
  obtain ⟨req, rep⟩ := e
  have hr := h _ he
  cases req with
  | replicationInfo p =>
    obtain rfl : p = pod := hr
    exact if_neg (Ne.symm hq)
  | _ => rfl

end

end Keyval
