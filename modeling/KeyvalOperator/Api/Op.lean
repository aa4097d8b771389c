import KeyvalOperator.Lib.Prog
import KeyvalOperator.Api.Types

/-!
# The operator's interface

Everything the operator asks of its surroundings, as the requests of a signature `Op`: the
context and the clock, the Redis and Sentinel clients (`clients.Client`, `clients.SentinelClient`),
the master-address cache, the Kubernetes API, the event recorder, and the reconcile phases that
are not modelled as programs here (their reply is what the phase leaves in the reconcile state).

A poll loop with a deadline asks once how many polls end before the deadline (`polls`).
-/

namespace Keyval

open Go Interact

/-- Kubernetes events, by reason. -/
inductive Ev
  | storageResizeRequested (pvc fromSize toSize : String)
  | storageResizeIgnored (pvc fromSize toSize : String)
  | storageResizeBackoff (pvc : String) (backoff : Duration)
  | storageResizeRestartQueued (pvc pod : String) (age : Duration)
  | storageResizeCompleted (pvc size : String)
  | storagePVCDeletionRequested (pvc : String)
  | storageCleanupStarted (policy : String)
  | storageCleanupFinished
  | storageCleanupTimedOut (remaining : List String)
  | serviceRemoved (serviceType name : String)
  | serviceImmutableField (serviceType name field detail : String)
  | replicaLagging (pod : String) (lagSeconds : Option Int)
  | replicaDesynced (pod : String)
  | replicaRecovered (pod : String)
  | replicationAligned (master : String)
  | replicationDrift (pods : List String)
  | roleCorrected (master : String)
  | scaleStarted (direction : String) (current target : Int)
  | scaleBlocked (direction reason detail : String)
  | scaleCompleted (direction : String) (target ready : Int)
  | rollingStepBlocked (reason detail : String)
  | rollingStepResumed (reason : String)
  | podEvicted (pod : String) (reasons : List String)
  | startFailover (detail : String)
  | failoverTriggered (master : String)
  | failoverCompleted (master : String) (err : Option Error)
  | newMaster (master : String) (err : Option Error)
  | noGoodSlave (detail : String)
  | tlsSecretRotated (component secretName oldHash newHash : String)
  | applyConflict (component manager field detail : String)
  | applyImmutableField (component field detail : String)
  | applyFailed (component : String) (err : Error)
  | externalImportStarted (detail : String)
  | externalImportCompleted (detail : String)
  | externalImportFailed (detail : String)
  | runtimeConfigApplied (component : String) (keys : List String)
  | sentinelResetDone (pod : String)
  | sentinelQuorumLost (detail : String)
  | sentinelQuorumRestored (detail : String)
  | bootstrapStart (detail : String)
  | bootstrapFinish (detail : String)
  | pdbModeSwitched (component mode : String) (minAvailable : Int)
  deriving DecidableEq

/-- The event is not one of the steps that follow the phases. -/
def Ev.OfPhase : Ev → Prop
  | scaleStarted .. | scaleBlocked .. | scaleCompleted .. | rollingStepBlocked ..
  | rollingStepResumed _ | podEvicted .. | startFailover _ | failoverTriggered _
  | failoverCompleted .. | newMaster .. | noGoodSlave _ => False
  | _ => True

/-- What the Sentinel phase leaves in the state. -/
structure SentinelState where
  quorumOK : Bool
  detail : String
  managed : Bool := false
  ready : Nat := 0
  quorumTarget : Int := 0
  reason : String := ""
  deriving DecidableEq

/-- What the Status phase leaves in the state. -/
structure StatusState where
  computed : KeyValClusterStatus
  allowDisruptions : Bool
  allowSentinel : Bool
  deriving DecidableEq

inductive Req
  -- context and clock
  | ctxErr
  | polls
  | now
  -- the requeue delay of the backoff tracker, and whether the event `NoGoodSlave` is due
  | backoff (base : Duration)
  | noGoodSlaveDue
  -- Redis client of a pod
  | redisForPod (pod : String)
  | auth (pod username password : String)
  | role (pod : String)
  | replicationInfo (pod : String)
  | replicaOf (pod host : String) (port : Int)
  | noOne (pod : String)
  | dbSize (pod : String)
  | configSet (pod key value : String)
  | configGet (pod key : String)
  | configRewrite (pod : String)
  -- a ping of an external Redis
  | pingExternal (addr username password : String) (db : Int) (tls : Option TLSConfig)
  -- Sentinel client of a pod
  | sentinelForPod (pod : String)
  | getMasterAddrByName (pod name : String)
  | failover (pod name : String)
  | sentinelMaster (pod name : String)
  | sentinelSet (pod name option value : String)
  | checkQuorum (pod name : String)
  | sentinelReset (pod name : String)
  -- master-address cache
  | cacheLookup (ns name : String)
  | cacheRemember (ns name master detail : String)
  | cacheInvalidate (ns name : String)
  -- Kubernetes API
  | getSecret (ns name : String)
  | listPVCs (ns : String)
  | getPVC (ns name : String)
  | patchPVC (base desired : PersistentVolumeClaim)
  | deletePVC (ns name : String)
  | getPod (ns name : String)
  | patchPodRole (ns name resourceVersion role : String)
  | patchPodAnnotations (ns name : String) (annotations : Map String)
  -- a merge patch from `base` to `desired` that fails when the pod is no longer `base`
  | patchPod (base desired : Pod)
  | listPods (ns : String) (matchLabels : Map String)
  | evictPod (ns name : String)
  | deletePod (ns name : String)
  | getStatefulSet (ns name : String)
  | applyStatefulSet (ss : StatefulSet)
  | listStatefulSets (ns : String) (matchLabels : Map String)
  | patchReplicas (ns name : String) (replicas : Int)
  | getPDB (ns name : String)
  | applyPDB (pdb : PodDisruptionBudget)
  | deletePDB (ns name : String)
  | getService (ns name : String)
  | deleteService (ns name : String)
  | applyService (svc : Service)
  | patchCluster (ns name : String) (annotations : Map String) (finalizers : List String)
  | patchStatus (ns name : String) (status : KeyValClusterStatus)
  | event (e : Ev)
  -- the order in which `range` visits the keys of a map
  | rangeOrder (keys : List String)
  -- runtime configuration of the pods (`ops/runtimeconfig`)
  | applyRedisRuntime (configHash : String)
  | applySentinelRuntime
  -- the plan of `update.PlanUpdates` for the Redis or the Sentinel pods
  | planUpdates (sentinel : Bool)
  -- phases
  | finalizeCluster
  | security
  | config
  | services
  | podMetadata
  | externalImport
  | sentinel
  | status
  | pdb

/-- The reply to each request. -/
@[reducible] def Req.Rep : Req → Type
  | .ctxErr => Option Error
  | .polls => Nat
  | .now => Time
  | .backoff _ => Duration
  | .noGoodSlaveDue => Bool
  | .redisForPod _ => Result Unit
  | .auth .. => Result Unit
  | .role _ => Result String
  | .replicationInfo _ => Result ReplicationInfo
  | .replicaOf .. => Result Unit
  | .noOne _ => Result Unit
  | .dbSize _ => Result Int
  | .configSet .. => Result Unit
  | .configGet .. => Result (Option String)
  | .configRewrite _ => Result Unit
  | .pingExternal .. => Result Unit
  | .sentinelForPod _ => Result Unit
  | .getMasterAddrByName .. => Result (String × Int)
  | .failover .. => Result Unit
  | .sentinelMaster .. => Result (Map String)
  | .sentinelSet .. => Result Unit
  | .checkQuorum .. => Result Bool
  | .sentinelReset .. => Result Unit
  | .cacheLookup .. => Option (String × String)
  | .cacheRemember .. => Unit
  | .cacheInvalidate .. => Unit
  | .getSecret .. => Result Secret
  | .listPVCs _ => Result (List PersistentVolumeClaim)
  | .getPVC .. => Result PersistentVolumeClaim
  | .patchPVC .. => Result PersistentVolumeClaim
  | .deletePVC .. => Result Unit
  | .getPod .. => Result Pod
  | .patchPodRole .. => Result Pod
  | .patchPodAnnotations .. => Result Unit
  | .patchPod .. => Result Pod
  | .listPods .. => Result (List Pod)
  | .evictPod .. => Result Unit
  | .deletePod .. => Result Unit
  | .getStatefulSet .. => Result StatefulSet
  | .applyStatefulSet _ => Result Unit
  | .listStatefulSets .. => Result (List StatefulSet)
  | .patchReplicas .. => Result Unit
  | .getPDB .. => Result PodDisruptionBudget
  | .applyPDB _ => Result Unit
  | .deletePDB .. => Result Unit
  | .getService .. => Result Service
  | .deleteService .. => Result Unit
  | .applyService _ => Result Unit
  | .patchCluster .. => Result Unit
  | .patchStatus .. => Result Unit
  | .event _ => Unit
  | .rangeOrder keys => { order : List String // order.Perm keys }
  -- the delay asked for, and the pods whose configuration hash was annotated
  | .applyRedisRuntime _ => Duration × List String
  | .applySentinelRuntime => Unit
  | .planUpdates _ => Plan
  | .finalizeCluster => Result Unit
  | .security => Result (Settings × String)
  | .config => Result String
  | .services => Result Unit
  | .podMetadata => Result (List Pod × List Pod)
  | .externalImport => Result (Option (Option Error))
  | .sentinel => Result SentinelState
  | .status => Result StatusState
  | .pdb => Result Unit

/-- A reply to every request. -/
abbrev Replies := (q : Req) → q.Rep

/-- The replies of an environment in which everything that can fail fails: no poll ends before
its deadline, the clock stands at zero and the master cache is empty. -/
def Req.unavailable : Replies
  | .ctxErr => none
  | .polls => (0 : Nat)
  | .now => (0 : Int)
  | .backoff base => base
  | .noGoodSlaveDue => false
  | .cacheLookup .. => none
  | .cacheRemember .. => ()
  | .cacheInvalidate .. => ()
  | .event _ => ()
  | .rangeOrder keys => ⟨keys, .refl _⟩
  | .applyRedisRuntime _ => ((0 : Int), [])
  | .applySentinelRuntime => ()
  | .planUpdates _ => {}
  | .redisForPod _ | .auth .. | .role _ | .replicationInfo _ | .replicaOf .. | .noOne _
  | .dbSize _ | .configSet .. | .configGet .. | .configRewrite _ | .pingExternal ..
  | .sentinelForPod _ | .getMasterAddrByName .. | .failover .. | .sentinelMaster ..
  | .sentinelSet .. | .checkQuorum .. | .sentinelReset .. | .getSecret .. | .listPVCs _
  | .getPVC .. | .patchPVC .. | .deletePVC .. | .getPod .. | .patchPodRole ..
  | .patchPodAnnotations .. | .patchPod .. | .listPods .. | .evictPod .. | .deletePod ..
  | .getStatefulSet .. | .applyStatefulSet _ | .listStatefulSets .. | .patchReplicas ..
  | .getPDB .. | .applyPDB _ | .deletePDB .. | .getService .. | .deleteService ..
  | .applyService _ | .patchCluster .. | .patchStatus .. | .finalizeCluster | .security | .config
  | .services | .podMetadata | .externalImport | .sentinel | .status | .pdb =>
    .error (.new "unavailable")

/-- The signature of the operator's programs. -/
abbrev Op : Sig := ⟨Req, Req.Rep⟩

/-- The requests of a run with their replies. -/
abbrev Trace := List (Event Op)

/-- The operator's programs. -/
abbrev M (α : Type) := Prog Op α

/-- One request. -/
def ask (q : Req) : M q.Rep := .call q .ret

@[simp] theorem ask_eq (q : Req) : ask q = .call q .ret := rfl

theorem runs_asked {α : Type} {q : Req} {f : q.Rep → M α} {t : Trace} {a : α} :
    ((ask q).bind f).Runs t a ↔ ∃ r t', t = ⟨q, r⟩ :: t' ∧ (f r).Runs t' a :=
  Prog.runs_call

end Keyval
