import KeyvalOperator.Api.Types

/-!
# Names, hosts and ports

`core.naming` and `core.network`: the names of a cluster's objects, the DNS name of a pod, the
ordinal in a pod's name, the Redis port; and the pod helpers of `runtime`.
-/

namespace Keyval

open Go

def labelAppKey : String := "app"
def labelClusterKey : String := "keyvalcluster"
def roleLabelKey : String := "role"
def dataVolumeName : String := "data"
def redisContainerName : String := "redis"
def sentinelContainerName : String := "sentinel"
def metricsContainerName : String := "metrics"
def finalizerName : String := "keyval.ivelok.io/finalizer"
def annotationRestartFormerMaster : String := "keyval.ivelok.io/restart-former-master"
def annotationForceMaster : String := "keyval.ivelok.io/force-master"
def annotationUpdateBlocked : String := "keyval.ivelok.io/update-blocked"
def annotationScalePhase : String := "keyval.ivelok.io/scale-phase"
def annotationSentinelQuorumLossSince : String := "keyval.ivelok.io/quorum-loss-since"
def annotationSentinelClusterResetAttempts : String := "keyval.ivelok.io/reset-cluster-attempts"
def annotationSentinelClusterResetCooldown : String := "keyval.ivelok.io/reset-cluster-cooldown"
def annotationFinalizerStarted : String := "keyval.ivelok.io/finalizing-since"
def annotationPVCReplicationOffset : String := "keyval.ivelok.io/pvc-repl-offset"
def annotationPVCReplicationRole : String := "keyval.ivelok.io/pvc-last-role"
def annotationPVCOffsetTimestamp : String := "keyval.ivelok.io/pvc-last-update"
def annotationPVCResizeTarget : String := "keyval.ivelok.io/pvc-resize-target"
def annotationPVCResizeRequestedAt : String := "keyval.ivelok.io/pvc-resize-requested-at"
def annotationPVCResizeCompletedAt : String := "keyval.ivelok.io/pvc-resize-completed-at"

def appLabelForName (name : String) : String := name ++ "-redis"

section
variable (cr : KeyValCluster)

def appLabel : String := appLabelForName cr.name

def sentinelAppLabelForName (name : String) : String := name ++ "-sentinel"

def sentinelAppLabel : String := sentinelAppLabelForName cr.name

def headlessName : String := cr.name ++ "-headless"

def masterServiceName : String := cr.name ++ "-master"

def configMapName : String := cr.name ++ "-config"

def sentinelServiceName : String := cr.name ++ "-sentinel"

def replicasServiceName : String := cr.name ++ "-replicas"

def sentinelHeadlessName : String := cr.name ++ "-sentinel-headless"

def labelsFor : Map String :=
  (Finmap.singleton labelAppKey (appLabel cr)).insert labelClusterKey cr.name

def sentinelLabelsFor : Map String :=
  (Finmap.singleton labelAppKey (sentinelAppLabel cr)).insert labelClusterKey cr.name

/-! ## Engine -/

def defaultRedisImage : String := "redis:7.2"
def defaultValkeyImage : String := "valkey/valkey:7.2"

/-- The image of the spec, else the default image of the engine. -/
def resolveImage (spec : KeyValClusterSpec) : String :=
  if spec.image ≠ "" then spec.image
  else match spec.engine with
    | some .redis => defaultRedisImage
    | some .valkey | none => defaultValkeyImage

/-! ## Network -/

/-- The Redis port: `redisConfig["port"]` when it is a valid port number. -/
def redisPort : Int :=
  match parseInt 64 (Map.str cr.spec.redisConfig "port") with
  | some v => if 0 < v ∧ v ≤ 65535 then v else 6379
  | none => 6379

/-- The Sentinel port: the port of the Sentinel Service, else `sentinelConfig["port"]` when it is a
valid port number. -/
def sentinelPort : Int :=
  let servicePort := ((cr.spec.sentinelService.bind (·.ports)).map (·.sentinel)).getD 0
  if servicePort ≠ 0 then servicePort
  else
    match parseInt 64 (Map.str cr.spec.sentinelConfig "port") with
    | some v => if 0 < v ∧ v ≤ 65535 then v else 26379
    | none => 26379

/-- The number after the last dash of a pod name, or -1. -/
def ordinal (name : String) : Int :=
  match afterLast name '-' with
  | none => -1
  | some l =>
    if l = [] ∨ ¬ l.all Char.isDigit then -1
    else l.foldl (fun n c => wrap64 (n * 10 + (c.toNat - 48 : Nat))) 0

def podFQDN (ord : Int) : String :=
  cr.name ++ "-" ++ toString ord ++ "." ++ headlessName cr ++ "." ++ cr.ns ++ ".svc"

def podDNSName (podName : String) : String :=
  if 0 ≤ ordinal podName then podFQDN cr (ordinal podName)
  else podName ++ "." ++ headlessName cr ++ "." ++ cr.ns ++ ".svc"

end

/-! ## Pods -/

/-- The pod has the `Ready` condition with status `True`. -/
def isPodReady (p : Pod) : Bool := p.conditions.any fun c => c.type = "Ready" && c.isTrue

def Pod.role (p : Pod) : String := Map.str p.labels roleLabelKey

def Pod.setRole (p : Pod) (role : String) : Pod :=
  { p with labels := p.labels.insert roleLabelKey role }

@[simp] theorem Pod.setRole_role (p : Pod) (role : String) : (p.setRole role).role = role :=
  Map.str_insert_self _ _ _

@[simp] theorem Pod.setRole_name (p : Pod) (role : String) : (p.setRole role).name = p.name := rfl

def sortedPodsByName (pods : List Pod) : List Pod :=
  pods.insertionSort fun p q => p.name ≤ q.name

end Keyval
