import KeyvalOperator.Resources.Config
import KeyvalOperator.Resources.StatefulSet

/-!
# Variables and probes of the containers

Of `buildPodSpec`, `bootstrapInitContainer` and `buildSentinelPodSpec` what tells the processes in a
pod where the servers listen: the environment of the Redis containers and the Sentinel probes.
-/

namespace Keyval.Resources

open Go

/-! ## Variables -/

inductive EnvSource
  | value (s : String)
  /-- A field of the pod. -/
  | fieldRef (path : String)
  | secretKeyRef (name key : String)
  deriving DecidableEq, Repr

structure EnvVar where
  name : String
  source : EnvSource
  deriving DecidableEq, Repr

def EnvVar.text (name value : String) : EnvVar := ⟨name, .value value⟩

def envValue (env : List EnvVar) (name : String) : Option String :=
  match env.find? (·.name = name) with
  | some ⟨_, .value s⟩ => some s
  | _ => none

section
variable (sec : Settings)

def redisAuthEnvs : List EnvVar :=
  if sec.authEnabled then
    [⟨"MASTER_AUTH", .secretKeyRef sec.authSecretName sec.authSecretKey⟩,
      ⟨"REDISCLI_AUTH", .secretKeyRef sec.authSecretName sec.authSecretKey⟩] ++
    if sec.username ≠ "" then [.text "MASTER_USER" sec.username] else []
  else []

def redisTLSEnvs : List EnvVar :=
  if sec.tlsEnabled then
    [.text "TLS_ENABLED" "true",
      .text "TLS_CA_FILE" (pathJoin tlsMountPath sec.caCertKey),
      .text "TLS_CERT_FILE" (pathJoin tlsMountPath sec.certKey),
      .text "TLS_KEY_FILE" (pathJoin tlsMountPath sec.keyKey)]
  else []

end

def modeText : Mode → String
  | .standalone => "Standalone"
  | .sentinel => "Sentinel"

section
variable (cr : KeyValCluster) (sec : Settings)

/-- The environment of the Redis container, which the probe scripts read. -/
def redisEnv : List EnvVar :=
  [.text "REDIS_PORT" (toString (redisPort cr)), .text "REDIS_PROBE_TIMEOUT" "3"] ++
    redisAuthEnvs sec ++ redisTLSEnvs sec

/-- The environment of `bootstrapInitContainer`, which the bootstrap script reads. -/
def bootstrapEnv : List EnvVar :=
  [⟨"POD_NAME", .fieldRef "metadata.name"⟩,
    ⟨"POD_NAMESPACE", .fieldRef "metadata.namespace"⟩,
    ⟨"POD_IP", .fieldRef "status.podIP"⟩,
    .text "CLUSTER_MODE" (modeText cr.spec.mode),
    .text "HEADLESS_SERVICE" (headlessName cr),
    .text "SEED_HOST" (podFQDN cr 0),
    .text "REDIS_PORT" (toString (redisPort cr)),
    .text "SENTINEL_SVC"
      (if cr.spec.mode = .sentinel then sentinelServiceName cr ++ "." ++ cr.ns ++ ".svc" else ""),
    .text "SENTINEL_PORT" (toString (sentinelPort cr)),
    .text "MONITOR_NAME" cr.name,
    .text "MASTER_SERVICE_HOST" (masterServiceName cr ++ "." ++ cr.ns ++ ".svc"),
    ⟨"FORCE_MASTER", .fieldRef ("metadata.annotations['" ++ annotationForceMaster ++ "']")⟩] ++
  redisAuthEnvs sec ++ redisTLSEnvs sec

/-! ## Probes -/

structure Probe where
  command : List String
  initialDelaySeconds : Int
  timeoutSeconds : Int
  periodSeconds : Int
  failureThreshold : Int
  deriving DecidableEq, Repr

/-- The probe command of the Sentinel container. -/
def sentinelProbeCommand : String :=
  (if sec.tlsEnabled then "redis-cli --tls --cacert \"$TLS_CA_FILE\" --cert \"$TLS_CERT_FILE\" " ++
      "--key \"$TLS_KEY_FILE\" -p "
    else "redis-cli -p ") ++ toString (sentinelPort cr) ++ " PING"

def sentinelLivenessProbe : Probe := ⟨["sh", "-c", sentinelProbeCommand cr sec], 5, 3, 10, 5⟩

def sentinelReadinessProbe : Probe := ⟨["sh", "-c", sentinelProbeCommand cr sec], 5, 3, 5, 3⟩

end

end Keyval.Resources
