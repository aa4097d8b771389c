import KeyvalOperator.Resources.Topology

/-!
# The StatefulSets

`resources.StatefulSet` and `resources.SentinelStatefulSet` with their pod templates: labels,
annotations with the hashes of the configuration and the certificates, node selector, topology
settings, and of each container the name, image, arguments, ports and resources.
-/

namespace Keyval.Phases

open Go

/-- `resources.StatefulSet`: at least one replica. -/
def redisStatefulSet (cr : KeyValCluster) : StatefulSet where
  name := cr.name
  ns := cr.ns
  replicas := if cr.spec.redisReplicas < 1 then 1 else cr.spec.redisReplicas
  matchLabels := (Finmap.singleton labelAppKey (appLabel cr)).insert labelClusterKey cr.name

def sentinelStatefulSet (cr : KeyValCluster) : StatefulSet where
  name := cr.name ++ "-sentinel"
  ns := cr.ns
  replicas := cr.spec.sentinelCount.getD 0
  matchLabels := (Finmap.singleton labelAppKey (sentinelAppLabel cr)).insert labelClusterKey cr.name

def tlsSecretHashAnnotationKey : String := "keyval.ivelok.io/tls-secret-hash"

end Keyval.Phases

namespace Keyval.Resources

open Go Phases

def configHashAnnotationKey : String := "keyval.ivelok.io/config-hash"

/-! ## Resources -/

def valueOrEmptyResources (r : Option ResourceRequirements) : ResourceRequirements := r.getD {}

/-- Requests of so many thousandths of a processor and so many mebibytes of memory. -/
def defaultRequests (milliCPU : Nat) (mebibytes : Nat) : ResourceRequirements where
  requests :=
    ((∅ : Map Quantity).insert "cpu" ⟨milliCPU * 1000000, toString milliCPU ++ "m"⟩).insert
    "memory" ⟨mebibytes * 1048576 * 1000000000, toString mebibytes ++ "Mi"⟩

def defaultSentinelResources : ResourceRequirements := defaultRequests 50 128

def defaultMetricsResources : ResourceRequirements := defaultRequests 20 64

/-- The resources of a Sentinel pod: those of the spec, else the defaults of Sentinel mode. -/
def desiredSentinelResources (cr : KeyValCluster) : ResourceRequirements :=
  if cr.spec.sentinelResources.isSome then valueOrEmptyResources cr.spec.sentinelResources
  else if cr.spec.mode ≠ .sentinel then {}
  else defaultSentinelResources

/-! ## Metrics exporter -/

def defaultMetricsPort : Int := 9121
def defaultMetricsImage : String := "ghcr.io/oliver006/redis_exporter:v1.75.0"

def metricsEnabled (cr : KeyValCluster) : Bool := (cr.spec.metrics.bind (·.enabled)).getD true

def metricsExporterImage (cr : KeyValCluster) : String :=
  match cr.spec.metrics with
  | some m => if m.image ≠ "" then m.image else defaultMetricsImage
  | none => defaultMetricsImage

def metricsExporterPort (cr : KeyValCluster) : Int :=
  match cr.spec.metrics with
  | some m => if m.port ≠ 0 then m.port else defaultMetricsPort
  | none => defaultMetricsPort

def desiredMetricsResources (cr : KeyValCluster) : ResourceRequirements :=
  (cr.spec.metrics.bind (·.resources)).getD defaultMetricsResources

def buildMetricsContainer (cr : KeyValCluster) (sec : Settings) : Container where
  name := metricsContainerName
  image := metricsExporterImage cr
  args :=
    let scheme := if sec.tlsEnabled then "rediss" else "redis"
    ["--redis.addr=" ++ scheme ++ "://127.0.0.1:" ++ toString (redisPort cr),
      "--web.listen-address=:" ++ toString (metricsExporterPort cr)]
  ports := [⟨"metrics", metricsExporterPort cr⟩]
  resources := desiredMetricsResources cr

/-! ## Templates -/

/-- The annotations of a template with the hashes that are not empty. -/
def hashAnnotations (base : Map String) (configHash tlsHash : String) : Map String :=
  let annotations := if configHash ≠ "" then base.insert configHashAnnotationKey configHash
    else base
  if tlsHash ≠ "" then annotations.insert tlsSecretHashAnnotationKey tlsHash else annotations

section
variable (cr : KeyValCluster) (configHash tlsHash : String) (sec : Settings)

def redisContainer : Container where
  name := redisContainerName
  image := resolveImage cr.spec
  args := ["/runtime-conf/redis.conf"]
  ports := [⟨"redis", redisPort cr⟩]
  resources := valueOrEmptyResources cr.spec.resources

/-- The containers of `buildPodSpec`. -/
def redisContainers : List Container :=
  if metricsEnabled cr then [redisContainer cr, buildMetricsContainer cr sec]
  else [redisContainer cr]

def statefulSet : StatefulSet :=
  { redisStatefulSet cr with
    template := applyTopologySettings cr (appLabel cr) {
      -- a label of the user does not replace one of the operator
      labels := (redisStatefulSet cr).matchLabels ∪ cr.spec.podLabels
      annotations := hashAnnotations cr.spec.podAnnotations configHash tlsHash
      containers := redisContainers cr sec } }

/-- The image of the Sentinel container in `buildSentinelPodSpec`. -/
def sentinelContainerImage : String :=
  match cr.spec.sentinelImage with
  | some image => if image ≠ "" then image else resolveImage cr.spec
  | none => resolveImage cr.spec

def sentinelContainer : Container where
  name := sentinelContainerName
  image := sentinelContainerImage cr
  args := ["/conf/sentinel.conf"]
  ports := [⟨"sentinel", sentinelPort cr⟩]
  resources := desiredSentinelResources cr

def sentinelStatefulSet (_sec : Settings) : StatefulSet :=
  let pod := cr.spec.sentinelPod.getD {}
  let base := Phases.sentinelStatefulSet cr
  { base with
    template := applyTopologySettings cr (sentinelAppLabel cr) {
      -- a label of the user replaces one of the operator
      labels := pod.labels ∪ base.matchLabels.insert roleLabelKey PodRole.sentinel.str
      annotations := hashAnnotations pod.annotations configHash tlsHash
      nodeSelector := pod.nodeSelector
      containers := [sentinelContainer cr]
      affinity := pod.affinity } }

end

end Keyval.Resources
