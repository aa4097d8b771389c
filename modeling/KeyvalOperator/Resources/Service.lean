import KeyvalOperator.Resources.StatefulSet

/-!
# The Services

The builders of `resources/service.go`: the headless Service of the Redis pods, one Service for the
master and one for the replicas, and the two Services of the Sentinel pods. The port that a Service
spec sets replaces both the port and the target port.
-/

namespace Keyval.Resources

open Go

/-- The labels of the operator, with those of the spec that it does not use itself. -/
def mergeServiceLabels (base extra : Map String) : Map String := base ∪ extra

section
variable (spec : Option ServiceSpec)

def serviceLabels (base : Map String) : Map String :=
  mergeServiceLabels base ((spec.map (·.labels)).getD ∅)

def serviceAnnotations : Map String := (spec.map (·.annotations)).getD ∅

/-- The Redis port that a Service spec sets, else `port`. -/
def serviceRedisPort (port : Int) : Int :=
  let override := ((spec.bind (·.ports)).map (·.redis)).getD 0
  if override ≠ 0 then override else port

/-- The Sentinel port that a Service spec sets, else `port`. -/
def serviceSentinelPort (port : Int) : Int :=
  let override := ((spec.bind (·.ports)).map (·.sentinel)).getD 0
  if override ≠ 0 then override else port

def servicePublish : Bool := (spec.bind (·.publishNotReadyAddresses)).getD true

/-- The type of the spec, else a cluster-internal Service. -/
def serviceType : String :=
  let type := (spec.map (·.type)).getD ""
  if type ≠ "" then type else "ClusterIP"

end

def clusterIPNone : String := "None"

variable (cr : KeyValCluster)

/-- The selector of the pods with the application label of `labels`. -/
def appSelector (labels : Map String) : Map String :=
  Finmap.singleton labelAppKey (Map.str labels labelAppKey)

def headlessService : Service :=
  let rport := serviceRedisPort cr.spec.service (redisPort cr)
  let mport := metricsExporterPort cr
  { name := headlessName cr
    ns := cr.ns
    labels := serviceLabels cr.spec.service (labelsFor cr)
    annotations := serviceAnnotations cr.spec.service
    clusterIP := clusterIPNone
    publishNotReadyAddresses := servicePublish cr.spec.service
    selector := appSelector (labelsFor cr)
    ports := [{ name := "redis", port := rport, targetPort := rport }] ++
      if metricsEnabled cr then [{ name := "metrics", port := mport, targetPort := mport }]
      else [] }

/-- A Service for the Redis pods of a role. -/
def roleService (name : String) (spec : Option ServiceSpec) (role : String) :
    Service :=
  let rport := serviceRedisPort spec (redisPort cr)
  { name
    ns := cr.ns
    labels := serviceLabels spec (labelsFor cr)
    annotations := serviceAnnotations spec
    type := serviceType spec
    selector := (appSelector (labelsFor cr)).insert roleLabelKey role
    ports := [{ name := "redis", port := rport, targetPort := rport }] }

def masterService : Service :=
  roleService cr (masterServiceName cr) cr.spec.service PodRole.master.str

def replicasService : Service :=
  roleService cr (replicasServiceName cr) cr.spec.replicasService PodRole.replica.str

def sentinelService : Service :=
  let sport := serviceSentinelPort cr.spec.sentinelService (sentinelPort cr)
  { name := sentinelServiceName cr
    ns := cr.ns
    labels := serviceLabels cr.spec.sentinelService (sentinelLabelsFor cr)
    annotations := serviceAnnotations cr.spec.sentinelService
    type := serviceType cr.spec.sentinelService
    selector := appSelector (sentinelLabelsFor cr)
    ports := [{ name := "sentinel", port := sport, targetPort := sport }] }

def sentinelHeadlessService : Service :=
  let sport := sentinelPort cr
  { name := sentinelHeadlessName cr
    ns := cr.ns
    labels := serviceLabels cr.spec.sentinelService (sentinelLabelsFor cr)
    annotations := serviceAnnotations cr.spec.sentinelService
    clusterIP := clusterIPNone
    publishNotReadyAddresses := servicePublish cr.spec.sentinelService
    selector := appSelector (sentinelLabelsFor cr)
    ports := [{ name := "sentinel", port := sport, targetPort := sport }] }

end Keyval.Resources
