import KeyvalOperator.Ops.Eviction
import KeyvalOperator.Resources.StatefulSet

/-!
# Rolling updates

`ops/update`: the plan of an update, which compares the pods with the spec and the template, the
guards of a rolling step, and `execute`, which evicts one pod of a plan.
-/

namespace Keyval.Update

open Go Interact

def planHasReason (plan : Plan) (reason : String) : Bool :=
  reason ≠ "" && plan.reasons.any fun _ reasons => reason ∈ reasons

def hasReasonForPod (plan : Plan) (podName reason : String) : Bool :=
  ((plan.reasons.lookup podName).getD []).contains reason

/-! ## Plan -/

/-- The quantities are equal; a missing one counts as zero. -/
def resourceListEqual (x y : Map Quantity) : Bool :=
  x.all (fun k (qx : Quantity) => qx.amount = ((y.lookup k).map Quantity.amount).getD 0) &&
  y.all fun k (qy : Quantity) => k ∈ x || qy.amount = 0

def eqResourceRequirements (a b : ResourceRequirements) : Bool :=
  resourceListEqual a.limits b.limits && resourceListEqual a.requests b.requests

def isZeroQuantity (q : Quantity) : Bool := q.amount = 0

def cmpQuantity (a b : Quantity) : Int :=
  if a.amount < b.amount then -1 else if b.amount < a.amount then 1 else 0

/-- The loop of `resourceListEqual` over its first list. -/
def rangeFirst (y : Map Quantity) : List (String × Quantity) → Bool
  | [] => true
  | (k, qx) :: rest =>
    match y.lookup k with
    | none => if isZeroQuantity qx then rangeFirst y rest else false
    | some qy => if cmpQuantity qx qy ≠ 0 then false else rangeFirst y rest

/-- The loop of `resourceListEqual` over its second list. -/
def rangeSecond (x : Map Quantity) : List (String × Quantity) → Bool
  | [] => true
  | (k, qy) :: rest =>
    if k ∉ x then if isZeroQuantity qy then rangeSecond x rest else false
    else rangeSecond x rest

/-- `resourceListEqual` as its loops compute it, when they visit the lists in the given orders. -/
def resourceListEqualIn {x y : Map Quantity} (ox : Map.Order x) (oy : Map.Order y) : Bool :=
  if ox.entries.length = 0 ∧ oy.entries.length = 0 then true
  else rangeFirst y ox.entries && rangeSecond x oy.entries

/-- Orders for the four loops of a comparison. -/
structure RangeOrders (a b : ResourceRequirements) where
  limitsA : Map.Order a.limits
  limitsB : Map.Order b.limits
  requestsA : Map.Order a.requests
  requestsB : Map.Order b.requests

def eqResourceRequirementsIn {a b : ResourceRequirements} (o : RangeOrders a b) : Bool :=
  resourceListEqualIn o.limitsA o.limitsB && resourceListEqualIn o.requestsA o.requestsB

def lastContainer (containers : List Container) (name : String) : Option Container :=
  (containers.filter (·.name = name)).getLast?

/-- The extra reasons that are not empty and not there yet are appended. -/
def appendUniqueReasons (dst extras : List String) : List String :=
  extras.foldl (fun acc extra => if extra = "" ∨ extra ∈ acc then acc else acc ++ [extra]) dst

/-- A reason under a condition. -/
def reasonIf (c : Prop) [Decidable c] (reason : String) : List String := if c then [reason] else []

section
variable (cr : KeyValCluster) (ss : Option StatefulSet) (health : Map PodHealth)
  (storage : Map (List String)) (p : Pod)

/-- An annotation of the desired template. -/
def desiredAnnotation (key : String) : String :=
  match ss with
  | some ss => Map.str ss.template.annotations key
  | none => ""

def hashReasons : List String :=
  let desiredHash := desiredAnnotation ss Resources.configHashAnnotationKey
  let desiredTLSHash := desiredAnnotation ss Phases.tlsSecretHashAnnotationKey
  let podTLSHash := Map.str p.annotations Phases.tlsSecretHashAnnotationKey
  reasonIf (desiredHash ≠ "" ∧
    Map.str p.annotations Resources.configHashAnnotationKey ≠ desiredHash) "config-hash" ++
  reasonIf ((desiredTLSHash ≠ "" ∨ podTLSHash ≠ "") ∧ podTLSHash ≠ desiredTLSHash) "tls-hash"

/-- The image that the planner expects of a Sentinel container. -/
def plannedSentinelImage : String :=
  match cr.spec.sentinelImage with
  | some image => if image ≠ "" then image else cr.spec.image
  | none => cr.spec.image

/-- The comparison of a container with the spec. -/
def containerReasons (c : Container) : List String :=
  if c.name = redisContainerName then
    reasonIf (c.image ≠ cr.spec.image) "image:redis" ++
    reasonIf (¬ eqResourceRequirements c.resources
      (Resources.valueOrEmptyResources cr.spec.resources)) "resources:redis"
  else if c.name = sentinelContainerName then
    reasonIf (c.image ≠ plannedSentinelImage cr ∧ cr.spec.mode = .sentinel) "image:sentinel" ++
    reasonIf (cr.spec.mode = .sentinel ∧ ¬ eqResourceRequirements c.resources
      (Resources.desiredSentinelResources cr)) "resources:sentinel"
  else []

def hasContainer (name : String) : Bool := p.containers.any (·.name = name)

def layoutReasons : List String :=
  reasonIf (cr.spec.mode = .sentinel ∧ hasContainer p redisContainerName ∧
    hasContainer p sentinelContainerName) "layout:sentinel-removed" ++
  match ss with
  | some ss =>
    reasonIf (¬ Map.equal ss.template.nodeSelector p.nodeSelector) "spec:node-selector"
  | none => []

def healthReasons : List String :=
  match health.lookup p.name with
  | some .lagging => reasonIf (¬ isPodReady p) "health:lagging"
  | some .desynced => reasonIf (¬ isPodReady p) "health:desynced"
  | some .offline => reasonIf (isPodReady p) "health:offline"
  | some .healthy | none => []

/-- The comparison of the exporter of a Redis pod with that of the template. -/
def metricsReasons : List String :=
  if ¬ hasContainer p redisContainerName then []
  else if Resources.metricsEnabled cr then
    match lastContainer p.containers metricsContainerName with
    | none => ["metrics:missing"]
    | some actual =>
      match ss.bind fun ss => lastContainer ss.template.containers metricsContainerName with
      | none => ["metrics:missing-template"]
      | some desired =>
        reasonIf (actual.image ≠ desired.image) "metrics:image" ++
        reasonIf (actual.ports ≠ desired.ports) "metrics:ports" ++
        reasonIf (actual.args ≠ desired.args) "metrics:args" ++
        reasonIf (¬ eqResourceRequirements actual.resources desired.resources) "resources:metrics"
  else reasonIf (hasContainer p metricsContainerName) "metrics:present-when-disabled"

/-- The reasons to restart a pod, but for scaling down. -/
def podReasons : List String :=
  appendUniqueReasons
    (hashReasons ss p ++ p.containers.flatMap (containerReasons cr) ++ layoutReasons cr ss p ++
      healthReasons health p) ((storage.lookup p.name).getD []) ++
  metricsReasons cr ss p

end

/-- Record the reasons of a pod, if there are any. -/
def addReasons (reasons : Map (List String)) (name : String) (rsn : List String) :
    Map (List String) :=
  if rsn = [] then reasons else reasons.insert name rsn

/-- The pods past the replica count get another reason. -/
def addScaleDown (desired : Int) (reasons : Map (List String)) (p : Pod) : Map (List String) :=
  if desired ≤ ordinal p.name ∧ 0 ≤ ordinal p.name then
    reasons.insert p.name ((reasons.lookup p.name).getD [] ++ ["scale-down"])
  else reasons

/-- `PlanUpdates`: the pods that differ from the spec or the template, by descending ordinal. -/
def planUpdates (cr : KeyValCluster) (ss : Option StatefulSet) (pods : List Pod)
    (health : Map PodHealth) (storage : Map (List String)) : Plan :=
  let reasons := pods.foldl
    (fun m p => addReasons m p.name (podReasons cr ss health storage p)) ∅
  let desired := if cr.spec.redisReplicas < 0 then 0 else cr.spec.redisReplicas
  let reasons := if desired < pods.length then pods.foldl (addScaleDown desired) reasons
    else reasons
  { podNames := ((pods.map Pod.name).dedup.filter (reasons.lookup · |>.isSome)).insertionSort
      fun a b => ordinal b ≤ ordinal a
    reasons }

/-! ## Guards -/

structure GuardInput where
  allowDisruptions : Bool
  status : KeyValClusterStatus
  plan : Plan
  pods : List Pod
  health : Map PodHealth
  master : String
  desiredReplicas : Int

structure GuardDecision where
  blocked : Bool := false
  reason : String := ""
  detail : String := ""
  requeueAfter : Duration := 0
  deriving DecidableEq

def hasCondition (status : KeyValClusterStatus) (type : String) (want : ConditionStatus) : Bool :=
  status.conditions.any fun c => c.type = type && c.status = want

/-- Healthy by the health map, or ready when the map does not name the pod. -/
def healthStateForPod (pod : Pod) (health : Map PodHealth) : Bool :=
  match health.lookup pod.name with
  | none => isPodReady pod
  | some h => h = .healthy

def countHealthyReplicas (pods : List Pod) (health : Map PodHealth) (master : String) : Nat :=
  pods.countP fun p => p.name ≠ master && p.role = PodRole.replica.str && healthStateForPod p health

def evaluateGuards (input : GuardInput) : GuardDecision :=
  let block (reason detail : String) : GuardDecision := ⟨true, reason, detail, 5 * second⟩
  if input.plan.podNames = [] then {}
  else if planHasReason input.plan "tls-hash" then {}
  else if ¬ input.allowDisruptions then
    block "DisruptionsPaused" "health gate forbids disruptions"
  else if hasCondition input.status "FailoverInProgress" .true then
    block "FailoverInProgress" "waiting for failover to finish"
  else if hasCondition input.status "BootstrapInProgress" .true then
    block "BootstrapInProgress" "bootstrap gating updates"
  else if 1 < input.desiredReplicas ∧
      countHealthyReplicas input.pods input.health input.master = 0 then
    block "NoHealthyReplicas" "no healthy replica available"
  else {}

/-! ## Execution -/

inductive Component
  | redis
  | sentinel
  deriving DecidableEq

section
variable (cr : KeyValCluster) (plan : Plan) (pods : List Pod) (health : Option (Map PodHealth))
  (component : Component) (settings : Eviction.Settings)

/-- No pod is healthy besides the pod, which is not the only one. -/
def lastHealthy (health : Map PodHealth) (name : String) : Bool :=
  (pods.filter fun p => p.name ≠ name && healthStateForPod p health) = [] && 1 < pods.length

/-- The tests of the loop of `execute` that pass over a pod. The health is tested only when a map of
it is given. -/
def skipped (pod : Pod) : Bool :=
  (health.any fun health =>
    !hasReasonForPod plan pod.name "tls-hash" && lastHealthy pods health pod.name) ||
  (pod.role = PodRole.master.str && (1 < cr.spec.redisReplicas || cr.spec.mode = .sentinel)) ||
  (ordinal pod.name = 0 && pods.countP isPodReady ≤ 1 && 1 < cr.spec.redisReplicas &&
    component ≠ .sentinel)

/-- Evict the pod; a Sentinel pod that is not ready is deleted when its eviction is rejected. -/
def evictOne (pod : Pod) : M (String × Option Error) := do
  match ← ask (.getPod pod.ns pod.name) with
  | .error e => return ("", some (.wrap ("get pod for delete " ++ pod.name) e))
  | .ok toDel =>
    match ← Eviction.evict settings toDel with
    | none => return (pod.name, none)
    | some e =>
      if e.rejected then
        if component = .sentinel ∧ ¬ isPodReady pod then
          match ← ask (.deletePod toDel.ns toDel.name) with
          | .error d =>
            if d.reason ≠ .notFound then
              return ("", some (.wrap ("delete pod " ++ pod.name) d))
            else return (pod.name, none)
          | .ok () => return (pod.name, none)
        else return ("", some e)
      else return ("", some (.wrap ("evict pod " ++ pod.name) e))

/-- The loop of `execute`: the first pod of the plan that is not passed over is evicted. -/
def executeFrom : List String → M (String × Option Error)
  | [] => return ("", none)
  | name :: rest =>
    match pods.find? (·.name = name) with
    | none => executeFrom rest
    | some pod =>
      if skipped cr plan pods health component pod then executeFrom rest
      else evictOne component settings pod

def execute : M (String × Option Error) :=
  if plan.podNames = [] then return ("", none)
  else if pods.any (·.deletionTimestamp.isSome) then return ("", none)
  else if pods.any fun p => p.name ∉ plan.podNames && !isPodReady p then return ("", none)
  else executeFrom cr plan pods health component settings plan.podNames

end

end Keyval.Update
