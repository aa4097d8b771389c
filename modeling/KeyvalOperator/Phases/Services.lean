import KeyvalOperator.Reconcile.State
import KeyvalOperator.Resources.Service

/-!
# Services phase

Every Service of the cluster is read and then applied or removed. A field that Kubernetes does not
let change is compared before that, and a difference there skips the apply.
-/

namespace Keyval

open Go Interact

/-- `ssa.Service`: the Service as it is applied. -/
def Ssa.service (src : Service) : Service where
  name := src.name
  ns := src.ns
  labels := src.labels
  annotations := src.annotations
  type := src.type
  selector := src.selector
  ports := src.ports
  publishNotReadyAddresses := src.publishNotReadyAddresses
  clusterIP := src.clusterIP
  clusterIPs :=
    if src.clusterIPs = [] ∨ src.clusterIP = "" then []
    else if src.clusterIP = Resources.clusterIPNone then [Resources.clusterIPNone]
    else src.clusterIPs
  ipFamilies := src.ipFamilies
  ipFamilyPolicy := src.ipFamilyPolicy

namespace Phases

structure ServiceLifecycleOptions where
  enabled : Bool
  preserveClusterIP : Bool
  serviceType : String

/-! ## Immutable fields -/

def findServicePort (ports : List ServicePort) (name : String) (port : Int) : Option ServicePort :=
  ports.find? fun p => p.name = name ∧ p.port = port

def describePolicyChange (existing desired : Option String) : String :=
  "existing=" ++ existing.getD "<nil>" ++ " desired=" ++ desired.getD "<nil>"

def formatSlice (l : List String) : String := "[" ++ " ".intercalate l ++ "]"

/-- The node port that a port of the desired Service changes. -/
def changedNodePort (existing : List ServicePort) (port : ServicePort) : Option (String × String) :=
  if port.nodePort = 0 then none
  else
    match findServicePort existing port.name port.port with
    | none => none
    | some found =>
      if found.nodePort ≠ 0 ∧ found.nodePort ≠ port.nodePort then
        some ("spec.ports[" ++ port.name ++ "].nodePort",
          "existing=" ++ toString found.nodePort ++ " desired=" ++ toString port.nodePort)
      else none

/-- The first immutable field that differs, with a detail. -/
def detectImmutableServiceChange (existing desired : Service) : Option (String × String) :=
  if desired.clusterIP ≠ "" ∧ existing.clusterIP ≠ "" ∧ existing.clusterIP ≠ desired.clusterIP then
    some ("spec.clusterIP",
      "existing=" ++ existing.clusterIP ++ " desired=" ++ desired.clusterIP)
  else if desired.clusterIPs ≠ [] ∧ existing.clusterIPs ≠ desired.clusterIPs then
    some ("spec.clusterIPs",
      "existing=" ++ formatSlice existing.clusterIPs ++
        " desired=" ++ formatSlice desired.clusterIPs)
  else if desired.ipFamilies ≠ [] ∧ existing.ipFamilies ≠ desired.ipFamilies then
    some ("spec.ipFamilies",
      "existing=" ++ formatSlice existing.ipFamilies ++
        " desired=" ++ formatSlice desired.ipFamilies)
  else if desired.ipFamilyPolicy ≠ existing.ipFamilyPolicy then
    some ("spec.ipFamilyPolicy",
      describePolicyChange existing.ipFamilyPolicy desired.ipFamilyPolicy)
  else desired.ports.findSome? (changedNodePort existing.ports)

/-- The desired Service with the immutable fields of the existing one. -/
def copyImmutableServiceFields (existing desired : Service) : Service :=
  { desired with
    clusterIP := existing.clusterIP
    clusterIPs := existing.clusterIPs
    ipFamilies := existing.ipFamilies
    ipFamilyPolicy := existing.ipFamilyPolicy <|> desired.ipFamilyPolicy
    ports := desired.ports.map fun port =>
      if port.nodePort ≠ 0 then port
      else
        match findServicePort existing.ports port.name port.port with
        | none => port
        | some found => { port with nodePort := found.nodePort } }

/-! ## Lifecycle -/

section
variable (cr : KeyValCluster)

/-- Remove a Service that the cluster controls. -/
def removeService (existing : Service) (serviceType : String) : M (Option Error) :=
  if existing.deletionTimestamp ≠ none then return none
  else if existing.controller ≠ some cr.uid then return none
  else do
    match ← ask (.deleteService existing.ns existing.name) with
    | .error e =>
      if e.reason = .notFound then return none
      else return some (.wrapTransient (.wrap ("delete " ++ serviceType ++ " service") e))
    | .ok () =>
      ask (.event (.serviceRemoved serviceType existing.name))
      return none

def applyService (desired : Service) (serviceType : String) : M (Option Error) := do
  let applySvc := { Ssa.service desired with controller := some cr.uid }
  match ← ask (.applyService applySvc) with
  | .error e => return some (.wrapTransient (.wrap ("apply " ++ serviceType ++ " service") e))
  | .ok () => return none

/-- Apply a Service, unless that would change an immutable field of the existing one. -/
def updateService (existing : Option Service) (desired : Service) (preserveClusterIP : Bool)
    (serviceType : String) : M (Option Error) :=
  match existing with
  | none => applyService cr desired serviceType
  | some existing =>
    match detectImmutableServiceChange existing desired with
    | some (field, detail) => do
      ask (.event (.serviceImmutableField serviceType desired.name field detail))
      return none
    | none =>
      applyService cr
        (if preserveClusterIP then copyImmutableServiceFields existing desired else desired)
        serviceType

def reconcileServiceLifecycle (desired : Service) (opts : ServiceLifecycleOptions) :
    M (Option Error) := do
  let serviceType := if opts.serviceType = "" then "unknown" else opts.serviceType
  let reply ← ask (.getService desired.ns desired.name)
  match reply with
  | .ok existing =>
    if opts.enabled then
      updateService cr (some existing) desired opts.preserveClusterIP serviceType
    else removeService cr existing serviceType
  | .error e =>
    if e.reason = .notFound then
      if opts.enabled then updateService cr none desired opts.preserveClusterIP serviceType
      else return none
    else return some (.wrapTransient (.wrap ("get " ++ serviceType ++ " service") e))

/-! ## The phase -/

/-- The Services of a cluster, in the order in which they are reconciled. -/
inductive ServiceKind
  | headless
  | master
  | sentinel
  | sentinelHeadless
  | replicas
  deriving DecidableEq, Repr

namespace ServiceKind

def build : ServiceKind → Service
  | headless => Resources.headlessService cr
  | master => Resources.masterService cr
  | sentinel => Resources.sentinelService cr
  | sentinelHeadless => Resources.sentinelHeadlessService cr
  | replicas => Resources.replicasService cr

/-- Whether a Service is wanted, as far as its spec says. -/
def created (spec : Option ServiceSpec) : Bool := (spec.bind (·.create)).getD true

def options : ServiceKind → ServiceLifecycleOptions
  | headless => ⟨created cr.spec.service, false, "headless"⟩
  | master => ⟨created cr.spec.service, true, "master"⟩
  | sentinel => ⟨created cr.spec.sentinelService, true, "sentinel"⟩
  | sentinelHeadless => ⟨true, false, "sentinel-headless"⟩
  | replicas => ⟨created cr.spec.replicasService, true, "replicas"⟩

/-- The Services of a mode. -/
def all : List ServiceKind :=
  [headless, master] ++ (if cr.spec.mode = .sentinel then [sentinel, sentinelHeadless] else []) ++
    [replicas]

end ServiceKind

def services : M (Unit × Option Error) :=
  Prog.forErr (fun _ (kind : ServiceKind) => do
    let err ← reconcileServiceLifecycle cr (kind.build cr) (kind.options cr)
    return ((), err)) (ServiceKind.all cr) ()

end

end Phases

end Keyval
