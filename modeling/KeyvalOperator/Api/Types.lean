import KeyvalOperator.Lib.Go

/-!
# Objects

The Kubernetes objects and the custom resource as the operator's functions read and write them,
the replies of Redis and Sentinel, and errors.
-/

namespace Keyval

open Go

/-! ## Errors -/

/-- What the `apierrors` predicates recognise an API error by. -/
inductive ApiReason
  | none
  | conflict
  | notFound
  | tooManyRequests
  | forbidden
  | invalid
  /-- `context.DeadlineExceeded` or `context.Canceled`. -/
  | contextDone
  deriving DecidableEq, Repr

structure StatusCause where
  field : String := ""
  message : String := ""
  deriving DecidableEq, Repr

/-- The marker of `WrapTransient` and `WrapFatal`. -/
inductive ErrClass
  | plain
  | transient
  | fatal
  deriving DecidableEq, Repr

/-- An error: its text, and what `errors.Is` and the `apierrors` predicates find in its chain. -/
structure Error where
  msg : String
  cls : ErrClass := .plain
  reason : ApiReason := .none
  causes : List StatusCause := []
  rejected : Bool := false
  noGoodSlave : Bool := false
  deriving DecidableEq, Repr

abbrev Result (α : Type) := Except Error α

theorem Result.bind_eq_ok {α β : Type} {x : Result α} {f : α → Result β} {b : β} :
    x >>= f = .ok b ↔ ∃ a, x = .ok a ∧ f a = .ok b := by
  cases x <;> simp [bind, Except.bind]

namespace Error

/-- `errors.New`. -/
def new (msg : String) : Error := { msg }

/-- `fmt.Errorf("<text>: %w", err)`. -/
def wrap (text : String) (e : Error) : Error := { e with msg := text ++ ": " ++ e.msg }

/-- `controllererrors.WrapTransient`. -/
def wrapTransient (e : Error) : Error := { e with cls := .transient }

/-- `controllererrors.WrapFatal`. -/
def wrapFatal (e : Error) : Error := { e with cls := .fatal }

/-- `errors.Join`. -/
def join (es : List Error) : Error :=
  { msg := String.intercalate "\n" (es.map (·.msg))
    rejected := es.any (·.rejected)
    noGoodSlave := es.any (·.noGoodSlave) }

end Error

/-! ## Containers, selectors and secrets -/

/-- A `resource.Quantity`: the amount in nano units, by which it is compared, and its text. -/
structure Quantity where
  amount : Int := 0
  text : String := "0"
  deriving DecidableEq, Repr

structure ResourceRequirements where
  limits : Map Quantity := ∅
  requests : Map Quantity := ∅
  deriving DecidableEq

structure ContainerPort where
  name : String
  containerPort : Int
  deriving DecidableEq, Repr

structure Container where
  name : String
  image : String
  args : List String := []
  ports : List ContainerPort := []
  resources : ResourceRequirements := {}
  deriving DecidableEq

/-- A `metav1.LabelSelector`; its match expressions are kept as texts. -/
structure LabelSelector where
  matchLabels : Map String := ∅
  matchExpressions : List String := []
  deriving DecidableEq

structure TopologySpreadConstraint where
  maxSkew : Int
  topologyKey : String
  whenUnsatisfiable : String
  labelSelector : Option LabelSelector := none
  minDomains : Option Int := none
  nodeAffinityPolicy : Option String := none
  nodeTaintsPolicy : Option String := none
  matchLabelKeys : List String := []
  deriving DecidableEq

structure PodAffinityTerm where
  topologyKey : String
  labelSelector : Option LabelSelector := none
  namespaces : List String := []
  namespaceSelector : Option LabelSelector := none
  matchLabelKeys : List String := []
  mismatchLabelKeys : List String := []
  deriving DecidableEq

structure WeightedPodAffinityTerm where
  weight : Int
  podAffinityTerm : PodAffinityTerm
  deriving DecidableEq

/-- The terms preferred and required during scheduling. -/
structure PodAntiAffinity where
  preferred : List WeightedPodAffinityTerm := []
  required : List PodAffinityTerm := []
  deriving DecidableEq

/-- A `corev1.Affinity`; the parts that the operator only passes on are kept as texts. -/
structure Affinity where
  nodeAffinity : Option String := none
  podAffinity : Option String := none
  podAntiAffinity : Option PodAntiAffinity := none
  deriving DecidableEq

structure SecretKeySelector where
  name : String := ""
  key : String := ""
  deriving DecidableEq, Repr

/-- A secret; the bytes of its data are texts. -/
structure Secret where
  data : Map String := ∅
  resourceVersion : String := ""
  deriving DecidableEq

/-! ## The custom resource -/

inductive Mode
  | standalone
  | sentinel
  deriving DecidableEq, Repr

inductive Engine
  | redis
  | valkey
  deriving DecidableEq, Repr

inductive PodRole
  | master
  | replica
  | sentinel
  deriving DecidableEq, Repr

def PodRole.str : PodRole → String
  | .master => "master"
  | .replica => "replica"
  | .sentinel => "sentinel"

inductive PodHealth
  | healthy
  | lagging
  | desynced
  | offline
  deriving DecidableEq, Repr

def PodHealth.str : PodHealth → String
  | .healthy => "Healthy"
  | .lagging => "Lagging"
  | .desynced => "Desynced"
  | .offline => "Offline"

structure StorageSpec where
  type : String := ""
  size : Option String := none
  cleanupOnDelete : Bool := false
  deriving DecidableEq

structure ReplicationHealthSpec where
  lagThresholdSeconds : Int := 0
  deriving DecidableEq

structure HealthSpec where
  replicationLagSecondsMax : Int := 0
  failoverTimeoutSeconds : Int := 0
  minReplicasForSafety : Int := 0
  deriving DecidableEq

structure SentinelPodSpec where
  labels : Map String := ∅
  annotations : Map String := ∅
  nodeSelector : Map String := ∅
  affinity : Option Affinity := none
  deriving DecidableEq

structure MetricsSpec where
  enabled : Option Bool := none
  image : String := ""
  port : Int := 0
  resources : Option ResourceRequirements := none
  deriving DecidableEq

structure ServicePorts where
  redis : Int := 0
  sentinel : Int := 0
  deriving DecidableEq

structure ServiceSpec where
  create : Option Bool := none
  type : String := ""
  annotations : Map String := ∅
  labels : Map String := ∅
  ports : Option ServicePorts := none
  publishNotReadyAddresses : Option Bool := none
  deriving DecidableEq

inductive IntOrString
  | int (n : Int)
  | str (s : String)
  deriving DecidableEq, Repr

structure PDBSpec where
  minAvailable : Option IntOrString := none
  maxUnavailable : Option IntOrString := none
  deriving DecidableEq

structure AuthSpec where
  enabled : Bool
  username : String := ""
  passwordSecretRef : Option SecretKeySelector := none
  deriving DecidableEq

structure TLSSpec where
  enabled : Bool
  secretName : String := ""
  caCertKey : String := ""
  certKey : String := ""
  keyKey : String := ""
  requireClientAuth : Option Bool := none
  disablePlaintext : Option Bool := none
  deriving DecidableEq

structure SecuritySpec where
  auth : Option AuthSpec := none
  tls : Option TLSSpec := none
  deriving DecidableEq

inductive SyncMode
  | snapshot
  | live
  deriving DecidableEq, Repr

def SyncMode.str : SyncMode → String
  | .snapshot => "Snapshot"
  | .live => "Live"

structure ExternalSourceAuthSpec where
  usernameSecretRef : Option SecretKeySelector := none
  passwordSecretRef : Option SecretKeySelector := none
  deriving DecidableEq

structure ExternalSourceTLSSpec where
  enabled : Bool
  caBundleSecretRef : Option SecretKeySelector := none
  clientCertSecretRef : Option SecretKeySelector := none
  clientKeySecretRef : Option SecretKeySelector := none
  insecureSkipVerify : Bool := false
  deriving DecidableEq

structure ExternalSourceSpec where
  address : String
  auth : Option ExternalSourceAuthSpec := none
  tls : Option ExternalSourceTLSSpec := none
  syncMode : Option SyncMode := none
  abortIfExistingData : Option Bool := none
  maxInitialSyncDuration : Option Duration := none
  deriving DecidableEq

structure TopologySpreadSpec where
  disabled : Bool := false
  maxSkew : Option Int := none
  topologyKeys : List String := []
  whenUnsatisfiable : String := ""
  deriving DecidableEq

structure TopologyAntiAffinitySpec where
  disabled : Bool := false
  required : Bool := false
  deriving DecidableEq

structure TopologySpec where
  spread : Option TopologySpreadSpec := none
  antiAffinity : Option TopologyAntiAffinitySpec := none
  deriving DecidableEq

structure KeyValClusterSpec where
  mode : Mode
  redisReplicas : Int
  sentinelCount : Option Int := none
  redisConfig : Map String := ∅
  storage : Option StorageSpec := none
  sentinelPod : Option SentinelPodSpec := none
  replicationHealth : Option ReplicationHealthSpec := none
  health : Option HealthSpec := none
  engine : Option Engine := none
  image : String := ""
  sentinelImage : Option String := none
  resources : Option ResourceRequirements := none
  sentinelResources : Option ResourceRequirements := none
  sentinelConfig : Map String := ∅
  service : Option ServiceSpec := none
  sentinelService : Option ServiceSpec := none
  replicasService : Option ServiceSpec := none
  sentinelPDB : Option PDBSpec := none
  metrics : Option MetricsSpec := none
  podLabels : Map String := ∅
  podAnnotations : Map String := ∅
  security : Option SecuritySpec := none
  /-- `bootstrap.externalSource`. -/
  externalSource : Option ExternalSourceSpec := none
  topology : Option TopologySpec := none
  deriving DecidableEq

inductive ConditionStatus
  | true
  | false
  | unknown
  deriving DecidableEq, Repr

structure Condition where
  type : String
  status : ConditionStatus
  reason : String := ""
  message : String := ""
  lastTransitionTime : Time := 0
  observedGeneration : Int := 0
  deriving DecidableEq

/-- The conditions that the operator maintains. -/
inductive ConditionType
  | available
  | sentinelQuorum
  | replicationHealthy
  | failoverInProgress
  | disruptionsPaused
  | upgradeInProgress
  | bootstrapInProgress
  | runtimeConfigApplied
  | reconciled
  | storageCleanup
  | externalImport
  deriving DecidableEq, Repr

def ConditionType.str : ConditionType → String
  | .available => "Available"
  | .sentinelQuorum => "SentinelQuorum"
  | .replicationHealthy => "ReplicationHealthy"
  | .failoverInProgress => "FailoverInProgress"
  | .disruptionsPaused => "DisruptionsPaused"
  | .upgradeInProgress => "UpgradeInProgress"
  | .bootstrapInProgress => "BootstrapInProgress"
  | .runtimeConfigApplied => "RuntimeConfigApplied"
  | .reconciled => "Reconciled"
  | .storageCleanup => "StorageCleanup"
  | .externalImport => "ExternalImport"

/-- A condition that a phase imposes on the status. -/
structure ConditionState where
  status : ConditionStatus
  reason : String
  message : String
  deriving DecidableEq

/-- The role and health of a pod in the status. -/
structure PodRoleStatus where
  name : String
  role : PodRole
  health : Option PodHealth := none
  ready : Bool := false
  lagSeconds : Option Int := none
  lastTransitionTime : Option Time := none
  deriving DecidableEq

/-- Where the roles come from. -/
inductive RolesSource
  | sentinel
  | probe
  | forced
  deriving DecidableEq, Repr

def RolesSource.str : RolesSource → String
  | .sentinel => "sentinel"
  | .probe => "probe"
  | .forced => "forced"

structure ExternalImportStatus where
  state : String := ""
  source : String := ""
  mode : String := ""
  startedAt : Option Time := none
  lastSynced : Option Time := none
  message : String := ""
  deriving DecidableEq

structure KeyValClusterStatus where
  masterPod : String := ""
  replicas : Int := 0
  rolesSource : Option RolesSource := none
  readyReplicas : Int := 0
  roles : List PodRoleStatus := []
  conditions : List Condition := []
  /-- `healthGate.allowDisruptions`; `none` when `healthGate` is nil. -/
  healthGate : Option Bool := none
  externalImport : Option ExternalImportStatus := none
  deriving DecidableEq

structure KeyValCluster where
  name : String
  ns : String
  uid : String := ""
  generation : Int := 0
  annotations : Map String := ∅
  deletionTimestamp : Option Time := none
  finalizers : List String := []
  spec : KeyValClusterSpec
  status : KeyValClusterStatus := {}
  deriving DecidableEq

/-! ## Pods, claims and workloads -/

structure OwnerReference where
  kind : String
  name : String
  deriving DecidableEq, Repr

/-- A pod or volume-claim condition: its type, whether its status is `True`, and since when it has
its status. -/
structure ObjCondition where
  type : String
  isTrue : Bool
  lastTransitionTime : Time := 0
  deriving DecidableEq, Repr

structure Pod where
  name : String
  ns : String
  labels : Map String := ∅
  annotations : Map String := ∅
  nodeSelector : Map String := ∅
  containers : List Container := []
  podIP : String := ""
  conditions : List ObjCondition := []
  creationTimestamp : Time := 0
  deletionTimestamp : Option Time := none
  resourceVersion : String := ""
  deriving DecidableEq

structure PersistentVolumeClaim where
  name : String
  ns : String
  labels : Map String := ∅
  annotations : Map String := ∅
  ownerReferences : List OwnerReference := []
  deletionTimestamp : Option Time := none
  /-- `spec.resources.requests.storage`. -/
  request : Option Quantity := none
  /-- `status.capacity.storage`. -/
  capacity : Option Quantity := none
  conditions : List ObjCondition := []
  deriving DecidableEq

structure PodTemplateSpec where
  labels : Map String := ∅
  annotations : Map String := ∅
  nodeSelector : Map String := ∅
  containers : List Container := []
  topologySpreadConstraints : List TopologySpreadConstraint := []
  affinity : Option Affinity := none
  deriving DecidableEq

structure StatefulSet where
  name : String
  ns : String
  replicas : Int
  matchLabels : Map String := ∅
  template : PodTemplateSpec := {}
  deriving DecidableEq

def StatefulSet.templateAnnotations (ss : StatefulSet) : Map String := ss.template.annotations

structure ServicePort where
  name : String
  port : Int
  targetPort : Int
  nodePort : Int := 0
  deriving DecidableEq, Repr

structure Service where
  name : String
  ns : String
  labels : Map String := ∅
  annotations : Map String := ∅
  /-- The UID of the controller among the owner references. -/
  controller : Option String := none
  deletionTimestamp : Option Time := none
  type : String := ""
  clusterIP : String := ""
  clusterIPs : List String := []
  ipFamilies : List String := []
  ipFamilyPolicy : Option String := none
  publishNotReadyAddresses : Bool := false
  selector : Map String := ∅
  ports : List ServicePort := []
  deriving DecidableEq

structure PodDisruptionBudget where
  name : String
  ns : String
  labels : Map String := ∅
  annotations : Map String := ∅
  ownerReferences : List OwnerReference := []
  matchLabels : Map String := ∅
  minAvailable : Option IntOrString := none
  maxUnavailable : Option IntOrString := none
  deriving DecidableEq

structure ConfigMap where
  name : String
  ns : String
  labels : Map String := ∅
  data : Map String := ∅
  deriving DecidableEq

/-- The pods to restart and why. -/
structure Plan where
  podNames : List String := []
  reasons : Map (List String) := ∅
  deriving DecidableEq

/-! ## Text formats -/

inductive TimeLayout
  | rfc3339
  | rfc3339Nano
  deriving DecidableEq, Repr

/-- The parts of a parsed URL; the user is `none` when the address has no user information. -/
structure URL where
  hostname : String := ""
  port : String := ""
  path : String := ""
  user : Option String := none
  password : Option String := none
  deriving DecidableEq, Repr

/-- The parsers, printers and digests of the standard library that the operator calls. Nothing is
assumed of them: every result holds for all of them. -/
structure Formats where
  /-- `time.Time.Format`. -/
  formatTime : TimeLayout → Time → String
  /-- `time.Parse`. -/
  parseTime : TimeLayout → String → Option Time
  /-- `resource.ParseQuantity`. -/
  parseQuantity : String → Option Quantity
  /-- `net.ParseIP`, as the number of the address. -/
  parseIP : String → Option Nat
  /-- `x509.CertPool.AppendCertsFromPEM`. -/
  appendCertsFromPEM : String → Bool
  /-- The manager and the field that `conflictRegex` finds in a message. -/
  conflictRegex : String → Option (String × String)
  /-- `sha256.Sum256`. -/
  sha256 : String → BitVec 256
  /-- The error of `tls.X509KeyPair`. -/
  x509KeyPair : String → String → Option Error
  /-- `url.Parse`. -/
  parseURL : String → Result URL
  /-- `net.LookupPort` for TCP. -/
  lookupPort : String → Result Int
  /-- `time.Duration.String`. -/
  formatDuration : Duration → String
  /-- `int64(base*mult + 0.5)` for the `float64` that `strconv.ParseFloat` reads from a text. -/
  scaleFloat : String → Int → Option Int

/-- `url.Parse` for `scheme://host:port/path`, where the port and the path may be left out. -/
def parsePlainURL (s : String) : Result URL :=
  match s.toList.splitOn '/' with
  | scheme :: [] :: authority :: rest =>
    let path := String.ofList (rest.flatMap ('/' :: ·))
    if scheme.getLast? ≠ some ':' then .ok { path := s }
    else match authority.splitOn ':' with
      | [host] => .ok { hostname := .ofList host, path }
      | [host, port] => .ok { hostname := .ofList host, port := .ofList port, path }
      | _ => .error (.new "invalid port")
  | _ => .ok { path := s }

/-- Formats for running the model: decimal numbers, no IP addresses, and URLs without user
information. -/
def Formats.decimal : Formats where
  formatTime _ t := toString t
  parseTime _ s := parseInt 64 s
  parseQuantity s := (parseInt 64 s).map fun n => ⟨n * 1000000000, s⟩
  parseIP _ := none
  appendCertsFromPEM s := s ≠ ""
  conflictRegex _ := none
  sha256 s := BitVec.ofNat 256 s.length
  x509KeyPair _ _ := none
  parseURL := parsePlainURL
  lookupPort s := match parseInt 32 s with
    | some n => .ok n
    | none => .error (.new "unknown port")
  formatDuration d := toString d
  scaleFloat s mult := (parseInt 64 s).map (· * mult)

/-! ## Examples -/

/-- A cluster in Sentinel mode with three Redis and three Sentinel pods. -/
def clusterNamed (name : String) : KeyValCluster where
  name
  ns := "prod"
  spec := { mode := .sentinel, redisReplicas := 3, sentinelCount := some 3 }

/-- The cluster `a` in Sentinel mode. -/
def clusterA : KeyValCluster := clusterNamed "a"

/-- The cluster `a` in standalone mode. -/
def soloA : KeyValCluster where
  name := "a"
  ns := "prod"
  spec := { mode := .standalone, redisReplicas := 1 }

/-- A ready pod. -/
def readyPod (name : String) : Pod where
  name
  ns := "prod"
  conditions := [{ type := "Ready", isTrue := true }]

/-! ## Redis and Sentinel -/

/-- Selected fields of `INFO replication`. -/
structure ReplicationInfo where
  role : String := ""
  masterHost : String := ""
  masterPort : Int := 0
  masterLinkStatus : String := ""
  masterLastIOSecondsAgo : Int := 0
  masterSyncInProgress : Bool := false
  masterReplOffset : Int := 0
  replicaReplOffset : Int := 0
  slavePriority : Int := 0
  deriving DecidableEq, Repr

/-- Resolved authentication and TLS settings. -/
structure Settings where
  authEnabled : Bool := false
  username : String := ""
  password : String := ""
  authSecretName : String := ""
  authSecretKey : String := ""
  authResourceVersion : String := ""
  tlsEnabled : Bool := false
  tlsSecretName : String := ""
  caCertKey : String := ""
  certKey : String := ""
  keyKey : String := ""
  requireClientAuth : Bool := false
  disablePlaintext : Bool := false
  tlsResourceVersion : String := ""
  caBundle : String := ""
  /-- The client certificate and its key. -/
  clientCertificate : Option (String × String) := none
  deriving DecidableEq

/-- The `tls.Config` of a connection to an external source. -/
structure TLSConfig where
  serverName : String := ""
  insecureSkipVerify : Bool := false
  rootCAs : Option String := none
  certificate : Option (String × String) := none
  deriving DecidableEq

end Keyval
