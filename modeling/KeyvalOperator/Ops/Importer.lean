import KeyvalOperator.Api.Op
import KeyvalOperator.Core.Naming

/-!
# External import

`ops/importer`: `ensure` imports the data of an external Redis into the bootstrap pod before the
cluster is reconciled. It attaches the pod to the source, waits until the pod is in sync and then
promotes it (mode Snapshot) or follows the source (mode Live); `finalizeImport` promotes the pod
when the source is removed from the spec.
-/

namespace Keyval.Importer

open Go Interact

def importStatePending : String := "Pending"
def importStateInProgress : String := "InProgress"
def importStateFollowing : String := "Following"
def importStateCompleted : String := "Completed"
def importStateFailed : String := "Failed"

structure Options where
  cluster : KeyValCluster
  spec : Option ExternalSourceSpec := none
  currentStatus : Option ExternalImportStatus := none
  pods : List Pod := []
  sentinelPods : List Pod := []
  /-- Whether the client factory and the Kubernetes client are set. -/
  clientFactory : Bool := true
  kubeClient : Bool := true

structure ImportResult where
  status : Option ExternalImportStatus
  condition : ConditionState
  requeueAfter : Duration := 0
  abort : Bool := true
  deriving DecidableEq

abbrev Outcome := ImportResult × Option Error

/-- A condition `False` with the result so far. -/
def waiting (status : Option ExternalImportStatus) (reason message : String)
    (requeueAfter : Duration := 0) : ImportResult where
  status
  condition := ⟨.false, reason, message⟩
  requeueAfter

/-- A condition `True`, with which the reconcile goes on. -/
def done (status : Option ExternalImportStatus) (reason message : String) : ImportResult where
  status
  condition := ⟨.true, reason, message⟩
  abort := false

/-! ## The source -/

structure ExternalConfig where
  host : String
  port : Int
  db : Int := 0
  username : String := ""
  password : String := ""
  tlsConfig : Option TLSConfig := none
  deriving DecidableEq

/-- `host:port`. -/
def ExternalConfig.addr (cfg : ExternalConfig) : String := cfg.host ++ ":" ++ toString cfg.port

section
variable (F : Formats)

/-- The port of an address, 6379 if it has none. -/
def addressPort (address : String) (u : URL) : Result Int :=
  if u.port = "" then .ok 6379
  else match F.lookupPort u.port with
    | .ok port => .ok port
    | .error e => .error (.wrap ("address " ++ quote address ++ " invalid port") e)

/-- The database of an address, 0 if its path is not the number of one. -/
def addressDB (u : URL) : Int :=
  match parseInt 64 (trimChar u.path '/') with
  | some val => if 0 ≤ val then val else 0
  | none => 0

/-- The part of `buildExternalConfig` that reads the address: host, port, database, credentials. -/
def parseAddress (spec : ExternalSourceSpec) : Result ExternalConfig :=
  let address := trimSpace spec.address
  if address = "" then .error (.new "external source address is empty")
  else match F.parseURL address with
    | .error e => .error (.wrap ("parse address " ++ quote address) e)
    | .ok u =>
      if u.hostname = "" then .error (.new ("address " ++ quote address ++ " missing host"))
      else match addressPort F address u with
        | .error e => .error e
        | .ok port => .ok {
            host := u.hostname
            port
            db := addressDB u
            username := trimSpace (u.user.getD "")
            password := if u.user.isSome then u.password.getD "" else "" }

def readSecretKey (ns : String) (sel : SecretKeySelector) : M (Result String) :=
  if sel.name = "" ∨ sel.key = "" then return .error (.new "secret selector missing name or key")
  else do
    match ← ask (.getSecret ns sel.name) with
    | .error e => return .error (.wrap ("get secret " ++ quote sel.name) e)
    | .ok secret =>
      match secret.data.lookup sel.key with
      | none =>
        return .error (.new ("secret " ++ quote sel.name ++ " missing key " ++ quote sel.key))
      | some val => return .ok val

/-- The key of an optional selector; a failure is reported under a text. -/
def readOptional (ns : String) (sel : Option SecretKeySelector) (text : String) :
    M (Result (Option String)) :=
  match sel with
  | none => return .ok none
  | some sel => do
    match ← readSecretKey ns sel with
    | .error e => return .error (.wrap text e)
    | .ok val => return .ok (some val)

/-- The credentials of the spec replace those of the address. -/
def readCredentials (ns : String) (auth : Option ExternalSourceAuthSpec) (cfg : ExternalConfig) :
    M (Result ExternalConfig) :=
  match auth with
  | none => return .ok cfg
  | some auth => do
    match ← readOptional ns auth.usernameSecretRef "read username secret" with
    | .error e => return .error e
    | .ok user =>
      match ← readOptional ns auth.passwordSecretRef "read password secret" with
      | .error e => return .error e
      | .ok pass =>
        return .ok { cfg with
          username := (user.map trimSpace).getD cfg.username
          password := pass.getD cfg.password }

def readKeyPair (ns : String) (certRef keyRef : SecretKeySelector) (config : TLSConfig) :
    M (Result TLSConfig) := do
  match ← readSecretKey ns certRef with
  | .error e => return .error (.wrap "read tls client certificate" e)
  | .ok certData =>
    match ← readSecretKey ns keyRef with
    | .error e => return .error (.wrap "read tls client key" e)
    | .ok keyData =>
      match F.x509KeyPair certData keyData with
      | some e => return .error (.wrap "parse tls client key pair" e)
      | none => return .ok { config with certificate := some (certData, keyData) }

def readClientCertificate (ns : String) (tls : ExternalSourceTLSSpec) (config : TLSConfig) :
    M (Result TLSConfig) :=
  match tls.clientCertSecretRef, tls.clientKeySecretRef with
  | none, none => return .ok config
  | some certRef, some keyRef => readKeyPair F ns certRef keyRef config
  | _, _ => return .error (.new "tls client certificate and key must both be provided")

def readCertificates (ns : String) (tls : ExternalSourceTLSSpec) (config : TLSConfig) :
    M (Result TLSConfig) := do
  match ← readOptional ns tls.caBundleSecretRef "read tls ca bundle" with
  | .error e => return .error e
  | .ok ca =>
    match ca with
    | none => readClientCertificate F ns tls config
    | some data =>
      if ¬ F.appendCertsFromPEM data then
        return .error (.new "parse tls ca bundle: invalid pem")
      else readClientCertificate F ns tls { config with rootCAs := some data }

/-- The connection uses TLS, by the scheme of the address or by the spec. -/
def useTLS (spec : ExternalSourceSpec) : Bool :=
  hasPrefix (toLower spec.address) "rediss://" || (spec.tls.map (·.enabled)).getD false

def buildTLSConfig (ns : String) (spec : ExternalSourceSpec) (serverName : String) :
    M (Result (Option TLSConfig)) :=
  if ¬ useTLS spec then return .ok none
  else
    let config : TLSConfig := {
      serverName := if (F.parseIP serverName).isNone then serverName else "" }
    match spec.tls with
    | none => return .ok (some config)
    | some tls => do
      match ← readCertificates F ns tls { config with insecureSkipVerify := tls.insecureSkipVerify }
        with
      | .error e => return .error e
      | .ok config => return .ok (some config)

def buildExternalConfig (ns : String) (spec : ExternalSourceSpec) : M (Result ExternalConfig) :=
  match parseAddress F spec with
  | .error e => return .error e
  | .ok cfg => do
    match ← readCredentials ns spec.auth cfg with
    | .error e => return .error e
    | .ok cfg =>
      match ← buildTLSConfig F ns spec cfg.host with
      | .error e => return .error e
      | .ok tlsConfig => return .ok { cfg with tlsConfig }

end

def ensureExternalReachable (cfg : ExternalConfig) : M (Option Error) := do
  match ← ask (.pingExternal cfg.addr cfg.username cfg.password cfg.db cfg.tlsConfig) with
  | .ok () => return none
  | .error e => return some (.wrap ("ping external redis " ++ cfg.addr) e)

/-! ## The bootstrap pod -/

/-- The pod with the lowest ordinal. -/
def selectBootstrapPod (pods : List Pod) : Option Pod :=
  (pods.insertionSort fun a b => ordinal a.name ≤ ordinal b.name).head?

def configureMasterAuth (pod username password : String) : M (Option Error) := do
  match ← ask (.configSet pod "masteruser" username) with
  | .error e => return some e
  | .ok () =>
    match ← ask (.configSet pod "masterauth" password) with
    | .error e => return some e
    | .ok () => return none

def clearMasterAuth (pod : String) : M (Option Error) := do
  match ← ask (.configSet pod "masterauth" "") with
  | .error e => return some e
  | .ok () =>
    match ← ask (.configSet pod "masteruser" "") with
    | .error e => return some e
    | .ok () => return none

/-! ## Readiness -/

structure ReadinessSnapshot where
  redisReady : Bool
  sentinelReady : Bool
  redisReadyCount : Int
  redisDesired : Int
  sentinelReadyCount : Int := 0
  sentinelDesired : Int := 0

def readyCount (pods : List Pod) : Int :=
  (pods.countP fun p => p.deletionTimestamp.isNone && isPodReady p : Nat)

def snapshotReadiness (cr : KeyValCluster) (pods sentinelPods : List Pod) : ReadinessSnapshot :=
  let desired := if cr.spec.redisReplicas ≤ 0 then (pods.length : Int) else cr.spec.redisReplicas
  let count := readyCount pods
  let ready : ReadinessSnapshot := {
    redisDesired := desired
    redisReadyCount := count
    redisReady := desired ≤ count && 0 < desired
    sentinelReady := true }
  if cr.spec.mode ≠ .sentinel then ready
  else
    let want := cr.spec.sentinelCount.getD 0
    let want := if want ≤ 0 then (sentinelPods.length : Int) else want
    let count := readyCount sentinelPods
    { ready with
      sentinelDesired := want
      sentinelReadyCount := count
      sentinelReady := if 0 < want then want ≤ count else true }

/-! ## Import -/

/-- The 64-bit distance of two offsets. -/
def diff64 (a b : Int) : Int := if b < a then wrap64 (a - b) else wrap64 (b - a)

/-- The pod replicates from the source. -/
def attached (cfg : ExternalConfig) (info : ReplicationInfo) : Bool :=
  equalFold info.masterHost cfg.host && info.masterPort = cfg.port

/-- The pod is in sync with its master. -/
def inSync (info : ReplicationInfo) : Bool :=
  toLower info.masterLinkStatus = "up" && !info.masterSyncInProgress &&
    diff64 info.masterReplOffset info.replicaReplOffset ≤ 1024

def recordFailure (reason message : String) : M Unit :=
  ask (.event (.externalImportFailed ("reason=" ++ reason ++ " " ++ message)))

def recordAttempt (detail : String) : M Unit := ask (.event (.externalImportStarted detail))

def recordSuccess (mode : String) : M Unit :=
  ask (.event (.externalImportCompleted ("mode=" ++ mode)))

def syncMode (spec : ExternalSourceSpec) : SyncMode := spec.syncMode.getD .snapshot

/-- The status is of another source or mode. -/
def stateReset (spec : ExternalSourceSpec) (prev : ExternalImportStatus) : Bool :=
  prev.source ≠ spec.address || prev.mode ≠ (syncMode spec).str

/-- The status that `ensure` starts from. -/
def startStatus (spec : ExternalSourceSpec) (prev : ExternalImportStatus) : ExternalImportStatus :=
  let status := { prev with
    state := if stateReset spec prev then "" else prev.state
    source := spec.address
    mode := (syncMode spec).str }
  if status.state = "" then
    { status with
      state := importStatePending
      startedAt := none
      lastSynced := none
      message := "external import pending" }
  else status

/-- The message of a status, or a text when it has none. -/
def messageOr (status : ExternalImportStatus) (text : String) : String :=
  if status.message = "" then text else status.message

section
variable (F : Formats) (opts : Options) (spec : ExternalSourceSpec) (cfg : ExternalConfig)
  (pod : Pod) (prev : ExternalImportStatus)

/-- The end of a snapshot import: the pod is promoted. -/
def promote (status : ExternalImportStatus) : M Outcome := do
  match ← ask (.noOne pod.name) with
  | .error e =>
    return (waiting (some status) "Promote" ("replicaof no one: " ++ e.msg),
      some (.wrapTransient (.wrap "replicaof no one" e)))
  | .ok () =>
    -- a failure to clear the credentials is only logged
    let _ ← clearMasterAuth pod.name
    let now ← ask .now
    let message := "external import completed from " ++ cfg.addr
    recordSuccess (syncMode spec).str
    return (done
      (some { status with state := importStateCompleted, lastSynced := some now, message })
      "Completed" message, none)

/-- The steady state of a live import. -/
def follow (status : ExternalImportStatus) : M Outcome := do
  let ready := snapshotReadiness opts.cluster opts.pods opts.sentinelPods
  if ¬ ready.redisReady ∨ ¬ ready.sentinelReady then
    return (waiting (some status) "WaitingForReadiness"
      ("replica in sync; waiting for readiness redis " ++ toString ready.redisReadyCount ++ "/" ++
        toString ready.redisDesired ++ ", sentinel " ++ toString ready.sentinelReadyCount ++ "/" ++
        toString ready.sentinelDesired) (5 * second), none)
  else
    let now ← ask .now
    let message := "replicating from " ++ cfg.addr ++ "; awaiting manual cutover"
    return (waiting (some { status with
        state := importStateFollowing, lastSynced := some now, message })
      "Following" message (10 * second), none)

/-- The decision on the pod's replication, as it was before the pod was attached. -/
def evaluateSync (info : ReplicationInfo) (status : ExternalImportStatus) : M Outcome :=
  if ¬ inSync info then
    return (waiting (some status) "Syncing"
      ("syncing from " ++ cfg.addr ++ ": link=" ++ info.masterLinkStatus ++ " offsetDelta=" ++
        toString (diff64 info.masterReplOffset info.replicaReplOffset)) (5 * second), none)
  else if syncMode spec = .live then follow opts cfg status
  else promote spec cfg pod status

/-- The longest initial sync. -/
def maxDuration : Duration :=
  match spec.maxInitialSyncDuration with
  | some d => if 0 < d then d else 30 * minute
  | none => 30 * minute

/-- The import is in its initial sync. -/
def initialPhase : Bool :=
  stateReset spec prev || prev.state = "" || prev.state = importStatePending ||
    prev.state = importStateInProgress

/-- The time limit of the initial sync. -/
def limitDuration (info : ReplicationInfo) (startedAt : Time) (status : ExternalImportStatus) :
    M Outcome := do
  let now ← ask .now
  if maxDuration spec < timeSub now startedAt ∧
      ¬ (syncMode spec = .live ∧ ¬ initialPhase spec prev) then
    let message := "external import timed out after " ++ F.formatDuration (maxDuration spec)
    recordFailure "timeout" message
    return (waiting (some { status with state := importStateFailed, message }) "Timeout" message,
      none)
  else evaluateSync opts spec cfg pod info status

def start (info : ReplicationInfo) (status : ExternalImportStatus) : M Outcome := do
  if prev.state ≠ importStateInProgress then
    let now ← ask .now
    let message := "replicating from " ++ cfg.addr ++ " (" ++ (syncMode spec).str ++ " mode)"
    recordAttempt ("address=" ++ cfg.addr)
    limitDuration F opts spec cfg pod prev info now
      { status with startedAt := some now, state := importStateInProgress, message }
  else
    match status.startedAt with
    | some startedAt => limitDuration F opts spec cfg pod prev info startedAt status
    | none =>
      let now ← ask .now
      limitDuration F opts spec cfg pod prev info now { status with startedAt := some now }

/-- Attach the pod to the source; `INFO` is read before. -/
def attach (status : ExternalImportStatus) : M Outcome := do
  match ← ask (.replicationInfo pod.name) with
  | .error e =>
    return (waiting (some status) "ReplicationInfo" ("query replication info: " ++ e.msg),
      some (.wrapTransient (.wrap "replication info" e)))
  | .ok info =>
    if attached cfg info then start F opts spec cfg pod prev info status
    else
      match ← ensureExternalReachable cfg with
      | some e =>
        return (waiting (some status) "SourceUnavailable" e.msg (5 * second),
          some (.wrapTransient e))
      | none =>
        match ← ask (.replicaOf pod.name cfg.host cfg.port) with
        | .error e =>
          return (waiting (some status) "ReplicaOf" ("replicaof " ++ cfg.addr ++ ": " ++ e.msg),
            some (.wrapTransient (.wrap ("replicaof " ++ cfg.addr) e)))
        | .ok () => start F opts spec cfg pod prev info status

/-- The part of `ensure` with a client of the ready bootstrap pod and an empty or unchecked
target. -/
def importInto (status : ExternalImportStatus) : M Outcome := do
  if status.state = importStateCompleted then
    return (done (some status) "Completed"
      (messageOr status ("external import completed from " ++ cfg.addr)), none)
  else if status.state = importStateFailed then
    return (waiting (some status) "Failed"
      (messageOr status "external import previously failed"), none)
  else
    match ← configureMasterAuth pod.name cfg.username cfg.password with
    | some e =>
      return (waiting (some status) "MasterAuth" e.msg,
        some (.wrapTransient (.wrap "configure master auth" e)))
    | none => attach F opts spec cfg pod prev status

/-- A pending import stops when the target has keys. -/
def checkTarget (status : ExternalImportStatus) : M Outcome := do
  if status.state = importStatePending ∧ spec.abortIfExistingData.getD true then
    match ← ask (.dbSize pod.name) with
    | .error e =>
      return (waiting (some status) "DBSize" ("query dbsize: " ++ e.msg),
        some (.wrapTransient (.wrap "dbsize" e)))
    | .ok size =>
      if 0 < size then
        let message := "target already contains " ++ toString size ++ " keys"
        recordFailure "target_not_empty" message
        return (waiting (some { status with state := importStateFailed, message }) "TargetNotEmpty"
          message, none)
      else importInto F opts spec cfg pod prev status
  else importInto F opts spec cfg pod prev status

end

section
variable (F : Formats) (opts : Options)

/-- The end of an import whose source was removed from the spec. -/
def cutover (prev : ExternalImportStatus) : M Outcome := do
  match selectBootstrapPod opts.pods with
  | none =>
    return (waiting (some prev) "WaitingForPods"
      "waiting for bootstrap pod to detach from external source" (5 * second), none)
  | some pod =>
    if ¬ opts.clientFactory then
      return (waiting (some prev) "MissingDependency" "redis client factory not configured",
        some (.wrapFatal (.new "redis client factory not configured")))
    else
      match ← ask (.redisForPod pod.name) with
      | .error e =>
        return (waiting (some prev) "ClientInit" ("create redis client: " ++ e.msg),
          some (.wrapTransient (.wrap ("redis client for " ++ pod.name) e)))
      | .ok () =>
        match ← ask (.noOne pod.name) with
        | .error e =>
          return (waiting (some prev) "Promote" ("replicaof no one: " ++ e.msg),
            some (.wrapTransient (.wrap "replicaof no one" e)))
        | .ok () =>
          let _ ← clearMasterAuth pod.name
          let now ← ask .now
          let message := "external import cutover executed, promoted " ++ pod.name
          recordSuccess (if prev.mode = "" then SyncMode.snapshot.str else prev.mode)
          return (done (some { prev with
              state := importStateCompleted, lastSynced := some now, message })
            "Completed" message, none)

def finalizeImport (prev : ExternalImportStatus) : M Outcome :=
  if prev.state = "" ∨ prev.state = importStatePending then
    return (done none "Disabled" "external import not configured", none)
  else if prev.state = importStateCompleted then
    return (done (some prev) "Completed" (messageOr prev "external import completed"), none)
  else if prev.state = importStateFailed then
    return ({ waiting (some prev) "Failed" (messageOr prev "external import previously failed") with
      abort := false }, none)
  else cutover opts prev

/-- `ensure` with a source in the spec. -/
def ensureSource (spec : ExternalSourceSpec) (prev : ExternalImportStatus) : M Outcome := do
  if ¬ opts.clientFactory then
    return (waiting (some prev) "MissingDependency" "redis client factory not configured",
      some (.wrapFatal (.new "redis client factory not configured")))
  else if ¬ opts.kubeClient then
    return (waiting (some prev) "MissingDependency" "kube client not configured",
      some (.wrapFatal (.new "kube client not configured")))
  else
    let status := startStatus spec prev
    match ← buildExternalConfig F opts.cluster.ns spec with
    | .error e => return (waiting (some status) "Config" e.msg, some (.wrapFatal e))
    | .ok cfg =>
      match selectBootstrapPod opts.pods with
      | none =>
        return (waiting (some status) "WaitingForPods" "no redis pods available for bootstrap"
          (5 * second), none)
      | some pod =>
        if ¬ isPodReady pod then
          return (waiting (some status) "PodNotReady" ("pod " ++ pod.name ++ " not Ready")
            (5 * second), none)
        else
          match ← ask (.redisForPod pod.name) with
          | .error e =>
            return (waiting (some status) "ClientInit" ("create redis client: " ++ e.msg),
              some (.wrapTransient (.wrap ("redis client for " ++ pod.name) e)))
          | .ok () => checkTarget F opts spec cfg pod prev status

/-- Import the data of the source, or end the import when there is no source any more. -/
def ensure : M Outcome :=
  match opts.spec with
  | none => finalizeImport opts (opts.currentStatus.getD {})
  | some spec => ensureSource F opts spec (opts.currentStatus.getD {})

end

end Keyval.Importer
