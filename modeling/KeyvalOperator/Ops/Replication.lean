import KeyvalOperator.Api.Op
import KeyvalOperator.Core.Naming
import KeyvalOperator.Ops.Health

/-!
# Replication topology

`ops/replication`: `ensureTopology` finds the master (cached, forced, named by Sentinel, or found
by probing the pods) and `ensureWithMaster` enforces it: pod by pod in name order, the designated
master gets `REPLICAOF NO ONE` unless it looks like a master, every other pod `REPLICAOF` unless
it looks aligned.

A Go function that returns a value and an error returns a pair with `Option Error`; one that
returns a usable value only without error returns a `Result`.
-/

namespace Keyval.Replication

open Go Interact

/-! ## Retry -/

/-- `runtime.Retry` with `more` attempts after the first: the context is checked before each
attempt and during each wait. -/
def retryFrom {α : Type} (fn : M (Result α)) : Nat → M (Result α)
  | 0 => do
    match ← ask .ctxErr with
    | some e => return .error e
    | none => fn
  | more + 1 => do
    match ← ask .ctxErr with
    | some e => return .error e
    | none =>
      match ← fn with
      | .ok a => return .ok a
      | .error _ =>
        match ← ask .ctxErr with
        | some e => return .error e
        | none => retryFrom fn more

def retry {α : Type} (attempts : Nat) (fn : M (Result α)) : M (Result α) :=
  retryFrom fn (attempts - 1)

/-! ## Requests and results -/

inductive EnsureSource
  | unknown
  | sentinel
  | probe
  | forced
  | cache
  deriving DecidableEq, Repr

structure EnsureRequest where
  cluster : KeyValCluster
  redisPods : List Pod
  sentinelPods : List Pod := []
  /-- Whether `Factory`, `SentinelFactory` and `MasterCache` are set. -/
  factory : Bool := true
  sentinelFactory : Bool := false
  masterCache : Bool := false
  security : Option Settings := none
  forceMaster : String := ""
  forceReason : String := ""

structure EnsureResult where
  changed : Bool := false
  master : String := ""
  roles : Map PodRole := ∅
  infos : Map ReplicationInfo := ∅
  drift : List String := []
  pending : List String := []
  source : EnsureSource := .unknown
  reason : String := ""
  deriving DecidableEq

structure EnsureOptions where
  username : String := ""
  password : String := ""
  threshold : Int := 5
  deriving DecidableEq

/-! ## Credentials -/

/-- `security.ResolveAuth`. -/
def resolveAuth (cr : KeyValCluster) (sec : Option Settings) : String × String :=
  let fromConfig : String × String :=
    if Map.str cr.spec.redisConfig "requirepass" ≠ "" then
      ("", Map.str cr.spec.redisConfig "requirepass")
    else if Map.str cr.spec.redisConfig "masterauth" ≠ "" then
      ("", Map.str cr.spec.redisConfig "masterauth")
    else ("", "")
  match sec with
  | some s => if s.authEnabled then (s.username, s.password) else fromConfig
  | none => fromConfig

/-- The error of `Settings.ClientTLSConfig`. -/
def clientTLSConfig (F : Formats) (s : Settings) : Option Error :=
  if ¬ s.tlsEnabled then none
  else if s.caBundle = "" then some (.new "tls enabled but ca bundle empty")
  else if ¬ F.appendCertsFromPEM s.caBundle then some (.new "failed to parse TLS CA bundle")
  else none

def isWrongPassError (e : Error) : Bool := upperContains e.msg "WRONGPASS"

/-- One attempt of `maybeAuth`: the user, then the default user when the password is wrong. -/
def authUsers (pod password : String) : List String → M (Result Unit)
  | [] => return .ok ()
  | user :: rest => do
    match ← ask (.auth pod user password) with
    | .ok () => return .ok ()
    | .error e =>
      if ¬ isWrongPassError e ∨ rest = [] then return .error e
      else authUsers pod password rest

def maybeAuth (pod : String) (opts : EnsureOptions) : M (Result Unit) :=
  if opts.password = "" then return .ok ()
  else
    retry 2 (authUsers pod opts.password
      (if opts.username ≠ "" then [opts.username, ""] else [opts.username]))

/-! ## Hosts -/

/-- The pod that a host names by its first label. -/
def matchPodByHost (pods : List Pod) (host : String) : String :=
  match cutByte host '.' with
  | some name => if name ∈ pods.map (·.name) then name else ""
  | none => ""

def hostMatchesMaster (host masterName masterIP : String) (pods : List Pod) : Bool :=
  if host = "" then false
  else if host = masterName then true
  else if masterIP ≠ "" ∧ host = masterIP then true
  else matchPodByHost pods host = masterName

/-- The replica is in place; the lag threshold is passed and not used. -/
def replicaAligned (info : ReplicationInfo) (_threshold : Int) : Bool :=
  equalFold info.role "replica" && info.masterHost ≠ "" &&
    (info.masterLinkStatus = "" || equalFold info.masterLinkStatus "up" ||
      equalFold info.masterLinkStatus "ok") &&
    !info.masterSyncInProgress

def hasRedisPod (pods : List Pod) (name : String) : Bool :=
  name ≠ "" && pods.any (·.name = name)

def selectorEquals (a b : Map String) : Bool := Map.equal a b

def sanitizeEnsureReason (reason : String) : String :=
  let text := String.intercalate " " (fields reason)
  if 200 < text.toList.length then String.ofList (text.toList.take 200) ++ "…" else text

/-! ## Enforcing a master -/

/-- One poll of `waitForReplicaSync`; `next` is what follows a poll that does not end the wait. -/
def waitPoll (pod : String) (threshold : Int)
    (next : ReplicationInfo → Option Error → M (ReplicationInfo × Option Error))
    (lastInfo : ReplicationInfo) (lastErr : Option Error) : M (ReplicationInfo × Option Error) := do
  match ← ask .ctxErr with
  | some e => return (lastInfo, some (lastErr.getD e))
  | none =>
    match ← ask (.replicationInfo pod) with
    | .ok info => if replicaAligned info threshold then return (info, none) else next info none
    | .error e => next lastInfo (some e)

/-- The loop of `waitForReplicaSync`: after this poll, so many more end before the deadline. -/
def waitPolls (pod : String) (threshold : Int) :
    Nat → ReplicationInfo → Option Error → M (ReplicationInfo × Option Error)
  | 0 => waitPoll pod threshold fun lastInfo lastErr =>
    return (lastInfo, some (lastErr.getD (.new "replication sync timeout")))
  | more + 1 => waitPoll pod threshold fun lastInfo lastErr => do
    match ← ask .ctxErr with
    | some e => return (lastInfo, some (lastErr.getD e))
    | none => waitPolls pod threshold more lastInfo lastErr

def waitForReplicaSync (pod : String) (opts : EnsureOptions) :
    M (ReplicationInfo × Option Error) := do
  let polls ← ask .polls
  waitPolls pod opts.threshold polls {} none

section
variable (cr : KeyValCluster) (pods : List Pod) (opts : EnsureOptions) (masterName : String)

/-- The address replicas are pointed to: the master's pod IP, else its DNS name. -/
def masterHost : String :=
  let ip := ((pods.find? (·.name = masterName)).map (·.podIP)).getD ""
  if ip = "" then podDNSName cr masterName else ip

/-- `INFO` shows a replica of the master that needs no command. -/
def looksAligned (info : ReplicationInfo) : Bool :=
  equalFold info.role "replica" &&
    hostMatchesMaster info.masterHost masterName (masterHost cr pods masterName) pods &&
    (info.masterPort = 0 || info.masterPort = redisPort cr) &&
    replicaAligned info opts.threshold

/-- The loop body of `ensureWithMaster` on the designated master, after its `INFO`. A failed `INFO`
counts as a master. -/
def ensureMaster (res : EnsureResult) (pod : String) (reply : Result ReplicationInfo) :
    M (EnsureResult × Option Error) := do
  let info := match reply with
    | .ok info => info
    | .error _ => { role := "master" }
  if info.role = "master" then
    return ({ res with
      roles := res.roles.insert pod .master
      infos := res.infos.insert pod info }, none)
  else
    match ← retry 3 (ask (.noOne pod)) with
    | .error e => return (res, some (.wrapTransient (.wrap ("promote master " ++ pod) e)))
    | .ok () =>
      return ({ res with
        changed := true
        drift := res.drift ++ [pod]
        roles := res.roles.insert pod .master
        infos := res.infos.insert pod { info with role := "master", masterHost := "" } }, none)

/-- The info recorded for a replica. -/
def replicaInfo (info : ReplicationInfo) : ReplicationInfo :=
  if info.role = "" then { info with role := "replica" } else info

/-- The result with a pod handled as a replica. -/
def EnsureResult.addReplica (res : EnsureResult) (pod : String) (info : ReplicationInfo) :
    EnsureResult :=
  { res with
    roles := res.roles.insert pod .replica
    infos := res.infos.insert pod (replicaInfo info) }

/-- `REPLICAOF` and the wait that follows it. -/
def alignReplica (res : EnsureResult) (pod : String) : M (EnsureResult × Option Error) := do
  let host := masterHost cr pods masterName
  let port := redisPort cr
  match ← retry 3 (ask (.replicaOf pod host port)) with
  | .error e =>
    return (res, some (.wrapTransient
      (.wrap ("replica " ++ pod ++ " replicaof " ++ host ++ ":" ++ toString port) e)))
  | .ok () =>
    let (info, waitErr) ← waitForReplicaSync pod opts
    let pending := if waitErr.isSome then res.pending ++ [pod] else res.pending
    return (({ res with changed := true, drift := res.drift ++ [pod], pending }).addReplica
      pod info, none)

/-- The loop body of `ensureWithMaster` on a pod that is not the designated master, after its
`INFO`. -/
def ensureReplica (res : EnsureResult) (pod : String) (reply : Result ReplicationInfo) :
    M (EnsureResult × Option Error) :=
  match reply with
  | .ok info =>
    if looksAligned cr pods opts masterName info then return (res.addReplica pod info, none)
    else alignReplica cr pods opts masterName res pod
  | .error _ => alignReplica cr pods opts masterName res pod

/-- The loop body of `ensureWithMaster`. -/
def ensurePod (res : EnsureResult) (p : Pod) : M (EnsureResult × Option Error) := do
  match ← ask (.redisForPod p.name) with
  | .error e => return (res, some (.wrapTransient (.wrap ("client for pod " ++ p.name) e)))
  | .ok () =>
    match ← maybeAuth p.name opts with
    | .error e => return (res, some (.wrapTransient (.wrap ("auth pod " ++ p.name) e)))
    | .ok () =>
      let reply ← ask (.replicationInfo p.name)
      if p.name = masterName then ensureMaster res p.name reply
      else ensureReplica cr pods opts masterName res p.name reply

end

/-- The master to enforce: the given one, or the first pod by name. -/
def designated (pods : List Pod) (masterName : String) : String :=
  if masterName = "" then (((sortedPodsByName pods).head?).map (·.name)).getD "" else masterName

def ensureWithMaster (cr : KeyValCluster) (pods : List Pod) (masterName : String)
    (opts : EnsureOptions) : M (EnsureResult × Option Error) :=
  if pods = [] then return ({ master := masterName }, some (.new "no pods provided"))
  else
    let masterName := designated pods masterName
    Prog.forErr (ensurePod cr pods opts masterName) (sortedPodsByName pods)
      { master := masterName }

/-! ## Finding the master -/

/-- The loop of `resolveMasterViaSentinel` over the sorted Sentinel pods. -/
def resolveFrom (cr : KeyValCluster) (redisPods : List Pod) (errs : List Error) :
    List Pod → M (Result (String × String))
  | [] =>
    if errs = [] then return .error (.new "no sentinel pods available")
    else return .error (.join errs)
  | sp :: rest => do
    match ← ask (.sentinelForPod sp.name) with
    | .error e =>
      let err := Error.wrapTransient (.wrap ("sentinel client " ++ sp.name) e)
      resolveFrom cr redisPods (errs ++ [err]) rest
    | .ok () =>
      match ← ask (.getMasterAddrByName sp.name cr.name) with
      | .error e =>
        let err := Error.wrapTransient (.wrap ("sentinel " ++ sp.name ++ " get-master") e)
        resolveFrom cr redisPods (errs ++ [err]) rest
      | .ok (host, port) =>
        if host = "" then
          let err := Error.wrapFatal (.new ("sentinel " ++ sp.name ++ " returned empty host"))
          resolveFrom cr redisPods (errs ++ [err]) rest
        else
          let byName := matchPodByHost redisPods host
          let name := if byName = "" then
            ((redisPods.find? (·.podIP = host)).map (·.name)).getD "" else byName
          if name = "" then
            let err := Error.wrapFatal
              (.new ("sentinel " ++ sp.name ++ " host " ++ host ++ " not mapped to pod"))
            resolveFrom cr redisPods (errs ++ [err]) rest
          else return .ok (name, host ++ ":" ++ toString port)

def resolveMasterViaSentinel (cr : KeyValCluster) (redisPods sentinelPods : List Pod) :
    M (Result (String × String)) :=
  resolveFrom cr redisPods [] (sortedPodsByName sentinelPods)

/-- The loop body of `detectRoles`: the roles and the pods that report the role master. -/
def detectPod (opts : EnsureOptions) (s : Map PodRole × List String) (p : Pod) :
    M ((Map PodRole × List String) × Option Error) := do
  match ← ask (.redisForPod p.name) with
  | .error e => return (s, some (.wrapTransient (.wrap ("client for pod " ++ p.name) e)))
  | .ok () =>
    match ← maybeAuth p.name opts with
    | .error e => return (s, some (.wrapTransient (.wrap ("auth pod " ++ p.name) e)))
    | .ok () =>
      match ← retry 3 (ask (.role p.name)) with
      | .error e => return (s, some (.wrapTransient (.wrap ("role for pod " ++ p.name) e)))
      | .ok r =>
        if r = "master" then return ((s.1.insert p.name .master, s.2 ++ [p.name]), none)
        else return ((s.1.insert p.name .replica, s.2), none)

def detectRoles (pods : List Pod) (opts : EnsureOptions) : M (Result (String × Map PodRole)) := do
  if pods = [] then return .ok ("", ∅)
  match ← Prog.forErr (detectPod opts) (sortedPodsByName pods) (∅, []) with
  | (_, some e) => return .error e
  | ((roles, masters), none) =>
    match masters.insertionSort (· ≤ ·) with
    | [] => return .ok (designated pods "", roles)
    | m :: _ => return .ok (m, roles)

/-! ## The topology -/

def ensureByProbe (cr : KeyValCluster) (pods : List Pod) (opts : EnsureOptions) :
    M (EnsureResult × Option Error) := do
  match ← detectRoles pods opts with
  | .error e => return ({}, some e)
  | .ok (master, _) => ensureWithMaster cr pods master opts

section
variable (req : EnsureRequest) (opts : EnsureOptions)

/-- The cached master, when enforcing it succeeds; else the cache entry is dropped. -/
def ensureFromCache : M (Option EnsureResult) := do
  let cr := req.cluster
  if ¬ req.masterCache then return none
  match ← ask (.cacheLookup cr.ns cr.name) with
  | none => return none
  | some (candidate, detail) =>
    if hasRedisPod req.redisPods candidate then
      match ← ensureWithMaster cr req.redisPods candidate opts with
      | (result, none) =>
        return some { result with
          source := .cache
          reason := if result.reason = "" then detail else result.reason }
      | (_, some _) =>
        ask (.cacheInvalidate cr.ns cr.name)
        return none
    else
      ask (.cacheInvalidate cr.ns cr.name)
      return none

/-- `MasterCache.Remember` after a pass without error; an empty master is not stored. -/
def remember (master detail : String) (err : Option Error) : M Unit :=
  if err.isNone ∧ req.masterCache ∧ master ≠ "" then
    ask (.cacheRemember req.cluster.ns req.cluster.name master detail)
  else return

def ensureForced : M (EnsureResult × Option Error) := do
  let (result, err) ← ensureWithMaster req.cluster req.redisPods req.forceMaster opts
  let result := { result with source := .forced, reason := req.forceReason }
  remember req result.master result.reason err
  return (result, err)

/-- The master that Sentinel names and its address, or why there is none. -/
def masterFromSentinel : M (Except String (String × String)) := do
  let cr := req.cluster
  let desiredSelector := ((cr.spec.sentinelPod).map (·.nodeSelector)).getD ∅
  let ready := req.sentinelPods.countP fun p =>
    isPodReady p && selectorEquals p.nodeSelector desiredSelector
  if cr.spec.mode = .sentinel ∧ req.sentinelFactory ∧ req.sentinelPods ≠ [] then
    if ready = 0 then return .error "no ready sentinel pods"
    else
      match ← resolveMasterViaSentinel cr req.redisPods req.sentinelPods with
      | .ok (name, detail) => if name ≠ "" then return .ok (name, detail) else return .error ""
      | .error e => return .error (sanitizeEnsureReason e.msg)
  else return .error ""

/-- What `ensureTopology` does when the cache and the caller name no master. -/
def ensureResolved : M (EnsureResult × Option Error) := do
  match ← masterFromSentinel req with
  | .ok (name, detail) =>
    let (result, err) ← ensureWithMaster req.cluster req.redisPods name opts
    remember req name detail err
    return ({ result with source := .sentinel, reason := detail }, err)
  | .error sentinelFailure =>
    let (result, err) ← ensureByProbe req.cluster req.redisPods opts
    remember req result.master result.reason err
    return ({ result with
      source := .probe
      reason := if result.reason = "" then sentinelFailure else result.reason }, err)

end

/-- The credentials and the threshold of a request. -/
def EnsureRequest.options (req : EnsureRequest) : EnsureOptions where
  username := (resolveAuth req.cluster req.security).1
  password := (resolveAuth req.cluster req.security).2
  threshold := Health.lagThresholdSeconds req.cluster

def ensureTopology (F : Formats) (req : EnsureRequest) : M (EnsureResult × Option Error) := do
  if ¬ req.factory then return ({}, some (.new "client factory is nil"))
  if req.redisPods = [] then return ({}, some (.new "no pods provided"))
  match req.security.bind (clientTLSConfig F) with
  | some e => return ({}, some (.wrapFatal (.wrap "build tls client config" e)))
  | none =>
    match ← ensureFromCache req req.options with
    | some result => return (result, none)
    | none =>
      if req.forceMaster ≠ "" then ensureForced req req.options
      else ensureResolved req req.options

/-- `EnsureReplicationToMaster`: the topology with the given master, without cache and Sentinel. -/
def ensureReplicationToMaster (F : Formats) (cr : KeyValCluster) (pods : List Pod)
    (masterName : String) (sec : Option Settings) :
    M (Result (Bool × Map PodRole × Map ReplicationInfo)) := do
  let req : EnsureRequest :=
    { cluster := cr, redisPods := pods, forceMaster := masterName, security := sec }
  match ← ensureTopology F req with
  | (_, some e) => return .error e
  | (res, none) => return .ok (res.changed, res.roles, res.infos)

/-! ## Role labels -/

/-- A copy of the pods in which the pod `master` has the label master and every other the label
replica. -/
def updatePodRoleLabels (pods : List Pod) (master : String) : List Pod :=
  let out := pods.map fun p =>
    if p.role = PodRole.master.str ∧ p.name ≠ master then p.setRole PodRole.replica.str else p
  out.map fun p =>
    if p.name = master then p.setRole PodRole.master.str else p.setRole PodRole.replica.str

end Keyval.Replication
