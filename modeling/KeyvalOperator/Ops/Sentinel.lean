import KeyvalOperator.Ops.Replication

/-!
# Controlled failover

`ops/sentinel`: `triggerFailover` asks the Sentinel pods in turn for a failover until one accepts,
polls that one for the master's address and enforces the topology with the master it names.
-/

namespace Keyval.Sentinel

open Go Interact Replication

/-- `ErrNoGoodSlave`. -/
def errNoGoodSlave : Error := { msg := "sentinel NOGOODSLAVE", noGoodSlave := true }

/-- The ready Sentinel pods by name, then the others. -/
def orderedSentinelCandidates (pods : List Pod) : List Pod :=
  let sorted := sortedPodsByName pods
  sorted.filter isPodReady ++ sorted.filter fun p => !isPodReady p

def failoverOnce (sentinel name : String) : M (Result Unit) := do
  match ← ask (.failover sentinel name) with
  | .ok () => return .ok ()
  | .error e =>
    if upperContains e.msg "NOGOODSLAVE" then return .error errNoGoodSlave
    else return .error e

def acceptFailover (name : String) (errs : List Error) : List Pod → M (Result String)
  | [] =>
    if errs = [] then return .error (.new "sentinel failover: no reachable sentinel candidates")
    else return .error (.wrapTransient (.wrap "sentinel failover" (.join errs)))
  | sp :: rest => do
    match ← ask (.sentinelForPod sp.name) with
    | .error e => acceptFailover name (errs ++ [.wrapTransient (.wrap sp.name e)]) rest
    | .ok () =>
      match ← retry 3 (failoverOnce sp.name name) with
      | .ok () => return .ok sp.name
      | .error e =>
        if e.noGoodSlave then return .error errNoGoodSlave
        else acceptFailover name (errs ++ [.wrapTransient (.wrap sp.name e)]) rest

def pollWait (next : M (Result (String × Int))) : M (Result (String × Int)) := do
  match ← ask .ctxErr with
  | some e => return .error e
  | none => next

/-- The polls of the master's address that start before the deadline: the first reply with a host
and a port is taken. -/
def pollMaster (sentinel name : String) : Nat → M (Result (String × Int))
  | 0 => return .error (.new "failed to obtain new master address from sentinel")
  | more + 1 => do
    match ← retry 3 (ask (.getMasterAddrByName sentinel name)) with
    | .ok (host, port) =>
      if host ≠ "" ∧ 0 < port then return .ok (host, port)
      else pollWait (pollMaster sentinel name more)
    | .error _ => pollWait (pollMaster sentinel name more)

/-- The pod of an address: by the first label of its name, or by its IP. -/
def podForHost (F : Formats) (pods : List Pod) (host : String) : Result String :=
  let byName := matchPodByHost pods host
  if byName ≠ "" then .ok byName
  else if (F.parseIP host).isNone then
    .error (.wrapFatal (.new ("cannot map sentinel host \"" ++ host ++ "\" to pod name")))
  else
    let byIP := ((pods.find? (·.podIP = host)).map (·.name)).getD ""
    if byIP ≠ "" then .ok byIP
    else .error (.wrapFatal
      (.new ("unable to determine new master pod for host \"" ++ host ++ "\"")))

def triggerFailover (F : Formats) (cr : KeyValCluster) (redisPods sentinelPods : List Pod)
    (sec : Option Settings) : M (Result (String × Map PodRole)) := do
  if cr.spec.mode ≠ .sentinel then
    return .error (.new "failover only supported in Sentinel mode")
  if redisPods = [] then return .error (.new "no pods provided")
  if sentinelPods = [] then return .error (.new "no sentinel pods available for failover")
  match sec.bind (clientTLSConfig F) with
  | some e => return .error (.wrapFatal (.wrap "build tls client config" e))
  | none =>
    match ← acceptFailover cr.name [] (orderedSentinelCandidates sentinelPods) with
    | .error e => return .error e
    | .ok sentinel =>
      let polls ← ask .polls
      match ← pollMaster sentinel cr.name polls with
      | .error e => return .error e
      | .ok (host, _) =>
        match podForHost F redisPods host with
        | .error e => return .error e
        | .ok masterName =>
          match ← ensureReplicationToMaster F cr redisPods masterName sec with
          | .error e =>
            return .error (.wrapTransient (.wrap ("ensure replication to " ++ masterName) e))
          | .ok (_, roles, _) => return .ok (masterName, roles)

end Keyval.Sentinel
