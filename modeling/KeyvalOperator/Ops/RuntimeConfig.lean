import KeyvalOperator.Resources.Config
import KeyvalOperator.Resources.StatefulSet

/-!
# Runtime configuration

`ops/runtimeconfig`: the configuration of running pods is aligned with the spec without a restart.
`ApplyRedisRuntime` first reads every parameter of every pod and gives up when one of them needs a
restart; only then does it set the parameters that differ, and at last it annotates the pods with
the hash of the configuration. `ApplySentinelRuntime` aligns three options by `SENTINEL SET`.
-/

namespace Keyval.RuntimeConfig

open Go Interact Interact.Prog Resources Replication

inductive Mode
  | skipped
  | noChange
  | applied
  | needsRestart
  | failed
  deriving DecidableEq, Repr

/-- `runtimeconfig.Result`. -/
structure RuntimeResult where
  component : String
  mode : Mode
  changedKeys : List String := []
  message : String := ""
  err : Option Error := none
  requeueAfter : Duration := 0
  deriving DecidableEq

/-- `Result{Component: component}.withError(err, msg)`. -/
def withError (component : String) (err : Error) (msg : String) : RuntimeResult where
  component := component
  mode := .failed
  err := some err
  message := if msg ≠ "" then msg else err.msg

/-- The failure of a request, with the request as its message. -/
def requestFailed (component request : String) (e : Error) : RuntimeResult :=
  withError component (.wrapTransient (.wrap request e)) request

def redisRuntimeAllow : List String :=
  ["maxmemory", "maxmemory-policy", "maxmemory-samples", "lfu-log-factor", "lfu-decay-time",
    "repl-timeout", "repl-backlog-size", "repl-backlog-ttl", "tcp-keepalive", "hz",
    "stream-node-max-bytes", "stream-node-max-entries"]

def sentinelRuntimeAllow : List String :=
  ["down-after-milliseconds", "failover-timeout", "parallel-syncs"]

/-! ## Values -/

/-- The bytes of a memory unit, by its suffix. -/
def memoryUnit (suffix : String) : Option Int :=
  if suffix ∈ ["", "b"] then some 1
  else if suffix ∈ ["k", "kb"] then some 1024
  else if suffix ∈ ["m", "mb"] then some (1024 ^ 2)
  else if suffix ∈ ["g", "gb"] then some (1024 ^ 3)
  else if suffix ∈ ["t", "tb"] then some (1024 ^ 4)
  else if suffix ∈ ["p", "pb"] then some (1024 ^ 5)
  else none

/-- A number of bytes: a number, or a number and a unit. -/
def parseRedisMemory (F : Formats) (v : String) : Option Int :=
  let v := trimSpace (toLower v)
  if v = "" then some 0
  else
    match parseInt 64 v with
    | some n => some n
    | none =>
      let rev := v.toList.reverse
      let numPart := (rev.dropWhile (! ·.isDigit)).reverse
      let suffix := (rev.takeWhile (! ·.isDigit)).reverse
      if numPart = [] then none
      else (memoryUnit (trimSpace (String.ofList suffix))).bind
        (F.scaleFloat (trimSpace (String.ofList numPart)))

def normalizeRedisValue (F : Formats) (key value : String) : String :=
  let trimmed := trimSpace value
  if key ∈ ["maxmemory", "repl-backlog-size", "stream-node-max-bytes"] then
    match parseRedisMemory F trimmed with
    | some n => toString n
    | none => trimmed
  else if key = "save" ∧ (trimmed = "\"\"" ∨ trimmed = "''") then ""
  else trimmed

/-- The value that a directive asks for, as it is sent to the server. -/
def desiredRaw (desired : Map String) (key : String) : String := trimSpace (Map.str desired key)

/-- The value that `CONFIG GET` reports and the desired one differ. -/
def Differs (F : Formats) (desired : Map String) (key : String) (current : Option String) : Prop :=
  normalizeRedisValue F key (trimSpace (current.getD "")) ≠
    normalizeRedisValue F key (desiredRaw desired key)

instance (F : Formats) (desired : Map String) (key : String) (current : Option String) :
    Decidable (Differs F desired key current) :=
  inferInstanceAs (Decidable (_ ≠ _))

/-! ## Discovery -/

/-- The outcome for a parameter that differs and cannot be set at run time. -/
def restartFor (key : String) : RuntimeResult where
  component := "redis"
  mode := .needsRestart
  message := if key ≠ "" then "redis parameter " ++ key ++ " requires restart"
    else "redis config change requires restart"

/-- The changes of a pod and the keys that change in any pod. -/
structure Pending where
  changes : Map String := ∅
  changedKeys : Map Unit := ∅

/-- The body of the loop over the parameters. -/
def compareKey (F : Formats) (desired : Map String) (pod : String) (pending : Pending)
    (key : String) : M (Pending × Option RuntimeResult) := do
  match ← ask (.configGet pod key) with
  | .error e => return (pending, some (requestFailed "redis" ("CONFIG GET " ++ key) e))
  | .ok current =>
    if ¬ Differs F desired key current then return (pending, none)
    else if key ∉ redisRuntimeAllow then return (pending, some (restartFor key))
    else return ({
      changes := pending.changes.insert key (desiredRaw desired key)
      changedKeys := pending.changedKeys.insert key () }, none)

/-- The changes of each pod and the keys that change in any pod. -/
structure Discovery where
  perPodChanges : Map (Map String) := ∅
  changedKeys : Map Unit := ∅

/-- The body of the first loop over the pods. -/
def discoverPod (F : Formats) (desired : Map String) (d : Discovery) (pod : Pod) :
    M (Discovery × Option RuntimeResult) := do
  match ← ask (.redisForPod pod.name) with
  | .error e => return (d, some (requestFailed "redis" ("redis client for " ++ pod.name) e))
  | .ok () =>
    match ← forErr (compareKey F desired pod.name) desired.sortedKeys
        { changedKeys := d.changedKeys } with
    | (_, some res) => return (d, some res)
    | (pending, none) =>
      return ({
        perPodChanges := if pending.changes = ∅ then d.perPodChanges
          else d.perPodChanges.insert pod.name pending.changes
        changedKeys := pending.changedKeys }, none)

/-! ## Writes -/

def isReadOnlyConfigRewrite (e : Error) : Bool :=
  lowerContains e.msg "read-only file system" ||
    (lowerContains e.msg "rewriting config file" && lowerContains e.msg "err")

def collectChangedKeys (changed : Map Unit) : List String := changed.sortedKeys

/-- The outcome of a `CONFIG REWRITE` that cannot write the file. -/
def rewriteRestart (changed : Map Unit) : RuntimeResult :=
  let keys := collectChangedKeys changed
  { component := "redis"
    mode := .needsRestart
    changedKeys := keys
    message := if keys ≠ [] then
        "redis config rewrite requires restart (" ++ ",".intercalate keys ++ ")"
      else "redis config rewrite requires restart" }

/-- The body of the loop over the changes of a pod. -/
def setKey (pod : String) (changes : Map String) (_ : Unit) (key : String) :
    M (Unit × Option RuntimeResult) := do
  match ← ask (.configSet pod key (Map.str changes key)) with
  | .error e => return ((), some (requestFailed "redis" ("CONFIG SET " ++ key) e))
  | .ok () => return ((), none)

def rewriteConfig (d : Discovery) (pod : String) : M (Unit × Option RuntimeResult) := do
  match ← ask (.configRewrite pod) with
  | .ok () => return ((), none)
  | .error e =>
    if isReadOnlyConfigRewrite e then return ((), some (rewriteRestart d.changedKeys))
    else return ((), some (requestFailed "redis" ("CONFIG REWRITE " ++ pod) e))

/-- The body of the second loop over the pods. -/
def applyPod (d : Discovery) (_ : Unit) (pod : Pod) : M (Unit × Option RuntimeResult) := do
  let changes := (d.perPodChanges.lookup pod.name).getD ∅
  if changes = ∅ then return ((), none)
  else
    match ← ask (.redisForPod pod.name) with
    | .error e => return ((), some (requestFailed "redis" ("redis client for " ++ pod.name) e))
    | .ok () =>
      let order ← ask (.rangeOrder changes.sortedKeys)
      match ← forErr (setKey pod.name changes) order.val () with
      | (_, some res) => return ((), some res)
      | (_, none) => rewriteConfig d pod.name

/-! ## Annotations -/

def annotated (hash : String) (p : Pod) : Pod :=
  { p with annotations := p.annotations.insert configHashAnnotationKey hash }

/-- The loop of `patchConfigHashAnnotations`. The annotation is set in the map of the listed pod, so
that it stays there also when the patch fails, unless the pod had no annotations. -/
def patchPods (hash : String) : List Pod → M (List Pod × Option Error)
  | [] => return ([], none)
  | pod :: rest => do
    if Map.str pod.annotations configHashAnnotationKey = hash then
      let (rest, err) ← patchPods hash rest
      return (pod :: rest, err)
    else
      match ← ask (.patchPodAnnotations pod.ns pod.name
          ((∅ : Map String).insert configHashAnnotationKey hash)) with
      | .error e =>
        let pod' := if pod.annotations = ∅ then pod else annotated hash pod
        return (pod' :: rest, some (.wrap ("patch pod " ++ pod.name ++ " annotation") e))
      | .ok () =>
        let (rest, err) ← patchPods hash rest
        return (annotated hash pod :: rest, err)

def patchConfigHashAnnotations (hash : String) (pods : List Pod) : M (List Pod × Option Error) :=
  if hash = "" then return (pods, none) else patchPods hash pods

/-! ## Redis -/

def redisResult (mode : Mode) (message : String) : RuntimeResult :=
  { component := "redis", mode, message }

/-- The end of `ApplyRedisRuntime` when every pod is in sync. -/
def finishInSync (pods : List Pod) (hash : String) : M (RuntimeResult × List Pod) := do
  let (pods, err) ← patchConfigHashAnnotations hash pods
  match err with
  | some e => return (requestFailed "redis" "patch redis pod annotations" e, pods)
  | none => return (redisResult .noChange "redis config already in sync", pods)

/-- The end of `ApplyRedisRuntime` after the changes. -/
def finishApplied (d : Discovery) (pods : List Pod) (hash : String) :
    M (RuntimeResult × List Pod) := do
  let (pods, err) ← patchConfigHashAnnotations hash pods
  match err with
  | some e => return (withError "redis" e "patch redis pod annotations", pods)
  | none =>
    let keys := collectChangedKeys d.changedKeys
    ask (.event (.runtimeConfigApplied "redis" keys))
    return ({ redisResult .applied ("redis runtime config applied: " ++ ",".intercalate keys) with
      changedKeys := keys }, pods)

/-- The writes of `ApplyRedisRuntime`. -/
def applyChanges (d : Discovery) (pods : List Pod) (hash : String) :
    M (RuntimeResult × List Pod) := do
  if d.perPodChanges = ∅ then finishInSync pods hash
  else
    match ← forErr (applyPod d) pods () with
    | (_, some res) => return (res, pods)
    | (_, none) => finishApplied d pods hash

/-- `ApplyRedisRuntime`: the outcome, and the pods with the annotations that it leaves. -/
def applyRedisRuntime (F : Formats) (factory : Bool) (cr : KeyValCluster) (pods : List Pod)
    (desiredHash : String) (sec : Settings) : M (RuntimeResult × List Pod) := do
  if ¬ factory then return (redisResult .skipped "redis client factory unavailable", pods)
  else if pods = [] then return (redisResult .noChange "no redis pods", pods)
  else if ¬ pods.all isPodReady then
    return ({ redisResult .skipped "redis pods not ready" with requeueAfter := 5 * second }, pods)
  else
    match clientTLSConfig F sec with
    | some e =>
      let what := "build tls client config"
      return (withError "redis" (.wrapFatal (.wrap what e)) what, pods)
    | none =>
      match ← forErr (discoverPod F (effectiveRedisConfig cr sec)) pods {} with
      | (_, some res) => return (res, pods)
      | (d, none) => applyChanges d pods desiredHash

/-! ## Sentinel -/

def sentinelResult (mode : Mode) (message : String) : RuntimeResult :=
  { component := "sentinel", mode, message }

/-- The value of an option in `sentinel.conf`. -/
def desiredOption (cr : KeyValCluster) (sec : Settings) (option : String) : String :=
  Map.str (effectiveSentinelConfig cr sec) ("sentinel " ++ option)

/-- The options whose values differ from the spec. -/
def pendingOptions (cr : KeyValCluster) (sec : Settings) (info : Map String) : List String :=
  sentinelRuntimeAllow.filter fun option =>
    trimSpace (Map.str info option) ≠ trimSpace (desiredOption cr sec option)

def setOption (cr : KeyValCluster) (sec : Settings) (pod : String) (_ : Unit) (option : String) :
    M (Unit × Option RuntimeResult) := do
  match ← ask (.sentinelSet pod cr.name option (desiredOption cr sec option)) with
  | .error e => return ((), some (requestFailed "sentinel" ("SENTINEL SET " ++ option) e))
  | .ok () => return ((), none)

/-- The options that differ are set in the Sentinel that was asked. -/
def setOptions (cr : KeyValCluster) (sec : Settings) (pod : String) (info : Map String) :
    M RuntimeResult := do
  let pending := pendingOptions cr sec info
  if pending = [] then return sentinelResult .noChange "sentinel config already in sync"
  else
    let order ← ask (.rangeOrder pending)
    match ← forErr (setOption cr sec pod) order.val () with
    | (_, some res) => return res
    | (_, none) =>
      let keys := pending.insertionSort (· ≤ ·)
      ask (.event (.runtimeConfigApplied "sentinel" keys))
      return { sentinelResult .applied
          ("sentinel runtime config applied: " ++ ",".intercalate keys) with
        changedKeys := keys }

/-- `ApplySentinelRuntime`: only the first Sentinel is asked. -/
def applySentinelRuntime (F : Formats) (factory : Bool) (cr : KeyValCluster)
    (sentinelPods : List Pod) (sec : Settings) : M RuntimeResult :=
  if cr.spec.mode ≠ .sentinel then return sentinelResult .noChange "sentinel mode disabled"
  else if ¬ factory then return sentinelResult .skipped "sentinel factory unavailable"
  else
    match sentinelPods with
    | [] => return sentinelResult .skipped "no sentinel pods"
    | first :: _ => do
      if ¬ sentinelPods.all isPodReady then
        return { sentinelResult .skipped "sentinel pods not ready" with
          requeueAfter := 5 * second }
      else
        match clientTLSConfig F sec with
        | some e =>
          let what := "build tls client config"
          return withError "sentinel" (.wrapFatal (.wrap what e)) what
        | none =>
          match ← ask (.sentinelForPod first.name) with
          | .error e => return requestFailed "sentinel" "get sentinel client" e
          | .ok () =>
            match ← ask (.sentinelMaster first.name cr.name) with
            | .error e =>
              return { sentinelResult .skipped ("query sentinel master state: " ++ e.msg) with
                requeueAfter := 5 * second }
            | .ok info => setOptions cr sec first.name info

end Keyval.RuntimeConfig
