import KeyvalOperator.Phases.Runtime
import KeyvalOperator.Resources.StatefulSet

/-!
# Workloads phase

The Redis StatefulSet, with the replica count of the spec, and in Sentinel mode the Sentinel
StatefulSet are applied, and their pods are listed. A conflict with another field manager aborts the
reconcile after the status has been written.
-/

namespace Keyval.Phases

open Go Interact

def conditionReconciled : String := "Reconciled"

def sentinelDesiredCount (cr : KeyValCluster) : Int :=
  match cr.spec.sentinelCount with
  | some n => if 0 < n then n else 3
  | none => 3

/-! ## Refused applies -/

structure ApplyConflict where
  manager : String := ""
  field : String := ""
  message : String
  deriving DecidableEq

/-- `detectStatefulSetApplyConflict`: the first message and field among the causes, and what the
message says of the manager and the field. -/
def detectStatefulSetApplyConflict (F : Formats) (e : Error) : Option ApplyConflict :=
  if e.reason ≠ .conflict then none
  else
    let message := match e.causes.find? (trimSpace ·.message ≠ "") with
      | some c => trimSpace c.message
      | none => trimSpace e.msg
    let field := ((e.causes.find? (·.field ≠ "")).map (·.field)).getD ""
    let found := F.conflictRegex message
    let manager := (found.map (·.1)).getD ""
    let field := if field = "" then (found.map (·.2)).getD "" else field
    if message = "" then none
    else some { manager := trimSpace manager, field := trimSpace field, message }

def formatApplyConflictMessage (name : String) (c : ApplyConflict) : String :=
  String.intercalate ": " <|
    ["StatefulSet " ++ name ++ " apply conflict"] ++
    (if c.field = "" then [] else ["field " ++ c.field]) ++
    (if c.manager = "" then [] else ["owned by field manager \"" ++ c.manager ++ "\""]) ++
    (if c.message = "" then [] else [c.message]) ++
    ["release the conflicting manager or reapply with --force-conflicts"]

def containsImmutableHint (message : String) : Bool :=
  lowerContains message "immutable" || lowerContains message "updates to statefulset spec"

def isSentinelImmutableCause (c : StatusCause) : Bool :=
  (["spec.serviceName", "spec.selector", "spec.volumeClaimTemplates"].any fun p =>
    hasPrefix c.field p) || containsImmutableHint c.message

/-- `detectSentinelImmutableCause`: the field and the message. -/
def detectSentinelImmutableCause (e : Error) : Option (String × String) :=
  if e.reason ≠ .invalid then none
  else
    match e.causes.find? isSentinelImmutableCause with
    | some c =>
      some (if c.field = "" then "spec" else c.field, if c.message = "" then e.msg else c.message)
    | none => if containsImmutableHint e.msg then some ("spec", e.msg) else none

def formatSentinelImmutableMessage (field detail : String) : String :=
  let base := "Sentinel StatefulSet field " ++ (if field = "" then "spec" else field) ++
    " is immutable"
  if trimSpace detail = "" then base else base ++ ": " ++ trimSpace detail

/-- The state of a reconcile that an apply conflict aborts. -/
def abortOnConflict (st : State) (name text : String) (c : ApplyConflict) (e : Error) : State :=
  { st with
    conditionOverrides := st.conditionOverrides.insert conditionReconciled
      ⟨.false, "ApplyConflict", formatApplyConflictMessage name c⟩
    abortDirective := some (some (.wrapFatal (.wrap text e))) }

/-! ## Phase -/

def listStatefulSetPods (ss : StatefulSet) : M (Result (List Pod)) :=
  ask (.listPods ss.ns ss.matchLabels)

/-- The delay while there are no pods. -/
def awaitPods (st : State) : M State :=
  if st.redisPods = [] ∧ 0 < st.cluster.spec.redisReplicas then do
    let backoff ← ask (.backoff (2 * second))
    return st.requeueAfter (if 0 < backoff then backoff else 2 * second)
  else return st

def listSentinelPods (st : State) : M (State × Option Error) := do
  match ← listStatefulSetPods (sentinelStatefulSet st.cluster) with
  | .error e => return (st, some (.wrapTransient (.wrap "list sentinel pods" e)))
  | .ok pods =>
    return (({ st with sentinelPods := pods }).requeueIf
      ((pods.length : Int) < sentinelDesiredCount st.cluster) (2 * second), none)

def applySentinel (F : Formats) (st : State) : M (State × Option Error) := do
  let ss := sentinelStatefulSet st.cluster
  match ← ask (.getStatefulSet ss.ns ss.name) with
  | .error e =>
    if e.reason ≠ .notFound then
      return (st, some (.wrapTransient (.wrap "get sentinel statefulset" e)))
    else applyIt ss
  | .ok _ => applyIt ss
where
  applyIt (ss : StatefulSet) : M (State × Option Error) := do
    match ← ask (.applyStatefulSet ss) with
    | .ok () => listSentinelPods st
    | .error e =>
      match detectStatefulSetApplyConflict F e with
      | some c =>
        ask (.event (.applyConflict "sentinel" c.manager c.field c.message))
        return (abortOnConflict st ss.name "apply sentinel statefulset conflict" c e, none)
      | none =>
        match detectSentinelImmutableCause e with
        | some (field, detail) =>
          ask (.event (.applyImmutableField "sentinel" field detail))
          listSentinelPods { st with
            conditionOverrides := st.conditionOverrides.insert conditionReconciled
              ⟨.false, "ImmutableField", formatSentinelImmutableMessage field detail⟩ }
        | none =>
          ask (.event (.applyFailed "sentinel" e))
          return (st, some (.wrapTransient (.wrap "apply sentinel statefulset" e)))

/-- The Redis pods after the apply, and the Sentinel StatefulSet. -/
def listRedisPods (F : Formats) (st : State) : M (State × Option Error) := do
  match ← listStatefulSetPods (redisStatefulSet st.cluster) with
  | .error e => return (st, some (.wrapTransient (.wrap "list pods" e)))
  | .ok pods =>
    let st ← awaitPods { st with redisPods := pods }
    if st.cluster.spec.mode = .sentinel then applySentinel F st else return (st, none)

/-- The apply of the Redis StatefulSet; `prevTLSHash` is the TLS hash of the existing one. -/
def applyRedis (F : Formats) (st : State) (prevTLSHash : String) : M (State × Option Error) := do
  let ss := redisStatefulSet st.cluster
  event (st.tlsHash ≠ "" ∧ prevTLSHash ≠ st.tlsHash ∧ st.settings.tlsSecretName ≠ "")
    (.tlsSecretRotated "redis" st.settings.tlsSecretName prevTLSHash st.tlsHash)
  match ← ask (.applyStatefulSet ss) with
  | .ok () => listRedisPods F st
  | .error e =>
    match detectStatefulSetApplyConflict F e with
    | some c =>
      ask (.event (.applyConflict "redis" c.manager c.field c.message))
      return (abortOnConflict st ss.name "apply redis statefulset conflict" c e, none)
    | none =>
      ask (.event (.applyFailed "redis" e))
      return (st, some (.wrapTransient (.wrap "apply statefulset" e)))

def workloads (F : Formats) (st : State) : M (State × Option Error) := do
  let ss := redisStatefulSet st.cluster
  match ← ask (.getStatefulSet ss.ns ss.name) with
  | .ok existing =>
    applyRedis F st (Map.str existing.templateAnnotations tlsSecretHashAnnotationKey)
  | .error e =>
    if e.reason ≠ .notFound then
      return (st, some (.wrapTransient (.wrap "get statefulset" e)))
    else applyRedis F st ""

end Keyval.Phases
