import KeyvalOperator.Reconcile.State

/-!
# Sentinel helpers

`reconcile/sentinel_helpers`: the tracker of quorum losses and resets, which lives in annotations of
the cluster, the quorum as the ready Sentinel pods report it, and the reset of one of them.
-/

namespace Keyval

open Go Interact

/-! ## Tracker -/

/-- The last quorum loss, the resets since then and the end of the cooldown, at second precision. -/
structure SentinelResetTracker where
  lossSince : Time := 0
  attempts : Int := 0
  cooldownUntil : Time := 0
  deriving DecidableEq

/-- Truncated to the second; the zero time stays. -/
def normalizeTimestamp (t : Time) : Time := if t = 0 then 0 else t - t % second

/-- A timestamp in an annotation; zero when it is missing or cannot be read. -/
def readTimestamp (F : Formats) (raw : String) : Time :=
  if raw ≠ "" then (F.parseTime .rfc3339 raw).getD 0 else 0

/-- A counter in an annotation; zero when it is missing, negative or cannot be read. -/
def readAttempts (raw : String) : Int :=
  if raw ≠ "" then ((parseInt 64 raw).filter (0 ≤ ·)).getD 0 else 0

def readSentinelResetTracker (F : Formats) (annotations : Map String) : SentinelResetTracker where
  lossSince := readTimestamp F (Map.str annotations annotationSentinelQuorumLossSince)
  attempts := readAttempts (Map.str annotations annotationSentinelClusterResetAttempts)
  cooldownUntil := readTimestamp F (Map.str annotations annotationSentinelClusterResetCooldown)

/-- Set an annotation, or delete it. -/
def annotateOrDelete (annotations : Map String) (key : String) (c : Prop) [Decidable c]
    (value : String) : Map String :=
  if c then annotations.insert key value else annotations.erase key

/-- The annotations with the tracker in them. -/
def trackerAnnotations (F : Formats) (annotations : Map String) (tracker : SentinelResetTracker) :
    Map String :=
  let lossSince := normalizeTimestamp tracker.lossSince
  let cooldownUntil := normalizeTimestamp tracker.cooldownUntil
  let attempts := if tracker.attempts < 0 then 0 else tracker.attempts
  let annotations := annotateOrDelete annotations annotationSentinelQuorumLossSince
    (lossSince ≠ 0) (F.formatTime .rfc3339 lossSince)
  let annotations := annotateOrDelete annotations annotationSentinelClusterResetAttempts
    (0 < attempts) (toString attempts)
  annotateOrDelete annotations annotationSentinelClusterResetCooldown
    (cooldownUntil ≠ 0) (F.formatTime .rfc3339 cooldownUntil)

/-- Write the tracker when it changed; when the patch fails the annotations stay as they were. -/
def writeSentinelResetTracker (F : Formats) (cr : KeyValCluster) (tracker : SentinelResetTracker) :
    M (KeyValCluster × Option Error) :=
  if readSentinelResetTracker F cr.annotations = tracker then return (cr, none)
  else do
    let annotations := trackerAnnotations F cr.annotations tracker
    match ← ask (.patchCluster cr.ns cr.name annotations cr.finalizers) with
    | .error e => return (cr, some e)
    | .ok () => return ({ cr with annotations }, none)

/-! ## Quorum -/

structure SentinelQuorumReport where
  healthy : Bool := false
  detail : String := ""
  ready : Nat := 0
  ok : Nat := 0
  noQuorum : Nat := 0
  deriving DecidableEq

/-- The first detail stays. -/
def SentinelQuorumReport.note (report : SentinelQuorumReport) (detail : String) :
    SentinelQuorumReport :=
  if report.detail = "" then { report with detail } else report

/-- The quorum as a Sentinel pod sees it, or the error of its client. -/
def askQuorum (cluster pod : String) : M (Result Bool) := do
  match ← ask (.sentinelForPod pod) with
  | .error e => return .error e
  | .ok () => ask (.checkQuorum pod cluster)

/-- Count the answer of a ready pod. -/
def countAnswer (pod : String) (report : SentinelQuorumReport) (errs : List Error) :
    Result Bool → SentinelQuorumReport × List Error
  | .error e =>
    let detail := pod ++ ": " ++ e.msg
    if upperContains e.msg "NOQUORUM" then
      ({ report with noQuorum := report.noQuorum + 1 }.note detail, errs)
    else (report.note detail, errs ++ [.wrap pod e])
  | .ok true => ({ report with ok := report.ok + 1 }, errs)
  | .ok false => (report.note ("sentinel " ++ pod ++ " reported quorum=0"), errs)

/-- The body of the loop over the pods. -/
def probeQuorum (cluster : String) (acc : SentinelQuorumReport × List Error) (pod : Pod) :
    M (SentinelQuorumReport × List Error) :=
  if isPodReady pod then do
    let answer ← askQuorum cluster pod.name
    return countAnswer pod.name { acc.1 with ready := acc.1.ready + 1 } acc.2 answer
  else return acc

/-- The report of the loop, judged by the quorum target. -/
def judgeQuorum (target : Int) (report : SentinelQuorumReport) (errs : List Error) :
    SentinelQuorumReport × Option Error :=
  if report.ready = 0 then ({ report with detail := "no ready sentinel pods" }, none)
  else
    let target := if target ≤ 0 then 1 else target
    let report :=
      if target ≤ report.ok then { report with healthy := true, detail := "" }
      else report.note ("sentinel quorum ok=" ++ toString report.ok ++ " ready=" ++
        toString report.ready ++ " target=" ++ toString target)
    (report, if errs = [] then none else some (.join errs))

def hasSentinelQuorum (cr : KeyValCluster) (sentinelPods : List Pod) (factory : Bool)
    (target : Int) : M (SentinelQuorumReport × Option Error) :=
  if ¬ factory then
    return ({ detail := "sentinel client not configured" }, some (.new "nil sentinel factory"))
  else if sentinelPods = [] then return ({ detail := "no sentinel pods available" }, none)
  else do
    let (report, errs) ← (sortedPodsByName sentinelPods).foldlM (probeQuorum cr.name) ({}, [])
    return judgeQuorum target report errs

/-! ## Reset -/

def resetPod (cluster pod : String) : M (Result Unit) := do
  match ← ask (.sentinelForPod pod) with
  | .error e => return .error e
  | .ok () => ask (.sentinelReset pod cluster)

/-- The first ready pod that accepts the reset. -/
def issueFrom (cluster : String) (errs : List Error) : List Pod → M (Result String)
  | [] =>
    if errs = [] then return .error (.new "no ready sentinel pod available for reset")
    else return .error (.wrapTransient (.wrap "sentinel reset failed" (.join errs)))
  | pod :: rest =>
    if isPodReady pod then do
      match ← resetPod cluster pod.name with
      | .error e => issueFrom cluster (errs ++ [.wrap pod.name e]) rest
      | .ok () => return .ok pod.name
    else issueFrom cluster errs rest

def issueSentinelReset (sentinelPods : List Pod) (cluster : String) : M (Result String) :=
  issueFrom cluster [] (sortedPodsByName sentinelPods)

end Keyval
