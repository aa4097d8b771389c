import KeyvalOperator.Api.Types

/-!
# The Redis client

`clients/redis`: how a reply to `INFO replication` is read.
-/

namespace Keyval.Clients

open Go

/-- The body of the loop over the lines of a reply. -/
def parseInfoLine (out : Map String) (line : String) : Map String :=
  let line := trimSpace line
  if line = "" ∨ hasPrefix line "#" then out
  else match cut line ':' with
    | some (key, val) => if key ≠ "" then out.insert (trimSpace key) (trimSpace val) else out
    | none => out

def parseInfoMap (info : String) : Map String := (split info '\n').foldl parseInfoLine ∅

/-- A field that is a number; zero when it is missing or cannot be read. -/
def intField (fields : Map String) (key : String) : Int :=
  let v := Map.str fields key
  if v ≠ "" then (parseInt 64 v).getD 0 else 0

/-- The role that a server reports. -/
def roleField (fields : Map String) : String :=
  let v := Map.str fields "role"
  if v = "slave" ∨ v = "replica" then "replica" else v

def replicationFields (fields : Map String) : ReplicationInfo where
  role := roleField fields
  masterHost := Map.str fields "master_host"
  masterPort := intField fields "master_port"
  masterLinkStatus := Map.str fields "master_link_status"
  masterLastIOSecondsAgo := intField fields "master_last_io_seconds_ago"
  masterSyncInProgress := Map.str fields "master_sync_in_progress" = "1"
  masterReplOffset := intField fields "master_repl_offset"
  replicaReplOffset := intField fields "slave_repl_offset"
  slavePriority := intField fields "slave_priority"

/-- `ReplicationInfo`, for the text of the server. -/
def replicationInfo (raw : String) : ReplicationInfo := replicationFields (parseInfoMap raw)

end Keyval.Clients
