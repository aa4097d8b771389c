import KeyvalOperator.Api.Types

/-!
# Master cache

`ops/replication/master_cache`: the master of each cluster for a bounded time. The clock readings of
`Lookup` and `Remember` are parameters, as is the entry that makes room in a full cache, the first
one in Go's map order.
-/

namespace Keyval.Replication

open Go

/-- The cluster of an entry. -/
structure MasterCacheKey where
  ns : String
  name : String
  deriving DecidableEq

structure CacheEntry where
  master : String
  detail : String
  expires : Time
  deriving DecidableEq

structure MasterAddressCache where
  ttlDuration : Duration
  maxEntries : Int
  entries : Finmap fun _ : MasterCacheKey => CacheEntry

def newMasterAddressCache (ttl : Duration) (maxEntries : Int) : MasterAddressCache where
  ttlDuration := if ttl ≤ 0 then 200 * millisecond else ttl
  maxEntries := if maxEntries ≤ 0 then 128 else maxEntries
  entries := ∅

def cacheKeyForCluster (cr : KeyValCluster) : MasterCacheKey := ⟨cr.ns, cr.name⟩

namespace MasterAddressCache

variable (c : MasterAddressCache) (now : Time) (key : MasterCacheKey)

/-- The master and the detail of the entry; an entry that has expired is deleted. -/
def lookup : Option (String × String) × MasterAddressCache :=
  match c.entries.lookup key with
  | none => (none, c)
  | some entry =>
    if entry.expires < now then (none, { c with entries := c.entries.erase key })
    else (some (entry.master, entry.detail), c)

/-- An empty master is not stored; in a full cache the entry of the key `first` makes room. -/
def remember (master detail : String) (first : MasterCacheKey) : MasterAddressCache :=
  if master = "" then c
  else
    let entries := if c.maxEntries ≤ c.entries.keys.card then c.entries.erase first else c.entries
    { c with entries := entries.insert key ⟨master, detail, now + c.ttlDuration⟩ }

def invalidate : MasterAddressCache := { c with entries := c.entries.erase key }

end MasterAddressCache

end Keyval.Replication
