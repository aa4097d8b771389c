import KeyvalOperator.Phases.Security

/-!
# The configuration files

`resources.EffectiveRedisConfig` and `resources.EffectiveSentinelConfig`: the directives of
`redis.conf` and `sentinel.conf`, from the defaults, the spec and the credentials and certificates
of the cluster. `resources.ConfigHash` digests the two files and the scripts next to them.
-/

namespace Keyval.Resources

open Go

def tlsMountPath : String := "/tls"

def effectiveRedisConfig (cr : KeyValCluster) (sec : Settings) : Map String :=
  let defaults := ((((∅ : Map String).insert "port" "6379").insert "dir" "/data").insert
    "save" "\"\"").insert "appendonly" "yes"
  -- a directive of the spec replaces a default
  let cfg := cr.spec.redisConfig ∪ defaults
  let cfg := if sec.authEnabled then
      let cfg := (cfg.insert "requirepass" sec.password).insert "masterauth" sec.password
      if sec.username ≠ "" then cfg.insert "masteruser" sec.username else cfg
    else cfg
  if sec.tlsEnabled then
    let port := toString (redisPort cr)
    let cfg := (((((cfg.insert "tls-port" port).insert
      "tls-cert-file" (pathJoin tlsMountPath sec.certKey)).insert
      "tls-key-file" (pathJoin tlsMountPath sec.keyKey)).insert
      "tls-ca-cert-file" (pathJoin tlsMountPath sec.caCertKey)).insert
      "tls-auth-clients" (if sec.requireClientAuth then "yes" else "no")).insert
      "tls-replication" "yes"
    if sec.disablePlaintext then cfg.insert "port" "0"
    else if Map.str cfg "port" = "" ∨ Map.str cfg "port" = "0" then cfg.insert "port" port
    else cfg
  else cfg

/-! ## Sentinel -/

/-- The keys of `sentinelConfig` and the directives that they set. -/
def sentinelDirectives : List (String × String) :=
  [("port", "port"), ("dir", "dir"), ("resolve-hostnames", "sentinel resolve-hostnames"),
    ("announce-hostnames", "sentinel announce-hostnames"),
    ("down-after-milliseconds", "sentinel down-after-milliseconds"),
    ("failover-timeout", "sentinel failover-timeout"),
    ("parallel-syncs", "sentinel parallel-syncs")]

def effectiveSentinelConfig (cr : KeyValCluster) (sec : Settings) : Map String :=
  let defaults := (((((((∅ : Map String).insert "port" "26379").insert "dir" "/data").insert
    "sentinel resolve-hostnames" "yes").insert "sentinel announce-hostnames" "yes").insert
    "sentinel down-after-milliseconds" "5000").insert "sentinel failover-timeout" "60000").insert
    "sentinel parallel-syncs" "1"
  let cfg := sentinelDirectives.foldl (fun cfg (key, target) =>
    let v := Map.str cr.spec.sentinelConfig key
    if v ≠ "" then cfg.insert target v else cfg) defaults
  let cfg := if sec.authEnabled then
      let cfg := (cfg.insert "requirepass" sec.password).insert "sentinel auth-pass" sec.password
      if sec.username ≠ "" then cfg.insert "sentinel auth-user" sec.username else cfg
    else cfg
  if sec.tlsEnabled then
    let port := toString (sentinelPort cr)
    let cfg := (((((cfg.insert "tls-port" port).insert
      "tls-cert-file" (pathJoin tlsMountPath sec.certKey)).insert
      "tls-key-file" (pathJoin tlsMountPath sec.keyKey)).insert
      "tls-ca-cert-file" (pathJoin tlsMountPath sec.caCertKey)).insert
      "tls-auth-clients" (if sec.requireClientAuth then "yes" else "no")).insert
      "tls-replication" "yes"
    if sec.disablePlaintext then cfg.insert "port" "0"
    else if Map.str cfg "port" = "" ∨ Map.str cfg "port" = "0" then cfg.insert "port" port
    else cfg
  else cfg

/-! ## Files -/

/-- The directive is written to `redis.conf`: the replication source is not. -/
def Rendered (key : String) : Prop := key ≠ "replicaof" ∧ key ≠ "slaveof"

instance (key : String) : Decidable (Rendered key) := inferInstanceAs (Decidable (_ ∧ _))

def renderKVConfig (m : Map String) : String :=
  String.join ((m.sortedKeys.filter Rendered).map fun k => k ++ " " ++ Map.str m k ++ "\n")

def buildRedisConfig (cr : KeyValCluster) (sec : Settings) : String :=
  let content := renderKVConfig (effectiveRedisConfig cr sec)
  let content := if content.toList.getLast? = some '\n' then content else content ++ "\n"
  content ++ "include /runtime-conf/role.conf\n"

def buildSentinelConfig (cr : KeyValCluster) (sec : Settings) : String :=
  let masterAddr := cr.name ++ "-0." ++ headlessName cr ++ "." ++ cr.ns ++ ".svc"
  let quorum : Int := match cr.spec.sentinelCount with
    | some n => if 0 < n then n / 2 + 1 else 1
    | none => 1
  let cfg := effectiveSentinelConfig cr sec
  let line (key : String) : String := key ++ " " ++ Map.str cfg key ++ "\n"
  -- a directive about the monitored master
  let masterLine (key : String) : String :=
    key ++ " " ++ cr.name ++ " " ++ Map.str cfg key ++ "\n"
  let unlessEmpty (key text : String) : String := if Map.str cfg key ≠ "" then text else ""
  "sentinel monitor " ++ cr.name ++ " " ++ masterAddr ++ " " ++ toString (redisPort cr) ++ " " ++
      toString quorum ++ "\n" ++
    line "port" ++ line "dir" ++ line "sentinel resolve-hostnames" ++
    line "sentinel announce-hostnames" ++ masterLine "sentinel down-after-milliseconds" ++
    masterLine "sentinel failover-timeout" ++ masterLine "sentinel parallel-syncs" ++
    unlessEmpty "sentinel auth-pass" (masterLine "sentinel auth-pass") ++
    unlessEmpty "sentinel auth-user" (masterLine "sentinel auth-user") ++
    unlessEmpty "requirepass" (line "requirepass") ++
    unlessEmpty "tls-port" (line "tls-port" ++
      String.join (["tls-cert-file", "tls-key-file", "tls-ca-cert-file", "tls-auth-clients",
        "tls-replication"].map fun key => unlessEmpty key (line key)))

/-- The texts of the scripts that are mounted next to the configuration. -/
structure Scripts where
  bootstrap : String := ""
  liveness : String := ""
  readiness : String := ""

/-- `resources.ConfigMap`: the files and the scripts, by their names. -/
def configMap (scripts : Scripts) (cr : KeyValCluster) (sec : Settings) : ConfigMap where
  name := configMapName cr
  ns := cr.ns
  labels := labelsFor cr
  data :=
    let data := (∅ : Map String).insert "redis.conf" (buildRedisConfig cr sec)
    let data := if cr.spec.mode = .sentinel then
        data.insert "sentinel.conf" (buildSentinelConfig cr sec)
      else data
    ((data.insert "bootstrap.sh" scripts.bootstrap).insert "liveness.sh" scripts.liveness).insert
      "readiness.sh" scripts.readiness

/-- `resources.ConfigHash`. -/
def configHash (F : Formats) (scripts : Scripts) (cr : KeyValCluster) (sec : Settings) : String :=
  let sentinel := if cr.spec.mode = .sentinel then buildSentinelConfig cr sec else ""
  Security.hexEncode (F.sha256 (buildRedisConfig cr sec ++ "\n--\n" ++ sentinel ++
    "\n--bootstrap\n" ++ scripts.bootstrap ++ "\n--liveness\n" ++ scripts.liveness ++
    "\n--readiness\n" ++ scripts.readiness ++
    (if sec.authEnabled then sec.authSecretName ++ sec.authResourceVersion else "") ++
    (if sec.tlsEnabled then sec.tlsSecretName ++ sec.tlsResourceVersion else "")))

end Keyval.Resources
