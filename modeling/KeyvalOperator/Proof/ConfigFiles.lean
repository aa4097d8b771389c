import KeyvalOperator.Lib.Directives
import KeyvalOperator.Resources.PodSpec

/-!
# What the servers read from the rendered files

`redis.conf` has an entry for each key of the configuration, `sentinel.conf` a fixed sequence of
entries. Values may have line breaks, and the keys of `redisConfig` are free texts, so an entry can
hold further directives. The files are read back as texts, by any grammar of lines.

* `givenConfig`: what the spec, the credentials and the certificates put into `redis.conf`.
* `noReplication_iff`: when the file has no replication directive.
-/

namespace Keyval.Resources

open Go Directives Directives.Grammar List

variable {key : String}

variable {G : Grammar} {name : String} {entries : List (String × String)} {e : String × String}

/-! ## Rendering -/

theorem settings_renderKVConfig (m : Map String) (rest : List Char) :
    G.settings name ((renderKVConfig m).toList ++ rest) =
      G.mapSettings name m Rendered ++ G.settings name rest := by
  have htext : (renderKVConfig m).toList = (m.sortedKeys.filter Rendered).flatMap fun key =>
      entry key (Map.str m key) ++ ['\n'] := by
    simp [renderKVConfig, String.toList_join, flatMap_map, entry]
  rw [htext, settings_flatMap, mapSettings]
  congr 1
  refine flatMap_congr fun key hkey => ?_
  have hmem : key ∈ m := Map.mem_sortedKeys.1 (mem_filter.1 hkey).1
  exact (if_pos hmem).symm

theorem settings_include (hname : name ≠ "include") :
    G.settings name "include /runtime-conf/role.conf\n".toList = [] := by
  have htext : "include /runtime-conf/role.conf\n".toList =
      entry "include" "/runtime-conf/role.conf" ++ '\n' :: [] := by decide
  rw [htext, settings_append, settings_entry_ne (by decide) hname.symm,
    further_of_notMem (by decide), settings_nil, append_nil]

theorem settings_buildRedisConfig (hname : name ≠ "include") (cr : KeyValCluster)
    (sec : Settings) : G.settings name (buildRedisConfig cr sec).toList =
      G.mapSettings name (effectiveRedisConfig cr sec) Rendered := by
  have hinclude := settings_include (G := G) hname
  dsimp only [buildRedisConfig]
  split
  · rw [String.toList_append, settings_renderKVConfig, hinclude, append_nil]
  · rw [String.toList_append, String.toList_append, append_assoc, settings_renderKVConfig]
    have hblank : G.settings name ("\n".toList ++ "include /runtime-conf/role.conf\n".toList) =
        [] := by
      rw [show "\n".toList ++ "include /runtime-conf/role.conf\n".toList =
        [] ++ '\n' :: "include /runtime-conf/role.conf\n".toList from rfl, settings_append,
        settings_nil, hinclude, append_nil]
    rw [hblank, append_nil]

/-! ## The TLS listener -/

section
variable (port : String) (sec : Settings) (cfg : Map String)

/-- The entries of the TLS listener added. -/
def withListener : Map String :=
  (((((cfg.insert "tls-port" port).insert
    "tls-cert-file" (pathJoin tlsMountPath sec.certKey)).insert
    "tls-key-file" (pathJoin tlsMountPath sec.keyKey)).insert
    "tls-ca-cert-file" (pathJoin tlsMountPath sec.caCertKey)).insert
    "tls-auth-clients" (if sec.requireClientAuth then "yes" else "no")).insert
    "tls-replication" "yes"

/-- The same, with TLS enabled only. -/
def withCertificates : Map String :=
  if sec.tlsEnabled then
    if sec.disablePlaintext then (withListener port sec cfg).insert "port" "0"
    else withListener port sec cfg
  else cfg

/-- The operator puts the port in place of one that would turn the plaintext listener off. -/
def settlePort : Map String :=
  if sec.tlsEnabled ∧ ¬ sec.disablePlaintext ∧
      (Map.str cfg "port" = "" ∨ Map.str cfg "port" = "0") then
    cfg.insert "port" port
  else cfg

/-- The plaintext port for a given one. -/
def portText (given : String) : String :=
  if sec.tlsEnabled then
    if sec.disablePlaintext then "0"
    else if given = "" ∨ given = "0" then port else given
  else given

end

/-- The keys of the TLS listener. -/
def listenerKeys : List String :=
  ["tls-port", "tls-cert-file", "tls-key-file", "tls-ca-cert-file", "tls-auth-clients",
    "tls-replication"]

section
variable {port : String} {sec : Settings} {cfg : Map String}

theorem withCertificates_union (port : String) (sec : Settings) (a b : Map String) :
    withCertificates port sec (a ∪ b) = withCertificates port sec a ∪ b := by
  unfold withCertificates withListener
  split_ifs <;> simp only [Finmap.insert_union]

theorem lookup_withListener (h : key ∉ listenerKeys) :
    (withListener port sec cfg).lookup key = cfg.lookup key := by
  simp only [listenerKeys, mem_cons, not_mem_nil, or_false, not_or] at h
  simp [withListener, Finmap.lookup_insert_of_ne, h]

theorem lookup_withCertificates (h : key ∉ listenerKeys) :
    (withCertificates port sec cfg).lookup key =
      if sec.tlsEnabled ∧ sec.disablePlaintext ∧ key = "port" then some "0"
      else cfg.lookup key := by
  unfold withCertificates
  by_cases htls : sec.tlsEnabled = true
  · by_cases hdisable : sec.disablePlaintext = true
    · by_cases hkey : key = "port"
      · subst hkey
        simp [htls, hdisable]
      · simp [htls, hdisable, hkey, Finmap.lookup_insert_of_ne, lookup_withListener h]
    · simp [htls, hdisable, lookup_withListener h]
  · simp [htls]

theorem lookup_settlePort (h : key ≠ "port") :
    (settlePort port sec cfg).lookup key = cfg.lookup key := by
  unfold settlePort
  split
  · exact Finmap.lookup_insert_of_ne _ h
  · rfl

theorem mem_settlePort (h : key ∈ cfg) : key ∈ settlePort port sec cfg := by
  unfold settlePort
  split
  · exact Finmap.mem_insert.2 (.inr h)
  · exact h

theorem lookup_withCertificates_listener (htls : sec.tlsEnabled = true) (h : key ∈ listenerKeys) :
    (withCertificates port sec cfg).lookup key = (withListener port sec ∅).lookup key := by
  have hlistener : (withListener port sec cfg).lookup key =
      (withListener port sec ∅).lookup key := by
    simp only [listenerKeys, mem_cons, not_mem_nil, or_false] at h
    rcases h with rfl | rfl | rfl | rfl | rfl | rfl <;>
      simp [withListener, Finmap.lookup_insert_of_ne]
  have hport : key ≠ "port" := by
    rintro rfl
    revert h
    decide
  unfold withCertificates
  rw [if_pos htls]
  split
  · rw [Finmap.lookup_insert_of_ne _ hport, hlistener]
  · exact hlistener

theorem lookup_withListener_tlsPort (port : String) (sec : Settings) (cfg : Map String) :
    (withListener port sec cfg).lookup "tls-port" = some port := by
  simp [withListener, Finmap.lookup_insert_of_ne]

theorem str_settlePort (port : String) (sec : Settings) (cfg : Map String) :
    Map.str (settlePort port sec (withCertificates port sec cfg)) "port" =
      portText port sec (Map.str cfg "port") := by
  have hbase : Map.str (withCertificates port sec cfg) "port" =
      if sec.tlsEnabled ∧ sec.disablePlaintext then "0" else Map.str cfg "port" := by
    rw [Map.str, lookup_withCertificates (by decide)]
    simp only [and_true]
    split <;> rfl
  unfold settlePort portText
  rw [hbase]
  by_cases htls : sec.tlsEnabled = true
  · by_cases hdisable : sec.disablePlaintext = true
    · simp [htls, hdisable, hbase]
    · simp only [htls, hdisable] at hbase ⊢
      by_cases hoff : Map.str cfg "port" = "" ∨ Map.str cfg "port" = "0"
      · simp [hoff]
      · simp [hoff, hbase]
  · simp [htls, hbase]

theorem portText_cases (sec : Settings) (given : String) (hport : '\n' ∉ port.toList) :
    (¬ (sec.tlsEnabled ∧ sec.disablePlaintext) ∧ portText port sec given = given) ∨
    '\n' ∉ (portText port sec given).toList ∧
      (sec.tlsEnabled ∧ sec.disablePlaintext ∨ '\n' ∉ given.toList) := by
  unfold portText
  split_ifs with htls hdisable hoff
  · exact .inr ⟨by decide, .inl ⟨htls, hdisable⟩⟩
  · refine .inr ⟨hport, .inr ?_⟩
    rcases hoff with rfl | rfl <;> decide
  · exact .inl ⟨fun h => hdisable h.2, rfl⟩
  · exact .inl ⟨fun h => htls h.1, rfl⟩

end

/-! ## What is given -/

/-- The entries for the password added. -/
def withCredentials (sec : Settings) (cfg : Map String) : Map String :=
  if sec.authEnabled then
    let cfg := (cfg.insert "requirepass" sec.password).insert "masterauth" sec.password
    if sec.username ≠ "" then cfg.insert "masteruser" sec.username else cfg
  else cfg

/-- The entries of every `redis.conf`. -/
def redisDefaults : Map String :=
  ((((∅ : Map String).insert "port" "6379").insert "dir" "/data").insert "save" "\"\"").insert
    "appendonly" "yes"

section
variable (cr : KeyValCluster) (sec : Settings)

/-- What the spec, the credentials and the certificates put into `redis.conf`. -/
def givenConfig : Map String :=
  withCertificates (toString (redisPort cr)) sec (withCredentials sec cr.spec.redisConfig)

/-- The plaintext port of Redis. -/
def redisPortText : String :=
  portText (toString (redisPort cr)) sec ((cr.spec.redisConfig.lookup "port").getD "6379")

theorem withCredentials_union (sec : Settings) (a b : Map String) :
    withCredentials sec (a ∪ b) = withCredentials sec a ∪ b := by
  unfold withCredentials
  split_ifs <;> simp only [Finmap.insert_union]

theorem lookup_withCredentials {sec : Settings} {cfg : Map String}
    (h : key ∉ ["requirepass", "masterauth", "masteruser"]) :
    (withCredentials sec cfg).lookup key = cfg.lookup key := by
  simp only [mem_cons, not_mem_nil, or_false, not_or] at h
  unfold withCredentials
  split_ifs <;> simp [Finmap.lookup_insert_of_ne, h]

theorem effectiveRedisConfig_eq_settle :
    effectiveRedisConfig cr sec = settlePort (toString (redisPort cr)) sec
      (withCertificates (toString (redisPort cr)) sec
        (withCredentials sec (cr.spec.redisConfig ∪ redisDefaults))) := by
  unfold effectiveRedisConfig settlePort withCertificates withListener withCredentials redisDefaults
  by_cases htls : sec.tlsEnabled = true
  · by_cases hdisable : sec.disablePlaintext = true
    · simp [htls, hdisable]
    · simp [htls, hdisable]
  · simp [htls]

theorem effectiveRedisConfig_eq :
    effectiveRedisConfig cr sec =
      settlePort (toString (redisPort cr)) sec (givenConfig cr sec ∪ redisDefaults) := by
  rw [effectiveRedisConfig_eq_settle, givenConfig, withCredentials_union, withCertificates_union]

theorem lookup_givenConfig_port :
    (givenConfig cr sec).lookup "port" =
      if sec.tlsEnabled ∧ sec.disablePlaintext then some "0"
      else cr.spec.redisConfig.lookup "port" := by
  rw [givenConfig, lookup_withCertificates (by decide), lookup_withCredentials (by decide)]
  simp only [and_true]

theorem lookup_givenConfig_tlsPort (htls : sec.tlsEnabled = true) :
    (givenConfig cr sec).lookup "tls-port" = some (toString (redisPort cr)) := by
  rw [givenConfig, lookup_withCertificates_listener htls (by decide), lookup_withListener_tlsPort]

theorem lookup_effective_port :
    (effectiveRedisConfig cr sec).lookup "port" = some (redisPortText cr sec) := by
  have hmem : "port" ∈ effectiveRedisConfig cr sec := by
    rw [effectiveRedisConfig_eq]
    exact mem_settlePort (Finmap.mem_union.2 (.inr (by decide)))
  have hstr : Map.str (effectiveRedisConfig cr sec) "port" = redisPortText cr sec := by
    have hgiven : Map.str (withCredentials sec (cr.spec.redisConfig ∪ redisDefaults)) "port" =
        (cr.spec.redisConfig.lookup "port").getD "6379" := by
      rw [Map.str, lookup_withCredentials (by decide), ← Map.str, Map.str_union]
      rfl
    rw [effectiveRedisConfig_eq_settle, str_settlePort, hgiven]
    rfl
  obtain ⟨value, hvalue⟩ := Finmap.mem_iff.1 hmem
  rw [hvalue, ← hstr, Map.str_of_lookup hvalue]

end

/-! ### Reading `redis.conf` -/

theorem mem_redisDefaults {key value : String} (h : redisDefaults.lookup key = some value) :
    (key, value) ∈
      [("port", "6379"), ("dir", "/data"), ("save", "\"\""), ("appendonly", "yes")] := by
  have hmem : key = "appendonly" ∨ key = "save" ∨ key = "dir" ∨ key = "port" := by
    simpa [redisDefaults, Finmap.mem_insert, Finmap.notMem_empty]
      using Finmap.mem_of_lookup_eq_some h
  rcases hmem with rfl | rfl | rfl | rfl <;> cases h <;> decide

section
variable (cr : KeyValCluster)

theorem contribution_port (sec : Settings) (hne : "port" ≠ name) :
    G.contribution name (effectiveRedisConfig cr sec) "port" =
      G.contribution name (givenConfig cr sec) "port" := by
  have htext := lookup_effective_port cr sec
  have hnumber : '\n' ∉ (toString (redisPort cr)).toList := (plain_toString _).not_newline
  have hgiven := lookup_givenConfig_port cr sec
  have hquiet (hline : '\n' ∉ (redisPortText cr sec).toList)
      (hvalue : ∀ value, (givenConfig cr sec).lookup "port" = some value → '\n' ∉ value.toList) :
      G.contribution name (effectiveRedisConfig cr sec) "port" =
        G.contribution name (givenConfig cr sec) "port" := by
    rw [contribution_quiet (by decide) hne hvalue, contribution_quiet (by decide) hne]
    intro value heq
    obtain rfl := Option.some.inj (htext.symm.trans heq)
    exact hline
  have hcases := portText_cases sec ((cr.spec.redisConfig.lookup "port").getD "6379") hnumber
  rw [← redisPortText] at hcases
  rcases hcases with ⟨hon, hsame⟩ | ⟨hline, hvalue⟩
  · rw [if_neg hon] at hgiven
    cases hspec : cr.spec.redisConfig.lookup "port" with
    | none =>
      rw [hspec] at hsame hgiven
      refine hquiet (hsame ▸ by decide) fun value heq => ?_
      rw [hgiven] at heq
      cases heq
    | some v =>
      rw [hspec] at hsame hgiven
      exact contribution_congr (htext.trans ((congrArg some hsame).trans hgiven.symm))
  · refine hquiet hline fun value heq => ?_
    rw [hgiven] at heq
    split at heq
    · obtain rfl := Option.some.inj heq
      decide
    · next hon =>
      rw [heq] at hvalue
      exact hvalue.resolve_left hon

theorem contribution_effective (sec : Settings)
    (hname : name ∉ ["dir", "save", "appendonly"]) (hport : name = "port" → key ≠ "port") :
    G.contribution name (effectiveRedisConfig cr sec) key =
      G.contribution name (givenConfig cr sec) key := by
  by_cases hkey : key = "port"
  · subst hkey
    have hne : "port" ≠ name := fun h => hport h.symm rfl
    exact contribution_port cr sec hne
  · have hlookup : (effectiveRedisConfig cr sec).lookup key =
        (givenConfig cr sec ∪ redisDefaults).lookup key := by
      rw [effectiveRedisConfig_eq, lookup_settlePort hkey]
    rw [contribution_congr hlookup]
    by_cases hgiven : key ∈ givenConfig cr sec
    · exact contribution_congr (Finmap.lookup_union_left hgiven)
    · rw [contribution_of_notMem hgiven, contribution_congr (Finmap.lookup_union_right hgiven)]
      by_cases hdefault : key ∈ redisDefaults
      · obtain ⟨value, hvalue⟩ := Finmap.mem_iff.1 hdefault
        have hmem := mem_redisDefaults hvalue
        rw [contribution_of_lookup hvalue]
        simp only [mem_cons, not_mem_nil, or_false, not_or, Prod.mk.injEq] at hmem hname
        rcases hmem with ⟨rfl, -⟩ | ⟨rfl, rfl⟩ | ⟨rfl, rfl⟩ | ⟨rfl, rfl⟩
        · exact absurd rfl hkey
        · rw [settings_entry_ne (by decide) (Ne.symm hname.1), further_of_notMem (by decide)]
        · rw [settings_entry_ne (by decide) (Ne.symm hname.2.1), further_of_notMem (by decide)]
        · rw [settings_entry_ne (by decide) (Ne.symm hname.2.2), further_of_notMem (by decide)]
      · exact contribution_of_notMem hdefault

theorem settings_redis (sec : Settings)
    (hname : name ∉ ["include", "port", "dir", "save", "appendonly"]) :
    G.settings name (buildRedisConfig cr sec).toList =
      G.mapSettings name (givenConfig cr sec) Rendered := by
  simp only [mem_cons, not_mem_nil, or_false, not_or] at hname
  rw [settings_buildRedisConfig hname.1]
  refine mapSettings_congr fun key _ => contribution_effective cr sec ?_ fun h => absurd h hname.2.1
  simp [hname]

theorem effective_redis_port (sec : Settings) :
    G.effective "port" (buildRedisConfig cr sec).toList =
      (G.later "port" (givenConfig cr sec) Rendered).getLast?.or
        (G.settings "port" (entry "port" (redisPortText cr sec))).getLast? := by
  have hmem : "port" ∈ effectiveRedisConfig cr sec :=
    Finmap.mem_of_lookup_eq_some (lookup_effective_port cr sec)
  rw [effective, settings_buildRedisConfig (by decide),
    mapSettings_getLast? (by decide) (by decide) hmem,
    Map.str_of_lookup (lookup_effective_port cr sec)]
  congr 2
  refine mapSettings_congr fun key hkey => contribution_effective cr sec (by decide) fun _ => ?_
  rintro rfl
  simp at hkey

theorem effective_redis_tlsPort (sec : Settings) (htls : sec.tlsEnabled = true) :
    G.effective "tls-port" (buildRedisConfig cr sec).toList =
      (G.later "tls-port" (givenConfig cr sec) Rendered).getLast?.or
        (some [toString (redisPort cr)]) := by
  have hlookup : (givenConfig cr sec).lookup "tls-port" = some (toString (redisPort cr)) :=
    lookup_givenConfig_tlsPort cr sec htls
  rw [effective, settings_redis cr sec (by decide), mapSettings_getLast? (by decide) (by decide)
    (Finmap.mem_of_lookup_eq_some hlookup), Map.str_of_lookup hlookup,
    settings_entry_plain (by decide) (plain_toString _)]
  rfl

/-! ## Replication -/

/-- A line that is a replication directive: after leading blanks its first word, in lower case, is
the name of one. -/
def ReplicationLine (line : List Char) : Prop :=
  ∃ w args, words line = w :: args ∧ String.ofList (w.map Char.toLower) ∈ ["replicaof", "slaveof"]

/-- No line of a text is a replication directive. -/
def NoReplication (text : List Char) : Prop := ∀ line ∈ text.splitOn '\n', ¬ ReplicationLine line

theorem noReplication_iff_settings (text : List Char) : NoReplication text ↔
    ∀ name ∈ ["replicaof", "slaveof"], Grammar.blanks.settings name text = [] := by
  have hline (line : List Char) (name : String) : Grammar.blanks.setting name line = none ↔
      ¬ ∃ w args, words line = w :: args ∧ String.ofList (w.map Char.toLower) = name := by
    cases hwords : words line with
    | nil => simp [setting, Grammar.blanks, readBlanks, hwords]
    | cons w args => simp [setting, Grammar.blanks, readBlanks, hwords]
  simp only [settings, filterMap_eq_nil_iff, hline]
  constructor
  · rintro h name hname line hmem ⟨w, args, hwords, rfl⟩
    exact h line hmem ⟨w, args, hwords, hname⟩
  · rintro h line hmem ⟨w, args, hwords, hname⟩
    exact h _ hname line hmem ⟨w, args, hwords, rfl⟩

/-- `redis.conf` has no replication directive exactly when no entry that the spec, the credentials
or the certificates put into it has a line that is one. -/
theorem noReplication_iff (sec : Settings) :
    NoReplication (buildRedisConfig cr sec).toList ↔
      ∀ key value, (givenConfig cr sec).lookup key = some value → Rendered key →
        NoReplication (entry key value) := by
  have hfile : NoReplication (buildRedisConfig cr sec).toList ↔
      ∀ name ∈ ["replicaof", "slaveof"], ∀ key, Rendered key →
        Grammar.blanks.contribution name (givenConfig cr sec) key = [] := by
    rw [noReplication_iff_settings]
    refine forall₂_congr fun name hname => ?_
    have hother : name ∉ ["include", "port", "dir", "save", "appendonly"] := by
      simp only [mem_cons, not_mem_nil, or_false] at hname
      rcases hname with rfl | rfl <;> decide
    rw [settings_redis cr sec hother, mapSettings_eq_nil]
    simp only [decide_eq_true_eq]
  rw [hfile]
  constructor
  · intro h key value hlookup hrendered
    rw [noReplication_iff_settings]
    intro name hname
    rw [← contribution_of_lookup hlookup]
    exact h name hname key hrendered
  · intro h name hname key hrendered
    cases hlookup : (givenConfig cr sec).lookup key with
    | none => exact contribution_of_notMem (Finmap.lookup_eq_none.1 hlookup)
    | some value =>
      rw [contribution_of_lookup hlookup]
      exact (noReplication_iff_settings _).1 (h key value hlookup hrendered) name hname

/-- A cluster with a directive in capitals. -/
def pinnedA : KeyValCluster where
  name := "a"
  ns := "prod"
  spec := { mode := .standalone, redisReplicas := 1
            redisConfig := Finmap.singleton "REPLICAOF" "10.0.0.9 6379" }

/-- Redis reads names without regard to case, and the renderer leaves out only the lower-case
names. -/
theorem pinned_replication : ¬ NoReplication (buildRedisConfig pinnedA {}).toList := by
  rw [noReplication_iff_settings]
  decide +kernel

/-! ## Sentinel -/

/-- An option of the spec, or its default. -/
def sentinelOption (key default : String) : String :=
  if Map.str cr.spec.sentinelConfig key ≠ "" then Map.str cr.spec.sentinelConfig key else default

/-- The quorum in `sentinel.conf`. -/
def sentinelQuorum : Int :=
  match cr.spec.sentinelCount with
  | some n => if 0 < n then n / 2 + 1 else 1
  | none => 1

/-- The directive that names the master. -/
def sentinelMonitor (quorum : Int) : String :=
  "monitor " ++ cr.name ++ " " ++ (cr.name ++ "-0." ++ headlessName cr ++ "." ++ cr.ns ++ ".svc") ++
    " " ++ toString (redisPort cr) ++ " " ++ toString quorum

/-- The plaintext port of Sentinel. -/
def sentinelPortText (sec : Settings) : String :=
  portText (toString (sentinelPort cr)) sec (sentinelOption cr "port" "26379")

/-- The entries for the certificates. -/
def sentinelCertificates (sec : Settings) : List (String × String) :=
  [("tls-cert-file", pathJoin tlsMountPath sec.certKey),
    ("tls-key-file", pathJoin tlsMountPath sec.keyKey),
    ("tls-ca-cert-file", pathJoin tlsMountPath sec.caCertKey),
    ("tls-auth-clients", if sec.requireClientAuth then "yes" else "no"),
    ("tls-replication", "yes")]

/-- A directive about the monitored master. -/
def masterOption (option value : String) : String :=
  option ++ " " ++ cr.name ++ " " ++ value

/-- The entries after the monitor and the port. -/
def sentinelRest (sec : Settings) : List (String × String) :=
  let password := if sec.authEnabled then sec.password else ""
  let username := if sec.authEnabled then sec.username else ""
  [("dir", sentinelOption cr "dir" "/data"),
    ("sentinel", "resolve-hostnames" ++ " " ++ sentinelOption cr "resolve-hostnames" "yes"),
    ("sentinel", "announce-hostnames" ++ " " ++ sentinelOption cr "announce-hostnames" "yes"),
    ("sentinel", masterOption cr "down-after-milliseconds"
      (sentinelOption cr "down-after-milliseconds" "5000")),
    ("sentinel", masterOption cr "failover-timeout" (sentinelOption cr "failover-timeout" "60000")),
    ("sentinel", masterOption cr "parallel-syncs" (sentinelOption cr "parallel-syncs" "1"))] ++
  (if password ≠ "" then [("sentinel", masterOption cr "auth-pass" password)] else []) ++
  (if username ≠ "" then [("sentinel", masterOption cr "auth-user" username)] else []) ++
  (if password ≠ "" then [("requirepass", password)] else []) ++
  if sec.tlsEnabled then ("tls-port", toString (sentinelPort cr)) :: sentinelCertificates sec
  else []

/-- The entries of `sentinel.conf`. -/
def sentinelEntries (sec : Settings) : List (String × String) :=
  ("sentinel", sentinelMonitor cr (sentinelQuorum cr)) :: ("port", sentinelPortText cr sec) ::
    sentinelRest cr sec

/-! ### The configuration -/

/-- The option, unless the value is empty. -/
def setOption (cfg : Map String) (target value : String) : Map String :=
  if value ≠ "" then cfg.insert target value else cfg

theorem str_setOption_self (cfg : Map String) (target value : String) :
    Map.str (setOption cfg target value) target =
      if value ≠ "" then value else Map.str cfg target := by
  unfold setOption
  split
  · exact Map.str_insert_self _ _ _
  · rfl

theorem str_setOption_ne (cfg : Map String) {target key : String} (value : String)
    (h : key ≠ target) : Map.str (setOption cfg target value) key = Map.str cfg key := by
  unfold setOption
  split
  · exact Map.str_insert_ne _ _ h
  · rfl

/-- The options without a spec. -/
def sentinelDefaults : Map String :=
  (((((((∅ : Map String).insert "port" "26379").insert "dir" "/data").insert
    "sentinel resolve-hostnames" "yes").insert "sentinel announce-hostnames" "yes").insert
    "sentinel down-after-milliseconds" "5000").insert "sentinel failover-timeout" "60000").insert
    "sentinel parallel-syncs" "1"

/-- The options with those of the spec. -/
def sentinelOptions : Map String :=
  sentinelDirectives.foldl (fun cfg d => setOption cfg d.2 (Map.str cr.spec.sentinelConfig d.1))
    sentinelDefaults

theorem str_sentinelOptions {key target : String} (h : (key, target) ∈ sentinelDirectives) :
    Map.str (sentinelOptions cr) target =
      sentinelOption cr key (Map.str sentinelDefaults target) := by
  simp only [sentinelDirectives, mem_cons, not_mem_nil, or_false, Prod.mk.injEq] at h
  rcases h with ⟨rfl, rfl⟩ | ⟨rfl, rfl⟩ | ⟨rfl, rfl⟩ | ⟨rfl, rfl⟩ | ⟨rfl, rfl⟩ | ⟨rfl, rfl⟩ |
      ⟨rfl, rfl⟩ <;>
    simp [sentinelOptions, sentinelDirectives, sentinelOption, str_setOption_self, str_setOption_ne]

theorem str_sentinelOptions_of_notMem {target : String}
    (h : target ∉ sentinelDirectives.map (·.2)) : Map.str (sentinelOptions cr) target = "" := by
  simp only [sentinelDirectives, map_cons, map_nil, mem_cons, not_mem_nil, or_false, not_or] at h
  have hempty : Map.str (∅ : Map String) target = "" := rfl
  simp [sentinelOptions, sentinelDirectives, sentinelDefaults, str_setOption_ne,
    Map.str_insert_ne, h, hempty]

/-- The entries for the password added. -/
def withSentinelCredentials (sec : Settings) (cfg : Map String) : Map String :=
  if sec.authEnabled then
    let cfg := (cfg.insert "requirepass" sec.password).insert "sentinel auth-pass" sec.password
    if sec.username ≠ "" then cfg.insert "sentinel auth-user" sec.username else cfg
  else cfg

theorem str_withSentinelCredentials {sec : Settings} {cfg : Map String}
    (h : key ∉ ["requirepass", "sentinel auth-pass", "sentinel auth-user"]) :
    Map.str (withSentinelCredentials sec cfg) key = Map.str cfg key := by
  simp only [mem_cons, not_mem_nil, or_false, not_or] at h
  unfold withSentinelCredentials
  split_ifs <;> simp [Map.str_insert_ne, h]

theorem effectiveSentinelConfig_eq (sec : Settings) :
    effectiveSentinelConfig cr sec = settlePort (toString (sentinelPort cr)) sec
      (withCertificates (toString (sentinelPort cr)) sec
        (withSentinelCredentials sec (sentinelOptions cr))) := by
  unfold effectiveSentinelConfig settlePort withCertificates withListener withSentinelCredentials
    sentinelOptions sentinelDefaults setOption
  by_cases htls : sec.tlsEnabled = true
  · by_cases hdisable : sec.disablePlaintext = true
    · simp [htls, hdisable]
    · simp [htls, hdisable]
  · simp [htls]

end

section
variable (cr : KeyValCluster) (sec : Settings)

theorem str_effectiveSentinelConfig_port :
    Map.str (effectiveSentinelConfig cr sec) "port" = sentinelPortText cr sec := by
  have hgiven : Map.str (withSentinelCredentials sec (sentinelOptions cr)) "port" =
      sentinelOption cr "port" "26379" := by
    have hmem : ("port", "port") ∈ sentinelDirectives := by decide
    rw [str_withSentinelCredentials (by decide), str_sentinelOptions cr hmem]
    rfl
  rw [effectiveSentinelConfig_eq, str_settlePort, hgiven, sentinelPortText]

theorem str_effectiveSentinelConfig_listener (h : key ∈ listenerKeys) :
    Map.str (effectiveSentinelConfig cr sec) key =
      if sec.tlsEnabled then Map.str (withListener (toString (sentinelPort cr)) sec ∅) key
      else "" := by
  have hkeys : ∀ key ∈ listenerKeys, key ≠ "port" ∧
      key ∉ ["requirepass", "sentinel auth-pass", "sentinel auth-user"] ∧
      key ∉ sentinelDirectives.map (·.2) := by decide
  obtain ⟨hport, hcredentials, hoptions⟩ := hkeys key h
  rw [effectiveSentinelConfig_eq, Map.str, lookup_settlePort hport]
  split
  · next htls => rw [lookup_withCertificates_listener htls h, Map.str]
  · next htls =>
    rw [withCertificates, if_neg htls, ← Map.str, str_withSentinelCredentials hcredentials,
      str_sentinelOptions_of_notMem cr hoptions]

theorem str_effectiveSentinelConfig (h : key ∉ "port" :: listenerKeys) :
    Map.str (effectiveSentinelConfig cr sec) key =
      Map.str (withSentinelCredentials sec (sentinelOptions cr)) key := by
  rw [mem_cons, not_or] at h
  rw [effectiveSentinelConfig_eq, Map.str, lookup_settlePort h.1, lookup_withCertificates h.2,
    if_neg fun hoff => h.1 hoff.2.2, Map.str]

theorem str_effectiveSentinelConfig_option {key target : String}
    (h : (key, target) ∈ sentinelDirectives) (hport : target ≠ "port") :
    Map.str (effectiveSentinelConfig cr sec) target =
      sentinelOption cr key (Map.str sentinelDefaults target) := by
  have htargets : ∀ d ∈ sentinelDirectives, d.2 ≠ "port" → d.2 ∉ "port" :: listenerKeys ∧
      d.2 ∉ ["requirepass", "sentinel auth-pass", "sentinel auth-user"] := by decide
  obtain ⟨hlistener, hcredentials⟩ := htargets _ h hport
  rw [str_effectiveSentinelConfig cr sec hlistener, str_withSentinelCredentials hcredentials,
    str_sentinelOptions cr h]

theorem str_effectiveSentinelConfig_credentials :
    Map.str (effectiveSentinelConfig cr sec) "requirepass" =
      (if sec.authEnabled then sec.password else "") ∧
    Map.str (effectiveSentinelConfig cr sec) "sentinel auth-pass" =
      (if sec.authEnabled then sec.password else "") ∧
    Map.str (effectiveSentinelConfig cr sec) "sentinel auth-user" =
      if sec.authEnabled then sec.username else "" := by
  have hnone : ∀ key ∈ ["requirepass", "sentinel auth-pass", "sentinel auth-user"],
      key ∉ sentinelDirectives.map (·.2) := by decide
  rw [str_effectiveSentinelConfig cr sec (by decide),
    str_effectiveSentinelConfig cr sec (by decide),
    str_effectiveSentinelConfig cr sec (by decide)]
  unfold withSentinelCredentials
  split_ifs with hauth huser
  · simp [Map.str_insert_ne]
  · have hempty := str_sentinelOptions_of_notMem cr (hnone "sentinel auth-user" (by decide))
    rw [not_not] at huser
    simp [Map.str_insert_ne, hempty, huser]
  · exact ⟨str_sentinelOptions_of_notMem cr (hnone _ (by decide)),
      str_sentinelOptions_of_notMem cr (hnone _ (by decide)),
      str_sentinelOptions_of_notMem cr (hnone _ (by decide))⟩

/-! ### Rendering -/

theorem str_sentinel_tlsPort : Map.str (effectiveSentinelConfig cr sec) "tls-port" =
    if sec.tlsEnabled then toString (sentinelPort cr) else "" := by
  rw [str_effectiveSentinelConfig_listener cr sec (by decide), Map.str, lookup_withListener_tlsPort]
  rfl

theorem str_sentinel_certificate (htls : sec.tlsEnabled = true) :
    ∀ e ∈ sentinelCertificates sec, Map.str (effectiveSentinelConfig cr sec) e.1 = e.2 := by
  have hkeys : ∀ e ∈ sentinelCertificates sec, e.1 ∈ listenerKeys ∧
      Map.str (withListener (toString (sentinelPort cr)) sec ∅) e.1 = e.2 := by
    intro e he
    simp only [sentinelCertificates, mem_cons, not_mem_nil, or_false] at he
    rcases he with rfl | rfl | rfl | rfl | rfl <;>
      simp [listenerKeys, withListener, Map.str_insert_ne]
  intro e he
  rw [str_effectiveSentinelConfig_listener cr sec (hkeys e he).1, if_pos htls, (hkeys e he).2]

/-- One line of the file. -/
def lineText (e : String × String) : String := e.1 ++ " " ++ e.2 ++ "\n"

theorem join_certificates (htls : sec.tlsEnabled = true) :
    String.join (["tls-cert-file", "tls-key-file", "tls-ca-cert-file", "tls-auth-clients",
      "tls-replication"].map fun key =>
        if Map.str (effectiveSentinelConfig cr sec) key ≠ "" then
          key ++ " " ++ Map.str (effectiveSentinelConfig cr sec) key ++ "\n" else "") =
      String.join ((sentinelCertificates sec).map lineText) := by
  have hkeys : ["tls-cert-file", "tls-key-file", "tls-ca-cert-file", "tls-auth-clients",
      "tls-replication"] = (sentinelCertificates sec).map (·.1) := rfl
  have hnonempty : ∀ e ∈ sentinelCertificates sec, e.2 ≠ "" := by
    intro e he
    simp only [sentinelCertificates, mem_cons, not_mem_nil, or_false] at he
    rcases he with rfl | rfl | rfl | rfl | rfl
    · simp [pathJoin]
    · simp [pathJoin]
    · simp [pathJoin]
    · dsimp only
      split <;> decide
    · decide
  rw [hkeys, map_map]
  refine congrArg String.join (map_congr_left fun e he => ?_)
  simp only [Function.comp_apply, str_sentinel_certificate cr sec htls e he]
  rw [if_pos (hnonempty e he), lineText]

theorem join_listener :
    (if Map.str (effectiveSentinelConfig cr sec) "tls-port" ≠ "" then
      "tls-port" ++ " " ++ Map.str (effectiveSentinelConfig cr sec) "tls-port" ++ "\n" ++
      String.join (["tls-cert-file", "tls-key-file", "tls-ca-cert-file", "tls-auth-clients",
        "tls-replication"].map fun key =>
          if Map.str (effectiveSentinelConfig cr sec) key ≠ "" then
            key ++ " " ++ Map.str (effectiveSentinelConfig cr sec) key ++ "\n" else "")
    else "") =
      String.join ((if sec.tlsEnabled then
        ("tls-port", toString (sentinelPort cr)) :: sentinelCertificates sec else []).map
          lineText) := by
  rw [str_sentinel_tlsPort]
  by_cases htls : sec.tlsEnabled = true
  · have hnumber : toString (sentinelPort cr) ≠ "" := (plain_toString _).1
    rw [if_pos htls, if_pos htls, if_pos hnumber, join_certificates cr sec htls, map_cons,
      String.join_cons, lineText]
  · rw [if_neg htls, if_neg htls, if_neg (by simp)]
    rfl

theorem sentinel_append {key option : String} (h : key = "sentinel " ++ option) (rest : String) :
    "sentinel" ++ (" " ++ (option ++ rest)) = key ++ rest := by
  subst h
  simp only [← String.append_assoc]
  rfl

theorem str_sentinel_options :
    Map.str (effectiveSentinelConfig cr sec) "dir" = sentinelOption cr "dir" "/data" ∧
    Map.str (effectiveSentinelConfig cr sec) "sentinel resolve-hostnames" =
      sentinelOption cr "resolve-hostnames" "yes" ∧
    Map.str (effectiveSentinelConfig cr sec) "sentinel announce-hostnames" =
      sentinelOption cr "announce-hostnames" "yes" ∧
    Map.str (effectiveSentinelConfig cr sec) "sentinel down-after-milliseconds" =
      sentinelOption cr "down-after-milliseconds" "5000" ∧
    Map.str (effectiveSentinelConfig cr sec) "sentinel failover-timeout" =
      sentinelOption cr "failover-timeout" "60000" ∧
    Map.str (effectiveSentinelConfig cr sec) "sentinel parallel-syncs" =
      sentinelOption cr "parallel-syncs" "1" := by
  have hoption {key target default : String} (hmem : (key, target) ∈ sentinelDirectives)
      (hport : target ≠ "port") (hdefault : Map.str sentinelDefaults target = default) :
      Map.str (effectiveSentinelConfig cr sec) target = sentinelOption cr key default := by
    rw [str_effectiveSentinelConfig_option cr sec hmem hport, hdefault]
  exact ⟨hoption (by decide) (by decide) rfl, hoption (by decide) (by decide) rfl,
    hoption (by decide) (by decide) rfl, hoption (by decide) (by decide) rfl,
    hoption (by decide) (by decide) rfl, hoption (by decide) (by decide) rfl⟩

theorem join_optional (text value : String) (e : String × String) (h : text = lineText e) :
    (if value ≠ "" then text else "") =
      String.join ((if value ≠ "" then [e] else []).map lineText) := by
  subst h
  split
  · simp
  · rfl

theorem buildSentinelConfig_eq :
    buildSentinelConfig cr sec = String.join ((sentinelEntries cr sec).map lineText) := by
  obtain ⟨hdir, hresolve, hannounce, hdown, hfailover, hsyncs⟩ := str_sentinel_options cr sec
  obtain ⟨hpass, hauthPass, hauthUser⟩ := str_effectiveSentinelConfig_credentials cr sec
  have hword {key option : String} (h : key = "sentinel " ++ option) (rest : String) :=
    sentinel_append h rest
  have hmaster {key option : String} (h : key = "sentinel " ++ option) (value : String) :
      (if value ≠ "" then key ++ " " ++ cr.name ++ " " ++ value ++ "\n" else "") =
        String.join ((if value ≠ "" then [("sentinel", masterOption cr option value)]
          else []).map lineText) := by
    refine join_optional _ value _ ?_
    simp only [lineText, masterOption, String.append_assoc, hword h]
  have hrequire (value : String) := join_optional ("requirepass" ++ " " ++ value ++ "\n") value
    ("requirepass", value) rfl
  dsimp only [buildSentinelConfig, sentinelEntries, sentinelRest]
  delta sentinelMonitor
  simp only [join_listener, str_effectiveSentinelConfig_port, hdir, hresolve, hannounce, hdown,
    hfailover, hsyncs, hpass, hauthPass, hauthUser, hrequire,
    hmaster (show "sentinel auth-pass" = "sentinel " ++ "auth-pass" from rfl),
    hmaster (show "sentinel auth-user" = "sentinel " ++ "auth-user" from rfl)]
  simp only [map_cons, map_append, map_nil, String.join_cons, String.join_append,
    String.join_nil, lineText, masterOption, String.append_assoc, String.empty_append,
    hword (show "sentinel monitor " = "sentinel " ++ "monitor " from rfl),
    hword (show "sentinel resolve-hostnames" = "sentinel " ++ "resolve-hostnames" from rfl),
    hword (show "sentinel announce-hostnames" = "sentinel " ++ "announce-hostnames" from rfl),
    hword (show "sentinel down-after-milliseconds" =
      "sentinel " ++ "down-after-milliseconds" from rfl),
    hword (show "sentinel failover-timeout" = "sentinel " ++ "failover-timeout" from rfl),
    hword (show "sentinel parallel-syncs" = "sentinel " ++ "parallel-syncs" from rfl)]
  rfl

end

/-! ### Reading `sentinel.conf` -/

section
variable (G : Grammar) (name : String) (cr : KeyValCluster) (sec : Settings)

/-- Settings of `name` on further lines of a value. -/
def furtherSettings (entries : List (String × String)) : List (List String) :=
  entries.flatMap fun e => G.further name e.2

theorem settings_sentinel :
    G.settings name (buildSentinelConfig cr sec).toList =
      (sentinelEntries cr sec).flatMap fun e => G.settings name (entry e.1 e.2) := by
  have htext : (buildSentinelConfig cr sec).toList =
      (sentinelEntries cr sec).flatMap fun e => entry e.1 e.2 ++ ['\n'] := by
    simp [buildSentinelConfig_eq, String.toList_join, flatMap_map, entry, lineText]
  have hread : G.settings name _ = _ :=
    settings_flatMap (fun e : String × String => entry e.1 e.2) (sentinelEntries cr sec) []
  rw [append_nil, settings_nil, append_nil] at hread
  rw [htext, hread]

variable {G name cr sec}

theorem furtherSettings_eq_nil (h : ∀ e ∈ entries, '\n' ∉ e.2.toList) :
    furtherSettings G name entries = [] :=
  flatMap_eq_nil_iff.2 fun e he => further_of_notMem (h e he)

theorem flatMap_settings_entry (h : ∀ e ∈ entries, Directives.Plain e.1 ∧ e.1 ≠ name) :
    entries.flatMap (fun e => G.settings name (entry e.1 e.2)) =
      furtherSettings G name entries :=
  flatMap_congr fun e he => settings_entry_ne (h e he).1 (h e he).2 e.2

theorem mem_sentinelCertificates (h : e ∈ sentinelCertificates sec) :
    Directives.Plain e.1 ∧ e.1 ≠ "port" ∧ e.1 ≠ "tls-port" := by
  simp only [sentinelCertificates, mem_cons, not_mem_nil, or_false] at h
  rcases h with rfl | rfl | rfl | rfl | rfl <;> dsimp only <;> decide

theorem mem_sentinelRest (h : e ∈ sentinelRest cr sec) :
    Directives.Plain e.1 ∧ e.1 ≠ "port" := by
  have hoptional {c : Prop} [Decidable c] {key value : String}
      (hkey : Directives.Plain key ∧ key ≠ "port")
      (hmem : e ∈ if c then [(key, value)] else []) : Directives.Plain e.1 ∧ e.1 ≠ "port" := by
    split at hmem
    · obtain rfl := mem_singleton.1 hmem
      exact hkey
    · cases hmem
  simp only [sentinelRest, mem_append] at h
  rcases h with (((h | h) | h) | h) | h
  · simp only [mem_cons, not_mem_nil, or_false] at h
    rcases h with rfl | rfl | rfl | rfl | rfl | rfl <;> dsimp only <;> decide
  · exact hoptional (by decide) h
  · exact hoptional (by decide) h
  · exact hoptional (by decide) h
  · split at h
    · rcases mem_cons.1 h with rfl | h
      · dsimp only
        decide
      · exact ⟨(mem_sentinelCertificates h).1, (mem_sentinelCertificates h).2.1⟩
    · cases h

variable (G cr sec)

theorem effective_sentinel_port :
    G.effective "port" (buildSentinelConfig cr sec).toList =
      (furtherSettings G "port" (sentinelRest cr sec)).getLast?.or
        (G.settings "port" (entry "port" (sentinelPortText cr sec))).getLast? := by
  obtain ⟨args, hown⟩ : ∃ args, G.settings "port" (entry "port" (sentinelPortText cr sec)) =
      args :: G.further "port" (sentinelPortText cr sec) := settings_entry_self (by decide) _
  rw [effective, settings_sentinel, sentinelEntries, flatMap_cons, flatMap_cons,
    flatMap_settings_entry fun e he => mem_sentinelRest he, hown, getLast?_append,
    getLast?_append, getLast?_cons, Option.or_assoc, Option.some_or]

theorem effective_sentinel_tlsPort (htls : sec.tlsEnabled = true) :
    G.effective "tls-port" (buildSentinelConfig cr sec).toList =
      (furtherSettings G "tls-port" (sentinelCertificates sec)).getLast?.or
        (some [toString (sentinelPort cr)]) := by
  obtain ⟨before, hrest⟩ : ∃ before, sentinelEntries cr sec =
      before ++ ("tls-port", toString (sentinelPort cr)) :: sentinelCertificates sec := by
    simp only [sentinelEntries, sentinelRest, if_pos htls, ← cons_append]
    exact ⟨_, rfl⟩
  have hown : G.settings "tls-port" (entry "tls-port" (toString (sentinelPort cr))) =
      [[toString (sentinelPort cr)]] := settings_entry_plain (by decide) (plain_toString _)
  rw [effective, settings_sentinel, hrest, flatMap_append, flatMap_cons,
    flatMap_settings_entry fun e he =>
      ⟨(mem_sentinelCertificates he).1, (mem_sentinelCertificates he).2.2⟩,
    hown, getLast?_append, getLast?_append, Option.or_assoc]
  rfl

end

end Keyval.Resources
