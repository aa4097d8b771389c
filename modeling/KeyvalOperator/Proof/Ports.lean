import KeyvalOperator.Proof.ConfigFiles
import KeyvalOperator.Resources.Service

/-!
# The ports

The ports of a cluster are derived in several places: the files, the containers, their variables and
probes, the line that Sentinel monitors and the Services. The files are read back as the servers
read them, by any grammar of lines.

* `redisPorts_agree_iff`: when the places agree about the Redis port.
* `sentinelPorts_agree_iff`: when they agree about the Sentinel port.
* `listenersApart_iff`: with TLS, when no file has both listeners on one port.
-/

namespace Keyval.Resources

open Go Directives Directives.Grammar

/-! ## Port numbers -/

/-- The number of a port directive: one word, which is the decimal text of a number in range. -/
def portNumber : List String → Option Int
  | [a] => (parseInt 64 a).filter fun n => toString n = a ∧ 0 ≤ n ∧ n ≤ 65535
  | _ => none

theorem portNumber_eq_some {a : String} {n : Int} :
    portNumber [a] = some n ↔ a = toString n ∧ 0 ≤ n ∧ n ≤ 65535 := by
  simp only [portNumber, Option.filter_eq_some_iff, decide_eq_true_eq]
  constructor
  · rintro ⟨-, htext, hrange⟩
    exact ⟨htext.symm, hrange⟩
  · rintro ⟨rfl, hrange⟩
    refine ⟨?_, rfl, hrange⟩
    rw [parseInt_toString, Option.filter_eq_some_iff]
    refine ⟨rfl, ?_⟩
    simp only [decide_eq_true_eq]
    omega

theorem portNumber_toString (n : Int) :
    portNumber [toString n] = if 0 ≤ n ∧ n ≤ 65535 then some n else none := by
  split
  · next hrange => exact portNumber_eq_some.2 ⟨rfl, hrange⟩
  · next hrange =>
    rw [Option.eq_none_iff_forall_ne_some]
    intro p hp
    have hparse : parseInt 64 (toString n) = some p := (Option.filter_eq_some_iff.1 hp).1
    rw [parseInt_toString, Option.filter_eq_some_iff] at hparse
    obtain rfl := Option.some.inj hparse.1
    exact hrange (portNumber_eq_some.1 hp).2

/-- The port that the file gives. -/
def listensOn (G : Grammar) (name file : String) : Option Int :=
  (G.effective name file.toList).bind portNumber

/-! ### What the spec gives -/

/-- The number that a configuration has for `port` when it is a valid port, else the default. -/
def givenPort (cfg : Map String) (default : Int) : Int :=
  ((parseInt 64 (Map.str cfg "port")).filter fun v => 0 < v ∧ v ≤ 65535).getD default

/-- The port of the spec's service, or 0. -/
def portOverride (spec : Option ServiceSpec) (port : ServicePorts → Int) : Int :=
  ((spec.bind (·.ports)).map port).getD 0

/-- The port of the Redis settings. -/
def redisPortGiven (cr : KeyValCluster) : Int := givenPort cr.spec.redisConfig 6379

/-- The Sentinel port of the spec: that of the Sentinel Service, else that of the configuration. -/
def sentinelPortGiven (cr : KeyValCluster) : Int :=
  if portOverride cr.spec.sentinelService (·.sentinel) ≠ 0 then
    portOverride cr.spec.sentinelService (·.sentinel)
  else givenPort cr.spec.sentinelConfig 26379

theorem givenPort_eq (cfg : Map String) (default : Int) :
    givenPort cfg default = match parseInt 64 (Map.str cfg "port") with
      | some v => if 0 < v ∧ v ≤ 65535 then v else default
      | none => default := by
  unfold givenPort
  cases parseInt 64 (Map.str cfg "port") with
  | none => rfl
  | some v =>
    by_cases hrange : 0 < v ∧ v ≤ 65535
    · simp [Option.filter, hrange]
    · simp [Option.filter, hrange]

theorem givenPort_range (cfg : Map String) {default : Int} (h : 0 < default ∧ default ≤ 65535) :
    0 < givenPort cfg default ∧ givenPort cfg default ≤ 65535 := by
  rw [givenPort_eq]
  split
  · split
    · assumption
    · exact h
  · exact h

theorem givenPort_of_text {cfg : Map String} {n : Int} (default : Int)
    (htext : Map.str cfg "port" = toString n) (hn : 0 < n ∧ n ≤ 65535) :
    givenPort cfg default = n := by
  have hparse : parseInt 64 (Map.str cfg "port") = some n := by
    rw [htext, parseInt_toString, Option.filter_eq_some_iff]
    refine ⟨rfl, ?_⟩
    simp only [decide_eq_true_eq]
    omega
  rw [givenPort_eq, hparse]
  exact if_pos hn

section
variable (cr : KeyValCluster)

theorem redisPort_eq : redisPort cr = redisPortGiven cr := (givenPort_eq _ _).symm

theorem sentinelPort_eq : sentinelPort cr = sentinelPortGiven cr := by
  rw [sentinelPortGiven, givenPort_eq]
  rfl

theorem redisPortGiven_range : 0 < redisPortGiven cr ∧ redisPortGiven cr ≤ 65535 :=
  givenPort_range _ (by decide)

theorem sentinelPortGiven_ne_zero : sentinelPortGiven cr ≠ 0 := by
  have hdefault : (0 : Int) < 26379 ∧ (26379 : Int) ≤ 65535 := by decide
  have hgiven := givenPort_range cr.spec.sentinelConfig hdefault
  unfold sentinelPortGiven
  split
  · assumption
  · omega

end

theorem serviceRedisPort_eq_iff (spec : Option ServiceSpec) (n : Int) :
    serviceRedisPort spec n = n ↔
      portOverride spec (·.redis) = 0 ∨ portOverride spec (·.redis) = n := by
  show (if portOverride spec (·.redis) ≠ 0 then portOverride spec (·.redis) else n) = n ↔ _
  split
  · next h => simp [h]
  · next h => simp [not_not.1 h]

/-! ### The last line -/

/-- The last line that sets a port has the number `n`. With no later line and a plain value, the
value is its text; otherwise the lines decide. -/
structure PortGiven (G : Grammar) (later : List (List String)) (name value : String) (n : Int) :
    Prop where
  plain : later = [] ∧ Directives.Plain value → value = toString n ∧ 0 ≤ n ∧ n ≤ 65535
  lines : ¬ (later = [] ∧ Directives.Plain value) →
    (later.getLast?.or (G.settings name (entry name value)).getLast?).bind portNumber = some n

theorem portGiven_iff {G : Grammar} {later : List (List String)} {name value : String} {n : Int}
    (hname : Directives.Plain name) : PortGiven G later name value n ↔
      (later.getLast?.or (G.settings name (entry name value)).getLast?).bind portNumber =
        some n := by
  by_cases hplain : later = [] ∧ Directives.Plain value
  · have hlast : (later.getLast?.or (G.settings name (entry name value)).getLast?).bind
        portNumber = portNumber [value] := by
      rw [hplain.1, settings_entry_plain hname hplain.2]
      rfl
    rw [hlast, portNumber_eq_some]
    constructor
    · intro h
      exact h.plain hplain
    · intro h
      exact ⟨fun _ => h, fun hlines => absurd hplain hlines⟩
  · constructor
    · intro h
      exact h.lines hplain
    · intro h
      exact ⟨fun hquiet => absurd hquiet hplain, fun _ => h⟩

/-! ## The Redis port -/

/-- The target of the service's port. -/
def targetPort (s : Service) (name : String) : Option Int :=
  (s.ports.find? (·.name = name)).map (·.targetPort)

section
variable (G : Grammar) (cr : KeyValCluster) (sec : Settings)

/-- All places have the Redis port `n`: the listener for the operator's connections, the container,
the variable of the probes and of the init container, the monitored master and the Services. -/
structure RedisPorts (n : Int) : Prop where
  listens : listensOn G (if sec.tlsEnabled then "tls-port" else "port")
    (buildRedisConfig cr sec) = some n
  container : (redisContainer cr).ports = [⟨"redis", n⟩]
  probes : envValue (redisEnv cr sec) "REDIS_PORT" = some (toString n)
  bootstrap : envValue (bootstrapEnv cr sec) "REDIS_PORT" = some (toString n)
  monitor : ("sentinel monitor " ++ cr.name ++ " " ++ podFQDN cr 0 ++ " " ++ toString n ++
    " ").toList <+: (buildSentinelConfig cr sec).toList
  services : ∀ s ∈ [headlessService cr, masterService cr, replicasService cr],
    targetPort s "redis" = some n

/-- The Service specs set no other Redis port, and the last line for the listener has the Redis
port. With TLS the operator writes that line itself. -/
structure RedisPortsGiven : Prop where
  service : portOverride cr.spec.service (·.redis) ∈ [0, redisPortGiven cr]
  replicas : portOverride cr.spec.replicasService (·.redis) ∈ [0, redisPortGiven cr]
  tls : sec.tlsEnabled = true → PortGiven G (G.later "tls-port" (givenConfig cr sec) Rendered)
    "tls-port" (toString (redisPortGiven cr)) (redisPortGiven cr)
  plaintext : sec.tlsEnabled = false → PortGiven G (G.later "port" (givenConfig cr sec) Rendered)
    "port" ((cr.spec.redisConfig.lookup "port").getD "6379") (redisPortGiven cr)

theorem targetPort_redis (spec : Option ServiceSpec) (rest : List ServicePort) (s : Service)
    (h : s.ports = ⟨"redis", serviceRedisPort spec (redisPort cr),
      serviceRedisPort spec (redisPort cr), 0⟩ :: rest) :
    targetPort s "redis" = some (redisPort cr) ↔
      portOverride spec (·.redis) ∈ [0, redisPortGiven cr] := by
  have htarget : targetPort s "redis" = some (serviceRedisPort spec (redisPort cr)) := by
    rw [targetPort, h]
    rfl
  rw [htarget, Option.some_inj, serviceRedisPort_eq_iff, redisPort_eq]
  simp

theorem targetPorts_redis_iff :
    (∀ s ∈ [headlessService cr, masterService cr, replicasService cr],
      targetPort s "redis" = some (redisPort cr)) ↔
    portOverride cr.spec.service (·.redis) ∈ [0, redisPortGiven cr] ∧
      portOverride cr.spec.replicasService (·.redis) ∈ [0, redisPortGiven cr] := by
  have hheadless := targetPort_redis cr cr.spec.service _ (headlessService cr) rfl
  have hmaster := targetPort_redis cr cr.spec.service _ (masterService cr) rfl
  have hreplicas := targetPort_redis cr cr.spec.replicasService _ (replicasService cr) rfl
  simp only [List.forall_mem_cons, hheadless, hmaster, hreplicas]
  constructor
  · rintro ⟨hservice, -, hreplicas, -⟩
    exact ⟨hservice, hreplicas⟩
  · rintro ⟨hservice, hreplicas⟩
    exact ⟨hservice, hservice, hreplicas, nofun⟩

theorem listensOn_redis_iff :
    listensOn G (if sec.tlsEnabled then "tls-port" else "port") (buildRedisConfig cr sec) =
      some (redisPort cr) ↔
    (sec.tlsEnabled = true → PortGiven G (G.later "tls-port" (givenConfig cr sec) Rendered)
      "tls-port" (toString (redisPortGiven cr)) (redisPortGiven cr)) ∧
    (sec.tlsEnabled = false → PortGiven G (G.later "port" (givenConfig cr sec) Rendered)
      "port" ((cr.spec.redisConfig.lookup "port").getD "6379") (redisPortGiven cr)) := by
  have hname (name : String) (h : name = "port" ∨ name = "tls-port") : Directives.Plain name := by
    rcases h with rfl | rfl <;> decide
  by_cases htls : sec.tlsEnabled = true
  · have hown : G.settings "tls-port" (entry "tls-port" (toString (redisPort cr))) =
        [[toString (redisPort cr)]] :=
      settings_entry_plain (hname _ (.inr rfl)) (plain_toString _)
    simp only [htls, if_true, listensOn, effective_redis_tlsPort cr sec htls, ← redisPort_eq,
      portGiven_iff (hname _ (.inr rfl)), hown, forall_const, Bool.true_eq_false,
      IsEmpty.forall_iff, and_true]
    rfl
  · have htext : redisPortText cr sec = (cr.spec.redisConfig.lookup "port").getD "6379" := by
      rw [redisPortText, portText, if_neg htls]
    rw [Bool.not_eq_true] at htls
    simp only [htls, listensOn, Bool.false_eq_true, if_false, effective_redis_port, htext,
      ← redisPort_eq, portGiven_iff (hname _ (.inl rfl)), forall_const, IsEmpty.forall_iff,
      true_and]

theorem podFQDN_zero :
    podFQDN cr 0 = cr.name ++ "-0." ++ headlessName cr ++ "." ++ cr.ns ++ ".svc" := by
  have htext (rest : String) : "-" ++ (toString (0 : Int) ++ ("." ++ rest)) = "-0." ++ rest := by
    simp only [← String.append_assoc]
    rfl
  simp only [podFQDN, String.append_assoc, htext]

theorem monitor_redisPort :
    ("sentinel monitor " ++ cr.name ++ " " ++ podFQDN cr 0 ++ " " ++ toString (redisPort cr) ++
      " ").toList <+: (buildSentinelConfig cr sec).toList := by
  obtain ⟨rest, hrest⟩ : ∃ rest, buildSentinelConfig cr sec = "sentinel monitor " ++ cr.name ++
      " " ++ podFQDN cr 0 ++ " " ++ toString (redisPort cr) ++ " " ++ rest := by
    rw [podFQDN_zero]
    dsimp only [buildSentinelConfig]
    simp only [String.append_assoc]
    exact ⟨_, rfl⟩
  rw [hrest]
  exact ⟨rest.toList, String.toList_append.symm⟩

/-- All places have one Redis port exactly when the Service specs set no other and the last line for
the listener has it. -/
theorem redisPorts_agree_iff : (∃ n, RedisPorts G cr sec n) ↔ RedisPortsGiven G cr sec := by
  constructor
  · rintro ⟨n, h⟩
    have hn : n = redisPort cr := by
      have hcontainer := h.container
      simp only [redisContainer, List.cons.injEq, ContainerPort.mk.injEq, and_true, true_and]
        at hcontainer
      exact hcontainer.symm
    subst hn
    obtain ⟨hservice, hreplicas⟩ := (targetPorts_redis_iff cr).1 h.services
    obtain ⟨htls, hplain⟩ := (listensOn_redis_iff G cr sec).1 h.listens
    exact ⟨hservice, hreplicas, htls, hplain⟩
  · intro h
    exact ⟨redisPort cr, (listensOn_redis_iff G cr sec).2 ⟨h.tls, h.plaintext⟩, rfl, rfl, rfl,
      monitor_redisPort cr sec, (targetPorts_redis_iff cr).2 ⟨h.service, h.replicas⟩⟩

/-- A service with another Redis port. -/
def reroutedA : KeyValCluster where
  name := "a"
  ns := "prod"
  spec := { mode := .standalone, redisReplicas := 1
            service := some { ports := some { redis := 7000 } } }

/-- The Service sends to port 7000, where nothing listens. -/
theorem rerouted_disagrees : ¬ ∃ n, RedisPorts .blanks reroutedA {} n := by
  rintro ⟨n, h⟩
  have hcontainer : [⟨"redis", 6379⟩] = [(⟨"redis", n⟩ : ContainerPort)] := h.container
  have htarget : some 7000 = some n := h.services (masterService reroutedA) (by simp)
  simp only [List.cons.injEq, ContainerPort.mk.injEq, and_true, true_and] at hcontainer
  rw [Option.some_inj] at htarget
  omega

/-! ## The Sentinel port -/

/-- All places have the Sentinel port `n`: the listener, the container, its probes, the variable of
the init containers of the Redis pods and both Services. -/
structure SentinelPorts (n : Int) : Prop where
  listens : listensOn G (if sec.tlsEnabled then "tls-port" else "port")
    (buildSentinelConfig cr sec) = some n
  container : (sentinelContainer cr).ports = [⟨"sentinel", n⟩]
  probes : ∀ probe ∈ [sentinelLivenessProbe cr sec, sentinelReadinessProbe cr sec],
    ∃ options, probe.command = ["sh", "-c", options ++ "-p " ++ toString n ++ " PING"]
  bootstrap : envValue (bootstrapEnv cr sec) "SENTINEL_PORT" = some (toString n)
  services : ∀ s ∈ [sentinelService cr, sentinelHeadlessService cr],
    targetPort s "sentinel" = some n

/-- The last line for the listener has the Sentinel port. With TLS the operator writes that line
itself, without it the line has the port of `sentinelConfig`, whatever the Service sets. -/
structure SentinelPortsGiven : Prop where
  tls : sec.tlsEnabled = true →
    PortGiven G (furtherSettings G "tls-port" (sentinelCertificates sec)) "tls-port"
      (toString (sentinelPortGiven cr)) (sentinelPortGiven cr)
  plaintext : sec.tlsEnabled = false →
    PortGiven G (furtherSettings G "port" (sentinelRest cr sec)) "port"
      (sentinelOption cr "port" "26379") (sentinelPortGiven cr)

theorem listensOn_sentinel_iff :
    listensOn G (if sec.tlsEnabled then "tls-port" else "port") (buildSentinelConfig cr sec) =
      some (sentinelPort cr) ↔ SentinelPortsGiven G cr sec := by
  have hplain : Directives.Plain "port" := by decide
  have hplain' : Directives.Plain "tls-port" := by decide
  by_cases htls : sec.tlsEnabled = true
  · have hown : G.settings "tls-port" (entry "tls-port" (toString (sentinelPort cr))) =
        [[toString (sentinelPort cr)]] := settings_entry_plain hplain' (plain_toString _)
    have hread : listensOn G "tls-port" (buildSentinelConfig cr sec) = some (sentinelPort cr) ↔
        PortGiven G (furtherSettings G "tls-port" (sentinelCertificates sec)) "tls-port"
          (toString (sentinelPortGiven cr)) (sentinelPortGiven cr) := by
      rw [listensOn, effective_sentinel_tlsPort G cr sec htls, ← sentinelPort_eq,
        portGiven_iff hplain', hown]
      rfl
    rw [if_pos htls, hread]
    constructor
    · intro h
      exact ⟨fun _ => h, fun hoff => absurd (htls.symm.trans hoff) (by decide)⟩
    · intro h
      exact h.tls htls
  · have htext : sentinelPortText cr sec = sentinelOption cr "port" "26379" := by
      rw [sentinelPortText, portText, if_neg htls]
    have hread : listensOn G "port" (buildSentinelConfig cr sec) = some (sentinelPort cr) ↔
        PortGiven G (furtherSettings G "port" (sentinelRest cr sec)) "port"
          (sentinelOption cr "port" "26379") (sentinelPortGiven cr) := by
      rw [listensOn, effective_sentinel_port, htext, ← sentinelPort_eq, portGiven_iff hplain]
    rw [if_neg htls, hread]
    constructor
    · intro h
      exact ⟨fun hon => absurd hon htls, fun _ => h⟩
    · intro h
      exact h.plaintext (by simpa using htls)

theorem sentinelProbeCommand_eq : ∃ options,
    sentinelProbeCommand cr sec = options ++ "-p " ++ toString (sentinelPort cr) ++ " PING" := by
  have hsplit : ∃ options, (if sec.tlsEnabled then
      "redis-cli --tls --cacert \"$TLS_CA_FILE\" --cert \"$TLS_CERT_FILE\" " ++
        "--key \"$TLS_KEY_FILE\" -p " else "redis-cli -p ") = options ++ "-p " := by
    split
    · exact ⟨"redis-cli --tls --cacert \"$TLS_CA_FILE\" --cert \"$TLS_CERT_FILE\" " ++
        "--key \"$TLS_KEY_FILE\" ", rfl⟩
    · exact ⟨"redis-cli ", rfl⟩
  obtain ⟨options, hoptions⟩ := hsplit
  exact ⟨options, by rw [sentinelProbeCommand, hoptions]⟩

theorem targetPort_sentinel :
    ∀ s ∈ [sentinelService cr, sentinelHeadlessService cr],
      targetPort s "sentinel" = some (sentinelPort cr) := by
  -- the override of the Service spec is the first choice for the Sentinel port already
  have hport : serviceSentinelPort cr.spec.sentinelService (sentinelPort cr) = sentinelPort cr := by
    show (if portOverride cr.spec.sentinelService (·.sentinel) ≠ 0 then
      portOverride cr.spec.sentinelService (·.sentinel) else sentinelPort cr) = sentinelPort cr
    split
    · next h => rw [sentinelPort_eq, sentinelPortGiven, if_pos h]
    · rfl
  simp only [List.forall_mem_cons]
  refine ⟨?_, rfl, nofun⟩
  exact congrArg some hport

/-- All places have one Sentinel port exactly when the last line for the listener has it. -/
theorem sentinelPorts_agree_iff :
    (∃ n, SentinelPorts G cr sec n) ↔ SentinelPortsGiven G cr sec := by
  rw [← listensOn_sentinel_iff]
  constructor
  · rintro ⟨n, h⟩
    have hn : n = sentinelPort cr := by
      have hcontainer := h.container
      simp only [sentinelContainer, List.cons.injEq, ContainerPort.mk.injEq, and_true, true_and]
        at hcontainer
      exact hcontainer.symm
    subst hn
    exact h.listens
  · intro h
    refine ⟨sentinelPort cr, h, rfl, ?_, rfl, targetPort_sentinel cr⟩
    obtain ⟨options, hcommand⟩ := sentinelProbeCommand_eq cr sec
    simp [sentinelLivenessProbe, sentinelReadinessProbe, hcommand]

end

/-- A service with another Sentinel port. -/
def reroutedS : KeyValCluster where
  name := "s"
  ns := "prod"
  spec := { mode := .sentinel, redisReplicas := 3, sentinelCount := some 3
            sentinelService := some { ports := some { sentinel := 26380 } } }

/-- `sentinel.conf` keeps port 26379, and everything else uses 26380. -/
theorem rerouted_sentinel_disagrees : ¬ ∃ n, SentinelPorts .blanks reroutedS {} n := by
  rintro ⟨n, h⟩
  have hn : n = 26380 := by
    have hcontainer : [⟨"sentinel", 26380⟩] = [(⟨"sentinel", n⟩ : ContainerPort)] := h.container
    simp only [List.cons.injEq, ContainerPort.mk.injEq, and_true, true_and] at hcontainer
    exact hcontainer.symm
  subst hn
  have hgiven := ((listensOn_sentinel_iff .blanks reroutedS {}).1 h.listens).plaintext rfl
  have hquiet : furtherSettings .blanks "port" (sentinelRest reroutedS {}) = [] :=
    furtherSettings_eq_nil (by decide +kernel)
  have htext : "26379" = toString (26380 : Int) := (hgiven.plain ⟨hquiet, by decide +kernel⟩).1
  revert htext
  decide

/-! ## Two listeners -/

/-- The plaintext listener of a file is off, or on another port than the TLS listener. -/
def Apart (G : Grammar) (file : String) : Prop :=
  ∃ p, listensOn G "port" file = some p ∧ (p = 0 ∨ listensOn G "tls-port" file ≠ some p)

/-- What is given keeps the listeners of a file apart. With no later line for either and a plain
port, the plaintext listener is off or the port is another one than the TLS port `n`; otherwise the
lines decide. -/
structure ApartGiven (G : Grammar) (sec : Settings) (later laterTLS : List (List String))
    (value : String) (n : Int) : Prop where
  plain : later = [] ∧ laterTLS = [] ∧ Directives.Plain value →
    sec.disablePlaintext = true ∨ ∃ p : Int, value = toString p ∧ 0 < p ∧ p ≤ 65535 ∧ p ≠ n
  lines : ¬ (later = [] ∧ laterTLS = [] ∧ Directives.Plain value) →
    ∃ p, (later.getLast?.or (G.settings "port" (entry "port"
        (portText (toString n) sec value))).getLast?).bind portNumber = some p ∧
      (p = 0 ∨ (laterTLS.getLast?.or (some [toString n])).bind portNumber ≠ some p)

section
variable {G : Grammar} {sec : Settings} {value : String} {n : Int}

theorem plain_portText (port : Int) (h : Directives.Plain value) :
    Directives.Plain (portText (toString port) sec value) := by
  unfold portText
  split_ifs
  · decide
  · exact plain_toString port
  · exact h
  · exact h

/-- The plain case: a valid port of the configuration is the TLS port itself unless a Service sets
that. -/
theorem apart_plain (htls : sec.tlsEnabled = true) (hn : n ≠ 0) (hvalue : Directives.Plain value) :
    (∃ p, portNumber [portText (toString n) sec value] = some p ∧
      (p = 0 ∨ portNumber [toString n] ≠ some p)) ↔
    sec.disablePlaintext = true ∨ ∃ p : Int, value = toString p ∧ 0 < p ∧ p ≤ 65535 ∧ p ≠ n := by
  have hzero : portNumber ["0"] = some 0 := by decide
  by_cases hdisable : sec.disablePlaintext = true
  · have htext : portText (toString n) sec value = "0" := by
      simp [portText, htls, hdisable]
    rw [htext]
    exact ⟨fun _ => .inl hdisable, fun _ => ⟨0, hzero, .inl rfl⟩⟩
  · have hsame (p : Int) (hp : p ≤ 65535 ∧ 0 ≤ p) : portNumber [toString n] ≠ some p ↔ p ≠ n := by
      rw [portNumber_toString]
      split
      · rw [ne_eq, Option.some_inj]
        exact ⟨Ne.symm, Ne.symm⟩
      · next hrange =>
        simp only [ne_eq, reduceCtorEq, not_false_eq_true, true_iff]
        rintro rfl
        exact hrange ⟨hp.2, hp.1⟩
    by_cases hoff : value = "0"
    · have htext : portText (toString n) sec value = toString n := by
        simp [portText, htls, hdisable, hoff]
      rw [htext]
      constructor
      · rintro ⟨p, hp, hapart⟩
        rw [portNumber_toString] at hp
        split at hp
        · next hrange =>
          obtain rfl := Option.some.inj hp
          rw [hsame n ⟨hrange.2, hrange.1⟩] at hapart
          exact absurd rfl (hapart.resolve_left hn)
        · cases hp
      · rintro (h | ⟨p, hp, hpos, hle, -⟩)
        · exact absurd h hdisable
        · have hnumber : portNumber ["0"] = some p :=
            portNumber_eq_some.2 ⟨hoff ▸ hp, hpos.le, hle⟩
          obtain rfl := Option.some.inj (hzero.symm.trans hnumber)
          exact absurd hpos (by decide)
    · have htext : portText (toString n) sec value = value := by
        simp [portText, htls, hdisable, hoff, hvalue.1]
      rw [htext]
      constructor
      · rintro ⟨p, hp, hapart⟩
        obtain ⟨rfl, hnonneg, hle⟩ := portNumber_eq_some.1 hp
        have hpos : p ≠ 0 := by
          rintro rfl
          exact hoff rfl
        exact .inr ⟨p, rfl, by omega, hle, (hsame p ⟨hle, hnonneg⟩).1 (hapart.resolve_left hpos)⟩
      · rintro (h | ⟨p, rfl, hpos, hle, hne⟩)
        · exact absurd h hdisable
        · exact ⟨p, portNumber_eq_some.2 ⟨rfl, hpos.le, hle⟩, .inr ((hsame p ⟨hle, hpos.le⟩).2 hne)⟩

theorem apart_iff {file : String} {later laterTLS : List (List String)}
    (htls : sec.tlsEnabled = true) (hn : n ≠ 0)
    (hport : G.effective "port" file.toList = later.getLast?.or (G.settings "port"
      (entry "port" (portText (toString n) sec value))).getLast?)
    (htlsPort : G.effective "tls-port" file.toList = laterTLS.getLast?.or (some [toString n])) :
    Apart G file ↔ ApartGiven G sec later laterTLS value n := by
  unfold Apart listensOn
  rw [hport, htlsPort]
  by_cases hplain : later = [] ∧ laterTLS = [] ∧ Directives.Plain value
  · have hcases := apart_plain htls hn hplain.2.2
    rw [hplain.1, hplain.2.1, settings_entry_plain (by decide) (plain_portText n hplain.2.2)]
    constructor
    · intro h
      exact ⟨fun _ => hcases.1 h, fun hlines => absurd ⟨rfl, rfl, hplain.2.2⟩ hlines⟩
    · intro h
      exact hcases.2 (h.plain ⟨rfl, rfl, hplain.2.2⟩)
  · constructor
    · intro h
      exact ⟨fun hquiet => absurd hquiet hplain, fun _ => h⟩
    · intro h
      exact h.lines hplain

end

section
variable (G : Grammar) (cr : KeyValCluster) (sec : Settings)

/-- The listeners are apart in the files that are rendered. -/
structure ListenersApart : Prop where
  redis : Apart G (buildRedisConfig cr sec)
  sentinel : cr.spec.mode = .sentinel → Apart G (buildSentinelConfig cr sec)

/-- `ListenersApart`, by the spec. -/
structure ListenersApartGiven : Prop where
  redis : ApartGiven G sec (G.later "port" (givenConfig cr sec) Rendered)
    (G.later "tls-port" (givenConfig cr sec) Rendered)
    ((cr.spec.redisConfig.lookup "port").getD "6379") (redisPortGiven cr)
  sentinel : cr.spec.mode = .sentinel → ApartGiven G sec
    (furtherSettings G "port" (sentinelRest cr sec))
    (furtherSettings G "tls-port" (sentinelCertificates sec))
    (sentinelOption cr "port" "26379") (sentinelPortGiven cr)

variable {G cr sec}

theorem apart_redis_iff (htls : sec.tlsEnabled = true) :
    Apart G (buildRedisConfig cr sec) ↔
      ApartGiven G sec (G.later "port" (givenConfig cr sec) Rendered)
        (G.later "tls-port" (givenConfig cr sec) Rendered)
        ((cr.spec.redisConfig.lookup "port").getD "6379") (redisPortGiven cr) := by
  refine apart_iff htls (redisPortGiven_range cr).1.ne' ?_ ?_
  · rw [effective_redis_port, redisPortText, redisPort_eq]
  · rw [effective_redis_tlsPort cr sec htls, redisPort_eq]

theorem apart_sentinel_iff (htls : sec.tlsEnabled = true) :
    Apart G (buildSentinelConfig cr sec) ↔
      ApartGiven G sec (furtherSettings G "port" (sentinelRest cr sec))
        (furtherSettings G "tls-port" (sentinelCertificates sec))
        (sentinelOption cr "port" "26379") (sentinelPortGiven cr) := by
  refine apart_iff htls (sentinelPortGiven_ne_zero cr) ?_ ?_
  · rw [effective_sentinel_port, sentinelPortText, sentinelPort_eq]
  · rw [effective_sentinel_tlsPort G cr sec htls, sentinelPort_eq]

/-- With TLS, no file has both listeners on one port exactly when what is given keeps them apart. -/
theorem listenersApart_iff (htls : sec.tlsEnabled = true) :
    ListenersApart G cr sec ↔ ListenersApartGiven G cr sec := by
  constructor
  · intro h
    exact ⟨(apart_redis_iff htls).1 h.redis,
      fun hmode => (apart_sentinel_iff htls).1 (h.sentinel hmode)⟩
  · intro h
    exact ⟨(apart_redis_iff htls).2 h.redis,
      fun hmode => (apart_sentinel_iff htls).2 (h.sentinel hmode)⟩

end

/-- In `redis.conf` a plain port is no way out: the TLS listener takes it, whatever it is. -/
theorem apart_redis_plain {G : Grammar} {cr : KeyValCluster} {sec : Settings}
    (htls : sec.tlsEnabled = true)
    (hkeys : ∀ key ∈ givenConfig cr sec,
      Directives.Plain key ∧ '\n' ∉ (Map.str (givenConfig cr sec) key).toList)
    (hport : Directives.Plain ((cr.spec.redisConfig.lookup "port").getD "6379")) :
    Apart G (buildRedisConfig cr sec) ↔ sec.disablePlaintext = true := by
  have hquiet : G.later "port" (givenConfig cr sec) Rendered = [] ∧
      G.later "tls-port" (givenConfig cr sec) Rendered = [] ∧
      Directives.Plain ((cr.spec.redisConfig.lookup "port").getD "6379") :=
    ⟨later_eq_nil hkeys, later_eq_nil hkeys, hport⟩
  rw [apart_redis_iff htls]
  constructor
  · intro h
    rcases h.plain hquiet with hdisable | ⟨p, htext, hpos, hle, hne⟩
    · exact hdisable
    · exfalso
      apply hne
      cases hgiven : cr.spec.redisConfig.lookup "port" with
      | none =>
        rw [hgiven] at htext
        have hnumber : portNumber ["6379"] = some p := portNumber_eq_some.2 ⟨htext, hpos.le, hle⟩
        have hdefault : redisPortGiven cr = 6379 := by
          rw [redisPortGiven, givenPort, Map.str, hgiven]
          rfl
        have hplain : portNumber ["6379"] = some 6379 := by decide
        rw [hdefault]
        exact Option.some.inj (hnumber.symm.trans hplain)
      | some value =>
        rw [hgiven] at htext
        exact (givenPort_of_text _ ((Map.str_of_lookup hgiven).trans htext) ⟨hpos, hle⟩).symm
  · intro h
    exact ⟨fun _ => .inl h, fun hlines => absurd hquiet hlines⟩

theorem soloA_given (disable : Bool) :
    ∀ key ∈ givenConfig soloA { tlsEnabled := true, disablePlaintext := disable },
      Directives.Plain key ∧ '\n' ∉ (Map.str (givenConfig soloA
        { tlsEnabled := true, disablePlaintext := disable }) key).toList := by
  simp only [← Finmap.mem_keys]
  cases disable <;> decide +kernel

/-- The plaintext listener keeps its default port, which the TLS listener takes as well. -/
theorem secured_collides :
    ¬ ListenersApart .blanks soloA { tlsEnabled := true, disablePlaintext := false } := by
  intro h
  have hdisable := (apart_redis_plain rfl (soloA_given false) (by decide)).1 h.redis
  cases hdisable

/-- Without the plaintext listener nothing collides. -/
theorem listenersApart_secured :
    ListenersApart .blanks soloA { tlsEnabled := true, disablePlaintext := true } :=
  (listenersApart_iff rfl).2 {
    redis := ⟨fun _ => .inl rfl, fun h => absurd
      ⟨later_eq_nil (soloA_given true), later_eq_nil (soloA_given true), by decide⟩ h⟩
    sentinel := fun hmode => absurd hmode (by decide) }

end Keyval.Resources
