import KeyvalOperator.Proof.Certificates
import KeyvalOperator.Resources.Config

/-!
# What the digests tell apart

`TLSDigest` hashes the keys and values of a secret, and `ConfigHash` the rendered files and the
names and versions of the secrets, each written one after the other without a mark between them.
Where SHA-256 has no collision, two digests differ exactly when these texts do.

* `digests_iff`, `configHash_eq`: the text that is hashed.
* `separates_iff`: **the digests tell different inputs apart exactly when the inputs also differ
  once their boundaries are forgotten**.
-/

namespace Keyval.Security

open Go Interact Interact.Prog Resources List

/-! ## Sums -/

theorem hexDigit_injective {m n : Nat} (hm : m < 16) (hn : n < 16) (h : hexDigit m = hexDigit n) :
    m = n := by
  have hfin : ∀ m n : Fin 16, hexDigit m = hexDigit n → m = n := by decide
  exact congrArg Fin.val (hfin ⟨m, hm⟩ ⟨n, hn⟩ h)

theorem hexEncode_injective {a b : BitVec 256} (h : hexEncode a = hexEncode b) : a = b := by
  have hdigit : ∀ i < 64, a.toNat >>> (4 * (63 - i)) % 16 = b.toNat >>> (4 * (63 - i)) % 16 := by
    intro i hi
    refine hexDigit_injective (Nat.mod_lt _ (by decide)) (Nat.mod_lt _ (by decide)) ?_
    exact map_inj_left.1 (String.ofList_injective h) i (mem_range.2 hi)
  -- the bit `j` is a bit of the digit `63 - j / 4`
  refine BitVec.eq_of_toNat_eq (Nat.eq_of_testBit_eq fun j => ?_)
  by_cases hj : j < 256
  · have hplace : 4 * (63 - (63 - j / 4)) + j % 4 = j := by omega
    have hread (x : Nat) : (x >>> (4 * (63 - (63 - j / 4))) % 2 ^ 4).testBit (j % 4) =
        x.testBit j := by
      rw [Nat.testBit_mod_two_pow, Nat.testBit_shiftRight, hplace,
        decide_eq_true (Nat.mod_lt j (by decide)), Bool.true_and]
    rw [← hread a.toNat, ← hread b.toNat]
    exact congrArg (Nat.testBit · (j % 4)) (hdigit (63 - j / 4) (by omega))
  · have hlarge : 2 ^ 256 ≤ 2 ^ j := Nat.pow_le_pow_right (by decide) (by omega)
    rw [Nat.testBit_lt_two_pow (a.isLt.trans_le hlarge),
      Nat.testBit_lt_two_pow (b.isLt.trans_le hlarge)]

/-- SHA-256 has no collision among some messages. -/
def CollisionFree (F : Formats) (messages : List String) : Prop :=
  ∀ m ∈ messages, ∀ m' ∈ messages, F.sha256 m = F.sha256 m' → m = m'

instance (F : Formats) (messages : List String) : Decidable (CollisionFree F messages) :=
  inferInstanceAs (Decidable (∀ m ∈ messages, ∀ m' ∈ messages, _))

theorem CollisionFree.digest_eq_iff {F : Formats} {messages : List String}
    (h : CollisionFree F messages) {m m' : String} (hm : m ∈ messages) (hm' : m' ∈ messages) :
    hexEncode (F.sha256 m) = hexEncode (F.sha256 m') ↔ m = m' := by
  constructor
  · intro heq
    exact h m hm m' hm' (hexEncode_injective heq)
  · rintro rfl
    rfl

/-! ## Secrets -/

/-- The text that the digest hashes. -/
def spelledData (data : Map String) : String :=
  String.join (data.sortedKeys.map fun k => k ++ Map.str data k)

theorem dataDigest_eq (F : Formats) (data : Map String) :
    dataDigest F data = hexEncode (F.sha256 (spelledData data)) := by
  have hkeys : data.keys.sort (· ≤ ·) = data.sortedKeys := by
    have hmem : ∀ k, k ∈ data.keys.sort (· ≤ ·) ↔ k ∈ data.sortedKeys := by
      intro k
      rw [Finset.mem_sort, Map.mem_sortedKeys, Finmap.mem_keys]
    have hperm := (perm_ext_iff_of_nodup (Finset.sort_nodup _ _) data.nodup_sortedKeys).2 hmem
    exact hperm.eq_of_pairwise' (Finset.pairwise_sort _ _)
      (data.sortedKeys_pairwise.imp fun hlt => hlt.le)
  rw [dataDigest, spelledData, hkeys]

/-- The spec names a secret with certificates. -/
def UsesTLS (cr : KeyValCluster) : Prop :=
  ∃ tls, cr.spec.security.bind (·.tls) = some tls ∧ tls.enabled = true ∧ tls.secretName ≠ ""

/-- `TLSDigest` returns the digest when it reads the secret. -/
def Digests (F : Formats) (cr : KeyValCluster) (secret : Secret) (digest : String) : Prop :=
  ∃ name, (tlsDigest F cr).Runs [⟨.getSecret cr.ns name, .ok secret⟩] (digest, true)

theorem digests_iff {F : Formats} {cr : KeyValCluster} (h : UsesTLS cr) {secret : Secret}
    {digest : String} :
    Digests F cr secret digest ↔ digest = hexEncode (F.sha256 (spelledData secret.data)) := by
  obtain ⟨tls, htls, henabled, hname⟩ := h
  constructor
  · rintro ⟨name, hrun⟩
    obtain ⟨r, ht, hdigest⟩ := tlsDigest_run htls henabled hname hrun
    cases ht
    rw [← dataDigest_eq]
    exact hdigest
  · rintro rfl
    refine ⟨tls.secretName, ?_⟩
    rw [← dataDigest_eq]
    unfold tlsDigest
    simp only [htls, henabled, hname, not_true_eq_false, or_self, if_false]
    exact .call _ (.ret _)

/-! ## Configurations -/

/-- The secrets in use, with their versions. -/
def secretRefs (sec : Settings) : Option (String × String) × Option (String × String) :=
  (if sec.authEnabled then some (sec.authSecretName, sec.authResourceVersion) else none,
    if sec.tlsEnabled then some (sec.tlsSecretName, sec.tlsResourceVersion) else none)

/-- A secret and its version as one text. -/
def spelledRef : Option (String × String) → String
  | none => ""
  | some (name, version) => name ++ version

/-- The text that the configuration hashes. -/
def spelledRefs (sec : Settings) : String :=
  spelledRef (secretRefs sec).1 ++ spelledRef (secretRefs sec).2

/-- The rendered files and the scripts, as `ConfigHash` writes them. -/
def spelledFiles (scripts : Scripts) (cr : KeyValCluster) (sec : Settings) : String :=
  buildRedisConfig cr sec ++ "\n--\n" ++
    (if cr.spec.mode = .sentinel then buildSentinelConfig cr sec else "") ++
    "\n--bootstrap\n" ++ scripts.bootstrap ++ "\n--liveness\n" ++ scripts.liveness ++
    "\n--readiness\n" ++ scripts.readiness

theorem configHash_eq (F : Formats) (scripts : Scripts) (cr : KeyValCluster) (sec : Settings) :
    configHash F scripts cr sec =
      hexEncode (F.sha256 (spelledFiles scripts cr sec ++ spelledRefs sec)) := by
  have hauth : (if sec.authEnabled then sec.authSecretName ++ sec.authResourceVersion else "") =
      spelledRef (secretRefs sec).1 := by
    unfold secretRefs
    split <;> rfl
  have htls : (if sec.tlsEnabled then sec.tlsSecretName ++ sec.tlsResourceVersion else "") =
      spelledRef (secretRefs sec).2 := by
    unfold secretRefs
    split <;> rfl
  unfold configHash spelledFiles spelledRefs
  rw [hauth, htls]
  simp only [String.append_assoc]

section
variable {scripts : Scripts} {cr cr' : KeyValCluster} {sec sec' : Settings}

theorem lookup_redisFile : (configMap scripts cr sec).data.lookup "redis.conf" =
    some (buildRedisConfig cr sec) := by
  unfold configMap
  dsimp only
  repeat rw [Finmap.lookup_insert_of_ne _ (by decide)]
  split
  · rw [Finmap.lookup_insert_of_ne _ (by decide), Finmap.lookup_insert]
  · rw [Finmap.lookup_insert]

theorem lookup_sentinelFile : (configMap scripts cr sec).data.lookup "sentinel.conf" =
    if cr.spec.mode = .sentinel then some (buildSentinelConfig cr sec) else none := by
  unfold configMap
  dsimp only
  repeat rw [Finmap.lookup_insert_of_ne _ (by decide)]
  split
  · rw [Finmap.lookup_insert]
  · rw [Finmap.lookup_insert_of_ne _ (by decide)]
    rfl

theorem spelledFiles_congr
    (h : (configMap scripts cr sec).data = (configMap scripts cr' sec').data) :
    spelledFiles scripts cr sec = spelledFiles scripts cr' sec' := by
  have hredis := congrArg (Finmap.lookup "redis.conf") h
  have hsentinel := congrArg (Finmap.lookup "sentinel.conf") h
  rw [lookup_redisFile, lookup_redisFile] at hredis
  rw [lookup_sentinelFile, lookup_sentinelFile] at hsentinel
  have htext : (if cr.spec.mode = .sentinel then buildSentinelConfig cr sec else "") =
      if cr'.spec.mode = .sentinel then buildSentinelConfig cr' sec' else "" := by
    split at hsentinel <;> split at hsentinel <;> simp_all
  unfold spelledFiles
  rw [Option.some.inj hredis, htext]

end

/-! ## Separation -/

/-- The digests of two secrets with different data differ, for clusters that use TLS, and so do the
configuration hashes of two clusters that use different secrets or versions of them. -/
structure Separates (F : Formats) (scripts : Scripts) (tls tls' : KeyValCluster)
    (secret secret' : Secret) (cr cr' : KeyValCluster) (sec sec' : Settings) : Prop where
  secrets : secret.data ≠ secret'.data → ∀ digest digest', Digests F tls secret digest →
    Digests F tls' secret' digest' → digest ≠ digest'
  configs : secretRefs sec ≠ secretRefs sec' →
    configHash F scripts cr sec ≠ configHash F scripts cr' sec'

/-- The texts that are hashed. -/
def messages (scripts : Scripts) (secret secret' : Secret) (cr cr' : KeyValCluster)
    (sec sec' : Settings) : List String :=
  [spelledData secret.data, spelledData secret'.data,
    spelledFiles scripts cr sec ++ spelledRefs sec,
    spelledFiles scripts cr' sec' ++ spelledRefs sec']

/-- Without a collision the digests tell the inputs apart exactly when those that differ also differ
as texts without boundaries: between the keys and values of the secrets, and between the names and
versions that the clusters with equal files use. -/
theorem separates_iff {F : Formats} {scripts : Scripts} {tls tls' cr cr' : KeyValCluster}
    {secret secret' : Secret} {sec sec' : Settings} (htls : UsesTLS tls) (htls' : UsesTLS tls')
    (hfiles : (configMap scripts cr sec).data = (configMap scripts cr' sec').data)
    (hfree : CollisionFree F (messages scripts secret secret' cr cr' sec sec')) :
    Separates F scripts tls tls' secret secret' cr cr' sec sec' ↔
      (secret.data ≠ secret'.data → spelledData secret.data ≠ spelledData secret'.data) ∧
      (secretRefs sec ≠ secretRefs sec' → spelledRefs sec ≠ spelledRefs sec') := by
  have hdata : hexEncode (F.sha256 (spelledData secret.data)) =
      hexEncode (F.sha256 (spelledData secret'.data)) ↔
        spelledData secret.data = spelledData secret'.data :=
    hfree.digest_eq_iff (by simp [messages]) (by simp [messages])
  have hconfig : hexEncode (F.sha256 (spelledFiles scripts cr sec ++ spelledRefs sec)) =
      hexEncode (F.sha256 (spelledFiles scripts cr' sec' ++ spelledRefs sec')) ↔
        spelledFiles scripts cr sec ++ spelledRefs sec =
          spelledFiles scripts cr' sec' ++ spelledRefs sec' :=
    hfree.digest_eq_iff (by simp [messages]) (by simp [messages])
  rw [← configHash_eq, ← configHash_eq, spelledFiles_congr hfiles, String.append_right_inj]
    at hconfig
  constructor
  · intro h
    refine ⟨fun hne heq => ?_, fun hne heq => h.configs hne (hconfig.2 heq)⟩
    exact h.secrets hne _ _ ((digests_iff htls).2 rfl) ((digests_iff htls').2 rfl) (hdata.2 heq)
  · rintro ⟨hsecrets, hconfigs⟩
    refine ⟨fun hne digest digest' hd hd' heq => ?_, fun hne heq => hconfigs hne (hconfig.1 heq)⟩
    rw [(digests_iff htls).1 hd, (digests_iff htls').1 hd'] at heq
    exact hsecrets hne (hdata.1 heq)

/-- A cluster `a` with these security settings. -/
def standaloneWith (security : SecuritySpec) : KeyValCluster :=
  { soloA with spec := { soloA.spec with security := some security } }

/-- The cluster with its certificates in the secret `certs`. -/
def securedA : KeyValCluster :=
  standaloneWith { tls := some { enabled := true, secretName := "certs" } }

/-- The cluster with its password in a secret. -/
def passwordA (name : String) : KeyValCluster :=
  standaloneWith { auth := some {
    enabled := true, passwordSecretRef := some { name, key := "password" } } }

/-- What `fromSpec` returns for it, when the secret has this version. -/
def settingsA (name version : String) : Settings where
  authEnabled := true
  password := "pw"
  authSecretName := name
  authSecretKey := "password"
  authResourceVersion := version

/-- A secret with one entry. -/
def secretOf (key value : String) (resourceVersion : String := "") : Secret where
  data := (∅ : Map String).insert key value
  resourceVersion := resourceVersion

theorem fromSpec_passwordA (F : Formats) {name : String} (hname : name ≠ "") (version : String) :
    (fromSpec F (passwordA name)).Runs
      [⟨.getSecret "prod" name, .ok (secretOf "password" "pw" version)⟩]
      (.ok (settingsA name version)) := by
  have hauth : fromAuth (passwordA name) = resolveAuthSpec (passwordA name)
      { enabled := true, passwordSecretRef := some { name, key := "password" } } {} := rfl
  unfold fromSpec
  rw [hauth, resolveAuthSpec]
  dsimp only
  rw [if_neg hname]
  exact .call _ (.ret _)

theorem usesTLS_securedA : UsesTLS securedA := ⟨_, rfl, rfl, by decide⟩

theorem separates_versions : Separates .decimal {} securedA securedA (secretOf "tls.crt" "x")
    (secretOf "tls.crt" "xy") (passwordA "s") (passwordA "s") (settingsA "s" "1")
    (settingsA "s" "12") := by
  have hfiles : (configMap {} (passwordA "s") (settingsA "s" "1")).data =
      (configMap {} (passwordA "s") (settingsA "s" "12")).data := rfl
  have hfree : CollisionFree .decimal (messages {} (secretOf "tls.crt" "x")
      (secretOf "tls.crt" "xy") (passwordA "s") (passwordA "s") (settingsA "s" "1")
      (settingsA "s" "12")) := by decide +kernel
  refine (separates_iff usesTLS_securedA usesTLS_securedA hfiles hfree).2 ⟨fun _ => ?_, fun _ => ?_⟩
  · decide +kernel
  · decide

/-- Whatever the hash function, a character that moves from a value to its key, or from a version to
its name, leaves the digest as it was. -/
theorem moved_boundary_unseen : (secretOf "a" "bc").data ≠ (secretOf "ab" "c").data ∧
    (configMap {} (passwordA "s1") (settingsA "s1" "2")).data =
      (configMap {} (passwordA "s") (settingsA "s" "12")).data ∧
    secretRefs (settingsA "s1" "2") ≠ secretRefs (settingsA "s" "12") ∧
    ∀ F : Formats,
      (fromSpec F (passwordA "s1")).Runs
        [⟨.getSecret "prod" "s1", .ok (secretOf "password" "pw" "2")⟩]
        (.ok (settingsA "s1" "2")) ∧
      (fromSpec F (passwordA "s")).Runs
        [⟨.getSecret "prod" "s", .ok (secretOf "password" "pw" "12")⟩]
        (.ok (settingsA "s" "12")) ∧
      (∀ digest, Digests F securedA (secretOf "a" "bc") digest →
        Digests F securedA (secretOf "ab" "c") digest) ∧
      configHash F {} (passwordA "s1") (settingsA "s1" "2") =
        configHash F {} (passwordA "s") (settingsA "s" "12") ∧
      ¬ Separates F {} securedA securedA (secretOf "a" "bc") (secretOf "ab" "c")
        (passwordA "s1") (passwordA "s") (settingsA "s1" "2") (settingsA "s" "12") := by
  have hrefs : secretRefs (settingsA "s1" "2") ≠ secretRefs (settingsA "s" "12") := by decide
  have hspelled : spelledData (secretOf "a" "bc").data = spelledData (secretOf "ab" "c").data := by
    decide +kernel
  have hfiles : (configMap {} (passwordA "s1") (settingsA "s1" "2")).data =
      (configMap {} (passwordA "s") (settingsA "s" "12")).data := rfl
  refine ⟨by decide, hfiles, hrefs, fun F => ?_⟩
  have hhash : configHash F {} (passwordA "s1") (settingsA "s1" "2") =
      configHash F {} (passwordA "s") (settingsA "s" "12") := by
    rw [configHash_eq, configHash_eq, spelledFiles_congr hfiles]
    rfl
  refine ⟨fromSpec_passwordA F (by decide) _, fromSpec_passwordA F (by decide) _,
    fun digest h => ?_, hhash, fun h => h.configs hrefs hhash⟩
  rw [digests_iff usesTLS_securedA] at h ⊢
  rw [h, hspelled]

end Keyval.Security
