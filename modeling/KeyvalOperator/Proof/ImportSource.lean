import KeyvalOperator.Api.RedisWorld
import KeyvalOperator.Proof.Import

/-!
# The source of an import, and imports that are completed

A call of `ensure` reads the address, the credentials and the certificates of the source before it
looks at the status, also when the import is completed.

* `buildExternalConfig_isOk`: the configuration is read exactly when the address is one and every
  secret key it refers to is there (`SourceReadable`).
* `completed_iff`: **when a completed import lets the reconcile go on**; it never writes to a pod.
-/

namespace Keyval.Importer

open Go Interact Interact.Prog List

variable {o : Result TLSConfig} {config : TLSConfig} {F : Formats} {env : Surroundings} {t : Trace}

/-! ## Secrets -/

/-- The secrets of the namespace and the clients of the pods, as they answer during a call. -/
structure Surroundings where
  secrets : String → Result Secret
  clients : String → Result Unit

/-- The event has the surroundings' reply. -/
def Surroundings.Agrees (env : Surroundings) (ns : String) : Event Op → Prop
  | ⟨.getSecret ns' name, r⟩ => ns' = ns → r = env.secrets name
  | ⟨.redisForPod pod, r⟩ => r = env.clients pod
  | _ => True

/-- The result is no error. -/
def IsOk {α : Type} (o : Result α) : Prop := ∃ a, o = .ok a

@[simp] theorem isOk_ok {α : Type} (a : α) : IsOk (.ok a : Result α) := ⟨a, rfl⟩

@[simp] theorem not_isOk_error {α : Type} (e : Error) : ¬ IsOk (.error e : Result α) := nofun

section
variable (F : Formats) (env : Surroundings)

/-- The value that the selector names. -/
def secretValue (sel : SecretKeySelector) : Option String :=
  if sel.name = "" ∨ sel.key = "" then none
  else match env.secrets sel.name with
    | .ok secret => secret.data.lookup sel.key
    | .error _ => none

/-- There is data under the key of a selector, if there is one. -/
def Readable (sel : Option SecretKeySelector) : Prop :=
  ∀ s, sel = some s → (secretValue env s).isSome

/-- The credentials can be read. -/
def CredentialsReadable (auth : Option ExternalSourceAuthSpec) : Prop :=
  ∀ a, auth = some a → Readable env a.usernameSecretRef ∧ Readable env a.passwordSecretRef

/-- The bundle is a list of certificates. -/
def CABundleReadable (tls : ExternalSourceTLSSpec) : Prop :=
  ∀ sel, tls.caBundleSecretRef = some sel →
    ∃ data, secretValue env sel = some data ∧ F.appendCertsFromPEM data = true

/-- There is no client certificate, or one with its key. -/
def ClientCertificateReadable (tls : ExternalSourceTLSSpec) : Prop :=
  match tls.clientCertSecretRef, tls.clientKeySecretRef with
  | none, none => True
  | some certRef, some keyRef =>
    ∃ cert key, secretValue env certRef = some cert ∧ secretValue env keyRef = some key ∧
      F.x509KeyPair cert key = none
  | _, _ => False

/-- The address can be parsed, and the secrets that the source refers to can be read. -/
structure SourceReadable (spec : ExternalSourceSpec) : Prop where
  address : IsOk (parseAddress F spec)
  credentials : CredentialsReadable env spec.auth
  certificates : useTLS spec = true → ∀ tls, spec.tls = some tls →
    CABundleReadable F env tls ∧ ClientCertificateReadable F env tls

end

section
variable {ns : String}

theorem readSecretKey_run {sel : SecretKeySelector} {o : Result String}
    (h : (readSecretKey ns sel).Runs t o) (henv : ∀ e ∈ t, env.Agrees ns e) :
    o.toOption = secretValue env sel := by
  unfold readSecretKey at h
  unfold secretValue
  split at h
  · next hempty =>
    obtain ⟨rfl, rfl⟩ := runs_ret.1 h
    rw [if_pos hempty]
    rfl
  · next hempty =>
    rw [if_neg hempty]
    obtain ⟨r, t1, rfl, h1⟩ := runs_asked.1 h
    have hr : r = env.secrets sel.name := henv _ (.head _) rfl
    rw [← hr]
    cases r with
    | error e =>
      obtain ⟨rfl, rfl⟩ := runs_ret.1 h1
      rfl
    | ok secret =>
      dsimp only at h1 ⊢
      split at h1
      · next hnone =>
        obtain ⟨rfl, rfl⟩ := runs_ret.1 h1
        rw [hnone]
        rfl
      · next val hval =>
        obtain ⟨rfl, rfl⟩ := runs_ret.1 h1
        rw [hval]
        rfl

theorem readOptional_run {sel : Option SecretKeySelector} {text : String}
    {o : Result (Option String)} (h : (readOptional ns sel text).Runs t o)
    (henv : ∀ e ∈ t, env.Agrees ns e) :
    (IsOk o ↔ Readable env sel) ∧ ∀ v, o = .ok v → v = sel.bind (secretValue env) := by
  unfold readOptional at h
  cases sel with
  | none =>
    obtain ⟨rfl, rfl⟩ := runs_ret.1 h
    exact ⟨by simp [Readable], fun v hv => by cases hv; rfl⟩
  | some sel =>
    obtain ⟨t1, r, t2, rfl, hread, h1⟩ := runs_bind.1 h
    have hvalue := readSecretKey_run hread fun e he => henv e (mem_append_left _ he)
    cases r with
    | error e =>
      obtain ⟨rfl, rfl⟩ := runs_ret.1 h1
      have hnone : secretValue env sel = none := hvalue.symm
      exact ⟨by simp [Readable, hnone], nofun⟩
    | ok val =>
      obtain ⟨rfl, rfl⟩ := runs_ret.1 h1
      have hsome : secretValue env sel = some val := hvalue.symm
      exact ⟨by simp [Readable, hsome], fun v hv => by cases hv; simp [hsome]⟩

theorem readCredentials_run {auth : Option ExternalSourceAuthSpec} {cfg : ExternalConfig}
    {o : Result ExternalConfig} (h : (readCredentials ns auth cfg).Runs t o)
    (henv : ∀ e ∈ t, env.Agrees ns e) : IsOk o ↔ CredentialsReadable env auth := by
  unfold readCredentials at h
  cases auth with
  | none =>
    obtain ⟨rfl, rfl⟩ := runs_ret.1 h
    simp [CredentialsReadable]
  | some auth =>
    obtain ⟨t1, r, t2, rfl, huser, h1⟩ := runs_bind.1 h
    rw [forall_mem_append] at henv
    have huser := (readOptional_run huser henv.1).1
    cases r with
    | error e =>
      obtain ⟨rfl, rfl⟩ := runs_ret.1 h1
      simp only [not_isOk_error, false_iff] at huser
      simp [CredentialsReadable, huser]
    | ok user =>
      obtain ⟨t3, r, t4, rfl, hpass, h2⟩ := runs_bind.1 h1
      have hpass := (readOptional_run hpass fun e he => henv.2 e (mem_append_left _ he)).1
      cases r with
      | error e =>
        obtain ⟨rfl, rfl⟩ := runs_ret.1 h2
        simp only [not_isOk_error, false_iff] at hpass
        simp [CredentialsReadable, hpass]
      | ok pass =>
        obtain ⟨rfl, rfl⟩ := runs_ret.1 h2
        simp only [isOk_ok, true_iff] at huser hpass
        simp [CredentialsReadable, huser, hpass]

theorem readKeyPair_run {certRef keyRef : SecretKeySelector}
    (h : (readKeyPair F ns certRef keyRef config).Runs t o) (henv : ∀ e ∈ t, env.Agrees ns e) :
    IsOk o ↔ ∃ cert key, secretValue env certRef = some cert ∧ secretValue env keyRef = some key ∧
      F.x509KeyPair cert key = none := by
  obtain ⟨t1, r, t2, rfl, hread, h1⟩ := runs_bind.1 h
  rw [forall_mem_append] at henv
  have hcertValue := readSecretKey_run hread henv.1
  cases r with
  | error e =>
    obtain ⟨rfl, rfl⟩ := runs_ret.1 h1
    simp [← hcertValue, Except.toOption]
  | ok cert =>
    obtain ⟨t3, r, t4, rfl, hread, h2⟩ := runs_bind.1 h1
    have hkeyValue := readSecretKey_run hread fun e he => henv.2 e (mem_append_left _ he)
    cases r with
    | error e =>
      obtain ⟨rfl, rfl⟩ := runs_ret.1 h2
      simp [← hkeyValue, Except.toOption]
    | ok key =>
      simp only [← hcertValue, ← hkeyValue, Except.toOption, Option.some.injEq,
        exists_and_left, exists_eq_left']
      dsimp only at h2
      split at h2
      · next e herror =>
        obtain ⟨rfl, rfl⟩ := runs_ret.1 h2
        simp [herror]
      · next hpair =>
        obtain ⟨rfl, rfl⟩ := runs_ret.1 h2
        simp [hpair]

theorem readClientCertificate_run {tls : ExternalSourceTLSSpec}
    (h : (readClientCertificate F ns tls config).Runs t o)
    (henv : ∀ e ∈ t, env.Agrees ns e) : IsOk o ↔ ClientCertificateReadable F env tls := by
  unfold readClientCertificate at h
  unfold ClientCertificateReadable
  cases hcert : tls.clientCertSecretRef with
  | none =>
    cases hkey : tls.clientKeySecretRef with
    | none =>
      rw [hcert, hkey] at h
      obtain ⟨rfl, rfl⟩ := runs_ret.1 h
      exact iff_of_true (isOk_ok _) trivial
    | some keyRef =>
      rw [hcert, hkey] at h
      obtain ⟨rfl, rfl⟩ := runs_ret.1 h
      exact iff_of_false (not_isOk_error _) id
  | some certRef =>
    cases hkey : tls.clientKeySecretRef with
    | none =>
      rw [hcert, hkey] at h
      obtain ⟨rfl, rfl⟩ := runs_ret.1 h
      exact iff_of_false (not_isOk_error _) id
    | some keyRef =>
      rw [hcert, hkey] at h
      exact readKeyPair_run h henv

theorem readCertificates_run {tls : ExternalSourceTLSSpec}
    (h : (readCertificates F ns tls config).Runs t o) (henv : ∀ e ∈ t, env.Agrees ns e) :
    IsOk o ↔ CABundleReadable F env tls ∧ ClientCertificateReadable F env tls := by
  obtain ⟨t1, r, t2, rfl, hread, h1⟩ := runs_bind.1 h
  rw [forall_mem_append] at henv
  obtain ⟨hok, hvalue⟩ := readOptional_run hread henv.1
  cases r with
  | error e =>
    obtain ⟨rfl, rfl⟩ := runs_ret.1 h1
    simp only [not_isOk_error, false_iff, not_and] at hok ⊢
    intro hbundle
    refine absurd (fun sel hsel => ?_) hok
    obtain ⟨data, hdata, -⟩ := hbundle sel hsel
    simp [hdata]
  | ok ca =>
    have hca := hvalue ca rfl
    cases ca with
    | none =>
      have hnone : CABundleReadable F env tls := by
        intro sel hsel
        obtain ⟨data, hdata⟩ := Option.isSome_iff_exists.1 ((hok.1 (isOk_ok _)) sel hsel)
        rw [hsel, Option.bind_some, hdata] at hca
        cases hca
      rw [readClientCertificate_run h1 henv.2]
      exact (and_iff_right hnone).symm
    | some data =>
      obtain ⟨sel, hsel, hdata⟩ := Option.bind_eq_some_iff.1 hca.symm
      have hbundle : CABundleReadable F env tls ↔ F.appendCertsFromPEM data = true := by
        simp [CABundleReadable, hsel, hdata]
      dsimp only at h1
      split at h1
      · next hpem =>
        obtain ⟨rfl, rfl⟩ := runs_ret.1 h1
        simp [hbundle, hpem]
      · next hpem =>
        rw [not_not] at hpem
        rw [readClientCertificate_run h1 henv.2, hbundle, hpem]
        simp

theorem buildTLSConfig_run {spec : ExternalSourceSpec} {serverName : String}
    {o : Result (Option TLSConfig)} (h : (buildTLSConfig F ns spec serverName).Runs t o)
    (henv : ∀ e ∈ t, env.Agrees ns e) :
    IsOk o ↔ (useTLS spec = true → ∀ tls, spec.tls = some tls →
      CABundleReadable F env tls ∧ ClientCertificateReadable F env tls) := by
  unfold buildTLSConfig at h
  split at h
  · next huse =>
    obtain ⟨rfl, rfl⟩ := runs_ret.1 h
    simp [huse]
  · next huse =>
    rw [not_not] at huse
    simp only [huse, forall_const]
    dsimp only at h
    split at h
    · next hnone =>
      obtain ⟨rfl, rfl⟩ := runs_ret.1 h
      simp [hnone]
    · next tls htls =>
      obtain ⟨t1, r, t2, rfl, hread, h1⟩ := runs_bind.1 h
      have hok := readCertificates_run hread fun e he => henv e (mem_append_left _ he)
      simp only [htls, Option.some.injEq, forall_eq', ← hok]
      cases r with
      | error e =>
        obtain ⟨rfl, rfl⟩ := runs_ret.1 h1
        simp
      | ok config =>
        obtain ⟨rfl, rfl⟩ := runs_ret.1 h1
        simp

/-- **The configuration of the source** is read exactly when its address and secrets are there. -/
theorem buildExternalConfig_isOk {spec : ExternalSourceSpec} {o : Result ExternalConfig}
    (h : (buildExternalConfig F ns spec).Runs t o) (henv : ∀ e ∈ t, env.Agrees ns e) :
    IsOk o ↔ SourceReadable F env spec := by
  unfold buildExternalConfig at h
  cases haddress : parseAddress F spec with
  | error e =>
    rw [haddress] at h
    obtain ⟨rfl, rfl⟩ := runs_ret.1 h
    simp only [not_isOk_error, false_iff]
    intro hreadable
    have haddr := hreadable.address
    rw [haddress] at haddr
    exact not_isOk_error e haddr
  | ok cfg =>
    rw [haddress] at h
    obtain ⟨t1, r, t2, rfl, hread, h1⟩ := runs_bind.1 h
    rw [forall_mem_append] at henv
    have hcredentials := readCredentials_run hread henv.1
    cases r with
    | error e =>
      obtain ⟨rfl, rfl⟩ := runs_ret.1 h1
      simp only [not_isOk_error, false_iff] at hcredentials ⊢
      exact fun hreadable => hcredentials hreadable.credentials
    | ok cfg' =>
      obtain ⟨t3, r, t4, rfl, hread, h2⟩ := runs_bind.1 h1
      have hcertificates := buildTLSConfig_run hread fun e he =>
        henv.2 e (mem_append_left _ he)
      have haddr : IsOk (parseAddress F spec) := ⟨cfg, haddress⟩
      cases r with
      | error e =>
        obtain ⟨rfl, rfl⟩ := runs_ret.1 h2
        simp only [not_isOk_error, false_iff] at hcertificates ⊢
        exact fun hreadable => hcertificates hreadable.certificates
      | ok tlsConfig =>
        obtain ⟨rfl, rfl⟩ := runs_ret.1 h2
        simp only [isOk_ok, true_iff] at hcredentials hcertificates ⊢
        exact ⟨haddr, hcredentials, hcertificates⟩

/-! ### Nothing is asked of a pod -/

theorem readSecretKey_asks (ns : String) (sel : SecretKeySelector) :
    Asks Approaches (readSecretKey ns sel) := by
  unfold readSecretKey
  split
  · exact .ret _
  · refine .call trivial fun r _ => ?_
    rw [ret_bind]
    cases r with
    | error e => exact .ret _
    | ok secret =>
      dsimp only
      split <;> exact .ret _

theorem readOptional_asks (ns : String) (sel : Option SecretKeySelector) (text : String) :
    Asks Approaches (readOptional ns sel text) := by
  cases sel with
  | none => exact .ret _
  | some sel =>
    refine (readSecretKey_asks ns sel).bind fun r => ?_
    cases r <;> exact .ret _

theorem readCredentials_asks (ns : String) (auth : Option ExternalSourceAuthSpec)
    (cfg : ExternalConfig) : Asks Approaches (readCredentials ns auth cfg) := by
  cases auth with
  | none => exact .ret _
  | some auth =>
    refine (readOptional_asks ns _ _).bind fun r => ?_
    cases r with
    | error e => exact .ret _
    | ok user =>
      refine (readOptional_asks ns _ _).bind fun r => ?_
      cases r <;> exact .ret _

theorem readKeyPair_asks (F : Formats) (ns : String) (certRef keyRef : SecretKeySelector)
    (config : TLSConfig) : Asks Approaches (readKeyPair F ns certRef keyRef config) := by
  refine (readSecretKey_asks ns _).bind fun r => ?_
  cases r with
  | error e => exact .ret _
  | ok cert =>
    refine (readSecretKey_asks ns _).bind fun r => ?_
    cases r with
    | error e => exact .ret _
    | ok key =>
      dsimp only
      split <;> exact .ret _

theorem readClientCertificate_asks (F : Formats) (ns : String) (tls : ExternalSourceTLSSpec)
    (config : TLSConfig) : Asks Approaches (readClientCertificate F ns tls config) := by
  unfold readClientCertificate
  split
  · exact .ret _
  · exact readKeyPair_asks F ns _ _ _
  · exact .ret _

theorem buildTLSConfig_asks (F : Formats) (ns : String) (spec : ExternalSourceSpec)
    (serverName : String) : Asks Approaches (buildTLSConfig F ns spec serverName) := by
  unfold buildTLSConfig
  split
  · exact .ret _
  · dsimp only
    split
    · exact .ret _
    · next tls _ =>
      refine Issues.bind (α := Result TLSConfig) ?_ fun r => ?_
      · refine (readOptional_asks ns _ _).bind fun r => ?_
        match r with
        | .error e => exact .ret _
        | .ok none => exact readClientCertificate_asks F ns _ _
        | .ok (some data) =>
          dsimp only
          split
          · exact .ret _
          · exact readClientCertificate_asks F ns _ _
      · cases r <;> exact .ret _

theorem buildExternalConfig_asks (F : Formats) (ns : String) (spec : ExternalSourceSpec) :
    Asks Approaches (buildExternalConfig F ns spec) := by
  unfold buildExternalConfig
  split
  · exact .ret _
  · refine (readCredentials_asks ns _ _).bind fun r => ?_
    cases r with
    | error e => exact .ret _
    | ok cfg =>
      refine (buildTLSConfig_asks F ns spec _).bind fun r => ?_
      cases r <;> exact .ret _

/-- **What the importer asks for.** -/
theorem ensure_asks (F : Formats) (opts : Options) : Asks ImportReq (ensure F opts) := by
  unfold ensure
  split
  · exact finalizeImport_asks
  · unfold ensureSource
    split
    · exact .ret _
    split
    · exact .ret _
    refine Issues.bind ((buildExternalConfig_asks F _ _).mono fun q hq => hq.prior.importReq)
      fun r => ?_
    cases r with
    | error e => exact .ret _
    | ok cfg =>
      dsimp only
      split
      · exact .ret _
      split
      · exact .ret _
      refine .call trivial fun r _ => ?_
      cases r with
      | error e => exact .ret _
      | ok _ => exact checkTarget_asks _

end

/-! ## Completed imports -/

section
variable {opts : Options} {spec : ExternalSourceSpec} {prev : ExternalImportStatus} {out : Outcome}

/-- The import of the source is completed. -/
structure CompletedFor (spec : ExternalSourceSpec) (st : ExternalImportStatus) : Prop where
  state : st.state = importStateCompleted
  source : st.source = spec.address
  mode : st.mode = (syncMode spec).str

theorem CompletedFor.startStatus_eq (h : CompletedFor spec prev) :
    startStatus spec prev = prev := by
  have hreset : stateReset spec prev = false := by simp [stateReset, h.source, h.mode]
  have hstate : prev.state ≠ "" := by
    rw [h.state]
    decide
  unfold startStatus
  simp [hreset, hstate, ← h.source, ← h.mode]

theorem Obstacle.approaches (h : Obstacle F opts spec t) : ∀ e ∈ t, Approaches e.req := by
  have hreads : ∀ {t : Trace} {o : Result ExternalConfig},
      (buildExternalConfig F opts.cluster.ns spec).Runs t o → ∀ e ∈ t, Approaches e.req :=
    fun hrun => (buildExternalConfig_asks F _ spec).mem hrun
  cases h with
  | noFactory | noKubeClient => exact forall_mem_nil _
  | noConfig hrun => exact hreads hrun
  | noPod hrun _ => exact hreads hrun
  | notReady hrun _ _ => exact hreads hrun
  | noClient hrun _ =>
    exact forall_mem_append.2 ⟨hreads hrun, forall_mem_singleton.2 trivial⟩

/-- The source is readable and the bootstrap pod is there, ready and reachable. -/
structure Unobstructed (F : Formats) (env : Surroundings) (opts : Options)
    (spec : ExternalSourceSpec) : Prop where
  clientFactory : opts.clientFactory = true
  kubeClient : opts.kubeClient = true
  source : SourceReadable F env spec
  pod : ∃ pod, selectBootstrapPod opts.pods = some pod ∧ isPodReady pod = true ∧
    env.clients pod.name = .ok ()

theorem Obstacle.not_unobstructed (h : Obstacle F opts spec t)
    (henv : ∀ e ∈ t, env.Agrees opts.cluster.ns e) : ¬ Unobstructed F env opts spec := by
  intro hclear
  obtain ⟨pod, hpod, hready, hclient⟩ := hclear.pod
  cases h with
  | noFactory hfactory => exact absurd hclear.clientFactory (by simp [hfactory])
  | noKubeClient hkube => exact absurd hclear.kubeClient (by simp [hkube])
  | noConfig hrun => exact not_isOk_error _ ((buildExternalConfig_isOk hrun henv).2 hclear.source)
  | noPod _ hnone => exact absurd hpod (by simp [hnone])
  | notReady _ hsome hnotReady =>
    obtain rfl : pod = _ := Option.some.inj (hpod.symm.trans hsome)
    exact absurd hready (by simp [hnotReady])
  | noClient _ hsome =>
    obtain rfl : pod = _ := Option.some.inj (hpod.symm.trans hsome)
    have herror := henv _ (mem_append_right _ (.head _))
    exact absurd (herror.trans hclient) nofun

/-- **A completed import** lets the reconcile go on, with the state Completed and without writing to
a pod, exactly when nothing obstructs the way to the bootstrap pod. -/
theorem completed_iff (hspec : opts.spec = some spec) (hstatus : opts.currentStatus = some prev)
    (hcompleted : CompletedFor spec prev) (h : (ensure F opts).Runs t out)
    (henv : ∀ e ∈ t, env.Agrees opts.cluster.ns e) :
    (out.1.abort = false ∧ IsCompleted out ∧ ∀ e ∈ t, ¬ Writes e.req) ↔
      Unobstructed F env opts spec := by
  unfold ensure at h
  rw [hspec, hstatus, Option.getD_some] at h
  rcases ensureSource_run h with ⟨hobstacle, habort, -⟩ |
    ⟨cfg, pod, t1, t2, hfactory, hkube, hconfig, hpod, hready, rfl, hrun⟩
  · refine ⟨fun hgoes => ?_, fun hclear => absurd hclear (hobstacle.not_unobstructed henv)⟩
    rw [hgoes.1] at habort
    cases habort
  · rw [hcompleted.startStatus_eq] at hrun
    rw [forall_mem_append, forall_mem_cons] at henv
    have hclear : Unobstructed F env opts spec :=
      ⟨hfactory, hkube, (buildExternalConfig_isOk hconfig henv.1).1 (isOk_ok _),
        pod, hpod, hready, henv.2.1.symm⟩
    refine (iff_true_intro ?_).trans (iff_true_intro hclear).symm
    cases hrun with
    | completed hstate =>
      refine ⟨rfl, ⟨prev, rfl, hstate⟩, forall_mem_append.2 ⟨fun e he => ?_, ?_⟩⟩
      · exact ((buildExternalConfig_asks F _ spec).mem hconfig e he).not_writes
      · exact forall_mem_singleton.2 id
    | failed hstate | noSize hstate | notEmpty hstate =>
      exact absurd (hcompleted.state.symm.trans hstate) (by decide)
    | noAuth hstate | attaches hstate => exact absurd hcompleted.state hstate

end

/-! ### No pods -/

/-- A source to copy. -/
def sourceA : ExternalSourceSpec := { address := "redis://source:6379" }

/-- A call with this status and these pods. -/
def optionsA (status : ExternalImportStatus) (pods : List Pod) : Options where
  cluster := soloA
  spec := some sourceA
  currentStatus := some status
  pods

/-- A completed import of the source. -/
def completedA : ExternalImportStatus where
  state := importStateCompleted
  source := "redis://source:6379"
  mode := "Snapshot"

theorem completedFor_completedA : CompletedFor sourceA completedA := ⟨rfl, rfl, rfl⟩

/-- Clients can be made. -/
def reachableEnv : Surroundings where
  secrets _ := .error (.new "unavailable")
  clients _ := .ok ()

theorem healthy_agrees (g : Graph) (ns : String) (q : Req) :
    reachableEnv.Agrees ns ⟨q, healthy g q⟩ := by
  cases q with
  | getSecret ns' name => exact fun _ => rfl
  | redisForPod pod => rfl
  | _ => trivial

theorem play_agrees {α : Type} (g : Graph) (ns : String) (p : M α) :
    ∀ e ∈ (redisWorld.play healthy g p).1, reachableEnv.Agrees ns e := by
  rintro ⟨q, rep⟩ he
  obtain ⟨g', rfl⟩ : ∃ g', rep = healthy g' q := World.play_rep _ _ _ he
  exact healthy_agrees g' ns q

/-- With a ready pod the reconcile goes on. -/
theorem completed_readyPodA :
    ∃ t out, (ensure .decimal (optionsA completedA [readyPod "a-0"])).Runs t out ∧
      out.1.abort = false ∧ IsCompleted out ∧ ∀ e ∈ t, ¬ Writes e.req := by
  have hclear : Unobstructed .decimal reachableEnv (optionsA completedA [readyPod "a-0"]) sourceA :=
    ⟨rfl, rfl, ⟨⟨_, rfl⟩, nofun, nofun⟩, readyPod "a-0", rfl, rfl, rfl⟩
  have hrun := World.runs_play (W := redisWorld) (r := healthy) (fun _ => .master)
    (ensure .decimal (optionsA completedA [readyPod "a-0"]))
  exact ⟨_, _, hrun,
    (completed_iff rfl rfl completedFor_completedA hrun (play_agrees _ _ _)).2 hclear⟩

/-- **Without pods a completed import aborts every reconcile.** -/
theorem completed_noPods : CompletedFor sourceA completedA ∧
    ∃ t out, (ensure .decimal (optionsA completedA [])).Runs t out ∧ out.1.abort = true :=
  ⟨completedFor_completedA, _, _, World.runs_play (W := redisWorld) (r := healthy)
    (fun _ => .master) _, rfl⟩

end Keyval.Importer
