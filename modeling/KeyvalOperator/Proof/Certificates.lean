import KeyvalOperator.Ops.Storage
import KeyvalOperator.Phases.Security
import KeyvalOperator.Proof.Planner

/-!
# Restarts for rotated certificates

A pod carries the digest of the certificates it was started with, and the reason `tls-hash` restarts
a pod whose digest differs from that of the template. The template's digest comes from a second read
of the secret, whose failure the Security phase ignores.

* `security_run`: what the Security phase reads last decides the template's digest.
* `tlsRestart_iff`: **when a pod that carries the digest of the secret is not restarted**.
-/

namespace Keyval.Storage

open Go Interact Interact.Prog List

variable {res : ResizeResult}

/-! ## Reasons of the storage phase -/

/-- The result puts no other reason on a pod. -/
def OnlyResize (res : ResizeResult) : Prop :=
  ∀ name, ∀ reason ∈ (res.podReasons.lookup name).getD [], reason = reasonResize

theorem OnlyResize.appendReason (h : OnlyResize res) (pod : String) :
    OnlyResize (appendReason res pod reasonResize) := by
  unfold Storage.appendReason
  split
  · exact h
  · dsimp only
    split
    · exact h
    · intro name reason hreason
      by_cases hname : name = pod
      · subst hname
        simp only [Finmap.lookup_insert, Option.getD_some, mem_append, mem_singleton] at hreason
        exact hreason.elim (h name reason) id
      · rw [Finmap.lookup_insert_of_ne _ hname] at hreason
        exact h name reason hreason

variable {F : Formats} {cr : KeyValCluster} {desired : Quantity} {pods : List Pod} {now : Time}

theorem trackResize_onlyResize (h : OnlyResize res) (podName : String)
    (pvc : PersistentVolumeClaim) :
    Yields (fun o => OnlyResize o.1) (trackResize F desired pods now res podName pvc) := by
  have hwait : OnlyResize (markWaiting res pvc.name defaultRequeue) := h
  unfold trackResize
  simp only [bind_eq, pure_eq, ask_eq, call_bind, ret_bind]
  split_ifs <;> simp [h, hwait, hwait.appendReason]

theorem resizePVC_onlyResize (res : ResizeResult) (pvc : PersistentVolumeClaim)
    (h : OnlyResize res) :
    Yields (fun o => OnlyResize o.1) (resizePVC F cr desired pods now res pvc) := by
  have hwait : OnlyResize (markWaiting res pvc.name defaultRequeue) := h
  unfold resizePVC
  simp only [bind_eq, pure_eq, ask_eq, call_bind, ret_bind]
  split_ifs
  · exact .ret hwait
  · refine .call fun r => ?_
    cases r with
    | error e =>
      dsimp only
      split_ifs
      · exact .ret hwait
      · cases resizeThrottle e with
        | some backoff => exact .call fun _ => .ret h
        | none => exact .ret h
    | ok pvc' => exact .call fun _ => trackResize_onlyResize h _ _
  · exact .call fun _ => trackResize_onlyResize h _ _
  · exact trackResize_onlyResize h _ _

theorem OnlyResize.sortPending (h : OnlyResize res) : OnlyResize res.sortPending := by
  unfold ResizeResult.sortPending
  split
  · exact h
  · exact h

theorem ensureResize_reasons {t : Trace} {o : ResizeResult × Option Error}
    (h : (ensureResize F cr pods).Runs t o) : OnlyResize o.1 := by
  have hempty : OnlyResize {} := fun name reason hreason => by simp at hreason
  refine Yields.of_runs (Q := fun o : ResizeResult × Option Error => OnlyResize o.1) ?_ h
  unfold ensureResize
  split
  · exact .ret hempty
  · refine .call fun r => ?_
    cases r with
    | error e => exact .ret hempty
    | ok items =>
      refine .call fun now => (Yields.forErr resizePVC_onlyResize hempty).bind fun o ho => ?_
      match o with
      | (res, some e) => exact .ret ho
      | (res, none) => exact .ret (OnlyResize.sortPending ho)

end Keyval.Storage

namespace Keyval.Security

open Go Interact Interact.Prog List

/-! ## The two reads of the secret -/

variable {F : Formats} {cr : KeyValCluster} {tls : TLSSpec} {settings : Settings} {tlsHash : String}
  {t : Trace}

theorem certificateSettings_tlsEnabled {secret : Secret} {out : Settings}
    (h : certificateSettings F tls secret out = .ok settings) : settings.tlsEnabled = true := by
  unfold certificateSettings at h
  simp only [Result.bind_eq_ok] at h
  obtain ⟨ca, -, cert, -, key, -, h⟩ := h
  split at h
  · split at h <;> cases h
    rfl
  · cases h
    rfl

theorem fromSpec_tls (htls : cr.spec.security.bind (·.tls) = some tls)
    (henabled : tls.enabled = true) (h : (fromSpec F cr).Runs t (.ok settings)) :
    settings.tlsEnabled = true ∧ tls.secretName ≠ "" := by
  obtain ⟨t1, r, t2, rfl, -, h⟩ := runs_bind.1 h
  cases r with
  | error e => cases (runs_ret.1 h).2
  | ok out =>
    simp only [htls, henabled, if_true] at h
    unfold resolveTLSSpec at h
    split at h
    · cases (runs_ret.1 h).2
    · next hname =>
      obtain ⟨r, t3, rfl, hread⟩ := runs_asked.1 h
      cases r with
      | error e => cases (runs_ret.1 hread).2
      | ok secret => exact ⟨certificateSettings_tlsEnabled (runs_ret.1 hread).2.symm, hname⟩

/-- The digest for the reply to a read of the secret. -/
def digestOf (F : Formats) : Result Secret → String
  | .ok secret => dataDigest F secret.data
  | .error _ => ""

theorem tlsDigest_run (htls : cr.spec.security.bind (·.tls) = some tls)
    (henabled : tls.enabled = true) (hname : tls.secretName ≠ "")
    {o : String × Bool} (h : (tlsDigest F cr).Runs t o) :
    ∃ r, t = [⟨.getSecret cr.ns tls.secretName, r⟩] ∧ (if o.2 then o.1 else "") = digestOf F r := by
  unfold tlsDigest at h
  simp only [htls, henabled, hname, not_true_eq_false, or_self, if_false] at h
  obtain ⟨r, t1, rfl, hread⟩ := runs_asked.1 h
  refine ⟨r, ?_⟩
  cases r with
  | error e =>
    obtain ⟨rfl, rfl⟩ := runs_ret.1 hread
    exact ⟨rfl, rfl⟩
  | ok secret =>
    obtain ⟨rfl, rfl⟩ := runs_ret.1 hread
    exact ⟨rfl, rfl⟩

/-- **The last read of the Security phase** decides the hash of the certificates. -/
theorem security_run (htls : cr.spec.security.bind (·.tls) = some tls)
    (henabled : tls.enabled = true) (h : (Phases.security F cr).Runs t (.ok (settings, tlsHash))) :
    ∃ t' r, t = t' ++ [⟨.getSecret cr.ns tls.secretName, r⟩] ∧ tlsHash = digestOf F r := by
  obtain ⟨t1, r, t2, rfl, hspec, h⟩ := runs_bind.1 h
  cases r with
  | error e => cases (runs_ret.1 h).2
  | ok out =>
    obtain ⟨hout, hname⟩ := fromSpec_tls htls henabled hspec
    dsimp only at h
    split at h
    · cases (runs_ret.1 h).2
    · rw [if_pos hout] at h
      obtain ⟨t3, o, t4, rfl, hdigest, h⟩ := runs_bind.1 h
      obtain ⟨r, rfl, hr⟩ := tlsDigest_run htls henabled hname hdigest
      refine ⟨t1, r, ?_⟩
      rw [← hr]
      -- a digest that was not read is empty
      match o with
      | (digest, true) =>
        obtain ⟨rfl, heq⟩ := runs_ret.1 h
        cases heq
        exact ⟨rfl, rfl⟩
      | (digest, false) =>
        obtain ⟨rfl, heq⟩ := runs_ret.1 h
        cases heq
        exact ⟨rfl, rfl⟩

theorem dataDigest_ne_empty (F : Formats) (data : Map String) : dataDigest F data ≠ "" := by
  intro h
  have hlen := congrArg (fun s => s.toList.length) h
  simp [dataDigest, hexEncode] at hlen

end Keyval.Security

namespace Keyval.Update

open Go Interact Security List

/-! ## Restarts -/

section
variable (cr : KeyValCluster) (component : Component) (configHash tlsHash : String) (sec : Settings)

/-- The StatefulSet that the component is to have. -/
def componentStatefulSet : StatefulSet :=
  match component with
  | .redis => Resources.statefulSet cr configHash tlsHash sec
  | .sentinel => Resources.sentinelStatefulSet cr configHash tlsHash sec

/-- The pod annotations of the spec. -/
def componentAnnotations : Map String :=
  match component with
  | .redis => cr.spec.podAnnotations
  | .sentinel => (cr.spec.sentinelPod.getD {}).annotations

/-- The storage reasons of the pods of a component; only Redis pods have storage. -/
def componentStorage (storage : Storage.ResizeResult) : Map (List String) :=
  match component with
  | .redis => storage.podReasons
  | .sentinel => ∅

/-- The plan for the component's pods. -/
def componentPlan (pods : List Pod) (health : Map PodHealth) (storage : Storage.ResizeResult) :
    Plan :=
  planUpdates cr (some (componentStatefulSet cr component configHash tlsHash sec)) pods health
    (componentStorage component storage)

end

theorem desiredAnnotation_tls {cr : KeyValCluster} {component : Component}
    {configHash tlsHash : String} {sec : Settings} :
    desiredAnnotation (some (componentStatefulSet cr component configHash tlsHash sec))
        Phases.tlsSecretHashAnnotationKey =
      if tlsHash ≠ "" then tlsHash
      else Map.str (componentAnnotations cr component) Phases.tlsSecretHashAnnotationKey := by
  have hbase : ∀ base : Map String,
      Map.str (Resources.hashAnnotations base configHash tlsHash)
          Phases.tlsSecretHashAnnotationKey =
        if tlsHash ≠ "" then tlsHash else Map.str base Phases.tlsSecretHashAnnotationKey := by
    intro base
    have hkeys : Phases.tlsSecretHashAnnotationKey ≠ Resources.configHashAnnotationKey := by decide
    unfold Resources.hashAnnotations
    split_ifs <;> simp [hkeys]
  cases component with
  | redis => simp [componentStatefulSet, desiredAnnotation, componentAnnotations,
      Resources.statefulSet, hbase]
  | sentinel => simp [componentStatefulSet, desiredAnnotation, componentAnnotations,
      Resources.sentinelStatefulSet, hbase]

/-- Reads of the secret find this data. -/
def SecretIs (ns name : String) (data : Map String) : Event Op → Prop
  | ⟨.getSecret ns' name', .ok secret⟩ => ns' = ns → name' = name → secret.data = data
  | _ => True

/-- The Security phase read the secret of the certificates last, and got it. -/
def DigestRead (t : Trace) : Prop :=
  ∃ t' ns name secret, t = t' ++ [⟨.getSecret ns name, .ok secret⟩]

/-- **Restarts for certificates**: a pod that carries the digest of the secret gets no reason
`tls-hash` exactly when the Security phase's second read of the secret succeeds, or the digest is
among the annotations of the spec. -/
theorem tlsRestart_iff {F : Formats} {cr : KeyValCluster} {tls : TLSSpec} {settings : Settings}
    {configHash tlsHash : String} {data : Map String} {t t' : Trace}
    {component : Component} {pods : List Pod} {p : Pod} {health : Map PodHealth}
    {redisPods : List Pod} {storage : Storage.ResizeResult × Option Error}
    (htls : cr.spec.security.bind (·.tls) = some tls) (henabled : tls.enabled = true)
    (hsec : (Phases.security F cr).Runs t (.ok (settings, tlsHash)))
    (hsecret : ∀ e ∈ t, SecretIs cr.ns tls.secretName data e)
    (hstorage : (Storage.ensureResize F cr redisPods).Runs t' storage)
    (hnodup : (pods.map Pod.name).Nodup) (hp : p ∈ pods)
    (hhash : Map.str p.annotations Phases.tlsSecretHashAnnotationKey = dataDigest F data) :
    hasReasonForPod (componentPlan cr component configHash tlsHash settings pods health storage.1)
        p.name "tls-hash" = false ↔
      DigestRead t ∨
        Map.str (componentAnnotations cr component) Phases.tlsSecretHashAnnotationKey =
          dataDigest F data := by
  obtain ⟨t1, r, rfl, rfl⟩ := security_run htls henabled hsec
  have hreasons : "tls-hash" ∉ ((componentStorage component storage.1).lookup p.name).getD [] := by
    cases component with
    | redis => exact fun h => absurd (Storage.ensureResize_reasons hstorage p.name _ h) (by decide)
    | sentinel => simp [componentStorage]
  rw [← Bool.not_eq_true, componentPlan, planUpdates_hasReason hnodup hp (by decide),
    mem_podReasons_tls hreasons, not_not, hhash, desiredAnnotation_tls]
  cases r with
  | error e =>
    -- without a digest the annotation of the template is the user's
    have hread : ¬ DigestRead (t1 ++ [⟨.getSecret cr.ns tls.secretName, .error e⟩]) := by
      rintro ⟨t', ns, name, secret, heq⟩
      have hlast := (append_inj' heq rfl).2
      simp at hlast
    simp [digestOf, hread, eq_comm]
  | ok secret =>
    have hdata : secret.data = data := hsecret _ (mem_append_right _ (.head _)) rfl rfl
    have hread : DigestRead (t1 ++ [⟨.getSecret cr.ns tls.secretName, .ok secret⟩]) :=
      ⟨t1, _, _, secret, rfl⟩
    simp [digestOf, hread, hdata, dataDigest_ne_empty]

/-! ### A failed read -/

/-- A cluster with certificates in the secret `certs`. -/
def certificatesA : KeyValCluster where
  name := "a"
  ns := "prod"
  spec := {
    mode := .standalone, redisReplicas := 1, image := "redis:7"
    security := some { tls := some { enabled := true, secretName := "certs" } } }

/-- The secret. -/
def certs : Secret where
  data := (((∅ : Map String).insert "ca.crt" "ca").insert "tls.crt" "crt").insert "tls.key" "key"

/-- A pod that carries the digest of the secret. -/
def certificatePod : Pod where
  name := "a-0"
  ns := "prod"
  annotations := (∅ : Map String).insert Phases.tlsSecretHashAnnotationKey
    (dataDigest .decimal certs.data)

/-- The number of reads so far. -/
def readWorld : World Op Nat where
  step n e := match e.req with
    | .getSecret .. => n + 1
    | _ => n
  ok _ _ := True

/-- The secret can be read so many times. -/
def readable (reads : Nat) (n : Nat) : Replies
  | .getSecret .. => if n < reads then .ok certs else .error (.new "timeout")
  | q => q.unavailable

theorem readable_secretIs (reads n : Nat) (ns name : String) (q : Req) :
    SecretIs ns name certs.data ⟨q, readable reads n q⟩ := by
  cases q with
  | getSecret ns' name' =>
    unfold readable
    split
    · exact fun _ _ => rfl
    · trivial
  | _ => trivial

theorem play_secretIs {α : Type} (reads : Nat) (ns name : String) (p : M α) :
    ∀ e ∈ (readWorld.play (readable reads) 0 p).1, SecretIs ns name certs.data e := by
  rintro ⟨q, rep⟩ he
  obtain ⟨n, rfl⟩ : ∃ n, rep = readable reads n q := World.play_rep _ _ _ he
  exact readable_secretIs reads n ns name q

/-- The settings that the secret gives. -/
def certificateSettingsA : Settings where
  tlsEnabled := true
  tlsSecretName := "certs"
  caCertKey := "ca.crt"
  certKey := "tls.crt"
  keyKey := "tls.key"
  caBundle := "ca"

/-- With both reads the pod is not restarted. -/
theorem tlsRestart_both :
    ∃ t, (Phases.security .decimal certificatesA).Runs t
        (.ok (certificateSettingsA, dataDigest .decimal certs.data)) ∧
      hasReasonForPod (componentPlan certificatesA .redis "c" (dataDigest .decimal certs.data)
        certificateSettingsA [certificatePod] ∅ {}) "a-0" "tls-hash" = false := by
  have hrun : (Phases.security .decimal certificatesA).Runs _
      (.ok (certificateSettingsA, dataDigest .decimal certs.data)) :=
    World.runs_play (W := readWorld) (r := readable 2) 0 _
  have hstorage : (Storage.ensureResize .decimal certificatesA []).Runs _ ({}, _) :=
    World.runs_play (W := readWorld) (r := readable 2) 0 _
  exact ⟨_, hrun, (tlsRestart_iff rfl rfl hrun (play_secretIs 2 _ _ _) hstorage (by decide)
    (.head _) (by simp [certificatePod])).2 (.inl ⟨[_], _, _, certs, rfl⟩)⟩

/-- **When the second read fails, the pod is restarted** though it carries the digest. -/
theorem tlsRestart_failed_read :
    ∃ t, (Phases.security .decimal certificatesA).Runs t (.ok (certificateSettingsA, "")) ∧
      (∀ e ∈ t, SecretIs "prod" "certs" certs.data e) ∧
      Map.str certificatePod.annotations Phases.tlsSecretHashAnnotationKey =
        dataDigest .decimal certs.data ∧
      hasReasonForPod (componentPlan certificatesA .redis "c" "" certificateSettingsA
        [certificatePod] ∅ {}) "a-0" "tls-hash" = true := by
  have hrun : (Phases.security .decimal certificatesA).Runs _ (.ok (certificateSettingsA, "")) :=
    World.runs_play (W := readWorld) (r := readable 1) 0 _
  have hhash : Map.str certificatePod.annotations Phases.tlsSecretHashAnnotationKey =
      dataDigest .decimal certs.data := by simp [certificatePod]
  have hreason : "tls-hash" ∈ podReasons certificatesA
      (some (componentStatefulSet certificatesA .redis "c" "" certificateSettingsA)) ∅
      (componentStorage .redis {}) certificatePod := by
    rw [mem_podReasons_tls (by simp [componentStorage]), hhash, desiredAnnotation_tls]
    exact dataDigest_ne_empty _ _
  exact ⟨_, hrun, play_secretIs 1 _ _ _, hhash,
    (planUpdates_hasReason (by decide) (.head _) (by decide)).2 hreason⟩

end Keyval.Update
