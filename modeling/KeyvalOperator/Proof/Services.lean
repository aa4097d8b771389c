import KeyvalOperator.Phases.Services

/-!
# Updates of the Services

The existing Service comes from an earlier spec of the cluster, completed by the API server
(`Completes`). The builders set no field that the API server allocates, so of all the immutable
fields only the IP family policy can differ (`detect_build`), and it differs whenever the API server
has filled it in.

* `updates_iff`: such a Service is applied exactly when it has no IP family policy.
* `services_settle`: a phase without error has settled every Service.
-/

namespace Keyval.Phases

open Go Interact Interact.Prog List

variable {cr : KeyValCluster}

/-! ## Built and stored Services -/

/-- The Service that the API server keeps for a built one: what is set stays, what is not set may be
filled in. -/
structure Completes (built stored : Service) : Prop where
  name : stored.name = built.name
  ns : stored.ns = built.ns
  selector : stored.selector = built.selector
  type : built.type ≠ "" → stored.type = built.type
  clusterIP : built.clusterIP ≠ "" → stored.clusterIP = built.clusterIP
  clusterIPs : built.clusterIPs ≠ [] → stored.clusterIPs = built.clusterIPs
  ipFamilies : built.ipFamilies ≠ [] → stored.ipFamilies = built.ipFamilies
  ipFamilyPolicy : built.ipFamilyPolicy ≠ none → stored.ipFamilyPolicy = built.ipFamilyPolicy
  ports : List.Forall₂ (fun b s => s.name = b.name ∧ s.port = b.port ∧
    s.targetPort = b.targetPort ∧ (b.nodePort ≠ 0 → s.nodePort = b.nodePort))
      built.ports stored.ports

/-- The applied Service carries a built one: all of it but the fields that the API server
allocates. -/
structure Carries (built applied : Service) : Prop where
  name : applied.name = built.name
  ns : applied.ns = built.ns
  labels : applied.labels = built.labels
  annotations : applied.annotations = built.annotations
  type : applied.type = built.type
  publish : applied.publishNotReadyAddresses = built.publishNotReadyAddresses
  selector : applied.selector = built.selector
  ports : applied.ports.map (fun p => (p.name, p.port, p.targetPort)) =
    built.ports.map fun p => (p.name, p.port, p.targetPort)

/-- The builders leave the allocated fields open, up to the cluster IP of the headless Services. -/
structure Open (built : Service) : Prop where
  clusterIPs : built.clusterIPs = []
  ipFamilies : built.ipFamilies = []
  ipFamilyPolicy : built.ipFamilyPolicy = none
  nodePorts : ∀ p ∈ built.ports, p.nodePort = 0

theorem open_build (cr : KeyValCluster) (kind : ServiceKind) : Open (kind.build cr) := by
  cases kind with
  | headless =>
    refine ⟨rfl, rfl, rfl, fun p hp => ?_⟩
    rcases mem_append.1 hp with hp | hp
    · rw [mem_singleton.1 hp]
    · split at hp
      · rw [mem_singleton.1 hp]
      · cases hp
  | master => exact ⟨rfl, rfl, rfl, fun p hp => by rw [mem_singleton.1 hp]⟩
  | sentinel => exact ⟨rfl, rfl, rfl, fun p hp => by rw [mem_singleton.1 hp]⟩
  | sentinelHeadless => exact ⟨rfl, rfl, rfl, fun p hp => by rw [mem_singleton.1 hp]⟩
  | replicas => exact ⟨rfl, rfl, rfl, fun p hp => by rw [mem_singleton.1 hp]⟩

theorem build_clusterIP (cr cr' : KeyValCluster) (kind : ServiceKind) :
    (kind.build cr).clusterIP = (kind.build cr').clusterIP := by
  cases kind <;> rfl

/-! ## The comparison -/

theorem detect_open {existing desired : Service} (hopen : Open desired)
    (hip : desired.clusterIP ≠ "" → existing.clusterIP = desired.clusterIP) :
    detectImmutableServiceChange existing desired =
      if existing.ipFamilyPolicy = none then none
      else some ("spec.ipFamilyPolicy", describePolicyChange existing.ipFamilyPolicy none) := by
  have hip' : ¬ (desired.clusterIP ≠ "" ∧ existing.clusterIP ≠ "" ∧
      existing.clusterIP ≠ desired.clusterIP) := fun h => h.2.2 (hip h.1)
  have hports : desired.ports.findSome? (changedNodePort existing.ports) = none := by
    rw [findSome?_eq_none_iff]
    intro p hp
    exact if_pos (hopen.nodePorts p hp)
  unfold detectImmutableServiceChange
  rw [if_neg hip', hopen.clusterIPs, hopen.ipFamilies, hopen.ipFamilyPolicy, hports]
  simp only [ne_eq, not_true_eq_false, false_and, if_false]
  by_cases hpolicy : existing.ipFamilyPolicy = none
  · rw [if_pos hpolicy, hpolicy]
    rfl
  · rw [if_neg hpolicy, if_pos (Ne.symm hpolicy)]

theorem detect_build {earlier : KeyValClusterSpec} {kind : ServiceKind}
    {stored : Service} (h : Completes (kind.build { cr with spec := earlier }) stored) :
    detectImmutableServiceChange stored (kind.build cr) =
      if stored.ipFamilyPolicy = none then none
      else some ("spec.ipFamilyPolicy", describePolicyChange stored.ipFamilyPolicy none) := by
  refine detect_open (open_build cr kind) fun hip => ?_
  rw [build_clusterIP cr { cr with spec := earlier }] at hip ⊢
  exact h.clusterIP hip

/-! ## The apply -/

theorem carries_ssa (desired : Service) (uid : String) :
    Carries desired { Ssa.service desired with controller := some uid } :=
  ⟨rfl, rfl, rfl, rfl, rfl, rfl, rfl, rfl⟩

theorem carries_copy (existing desired : Service) (uid : String) :
    Carries desired { Ssa.service (copyImmutableServiceFields existing desired) with
      controller := some uid } := by
  refine ⟨rfl, rfl, rfl, rfl, rfl, rfl, rfl, ?_⟩
  simp only [Ssa.service, copyImmutableServiceFields, map_map]
  refine map_congr_left fun p _ => ?_
  simp only [Function.comp_def]
  split
  · rfl
  · split <;> rfl

section
variable {desired existing : Service} {serviceType : String} {t : Trace} {err : Option Error}

theorem applyService_run (h : (applyService cr desired serviceType).Runs t err) :
    ∃ r, t = [⟨.applyService { Ssa.service desired with controller := some cr.uid }, r⟩] := by
  obtain ⟨r, t', rfl, h1⟩ := runs_asked.1 h
  cases r with
  | error e =>
    obtain ⟨rfl, -⟩ := runs_ret.1 h1
    exact ⟨_, rfl⟩
  | ok u =>
    obtain ⟨rfl, -⟩ := runs_ret.1 h1
    exact ⟨_, rfl⟩

theorem updateService_run {preserve : Bool}
    (h : (updateService cr (some existing) desired preserve serviceType).Runs t err) :
    (detectImmutableServiceChange existing desired = none ∧
      ∃ svc r, t = [⟨.applyService svc, r⟩] ∧ Carries desired svc) ∨
    ∃ field detail r, detectImmutableServiceChange existing desired = some (field, detail) ∧
      t = [⟨.event (.serviceImmutableField serviceType desired.name field detail), r⟩] := by
  unfold updateService at h
  cases hdetect : detectImmutableServiceChange existing desired with
  | none =>
    simp only [hdetect] at h
    obtain ⟨r, rfl⟩ := applyService_run h
    refine .inl ⟨rfl, _, r, rfl, ?_⟩
    split
    · exact carries_copy existing desired cr.uid
    · exact carries_ssa desired cr.uid
  | some change =>
    simp only [hdetect] at h
    obtain ⟨r, t', rfl, h1⟩ := runs_call.1 h
    obtain ⟨rfl, -⟩ := runs_ret.1 h1
    exact .inr ⟨change.1, change.2, r, rfl, rfl⟩

theorem reconcileServiceLifecycle_enabled {opts : ServiceLifecycleOptions}
    (henabled : opts.enabled = true) (h : (reconcileServiceLifecycle cr desired opts).Runs t err)
    (hget : ⟨.getService desired.ns desired.name, .ok existing⟩ ∈ t) :
    (detectImmutableServiceChange existing desired = none ∧
      ∃ svc r, ⟨.applyService svc, r⟩ ∈ t ∧ Carries desired svc) ∨
    (detectImmutableServiceChange existing desired ≠ none ∧
      ∀ svc r, ⟨.applyService svc, r⟩ ∉ t) := by
  obtain ⟨reply, t', rfl, h1⟩ := runs_asked.1 h
  cases reply with
  | error e =>
    -- the reply that is asked for is not the one of the only read
    exfalso
    by_cases hmissing : e.reason = .notFound
    · simp only [if_pos hmissing, henabled, if_true] at h1
      obtain ⟨r, rfl⟩ := applyService_run h1
      simp at hget
    · simp only [if_neg hmissing] at h1
      obtain ⟨rfl, -⟩ := runs_ret.1 h1
      simp at hget
  | ok found =>
    simp only [henabled, if_true] at h1
    rcases updateService_run h1 with ⟨hnone, svc, r, rfl, hcarries⟩ | ⟨field, detail, r, hsome, rfl⟩
    · obtain rfl : existing = found := by simpa using hget
      exact .inl ⟨hnone, svc, r, by simp, hcarries⟩
    · obtain rfl : existing = found := by simpa using hget
      exact .inr ⟨by simp [hsome], by simp⟩

end

/-! ## Later specs -/

/-- An enabled Service of the cluster that exists since an earlier spec is applied as the later spec
builds it exactly when the API server has not given it an IP family policy. -/
theorem updates_iff (cr : KeyValCluster) (earlier : KeyValClusterSpec) (kind : ServiceKind)
    (stored : Service) (hstored : Completes (kind.build { cr with spec := earlier }) stored)
    (opts : ServiceLifecycleOptions) (henabled : opts.enabled = true) (t : Trace)
    (err : Option Error) (h : (reconcileServiceLifecycle cr (kind.build cr) opts).Runs t err)
    (hget : ⟨.getService (kind.build cr).ns (kind.build cr).name, .ok stored⟩ ∈ t) :
    (∃ svc r, ⟨.applyService svc, r⟩ ∈ t ∧ Carries (kind.build cr) svc) ↔
      stored.ipFamilyPolicy = none := by
  have hdetect := detect_build hstored
  rcases reconcileServiceLifecycle_enabled henabled h hget with
    ⟨hnone, happlied⟩ | ⟨hsome, hnot⟩
  · refine iff_of_true happlied ?_
    by_contra hpolicy
    rw [hdetect, if_neg hpolicy] at hnone
    cases hnone
  · refine iff_of_false (fun ⟨svc, r, hmem, _⟩ => hnot svc r hmem) fun hpolicy => ?_
    rw [hdetect, if_pos hpolicy] at hsome
    exact hsome rfl

/-! ### Runs -/

/-- The Service as stored. -/
def storedA (policy : Option String) : Service :=
  { ServiceKind.master.build soloA with
    clusterIP := "10.0.0.7"
    clusterIPs := ["10.0.0.7"]
    ipFamilies := ["IPv4"]
    ipFamilyPolicy := policy }

/-- The cluster with node ports. -/
def nodePortA : KeyValCluster :=
  { soloA with spec := { soloA.spec with service := some { type := "NodePort" } } }

/-- The Service is found. -/
def answerA (policy : Option String) (_ : Unit) : Replies
  | .getService .. => .ok (storedA policy)
  | .applyService _ => .ok ()
  | q => q.unavailable

/-- Its update. -/
def updateA (policy : Option String) : Trace × Option Error :=
  World.play ⟨fun _ _ => (), fun _ _ => True⟩ (answerA policy) ()
    (reconcileServiceLifecycle nodePortA (ServiceKind.master.build nodePortA)
      (ServiceKind.master.options nodePortA))

theorem completes_storedA (policy : Option String) :
    Completes (ServiceKind.master.build { nodePortA with spec := soloA.spec })
      (storedA policy) := by
  refine ⟨rfl, rfl, rfl, fun _ => rfl, fun h => absurd rfl h, fun h => absurd rfl h,
    fun h => absurd rfl h, fun h => absurd rfl h, ?_⟩
  exact .cons ⟨rfl, rfl, rfl, fun _ => rfl⟩ .nil

theorem updates_plain :
    ∃ svc r, ⟨.applyService svc, r⟩ ∈ (updateA none).1 ∧
      Carries (ServiceKind.master.build nodePortA) svc :=
  (updates_iff nodePortA soloA.spec .master (storedA none) (completes_storedA none)
    (ServiceKind.master.options nodePortA) rfl _ _ (World.runs_play ..)
    (mem_cons_self ..)).2 rfl

/-- With the policy of a single-stack cluster, a change of the Service's type is skipped. -/
theorem nodePort_not_applied :
    Completes (ServiceKind.master.build { nodePortA with spec := soloA.spec })
      (storedA (some "SingleStack")) ∧
    (ServiceKind.master.options nodePortA).enabled = true ∧
    (reconcileServiceLifecycle nodePortA (ServiceKind.master.build nodePortA)
      (ServiceKind.master.options nodePortA)).Runs (updateA (some "SingleStack")).1 none ∧
    ⟨.getService "prod" "a-master", .ok (storedA (some "SingleStack"))⟩ ∈
      (updateA (some "SingleStack")).1 ∧
    ∀ svc r, ⟨.applyService svc, r⟩ ∉ (updateA (some "SingleStack")).1 := by
  have hrun : (updateA (some "SingleStack")).1 =
      [⟨.getService "prod" "a-master", .ok (storedA (some "SingleStack"))⟩,
        ⟨.event (.serviceImmutableField "master" "a-master" "spec.ipFamilyPolicy"
          "existing=SingleStack desired=<nil>"), ()⟩] := rfl
  refine ⟨completes_storedA _, rfl, World.runs_play .., ?_, ?_⟩
  · rw [hrun]
    exact .head _
  · simp [hrun]

/-! ## The phase -/

/-- A Service has been applied as it is built, or left alone for an immutable field. -/
def Settled (built : Service) (t : Trace) : Prop :=
  (∃ svc r, ⟨.applyService svc, r⟩ ∈ t ∧ Carries built svc) ∨
  ∃ existing, ⟨.getService built.ns built.name, .ok existing⟩ ∈ t ∧
    detectImmutableServiceChange existing built ≠ none

theorem Settled.mono {built : Service} {t t' : Trace} (h : Settled built t)
    (hsub : ∀ e ∈ t, e ∈ t') : Settled built t' := by
  rcases h with ⟨svc, r, hmem, hcarries⟩ | ⟨existing, hmem, hdetect⟩
  · exact .inl ⟨svc, r, hsub _ hmem, hcarries⟩
  · exact .inr ⟨existing, hsub _ hmem, hdetect⟩

theorem reconcileServiceLifecycle_settles {desired : Service}
    {opts : ServiceLifecycleOptions} {t : Trace} (henabled : opts.enabled = true)
    (h : (reconcileServiceLifecycle cr desired opts).Runs t none) : Settled desired t := by
  obtain ⟨reply, t', rfl, h1⟩ := runs_call.1 h
  cases reply with
  | ok existing =>
    rcases reconcileServiceLifecycle_enabled henabled h (.head _) with ⟨-, happlied⟩ | ⟨hdetect, -⟩
    · exact .inl happlied
    · exact .inr ⟨existing, .head _, hdetect⟩
  | error e =>
    rw [ret_bind] at h1
    by_cases hmissing : e.reason = .notFound
    · simp only [if_pos hmissing, henabled, if_true] at h1
      obtain ⟨r, rfl⟩ := applyService_run h1
      exact .inl ⟨_, r, .tail _ (.head _), carries_ssa desired cr.uid⟩
    · simp only [if_neg hmissing] at h1
      cases (runs_ret.1 h1).2

/-- A phase without error has settled every enabled Service of the mode. -/
theorem services_settle {t : Trace} (h : (services cr).Runs t ((), none)) :
    ∀ kind ∈ ServiceKind.all cr, (kind.options cr).enabled = true → Settled (kind.build cr) t := by
  refine Runs.forErr_inv (I := fun done t _ => ∀ kind ∈ done, (kind.options cr).enabled = true →
    Settled (kind.build cr) t) h (fun kind hkind => nomatch hkind) ?_
  intro done kind t0 _ t1 _ _ _ ih hrun kind' hmem henabled
  rcases mem_append.1 hmem with hdone | hlast
  · exact (ih kind' hdone henabled).mono fun e he => mem_append_left _ he
  · obtain rfl := mem_singleton.1 hlast
    obtain ⟨u1, err, u2, rfl, h1, h2⟩ := runs_bind.1 hrun
    obtain ⟨rfl, heq⟩ := runs_ret.1 h2
    obtain rfl : err = none := (Prod.mk.inj heq).2.symm
    refine (reconcileServiceLifecycle_settles henabled h1).mono fun e he => ?_
    exact mem_append_right _ (mem_append_left _ he)

/-- The creation of all Services. -/
def createA : Trace × Unit × Option Error :=
  World.play ⟨fun _ _ => (), fun _ _ => True⟩ (fun _ q => match q with
    | .getService .. => .error { msg := "not found", reason := .notFound }
    | .applyService _ => .ok ()
    | q => q.unavailable) () (services soloA)

theorem services_settle_soloA : createA.2 = ((), none) ∧
    Settled (ServiceKind.master.build soloA) createA.1 := by
  have hnone : createA.2 = ((), none) := rfl
  exact ⟨hnone, services_settle (hnone ▸ World.runs_play ..) .master (by decide) rfl⟩

end Keyval.Phases
