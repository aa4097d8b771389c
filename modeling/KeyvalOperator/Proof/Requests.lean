import KeyvalOperator.Proof.Failover
import KeyvalOperator.Proof.Runtime

/-!
# The requests of a reconcile

What the parts of a reconcile may ask for: only the Workloads phase applies StatefulSets, and only
`execute` and `tryEvictFormerMaster` evict pods. Every other part is `Plain`.

* `prepare_asks`: the phases up to the import are plain but for the StatefulSets of the cluster.
* `observe_asks`: the phases from the topology to the disruption budgets are plain.
* `steps_issues`: the steps are plain but for their evictions.
* `afterWorkloads_asks`: no StatefulSet is applied after the Workloads phase.
-/

namespace Keyval

open Go Interact Interact.Prog List

variable {p : M (State × Option Error)} {q : Req} {r : KeyValCluster × String} {m m' : Map String}
  {phase : String} {text : String}

/-- The request applies no StatefulSet and removes no pod. -/
def Plain : Req → Prop
  | .applyStatefulSet _ | .evictPod .. | .deletePod .. => False
  | _ => True

/-- The request applies no StatefulSet. -/
def NoApply : Req → Prop
  | .applyStatefulSet _ => False
  | _ => True

theorem Plain.noApply (h : Plain q) : NoApply q := by
  cases q <;> trivial

/-- A plain request of the phases: it does not edit the cluster and asks for no plan. -/
def PhaseReq : Req → Prop
  | .applyStatefulSet _ | .evictPod .. | .deletePod .. | .patchCluster .. | .planUpdates _ => False
  | .event ev => ev.OfPhase
  | _ => True

theorem PhaseReq.plain (h : PhaseReq q) : Plain q := by
  cases q <;> trivial

theorem TopologyReq.phaseReq (h : TopologyReq q) : PhaseReq q := by
  cases q <;> trivial

theorem Phases.RuntimeReq.phaseReq (h : Phases.RuntimeReq q) : PhaseReq q := by
  cases q <;> trivial

open Replication (ask_asks)
open Phases (event_asks)

/-! ## Storage, freshness and labels -/

namespace Storage

theorem ensureResize_asks (F : Formats) (cr : KeyValCluster) (pods : List Pod) :
    Asks PhaseReq (ensureResize F cr pods) := by
  have htrack : ∀ desired now res name pvc,
      Asks PhaseReq (trackResize F desired pods now res name pvc) := by
    intro desired now res name pvc
    unfold trackResize
    simp only [bind_eq, pure_eq, ask_eq, call_bind, ret_bind]
    split_ifs
    all_goals first
      | exact .ret _
      | exact .call trivial fun _ _ => .ret _
      | exact .call trivial fun _ _ => .call trivial fun _ _ => .ret _
  unfold ensureResize
  split
  · exact .ret _
  refine .call trivial fun r _ => ?_
  cases r with
  | error e => exact .ret _
  | ok items =>
    refine .call trivial fun now _ => ?_
    refine (Issues.forErr _ fun pvc _ res => ?_).bind fun r => ?_
    · unfold resizePVC
      simp only [bind_eq, pure_eq, ask_eq, call_bind, ret_bind]
      split_ifs
      · exact .ret _
      · refine .call trivial fun r _ => ?_
        cases r with
        | ok pvc' => exact .call trivial fun _ _ => htrack _ _ _ _ _
        | error e =>
          dsimp only
          split
          · exact .ret _
          · cases resizeThrottle e with
            | none => exact .ret _
            | some backoff => exact .call trivial fun _ _ => .ret _
      · exact .call trivial fun _ _ => htrack _ _ _ _ _
      · exact htrack _ _ _ _ _
    · obtain ⟨res, err⟩ := r
      cases err with
      | some e => exact .ret _
      | none => exact .ret _

end Storage

namespace Phases

theorem applyRole_asks (toRole : String) : ∀ (n : Nat) (cur : Pod) (acc : RequeueAccumulator),
    Asks PhaseReq (applyRole toRole n cur acc)
  | 0, cur, acc => .ret _
  | n + 1, cur, acc => by
    unfold applyRole
    simp only [bind_eq, pure_eq, ask_eq, call_bind, ret_bind]
    split
    · exact .ret _
    refine .call trivial fun r _ => ?_
    cases r with
    | ok pod => exact .ret _
    | error e =>
      dsimp only
      split_ifs
      · exact .ret _
      · exact .ret _
      · refine .call trivial fun r _ => ?_
        cases r with
        | ok refreshed => exact applyRole_asks toRole n _ _
        | error e =>
          dsimp only
          split_ifs <;> exact .ret _

theorem labels_asks (st : State) : Asks PhaseReq (labels st) := by
  unfold labels
  dsimp only
  split
  · exact .ret _
  refine (Issues.forErr _ fun x _ s => ?_).bind fun r => ?_
  · unfold applyAt
    cases s.pods[x.1]? with
    | none => exact .ret _
    | some cur => exact (applyRole_asks _ _ _ _).bind fun _ => .ret _
  · obtain ⟨s, err⟩ := r
    cases err with
    | some e => exact .ret _
    | none =>
      dsimp only
      split
      · exact .call trivial fun _ _ => .ret _
      · exact .ret _

end Phases

namespace Controller

open Phases Update

variable {P : Req → Prop} {t : Trace} {cr' : KeyValCluster} {keys : List String}
  {cr : KeyValCluster}

/-! ## Combinators -/

section
variable {R : Event Op → Prop} {α β : Type}

theorem andThen_issues {p : M (Except Outcome α)} {k : α → M (Except Outcome β)} (hp : Issues R P p)
    (hk : ∀ t a, p.Runs t (.ok a) → Issues R P (k a)) : Issues R P (andThen p k) := by
  refine hp.bind_of fun t r hr _ => ?_
  cases r with
  | ok a => exact hk t a hr
  | error o => exact .ret _

theorem orFail_issues {p : M (Result α)} (hp : Issues R P p) : Issues R P (orFail p) := by
  refine hp.bind fun r => ?_
  cases r <;> exact .ret _

theorem orFailPhase_issues (hp : Issues R P p) :
    Issues R P (orFailPhase p) := by
  refine hp.bind fun r => ?_
  obtain ⟨st, err⟩ := r
  cases err <;> exact .ret _

theorem orWrap_issues {p : M (Result α)} (hp : Issues R P p) :
    Issues R P (orWrap text p) := by
  refine hp.bind fun r => ?_
  cases r <;> exact .ret _

theorem requeue_asks (hP : ∀ q, PhaseReq q → P q) (base : Duration) :
    Asks P (requeue base : M (Except Outcome α)) :=
  .call (hP _ trivial) fun _ _ => .ret _

theorem requeueWith_asks (hP : ∀ q, PhaseReq q → P q) (base : Duration) {ev : Ev}
    (hev : P (.event ev)) : Asks P (requeueWith base ev : M (Except Outcome α)) :=
  .call (hP _ trivial) fun _ _ => .call hev fun _ _ => .ret _

theorem runs_orWrap {p : M (Result α)} {a : α} (h : (orWrap text p).Runs t (.ok a)) :
    p.Runs t (.ok a) := by
  obtain ⟨t1, r, t2, rfl, h1, h2⟩ := runs_bind.1 h
  cases r with
  | error e => cases (runs_ret.1 h2).2
  | ok b =>
    obtain ⟨rfl, heq⟩ := runs_ret.1 h2
    obtain rfl := Except.ok.inj heq
    rwa [append_nil]

theorem runs_andThen {p : M (Except Outcome α)} {k : α → M (Except Outcome β)} {b : β}
    (h : (andThen p k).Runs t (.ok b)) :
    ∃ t1 a t2, t = t1 ++ t2 ∧ p.Runs t1 (.ok a) ∧ (k a).Runs t2 (.ok b) := by
  obtain ⟨t1, r, t2, rfl, h1, h2⟩ := runs_bind.1 h
  cases r with
  | error o => cases (runs_ret.1 h2).2
  | ok a => exact ⟨t1, a, t2, rfl, h1, h2⟩

theorem runs_andThen_cases {p : M (Except Outcome α)} {k : α → M (Except Outcome β)}
    {o : Except Outcome β} (h : (andThen p k).Runs t o) :
    (∃ out, p.Runs t (.error out)) ∨
      ∃ t1 a t2, t = t1 ++ t2 ∧ p.Runs t1 (.ok a) ∧ (k a).Runs t2 o := by
  obtain ⟨t1, r, t2, rfl, h1, h2⟩ := runs_bind.1 h
  cases r with
  | error out =>
    obtain ⟨rfl, -⟩ := runs_ret.1 h2
    rw [append_nil]
    exact .inl ⟨out, h1⟩
  | ok a => exact .inr ⟨t1, a, t2, rfl, h1, h2⟩

theorem runs_andThen_orFail {p : M (Result α)} {k : α → M (Except Outcome β)} {o : Except Outcome β}
    (h : (andThen (orFail p) k).Runs t o) :
    ∃ t1 r t2, t = t1 ++ t2 ∧ p.Runs t1 r ∧ (∀ a, r = .ok a → (k a).Runs t2 o) ∧
      ∀ e, r = .error e → t2 = [] := by
  obtain ⟨t1, r', t2, rfl, h1, h2⟩ := runs_bind.1 h
  obtain ⟨t3, r, t4, rfl, h3, h4⟩ := runs_bind.1 h1
  refine ⟨t3, r, t4 ++ t2, append_assoc _ _ _, h3, ?_, ?_⟩
  · rintro a rfl
    obtain ⟨rfl, rfl⟩ := runs_ret.1 h4
    exact h2
  · rintro e rfl
    obtain ⟨rfl, rfl⟩ := runs_ret.1 h4
    obtain ⟨rfl, -⟩ := runs_ret.1 h2
    rfl

theorem runs_andThen_orFailPhase {k : State → M (Except Outcome β)} {o : Except Outcome β}
    (h : (andThen (orFailPhase p) k).Runs t o) :
    ∃ t1 st err t2, t = t1 ++ t2 ∧ p.Runs t1 (st, err) ∧ (err = none → (k st).Runs t2 o) ∧
      (err ≠ none → t2 = []) := by
  obtain ⟨t1, r', t2, rfl, h1, h2⟩ := runs_bind.1 h
  obtain ⟨t3, ⟨st, err⟩, t4, rfl, h3, h4⟩ := runs_bind.1 h1
  refine ⟨t3, st, err, t4 ++ t2, append_assoc _ _ _, h3, ?_, fun herr => ?_⟩
  · rintro rfl
    obtain ⟨rfl, rfl⟩ := runs_ret.1 h4
    exact h2
  · obtain ⟨e, rfl⟩ := Option.ne_none_iff_exists'.1 herr
    obtain ⟨rfl, rfl⟩ := runs_ret.1 h4
    obtain ⟨rfl, -⟩ := runs_ret.1 h2
    rfl

theorem runs_of_orFailPhase {st : State} (h : (orFailPhase p).Runs t (.ok st)) :
    p.Runs t (st, none) := by
  obtain ⟨t1, ⟨st', err⟩, t2, rfl, h1, h2⟩ := runs_bind.1 h
  cases err with
  | some e => cases (runs_ret.1 h2).2
  | none =>
    obtain ⟨rfl, heq⟩ := runs_ret.1 h2
    obtain rfl := Except.ok.inj heq
    rwa [append_nil]

theorem andThen_assoc {γ : Type} (p : M (Except Outcome α)) (k : α → M (Except Outcome β))
    (k' : β → M (Except Outcome γ)) :
    andThen (andThen p k) k' = andThen p fun a => andThen (k a) k' := by
  unfold andThen
  rw [bind_assoc]
  congr 1
  funext r
  cases r <;> rfl

end

/-! ## Annotations -/

/-- The cluster has the spec and the former master of the other. -/
structure Keeps (cr cr' : KeyValCluster) : Prop where
  spec : cr'.spec = cr.spec
  formerMaster : Map.str cr'.annotations annotationRestartFormerMaster =
    Map.str cr.annotations annotationRestartFormerMaster

theorem Keeps.refl (cr : KeyValCluster) : Keeps cr cr := ⟨rfl, rfl⟩

theorem Keeps.trans {a b c : KeyValCluster} (h : Keeps a b) (h' : Keeps b c) : Keeps a c :=
  ⟨h'.spec.trans h.spec, h'.formerMaster.trans h.formerMaster⟩

/-- The maps agree but for some keys. -/
def AgreeOff (keys : List String) (m m' : Map String) : Prop :=
  ∀ key, key ∉ keys → m'.lookup key = m.lookup key

theorem AgreeOff.str (h : AgreeOff keys m m') {key : String} (hkey : key ∉ keys) :
    Map.str m' key = Map.str m key :=
  congrArg (·.getD "") (h key hkey)

theorem AgreeOff.refl (keys : List String) (m : Map String) : AgreeOff keys m m :=
  fun _ _ => rfl

theorem AgreeOff.trans {m1 m2 m3 : Map String} (h : AgreeOff keys m1 m2)
    (h' : AgreeOff keys m2 m3) : AgreeOff keys m1 m3 :=
  fun key hkey => (h' key hkey).trans (h key hkey)

theorem AgreeOff.mono {keys keys' : List String} (h : AgreeOff keys m m') (hsub : keys ⊆ keys') :
    AgreeOff keys' m m' :=
  fun key hkey => h key fun hmem => hkey (hsub hmem)

theorem agreeOff_insert (m : Map String) (key value : String) :
    AgreeOff [key] m (m.insert key value) :=
  fun _ hne => Finmap.lookup_insert_of_ne _ (mem_singleton.not.1 hne)

theorem agreeOff_erase (m : Map String) (key : String) : AgreeOff [key] m (m.erase key) :=
  fun _ hne => Finmap.lookup_erase_ne (mem_singleton.not.1 hne)

section
variable {key value : String}

/-- What a patch of the annotation `key` writes: the spec stays, and so do the other
annotations. -/
structure Edits (key : String) (cr cr' : KeyValCluster) : Prop where
  spec : cr'.spec = cr.spec
  annotations : AgreeOff [key] cr.annotations cr'.annotations

theorem Edits.refl (key : String) (cr : KeyValCluster) : Edits key cr cr := ⟨rfl, .refl _ _⟩

theorem Edits.keeps (h : Edits key cr cr')
    (hkey : annotationRestartFormerMaster ≠ key) : Keeps cr cr' :=
  ⟨h.spec, h.annotations.str fun hmem => hkey (mem_singleton.1 hmem)⟩

section
variable {α : Type} {c : Prop} [Decidable c] {annotations : Map String} {kept changed : α}

/-- An edit of the annotations: one patch, unless there is nothing to do. Setting and clearing an
annotation are such edits. -/
def edit (cr : KeyValCluster) (c : Prop) [Decidable c] (annotations : Map String)
    (kept changed : α) : M (Result (α × KeyValCluster)) :=
  if c then return .ok (kept, cr)
  else do
    match ← patchAnnotations cr annotations with
    | .error e => return .error e
    | .ok () => return .ok (changed, { cr with annotations })

theorem edit_asks (h : P (.patchCluster cr.ns cr.name annotations cr.finalizers)) :
    Asks P (edit cr c annotations kept changed) := by
  unfold edit
  split
  · exact .ret _
  · refine .call h fun r _ => ?_
    cases r <;> exact .ret _

theorem edit_edits {r : α × KeyValCluster} (hkey : AgreeOff [key] cr.annotations annotations)
    (h : (edit cr c annotations kept changed).Runs t (.ok r)) : Edits key cr r.2 := by
  unfold edit at h
  split at h
  · obtain ⟨-, heq⟩ := runs_ret.1 h
    obtain rfl := Except.ok.inj heq
    exact .refl key cr
  · obtain ⟨rep, t', -, h'⟩ := runs_asked.1 h
    cases rep with
    | error e => cases (runs_ret.1 h').2
    | ok u =>
      obtain ⟨-, heq⟩ := runs_ret.1 h'
      obtain rfl := Except.ok.inj heq
      exact ⟨rfl, hkey⟩

end

theorem setAnnotation_asks
    (h : P (.patchCluster cr.ns cr.name (cr.annotations.insert key value) cr.finalizers)) :
    Asks P <| setAnnotation cr key value :=
  edit_asks h

theorem clearAnnotation_asks
    (h : P (.patchCluster cr.ns cr.name (cr.annotations.erase key) cr.finalizers)) :
    Asks P <| clearAnnotation cr key :=
  edit_asks h

theorem setAnnotation_edits {r : Bool × KeyValCluster}
    (h : setAnnotation cr key value |>.Runs t (.ok r)) : Edits key cr r.2 :=
  edit_edits (agreeOff_insert _ key value) h

theorem clearAnnotation_edits {r : Option String × KeyValCluster}
    (h : clearAnnotation cr key |>.Runs t (.ok r)) : Edits key cr r.2 :=
  edit_edits (agreeOff_erase _ key) h

end

/-! ## Scaling -/

section
variable {st : State} {plan : Plan}

theorem startScale_asks
    (hpatch : ∀ direction, P (.patchCluster st.cluster.ns st.cluster.name
      (st.cluster.annotations.insert annotationScalePhase direction) st.cluster.finalizers))
    (hev : ∀ direction current target, P (.event (.scaleStarted direction current target)))
    (plan : Plan) : Asks P (startScale st plan) := by
  unfold startScale setScalePhaseAnnotation
  dsimp only
  split
  · refine andThen_issues (orWrap_issues ?_) fun t r _ => ?_
    · split
      · exact .ret _
      · exact setAnnotation_asks (hpatch _)
    · exact (event_asks _ (hev _ _ _)).bind fun _ => .ret _
  · exact .ret _

theorem startScale_edits (h : (startScale st plan).Runs t (.ok r)) :
    Edits annotationScalePhase st.cluster r.1 := by
  unfold startScale setScalePhaseAnnotation at h
  dsimp only at h
  split at h
  · obtain ⟨t1, ⟨changed, cr⟩, t2, rfl, h1, h2⟩ := runs_andThen h
    have hedits : Edits annotationScalePhase st.cluster cr := by
      have h1' := runs_orWrap h1
      split at h1'
      · obtain ⟨-, heq⟩ := runs_ret.1 h1'
        cases heq
        exact .refl _ _
      · exact setAnnotation_edits h1'
    obtain ⟨_, _, _, -, -, h3⟩ := runs_bind.1 h2
    obtain ⟨-, heq⟩ := runs_ret.1 h3
    cases heq
    exact hedits
  · obtain ⟨-, heq⟩ := runs_ret.1 h
    cases heq
    exact .refl _ _

theorem startScale_keeps (h : (startScale st plan).Runs t (.ok r)) : Keeps st.cluster r.1 :=
  (startScale_edits h).keeps (by decide)

theorem finishScale_asks
    (hpatch : P (.patchCluster cr.ns cr.name (cr.annotations.erase annotationScalePhase)
      cr.finalizers))
    (hev : ∀ direction target ready, P (.event (.scaleCompleted direction target ready)))
    (st : State) (plan : Plan) (phase : String) : Asks P (finishScale st plan cr phase) := by
  unfold finishScale clearScalePhaseAnnotation
  split
  · refine andThen_issues (orWrap_issues <| clearAnnotation_asks hpatch) fun t r _ => ?_
    exact .call (hev _ _ _) fun _ _ => .ret _
  · exact .ret _

theorem finishScale_edits (h : (finishScale st plan cr phase).Runs t (.ok cr')) :
    Edits annotationScalePhase cr cr' := by
  unfold finishScale clearScalePhaseAnnotation at h
  split at h
  · obtain ⟨t1, ⟨prev, cr1⟩, t2, rfl, h1, h2⟩ := runs_andThen h
    have hedits := clearAnnotation_edits (runs_orWrap h1)
    obtain ⟨_, _, -, h3⟩ := runs_call.1 h2
    obtain ⟨-, heq⟩ := runs_ret.1 h3
    cases heq
    exact hedits
  · obtain ⟨-, heq⟩ := runs_ret.1 h
    cases heq
    exact .refl _ _

theorem finishScale_keeps (h : (finishScale st plan cr phase).Runs t (.ok cr')) : Keeps cr cr' :=
  (finishScale_edits h).keeps (by decide)

/-! ## Blocked and resumed steps -/

/-- An event about a blocked step. -/
def OfBlock : Ev → Prop
  | .rollingStepBlocked .. | .scaleBlocked .. | .rollingStepResumed _ | .noGoodSlave _ => True
  | _ => False

/-- The requests of the phases are allowed, the events of blocked and resumed steps, and every
patch of the annotation that blocks the steps and of those in `keys`. -/
structure Permits (P : Req → Prop) (keys : List String) (cr : KeyValCluster) : Prop where
  phase : ∀ q, PhaseReq q → P q
  event : ∀ ev, OfBlock ev → P (.event ev)
  patch : ∀ ns name annotations finalizers,
    AgreeOff (annotationUpdateBlocked :: keys) cr.annotations annotations →
    P (.patchCluster ns name annotations finalizers)

theorem Permits.of_plain (hP : ∀ q, Plain q → P q) : Permits P keys cr where
  phase q hq := hP q hq.plain
  event _ _ := hP _ trivial
  patch _ _ _ _ _ := hP _ trivial

theorem Permits.plain : Permits Plain [] cr := .of_plain fun _ h => h

theorem Permits.edited
    (hP : Permits P keys cr) (h : Edits annotationUpdateBlocked cr cr') : Permits P keys cr' where
  phase := hP.phase
  event := hP.event
  patch ns name anns fin hanns :=
    hP.patch ns name anns fin ((h.annotations.mono (by simp)).trans hanns)

theorem blockStep_asks {α : Type} (hP : Permits P keys cr)
    (text reason detail : String) (scaleDown : Bool) (delay : Duration) :
    Asks P (blockStep cr text reason detail scaleDown delay : M (Except Outcome α)) := by
  unfold blockStep setUpdateBlockedAnnotation
  refine andThen_issues (orWrap_issues <| setAnnotation_asks <|
    hP.patch _ _ _ _ ((agreeOff_insert _ _ _).mono (by simp))) fun t r _ => ?_
  refine (event_asks _ (hP.event _ (by trivial))).bind fun _ => ?_
  exact (event_asks _ (hP.event _ (by trivial))).bind fun _ => requeue_asks hP.phase _

theorem resumeStep_asks (hP : Permits P keys cr) : Asks P (resumeStep cr) := by
  unfold resumeStep clearUpdateBlockedAnnotation
  refine andThen_issues (orWrap_issues <| clearAnnotation_asks <|
    hP.patch _ _ _ _ ((agreeOff_erase _ _).mono (by simp))) fun t r _ => ?_
  exact (event_asks _ (hP.event _ (by trivial))).bind fun _ => .ret _

theorem resumeStep_edits (h : (resumeStep cr).Runs t (.ok cr')) :
    Edits annotationUpdateBlocked cr cr' := by
  unfold resumeStep clearUpdateBlockedAnnotation at h
  obtain ⟨t1, ⟨prev, cr1⟩, t2, rfl, h1, h2⟩ := runs_andThen h
  have hedits := clearAnnotation_edits (runs_orWrap h1)
  obtain ⟨_, _, _, -, -, h3⟩ := runs_bind.1 h2
  obtain ⟨-, heq⟩ := runs_ret.1 h3
  cases heq
  exact hedits

theorem resumeStep_keeps (h : (resumeStep cr).Runs t (.ok cr')) :
    Keeps cr cr' := (resumeStep_edits h).keeps (by decide)

end

/-! ## Failover -/

theorem hasGoodSlaveFrom_asks (cr : KeyValCluster) (pods : List Pod) (master : String) :
    ∀ (l : List Pod) (detail : String), Asks PhaseReq (hasGoodSlaveFrom cr pods master l detail)
  | [], _ => .ret _
  | p :: rest, detail => by
    unfold hasGoodSlaveFrom
    simp only [bind_eq, pure_eq, ask_eq, call_bind, ret_bind]
    split
    · exact hasGoodSlaveFrom_asks cr pods master rest _
    refine .call trivial fun r _ => ?_
    cases r with
    | error e => exact hasGoodSlaveFrom_asks cr pods master rest _
    | ok u =>
      refine .call trivial fun r _ => ?_
      cases r with
      | error e => exact hasGoodSlaveFrom_asks cr pods master rest _
      | ok info =>
        dsimp only
        split_ifs
        · exact hasGoodSlaveFrom_asks cr pods master rest _
        · exact hasGoodSlaveFrom_asks cr pods master rest _
        · split
          · exact .ret _
          · exact hasGoodSlaveFrom_asks cr pods master rest _

theorem reportNoGoodSlave_asks (hP : Permits P keys cr) (detail : String) :
    Asks P (reportNoGoodSlave detail) :=
  .call (hP.phase _ trivial) fun _ _ => event_asks _ (hP.event _ trivial)

theorem triggerFailover_asks (F : Formats) (cr : KeyValCluster) (redisPods sentinelPods : List Pod)
    (sec : Option Settings) :
    Asks PhaseReq (Sentinel.triggerFailover F cr redisPods sentinelPods sec) := by
  unfold Sentinel.triggerFailover
  split_ifs
  · exact .ret _
  · exact .ret _
  · exact .ret _
  cases sec.bind (Replication.clientTLSConfig F) with
  | some e => exact .ret _
  | none =>
    refine (Sentinel.acceptFailover_asks trivial (fun _ => trivial) (fun _ => trivial) _ _).bind
      fun r => ?_
    cases r with
    | error e => exact .ret _
    | ok sentinel =>
      refine .call trivial fun polls _ => ?_
      refine (Sentinel.pollMaster_asks trivial trivial polls).bind fun r => ?_
      cases r with
      | error e => exact .ret _
      | ok addr =>
        dsimp only
        cases Sentinel.podForHost F redisPods addr.1 with
        | error e => exact .ret _
        | ok masterName =>
          refine Issues.bind ?_ fun r => ?_
          · unfold Replication.ensureReplicationToMaster
            refine Issues.bind ((Replication.ensureTopology_asks _ F).mono fun _ =>
              TopologyReq.phaseReq) fun r => ?_
            obtain ⟨res, err⟩ := r
            cases err <;> exact .ret _
          · cases r <;> exact .ret _

/-- No event about a scale operation. -/
def OfStep : Ev → Prop
  | .scaleStarted .. | .scaleCompleted .. => False
  | _ => True

/-- All that the steps after scaling ask for is allowed, apart from the removal of pods. -/
structure PermitsSteps (P : Req → Prop) (cr : KeyValCluster) : Prop extends
    Permits P [annotationRestartFormerMaster] cr where
  step : ∀ ev, OfStep ev → P (.event ev)
  plan : P (.planUpdates true)

theorem PermitsSteps.of_plain (hP : ∀ q, Plain q → P q) : PermitsSteps P cr where
  toPermits := .of_plain hP
  step _ _ := hP _ trivial
  plan := hP _ trivial

theorem PermitsSteps.plain : PermitsSteps Plain cr := .of_plain fun _ h => h

theorem PermitsSteps.edited (hP : PermitsSteps P cr)
    (h : Edits annotationUpdateBlocked cr cr') : PermitsSteps P cr' where
  toPermits := hP.toPermits.edited h
  step := hP.step
  plan := hP.plan

theorem controlledFailover_asks {α : Type} (hP : PermitsSteps P cr)
    (F : Formats) (st : State) : Asks P (controlledFailover F cr st : M (Except Outcome α)) := by
  have hrun : Asks P (runFailover F cr st : M (Except Outcome α)) := by
    refine .call (hP.step _ trivial) fun _ _ => .call (hP.step _ trivial) fun _ _ => ?_
    refine ((triggerFailover_asks F _ _ _ _).mono hP.phase).bind fun r => ?_
    cases r with
    | ok nm =>
      exact .call (hP.step _ trivial) fun _ _ => .call (hP.step _ trivial) fun _ _ =>
        .call (hP.patch _ _ _ _ ((agreeOff_insert _ _ _).mono (by simp))) fun _ _ =>
          requeue_asks hP.phase _
    | error e =>
      dsimp only
      split
      · exact (reportNoGoodSlave_asks hP.toPermits _).bind fun _ => requeue_asks hP.phase _
      · exact .call (hP.step _ trivial) fun _ _ => .call (hP.step _ trivial) fun _ _ =>
          requeue_asks hP.phase _
  unfold controlledFailover
  dsimp only
  split
  · exact requeue_asks hP.phase _
  split
  · exact requeue_asks hP.phase _
  refine ((hasGoodSlaveFrom_asks _ _ _ _ _).mono hP.phase).bind fun r => ?_
  obtain ⟨good, detail⟩ := r
  cases good with
  | false => exact (reportNoGoodSlave_asks hP.toPermits _).bind fun _ => requeue_asks hP.phase _
  | true =>
    dsimp only
    split
    · exact hrun
    · exact requeue_asks hP.phase _

end Controller

/-! ## Evictions -/

section
variable {R : Event Op → Prop} {P : Req → Prop}

theorem Eviction.evictFrom_issues (s : Eviction.Settings) (pod : Pod) (hctx : P .ctxErr)
    (hev : P (.evictPod pod.ns pod.name)) :
    ∀ left attempt, Issues R P (Eviction.evictFrom s pod left attempt) := by
  intro left
  induction left with
  | zero =>
    intro attempt
    unfold Eviction.evictFrom
    simp only [bind_eq, pure_eq, ask_eq, call_bind, ret_bind]
    refine .call hctx fun r _ => ?_
    cases r with
    | some e => exact .ret _
    | none =>
      refine .call hev fun r _ => ?_
      cases r with
      | ok u => exact .ret _
      | error e =>
        dsimp only
        split <;> exact .ret _
  | succ left ih =>
    intro attempt
    unfold Eviction.evictFrom
    simp only [bind_eq, pure_eq, ask_eq, call_bind, ret_bind]
    refine .call hctx fun r _ => ?_
    cases r with
    | some e => exact .ret _
    | none =>
      refine .call hev fun r _ => ?_
      cases r with
      | ok u => exact .ret _
      | error e =>
        dsimp only
        split
        · exact .ret _
        split
        · exact .ret _
        refine Issues.bind ?_ fun r => ?_
        · unfold Eviction.wait
          split
          · exact .call hctx fun _ _ => .ret _
          · exact .ret _
        · cases r with
          | some e => exact .ret _
          | none => exact ih _

theorem Eviction.evict_issues (s : Eviction.Settings) (pod : Pod) (hctx : P .ctxErr)
    (hev : P (.evictPod pod.ns pod.name)) : Issues R P (Eviction.evict s pod) :=
  evictFrom_issues _ pod hctx hev _ _

/-- The removal of the pod, as read, is allowed. -/
def MayRemove (R : Event Op → Prop) (P : Req → Prop) (pod : Pod) : Prop :=
  ∀ p, R ⟨.getPod pod.ns pod.name, .ok p⟩ → P (.evictPod p.ns p.name) ∧ P (.deletePod p.ns p.name)

theorem Update.evictOne_issues (hP : ∀ q, PhaseReq q → P q) (component : Update.Component)
    (settings : Eviction.Settings) {pod : Pod} (hpod : MayRemove R P pod) :
    Issues R P (Update.evictOne component settings pod) := by
  unfold Update.evictOne
  simp only [bind_eq, pure_eq, ask_eq, call_bind, ret_bind]
  refine .call (hP _ trivial) fun r hr => ?_
  cases r with
  | error e => exact .ret _
  | ok toDel =>
    obtain ⟨hev, hdel⟩ := hpod toDel hr
    refine (Eviction.evict_issues settings toDel (hP _ trivial) hev).bind fun r => ?_
    cases r with
    | none => exact .ret _
    | some e =>
      dsimp only
      split
      · split
        · refine .call hdel fun r _ => ?_
          cases r with
          | ok u => exact .ret _
          | error d =>
            dsimp only
            split <;> exact .ret _
        · exact .ret _
      · exact .ret _

theorem Update.execute_issues (hP : ∀ q, PhaseReq q → P q) (cr : KeyValCluster) (plan : Plan)
    (pods : List Pod) (health : Option (Map PodHealth)) (component : Update.Component)
    (settings : Eviction.Settings)
    (hpods : ∀ pod ∈ pods, MayRemove R P pod) :
    Issues R P (Update.execute cr plan pods health component settings) := by
  have hfrom : ∀ names, Issues R P
      (Update.executeFrom cr plan pods health component settings names) := by
    intro names
    induction names with
    | nil => exact .ret _
    | cons name rest ih =>
      unfold Update.executeFrom
      cases hfind : pods.find? (·.name = name) with
      | none => exact ih
      | some pod =>
        dsimp only
        split
        · exact ih
        · exact evictOne_issues hP component settings (hpods pod (mem_of_find?_eq_some hfind))
  unfold Update.execute
  split
  · exact .ret _
  split
  · exact .ret _
  split
  · exact .ret _
  exact hfrom _

namespace Controller

open Phases Update

variable {cr : KeyValCluster}

theorem tryEvictFormerMaster_issues (hP : ∀ q, PhaseReq q → P q) (settings : Eviction.Settings)
    (name : String) (pods : List Pod) (hpods : ∀ pod ∈ pods, MayRemove R P pod) :
    Issues R P (tryEvictFormerMaster settings name pods) := by
  unfold tryEvictFormerMaster
  cases hfind : pods.find? (·.name = name) with
  | none => exact .ret _
  | some pod =>
    simp only [bind_eq, pure_eq, ask_eq, call_bind, ret_bind]
    split
    · exact .ret _
    split
    · exact .ret _
    refine .call (hP _ trivial) fun r hr => ?_
    cases r with
    | error e =>
      dsimp only
      split <;> exact .ret _
    | ok current =>
      refine (Eviction.evict_issues settings current (hP _ trivial)
        (hpods pod (mem_of_find?_eq_some hfind) current hr).1).bind fun r => ?_
      cases r <;> exact .ret _

variable {α : Type}

theorem issues_of_asks {p : M α} (h : Asks P p) : Issues R P p := h.restrict fun _ _ => trivial

theorem plain_issues (hP : ∀ q, Plain q → P q) {p : M α} (h : Asks Plain p) : Issues R P p :=
  issues_of_asks (h.mono hP)

theorem restartFormerMaster_issues (hP : PermitsSteps P cr)
    (settings : Eviction.Settings) (st : State) (hpods : ∀ pod ∈ st.redisPods, MayRemove R P pod) :
    Issues R P (restartFormerMaster settings cr st : M (Except Outcome α)) := by
  unfold restartFormerMaster patchAnnotations
  dsimp only
  split
  · exact issues_of_asks (requeue_asks hP.phase _)
  refine (tryEvictFormerMaster_issues hP.phase settings _ st.redisPods hpods).bind fun r => ?_
  rcases r with e | _ | _
  · dsimp only
    split
    · exact issues_of_asks (blockStep_asks hP.toPermits _ _ _ _ _)
    · exact .ret _
  · exact issues_of_asks (requeue_asks hP.phase _)
  · exact .call (hP.patch _ _ _ _ ((agreeOff_erase _ _).mono (by simp))) fun _ _ =>
      issues_of_asks (requeueWith_asks hP.phase _ (hP.step _ trivial))

theorem executePlan_issues (hP : PermitsSteps P cr)
    (settings : Eviction.Settings) (st : State) (plan : Plan)
    (hpods : ∀ pod ∈ st.redisPods, MayRemove R P pod) :
    Issues R P (executePlan settings cr st plan : M (Except Outcome α)) := by
  unfold executePlan
  refine (execute_issues hP.phase cr plan st.redisPods st.runtime.health .redis settings hpods).bind
    fun r => ?_
  obtain ⟨evicted, err⟩ := r
  cases err with
  | some e =>
    dsimp only
    split
    · exact issues_of_asks (blockStep_asks hP.toPermits _ _ _ _ _)
    · exact .ret _
  | none =>
    dsimp only
    split
    · exact issues_of_asks (requeueWith_asks hP.phase _ (hP.step _ trivial))
    · exact restartFormerMaster_issues hP settings st hpods

theorem rollingStep_issues (hP : PermitsSteps P cr) (F : Formats)
    (settings : Eviction.Settings) (st : State) (plan : Plan)
    (hpods : ∀ pod ∈ st.redisPods, MayRemove R P pod) :
    Issues R P (rollingStep F settings cr st plan : M (Except Outcome α)) := by
  unfold rollingStep
  dsimp only
  split
  · exact issues_of_asks (blockStep_asks hP.toPermits _ _ _ _ _)
  · refine andThen_issues (issues_of_asks (resumeStep_asks hP.toPermits)) fun t cr' h => ?_
    split
    · exact issues_of_asks (controlledFailover_asks (hP.edited (resumeStep_edits h)) F _)
    · exact executePlan_issues (hP.edited (resumeStep_edits h)) settings st plan hpods

theorem sentinelStep_issues (hP : PermitsSteps P cr) (settings : Eviction.Settings) (st : State)
    (hpods : ∀ pod ∈ st.sentinelPods, MayRemove R P pod) :
    Issues R P (sentinelStep settings cr st) := by
  unfold sentinelStep
  split
  · refine .call hP.plan fun sp _ => ?_
    rw [ret_bind]
    dsimp only
    split
    · exact .ret _
    split
    · exact issues_of_asks (blockStep_asks hP.toPermits _ _ _ _ _)
    refine andThen_issues (issues_of_asks (resumeStep_asks hP.toPermits)) fun t cr' h => ?_
    have hP' := hP.edited (resumeStep_edits h)
    unfold executeSentinelPlan
    refine (execute_issues hP.phase _ _ st.sentinelPods _ .sentinel settings hpods).bind fun r => ?_
    obtain ⟨evicted, err⟩ := r
    cases err with
    | some e =>
      dsimp only
      split
      · exact issues_of_asks (blockStep_asks hP'.toPermits _ _ _ _ _)
      · exact .ret _
    | none =>
      dsimp only
      split
      · exact issues_of_asks (requeueWith_asks hP.phase _ (hP.step _ trivial))
      · exact .ret _
  · exact .ret _

/-- **The steps**: besides plain requests they remove pods only in `execute`, in
`tryEvictFormerMaster` and among the Sentinel pods. -/
theorem steps_issues (hP : ∀ q, Plain q → P q) (F : Formats) (settings : Eviction.Settings)
    (st : State)
    (hpods : ∀ pod ∈ st.redisPods, MayRemove R P pod)
    (hsentinel : ∀ pod ∈ st.sentinelPods, MayRemove R P pod) :
    Issues R P (steps F settings st) := by
  refine .call (hP _ trivial) fun plan _ => ?_
  refine andThen_issues (plain_issues hP
    (startScale_asks (fun _ => trivial) (fun _ _ _ => trivial) plan)) fun _ r _ => ?_
  refine andThen_issues (plain_issues hP
    (finishScale_asks trivial (fun _ _ _ => trivial) st plan _)) fun _ cr _ => ?_
  split
  · exact rollingStep_issues (.of_plain hP) F settings st plan hpods
  · refine andThen_issues (plain_issues hP (resumeStep_asks .plain)) fun _ cr' _ => ?_
    refine andThen_issues (sentinelStep_issues (.of_plain hP) settings st hsentinel) fun _ _ _ => ?_
    split
    · exact plain_issues hP (requeue_asks (fun _ => PhaseReq.plain) _)
    · exact .ret _

/-! ## The phases -/

theorem reconcileTopology_asks (F : Formats) (st : State) :
    Asks PhaseReq (reconcileTopology F st) := by
  refine Issues.bind ((runtime_asks F st).mono fun _ => RuntimeReq.phaseReq) fun r => ?_
  obtain ⟨st', err⟩ := r
  cases err with
  | some e => exact .ret _
  | none =>
    refine .call trivial fun r _ => ?_
    rw [ret_bind]
    cases r with
    | error e => exact .ret _
    | ok sentinel =>
      exact Issues.bind (Bootstrap.updatePVCFreshness_asks F _ _ _ trivial (fun _ _ => trivial)
        fun _ _ => trivial) fun _ => labels_asks _

theorem observe_asks (F : Formats) (st : State) : Asks PhaseReq (observe F st) := by
  unfold observe
  refine andThen_issues (orFailPhase_issues (reconcileTopology_asks F st)) fun _ _ _ => ?_
  refine andThen_issues (orFail_issues (ask_asks trivial)) fun _ _ _ => ?_
  exact andThen_issues (orFail_issues (ask_asks trivial)) fun _ _ _ => .ret _

theorem requirePods_asks (st : State) : Asks PhaseReq (requirePods st) := by
  unfold requirePods
  split
  · split
    · exact .ret _
    · exact .call trivial fun _ _ => .ret _
  · exact .ret _

theorem ensureStorage_asks (F : Formats) (st : State) : Asks PhaseReq (ensureStorage F st) := by
  refine Issues.bind (Storage.ensureResize_asks F _ _) fun r => ?_
  obtain ⟨plan, err⟩ := r
  cases err <;> exact .ret _

/-! ### Workloads -/

/-- A request of the workload phases. -/
def WorkloadReq : Req → Prop
  | .getStatefulSet .. | .listPods .. | .backoff _ => True
  | .event ev => ev.OfPhase
  | _ => False

theorem WorkloadReq.phaseReq (h : WorkloadReq q) : PhaseReq q := by
  cases q <;> trivial

theorem awaitPods_cluster {st st' : State} {t : Trace}
    (h : (awaitPods st).Runs t st') : st'.cluster = st.cluster := by
  unfold awaitPods at h
  split at h
  · obtain ⟨backoff, t', -, h'⟩ := runs_call.1 h
    obtain ⟨-, rfl⟩ := runs_ret.1 h'
    rfl
  · obtain ⟨-, rfl⟩ := runs_ret.1 h
    rfl

theorem awaitPods_asks (st : State) : Asks WorkloadReq (awaitPods st) := by
  unfold awaitPods
  split
  · exact .call trivial fun _ _ => .ret _
  · exact .ret _

theorem listSentinelPods_asks (st : State) : Asks WorkloadReq (listSentinelPods st) := by
  refine .call trivial fun r _ => ?_
  cases r <;> exact .ret _

theorem applySentinel_asks (hP : ∀ q, WorkloadReq q → P q) (F : Formats) (st : State)
    (hss : P (.applyStatefulSet (sentinelStatefulSet st.cluster))) :
    Asks P (applySentinel F st) := by
  have hlist : ∀ st', Asks P (listSentinelPods st') := fun st' =>
    (listSentinelPods_asks st').mono hP
  have hit : Asks P (applySentinel.applyIt F st (sentinelStatefulSet st.cluster)) := by
    unfold applySentinel.applyIt
    simp only [bind_eq, pure_eq, ask_eq, call_bind, ret_bind]
    refine .call hss fun r _ => ?_
    cases r with
    | ok u => exact hlist st
    | error e =>
      dsimp only
      cases detectStatefulSetApplyConflict F e with
      | some c => exact .call (hP _ trivial) fun _ _ => .ret _
      | none =>
        cases detectSentinelImmutableCause e with
        | some c => exact .call (hP _ trivial) fun _ _ => hlist _
        | none => exact .call (hP _ trivial) fun _ _ => .ret _
  unfold applySentinel
  simp only [bind_eq, pure_eq, ask_eq, call_bind, ret_bind]
  refine .call (hP _ trivial) fun r _ => ?_
  cases r with
  | ok existing => exact hit
  | error e =>
    dsimp only
    split
    · exact .ret _
    · exact hit

theorem workloads_asks (hP : ∀ q, WorkloadReq q → P q) (F : Formats) (st : State)
    (hredis : P (.applyStatefulSet (redisStatefulSet st.cluster)))
    (hsentinel : P (.applyStatefulSet (sentinelStatefulSet st.cluster))) :
    Asks P (workloads F st) := by
  have hlist : Asks P (listRedisPods F st) := by
    refine .call (hP _ trivial) fun r _ => ?_
    cases r with
    | error e => exact .ret _
    | ok pods =>
      refine ((awaitPods_asks _).mono hP).bind_of fun t st' h _ => ?_
      have hcluster := awaitPods_cluster h
      split
      · exact applySentinel_asks hP F st' (hcluster ▸ hsentinel)
      · exact .ret _
  have happly : ∀ hash, Asks P (applyRedis F st hash) := by
    intro hash
    refine Issues.bind (event_asks _ (hP _ trivial)) fun _ => ?_
    refine .call hredis fun r _ => ?_
    rw [ret_bind]
    cases r with
    | ok u => exact hlist
    | error e =>
      dsimp only
      cases detectStatefulSetApplyConflict F e with
      | some c => exact .call (hP _ trivial) fun _ _ => .ret _
      | none => exact .call (hP _ trivial) fun _ _ => .ret _
  refine .call (hP _ trivial) fun r _ => ?_
  rw [ret_bind]
  cases r with
  | ok existing => exact happly _
  | error e =>
    dsimp only
    split
    · exact .ret _
    · exact happly _

theorem prepare_asks (hP : ∀ q, PhaseReq q → P q) (F : Formats) (st : State)
    (hredis : P (.applyStatefulSet (redisStatefulSet st.cluster)))
    (hsentinel : P (.applyStatefulSet (sentinelStatefulSet st.cluster))) :
    Asks P (prepare F st) := by
  have hask : ∀ {q : Req}, PhaseReq q → Asks P (ask q) := fun h => ask_asks (hP _ h)
  have habort : ∀ (st' : State) (err : Option Error),
      Asks P (abortWith st' err : M (Except Outcome State)) :=
    fun _ _ => andThen_issues (orFail_issues (hask trivial)) fun _ _ _ => .ret _
  unfold prepare
  refine andThen_issues (orFail_issues (hask trivial)) fun _ s _ => ?_
  refine andThen_issues (orFail_issues (hask trivial)) fun _ hash _ => ?_
  refine andThen_issues (orFail_issues (hask trivial)) fun _ _ _ => ?_
  refine andThen_issues (orFailPhase_issues (workloads_asks (fun q hq => hP q hq.phaseReq) F
    { st with settings := s.1, tlsHash := s.2, configHash := hash } hredis hsentinel))
    fun _ st' _ => ?_
  refine andThen_issues (orFail_issues (hask trivial)) fun _ pods _ => ?_
  refine .call (hP _ trivial) fun r _ => ?_
  rw [ret_bind]
  cases r with
  | error e => exact habort _ _
  | ok abort =>
    dsimp only
    split
    · exact habort _ _
    · exact .ret _

/-! ### Deletion and finalizer -/

theorem handleDeletion_asks (hP : ∀ q, PhaseReq q → P q)
    (hpatch : ∀ finalizers, P (.patchCluster cr.ns cr.name cr.annotations finalizers)) :
    Asks P (handleDeletion cr) := by
  unfold handleDeletion
  split
  · refine andThen_issues (orWrap_issues (ask_asks (hP _ trivial))) fun _ _ _ => ?_
    exact orWrap_issues (ask_asks (hpatch _))
  · exact .ret _

theorem ensureFinalizer_run {cr cr' : KeyValCluster} {t : Trace}
    (h : (ensureFinalizer cr).Runs t (.ok cr')) :
    cr'.name = cr.name ∧ cr'.annotations = cr.annotations ∧ cr'.spec = cr.spec := by
  unfold ensureFinalizer at h
  split at h
  · obtain ⟨-, heq⟩ := runs_ret.1 h
    cases heq
    exact ⟨rfl, rfl, rfl⟩
  · obtain ⟨_, _, _, -, -, h'⟩ := runs_andThen h
    obtain ⟨-, heq⟩ := runs_ret.1 h'
    cases heq
    exact ⟨rfl, rfl, rfl⟩

theorem ensureFinalizer_asks
    (hpatch : ∀ finalizers, P (.patchCluster cr.ns cr.name cr.annotations finalizers)) :
    Asks P (ensureFinalizer cr) := by
  unfold ensureFinalizer
  split
  · exact .ret _
  · exact andThen_issues (orWrap_issues (ask_asks (hpatch _))) fun _ _ _ => .ret _

/-! ### After the workloads -/

theorem afterWorkloads_asks (F : Formats) (settings : Eviction.Settings) (st : State) :
    Asks NoApply (afterWorkloads F settings st) := by
  have hP : ∀ q, Plain q → NoApply q := fun _ => Plain.noApply
  have hphase : ∀ q, PhaseReq q → Plain q := fun _ => PhaseReq.plain
  have hremove : ∀ pod, MayRemove (fun _ => True) NoApply pod := fun _ _ _ => ⟨trivial, trivial⟩
  unfold afterWorkloads
  refine andThen_issues (plain_issues hP ((requirePods_asks st).mono hphase)) fun _ st _ => ?_
  refine andThen_issues (plain_issues hP ((ensureStorage_asks F st).mono hphase)) fun _ st _ => ?_
  refine andThen_issues (plain_issues hP ((observe_asks F st).mono hphase)) fun _ st _ => ?_
  exact steps_issues hP F settings st (fun pod _ => hremove pod) fun pod _ => hremove pod

end Controller

end

end Keyval
