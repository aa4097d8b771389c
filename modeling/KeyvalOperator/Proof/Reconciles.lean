import KeyvalOperator.Lib.History
import KeyvalOperator.Proof.Annotations
import KeyvalOperator.Proof.ScaleProtocol

/-!
# Reconciles as a whole

* `removes_after_phases`: **a reconcile removes a pod only after its phases have succeeded**, in
  their order, and after it has planned.
* `foreign_kept`: **no patch of a run of reconciles changes an annotation of others**.
-/

namespace Keyval.Controller

open Go Interact Interact.Prog Phases Update List

variable {F : Formats} {settings : Eviction.Settings} {st : State}

/-! ## The phases before a removal -/

/-- The phase that the event reports to have succeeded, or the plan of the Redis pods. -/
def succeeded : Event Op → Option Req
  | ⟨.security, .ok _⟩ => some .security
  | ⟨.config, .ok _⟩ => some .config
  | ⟨.services, .ok _⟩ => some .services
  | ⟨.podMetadata, .ok _⟩ => some .podMetadata
  | ⟨.externalImport, .ok none⟩ => some .externalImport
  | ⟨.sentinel, .ok _⟩ => some .sentinel
  | ⟨.status, .ok _⟩ => some .status
  | ⟨.pdb, .ok _⟩ => some .pdb
  | ⟨.planUpdates false, _⟩ => some (.planUpdates false)
  | _ => none

/-- The markers of the phases, in order. -/
def order : List Req :=
  [.security, .config, .services, .podMetadata, .externalImport, .sentinel, .status, .pdb]

/-- The phases `qs` have succeeded one after the other. -/
def Succeeded (qs : List Req) (t : Trace) : Prop := qs.Sublist (t.filterMap succeeded)

section
variable {st' : State} {t u : Trace} {q : Req} {qs qs' : List Req} {e : Event Op}
  {o : Except Outcome Unit}

theorem Succeeded.cons (he : succeeded e = some q) (h : Succeeded qs t) :
    Succeeded (q :: qs) (e :: t) := by
  unfold Succeeded
  rw [filterMap_cons_some he]
  exact h.cons_cons q

theorem Succeeded.append (h : Succeeded qs t) (h' : Succeeded qs' u) :
    Succeeded (qs ++ qs') (t ++ u) := by
  unfold Succeeded
  rw [filterMap_append]
  exact List.Sublist.append h h'

theorem Succeeded.skip (t : Trace) (h : Succeeded qs u) : Succeeded qs (t ++ u) :=
  .append (nil_sublist _) h

theorem prepare_succeeds (h : (prepare F st).Runs t (.ok st')) :
    Succeeded [.security, .config, .services, .podMetadata, .externalImport] t := by
  unfold prepare at h
  obtain ⟨t1, _, _, rfl, hsecurity, h1⟩ := runs_andThen h
  obtain ⟨t2, _, _, rfl, hconfig, h2⟩ := runs_andThen h1
  obtain ⟨t3, _, _, rfl, hservices, h3⟩ := runs_andThen h2
  obtain ⟨t4, _, _, rfl, -, h4⟩ := runs_andThen h3
  obtain ⟨t5, _, _, rfl, hpods, h5⟩ := runs_andThen h4
  obtain rfl := Replication.runs_ask (runs_orFail hsecurity)
  obtain rfl := Replication.runs_ask (runs_orFail hconfig)
  obtain rfl := Replication.runs_ask (runs_orFail hservices)
  obtain rfl := Replication.runs_ask (runs_orFail hpods)
  obtain ⟨rfl, -⟩ := importExternal_run h5
  exact .cons rfl (.cons rfl (.cons rfl (.skip t4 (.cons rfl (.cons rfl (.refl _))))))

theorem observe_succeeds (h : (observe F st).Runs t (.ok st')) :
    Succeeded [.sentinel, .status, .pdb] t := by
  unfold observe at h
  obtain ⟨t1, _, _, rfl, htopology, h1⟩ := runs_andThen h
  obtain ⟨t2, _, _, rfl, hstatus, h2⟩ := runs_andThen h1
  obtain ⟨t3, _, _, rfl, hpdb, h3⟩ := runs_andThen h2
  obtain rfl := Replication.runs_ask (runs_orFail hstatus)
  obtain rfl := Replication.runs_ask (runs_orFail hpdb)
  have hsentinel : Succeeded [.sentinel] t1 := by
    obtain ⟨st1, u1, u2, rfl, -, ⟨e, -, heq⟩ | ⟨sentinel, u3, u4, rfl, -⟩⟩ :=
      reconcileTopology_run (runs_of_orFailPhase htopology)
    · cases heq
    · exact .skip u1 (.cons rfl (nil_sublist _))
  exact hsentinel.append (.cons rfl (.cons rfl (nil_sublist _)))

theorem phases_succeed (h : (phases F st).Runs t (.ok st')) : Succeeded order t := by
  unfold phases at h
  obtain ⟨t1, _, _, rfl, -, h1⟩ := runs_andThen h
  obtain ⟨t2, _, _, rfl, hprepare, h2⟩ := runs_andThen h1
  obtain ⟨t3, _, _, rfl, -, h3⟩ := runs_andThen h2
  obtain ⟨t4, _, t5, rfl, -, hobserve⟩ := runs_andThen h3
  exact .skip t1 ((prepare_succeeds hprepare).append
    (.skip t3 (.skip t4 (observe_succeeds hobserve))))

theorem Before.noRemove {cr : KeyValCluster} (h : Before cr q) : NoRemove q := by
  cases q <;> trivial

/-- **A pod is removed only after the phases have succeeded**, in their order, and after the Redis
pods have been planned. -/
theorem removes_after_phases (h : (reconcileClusterImpl F settings st).Runs (t ++ e :: u) o)
    (hremoves : ¬ NoRemove e.req) : Succeeded (order ++ [.planUpdates false]) t := by
  have hmem : e ∈ t ++ e :: u := by simp
  cases hdeletion : st.cluster.deletionTimestamp.isSome with
  | true =>
    unfold reconcileClusterImpl at h
    rw [if_pos hdeletion] at h
    have hbefore := (handleDeletion_asks (fun _ => PhaseReq.before) fun _ => rfl).mem h
    exact absurd (hbefore e hmem).noRemove hremoves
  | false =>
    rw [reconcile_phases hdeletion] at h
    rcases runs_andThen_cases h with ⟨out, hphases⟩ | ⟨t1, st', t2, heq, hphases, hsteps⟩
    · exact absurd ((phases_asks F st).mem hphases e hmem).noRemove hremoves
    · obtain ⟨plan, t3, rfl, -⟩ := runs_asked.1 hsteps
      -- nothing is removed up to the plan
      have hkept : ∀ e ∈ t1 ++ [⟨.planUpdates false, plan⟩], ¬ ¬ NoRemove e.req := by
        refine forall_mem_append.2 ⟨fun e he => ?_, ?_⟩
        · exact not_not.2 ((phases_asks F st).mem hphases e he).noRemove
        · exact forall_mem_singleton.2 (not_not.2 trivial)
      have hsplit : t1 ++ [⟨.planUpdates false, plan⟩] ++ t3 = t ++ e :: u := by
        rw [heq, append_assoc, singleton_append]
      obtain ⟨w, rfl⟩ := History.prefix_of_split (P := fun e : Event Op => ¬ NoRemove e.req)
        hsplit hremoves hkept
      rw [append_assoc]
      exact (phases_succeed hphases).append (.cons rfl (nil_sublist _))

end

theorem removes_after_phases_a2 :
    ∃ t e u o, (reconcileClusterImpl .decimal {} { cluster := clusterA }).Runs (t ++ e :: u) o ∧
      ¬ NoRemove e.req ∧ Succeeded (order ++ [.planUpdates false]) t := by
  let reply := disrupting (readyA ["a-0", "a-1", "a-2"]) (planFor "tls-hash" ["a-2", "a-1"])
  have hrun := runs_answer reply (reconcileClusterImpl .decimal {} { cluster := clusterA })
  have hev : (answer reply (reconcileClusterImpl .decimal {} { cluster := clusterA })).1.any
      (evicts "a-2") = true := by decide +kernel
  obtain ⟨e, he, hevicts⟩ := any_eq_true.1 hev
  obtain ⟨t, u, heq⟩ := append_of_mem he
  rw [heq] at hrun
  have hremoves : ¬ NoRemove e.req := by
    obtain ⟨q, r⟩ := e
    cases q <;> first | exact id | cases hevicts
  exact ⟨t, e, u, _, hrun, hremoves, removes_after_phases hrun hremoves⟩

/-! ## Annotations of others -/

section
variable {cr : KeyValCluster} {key : String} {value value' : Option String} {rs : List Round}
  {r : Round}

theorem permits_leaves (hkey : key ∉ operatorAnnotations) (h : cr.annotations.lookup key = value) :
    PermitsSteps (LeavesAt (entryOf key) value) cr where
  phase q hq := by cases q <;> trivial
  event _ _ := trivial
  patch _ _ _ _ hanns := by
    have hown : ∀ k ∈ [annotationUpdateBlocked, annotationRestartFormerMaster],
      k ∈ operatorAnnotations := by decide
    exact (hanns key fun hmem => hkey (hown key hmem)).trans h
  step _ _ := trivial
  plan := trivial

theorem steps_leave (hkey : key ∉ operatorAnnotations)
    (h : st.cluster.annotations.lookup key = value) :
    Asks (LeavesAt (entryOf key) value) (steps F settings st) := by
  have hscale : ∀ {m m' : Map String}, AgreeOff [annotationScalePhase] m m' →
      m.lookup key = value → m'.lookup key = value := fun hagree hm =>
    (hagree key fun hmem => hkey (mem_singleton.1 hmem ▸ by decide)).trans hm
  refine .call trivial fun plan _ => ?_
  refine andThen_issues (startScale_asks (fun d => hscale (agreeOff_insert _ _ d) h)
    (fun _ _ _ => trivial) plan) fun _ r hstart => ?_
  have h1 := hscale (startScale_edits hstart).annotations h
  refine andThen_issues (finishScale_asks (hscale (agreeOff_erase _ _) h1) (fun _ _ _ => trivial)
    st plan r.2) fun _ cr hfinish => ?_
  exact rest_asks (permits_leaves hkey (hscale (finishScale_edits hfinish).annotations h1))
    (fun _ _ _ => ⟨trivial, trivial⟩) F settings st plan

theorem reconcile_leaves (hkey : key ∉ operatorAnnotations)
    (h : ReadsBack F (entryOf key) value r value') :
    ∀ e ∈ r.events, LeavesAt (entryOf key) value e.req := by
  have hbefore : ∀ q, Before r.before.cluster q → LeavesAt (entryOf key) value q := by
    intro q hq
    cases q with
    | patchCluster ns name annotations finalizers =>
      obtain rfl : annotations = r.before.cluster.annotations := hq
      exact h.reads
    | _ => trivial
  rcases reconcile_reaches h.runs with hall | ⟨t1, st', t2, heq, hall, hreaches, hsteps⟩
  · exact fun e he => hbefore _ (hall e he)
  · rw [heq]
    refine forall_mem_append.2 ⟨fun e he => hbefore _ (hall e he), ?_⟩
    exact (steps_leave hkey (hreaches.annotations ▸ h.reads)).mem hsteps

/-- **Annotations of others stay**: when nobody writes one in between, each patch in a run of
reconciles has the entry that the first one has read, or lacks it as that one did. -/
theorem foreign_kept (hkey : key ∉ operatorAnnotations)
    (h : Transition.Steps (ReadsBack F (entryOf key)) value rs value') :
    value' = value ∧ ∀ r ∈ rs, ∀ e ∈ r.events, LeavesAt (entryOf key) value e.req := by
  induction h with
  | nil => exact ⟨rfl, forall_mem_nil _⟩
  | snoc _ hstep ih =>
    obtain ⟨rfl, hall⟩ := ih
    have hleaves := reconcile_leaves hkey hstep
    refine ⟨hstep.leaves.trans (recorded_after hleaves), ?_⟩
    exact forall_mem_append.2 ⟨hall, forall_mem_singleton.2 hleaves⟩

end

/-- A reconcile that starts a scale operation, with an annotation of another writer. -/
def notedRound : Round :=
  played .decimal (recorded (entryOf "note")) (fun _ => disrupting (readyA ["a-0", "a-1"]) {})
    (some "kept")
    { cluster := { clusterA with annotations := Finmap.singleton "note" "kept" } }

/-- The reconcile that starts a scale operation patches the annotations, and keeps the note. -/
theorem foreign_kept_note :
    Transition.Steps (ReadsBack .decimal (entryOf "note")) (some "kept") [notedRound]
        (some "kept") ∧
      notedRound.events.any (emits (.scaleStarted "up" 2 3)) = true ∧
      ∀ e ∈ notedRound.events, LeavesAt (entryOf "note") (some "kept") e.req := by
  have hrun : Transition.Steps (ReadsBack .decimal (entryOf "note")) (some "kept") [notedRound]
      (some "kept") :=
    .snoc .nil (played_readsBack (by decide) (by decide +kernel))
  exact ⟨hrun, by decide +kernel, (foreign_kept (by decide) hrun).2 _ (mem_singleton_self _)⟩

end Keyval.Controller
