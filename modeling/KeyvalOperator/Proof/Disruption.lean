import KeyvalOperator.Proof.Planner
import KeyvalOperator.Proof.Requests
import KeyvalOperator.Proof.RoleLabels

/-!
# Disruptions

What one reconcile does to the pods: one inversion lemma for each function that removes pods, and
what follows from them for the pods that a reconcile removes and those that it leaves.

* `execute_takes`, `execute_idle`: which pod of a plan `execute` evicts, and when it evicts none.
* `evictOne_run`, `execute_run`, `restartFormerMaster_run`: which pod each of them removes, and what
  it has checked before.
* `planUpdates_plansNamed`: the plans of `planUpdates` list pods by their names.
* `reconcile_removesOne`: **a reconcile removes at most one pod**.
* `leavesReady_iff`: **an eviction leaves the others to ready pods unless a pod is missing**.
* `execute_safe`: **`execute` removes one pod at most, and only one that passed its tests**.
-/

namespace Keyval.Controller

open Go Interact Interact.Prog Phases Update List
open Replication (ask_asks)

variable {settings : Eviction.Settings} {cr : KeyValCluster} {plan : Plan} {component : Component}
  {pods : List Pod} {o : String × Option Error} {t : Trace} {health : Option (Map PodHealth)}
  {pod : Pod} {st : State} {q : Req}

/-! ## Removals -/

/-- Besides requests that remove no pod, only those that remove the given one. -/
def RemovesOnly (ns name : String) : Req → Prop
  | .evictPod n p | .deletePod n p => n = ns ∧ p = name
  | _ => True

/-- The request removes no pod. -/
def NoRemove : Req → Prop
  | .evictPod .. | .deletePod .. => False
  | _ => True

theorem NoRemove.removesOnly (h : NoRemove q) (ns name : String) :
    RemovesOnly ns name q := by
  cases q <;> trivial

theorem Plain.noRemove (h : Plain q) : NoRemove q := by
  cases q <;> trivial

/-- **`evictOne`** reads the pod and removes the pod that it has read; without an error it reports
the name. -/
theorem evictOne_run (h : (evictOne component settings pod).Runs t o) :
    (o.2 = none → o.1 = pod.name) ∧
    ∃ r t', t = ⟨.getPod pod.ns pod.name, r⟩ :: t' ∧
      match r with
      | .error _ => t' = []
      | .ok toDel => ∀ e ∈ t', RemovesOnly toDel.ns toDel.name e.req := by
  obtain ⟨r, t', rfl, h'⟩ := runs_asked.1 h
  cases r with
  | error e =>
    obtain ⟨rfl, rfl⟩ := runs_ret.1 h'
    exact ⟨nofun, _, [], rfl, rfl⟩
  | ok toDel =>
    obtain ⟨t1, r, t2, rfl, h1, h2⟩ := runs_bind.1 h'
    have hev : ∀ e ∈ t1, RemovesOnly toDel.ns toDel.name e.req :=
      Asks.mem (Eviction.evict_issues settings toDel trivial ⟨rfl, rfl⟩) h1
    -- the outcome of the eviction, and of the deletion after a refusal
    have hrest : (o.2 = none → o.1 = pod.name) ∧
        ∀ e ∈ t2, RemovesOnly toDel.ns toDel.name e.req := by
      cases r with
      | none =>
        obtain ⟨rfl, rfl⟩ := runs_ret.1 h2
        exact ⟨fun _ => rfl, forall_mem_nil _⟩
      | some e =>
        dsimp only at h2
        split_ifs at h2
        · obtain ⟨r, t3, rfl, h3⟩ := runs_asked.1 h2
          have hnil : t3 = [] ∧ (o.2 = none → o.1 = pod.name) := by
            cases r with
            | ok u =>
              obtain ⟨rfl, rfl⟩ := runs_ret.1 h3
              exact ⟨rfl, fun _ => rfl⟩
            | error d =>
              dsimp only at h3
              split_ifs at h3
              · obtain ⟨rfl, rfl⟩ := runs_ret.1 h3
                exact ⟨rfl, nofun⟩
              · obtain ⟨rfl, rfl⟩ := runs_ret.1 h3
                exact ⟨rfl, fun _ => rfl⟩
          obtain ⟨rfl, ho⟩ := hnil
          exact ⟨ho, forall_mem_singleton.2 ⟨rfl, rfl⟩⟩
        · obtain ⟨rfl, rfl⟩ := runs_ret.1 h2
          exact ⟨nofun, forall_mem_nil _⟩
        · obtain ⟨rfl, rfl⟩ := runs_ret.1 h2
          exact ⟨nofun, forall_mem_nil _⟩
    exact ⟨hrest.1, _, _, rfl, forall_mem_append.2 ⟨hev, hrest.2⟩⟩

/-- What `execute` has checked before it evicts: no pod terminates and every pod outside the plan is
ready. -/
structure Undisturbed (plan : Plan) (pods : List Pod) : Prop where
  present : ∀ p ∈ pods, p.deletionTimestamp = none
  ready : ∀ p ∈ pods, p.name ∉ plan.podNames → isPodReady p = true

section
variable (cr : KeyValCluster) (plan : Plan) (pods : List Pod) (health : Option (Map PodHealth))
  (component : Component)

/-- Every listed pod of the names is passed over. -/
def PassesOver (names : List String) : Prop :=
  ∀ n ∈ names, ∀ p, pods.find? (·.name = n) = some p →
    skipped cr plan pods health component p = true

/-- The pod is the first of the plan that is not passed over, and the pods are undisturbed. -/
structure Takes (pod : Pod) : Prop where
  undisturbed : Undisturbed plan pods
  listed : pods.find? (·.name = pod.name) = some pod
  kept : skipped cr plan pods health component pod = false
  first : ∃ before after, plan.podNames = before ++ pod.name :: after ∧
    PassesOver cr plan pods health component before

end

theorem executeFrom_append {names : List String}
    (h : PassesOver cr plan pods health component names) (rest : List String) :
    executeFrom cr plan pods health component settings (names ++ rest) =
      executeFrom cr plan pods health component settings rest := by
  induction names with
  | nil => rfl
  | cons name names ih =>
    obtain ⟨hname, hnames⟩ := forall_mem_cons.1 h
    rw [cons_append, executeFrom]
    cases hfind : pods.find? (·.name = name) with
    | none => exact ih hnames
    | some pod =>
      dsimp only
      rw [hname pod hfind, if_pos rfl]
      exact ih hnames

theorem execute_undisturbed (h : Undisturbed plan pods) :
    execute cr plan pods health component settings =
      executeFrom cr plan pods health component settings plan.podNames := by
  have hpresent : ¬ (pods.any (·.deletionTimestamp.isSome)) = true := by simpa using h.present
  have hready : ¬ (pods.any fun p => p.name ∉ plan.podNames && !isPodReady p) = true := by
    simpa [not_and, Classical.not_not] using h.ready
  unfold execute
  rw [if_neg hpresent, if_neg hready]
  split
  · next hnil =>
    rw [hnil]
    rfl
  · rfl

/-- **When `execute` evicts nothing**: the pods are disturbed, or all of the plan is passed over. -/
theorem execute_idle
    (h : ¬ Undisturbed plan pods ∨ PassesOver cr plan pods health component plan.podNames) :
    execute cr plan pods health component settings = return ("", none) := by
  by_cases hund : Undisturbed plan pods
  · have hover := h.resolve_left (not_not_intro hund)
    rw [execute_undisturbed hund, ← append_nil plan.podNames, executeFrom_append hover]
    rfl
  · unfold execute
    split_ifs with hnil hdel hready
    · rfl
    · rfl
    · rfl
    · refine absurd ⟨?_, ?_⟩ hund
      · simpa using hdel
      · simpa [not_and, Classical.not_not] using hready

/-- **Which pod `execute` evicts**: the first of the plan that is not passed over. -/
theorem execute_takes (h : Takes cr plan pods health component pod) :
    execute cr plan pods health component settings = evictOne component settings pod := by
  obtain ⟨before, after, hnames, hbefore⟩ := h.first
  rw [execute_undisturbed h.undisturbed, hnames, executeFrom_append hbefore, executeFrom, h.listed]
  dsimp only
  rw [h.kept, if_neg (by simp)]

theorem passesOver_or_first (names : List String) :
    PassesOver cr plan pods health component names ∨
      ∃ before pod after, names = before ++ pod.name :: after ∧
        PassesOver cr plan pods health component before ∧
        pods.find? (·.name = pod.name) = some pod ∧
        skipped cr plan pods health component pod = false := by
  induction names with
  | nil => exact .inl (forall_mem_nil _)
  | cons name names ih =>
    by_cases hname : ∀ p, pods.find? (·.name = name) = some p →
        skipped cr plan pods health component p = true
    · refine ih.imp (fun h => forall_mem_cons.2 ⟨hname, h⟩) ?_
      rintro ⟨before, pod, after, rfl, hbefore, hpod⟩
      exact ⟨name :: before, pod, after, rfl, forall_mem_cons.2 ⟨hname, hbefore⟩, hpod⟩
    · obtain ⟨p, hfind, hskip⟩ := by simpa only [not_forall] using hname
      obtain rfl : p.name = name := by simpa using find?_some hfind
      exact .inr ⟨[], p, names, rfl, forall_mem_nil _, hfind, by simpa using hskip⟩

theorem takes_or_idle (cr : KeyValCluster) (plan : Plan) (pods : List Pod)
    (health : Option (Map PodHealth)) (component : Component) :
    (∃ pod, Takes cr plan pods health component pod) ∨
      (¬ Undisturbed plan pods ∨ PassesOver cr plan pods health component plan.podNames) := by
  by_cases hund : Undisturbed plan pods
  · have hfirst : PassesOver cr plan pods health component plan.podNames ∨ _ :=
      passesOver_or_first plan.podNames
    rcases hfirst with hover | ⟨before, pod, after, hnames, hbefore, hfind, hskip⟩
    · exact .inr (.inr hover)
    · exact .inl ⟨pod, hund, hfind, hskip, before, after, hnames, hbefore⟩
  · exact .inr (.inl hund)

/-- **`execute`** evicts nothing, or one pod of the plan that it does not pass over, while the pods
are undisturbed. -/
theorem execute_run (h : (execute cr plan pods health component settings).Runs t o) :
    (t = [] ∧ o = ("", none)) ∨
    Undisturbed plan pods ∧ ∃ pod ∈ pods, pod.name ∈ plan.podNames ∧
      skipped cr plan pods health component pod = false ∧
      (evictOne component settings pod).Runs t o := by
  rcases takes_or_idle cr plan pods health component with ⟨pod, htakes⟩ | hidle
  · rw [execute_takes htakes] at h
    obtain ⟨before, after, hnames, -⟩ := htakes.first
    exact .inr ⟨htakes.undisturbed, pod, mem_of_find?_eq_some htakes.listed,
      hnames ▸ mem_append_right _ (.head _), htakes.kept, h⟩
  · rw [execute_idle hidle] at h
    exact .inl (runs_ret.1 h)

/-- The pod that the annotation of a failover names. -/
def formerMaster (cr : KeyValCluster) : String :=
  Map.str cr.annotations annotationRestartFormerMaster

/-- **The restart of a former master** removes nothing, or the annotated pod, which does not
terminate, while another pod is ready. -/
theorem restartFormerMaster_run {α : Type} {o : Except Outcome α}
    (h : (restartFormerMaster settings cr st).Runs t o) :
    (∀ e ∈ t, NoRemove e.req) ∨
    ∃ pod current t', formerMaster cr ≠ "" ∧
      st.redisPods.find? (·.name = formerMaster cr) = some pod ∧ pod.deletionTimestamp = none ∧
      (∃ p ∈ st.redisPods, p.name ≠ formerMaster cr ∧ isPodReady p = true) ∧
      t = ⟨.getPod pod.ns pod.name, .ok current⟩ :: t' ∧
      ∀ e ∈ t', RemovesOnly current.ns current.name e.req := by
  have hplain : ∀ {p : M (Except Outcome α)} {t : Trace}, Asks Plain p → p.Runs t o →
      ∀ e ∈ t, NoRemove e.req := fun hp h e he => Plain.noRemove (hp.mem h e he)
  unfold restartFormerMaster patchAnnotations at h
  rw [show Map.str cr.annotations annotationRestartFormerMaster = formerMaster cr from rfl] at h
  dsimp only at h
  split at h
  · exact .inl (hplain (requeue_asks (fun _ => PhaseReq.plain) _) h)
  rename_i hfm
  obtain ⟨t1, r, t2, rfl, h1, h2⟩ := runs_bind.1 h
  have htail : ∀ e ∈ t2, NoRemove e.req := by
    rcases r with e | _ | _
    · dsimp only at h2
      split at h2
      · exact hplain (blockStep_asks .plain _ _ _ _ _) h2
      · obtain ⟨rfl, -⟩ := runs_ret.1 h2
        exact forall_mem_nil _
    · exact hplain (requeue_asks (fun _ => PhaseReq.plain) _) h2
    · refine hplain (.call (by trivial) fun _ _ => ?_) h2
      exact requeueWith_asks (fun _ => PhaseReq.plain) _ trivial
  have hnone : ∀ {b : Result Bool}, (pure b : M (Result Bool)).Runs t1 r →
      ∀ e ∈ t1 ++ t2, NoRemove e.req := by
    intro b hret
    obtain ⟨rfl, -⟩ := runs_ret.1 hret
    exact htail
  unfold tryEvictFormerMaster at h1
  cases hfind : st.redisPods.find? (·.name = formerMaster cr) with
  | none =>
    rw [hfind] at h1
    exact .inl (hnone h1)
  | some pod =>
    rw [hfind] at h1
    dsimp only at h1
    split at h1
    · exact .inl (hnone h1)
    rename_i hdel
    split at h1
    · exact .inl (hnone h1)
    rename_i hothers
    obtain ⟨r', t3, rfl, h3⟩ := runs_asked.1 h1
    cases r' with
    | error e =>
      dsimp only at h3
      have hnil : t3 = [] := by
        split at h3
        · exact (runs_ret.1 h3).1
        · exact (runs_ret.1 h3).1
      subst hnil
      exact .inl (forall_mem_cons.2 ⟨trivial, htail⟩)
    | ok current =>
      obtain ⟨t4, e, t5, rfl, h4, h5⟩ := runs_bind.1 h3
      obtain rfl : t5 = [] := by
        cases e with
        | none => exact (runs_ret.1 h5).1
        | some e => exact (runs_ret.1 h5).1
      refine .inr ⟨pod, current, t4 ++ t2, hfm, rfl, by simpa using hdel, ?_, by simp, ?_⟩
      · obtain ⟨p, hp, hready⟩ := countP_pos_iff.1 (Nat.pos_of_ne_zero hothers)
        exact ⟨p, hp, by simpa using hready⟩
      · refine forall_mem_append.2 ⟨?_, fun e he => NoRemove.removesOnly (htail e he) _ _⟩
        exact Asks.mem (Eviction.evict_issues settings current trivial ⟨rfl, rfl⟩) h4

/-- **`executePlan`** runs `execute`, and the restart of a former master when `execute` reports
neither a pod nor an error. -/
theorem executePlan_run {α : Type} {o : Except Outcome α}
    (h : (executePlan settings cr st plan).Runs t o) :
    ∃ t1 r t2, t = t1 ++ t2 ∧
      (execute cr plan st.redisPods st.runtime.health .redis settings).Runs t1 r ∧
      ((r = ("", none) ∧ (restartFormerMaster settings cr st).Runs t2 o) ∨
        r ≠ ("", none) ∧ ∀ e ∈ t2, NoRemove e.req) := by
  have hplain : ∀ {p : M (Except Outcome α)} {t : Trace}, Asks Plain p → p.Runs t o →
      ∀ e ∈ t, NoRemove e.req := fun hp h e he => Plain.noRemove (hp.mem h e he)
  obtain ⟨t1, ⟨evicted, err⟩, t2, rfl, h1, h2⟩ := runs_bind.1 h
  refine ⟨t1, (evicted, err), t2, rfl, h1, ?_⟩
  cases err with
  | some e =>
    refine .inr ⟨by simp, ?_⟩
    dsimp only at h2
    split at h2
    · exact hplain (blockStep_asks .plain _ _ _ _ _) h2
    · obtain ⟨rfl, -⟩ := runs_ret.1 h2
      exact forall_mem_nil _
  | none =>
    dsimp only at h2
    split at h2
    · rename_i hne
      exact .inr ⟨by simp [hne], hplain (requeueWith_asks (fun _ => PhaseReq.plain) _ trivial) h2⟩
    · rename_i heq
      exact .inl ⟨by simpa using heq, h2⟩

/-! ## At most one pod -/

/-- A pod in the namespace `prod`, with its readiness. -/
def rolloutPod (name role : String) (ready : Bool) : Pod :=
  { podA name role with conditions := [{ type := "Ready", isTrue := ready }] }

/-- Ready pods, of which a-0 is the master. -/
def readyA (names : List String) : List Pod :=
  names.map fun n => rolloutPod n (if n = "a-0" then "master" else "replica") true

/-- A plan for these pods with one reason. -/
def planFor (reason : String) (names : List String) : Plan where
  podNames := names
  reasons := names.foldl (fun m n => m.insert n [reason]) ∅

/-- No plan has an empty name. -/
def PlansNamed : Event Op → Prop
  | ⟨.planUpdates _, plan⟩ => "" ∉ plan.podNames
  | _ => True

/-- The planner's plans are of this kind when the pods have names. -/
theorem planUpdates_plansNamed {ss : Option StatefulSet} {health : Map PodHealth}
    {storage : Map (List String)} (hnames : ∀ p ∈ pods, p.name ≠ "") (sentinel : Bool) :
    PlansNamed ⟨.planUpdates sentinel, planUpdates cr ss pods health storage⟩ := by
  intro hempty
  obtain ⟨⟨p, hp, hname⟩, -⟩ := mem_planUpdates_podNames.1 hempty
  exact hnames p hp hname

/-- With named plans, at most one pod is removed in a run. -/
def RemovesOne {α : Type} (p : M α) : Prop :=
  ∀ t o, p.Runs t o → (∀ e ∈ t, PlansNamed e) → ∃ ns name, ∀ e ∈ t, RemovesOnly ns name e.req

section
variable {α β : Type}

theorem RemovesOne.of_asks {p : M α} (h : Asks NoRemove p) : RemovesOne p :=
  fun _ _ hrun _ => ⟨"", "", fun e he => NoRemove.removesOnly (h.mem hrun e he) _ _⟩

theorem RemovesOne.call {k : q.Rep → M α} (hq : NoRemove q)
    (hk : ∀ r, PlansNamed ⟨q, r⟩ → RemovesOne (k r)) : RemovesOne (.call q k) := by
  intro t o h hplan
  obtain ⟨r, t', rfl, h'⟩ := runs_call.1 h
  obtain ⟨hr, hplan'⟩ := forall_mem_cons.1 hplan
  obtain ⟨ns, name, hrest⟩ := hk r hr _ _ h' hplan'
  exact ⟨ns, name, forall_mem_cons.2 ⟨NoRemove.removesOnly hq _ _, hrest⟩⟩

theorem RemovesOne.andThen {p : M (Except Outcome α)} {k : α → M (Except Outcome β)}
    (hp : Asks NoRemove p) (hk : ∀ a, RemovesOne (k a)) : RemovesOne (andThen p k) := by
  intro t o h hplan
  obtain ⟨t1, r, t2, rfl, h1, h2⟩ := runs_bind.1 h
  cases r with
  | error o' =>
    obtain ⟨rfl, -⟩ := runs_ret.1 h2
    rw [append_nil] at hplan ⊢
    exact RemovesOne.of_asks hp _ _ h1 hplan
  | ok a =>
    obtain ⟨ns, name, hrest⟩ := hk a _ _ h2 (forall_mem_append.1 hplan).2
    refine ⟨ns, name, forall_mem_append.2 ⟨fun e he => ?_, hrest⟩⟩
    exact NoRemove.removesOnly (hp.mem h1 e he) _ _

/-- A part that removes at most one pod, followed by one that removes none. -/
theorem RemovesOne.andThen_quiet {p : M (Except Outcome α)} {k : α → M (Except Outcome β)}
    (hp : RemovesOne p) (hk : ∀ a, Asks NoRemove (k a)) : RemovesOne (Controller.andThen p k) := by
  intro t o h hplan
  obtain ⟨t1, r, t2, rfl, h1, h2⟩ := runs_bind.1 h
  obtain ⟨ns, name, hone⟩ := hp _ _ h1 (forall_mem_append.1 hplan).1
  refine ⟨ns, name, forall_mem_append.2 ⟨hone, fun e he => ?_⟩⟩
  cases r with
  | error o' =>
    obtain ⟨rfl, -⟩ := runs_ret.1 h2
    cases he
  | ok a => exact NoRemove.removesOnly ((hk a).mem h2 e he) _ _

end

theorem execute_removes {health : Option (Map PodHealth)}
    (h : (execute cr plan pods health component settings).Runs t o) :
    (∃ ns name, ∀ e ∈ t, RemovesOnly ns name e.req) ∧
      ("" ∉ plan.podNames → o = ("", none) → t = []) := by
  rcases execute_run h with ⟨rfl, -⟩ | ⟨-, pod, -, hname, -, hrun⟩
  · exact ⟨⟨"", "", forall_mem_nil _⟩, fun _ _ => rfl⟩
  · obtain ⟨ho, r, t', rfl, hr⟩ := evictOne_run hrun
    constructor
    · cases r with
      | error e =>
        obtain rfl : t' = [] := hr
        exact ⟨"", "", forall_mem_singleton.2 trivial⟩
      | ok toDel => exact ⟨_, _, forall_mem_cons.2 ⟨trivial, hr⟩⟩
    · rintro hnamed rfl
      exact absurd hname (ho rfl ▸ hnamed)

theorem executePlan_removesOne {α : Type} (settings : Eviction.Settings) (cr : KeyValCluster)
    (st : State) (hplan : "" ∉ plan.podNames) :
    RemovesOne (executePlan settings cr st plan : M (Except Outcome α)) := by
  intro t o h _
  obtain ⟨t1, r, t2, rfl, h1, h2⟩ := executePlan_run h
  obtain ⟨⟨ns, name, hone⟩, hnone⟩ := execute_removes h1
  rcases h2 with ⟨rfl, hformer⟩ | ⟨-, hquiet⟩
  · -- `execute` has sent nothing, so that the former master is the only pod removed
    obtain rfl := hnone hplan rfl
    rcases restartFormerMaster_run hformer with hquiet | ⟨_, _, t', -, -, -, -, rfl, h'⟩
    · exact ⟨"", "", fun e he => NoRemove.removesOnly (hquiet e he) _ _⟩
    · exact ⟨_, _, forall_mem_cons.2 ⟨trivial, h'⟩⟩
  · exact ⟨ns, name, forall_mem_append.2 ⟨hone, fun e he => NoRemove.removesOnly (hquiet e he) _ _⟩⟩

section
variable (F : Formats) (settings : Eviction.Settings)

theorem rollingStep_removesOne {α : Type} (cr : KeyValCluster) (st : State)
    (hplan : "" ∉ plan.podNames) :
    RemovesOne (rollingStep F settings cr st plan : M (Except Outcome α)) := by
  unfold rollingStep
  dsimp only
  split
  · exact .of_asks ((blockStep_asks .plain _ _ _ _ _).mono fun _ => Plain.noRemove)
  · refine .andThen ((resumeStep_asks .plain).mono fun _ => Plain.noRemove) fun cr' => ?_
    split
    · exact .of_asks ((controlledFailover_asks .plain F _).mono fun _ => Plain.noRemove)
    · exact executePlan_removesOne settings cr' st hplan

theorem executeSentinelPlan_removesOne (cr : KeyValCluster) (st : State) (plan : Plan) :
    RemovesOne (executeSentinelPlan settings cr st plan) := by
  intro t o h _
  obtain ⟨t1, ⟨evicted, err⟩, t2, rfl, h1, h2⟩ := runs_bind.1 h
  obtain ⟨⟨ns, name, hone⟩, -⟩ := execute_removes h1
  refine ⟨ns, name, forall_mem_append.2
    ⟨hone, fun e he => NoRemove.removesOnly (Plain.noRemove ?_) _ _⟩⟩
  revert e
  cases err with
  | some e =>
    dsimp only at h2
    split at h2
    · exact (blockStep_asks .plain _ _ _ _ _).mem h2
    · obtain ⟨rfl, -⟩ := runs_ret.1 h2
      exact forall_mem_nil _
  | none =>
    dsimp only at h2
    split at h2
    · exact (requeueWith_asks (fun _ => PhaseReq.plain) _ trivial).mem h2
    · obtain ⟨rfl, -⟩ := runs_ret.1 h2
      exact forall_mem_nil _

theorem sentinelStep_removesOne (cr : KeyValCluster) (st : State) :
    RemovesOne (sentinelStep settings cr st) := by
  unfold sentinelStep
  split
  · refine .call trivial fun sp _ => ?_
    rw [ret_bind]
    dsimp only
    split
    · exact .of_asks (.ret _)
    split
    · exact .of_asks ((blockStep_asks .plain _ _ _ _ _).mono fun _ => Plain.noRemove)
    · exact .andThen ((resumeStep_asks .plain).mono fun _ => Plain.noRemove) fun cr' =>
        executeSentinelPlan_removesOne settings cr' st _
  · exact .of_asks (.ret _)

theorem steps_removesOne (st : State) : RemovesOne (steps F settings st) := by
  refine .call trivial fun plan hnamed => ?_
  refine .andThen (startScale_asks (fun _ => trivial) (fun _ _ _ => trivial) plan) fun r => ?_
  refine .andThen (finishScale_asks trivial (fun _ _ _ => trivial) st plan _) fun cr => ?_
  split
  · exact rollingStep_removesOne F settings cr st hnamed
  · refine .andThen ((resumeStep_asks .plain).mono fun _ => Plain.noRemove) fun cr' => ?_
    refine .andThen_quiet (sentinelStep_removesOne settings cr' st) fun _ => ?_
    split
    · exact (requeue_asks (fun _ => PhaseReq.plain) _).mono fun _ => Plain.noRemove
    · exact .ret _

/-- **A reconcile removes at most one pod**, in whichever of its steps and with whatever retries,
when the plans that it is given name their pods. -/
theorem reconcile_removesOne {t : Trace} {o : Except Outcome Unit}
    (h : (reconcileClusterImpl F settings st).Runs t o) (hplans : ∀ e ∈ t, PlansNamed e) :
    ∃ ns name, ∀ e ∈ t, RemovesOnly ns name e.req := by
  have hone : RemovesOne (reconcileClusterImpl F settings st) := by
    unfold reconcileClusterImpl
    split
    · exact .of_asks (handleDeletion_asks (fun _ h => Plain.noRemove h.plain) fun _ => trivial)
    · refine .andThen (ensureFinalizer_asks fun _ => trivial) fun cr => ?_
      refine .andThen (prepare_asks (fun _ h => Plain.noRemove h.plain) F _ trivial trivial)
        fun st => ?_
      unfold afterWorkloads
      refine .andThen ((requirePods_asks _).mono fun _ h => Plain.noRemove h.plain) fun st => ?_
      refine .andThen ((ensureStorage_asks F _).mono fun _ h => Plain.noRemove h.plain) fun st => ?_
      refine .andThen ((observe_asks F _).mono fun _ h => Plain.noRemove h.plain) fun st => ?_
      exact steps_removesOne F settings st
  exact hone t o h hplans

end

/-- Replies with the given pods and plan, which let a reconcile come to its steps. -/
def disrupting (pods : List Pod) (plan : Plan) : Replies
  | .patchCluster .. | .services | .applyStatefulSet _ | .pdb => .ok ()
  | .security => .ok ({}, "")
  | .config => .ok ""
  | .getStatefulSet .. => .error { msg := "not found", reason := .notFound }
  | .listPods .. => .ok pods
  | .podMetadata => .ok (pods, [])
  | .externalImport => .ok none
  | .listPVCs _ => .ok []
  | .sentinel => .ok { quorumOK := true, detail := "" }
  | .status => .ok { computed := {}, allowDisruptions := true, allowSentinel := true }
  | .planUpdates _ => plan
  | .getPod _ name =>
    (pods.find? (·.name = name)).elim (.error { msg := "not found", reason := .notFound }) .ok
  | q => q.unavailable

/-- The event evicts the pod. -/
def evicts (name : String) : Event Op → Bool
  | ⟨.evictPod _ n, _⟩ => n = name
  | _ => false

/-- A reconcile with new certificates for two pods evicts `a-2`, with all attempts, and no other. -/
theorem reconcile_removes_a2 :
    ∃ t o, (reconcileClusterImpl .decimal {} { cluster := clusterA }).Runs t o ∧
      t.any (evicts "a-2") = true ∧ ∃ ns name, ∀ e ∈ t, RemovesOnly ns name e.req := by
  let reply := disrupting (readyA ["a-0", "a-1", "a-2"]) (planFor "tls-hash" ["a-2", "a-1"])
  have hrun := runs_answer reply (reconcileClusterImpl .decimal {} { cluster := clusterA })
  have hrep := answer_rep reply (reconcileClusterImpl .decimal {} { cluster := clusterA })
  have hev : (answer reply (reconcileClusterImpl .decimal {} { cluster := clusterA })).1.any
      (evicts "a-2") = true := by decide +kernel
  refine ⟨_, _, hrun, hev, reconcile_removesOne .decimal {} hrun fun e he => ?_⟩
  obtain ⟨q, r⟩ := e
  obtain rfl : r = reply q := hrep _ he
  cases q with
  | planUpdates sentinel => exact (by decide : "" ∉ ["a-2", "a-1"])
  | _ => trivial

/-! ## Runs that evict -/

theorem ask_runs {α : Type} (q : Req) (r : q.Rep) {k : q.Rep → M α} {t : Trace} {a : α}
    (h : (k r).Runs t a) : ((ask q).bind k).Runs (⟨q, r⟩ :: t) a := by
  rw [ask_eq, call_bind]
  exact .call _ h

section
variable (settings : Eviction.Settings)

theorem evict_ok (pod : Pod) : (Eviction.evict settings pod).Runs
    [⟨.ctxErr, none⟩, ⟨.evictPod pod.ns pod.name, .ok ()⟩] none := by
  unfold Eviction.evict Eviction.evictFrom
  exact .call _ (.call _ (.ret _))

theorem evictOne_ok (component : Component) (pod : Pod) : (evictOne component settings pod).Runs
    [⟨.getPod pod.ns pod.name, .ok pod⟩, ⟨.ctxErr, none⟩, ⟨.evictPod pod.ns pod.name, .ok ()⟩]
    (pod.name, none) :=
  .call _ ((evict_ok settings pod).bind (.ret _))

theorem tryEvictFormerMaster_ok (hfind : pods.find? (·.name = pod.name) = some pod)
    (hpresent : pod.deletionTimestamp = none)
    (hready : ∃ p ∈ pods, p.name ≠ pod.name ∧ isPodReady p = true) :
    (tryEvictFormerMaster settings pod.name pods).Runs
      [⟨.getPod pod.ns pod.name, .ok pod⟩, ⟨.ctxErr, none⟩, ⟨.evictPod pod.ns pod.name, .ok ()⟩]
      (.ok true) := by
  have hcount : (pods.countP fun p => p.name ≠ pod.name && isPodReady p) ≠ 0 := by
    obtain ⟨p, hp, hne, hr⟩ := hready
    exact Nat.pos_iff_ne_zero.1 (countP_pos_iff.2 ⟨p, hp, by simp [hne, hr]⟩)
  unfold tryEvictFormerMaster
  rw [hfind]
  dsimp only
  rw [if_neg (by simp [hpresent]), if_neg hcount]
  exact .call _ ((evict_ok settings pod).bind (.ret _))

theorem restartFormerMaster_ok (cr : KeyValCluster) (st : State) (pod : Pod) (hname : pod.name ≠ "")
    (hformer : Map.str cr.annotations annotationRestartFormerMaster = pod.name)
    (hfind : st.redisPods.find? (·.name = pod.name) = some pod)
    (hpresent : pod.deletionTimestamp = none)
    (hready : ∃ p ∈ st.redisPods, p.name ≠ pod.name ∧ isPodReady p = true) :
    ∃ t o, (restartFormerMaster settings cr st : M (Except Outcome Unit)).Runs t o ∧
      (∀ e ∈ t, SamePod e) ∧ ⟨.evictPod pod.ns pod.name, .ok ()⟩ ∈ t := by
  have hrun := tryEvictFormerMaster_ok settings hfind hpresent hready
  unfold restartFormerMaster patchAnnotations
  rw [hformer, if_neg hname]
  refine ⟨_, _, hrun.bind (ask_runs (.patchCluster ..) (.ok ())
    (ask_runs (.backoff _) (0 : Int) (ask_runs (.event _) () (.ret _)))), ?_, ?_⟩
  · simp [SamePod]
  · simp

end

/-! ## Missing pods -/

section
variable (cr : KeyValCluster) (plan : Plan) (pods : List Pod)

/-- Every ordinal but that of the evicted pod is a candidate's, or a ready pod's that does not
terminate. -/
def LeavesReady (evicted : String) : Prop :=
  ∀ o, 0 ≤ o → o < cr.spec.redisReplicas → o ≠ ordinal evicted →
    (∃ n ∈ plan.podNames, ordinal n = o) ∨
    ∃ p ∈ pods, ordinal p.name = o ∧ isPodReady p = true ∧ p.deletionTimestamp = none

/-- Every ordinal is a candidate's or an existing pod's. -/
def NoneMissing : Prop :=
  ∀ o, 0 ≤ o → o < cr.spec.redisReplicas →
    (∃ n ∈ plan.podNames, ordinal n = o) ∨ ∃ p ∈ pods, ordinal p.name = o

end

section
variable {ns name : String} {r : Result Unit}

theorem execute_evicts (h : (execute cr plan pods health component settings).Runs t o)
    (hsame : ∀ e ∈ t, SamePod e) (hev : ⟨.evictPod ns name, r⟩ ∈ t) :
    Undisturbed plan pods ∧ name ∈ plan.podNames := by
  rcases execute_run h with ⟨rfl, -⟩ | ⟨hundisturbed, pod, -, hname, -, hrun⟩
  · cases hev
  refine ⟨hundisturbed, ?_⟩
  obtain ⟨-, rep, t', rfl, hrep⟩ := evictOne_run hrun
  have hev' : ⟨.evictPod ns name, r⟩ ∈ t' := by simpa using hev
  cases rep with
  | error e =>
    obtain rfl : t' = [] := hrep
    cases hev'
  | ok toDel =>
    have hread : toDel.name = pod.name := hsame _ (.head _)
    obtain ⟨-, rfl⟩ := hrep _ hev'
    exact hread ▸ hname

/-- **Which evictions leave the other pods ready**: when `execute` evicts a pod, the other ordinals
are all accounted for exactly when no pod is missing. -/
theorem leavesReady_iff (h : (execute cr plan pods health .redis settings).Runs t o)
    (hsame : ∀ e ∈ t, SamePod e) (hev : ⟨.evictPod ns name, r⟩ ∈ t) :
    LeavesReady cr plan pods name ↔ NoneMissing cr plan pods := by
  obtain ⟨hundisturbed, hname⟩ := execute_evicts h hsame hev
  constructor
  · intro hleaves i h0 hlt
    by_cases hi : i = ordinal name
    · exact .inl ⟨name, hname, hi.symm⟩
    · exact (hleaves i h0 hlt hi).imp_right fun ⟨p, hp, hord, _⟩ => ⟨p, hp, hord⟩
  · intro hnone i h0 hlt _
    rcases hnone i h0 hlt with hcand | ⟨p, hp, hord⟩
    · exact .inl hcand
    · by_cases hplanned : p.name ∈ plan.podNames
      · exact .inl ⟨p.name, hplanned, hord⟩
      · exact .inr ⟨p, hp, hord, hundisturbed.ready p hp hplanned, hundisturbed.present p hp⟩

end

theorem clusterA_evicts_a2 :
    (execute clusterA (planFor "config-hash" ["a-2", "a-1"]) (readyA ["a-0", "a-1", "a-2"])
      (some ∅) .redis {}).Runs [⟨.getPod "prod" "a-2", .ok (rolloutPod "a-2" "replica" true)⟩,
        ⟨.ctxErr, none⟩, ⟨.evictPod "prod" "a-2", .ok ()⟩] ("a-2", none) := by
  have htakes : Takes clusterA (planFor "config-hash" ["a-2", "a-1"])
      (readyA ["a-0", "a-1", "a-2"]) (some ∅) .redis (rolloutPod "a-2" "replica" true) :=
    ⟨⟨by decide, by decide⟩, by decide, by decide, [], _, rfl, forall_mem_nil _⟩
  rw [execute_takes htakes]
  exact evictOne_ok {} .redis (rolloutPod "a-2" "replica" true)

theorem leavesReady_a2 : LeavesReady clusterA (planFor "config-hash" ["a-2", "a-1"])
    (readyA ["a-0", "a-1", "a-2"]) "a-2" := by
  refine (leavesReady_iff clusterA_evicts_a2 (by simp [SamePod, rolloutPod, podA])
    (.tail _ (.tail _ (.head _)))).2 fun i h0 h3 => ?_
  have hi : i = 0 ∨ i = 1 ∨ i = 2 := by
    have h3' : i < 3 := h3
    omega
  rcases hi with rfl | rfl | rfl
  all_goals decide

/-- After the eviction of `a-2`, which has not been created again, the next reconcile evicts `a-1`:
no plan has a reason for scaling down, and the ordinal 2 is nobody's. -/
theorem missing_a2_evicts_a1 :
    (∃ t, (execute clusterA (planFor "config-hash" ["a-2", "a-1"])
      (readyA ["a-0", "a-1", "a-2"]) (some ∅) .redis {}).Runs t ("a-2", none)) ∧
    ∃ t, (execute clusterA (planFor "config-hash" ["a-1"]) (readyA ["a-0", "a-1"]) (some ∅) .redis
        {}).Runs t ("a-1", none) ∧ (∀ e ∈ t, SamePod e) ∧
      ⟨.evictPod "prod" "a-1", .ok ()⟩ ∈ t ∧
      planHasReason (planFor "config-hash" ["a-1"]) "scale-down" = false ∧
      ¬ LeavesReady clusterA (planFor "config-hash" ["a-1"]) (readyA ["a-0", "a-1"]) "a-1" := by
  have hexec : execute clusterA (planFor "config-hash" ["a-1"]) (readyA ["a-0", "a-1"]) (some ∅)
      .redis
      {} = evictOne .redis {} (rolloutPod "a-1" "replica" true) :=
    execute_takes ⟨⟨by decide, by decide⟩, by decide, by decide, [], _, rfl, forall_mem_nil _⟩
  have hrun := evictOne_ok {} .redis (rolloutPod "a-1" "replica" true)
  rw [← hexec] at hrun
  refine ⟨⟨_, clusterA_evicts_a2⟩, _, hrun, by simp [SamePod], .tail _ (.tail _ (.head _)),
    by decide, fun h => ?_⟩
  exact absurd (h 2 (by decide) (by decide) (by decide)) (by decide)

/-! ## What holds of a pod that is removed -/

/-- The request removes the pod. -/
def Removes (name : String) : Req → Prop
  | .evictPod _ p | .deletePod _ p => p = name
  | _ => False

/-- What holds of the pod that `execute` removes, at that moment. -/
structure SafeRemoval (cr : KeyValCluster) (plan : Plan) (pods : List Pod)
    (health : Option (Map PodHealth)) (name : String) : Prop where
  planned : name ∈ plan.podNames
  listed : ∃ pod ∈ pods, pod.name = name ∧
    (1 < cr.spec.redisReplicas ∨ cr.spec.mode = .sentinel → pod.role ≠ PodRole.master.str)
  undisturbed : Undisturbed plan pods
  healthy : ∀ states, health = some states → 1 < pods.length →
    hasReasonForPod plan name "tls-hash" = false →
    ∃ p ∈ pods, p.name ≠ name ∧ healthStateForPod p states = true

theorem safeRemoval_of_not_skipped (hpod : pod ∈ pods) (hname : pod.name ∈ plan.podNames)
    (hundisturbed : Undisturbed plan pods)
    (hskip : skipped cr plan pods health component pod = false) :
    SafeRemoval cr plan pods health pod.name := by
  unfold skipped at hskip
  rw [Bool.or_eq_false_iff, Bool.or_eq_false_iff] at hskip
  obtain ⟨⟨hhealth, hmaster⟩, -⟩ := hskip
  refine ⟨hname, ⟨pod, hpod, rfl, fun hmode hrole => ?_⟩, hundisturbed, ?_⟩
  · revert hmaster
    rcases hmode with hmode | hmode <;> simp [hrole, hmode]
  · rintro states rfl hlen hreason
    rw [Option.any_some, hreason, Bool.not_false, Bool.true_and] at hhealth
    unfold lastHealthy at hhealth
    rw [decide_eq_true hlen, Bool.and_true, decide_eq_false_iff_not] at hhealth
    obtain ⟨p, hp⟩ := exists_mem_of_ne_nil _ hhealth
    obtain ⟨hlisted, htest⟩ := mem_filter.1 hp
    obtain ⟨hne, hok⟩ := Bool.and_eq_true_iff.1 htest
    exact ⟨p, hlisted, by simpa using hne, hok⟩

/-- **The safety of `execute`**: it removes at most one pod, and then one for which all of its tests
have passed. -/
theorem execute_safe {o : String × Option Error}
    (h : (execute cr plan pods health component settings).Runs t o) (hsame : ∀ e ∈ t, SamePod e) :
    ∃ ns name, (∀ e ∈ t, RemovesOnly ns name e.req) ∧
      ((∃ e ∈ t, Removes name e.req) → SafeRemoval cr plan pods health name) := by
  rcases execute_run h with ⟨rfl, -⟩ | ⟨hundisturbed, pod, hpod, hname, hskip, hrun⟩
  · exact ⟨"", "", forall_mem_nil _, fun ⟨_, he, _⟩ => absurd he not_mem_nil⟩
  have hsafe := safeRemoval_of_not_skipped hpod hname hundisturbed hskip
  obtain ⟨-, rep, t', rfl, hrep⟩ := evictOne_run hrun
  cases rep with
  | error e =>
    obtain rfl : t' = [] := hrep
    exact ⟨pod.ns, pod.name, forall_mem_singleton.2 trivial, fun _ => hsafe⟩
  | ok toDel =>
    have hread : toDel.name = pod.name := hsame _ (.head _)
    exact ⟨toDel.ns, toDel.name, forall_mem_cons.2 ⟨trivial, hrep⟩, fun _ => hread ▸ hsafe⟩

/-- `a-2` is evicted while `a-0` and `a-1` are ready. -/
theorem execute_safe_a2 :
    ∃ t, (execute clusterA (planFor "config-hash" ["a-2", "a-1"]) (readyA ["a-0", "a-1", "a-2"])
        (some ∅) .redis {}).Runs t ("a-2", none) ∧ (∀ e ∈ t, SamePod e) ∧
      ∃ ns name, (∀ e ∈ t, RemovesOnly ns name e.req) ∧
        ((∃ e ∈ t, Removes name e.req) → SafeRemoval clusterA
          (planFor "config-hash" ["a-2", "a-1"]) (readyA ["a-0", "a-1", "a-2"]) (some ∅) name) := by
  have hsame : ∀ e ∈ ([⟨.getPod "prod" "a-2", .ok (rolloutPod "a-2" "replica" true)⟩,
      ⟨.ctxErr, none⟩, ⟨.evictPod "prod" "a-2", .ok ()⟩] : Trace), SamePod e := by
    simp [SamePod, rolloutPod, podA]
  exact ⟨_, clusterA_evicts_a2, hsame, execute_safe clusterA_evicts_a2 hsame⟩

end Keyval.Controller
