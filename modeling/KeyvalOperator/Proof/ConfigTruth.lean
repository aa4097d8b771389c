import KeyvalOperator.Lib.Transition
import KeyvalOperator.Proof.RuntimeConfig

/-!
# The hash of the configuration

A pod's annotation with the hash of a configuration is there to say that the pod runs that
configuration. The state has the live value of every parameter of every pod and the annotations; it
changes with the spec and with the calls of `ApplyRedisRuntime`, in which `CONFIG GET` reports the
live value and a `CONFIG SET` that succeeds takes effect.

* `applied_aligned`: **a call that comes to the annotations leaves every pod with the
  configuration**, if no pod has a leftover of an earlier one.
* `truthful_of_careful`: **the annotations are truthful in every run whose steps are careful**.
* `removed_parameter_lingers`: a parameter that is removed from the spec keeps its value.
-/

namespace Keyval.RuntimeConfig

open Go Interact Interact.Prog Resources Transition List

/-- The parameters of a Redis server, with their values as `CONFIG GET` reports them. -/
structure Server where
  /-- The value without a directive. -/
  default : String → String
  /-- The value after a start with the directive. -/
  read : String → String → String
  /-- The value after `CONFIG SET`. -/
  set : String → String → String

/-- The value of a parameter in a pod that was started with the given directives. -/
def Server.fresh (S : Server) (cfg : Map String) (param : String) : String :=
  match cfg.lookup param with
  | some v => S.read param v
  | none => S.default param

/-- The spec, the Redis pods and what their annotations stand for. -/
structure ConfigState where
  cluster : KeyValCluster
  settings : Settings
  /-- The live value of a parameter of a pod. -/
  live : String → String → String
  /-- The annotation of a pod with the hash of a configuration. -/
  hash : String → Option String
  /-- The configuration that the annotation of a pod stands for, unless a parameter of the pod was
  set for another one since. -/
  origin : String → Option (Map String)

/-- The configuration of the spec. -/
def ConfigState.desired (s : ConfigState) : Map String :=
  effectiveRedisConfig s.cluster s.settings

/-- Its hash. -/
def ConfigState.desiredHash (F : Formats) (scripts : Scripts) (s : ConfigState) : String :=
  configHash F scripts s.cluster s.settings

/-- A parameter of a pod is set. -/
def ConfigState.setLive (F : Formats) (scripts : Scripts) (s : ConfigState)
    (pod key value : String) : ConfigState :=
  { s with
    live := Function.update s.live pod (Function.update (s.live pod) key value)
    origin := if s.hash pod = some (s.desiredHash F scripts) then s.origin
      else Function.update s.origin pod none }

/-- The annotation of a pod is written. -/
def ConfigState.annotate (s : ConfigState) (pod hash : String) : ConfigState :=
  { s with
    hash := Function.update s.hash pod (some hash)
    origin := Function.update s.origin pod (some s.desired) }

section
variable (F : Formats) (scripts : Scripts) (S : Server)

/-- The state follows the requests. -/
def configWorld : World Op ConfigState where
  step s
    | ⟨.configSet pod key value, .ok ()⟩ => s.setLive F scripts pod key (S.set key value)
    | ⟨.patchPodAnnotations _ pod annotations, .ok ()⟩ =>
      match annotations.lookup configHashAnnotationKey with
      | some hash => s.annotate pod hash
      | none => s
    | _ => s
  ok s
    | ⟨.configGet pod key, .ok current⟩ => current.getD "" = s.live pod key
    | _ => True

/-- A change of the spec, or an apply. -/
inductive ConfigLabel
  | spec (cr : KeyValCluster) (sec : Settings)
  | apply (pods : List Pod) (t : Trace)

/-- One step of the cluster. -/
inductive ConfigStep : ConfigState → ConfigLabel → ConfigState → Prop
  | spec {s : ConfigState} {cr : KeyValCluster} {sec : Settings} :
      ConfigStep s (.spec cr sec) { s with cluster := cr, settings := sec }
  | apply {s : ConfigState} {factory : Bool} {pods : List Pod} {t : Trace}
      {out : RuntimeResult × List Pod} :
      (applyRedisRuntime F factory s.cluster pods (s.desiredHash F scripts) s.settings).Runs t out →
      (configWorld F scripts S).Admits s t →
      ConfigStep s (.apply pods t) ((configWorld F scripts S).after s t)

/-- The pod runs the given configuration. The replication source is not part of it. -/
def RunsConfig (s : ConfigState) (pod : String) (cfg : Map String) : Prop :=
  ∀ param, Rendered param → s.live pod param = S.fresh cfg param

/-- **The annotations are truthful**: a pod with the hash of the spec runs the configuration of the
spec. -/
def Truthful (s : ConfigState) : Prop :=
  ∀ pod, s.hash pod = some (s.desiredHash F scripts) → RunsConfig S s pod s.desired

/-- Every pod that is there was started with the configuration of the spec. -/
def Started (s : ConfigState) : Prop :=
  ∀ pod, s.hash pod = none ∧ s.origin pod = none ∨
    s.hash pod = some (s.desiredHash F scripts) ∧ s.origin pod = some s.desired ∧
      RunsConfig S s pod s.desired

/-- A call finds nothing that it cannot see. -/
structure Visible (s : ConfigState) (pods : List Pod) : Prop where
  /-- No pod has a leftover of an earlier configuration. -/
  absent : ∀ p ∈ pods, ∀ param ∉ s.desired, Rendered param → s.live p.name param = S.default param
  /-- Values that compare equal are equal. -/
  same : ∀ p ∈ pods, ∀ key ∈ s.desired, Rendered key →
    ¬ Differs F s.desired key (some (s.live p.name key)) → s.live p.name key = S.fresh s.desired key
  /-- `CONFIG SET` has the effect of the directive. -/
  set : ∀ key ∈ s.desired, key ∈ redisRuntimeAllow →
    S.set key (desiredRaw s.desired key) = S.fresh s.desired key

/-- The condition on a step. The spec does not go back to a configuration whose hash a pod still
carries although its parameters were set for another one, and the hash tells configurations apart.
-/
def Careful (s : ConfigState) : ConfigLabel → Prop
  | .spec cr sec => ∀ pod, s.hash pod = some (configHash F scripts cr sec) →
      s.origin pod = some (effectiveRedisConfig cr sec)
  | .apply pods _ => Visible F S s pods

end

/-! ## Events -/

section
variable {F : Formats} {scripts : Scripts} {S : Server} {s : ConfigState} {pods : List Pod}
  {t : Trace} {changes : Map (Map String)} {pod key v : String} {e : Event Op}

theorem setLive_live (s : ConfigState) (pod key v p k : String) :
    (s.setLive F scripts pod key v).live p k =
      if p = pod ∧ k = key then v else s.live p k := by
  unfold ConfigState.setLive
  by_cases hp : p = pod
  · subst hp
    by_cases hk : k = key
    · subst hk
      simp
    · simp [hk]
  · simp [hp]

theorem step_live_other (h : ∀ v, e ≠ wrote pod key v) (s : ConfigState) :
    ((configWorld F scripts S).step s e).live pod key = s.live pod key := by
  obtain ⟨q, r⟩ := e
  cases q <;> try rfl
  case configSet p k v =>
    match r with
    | .error _ => rfl
    | .ok () =>
      refine (setLive_live s p k _ pod key).trans (if_neg ?_)
      rintro ⟨rfl, rfl⟩
      exact h v rfl
  case patchPodAnnotations ns p annotations =>
    match r with
    | .error _ => rfl
    | .ok () =>
      change (match annotations.lookup configHashAnnotationKey with
        | some hash => s.annotate p hash
        | none => s).live pod key = s.live pod key
      split <;> rfl

theorem after_live_other (h : ∀ v, wrote pod key v ∉ t) (s : ConfigState) :
    ((configWorld F scripts S).after s t).live pod key = s.live pod key :=
  World.after_inv _ (I := fun s' : ConfigState => s'.live pod key = s.live pod key) rfl
    fun _ he s' hs' => (step_live_other (fun v heq => h v (heq ▸ he)) s').trans hs'

theorem after_live_wrote (h : wrote pod key v ∈ t) (honly : ∀ v', wrote pod key v' ∈ t → v' = v)
    (s : ConfigState) : ((configWorld F scripts S).after s t).live pod key = S.set key v := by
  have hwrote : ∀ s, ((configWorld F scripts S).step s (wrote pod key v)).live pod key =
      S.set key v := fun s => (setLive_live s pod key _ pod key).trans (if_pos ⟨rfl, rfl⟩)
  obtain ⟨t1, t2, rfl⟩ := append_of_mem h
  rw [World.after_append, World.after_cons]
  refine World.after_inv _ (I := fun s' : ConfigState => s'.live pod key = S.set key v)
    (hwrote _) fun e he s' hs' => ?_
  by_cases heq : ∃ v', e = wrote pod key v'
  · obtain ⟨v', rfl⟩ := heq
    rw [honly v' (mem_append_right _ (.tail _ he))]
    exact hwrote s'
  · rw [step_live_other (not_exists.1 heq)]
    exact hs'

theorem step_looks (h : Looks e.req) : (configWorld F scripts S).step s e = s := by
  obtain ⟨q, r⟩ := e
  cases q <;> first | rfl | exact h.elim

theorem after_looks (h : ∀ e ∈ t, Looks e.req) : (configWorld F scripts S).after s t = s :=
  World.after_inv _ (I := fun s' => s' = s) rfl fun e he _ hs' =>
    (step_looks (h e he)).trans hs'

theorem ok_of_looks (hadmits : (configWorld F scripts S).Admits s t)
    (h : ∀ e ∈ t, Looks e.req) : ∀ e ∈ t, (configWorld F scripts S).ok s e := by
  induction t with
  | nil => exact forall_mem_nil _
  | cons e t ih =>
    rw [forall_mem_cons] at h ⊢
    rw [World.admits_cons, step_looks h.1] at hadmits
    exact ⟨hadmits.1, ih hadmits.2 h.2⟩

/-! ### The invariant -/

/-- The invariant of the runs. -/
structure Holds (F : Formats) (scripts : Scripts) (S : Server) (s : ConfigState) : Prop where
  truthful : Truthful F scripts S s
  origin : ∀ pod cfg, s.origin pod = some cfg → RunsConfig S s pod cfg

/-- A request of the second loop, by its effect: what is set is the value of the spec. -/
def SetsFresh (S : Server) (cfg : Map String) : Req → Prop
  | .configSet _ key v => key ∈ cfg ∧ Rendered key ∧ S.set key v = S.fresh cfg key
  | .redisForPod _ | .rangeOrder _ | .configRewrite _ => True
  | _ => False

theorem setLive_runsConfig {cfg : Map String} {p : String} (h : RunsConfig S s p cfg)
    (hv : v = S.fresh cfg key) : RunsConfig S (s.setLive F scripts pod key v) p cfg := by
  intro param hparam
  rw [setLive_live]
  split
  · next heq => rw [heq.2, hv]
  · exact h param hparam

/-- **A parameter is set** to its value in the spec. -/
theorem Holds.setLive (h : Holds F scripts S s) (hrendered : Rendered key)
    (hv : v = S.fresh s.desired key) : Holds F scripts S (s.setLive F scripts pod key v) := by
  refine ⟨fun p hp => setLive_runsConfig (h.truthful p hp) hv, fun p cfg hcfg => ?_⟩
  unfold ConfigState.setLive at hcfg
  dsimp only at hcfg
  by_cases hname : p = pod
  · subst hname
    split at hcfg
    · next hcarries =>
      -- both configurations have the live value of the parameter
      refine setLive_runsConfig (h.origin p cfg hcfg) ?_
      rw [hv, ← h.truthful p hcarries key hrendered]
      exact h.origin p cfg hcfg key hrendered
    · rw [Function.update_self] at hcfg
      cases hcfg
  · have hcfg' : s.origin p = some cfg := by
      split at hcfg
      · exact hcfg
      · rwa [Function.update_of_ne hname] at hcfg
    intro param hparam
    rw [setLive_live, if_neg fun heq => hname heq.1]
    exact h.origin p cfg hcfg' param hparam

theorem annotate_hash (s : ConfigState) (pod hash p : String) :
    (s.annotate pod hash).hash p = if p = pod then some hash else s.hash p :=
  Function.update_apply _ _ _ _

theorem annotate_origin (s : ConfigState) (pod hash p : String) :
    (s.annotate pod hash).origin p = if p = pod then some s.desired else s.origin p :=
  Function.update_apply _ _ _ _

/-- **A pod is annotated** that runs the configuration of the spec. -/
theorem Holds.annotate (h : Holds F scripts S s) (hpod : RunsConfig S s pod s.desired) :
    Holds F scripts S (s.annotate pod (s.desiredHash F scripts)) := by
  refine ⟨fun p hp => ?_, fun p cfg hcfg => ?_⟩
  · rw [annotate_hash] at hp
    split at hp
    · next hname => exact hname ▸ hpod
    · exact h.truthful p hp
  · rw [annotate_origin] at hcfg
    split at hcfg
    · next hname =>
      subst hname
      cases hcfg
      exact hpod
    · exact h.origin p cfg hcfg

/-! ## The second loop -/

/-- The spec is unchanged. -/
def SameSpec (s s' : ConfigState) : Prop := s'.cluster = s.cluster ∧ s'.settings = s.settings

theorem Writes.setsFresh {q : Req} (hdiscovered : Discovered F s.desired pods t changes)
    (hvisible : Visible F S s pods) (h : Writes changes q) : SetsFresh S s.desired q := by
  cases q <;> try exact h
  next name key v =>
  obtain ⟨m, hm, hv⟩ := h
  obtain ⟨hkey, hallow, rfl⟩ := (hdiscovered.changed name m hm).2 key v hv
  refine ⟨hkey, ?_, hvisible.set key hkey hallow⟩
  constructor <;> rintro rfl <;> revert hallow <;> decide

/-- What one apply can lead to. -/
structure Reached (F : Formats) (scripts : Scripts) (S : Server) (s s' : ConfigState) : Prop where
  holds : Holds F scripts S s'
  spec : SameSpec s s'
  live : ∀ pod param, s'.live pod param = s.live pod param ∨
    param ∈ s.desired ∧ s'.live pod param = S.fresh s.desired param

theorem SameSpec.desired {s' : ConfigState} (h : SameSpec s s') : s'.desired = s.desired := by
  rw [ConfigState.desired, h.1, h.2, ConfigState.desired]

theorem SameSpec.desiredHash {s' : ConfigState} (h : SameSpec s s') :
    s'.desiredHash F scripts = s.desiredHash F scripts := by
  rw [ConfigState.desiredHash, h.1, h.2, ConfigState.desiredHash]

theorem step_live {cfg : Map String} (he : SetsFresh S cfg e.req) (s : ConfigState)
    (p param : String) : ((configWorld F scripts S).step s e).live p param = s.live p param ∨
      param ∈ cfg ∧ ((configWorld F scripts S).step s e).live p param = S.fresh cfg param := by
  obtain ⟨q, r⟩ := e
  cases q <;> try first | exact .inl rfl | exact he.elim
  next pod key v =>
  obtain ⟨hkey, -, hset⟩ := he
  match r with
  | .error _ => exact .inl rfl
  | .ok () =>
    have hlive : ((configWorld F scripts S).step s ⟨.configSet pod key v, .ok ()⟩).live p param =
        (s.setLive F scripts pod key (S.set key v)).live p param := rfl
    rw [hlive, setLive_live]
    split
    · next heq =>
      rw [heq.2]
      exact .inr ⟨hkey, hset⟩
    · exact .inl rfl

theorem Reached.step {s' : ConfigState} (h : Reached F scripts S s s')
    (he : SetsFresh S s.desired e.req) :
    Reached F scripts S s ((configWorld F scripts S).step s' e) := by
  have hlive : ∀ p param, ((configWorld F scripts S).step s' e).live p param = s.live p param ∨
      param ∈ s.desired ∧
        ((configWorld F scripts S).step s' e).live p param = S.fresh s.desired param := by
    intro p param
    rcases step_live he s' p param with hsame | hfresh
    · rw [hsame]
      exact h.live p param
    · exact .inr hfresh
  obtain ⟨q, r⟩ := e
  cases q <;> try first | exact h | exact he.elim
  next pod key v =>
  obtain ⟨hkey, hrendered, hset⟩ := he
  match r with
  | .error _ => exact h
  | .ok () => exact ⟨h.holds.setLive hrendered (by rw [hset, h.spec.desired]), h.spec, hlive⟩

theorem reached_after (h : Holds F scripts S s) (ht : ∀ e ∈ t, SetsFresh S s.desired e.req) :
    Reached F scripts S s ((configWorld F scripts S).after s t) :=
  World.after_inv _ (I := Reached F scripts S s) ⟨h, ⟨rfl, rfl⟩, fun _ _ => .inl rfl⟩
    fun e he _ hs' => hs'.step (ht e he)

theorem live_of_wrote {cfg : Map String} (ht : ∀ e ∈ t, SetsFresh S cfg e.req)
    (hwrote : wrote pod key v ∈ t) (s : ConfigState) :
    ((configWorld F scripts S).after s t).live pod key = S.fresh cfg key := by
  obtain ⟨t1, t2, rfl⟩ := append_of_mem hwrote
  rw [forall_mem_append, forall_mem_cons] at ht
  obtain ⟨-, ⟨-, -, hset⟩, ht2⟩ := ht
  rw [World.after_append, World.after_cons]
  refine World.after_inv _ (I := fun s' : ConfigState => s'.live pod key = S.fresh cfg key) ?_ ?_
  · refine (setLive_live _ pod key _ pod key).trans ?_
    rw [if_pos ⟨rfl, rfl⟩, hset]
  · intro e he s' hs'
    rcases step_live (ht2 e he) s' pod key with hsame | hfresh
    · rw [hsame, hs']
    · exact hfresh.2

theorem live_of_same {p : Pod} {current : Option String} (hvisible : Visible F S s pods)
    (hp : p ∈ pods) (hkey : key ∈ s.desired) (hrendered : Rendered key)
    (hok : (configWorld F scripts S).ok s (read p.name key current))
    (hsame : ¬ Differs F s.desired key current) : s.live p.name key = S.fresh s.desired key := by
  have hok : current.getD "" = s.live p.name key := hok
  refine hvisible.same p hp key hkey hrendered ?_
  unfold Differs at hsame ⊢
  rwa [Option.getD_some, ← hok]

/-- **After the two loops** every pod runs the configuration of the spec. -/
theorem applied_aligned {t1 t2 : Trace} {p : Pod} (h : Holds F scripts S s)
    (hvisible : Visible F S s pods) (hdiscovered : Discovered F s.desired pods t1 changes)
    (hwritten : Written changes pods t2) (hreads : ∀ e ∈ t1, (configWorld F scripts S).ok s e)
    (hsets : ∀ e ∈ t2, SetsFresh S s.desired e.req) (hp : p ∈ pods) :
    RunsConfig S ((configWorld F scripts S).after s t2) p.name s.desired := by
  intro param hrendered
  have hreached := reached_after h hsets
  -- a parameter that no loop has set
  have hkept : s.live p.name param = S.fresh s.desired param →
      ((configWorld F scripts S).after s t2).live p.name param = S.fresh s.desired param := by
    intro hfresh
    rcases hreached.live p.name param with hsame | hset
    · exact hsame.trans hfresh
    · exact hset.2
  by_cases hkey : param ∈ s.desired
  · cases hm : changes.lookup p.name with
    | none =>
      obtain ⟨current, hread, hsame⟩ := hdiscovered.matched p hp hm param hkey
      exact hkept (live_of_same hvisible hp hkey hrendered (hreads _ hread) hsame)
    | some m =>
      obtain ⟨current, hread, hset⟩ := hdiscovered.found p.name m hm param hkey
      by_cases hdiffers : Differs F s.desired param current
      · exact live_of_wrote hsets (hwritten.values p hp m hm param _ (hset hdiffers)) s
      · exact hkept (live_of_same hvisible hp hkey hrendered (hreads _ hread) hdiffers)
  · refine hkept ((hvisible.absent p hp param hkey hrendered).trans ?_)
    rw [Server.fresh, Finmap.lookup_eq_none.2 hkey]

/-! ## The annotations -/

/-- A state that the annotations come to: every pod runs the configuration of the spec. -/
structure Aligned (F : Formats) (scripts : Scripts) (S : Server) (pods : List Pod)
    (s s' : ConfigState) : Prop where
  holds : Holds F scripts S s'
  spec : SameSpec s s'
  pods : ∀ p ∈ pods, RunsConfig S s' p.name s.desired

theorem Aligned.step {s' : ConfigState} (h : Aligned F scripts S pods s s')
    (he : Annotates (s.desiredHash F scripts) pods e.req ∨ Announces e.req) :
    Aligned F scripts S pods s ((configWorld F scripts S).step s' e) := by
  obtain ⟨q, r⟩ := e
  cases q <;> try first | exact h | exact he.elim False.elim False.elim
  next ns name annotations =>
  match r with
  | .error _ => exact h
  | .ok () =>
    obtain ⟨rfl, p, hp, -, rfl⟩ := he.resolve_right id
    have hstep : (configWorld F scripts S).step s' ⟨.patchPodAnnotations ns p.name
        ((∅ : Map String).insert configHashAnnotationKey (s.desiredHash F scripts)), .ok ()⟩ =
          s'.annotate p.name (s'.desiredHash F scripts) := by
      rw [h.spec.desiredHash]
      rfl
    rw [hstep]
    refine ⟨h.holds.annotate ?_, h.spec, h.pods⟩
    rw [h.spec.desired]
    exact h.pods p hp

/-! ## Runs -/

/-- **A call** keeps the invariant when nothing is hidden from it. -/
theorem Holds.apply {factory : Bool} {out : RuntimeResult × List Pod} (h : Holds F scripts S s)
    (hvisible : Visible F S s pods)
    (hrun : (applyRedisRuntime F factory s.cluster pods (s.desiredHash F scripts) s.settings).Runs
      t out) (hadmits : (configWorld F scripts S).Admits s t) :
    Holds F scripts S ((configWorld F scripts S).after s t) := by
  cases applyRedisRuntime_run hrun with
  | looks hlooks =>
    rw [after_looks hlooks]
    exact h
  | stops _ hlooks hdiscovered hwrites =>
    rw [World.after_append, after_looks hlooks]
    exact (reached_after h fun e he => (hwrites e he).setsFresh hdiscovered hvisible).holds
  | @annotates t1 t2 t3 t4 changes _ _ _ _ hlooks hdiscovered hwrites hwritten hpatch hannounce =>
    have hreads := ok_of_looks ((World.admits_append _).1 hadmits).1 hlooks
    have hsets : ∀ e ∈ t2, SetsFresh S s.desired e.req := fun e he =>
      (hwrites e he).setsFresh hdiscovered hvisible
    have hreached := reached_after h hsets
    have haligned : Aligned F scripts S pods s ((configWorld F scripts S).after s t2) :=
      ⟨hreached.holds, hreached.spec, fun p hp =>
        applied_aligned h hvisible hdiscovered hwritten hreads hsets hp⟩
    have hpatches := (patchConfigHashAnnotations_asks _ pods).mem hpatch
    rw [World.after_append, after_looks hlooks, World.after_append]
    refine (World.after_inv _ (I := Aligned F scripts S pods s) haligned fun e he _ hs' =>
      hs'.step ?_).holds
    rcases mem_append.1 he with he | he
    · exact .inl (hpatches e he)
    · exact .inr (hannounce e he)

theorem Started.holds (h : Started F scripts S s) : Holds F scripts S s := by
  refine ⟨fun pod hpod => ?_, fun pod cfg hcfg => ?_⟩
  · rcases h pod with ⟨hnone, -⟩ | ⟨-, -, hruns⟩
    · cases hnone.symm.trans hpod
    · exact hruns
  · rcases h pod with ⟨-, hnone⟩ | ⟨-, horigin, hruns⟩
    · cases hnone.symm.trans hcfg
    · cases horigin.symm.trans hcfg
      exact hruns

theorem Holds.step {s' : ConfigState} {l : ConfigLabel} (h : Holds F scripts S s)
    (hstep : ConfigStep F scripts S s l s') (hcareful : Careful F scripts S s l) :
    Holds F scripts S s' := by
  cases hstep with
  | spec => exact ⟨fun pod hpod => h.origin pod _ (hcareful pod hpod), h.origin⟩
  | apply hrun hadmits => exact h.apply hcareful hrun hadmits

/-- **The annotations are truthful** in every run whose steps are careful. -/
theorem truthful_of_careful {F : Formats} {scripts : Scripts} {S : Server} {s s' : ConfigState}
    {ls : List ConfigLabel} (hstarted : Started F scripts S s)
    (hrun : Steps (fun s l s' => ConfigStep F scripts S s l s' ∧ Careful F scripts S s l) s ls s') :
    Truthful F scripts S s' := by
  have hholds : Holds F scripts S s' :=
    hrun.invariant (C := fun _ => True) (I := fun _ s => Holds F scripts S s)
      (fun _ _ => trivial) hstarted.holds fun _ _ _ _ _ hs _ hstep => hs.step hstep.1 hstep.2
  exact hholds.truthful

/-! ## A willing environment -/

theorem live_of_absent {factory : Bool} {out : RuntimeResult × List Pod}
    (hrun : (applyRedisRuntime F factory s.cluster pods (s.desiredHash F scripts) s.settings).Runs
      t out) {param : String} (hparam : param ∉ s.desired) (p : String) :
    ((configWorld F scripts S).after s t).live p param = s.live p param := by
  refine after_live_other (fun v hmem => ?_) s
  have hwrites : ∀ {t1 : Trace} {changes : Map (Map String)},
      Discovered F s.desired pods t1 changes → ¬ Writes changes (wrote p param v).req := by
    rintro t1 changes hdiscovered ⟨m, hm, hv⟩
    exact hparam ((hdiscovered.changed p m hm).2 param v hv).1
  cases applyRedisRuntime_run hrun with
  | looks h => exact h _ hmem
  | stops _ h1 hdiscovered h2 =>
    rcases mem_append.1 hmem with hmem | hmem
    · exact h1 _ hmem
    · exact hwrites hdiscovered (h2 _ hmem)
  | annotates _ h1 hdiscovered h2 _ hpatch h4 =>
    have h3 := (patchConfigHashAnnotations_asks _ pods).mem hpatch
    simp only [mem_append] at hmem
    rcases hmem with hmem | hmem | hmem | hmem
    · exact h1 _ hmem
    · exact hwrites hdiscovered (h2 _ hmem)
    · exact h3 _ hmem
    · exact h4 _ hmem

/-- Every request succeeds. -/
def willing (s : ConfigState) : Replies
  | .redisForPod _ => .ok ()
  | .configGet pod key => .ok (some (s.live pod key))
  | .configSet .. => .ok ()
  | .configRewrite _ => .ok ()
  | .patchPodAnnotations .. => .ok ()
  | q => q.unavailable

/-- The program run so. -/
def willingRun (F : Formats) (scripts : Scripts) (S : Server) {α : Type} (s : ConfigState)
    (p : M α) : Trace × α := (configWorld F scripts S).play willing s p

theorem willingRun_call {α : Type} (s : ConfigState) (q : Req) (k : q.Rep → M α) :
    willingRun F scripts S s (.call q k) =
      (⟨q, willing s q⟩ :: (willingRun F scripts S ((configWorld F scripts S).step s
          ⟨q, willing s q⟩) (k (willing s q))).1,
        (willingRun F scripts S ((configWorld F scripts S).step s ⟨q, willing s q⟩)
          (k (willing s q))).2) := rfl

theorem willingRun_bind {α β : Type} (s : ConfigState) (p : M α) (f : α → M β) :
    willingRun F scripts S s (p.bind f) =
      ((willingRun F scripts S s p).1 ++ (willingRun F scripts S ((configWorld F scripts S).after s
          (willingRun F scripts S s p).1) (f (willingRun F scripts S s p).2)).1,
        (willingRun F scripts S ((configWorld F scripts S).after s
          (willingRun F scripts S s p).1) (f (willingRun F scripts S s p).2)).2) :=
  World.play_bind s p f

theorem willingRun_map {α β : Type} (s : ConfigState) (p : M α) (f : α → β) :
    willingRun F scripts S s (p.bind fun a => .ret (f a)) =
      ((willingRun F scripts S s p).1, f (willingRun F scripts S s p).2) := by
  rw [willingRun_bind]
  exact Prod.ext (append_nil _) rfl

theorem willingRun_runs {α : Type} (s : ConfigState) (p : M α) :
    p.Runs (willingRun F scripts S s p).1 (willingRun F scripts S s p).2 :=
  World.runs_play s p

theorem willingRun_admits {α : Type} (s : ConfigState) (p : M α) :
    (configWorld F scripts S).Admits s (willingRun F scripts S s p).1 := by
  refine World.admits_play (fun s q => ?_) s p
  cases q <;> trivial

theorem compareKey_willing (pending : Pending)
    (hallow : Differs F s.desired key (some (s.live pod key)) → key ∈ redisRuntimeAllow) :
    (willingRun F scripts S s (compareKey F s.desired pod pending key)).2.2 = none := by
  have hcall : compareKey F s.desired pod pending key = .call (.configGet pod key) fun r =>
      match r with
      | .error e => .ret (pending, some (requestFailed "redis" ("CONFIG GET " ++ key) e))
      | .ok current =>
        if ¬ Differs F s.desired key current then .ret (pending, none)
        else if key ∉ redisRuntimeAllow then .ret (pending, some (restartFor key))
        else .ret ({
          changes := pending.changes.insert key (desiredRaw s.desired key)
          changedKeys := pending.changedKeys.insert key () }, none) := rfl
  rw [hcall, willingRun_call]
  by_cases hdiffers : Differs F s.desired key (some (s.live pod key))
  · simp [willing, hdiffers, hallow hdiffers, willingRun]
  · simp [willing, hdiffers, willingRun]

theorem after_willingRun {α : Type} {p : M α} (h : Asks Looks p) (s : ConfigState) :
    (configWorld F scripts S).after s (willingRun F scripts S s p).1 = s :=
  after_looks (h.mem (willingRun_runs s p))

theorem discoverPod_willing {p : Pod} (d : Discovery)
    (hallow : ∀ key ∈ s.desired, Differs F s.desired key (some (s.live p.name key)) →
      key ∈ redisRuntimeAllow) :
    (willingRun F scripts S s (discoverPod F s.desired d p)).2.2 = none := by
  have hkeys : (willingRun F scripts S s (forErr (compareKey F s.desired p.name)
      s.desired.sortedKeys { changedKeys := d.changedKeys })).2.2 = none := by
    refine (World.play_forErr (I := fun s' => s' = s) ?_ rfl _).2
    rintro key hkey pending _ rfl
    exact ⟨after_willingRun (compareKey_asks pending key) _,
      compareKey_willing pending (hallow key (Map.mem_sortedKeys.1 hkey))⟩
  unfold discoverPod
  have hstep : (configWorld F scripts S).step s
      ⟨.redisForPod p.name, willing s (.redisForPod p.name)⟩ = s := rfl
  rw [bind_eq, ask_eq, call_bind, willingRun_call, ret_bind, hstep]
  dsimp only [willing]
  rw [bind_eq, willingRun_bind]
  generalize (willingRun F scripts S s (forErr (compareKey F s.desired p.name)
    s.desired.sortedKeys { changedKeys := d.changedKeys })).2 = o at hkeys ⊢
  obtain ⟨pending, _⟩ := o
  cases hkeys
  rfl

theorem applyPod_willing {p : Pod} (d : Discovery) (s : ConfigState) :
    (willingRun F scripts S s (applyPod d () p)).2.2 = none := by
  unfold applyPod
  dsimp only
  split
  · rfl
  generalize hm : (d.perPodChanges.lookup p.name).getD ∅ = changes
  have hset : ∀ s, (willingRun F scripts S s (forErr (setKey p.name changes)
      changes.sortedKeys ())).2.2 = none := fun s =>
    (World.play_forErr (I := fun _ => True) (fun _ _ _ _ _ => ⟨trivial, rfl⟩) trivial _).2
  rw [bind_eq, ask_eq, call_bind, willingRun_call, ret_bind]
  dsimp only [willing]
  rw [bind_eq, ask_eq, call_bind, willingRun_call, ret_bind]
  dsimp only [willing, Req.unavailable]
  generalize (configWorld F scripts S).step _ _ = s'
  rw [bind_eq, willingRun_bind]
  specialize hset s'
  generalize (willingRun F scripts S s' (forErr (setKey p.name changes)
    changes.sortedKeys ())).2 = o at hset ⊢
  obtain ⟨_, _⟩ := o
  cases hset
  rfl

theorem patchPods_listed {hash : String} {p : Pod} {pods : List Pod}
    (h : Map.str p.annotations configHashAnnotationKey = hash) :
    patchPods hash (p :: pods) = (patchPods hash pods).bind fun o => .ret (p :: o.1, o.2) := by
  rw [patchPods, if_pos h]
  rfl

theorem patchPods_unlisted {hash : String} {p : Pod} {pods : List Pod}
    (h : Map.str p.annotations configHashAnnotationKey ≠ hash) :
    patchPods hash (p :: pods) = .call (.patchPodAnnotations p.ns p.name
        ((∅ : Map String).insert configHashAnnotationKey hash)) fun r =>
      match r with
      | .error e => .ret ((if p.annotations = ∅ then p else annotated hash p) :: pods,
        some (.wrap ("patch pod " ++ p.name ++ " annotation") e))
      | .ok () => (patchPods hash pods).bind fun o => .ret (annotated hash p :: o.1, o.2) := by
  rw [patchPods, if_neg h]
  rfl

/-- **All the pods are annotated** that are not listed with the annotation. -/
theorem patchPods_willing (hash : String) : ∀ (pods : List Pod) (s : ConfigState),
    (willingRun F scripts S s (patchPods hash pods)).2.2 = none ∧
    (∀ name, s.hash name = some hash → ((configWorld F scripts S).after s
      (willingRun F scripts S s (patchPods hash pods)).1).hash name = some hash) ∧
    ∀ p ∈ pods, (Map.str p.annotations configHashAnnotationKey = hash →
      s.hash p.name = some hash) → ((configWorld F scripts S).after s
        (willingRun F scripts S s (patchPods hash pods)).1).hash p.name = some hash
  | [], s => ⟨rfl, fun _ h => h, forall_mem_nil _⟩
  | p :: pods, s => by
    by_cases hhas : Map.str p.annotations configHashAnnotationKey = hash
    · obtain ⟨hnone, hkeep, hpods⟩ := patchPods_willing hash pods s
      rw [patchPods_listed hhas, willingRun_map]
      exact ⟨hnone, hkeep, forall_mem_cons.2 ⟨fun hlisted => hkeep _ (hlisted hhas), hpods⟩⟩
    · -- the state after the patch of this pod
      have hstep : (configWorld F scripts S).step s ⟨.patchPodAnnotations p.ns p.name
          ((∅ : Map String).insert configHashAnnotationKey hash), .ok ()⟩ =
            s.annotate p.name hash := rfl
      obtain ⟨hnone, hkeep, hpods⟩ := patchPods_willing hash pods (s.annotate p.name hash)
      have hself : (s.annotate p.name hash).hash p.name = some hash := by
        rw [annotate_hash, if_pos rfl]
      have hmono : ∀ name, s.hash name = some hash →
          (s.annotate p.name hash).hash name = some hash := by
        intro name hname
        rw [annotate_hash]
        split
        · rfl
        · exact hname
      rw [patchPods_unlisted hhas, willingRun_call]
      dsimp only [willing]
      rw [World.after_cons, hstep, willingRun_map]
      refine ⟨hnone, fun name hname => hkeep _ (hmono name hname), ?_⟩
      exact forall_mem_cons.2 ⟨fun _ => hkeep _ hself, fun q hq hlisted =>
        hpods q hq fun hq' => hmono _ (hlisted hq')⟩

theorem step_hash_of_writes (h : Writes changes e.req) (s : ConfigState) :
    ((configWorld F scripts S).step s e).hash = s.hash := by
  obtain ⟨q, r⟩ := e
  cases q <;> try first | rfl | exact h.elim
  match r with
  | .error _ => rfl
  | .ok () => rfl

theorem patched_of_bind {hash : String} {α : Type} {k : List Pod × Option Error → M α} {p : Pod}
    (hhash : hash ≠ "") (hk : ∀ o, Asks Announces (k o)) (hp : p ∈ pods)
    (hlisted : Map.str p.annotations configHashAnnotationKey = hash → s.hash p.name = some hash) :
    ((configWorld F scripts S).after s (willingRun F scripts S s
      ((patchConfigHashAnnotations hash pods).bind k)).1).hash p.name = some hash := by
  rw [willingRun_bind, World.after_append, patchConfigHashAnnotations, if_neg hhash]
  have hannounces : ∀ (s' : ConfigState) o, (configWorld F scripts S).after s'
      (willingRun F scripts S s' (k o)).1 = s' := by
    intro s' o
    refine World.after_inv _ (I := fun s'' => s'' = s') rfl fun e he s'' hs'' => ?_
    have hannounce := (hk o).mem (willingRun_runs s' (k o)) e he
    obtain ⟨q, r⟩ := e
    cases q <;> first | exact hs'' | exact hannounce.elim
  rw [hannounces]
  exact (patchPods_willing hash pods s).2.2 p hp hlisted

theorem finishInSync_asks (pods : List Pod) (hash : String) :
    ∃ k, finishInSync pods hash = (patchConfigHashAnnotations hash pods).bind k ∧
      ∀ o, Asks Announces (k o) := by
  refine ⟨_, rfl, fun o => ?_⟩
  obtain ⟨_, _ | _⟩ := o <;> exact .ret _

theorem finishApplied_asks (d : Discovery) (pods : List Pod) (hash : String) :
    ∃ k, finishApplied d pods hash = (patchConfigHashAnnotations hash pods).bind k ∧
      ∀ o, Asks Announces (k o) := by
  refine ⟨_, rfl, fun o => ?_⟩
  obtain ⟨_, _ | _⟩ := o
  · exact .call trivial fun _ _ => .ret _
  · exact .ret _

theorem hexEncode_ne (sum : BitVec 256) : Security.hexEncode sum ≠ "" := by
  intro h
  have hlength := congrArg (·.toList.length) h
  simp [Security.hexEncode] at hlength

theorem applyChanges_willing {d : Discovery} {hash : String} {p : Pod} (hhash : hash ≠ "")
    (hp : p ∈ pods)
    (hlisted : Map.str p.annotations configHashAnnotationKey = hash → s.hash p.name = some hash) :
    ((configWorld F scripts S).after s (willingRun F scripts S s
      (applyChanges d pods hash)).1).hash p.name = some hash := by
  unfold applyChanges
  split
  · obtain ⟨k, hfinish, hk⟩ := finishInSync_asks pods hash
    rw [hfinish]
    exact patched_of_bind hhash hk hp hlisted
  · have hloop : (willingRun F scripts S s (forErr (applyPod d) pods ())).2.2 = none :=
      (World.play_forErr (I := fun _ => True)
        (fun p _ _ s _ => ⟨trivial, applyPod_willing d s⟩) trivial ()).2
    have hkept : ((configWorld F scripts S).after s
        (willingRun F scripts S s (forErr (applyPod d) pods ())).1).hash = s.hash := by
      have hwrites : ∀ e ∈ (willingRun F scripts S s (forErr (applyPod d) pods ())).1,
          Writes d.perPodChanges e.req := (applyPods_asks d pods).mem (willingRun_runs s _)
      exact World.after_inv _ (I := fun s' : ConfigState => s'.hash = s.hash) rfl
        fun e he s' hs' => (step_hash_of_writes (hwrites e he) s').trans hs'
    rw [bind_eq, willingRun_bind, World.after_append]
    generalize (willingRun F scripts S s (forErr (applyPod d) pods ())).2 = o at hloop ⊢
    obtain ⟨_, _⟩ := o
    cases hloop
    obtain ⟨k, hfinish, hk⟩ := finishApplied_asks d pods hash
    rw [hfinish]
    exact patched_of_bind hhash hk hp (hkept ▸ hlisted)

/-- **A willing environment**: when the parameters that differ can be set at run time, the call
annotates every pod. -/
theorem exists_annotating_run (hpods : pods ≠ []) (hready : ∀ p ∈ pods, isPodReady p)
    (htls : Replication.clientTLSConfig F s.settings = none)
    (hallow : ∀ p ∈ pods, ∀ key ∈ s.desired,
      Differs F s.desired key (some (s.live p.name key)) → key ∈ redisRuntimeAllow)
    (hlisted : ∀ p ∈ pods, Map.str p.annotations configHashAnnotationKey =
      s.desiredHash F scripts → s.hash p.name = some (s.desiredHash F scripts)) :
    ∃ t out,
      (applyRedisRuntime F true s.cluster pods (s.desiredHash F scripts) s.settings).Runs t out ∧
      (configWorld F scripts S).Admits s t ∧
      ∀ p ∈ pods, ((configWorld F scripts S).after s t).hash p.name =
        some (s.desiredHash F scripts) := by
  have hdiscover : (willingRun F scripts S s
      (forErr (discoverPod F s.desired) pods {})).2.2 = none := by
    refine (World.play_forErr (I := fun s' => s' = s) ?_ rfl _).2
    rintro p hp d _ rfl
    exact ⟨after_willingRun (discoverPod_asks d p) _, discoverPod_willing d (hallow p hp)⟩
  refine ⟨_, _, willingRun_runs s _, willingRun_admits s _, fun p hp => ?_⟩
  have hchecked : applyRedisRuntime F true s.cluster pods (s.desiredHash F scripts) s.settings =
      align F s.desired pods (s.desiredHash F scripts) :=
    applyRedisRuntime_checked ⟨rfl, hpods, hready, htls⟩
  rw [hchecked, align, bind_eq, willingRun_bind, World.after_append,
    after_willingRun (Issues.forErr _ fun p _ d => discoverPod_asks d p)]
  generalize (willingRun F scripts S s
    (forErr (discoverPod F s.desired) pods {})).2 = o at hdiscover ⊢
  obtain ⟨d, _⟩ := o
  cases hdiscover
  exact applyChanges_willing (hexEncode_ne _) hp (hlisted p hp)

theorem after_sameSpec (s : ConfigState) (t : Trace) :
    SameSpec s ((configWorld F scripts S).after s t) := by
  refine World.after_inv _ (I := SameSpec s) ⟨rfl, rfl⟩ ?_
  rintro ⟨q, r⟩ - s' hs'
  cases q <;> try exact hs'
  case configSet =>
    match r with
    | .error _ => exact hs'
    | .ok () => exact hs'
  case patchPodAnnotations ns pod annotations =>
    match r with
    | .error _ => exact hs'
    | .ok () =>
      show SameSpec s (match annotations.lookup configHashAnnotationKey with
        | some hash => s'.annotate pod hash
        | none => s')
      split <;> exact hs'

/-! ## A memory limit that is removed, and one that is added -/

/-- A server without a memory limit by default. -/
def serverA : Server where
  default key := if key = "maxmemory" then "0" else ""
  read := normalizeRedisValue .decimal
  set := normalizeRedisValue .decimal

/-- The cluster without a memory limit. -/
def unlimitedA : KeyValCluster := configuredA ∅

/-- Two pods that run the spec. -/
def startedA (cr : KeyValCluster) : ConfigState where
  cluster := cr
  settings := {}
  live _ := serverA.fresh (effectiveRedisConfig cr {})
  hash pod := if pod ∈ ["a-0", "a-1"] then some (configHash .decimal {} cr {}) else none
  origin pod := if pod ∈ ["a-0", "a-1"] then some (effectiveRedisConfig cr {}) else none

theorem started_startedA (cr : KeyValCluster) : Started .decimal {} serverA (startedA cr) := by
  intro pod
  by_cases hpod : pod ∈ ["a-0", "a-1"]
  · exact .inr ⟨if_pos hpod, if_pos hpod, fun _ _ => rfl⟩
  · exact .inl ⟨if_neg hpod, if_neg hpod⟩

/-- The same after a change of the spec. -/
def respecA (cr cr' : KeyValCluster) : ConfigState := { startedA cr with cluster := cr' }

/-- The pods as listed then. -/
def listedA (cr : KeyValCluster) : List Pod :=
  podsA.map (annotated (configHash .decimal {} cr {}))

theorem configHash_limitedA : configHash .decimal {} limitedA {} ≠
    configHash .decimal {} unlimitedA {} := by
  decide +kernel

theorem exists_appliedA (cr cr' : KeyValCluster)
    (hallow : ∀ key ∈ (effectiveRedisConfig cr' {}).sortedKeys,
      Differs .decimal (effectiveRedisConfig cr' {}) key
        (some (serverA.fresh (effectiveRedisConfig cr {}) key)) → key ∈ redisRuntimeAllow) :
    ∃ t, ConfigStep .decimal {} serverA (respecA cr cr') (.apply (listedA cr) t)
        ((configWorld .decimal {} serverA).after (respecA cr cr') t) ∧
      ((configWorld .decimal {} serverA).after (respecA cr cr') t).hash "a-0" =
        some (configHash .decimal {} cr' {}) := by
  have hmem : ∀ p ∈ listedA cr, ∃ q ∈ podsA, annotated (configHash .decimal {} cr {}) q = p :=
    fun p hp => mem_map.1 hp
  have hpodsA : ∀ q ∈ podsA, isPodReady q = true ∧ q.name ∈ ["a-0", "a-1"] := by decide
  have hready : ∀ p ∈ listedA cr, isPodReady p = true := by
    intro p hp
    obtain ⟨q, hq, rfl⟩ := hmem p hp
    exact (hpodsA q hq).1
  have hlisted : ∀ p ∈ listedA cr, Map.str p.annotations configHashAnnotationKey =
      (respecA cr cr').desiredHash .decimal {} →
      (respecA cr cr').hash p.name = some ((respecA cr cr').desiredHash .decimal {}) := by
    intro p hp heq
    obtain ⟨q, hq, rfl⟩ := hmem p hp
    rw [annotated, Map.str_insert_self] at heq
    exact heq ▸ if_pos (hpodsA q hq).2
  have hallowed : ∀ p ∈ listedA cr, ∀ key ∈ (respecA cr cr').desired,
      Differs .decimal (respecA cr cr').desired key (some ((respecA cr cr').live p.name key)) →
        key ∈ redisRuntimeAllow := fun _ _ key hkey => hallow key (Map.mem_sortedKeys.2 hkey)
  have htls : Replication.clientTLSConfig .decimal (respecA cr cr').settings = none := rfl
  have hne : listedA cr ≠ [] := by simp [listedA, podsA]
  obtain ⟨t, out, hrun, hadmits, hhash⟩ :=
    exists_annotating_run (S := serverA) hne hready htls hallowed hlisted
  have hfirst : annotated (configHash .decimal {} cr {}) (podsA.get ⟨0, by decide⟩) ∈ listedA cr :=
    mem_map_of_mem (get_mem _ _)
  exact ⟨t, .apply hrun hadmits, hhash _ hfirst⟩

/-- **A parameter that is removed from the spec keeps its value**: the pods get the hash of a
configuration without a memory limit, and keep the limit. -/
theorem removed_parameter_lingers : ∃ ls s', Started .decimal {} serverA (startedA limitedA) ∧
    Steps (ConfigStep .decimal {} serverA) (startedA limitedA) ls s' ∧
    s'.hash "a-0" = some (s'.desiredHash .decimal {}) ∧
    s'.hash "a-0" ≠ (startedA limitedA).hash "a-0" ∧
    s'.live "a-0" "maxmemory" = "104857600" ∧ serverA.fresh s'.desired "maxmemory" = "0" ∧
    ¬ Truthful .decimal {} serverA s' := by
  have hspec : ConfigStep .decimal {} serverA (startedA limitedA) (.spec unlimitedA {})
      (respecA limitedA unlimitedA) := .spec
  obtain ⟨t, happly, hhash⟩ := exists_appliedA limitedA unlimitedA (by decide +kernel)
  have hsame : SameSpec (respecA limitedA unlimitedA) ((configWorld .decimal {} serverA).after
      (respecA limitedA unlimitedA) t) := after_sameSpec _ _
  have hlive : ((configWorld .decimal {} serverA).after (respecA limitedA unlimitedA) t).live "a-0"
      "maxmemory" = "104857600" := by
    cases happly with
    | apply hrun _ =>
      exact (live_of_absent hrun (by decide +kernel) "a-0").trans (by decide +kernel)
  have hfresh : serverA.fresh ((configWorld .decimal {} serverA).after
      (respecA limitedA unlimitedA) t).desired "maxmemory" = "0" := by
    rw [hsame.desired]
    decide +kernel
  generalize (configWorld .decimal {} serverA).after (respecA limitedA unlimitedA) t = s' at *
  have hcarries : s'.hash "a-0" = some (s'.desiredHash .decimal {}) := by
    rw [hsame.desiredHash]
    exact hhash
  refine ⟨_, s', started_startedA _, .snoc (.snoc .nil hspec) happly, hcarries, ?_, hlive, hfresh,
    fun htruthful => ?_⟩
  · rw [hhash]
    exact fun heq => configHash_limitedA (Option.some.inj heq).symm
  · have hequal := htruthful "a-0" hcarries "maxmemory" (by decide)
    rw [hlive, hfresh] at hequal
    exact absurd hequal (by decide)

theorem visible_limitedA :
    Visible .decimal serverA (respecA unlimitedA limitedA) (listedA unlimitedA) := by
  refine ⟨fun p _ param hparam _ => ?_, fun p _ key hkey => ?_, fun key hkey => ?_⟩
  · have hkeys : (effectiveRedisConfig unlimitedA {}).keys ⊆
        (respecA unlimitedA limitedA).desired.keys := by decide +kernel
    have hnot : param ∉ effectiveRedisConfig unlimitedA {} := fun h =>
      hparam (Finmap.mem_keys.1 (hkeys (Finmap.mem_keys.2 h)))
    show serverA.fresh (effectiveRedisConfig unlimitedA {}) param = _
    rw [Server.fresh, Finmap.lookup_eq_none.2 hnot]
  · have hsame : ∀ key ∈ (respecA unlimitedA limitedA).desired.sortedKeys, Rendered key →
        ¬ Differs .decimal (respecA unlimitedA limitedA).desired key
          (some (serverA.fresh (effectiveRedisConfig unlimitedA {}) key)) →
        serverA.fresh (effectiveRedisConfig unlimitedA {}) key =
          serverA.fresh (respecA unlimitedA limitedA).desired key := by decide +kernel
    exact hsame key (Map.mem_sortedKeys.2 hkey)
  · have hset : ∀ key ∈ (respecA unlimitedA limitedA).desired.sortedKeys, key ∈ redisRuntimeAllow →
        serverA.set key (desiredRaw (respecA unlimitedA limitedA).desired key) =
          serverA.fresh (respecA unlimitedA limitedA).desired key := by decide +kernel
    exact hset key (Map.mem_sortedKeys.2 hkey)

/-- A limit that is added is applied at run time, and the annotation is truthful. -/
theorem truthful_of_careful_limitedA : ∃ s',
    s'.hash "a-0" = some (s'.desiredHash .decimal {}) ∧ s'.cluster = limitedA ∧
    Truthful .decimal {} serverA s' := by
  have hspec : ConfigStep .decimal {} serverA (startedA unlimitedA) (.spec limitedA {})
      (respecA unlimitedA limitedA) := .spec
  have hnew : Careful .decimal {} serverA (startedA unlimitedA) (.spec limitedA {}) := by
    intro pod hpod
    unfold startedA at hpod
    dsimp only at hpod
    split at hpod
    · exact absurd (Option.some.inj hpod).symm configHash_limitedA
    · cases hpod
  obtain ⟨t, happly, hhash⟩ := exists_appliedA unlimitedA limitedA (by decide +kernel)
  have hsame : SameSpec (respecA unlimitedA limitedA) ((configWorld .decimal {} serverA).after
      (respecA unlimitedA limitedA) t) := after_sameSpec _ _
  refine ⟨_, ?_, hsame.1, truthful_of_careful (started_startedA _)
    (.snoc (.snoc .nil ⟨hspec, hnew⟩) ⟨happly, visible_limitedA⟩)⟩
  rw [hsame.desiredHash]
  exact hhash

end

end Keyval.RuntimeConfig
