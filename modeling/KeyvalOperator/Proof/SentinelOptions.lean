import KeyvalOperator.Ops.RuntimeConfig

/-!
# Options of the Sentinels

`ApplySentinelRuntime` asks one Sentinel for its options and sets them there. The world is the value
of each option in each Sentinel: `SENTINEL MASTER` reports the values of the Sentinel that is asked,
and `SENTINEL SET` changes them there only.

* `applySentinelRuntime_run`: **a call that reports success has asked the first Sentinel only**.
* `reachesAll_iff`: **they reach every Sentinel exactly when all but the first have them already**.
-/

namespace Keyval.RuntimeConfig

open Go Interact Interact.Prog Replication List

variable {options : List String}

/-- The value of each option of the monitored master, by Sentinel. -/
abbrev OptionState := String → String → String

/-- One option of a pod is set. -/
def OptionState.set (s : OptionState) (pod option value : String) : OptionState :=
  fun p o => if p = pod ∧ o = option then value else s p o

/-- The options follow the requests. -/
def sentinelWorld (master : String) : World Op OptionState where
  step s
    | ⟨.sentinelSet pod name option value, .ok ()⟩ =>
      if name = master then s.set pod option value else s
    | _ => s
  ok s
    | ⟨.sentinelMaster pod name, .ok info⟩ =>
      name = master → ∀ option ∈ sentinelRuntimeAllow, Map.str info option = s pod option
    | _ => True

/-- The pod has the options of the spec. -/
def HasOptions (cr : KeyValCluster) (sec : Settings) (s : OptionState) (pod : String) : Prop :=
  ∀ option ∈ sentinelRuntimeAllow,
    trimSpace (s pod option) = trimSpace (desiredOption cr sec option)

instance (cr : KeyValCluster) (sec : Settings) (s : OptionState) (pod : String) :
    Decidable (HasOptions cr sec s pod) :=
  inferInstanceAs (Decidable (∀ option ∈ _, _))

/-- The call gives up before it asks a Sentinel. -/
def Skips (F : Formats) (factory : Bool) (pods : List Pod) (sec : Settings) : Prop :=
  factory = false ∨ (∃ p ∈ pods, isPodReady p = false) ∨ (clientTLSConfig F sec).isSome

section
variable {F : Formats} {factory : Bool} {cr : KeyValCluster} {sec : Settings} {pods : List Pod}
  {t : Trace} {s : OptionState} {pod : String} {res : RuntimeResult}

/-! ## One Sentinel -/

/-- The events that set the options. -/
def optionsSet (cr : KeyValCluster) (sec : Settings) (pod : String) (options : List String) :
    Trace :=
  options.map fun option =>
    ⟨.sentinelSet pod cr.name option (desiredOption cr sec option), .ok ()⟩

theorem setOption_runs :
    (forErr (setOption cr sec pod) options ()).Runs t ((), none) ↔
      t = optionsSet cr sec pod options := by
  constructor
  · intro h
    refine Runs.forErr_inv (I := fun done t _ => t = optionsSet cr sec pod done) h rfl ?_
    intro done option t0 _ t1 _ _ _ hdone hrun
    obtain ⟨r, t2, rfl, h2⟩ := runs_asked.1 hrun
    cases r with
    | error _ => cases (runs_ret.1 h2).2
    | ok _ =>
      obtain ⟨rfl, -⟩ := runs_ret.1 h2
      rw [hdone, optionsSet, optionsSet, map_append, map_singleton]
  · rintro rfl
    induction options with
    | nil => exact .ret _
    | cons option options ih =>
      refine runs_forErr_cons.2 (.inr ⟨[_], (), optionsSet cr sec pod options, rfl, ?_, ih⟩)
      exact runs_call.2 ⟨_, [], rfl, .ret _⟩

theorem after_optionsSet (s : OptionState) (p o : String) :
    (sentinelWorld cr.name).after s (optionsSet cr sec pod options) p o =
      if p = pod ∧ o ∈ options then desiredOption cr sec o else s p o := by
  induction options generalizing s with
  | nil => simp [optionsSet]
  | cons option options ih =>
    rw [optionsSet, map_cons, World.after_cons]
    refine (ih _).trans ?_
    by_cases hp : p = pod
    · subst hp
      by_cases ho : o ∈ options
      · simp [ho]
      · by_cases heq : o = option
        · subst heq
          simp [ho, sentinelWorld, OptionState.set]
        · simp [ho, heq, sentinelWorld, OptionState.set]
    · simp [hp, sentinelWorld, OptionState.set]

/-- **One Sentinel**: with its own values as `info`, it has the options afterwards. -/
theorem hasOptions_optionsSet {info : Map String}
    (hinfo : ∀ option ∈ sentinelRuntimeAllow, Map.str info option = s pod option)
    (hmem : ∀ o, o ∈ options ↔ o ∈ pendingOptions cr sec info) :
    HasOptions cr sec ((sentinelWorld cr.name).after s (optionsSet cr sec pod options)) pod := by
  intro option hoption
  rw [after_optionsSet]
  by_cases hpending : option ∈ options
  · rw [if_pos ⟨rfl, hpending⟩]
  · rw [if_neg fun h => hpending h.2, ← hinfo option hoption]
    simpa [hmem, pendingOptions, hoption] using hpending

/-- The apply succeeds. -/
def RuntimeResult.Success (res : RuntimeResult) : Prop :=
  res.mode = .applied ∨ res.mode = .noChange

theorem not_success {r : RuntimeResult} (h : (.ret r : M RuntimeResult).Runs t res)
    (hr : r.mode = .skipped ∨ r.mode = .failed) : ¬ res.Success := by
  obtain ⟨-, rfl⟩ := runs_ret.1 h
  rintro (h' | h') <;> rw [h'] at hr <;> exact absurd hr (by decide)

theorem setOptions_run {info : Map String} (h : (setOptions cr sec pod info).Runs t res)
    (hsuccess : res.Success) : ∃ options, (∀ o, o ∈ options ↔ o ∈ pendingOptions cr sec info) ∧
      ∀ s, (sentinelWorld cr.name).after s t =
        (sentinelWorld cr.name).after s (optionsSet cr sec pod options) := by
  unfold setOptions at h
  dsimp only at h
  split at h
  · next hpending =>
    obtain ⟨rfl, -⟩ := runs_ret.1 h
    exact ⟨[], by simp [hpending], fun _ => rfl⟩
  · obtain ⟨order, t1, rfl, h1⟩ := runs_asked.1 h
    obtain ⟨t2, ⟨_, err⟩, t3, rfl, hset, h2⟩ := runs_bind.1 h1
    cases err with
    | some res' =>
      obtain ⟨option, -, _, _, t4, -, hoption⟩ := hset.forErr_error
      obtain ⟨r, t5, rfl, h3⟩ := runs_asked.1 hoption
      cases r with
      | ok _ => cases (runs_ret.1 h3).2
      | error e =>
        obtain ⟨-, heq⟩ := runs_ret.1 h3
        cases heq
        exact absurd hsuccess (not_success h2 (.inr rfl))
    | none =>
      obtain ⟨_, t4, rfl, h3⟩ := runs_call.1 h2
      obtain ⟨rfl, -⟩ := runs_ret.1 h3
      refine ⟨order.1, fun o => order.2.mem_iff, fun s => ?_⟩
      rw [setOption_runs.1 hset, World.after_cons, World.after_append]
      rfl

theorem exists_setOptions_run (cr : KeyValCluster) (sec : Settings) (pod : String)
    (info : Map String) : ∃ t res, (setOptions cr sec pod info).Runs t res ∧ res.Success ∧
      ∀ s, (sentinelWorld cr.name).Admits s t := by
  unfold setOptions
  dsimp only
  split
  · exact ⟨[], _, .ret _, .inr rfl, fun _ => trivial⟩
  · generalize pendingOptions cr sec info = options
    have hset := setOption_runs.2 (rfl : optionsSet cr sec pod options = _)
    have hadmits : ∀ s, (sentinelWorld cr.name).Admits s (optionsSet cr sec pod options) := by
      induction options with
      | nil => exact fun _ => trivial
      | cons option options ih => exact fun s => ⟨trivial, ih (setOption_runs.2 rfl) _⟩
    refine ⟨⟨.rangeOrder options, ⟨options, .refl _⟩⟩ :: (optionsSet cr sec pod options ++
      [⟨.event (.runtimeConfigApplied "sentinel" (options.insertionSort (· ≤ ·))), ()⟩]),
      { sentinelResult .applied ("sentinel runtime config applied: " ++
          ",".intercalate (options.insertionSort (· ≤ ·))) with
        changedKeys := options.insertionSort (· ≤ ·) }, ?_, .inl rfl, fun s => ⟨trivial, ?_⟩⟩
    · refine runs_call.2 ⟨_, _, rfl, ?_⟩
      rw [ret_bind]
      exact runs_bind.2 ⟨_, _, _, rfl, hset, runs_call.2 ⟨(), [], rfl, .ret _⟩⟩
    · exact (World.admits_append _).2 ⟨hadmits _, trivial, trivial⟩

/-! ## The call -/

/-- **A call that reports success** has asked the first Sentinel only, and aligned it. -/
theorem applySentinelRuntime_run (h : (applySentinelRuntime F factory cr pods sec).Runs t res)
    (hsuccess : res.Success) :
    cr.spec.mode ≠ .sentinel ∧ t = [] ∨
    cr.spec.mode = .sentinel ∧ ¬ Skips F factory pods sec ∧ ∃ first rest info options t',
      pods = first :: rest ∧ (∀ o, o ∈ options ↔ o ∈ pendingOptions cr sec info) ∧
      t = ⟨.sentinelForPod first.name, .ok ()⟩ ::
        ⟨.sentinelMaster first.name cr.name, .ok info⟩ :: t' ∧
      ∀ s, (sentinelWorld cr.name).after s t' =
        (sentinelWorld cr.name).after s (optionsSet cr sec first.name options) := by
  unfold applySentinelRuntime at h
  split at h
  · next hmode => exact .inl ⟨hmode, (runs_ret.1 h).1⟩
  next hmode =>
  refine .inr ⟨not_not.1 hmode, ?_⟩
  split at h
  · exact absurd hsuccess (not_success h (.inl rfl))
  next hfactory =>
  match pods, h with
  | [], h =>
    exact absurd hsuccess (not_success h (.inl rfl))
  | first :: rest, h =>
    dsimp only at h
    split at h
    · exact absurd hsuccess (not_success h (.inl rfl))
    next hready =>
    split at h
    · exact absurd hsuccess (not_success h (.inr rfl))
    next htls =>
    have hskips : ¬ Skips F factory (first :: rest) sec := by
      rintro (h | ⟨p, hp, h⟩ | h)
      · exact hfactory (by simp [h])
      · simp only [not_not, all_eq_true] at hready
        exact absurd (hready p hp) (by simp [h])
      · rw [htls] at h
        cases h
    obtain ⟨r, t1, rfl, h1⟩ := runs_asked.1 h
    cases r with
    | error e =>
      exact absurd hsuccess (not_success h1 (.inr rfl))
    | ok _ =>
      obtain ⟨r, t2, rfl, h2⟩ := runs_asked.1 h1
      cases r with
      | error e =>
        exact absurd hsuccess (not_success h2 (.inl rfl))
      | ok info =>
        obtain ⟨options, hmem, hafter⟩ := setOptions_run h2 hsuccess
        exact ⟨hskips, first, rest, info, options, t2, rfl, hmem, rfl, hafter⟩

/-- The options as a Sentinel reports them. -/
def reported (s : OptionState) (pod : String) : Map String :=
  sentinelRuntimeAllow.foldl (fun info option => info.insert option (s pod option)) ∅

theorem str_reported (s : OptionState) (pod : String) :
    ∀ option ∈ sentinelRuntimeAllow, Map.str (reported s pod) option = s pod option := by
  simp [sentinelRuntimeAllow, reported, Map.str, Finmap.lookup_insert_of_ne]

theorem exists_applySentinelRuntime_run {first : Pod} {rest : List Pod}
    (hmode : cr.spec.mode = .sentinel) (hskips : ¬ Skips F factory (first :: rest) sec)
    (s : OptionState) : ∃ t res,
      (applySentinelRuntime F factory cr (first :: rest) sec).Runs t res ∧
      res.Success ∧ (sentinelWorld cr.name).Admits s t := by
  unfold Skips at hskips
  simp only [not_or, not_exists, not_and, Bool.not_eq_false, Option.not_isSome_iff_eq_none]
    at hskips
  obtain ⟨hfactory, hready, htls⟩ := hskips
  obtain ⟨t, res, hrun, hsuccess, hadmits⟩ :=
    exists_setOptions_run cr sec first.name (reported s first.name)
  refine ⟨⟨.sentinelForPod first.name, .ok ()⟩ ::
    ⟨.sentinelMaster first.name cr.name, .ok (reported s first.name)⟩ :: t, res, ?_, hsuccess, ?_⟩
  · unfold applySentinelRuntime
    rw [if_neg (not_not.2 hmode), if_neg (by simp [hfactory])]
    dsimp only
    rw [if_neg (by simpa using hready), htls]
    refine runs_call.2 ⟨_, _, rfl, ?_⟩
    refine runs_call.2 ⟨_, _, rfl, ?_⟩
    rw [ret_bind]
    exact hrun
  · have hreported : (sentinelWorld cr.name).ok s
        ⟨.sentinelMaster first.name cr.name, .ok (reported s first.name)⟩ :=
      fun _ => str_reported s first.name
    exact ⟨trivial, hreported, hadmits _⟩

/-- The options of the spec reach every Sentinel whenever a call reports success. -/
def ReachesAll (F : Formats) (factory : Bool) (cr : KeyValCluster) (pods : List Pod)
    (sec : Settings) (s : OptionState) : Prop :=
  ∀ t res, (applySentinelRuntime F factory cr pods sec).Runs t res →
    (sentinelWorld cr.name).Admits s t → res.mode = .applied ∨ res.mode = .noChange →
    ∀ p ∈ pods, HasOptions cr sec ((sentinelWorld cr.name).after s t) p.name

/-- **The options reach every Sentinel** exactly when every Sentinel has them already, or is the
first one of a cluster in Sentinel mode, or the call gives up. -/
theorem reachesAll_iff {F : Formats} {factory : Bool} {cr : KeyValCluster} {pods : List Pod}
    {sec : Settings} {s : OptionState} :
    ReachesAll F factory cr pods sec s ↔ ∀ p ∈ pods, HasOptions cr sec s p.name ∨
      cr.spec.mode = .sentinel ∧
        (pods.head?.map (·.name) = some p.name ∨ Skips F factory pods sec) := by
  constructor
  · intro hreaches p hp
    by_cases hmode : cr.spec.mode = .sentinel
    · by_cases hskips : Skips F factory pods sec
      · exact .inr ⟨hmode, .inr hskips⟩
      match pods, hp, hskips, hreaches with
      | first :: rest, hp, hskips, hreaches =>
        by_cases hfirst : first.name = p.name
        · exact .inr ⟨hmode, .inl (congrArg some hfirst)⟩
        -- the call leaves this Sentinel alone
        obtain ⟨t, res, hrun, hsuccess, hadmits⟩ :=
          exists_applySentinelRuntime_run hmode hskips s
        refine .inl fun option hoption => ?_
        have hhas := hreaches t res hrun hadmits hsuccess p hp option hoption
        obtain ⟨hne, -⟩ | ⟨-, -, first', _, _, options, t', heq, -, rfl, hafter⟩ :=
          applySentinelRuntime_run hrun hsuccess
        · exact absurd hmode hne
        · cases heq
          have hkept : (sentinelWorld cr.name).after s t' p.name option = s p.name option := by
            rw [hafter, after_optionsSet, if_neg fun h => hfirst h.1.symm]
          exact (congrArg trimSpace hkept.symm).trans hhas
    · refine .inl (hreaches [] (sentinelResult .noChange "sentinel mode disabled") ?_ trivial
        (.inr rfl) p hp)
      unfold applySentinelRuntime
      rw [if_pos hmode]
      exact .ret _
  · intro hhas t res hrun hadmits hsuccess p hp
    obtain ⟨hmode, rfl⟩ | ⟨-, hskips, first, rest, info, options, t', rfl, hmem, rfl, hafter⟩ :=
      applySentinelRuntime_run hrun hsuccess
    · exact (hhas p hp).resolve_right fun h => hmode h.1
    · have hfirst : HasOptions cr sec ((sentinelWorld cr.name).after s t') first.name := by
        rw [hafter]
        exact hasOptions_optionsSet (hadmits.2.1 rfl) hmem
      rcases hhas p hp with hp' | ⟨-, hhead | hskips'⟩
      · by_cases hname : p.name = first.name
        · rw [hname]
          exact hfirst
        · intro option hoption
          have hkept : (sentinelWorld cr.name).after s t' p.name option = s p.name option := by
            rw [hafter, after_optionsSet, if_neg fun h => hname h.1]
          exact (congrArg trimSpace hkept).trans (hp' option hoption)
      · rw [← Option.some.inj hhead]
        exact hfirst
      · exact absurd hskips' hskips

/-- Its three Sentinel pods. -/
def sentinelsA : List Pod := ["a-sentinel-0", "a-sentinel-1", "a-sentinel-2"].map readyPod

/-- The options of the defaults. -/
def defaultsA : OptionState := fun _ option =>
  if option = "down-after-milliseconds" then "5000"
  else if option = "failover-timeout" then "60000" else "1"

/-- The cluster `a` with a shorter time. -/
def shorterA : KeyValCluster :=
  { clusterA with spec := { clusterA.spec with
      sentinelConfig := (∅ : Map String).insert "down-after-milliseconds" "2000" } }

/-- The Sentinels answer so. -/
def answers (s : OptionState) : Replies
  | .sentinelForPod _ => .ok ()
  | .sentinelMaster pod _ => .ok (reported s pod)
  | .sentinelSet .. => .ok ()
  | q => q.unavailable

/-- **The second Sentinel keeps its old value**, and the call reports that the option was applied.
-/
theorem second_sentinel_keeps_default : ∃ t res,
    (applySentinelRuntime .decimal true shorterA sentinelsA {}).Runs t res ∧
    (sentinelWorld "a").Admits defaultsA t ∧ res.mode = .applied ∧
    (∀ p ∈ sentinelsA, isPodReady p) ∧
    desiredOption shorterA {} "down-after-milliseconds" = "2000" ∧
    (sentinelWorld "a").after defaultsA t "a-sentinel-0" "down-after-milliseconds" = "2000" ∧
    (sentinelWorld "a").after defaultsA t "a-sentinel-1" "down-after-milliseconds" = "5000" := by
  refine ⟨_, _, World.runs_play (W := sentinelWorld "a") (r := answers) defaultsA _, ?_, ?_⟩
  · refine World.admits_play (fun s q => ?_) defaultsA _
    cases q <;> first | trivial | exact fun _ => str_reported s _
  · decide +kernel

end

end Keyval.RuntimeConfig
