import KeyvalOperator.Lib.History
import KeyvalOperator.Ops.RuntimeConfig
import KeyvalOperator.Phases.Runtime

/-!
# Runs of the runtime configuration

What `ApplyRedisRuntime` reads, writes and annotates.

* `Discovered`: what the first loop has read when it ends, and the changes that it found.
* `Written`: what the second loop has written when it ends.
* `align_run`: **how a call goes after its checks**, loop by loop.
* `applyRedisRuntime_run`: **a run reads everything, writes, and annotates**, or stops before.
* `applyRedisRuntime_allOrNothing`: **the configuration of the pods changes all or not at all**.
* `applyRedisRuntime_refines`: the call is what the Runtime phase asks for.
-/

namespace Keyval.RuntimeConfig

open Go Interact Interact.Prog Resources Replication History List

variable {p : Pod} {keys : List String} {F : Formats} {desired : Map String} {pods : List Pod}
  {t t1 t2 : Trace}

/-- A parameter is read. -/
abbrev read (pod key : String) (current : Option String) : Event Op :=
  ⟨.configGet pod key, .ok current⟩

/-- A parameter is set. -/
abbrev wrote (pod key value : String) : Event Op := ⟨.configSet pod key value, .ok ()⟩

/-- The file is rewritten. -/
abbrev rewrote (pod : String) : Event Op := ⟨.configRewrite pod, .ok ()⟩

section
variable {pod : String} {done : List Pod} {d d' : Discovery}

/-! ## Discovery -/

/-- The request changes nothing. -/
def Looks : Req → Prop
  | .redisForPod _ | .configGet .. => True
  | _ => False

/-- The parameters `done` of a pod have been read, and `changes` has those that differ. -/
structure Compared (F : Formats) (desired : Map String) (pod : String) (done : List String)
    (t : Trace) (changes : Map String) : Prop where
  keys : ∀ key ∈ done, ∃ current, read pod key current ∈ t ∧
    (Differs F desired key current → changes.lookup key = some (desiredRaw desired key))
  allowed : ∀ p key current, read p key current ∈ t → Differs F desired key current →
    key ∈ redisRuntimeAllow
  changed : ∀ key v, changes.lookup key = some v →
    key ∈ done ∧ key ∈ redisRuntimeAllow ∧ v = desiredRaw desired key

theorem compareKey_asks (pending : Pending) (key : String) :
    Asks Looks (compareKey F desired pod pending key) := by
  refine .call trivial fun r _ => ?_
  rw [ret_bind]
  cases r with
  | error _ => exact .ret _
  | ok current =>
    dsimp only
    split
    · exact .ret _
    · split <;> exact .ret _

/-- **One parameter**: it was read, and is added to the changes when it differs. -/
theorem compareKey_run {pending pending' : Pending} {key : String}
    (h : (compareKey F desired pod pending key).Runs t (pending', none)) :
    ∃ current, t = [read pod key current] ∧
      (Differs F desired key current → key ∈ redisRuntimeAllow) ∧
      pending'.changes = if Differs F desired key current then
        pending.changes.insert key (desiredRaw desired key) else pending.changes := by
  obtain ⟨r, t1, rfl, h1⟩ := runs_asked.1 h
  cases r with
  | error e => cases (runs_ret.1 h1).2
  | ok current =>
    refine ⟨current, ?_⟩
    dsimp only at h1
    by_cases hdiffers : Differs F desired key current
    · rw [if_neg (not_not.2 hdiffers)] at h1
      by_cases hallow : key ∈ redisRuntimeAllow
      · rw [if_neg (not_not.2 hallow)] at h1
        obtain ⟨rfl, heq⟩ := runs_ret.1 h1
        cases heq
        exact ⟨rfl, fun _ => hallow, (if_pos hdiffers).symm⟩
      · rw [if_pos hallow] at h1
        cases (runs_ret.1 h1).2
    · rw [if_pos hdiffers] at h1
      obtain ⟨rfl, heq⟩ := runs_ret.1 h1
      cases heq
      exact ⟨rfl, fun h => absurd h hdiffers, (if_neg hdiffers).symm⟩

theorem Compared.concat {key : String} {current : Option String}
    {changes : Map String} (h : Compared F desired pod keys t changes)
    (hallow : Differs F desired key current → key ∈ redisRuntimeAllow) :
    Compared F desired pod (keys ++ [key]) (t ++ [read pod key current])
      (if Differs F desired key current then changes.insert key (desiredRaw desired key)
        else changes) := by
  have hlookup : ∀ k, (if Differs F desired key current then
      changes.insert key (desiredRaw desired key) else changes).lookup k =
        if k = key ∧ Differs F desired key current then some (desiredRaw desired key)
        else changes.lookup k := by
    intro k
    by_cases hdiffers : Differs F desired key current
    · by_cases hk : k = key
      · subst hk
        simp [hdiffers]
      · simp [hdiffers, hk, Finmap.lookup_insert_of_ne]
    · simp [hdiffers]
  refine ⟨?_, ?_, ?_⟩
  · intro k hk
    rw [hlookup]
    by_cases hkey : k = key
    · subst hkey
      exact ⟨current, by simp, fun hdiffers => if_pos ⟨rfl, hdiffers⟩⟩
    · obtain ⟨c, hread, hset⟩ := h.keys k (by simpa [hkey] using hk)
      rw [if_neg fun h => hkey h.1]
      exact ⟨c, mem_append_left _ hread, hset⟩
  · intro p k c hread hdiffers
    rcases mem_append.1 hread with hread | hread
    · exact h.allowed p k c hread hdiffers
    · cases mem_singleton.1 hread
      exact hallow hdiffers
  · intro k v hv
    rw [hlookup] at hv
    split at hv
    · next hk =>
      obtain ⟨rfl, hdiffers⟩ := hk
      exact ⟨by simp, hallow hdiffers, (Option.some.inj hv).symm⟩
    · obtain ⟨hk, hrest⟩ := h.changed k v hv
      exact ⟨mem_append_left _ hk, hrest⟩

theorem compareKeys_run {changed : Map Unit} {pending : Pending}
    (h : (forErr (compareKey F desired pod) keys { changedKeys := changed }).Runs t
      (pending, none)) : Compared F desired pod keys t pending.changes := by
  refine Runs.forErr_inv (I := fun done t s => Compared F desired pod done t s.changes) h ?_ ?_
  · exact ⟨by simp, by simp, by simp⟩
  · intro done key t0 s t1 s1 _ _ hcompared hrun
    obtain ⟨current, rfl, hallow, hchanges⟩ := compareKey_run hrun
    rw [hchanges]
    exact hcompared.concat hallow

/-- What the first loop has found. -/
structure Discovered (F : Formats) (desired : Map String) (done : List Pod) (t : Trace)
    (changes : Map (Map String)) : Prop where
  matched : ∀ p ∈ done, changes.lookup p.name = none → ∀ key ∈ desired, ∃ current,
    read p.name key current ∈ t ∧ ¬ Differs F desired key current
  found : ∀ name m, changes.lookup name = some m → ∀ key ∈ desired, ∃ current,
    read name key current ∈ t ∧
      (Differs F desired key current → m.lookup key = some (desiredRaw desired key))
  changed : ∀ name m, changes.lookup name = some m → m ≠ ∅ ∧ ∀ key v, m.lookup key = some v →
    key ∈ desired ∧ key ∈ redisRuntimeAllow ∧ v = desiredRaw desired key
  allowed : ∀ p key current, read p key current ∈ t → Differs F desired key current →
    key ∈ redisRuntimeAllow

theorem discoverPod_asks (d : Discovery) (p : Pod) : Asks Looks (discoverPod F desired d p) := by
  refine .call trivial fun r _ => ?_
  cases r with
  | error _ => exact .ret _
  | ok _ =>
    refine (Issues.forErr _ fun key _ s => compareKey_asks s key).bind fun o => ?_
    obtain ⟨_, _ | _⟩ := o <;> exact .ret _

theorem discoverPod_loop (h : (discoverPod F desired d p).Runs t (d', none)) :
    ∃ pending t1, t = ⟨.redisForPod p.name, .ok ()⟩ :: t1 ∧
      (forErr (compareKey F desired p.name) desired.sortedKeys
        { changedKeys := d.changedKeys }).Runs t1 (pending, none) ∧
      d'.perPodChanges = if pending.changes = ∅ then d.perPodChanges
        else d.perPodChanges.insert p.name pending.changes := by
  obtain ⟨r, t1, rfl, h1⟩ := runs_asked.1 h
  cases r with
  | error e => cases (runs_ret.1 h1).2
  | ok _ =>
    obtain ⟨t2, ⟨pending, res⟩, t3, rfl, hkeys, h2⟩ := runs_bind.1 h1
    cases res with
    | some res => cases (runs_ret.1 h2).2
    | none =>
      obtain ⟨rfl, heq⟩ := runs_ret.1 h2
      cases heq
      exact ⟨pending, t2, by simp, hkeys, rfl⟩

/-- **One pod**: all its parameters were read. -/
theorem discoverPod_run (h : (discoverPod F desired d p).Runs t (d', none)) :
    ∃ changes t1, t = ⟨.redisForPod p.name, .ok ()⟩ :: t1 ∧
      Compared F desired p.name desired.sortedKeys t1 changes ∧
      d'.perPodChanges = if changes = ∅ then d.perPodChanges
        else d.perPodChanges.insert p.name changes := by
  obtain ⟨pending, t1, rfl, hkeys, hchanges⟩ := discoverPod_loop h
  exact ⟨pending.changes, t1, rfl, compareKeys_run hkeys, hchanges⟩

theorem Discovered.concat {changes : Map (Map String)} {own : Map String}
    (h : Discovered F desired done t changes)
    (hown : Compared F desired p.name desired.sortedKeys t1 own) :
    Discovered F desired (done ++ [p]) (t ++ ⟨.redisForPod p.name, .ok ()⟩ :: t1)
      (if own = ∅ then changes else changes.insert p.name own) := by
  have hold : ∀ {e : Event Op}, e ∈ t → e ∈ t ++ ⟨.redisForPod p.name, .ok ()⟩ :: t1 :=
    mem_append_left _
  have hnew : ∀ {e : Event Op}, e ∈ t1 → e ∈ t ++ ⟨.redisForPod p.name, .ok ()⟩ :: t1 :=
    fun he => mem_append_right _ (.tail _ he)
  have hallowed : ∀ q key current, read q key current ∈ t ++ ⟨.redisForPod p.name, .ok ()⟩ :: t1 →
      Differs F desired key current → key ∈ redisRuntimeAllow := by
    intro q key current hread hdiffers
    rcases mem_append.1 hread with hread | hread
    · exact h.allowed q key current hread hdiffers
    · exact hown.allowed q key current (by simpa using hread) hdiffers
  by_cases hempty : own = ∅
  · -- nothing differs in this pod
    rw [if_pos hempty]
    refine ⟨?_, ?_, h.changed, hallowed⟩
    · intro q hq hnone key hkey
      rcases mem_append.1 hq with hq | hq
      · obtain ⟨c, hread, hsame⟩ := h.matched q hq hnone key hkey
        exact ⟨c, hold hread, hsame⟩
      · cases mem_singleton.1 hq
        obtain ⟨c, hread, hset⟩ := hown.keys key (Map.mem_sortedKeys.2 hkey)
        refine ⟨c, hnew hread, fun hdiffers => ?_⟩
        have := hset hdiffers
        simp [hempty] at this
    · intro name m hm key hkey
      obtain ⟨c, hread, hset⟩ := h.found name m hm key hkey
      exact ⟨c, hold hread, hset⟩
  · rw [if_neg hempty]
    refine ⟨?_, ?_, ?_, hallowed⟩
    · intro q hq hnone key hkey
      have hname : q.name ≠ p.name := by
        intro hname
        rw [hname, Finmap.lookup_insert] at hnone
        cases hnone
      rw [Finmap.lookup_insert_of_ne _ hname] at hnone
      have hdone : q ∈ done := by
        rcases mem_append.1 hq with hq | hq
        · exact hq
        · cases mem_singleton.1 hq
          exact absurd rfl hname
      obtain ⟨c, hread, hsame⟩ := h.matched q hdone hnone key hkey
      exact ⟨c, hold hread, hsame⟩
    · intro name m hm key hkey
      by_cases hname : name = p.name
      · subst hname
        rw [Finmap.lookup_insert] at hm
        cases hm
        obtain ⟨c, hread, hset⟩ := hown.keys key (Map.mem_sortedKeys.2 hkey)
        exact ⟨c, hnew hread, hset⟩
      · rw [Finmap.lookup_insert_of_ne _ hname] at hm
        obtain ⟨c, hread, hset⟩ := h.found name m hm key hkey
        exact ⟨c, hold hread, hset⟩
    · intro name m hm
      by_cases hname : name = p.name
      · subst hname
        rw [Finmap.lookup_insert] at hm
        cases hm
        refine ⟨hempty, fun key v hv => ?_⟩
        obtain ⟨hkey, hrest⟩ := hown.changed key v hv
        exact ⟨Map.mem_sortedKeys.1 hkey, hrest⟩
      · rw [Finmap.lookup_insert_of_ne _ hname] at hm
        exact h.changed name m hm

/-- **The first loop**, when it goes through all the pods. -/
theorem discoverPods_run (h : (forErr (discoverPod F desired) pods {}).Runs t (d, none)) :
    Discovered F desired pods t d.perPodChanges ∧ ∀ e ∈ t, Looks e.req := by
  refine ⟨?_, Asks.mem (Issues.forErr _ fun p _ s => discoverPod_asks s p) h⟩
  refine Runs.forErr_inv (I := fun done t s => Discovered F desired done t s.perPodChanges) h ?_ ?_
  · exact ⟨by simp, by simp, by simp, by simp⟩
  · intro done p t0 s t1 s1 _ _ hdiscovered hrun
    obtain ⟨changes, t2, rfl, hcompared, hchanges⟩ := discoverPod_run hrun
    rw [hchanges]
    exact hdiscovered.concat hcompared

/-! ## Writes -/

/-- A request of the second loop: what is set is a change of the pod. -/
def Writes (changes : Map (Map String)) : Req → Prop
  | .configSet pod key v => ∃ m, changes.lookup pod = some m ∧ m.lookup key = some v
  | .redisForPod _ | .rangeOrder _ | .configRewrite _ => True
  | _ => False

/-- What the second loop has written. -/
structure Written (changes : Map (Map String)) (done : List Pod) (t : Trace) : Prop where
  values : ∀ p ∈ done, ∀ m, changes.lookup p.name = some m → ∀ key v, m.lookup key = some v →
    wrote p.name key v ∈ t
  file : ∀ p ∈ done, (changes.lookup p.name).isSome → rewrote p.name ∈ t
  succeeded : ∀ p key v r, ⟨.configSet p key v, r⟩ ∈ t → r = .ok ()

theorem rewriteConfig_asks (d : Discovery) (pod : String) :
    Asks (Writes d.perPodChanges) (rewriteConfig d pod) := by
  refine .call trivial fun r _ => ?_
  rw [ret_bind]
  cases r with
  | ok _ => exact .ret _
  | error _ =>
    dsimp only
    split <;> exact .ret _

theorem applyPod_asks (d : Discovery) (p : Pod) :
    Asks (Writes d.perPodChanges) (applyPod d () p) := by
  unfold applyPod
  dsimp only
  split
  · exact .ret _
  · next hne =>
    refine .call trivial fun r _ => ?_
    cases r with
    | error _ => exact .ret _
    | ok _ =>
      refine .call trivial fun order _ => ?_
      refine (Issues.forErr _ fun key hkey s => ?_).bind fun o => ?_
      · -- the keys that are visited are those of the changes
        have hmem := Map.mem_sortedKeys.1 (order.2.mem_iff.1 hkey)
        obtain ⟨v, hv⟩ := Finmap.mem_iff.1 hmem
        cases hm : d.perPodChanges.lookup p.name with
        | none => simp [hm] at hne
        | some m =>
          rw [hm, Option.getD_some] at hv
          refine .call ⟨m, hm, ?_⟩ fun r _ => ?_
          · rw [Option.getD_some, Map.str, hv, Option.getD_some]
          · rw [ret_bind]
            cases r <;> exact .ret _
      · obtain ⟨_, _ | _⟩ := o
        · exact rewriteConfig_asks d p.name
        · exact .ret _

theorem setKeys_run {changes : Map String}
    (h : (forErr (setKey pod changes) keys ()).Runs t ((), none)) :
    t = keys.map fun key => wrote pod key (Map.str changes key) := by
  refine Runs.forErr_inv (I := fun done t _ =>
    t = done.map fun key => wrote pod key (Map.str changes key)) h rfl ?_
  intro done key t0 _ t1 _ _ _ hdone hrun
  obtain ⟨r, t2, rfl, h2⟩ := runs_asked.1 hrun
  cases r with
  | error _ => cases (runs_ret.1 h2).2
  | ok _ =>
    obtain ⟨rfl, -⟩ := runs_ret.1 h2
    rw [hdone, map_append, map_singleton]

/-- **One pod**: nothing changes, or its changes were set and its file was written. -/
theorem applyPod_run (h : (applyPod d () p).Runs t ((), none)) :
    (d.perPodChanges.lookup p.name).getD ∅ = ∅ ∧ t = [] ∨
    ∃ m order, d.perPodChanges.lookup p.name = some m ∧ order.1.Perm m.sortedKeys ∧
      t = ⟨.redisForPod p.name, .ok ()⟩ :: ⟨.rangeOrder m.sortedKeys, order⟩ ::
        (order.1.map (fun key => wrote p.name key (Map.str m key)) ++ [rewrote p.name]) := by
  unfold applyPod at h
  dsimp only at h
  split at h
  · next hempty => exact .inl ⟨hempty, (runs_ret.1 h).1⟩
  · next hne =>
    cases hm : d.perPodChanges.lookup p.name with
    | none => simp [hm] at hne
    | some m =>
      rw [hm, Option.getD_some] at h
      obtain ⟨r, t1, rfl, h1⟩ := runs_asked.1 h
      cases r with
      | error e => cases (runs_ret.1 h1).2
      | ok _ =>
        obtain ⟨order, t2, rfl, h2⟩ := runs_asked.1 h1
        obtain ⟨t3, ⟨_, res⟩, t4, rfl, hset, h3⟩ := runs_bind.1 h2
        cases res with
        | some res => cases (runs_ret.1 h3).2
        | none =>
          obtain ⟨r, t5, rfl, h4⟩ := runs_asked.1 h3
          cases r with
          | error e =>
            dsimp only at h4
            split at h4 <;> cases (runs_ret.1 h4).2
          | ok _ =>
            obtain ⟨rfl, -⟩ := runs_ret.1 h4
            exact .inr ⟨m, order, rfl, order.2, by rw [setKeys_run hset]⟩

theorem Written.concat (h : Written d.perPodChanges done t)
    (hchanges : ∀ m, d.perPodChanges.lookup p.name = some m → m ≠ ∅)
    (hrun : (applyPod d () p).Runs t1 ((), none)) :
    Written d.perPodChanges (done ++ [p]) (t ++ t1) := by
  have hold : ∀ {e : Event Op}, e ∈ t → e ∈ t ++ t1 := mem_append_left _
  rcases applyPod_run hrun with ⟨hnone, rfl⟩ | ⟨m, order, hm, hperm, rfl⟩
  · have hlookup : d.perPodChanges.lookup p.name = none := by
      cases hm : d.perPodChanges.lookup p.name with
      | none => rfl
      | some m =>
        rw [hm, Option.getD_some] at hnone
        exact absurd hnone (hchanges m hm)
    rw [append_nil]
    refine ⟨?_, ?_, h.succeeded⟩
    · intro q hq m hm
      rcases mem_append.1 hq with hq | hq
      · exact h.values q hq m hm
      · cases mem_singleton.1 hq
        cases hlookup.symm.trans hm
    · intro q hq hsome
      rcases mem_append.1 hq with hq | hq
      · exact h.file q hq hsome
      · cases mem_singleton.1 hq
        rw [hlookup] at hsome
        cases hsome
  · refine ⟨?_, ?_, ?_⟩
    · intro q hq m' hm' key v hv
      rcases mem_append.1 hq with hq | hq
      · exact hold (h.values q hq m' hm' key v hv)
      · cases mem_singleton.1 hq
        cases hm.symm.trans hm'
        have hkey : key ∈ order.1 :=
          hperm.mem_iff.2 (Map.mem_sortedKeys.2 (Finmap.mem_iff.2 ⟨v, hv⟩))
        have hstr : Map.str m key = v := by rw [Map.str, hv, Option.getD_some]
        refine mem_append_right _ (.tail _ (.tail _ (mem_append_left _ ?_)))
        exact mem_map.2 ⟨key, hkey, by rw [hstr]⟩
    · intro q hq hsome
      rcases mem_append.1 hq with hq | hq
      · exact hold (h.file q hq hsome)
      · cases mem_singleton.1 hq
        simp
    · intro q key v r hmem
      rcases mem_append.1 hmem with hmem | hmem
      · exact h.succeeded q key v r hmem
      · obtain ⟨k, -, heq⟩ : ∃ k ∈ order.1, wrote p.name k (Map.str m k) =
            (⟨.configSet q key v, r⟩ : Event Op) := by simpa using hmem
        cases heq
        rfl

/-- **The second loop**, when it goes through all the pods. -/
theorem applyPods_run (hchanges : ∀ name m, d.perPodChanges.lookup name = some m → m ≠ ∅)
    (h : (forErr (applyPod d) pods ()).Runs t ((), none)) : Written d.perPodChanges pods t := by
  refine Runs.forErr_inv (I := fun done t _ => Written d.perPodChanges done t) h ?_ ?_
  · exact ⟨by simp, by simp, by simp⟩
  · intro done p t0 _ t1 _ _ _ hwritten hrun
    exact hwritten.concat (hchanges p.name) hrun

theorem applyPods_asks (d : Discovery) (pods : List Pod) :
    Asks (Writes d.perPodChanges) (forErr (applyPod d) pods ()) :=
  Issues.forErr _ fun p _ _ => applyPod_asks d p

/-! ## Annotations -/

/-- The request writes the hash on a pod. -/
def Annotates (hash : String) (pods : List Pod) : Req → Prop
  | .patchPodAnnotations ns name annotations =>
    annotations = (∅ : Map String).insert configHashAnnotationKey hash ∧
      ∃ p ∈ pods, p.ns = ns ∧ p.name = name
  | _ => False

theorem patchPods_asks (hash : String) : ∀ pods : List Pod,
    Asks (Annotates hash pods) (patchPods hash pods)
  | [] => .ret _
  | p :: pods => by
    have hrest : Asks (Annotates hash (p :: pods)) (patchPods hash pods) := by
      refine (patchPods_asks hash pods).mono fun q hq => ?_
      cases q <;> try exact hq.elim
      obtain ⟨hann, q, hq, hname⟩ := hq
      exact ⟨hann, q, .tail _ hq, hname⟩
    unfold patchPods
    split
    · exact hrest.bind fun _ => .ret _
    · refine .call ⟨rfl, p, .head _, rfl, rfl⟩ fun r _ => ?_
      cases r with
      | error _ => exact .ret _
      | ok _ => exact hrest.bind fun _ => .ret _

theorem patchConfigHashAnnotations_asks (hash : String) (pods : List Pod) :
    Asks (Annotates hash pods) (patchConfigHashAnnotations hash pods) := by
  unfold patchConfigHashAnnotations
  split
  · exact .ret _
  · exact patchPods_asks hash pods

end

/-! ## The call -/

section
variable {factory : Bool} {cr : KeyValCluster} {hash : String} {sec : Settings}
  {out : RuntimeResult × List Pod}

/-- The request is a report. -/
def Announces : Req → Prop
  | .event _ => True
  | _ => False

/-- The runs of `applyRedisRuntime`. -/
inductive RuntimeRun (F : Formats) (cr : KeyValCluster) (pods : List Pod) (hash : String)
    (sec : Settings) : Trace → RuntimeResult × List Pod → Prop
  -- it changes nothing
  | looks {t : Trace} {res : RuntimeResult} :
      (∀ e ∈ t, Looks e.req) → RuntimeRun F cr pods hash sec t (res, pods)
  -- it stops in the second loop
  | stops {t1 t2 : Trace} {changes : Map (Map String)} {res : RuntimeResult} :
      (∀ p ∈ pods, isPodReady p) → (∀ e ∈ t1, Looks e.req) →
      Discovered F (effectiveRedisConfig cr sec) pods t1 changes →
      (∀ e ∈ t2, Writes changes e.req) → RuntimeRun F cr pods hash sec (t1 ++ t2) (res, pods)
  -- it comes to the annotations
  | annotates {t1 t2 t3 t4 : Trace} {changes : Map (Map String)} {res : RuntimeResult}
      {pods' : List Pod} {err : Option Error} :
      (∀ p ∈ pods, isPodReady p) → (∀ e ∈ t1, Looks e.req) →
      Discovered F (effectiveRedisConfig cr sec) pods t1 changes →
      (∀ e ∈ t2, Writes changes e.req) → Written changes pods t2 →
      (patchConfigHashAnnotations hash pods).Runs t3 (pods', err) →
      (∀ e ∈ t4, Announces e.req) →
      RuntimeRun F cr pods hash sec (t1 ++ (t2 ++ (t3 ++ t4))) (res, pods')

/-- The two loops. -/
def align (F : Formats) (desired : Map String) (pods : List Pod) (hash : String) :
    M (RuntimeResult × List Pod) := do
  match ← forErr (discoverPod F desired) pods {} with
  | (_, some res) => return (res, pods)
  | (d, none) => applyChanges d pods hash

/-- The checks before the loops pass. -/
structure Checked (F : Formats) (factory : Bool) (pods : List Pod) (sec : Settings) : Prop where
  client : factory = true
  nonempty : pods ≠ []
  ready : ∀ p ∈ pods, isPodReady p = true
  tls : Replication.clientTLSConfig F sec = none

theorem applyRedisRuntime_checked (h : Checked F factory pods sec) :
    applyRedisRuntime F factory cr pods hash sec =
      align F (effectiveRedisConfig cr sec) pods hash := by
  have hall : pods.all isPodReady = true := all_eq_true.2 h.ready
  unfold applyRedisRuntime
  rw [h.client, if_neg (by decide), if_neg h.nonempty, if_neg (not_not.2 hall), h.tls]
  rfl

/-- **A run** leaves at the checks, or comes to the first loop. -/
theorem applyRedisRuntime_checks (h : (applyRedisRuntime F factory cr pods hash sec).Runs t out) :
    t = [] ∧ out.2 = pods ∧ out.1.mode ≠ .applied ∨
    Checked F factory pods sec ∧ (align F (effectiveRedisConfig cr sec) pods hash).Runs t out := by
  -- the ways out before the first loop
  have hleft : ∀ {res : RuntimeResult}, res.mode ≠ .applied →
      (.ret (res, pods) : M (RuntimeResult × List Pod)).Runs t out →
      t = [] ∧ out.2 = pods ∧ out.1.mode ≠ .applied := by
    intro res hmode h
    obtain ⟨rfl, rfl⟩ := runs_ret.1 h
    exact ⟨rfl, rfl, hmode⟩
  by_cases hchecked : Checked F factory pods sec
  · exact .inr ⟨hchecked, applyRedisRuntime_checked hchecked ▸ h⟩
  · unfold applyRedisRuntime at h
    split at h
    · exact .inl (hleft (by decide) h)
    next hfactory =>
    split at h
    · exact .inl (hleft (by decide) h)
    next hpods =>
    split at h
    · exact .inl (hleft (by decide) h)
    next hready =>
    split at h
    · exact .inl (hleft (fun hmode => by cases hmode) h)
    next htls =>
    exact absurd ⟨by simpa using hfactory, hpods, by simpa using hready, htls⟩ hchecked

/-- The runs of the loops. -/
inductive AlignRun (F : Formats) (desired : Map String) (pods : List Pod) (hash : String) :
    Trace → RuntimeResult × List Pod → Prop
  -- it stops in the first loop
  | stops {t : Trace} {d : Discovery} {res : RuntimeResult} :
      (forErr (discoverPod F desired) pods {}).Runs t (d, some res) →
      AlignRun F desired pods hash t (res, pods)
  -- nothing differs
  | inSync {t1 t2 : Trace} {d : Discovery} {pods' : List Pod} {err : Option Error}
      {res : RuntimeResult} :
      (forErr (discoverPod F desired) pods {}).Runs t1 (d, none) → d.perPodChanges = ∅ →
      (patchConfigHashAnnotations hash pods).Runs t2 (pods', err) →
      res.mode = (if err = none then .noChange else .failed) →
      AlignRun F desired pods hash (t1 ++ t2) (res, pods')
  -- it stops in the second loop
  | fails {t1 t2 : Trace} {d : Discovery} {res : RuntimeResult} :
      (forErr (discoverPod F desired) pods {}).Runs t1 (d, none) → d.perPodChanges ≠ ∅ →
      (forErr (applyPod d) pods ()).Runs t2 ((), some res) →
      AlignRun F desired pods hash (t1 ++ t2) (res, pods)
  -- it comes to the annotations
  | writes {t1 t2 t3 t4 : Trace} {d : Discovery} {pods' : List Pod}
      {err : Option Error} {res : RuntimeResult} :
      (forErr (discoverPod F desired) pods {}).Runs t1 (d, none) → d.perPodChanges ≠ ∅ →
      (forErr (applyPod d) pods ()).Runs t2 ((), none) →
      (patchConfigHashAnnotations hash pods).Runs t3 (pods', err) →
      (∀ e ∈ t4, Announces e.req) → res.mode = (if err = none then .applied else .failed) →
      AlignRun F desired pods hash (t1 ++ (t2 ++ (t3 ++ t4))) (res, pods')

theorem align_run {desired : Map String} (h : (align F desired pods hash).Runs t out) :
    AlignRun F desired pods hash t out := by
  obtain ⟨t1, ⟨d, res⟩, t2, rfl, hdiscover, h1⟩ := runs_bind.1 h
  cases res with
  | some res =>
    obtain ⟨rfl, rfl⟩ := runs_ret.1 h1
    rw [append_nil]
    exact .stops hdiscover
  | none =>
    dsimp only at h1
    unfold applyChanges at h1
    split at h1
    · next hempty =>
      obtain ⟨t3, ⟨pods', err⟩, t4, rfl, hpatch, h2⟩ := runs_bind.1 h1
      cases err with
      | some e =>
        obtain ⟨rfl, rfl⟩ := runs_ret.1 h2
        rw [append_nil]
        exact .inSync hdiscover hempty hpatch rfl
      | none =>
        obtain ⟨rfl, rfl⟩ := runs_ret.1 h2
        rw [append_nil]
        exact .inSync hdiscover hempty hpatch rfl
    · next hne =>
      obtain ⟨t3, ⟨_, res⟩, t4, rfl, happly, h2⟩ := runs_bind.1 h1
      cases res with
      | some res =>
        obtain ⟨rfl, rfl⟩ := runs_ret.1 h2
        rw [append_nil]
        exact .fails hdiscover hne happly
      | none =>
        obtain ⟨t5, ⟨pods', err⟩, t6, rfl, hpatch, h3⟩ := runs_bind.1 h2
        cases err with
        | some e =>
          obtain ⟨rfl, rfl⟩ := runs_ret.1 h3
          exact .writes hdiscover hne happly hpatch (forall_mem_nil _) rfl
        | none =>
          obtain ⟨_, t7, rfl, h4⟩ := runs_call.1 h3
          obtain ⟨rfl, rfl⟩ := runs_ret.1 h4
          exact .writes hdiscover hne happly hpatch (forall_mem_singleton.2 trivial) rfl

/-- **A run** only looks, or writes after the first loop, or annotates after the second. -/
theorem applyRedisRuntime_run (h : (applyRedisRuntime F factory cr pods hash sec).Runs t out) :
    RuntimeRun F cr pods hash sec t out := by
  obtain ⟨res, pods'⟩ := out
  rcases applyRedisRuntime_checks h with ⟨rfl, hpods, -⟩ | ⟨hchecked, halign⟩
  · cases hpods
    exact .looks (forall_mem_nil _)
  · cases align_run halign with
    | stops hdiscover =>
      exact .looks (Asks.mem (Issues.forErr _ fun p _ s => discoverPod_asks s p) hdiscover)
    | @inSync t1 t2 d _ _ _ hdiscover hempty hpatch _ =>
      obtain ⟨hdiscovered, hlooks⟩ := discoverPods_run hdiscover
      have hnone : ∀ name, d.perPodChanges.lookup name = none := by simp [hempty]
      have hwritten : Written d.perPodChanges pods [] :=
        ⟨by simp [hnone], by simp [hnone], by simp⟩
      have hsplit : t1 ++ t2 = t1 ++ ([] ++ (t2 ++ [])) := by simp
      rw [hsplit]
      exact .annotates hchecked.ready hlooks hdiscovered (forall_mem_nil _) hwritten hpatch
        (forall_mem_nil _)
    | fails hdiscover _ happly =>
      obtain ⟨hdiscovered, hlooks⟩ := discoverPods_run hdiscover
      exact .stops hchecked.ready hlooks hdiscovered ((applyPods_asks _ pods).mem happly)
    | writes hdiscover _ happly hpatch hannounces _ =>
      obtain ⟨hdiscovered, hlooks⟩ := discoverPods_run hdiscover
      have hwritten := applyPods_run (fun name m hm => (hdiscovered.changed name m hm).1) happly
      exact .annotates hchecked.ready hlooks hdiscovered ((applyPods_asks _ pods).mem happly)
        hwritten hpatch hannounces

/-! ## All or nothing -/

/-- The pods may be changed: they are ready, their parameters have been read, and those that differ
can be set at run time. -/
structure MayChange (F : Formats) (desired : Map String) (pods : List Pod) (t : Trace) :
    Prop where
  ready : ∀ p ∈ pods, isPodReady p
  known : ∀ p ∈ pods, ∀ key ∈ desired, ∃ current, read p.name key current ∈ t
  allowed : ∀ p ∈ pods, ∀ key ∈ desired, ∀ current, read p.name key current ∈ t →
    Differs F desired key current → key ∈ redisRuntimeAllow

/-- Every parameter of the pod has been read and has the desired value. -/
def Matched (F : Formats) (desired : Map String) (pod : String) (t : Trace) : Prop :=
  ∀ key ∈ desired, ∃ current, read pod key current ∈ t ∧ ¬ Differs F desired key current

/-- Every parameter of the pod has been read, those that differ were set, and the file was
written. -/
structure Updated (F : Formats) (desired : Map String) (pod : String) (t : Trace) :
    Prop where
  values : ∀ key ∈ desired, ∃ current, read pod key current ∈ t ∧
    (Differs F desired key current → wrote pod key (desiredRaw desired key) ∈ t)
  succeeded : ∀ key v r, ⟨.configSet pod key v, r⟩ ∈ t → r = .ok ()
  file : rewrote pod ∈ t

section
variable {changes : Map (Map String)}

theorem Discovered.mayChange (h : Discovered F desired pods t changes)
    (hready : ∀ p ∈ pods, isPodReady p) (hsub : ∀ e ∈ t, e ∈ t1)
    (hreads : ∀ p key current, read p key current ∈ t1 → read p key current ∈ t) :
    MayChange F desired pods t1 := by
  refine ⟨hready, fun p hp key hkey => ?_, fun p _ key _ current hread hdiffers =>
    h.allowed p.name key current (hreads _ _ _ hread) hdiffers⟩
  cases hm : changes.lookup p.name with
  | none =>
    obtain ⟨c, hread, -⟩ := h.matched p hp hm key hkey
    exact ⟨c, hsub _ hread⟩
  | some m =>
    obtain ⟨c, hread, -⟩ := h.found p.name m hm key hkey
    exact ⟨c, hsub _ hread⟩

theorem Discovered.inSync (h : Discovered F desired pods t changes)
    (hwritten : Written changes pods t2) (hp : p ∈ pods) (hsub : ∀ e ∈ t ++ t2, e ∈ t1)
    (hsets : ∀ q key v r, ⟨.configSet q key v, r⟩ ∈ t1 → ⟨.configSet q key v, r⟩ ∈ t2) :
    Matched F desired p.name t1 ∨ Updated F desired p.name t1 := by
  cases hm : changes.lookup p.name with
  | none =>
    refine .inl fun key hkey => ?_
    obtain ⟨c, hread, hsame⟩ := h.matched p hp hm key hkey
    exact ⟨c, hsub _ (mem_append_left _ hread), hsame⟩
  | some m =>
    refine .inr ⟨fun key hkey => ?_, fun key v r hmem => ?_, ?_⟩
    · obtain ⟨c, hread, hset⟩ := h.found p.name m hm key hkey
      refine ⟨c, hsub _ (mem_append_left _ hread), fun hdiffers => ?_⟩
      exact hsub _ (mem_append_right _ (hwritten.values p hp m hm key _ (hset hdiffers)))
    · exact hwritten.succeeded p.name key v r (hsets _ _ _ _ hmem)
    · refine hsub _ (mem_append_right _ (hwritten.file p hp ?_))
      rw [hm]
      rfl

end

/-- The request reads no parameter. -/
def NoRead : Req → Prop
  | .configGet .. => False
  | _ => True

/-- The request sets no parameter. -/
def NoSet : Req → Prop
  | .configSet .. => False
  | _ => True

theorem Looks.noSet {q : Req} (h : Looks q) : NoSet q := by
  cases q <;> trivial

theorem Writes.noRead {changes : Map (Map String)} {q : Req} (h : Writes changes q) : NoRead q := by
  cases q <;> trivial

theorem Annotates.apart {q : Req} (h : Annotates hash pods q) : NoRead q ∧ NoSet q := by
  cases q <;> first | exact ⟨trivial, trivial⟩ | exact h.elim

theorem Announces.apart {q : Req} (h : Announces q) : NoRead q ∧ NoSet q := by
  cases q <;> first | exact ⟨trivial, trivial⟩ | exact h.elim

section
variable {u1 u2 : Trace} {e : Event Op}

/-- **What comes before a write**: everything has been read. -/
theorem RuntimeRun.mayChange (h : RuntimeRun F cr pods hash sec t out) (ht : t = u1 ++ e :: u2)
    (he : ¬ Looks e.req) : MayChange F (effectiveRedisConfig cr sec) pods u1 := by
  -- a run that goes beyond the first loop
  have hbeyond : ∀ {t1 t2 : Trace} {changes : Map (Map String)}, t = t1 ++ t2 →
      (∀ p ∈ pods, isPodReady p) → (∀ e ∈ t1, Looks e.req) →
      Discovered F (effectiveRedisConfig cr sec) pods t1 changes →
      (∀ e ∈ t2, NoRead e.req) → MayChange F (effectiveRedisConfig cr sec) pods u1 := by
    intro t1 t2 changes hsplit hready hlooks hdiscovered hrest
    have hpre : t1 <+: u1 := prefix_of_split (P := fun e => ¬ Looks e.req)
      (hsplit.symm.trans ht) he fun e he => not_not.2 (hlooks e he)
    refine hdiscovered.mayChange hready (fun e he => hpre.subset he) fun p key current hread => ?_
    have hmem : read p key current ∈ t1 ++ t2 := by
      rw [← hsplit, ht]
      exact mem_append_left _ hread
    exact (mem_append.1 hmem).resolve_right fun hmem => hrest _ hmem
  cases h with
  | looks hlooks => exact absurd (hlooks e (by simp [ht])) he
  | stops hready hlooks hdiscovered hwrites =>
    exact hbeyond rfl hready hlooks hdiscovered fun e he => (hwrites e he).noRead
  | annotates hready hlooks hdiscovered hwrites _ hpatch hannounce =>
    refine hbeyond rfl hready hlooks hdiscovered ?_
    have hpatches := (patchConfigHashAnnotations_asks hash pods).mem hpatch
    exact forall_mem_append.2 ⟨fun e he => (hwrites e he).noRead,
      forall_mem_append.2 ⟨fun e he => (hpatches e he).apart.1,
        fun e he => (hannounce e he).apart.1⟩⟩

/-- **What comes before an annotation**: each pod is in sync. -/
theorem RuntimeRun.inSync {ns name : String} {annotations : Map String}
    {r : Result Unit} (h : RuntimeRun F cr pods hash sec t out)
    (ht : t = u1 ++ ⟨.patchPodAnnotations ns name annotations, r⟩ :: u2) (hp : p ∈ pods) :
    Matched F (effectiveRedisConfig cr sec) p.name u1 ∨
      Updated F (effectiveRedisConfig cr sec) p.name u1 := by
  have hmem : ⟨.patchPodAnnotations ns name annotations, r⟩ ∈ t := by simp [ht]
  cases h with
  | looks hlooks => exact (hlooks _ hmem).elim
  | stops _ hlooks _ hwrites =>
    rcases mem_append.1 hmem with hmem | hmem
    · exact (hlooks _ hmem).elim
    · exact (hwrites _ hmem).elim
  | @annotates t1 t2 t3 t4 changes _ _ _ _ hlooks hdiscovered hwrites hwritten hpatch hannounce =>
    have hpatches := (patchConfigHashAnnotations_asks hash pods).mem hpatch
    have hbefore : ∀ e ∈ t1 ++ t2, Looks e.req ∨ Writes changes e.req :=
      forall_mem_append.2 ⟨fun e he => .inl (hlooks e he), fun e he => .inr (hwrites e he)⟩
    have hpre : t1 ++ t2 <+: u1 := by
      refine prefix_of_split (P := fun e => ¬ (Looks e.req ∨ Writes changes e.req))
        ((append_assoc t1 t2 _).trans ht) ?_ fun e he => not_not.2 (hbefore e he)
      rintro (h | h) <;> exact h
    refine hdiscovered.inSync hwritten hp (fun e he => hpre.subset he) fun q key v r hset => ?_
    have hset : ⟨.configSet q key v, r⟩ ∈ t1 ++ (t2 ++ (t3 ++ t4)) := by
      rw [ht]
      exact mem_append_left _ hset
    rcases mem_append.1 hset with hset | hset
    · exact (hlooks _ hset).noSet.elim
    rcases mem_append.1 hset with hset | hset
    · exact hset
    rcases mem_append.1 hset with hset | hset
    · exact (hpatches _ hset).apart.2.elim
    · exact (hannounce _ hset).apart.2.elim

end

/-- **All or nothing**: a parameter is set only when every pod is ready and every parameter that
differs in some pod can be set at run time; a pod is annotated only when each pod had the desired
values, or all its parameters were set and its file was written. -/
theorem applyRedisRuntime_allOrNothing {F : Formats} {factory : Bool} {cr : KeyValCluster}
    {pods : List Pod} {hash : String} {sec : Settings} {t : Trace}
    {out : RuntimeResult × List Pod}
    (h : (applyRedisRuntime F factory cr pods hash sec).Runs t out) :
    (∀ u1 pod key v r u2, t = u1 ++ ⟨.configSet pod key v, r⟩ :: u2 →
      MayChange F (effectiveRedisConfig cr sec) pods u1) ∧
    (∀ u1 ns name annotations r u2,
      t = u1 ++ ⟨.patchPodAnnotations ns name annotations, r⟩ :: u2 → ∀ p ∈ pods,
        Matched F (effectiveRedisConfig cr sec) p.name u1 ∨
          Updated F (effectiveRedisConfig cr sec) p.name u1) := by
  have hrun := applyRedisRuntime_run h
  refine ⟨?_, ?_⟩
  · intro u1 pod key v r u2 ht
    exact hrun.mayChange ht id
  · intro u1 ns name annotations r u2 ht p hp
    exact hrun.inSync ht hp

/-- The cluster `a` with this configuration. -/
def configuredA (redisConfig : Map String) : KeyValCluster :=
  { clusterA with spec := { clusterA.spec with redisConfig } }

/-- The cluster with a memory limit. -/
def limitedA : KeyValCluster := configuredA ((∅ : Map String).insert "maxmemory" "100mb")

/-- Two of its pods. -/
def podsA : List Pod := ["a-0", "a-1"].map readyPod

/-- The parameters of a started pod. -/
def valueA (key : String) : String :=
  if key = "port" then "6379" else if key = "dir" then "/data" else if key = "appendonly" then "yes"
  else if key = "maxmemory" then "0" else ""

/-- The pods answer with them. -/
def answerA : Replies
  | .redisForPod _ => .ok ()
  | .configGet _ key => .ok (some (valueA key))
  | .configSet .. => .ok ()
  | .configRewrite _ => .ok ()
  | .patchPodAnnotations .. => .ok ()
  | q => q.unavailable

/-- A memory limit is set on two pods. -/
theorem applyRedisRuntime_allOrNothing_maxmemory : ∃ t out,
    (applyRedisRuntime .decimal true limitedA podsA "h" {}).Runs t out ∧ out.1.mode = .applied ∧
    (∀ u1 pod key v r u2, t = u1 ++ ⟨.configSet pod key v, r⟩ :: u2 →
      MayChange .decimal (effectiveRedisConfig limitedA {}) podsA u1) := by
  have hrun := runs_answer answerA (applyRedisRuntime .decimal true limitedA podsA "h" {})
  exact ⟨_, _, hrun, by decide +kernel, (applyRedisRuntime_allOrNothing hrun).1⟩

/-! ## The request of the Runtime phase -/

theorem annotateConfigHash_nil (hash : String) (pods : List Pod) :
    Phases.annotateConfigHash hash [] pods = pods := by
  simp [Phases.annotateConfigHash]

theorem patchPods_annotateConfigHash {pods pods' : List Pod} {t : Trace}
    {err : Option Error} (hnodup : (pods.map (·.name)).Nodup)
    (h : (patchPods hash pods).Runs t (pods', err)) :
    ∃ names, (∀ name ∈ names, name ∈ pods.map (·.name)) ∧
      pods' = Phases.annotateConfigHash hash names pods := by
  induction pods generalizing t pods' err with
  | nil =>
    obtain ⟨-, heq⟩ := runs_ret.1 h
    cases heq
    exact ⟨[], by simp, rfl⟩
  | cons p pods ih =>
    rw [map_cons, nodup_cons] at hnodup
    -- the other pods have other names
    have hrest : ∀ names, Phases.annotateConfigHash hash (p.name :: names) pods =
        Phases.annotateConfigHash hash names pods := by
      intro names
      refine map_congr_left fun q hq => ?_
      have hne : q.name ≠ p.name := fun heq => hnodup.1 (mem_map.2 ⟨q, hq, heq⟩)
      simp [hne]
    have hself : ∀ names, Phases.annotateConfigHash hash (p.name :: names) (p :: pods) =
        annotated hash p :: Phases.annotateConfigHash hash names pods := by
      intro names
      rw [← hrest names]
      simp [Phases.annotateConfigHash, annotated, Phases.configHashAnnotationKey,
        configHashAnnotationKey]
    have hskip : ∀ names : List String, (∀ name ∈ names, name ∈ pods.map (·.name)) →
        Phases.annotateConfigHash hash names (p :: pods) =
          p :: Phases.annotateConfigHash hash names pods := by
      intro names hnames
      have hnot : p.name ∉ names := fun hmem => hnodup.1 (hnames _ hmem)
      simp [Phases.annotateConfigHash, hnot]
    have hmono : ∀ names : List String, (∀ name ∈ names, name ∈ pods.map (·.name)) →
        ∀ name ∈ names, name ∈ (p :: pods).map (·.name) := fun names hnames name hname =>
      .tail _ (hnames name hname)
    unfold patchPods at h
    split at h
    · obtain ⟨t1, ⟨rest, err1⟩, t2, rfl, h1, h2⟩ := runs_bind.1 h
      obtain ⟨-, heq⟩ := runs_ret.1 h2
      cases heq
      obtain ⟨names, hnames, rfl⟩ := ih hnodup.2 h1
      exact ⟨names, hmono names hnames, (hskip names hnames).symm⟩
    · obtain ⟨r, t1, rfl, h1⟩ := runs_asked.1 h
      cases r with
      | error e =>
        obtain ⟨-, heq⟩ := runs_ret.1 h1
        cases heq
        split
        · exact ⟨[], by simp, (annotateConfigHash_nil hash _).symm⟩
        · exact ⟨[p.name], by simp, by rw [hself, annotateConfigHash_nil]⟩
      | ok _ =>
        obtain ⟨t2, ⟨rest, err1⟩, t3, rfl, h2, h3⟩ := runs_bind.1 h1
        obtain ⟨-, heq⟩ := runs_ret.1 h3
        cases heq
        obtain ⟨names, hnames, rfl⟩ := ih hnodup.2 h2
        refine ⟨p.name :: names, ?_, (hself names).symm⟩
        exact forall_mem_cons.2 ⟨by simp, hmono names hnames⟩

/-- **The request of the Runtime phase** stands for the call: its reply has the delay and the names
of the pods that are listed with the annotation afterwards. -/
theorem applyRedisRuntime_refines (hnodup : (pods.map (·.name)).Nodup) :
    Refines (fun out rep => out.1.requeueAfter = rep.1 ∧
      out.2 = Phases.annotateConfigHash hash rep.2 pods)
      (applyRedisRuntime F factory cr pods hash sec) (ask (.applyRedisRuntime hash)) := by
  intro t out h
  have hnames : ∃ names, out.2 = Phases.annotateConfigHash hash names pods := by
    cases applyRedisRuntime_run h with
    | looks _ => exact ⟨[], (annotateConfigHash_nil hash pods).symm⟩
    | stops _ _ _ _ => exact ⟨[], (annotateConfigHash_nil hash pods).symm⟩
    | annotates _ _ _ _ _ hpatch _ =>
      unfold patchConfigHashAnnotations at hpatch
      split at hpatch
      · obtain ⟨-, heq⟩ := runs_ret.1 hpatch
        cases heq
        exact ⟨[], (annotateConfigHash_nil hash pods).symm⟩
      · obtain ⟨names, -, heq⟩ := patchPods_annotateConfigHash hnodup hpatch
        exact ⟨names, heq⟩
  obtain ⟨names, hnames⟩ := hnames
  exact ⟨_, (out.1.requeueAfter, names), runs_call.2 ⟨_, [], rfl, .ret _⟩, rfl, hnames⟩

end

end Keyval.RuntimeConfig
