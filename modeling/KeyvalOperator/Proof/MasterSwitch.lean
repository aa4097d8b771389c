import KeyvalOperator.Proof.Pass

/-!
# Switching the master

Does `ensureWithMaster` always leave some pod a master? It works through the pods in name order
and trusts that the designated master is one when its `INFO` fails.

* `blind`: an environment in which `INFO` fails and everything else succeeds; there the pass makes
  every other pod a replica and leaves the designated master as it is (`after_blind`).
* `masterKept_iff`: some pod stays a master exactly when the designated master is one at the start.
-/

namespace Keyval.Replication

open Go Interact Interact.Prog List

/-- In every run of `ensureWithMaster`, before and after every command, some pod is a master. -/
def MasterKept (cr : KeyValCluster) (pods : List Pod) (m : String) (opts : EnsureOptions)
    (g : Graph) : Prop :=
  ∀ t r, (ensureWithMaster cr pods m opts).Runs t r → redisWorld.Admits g t →
    ∀ t', t' <+: t → ∃ p ∈ pods, redisWorld.after g t' p.name = .master

/-! ## The designated master -/

theorem designated_empty_le {pods : List Pod} {p : Pod} (hp : p ∈ pods) :
    designated pods "" ≤ p.name := by
  have htotal : Std.Total fun p q : Pod => p.name ≤ q.name := ⟨fun p q => String.le_total _ _⟩
  have htrans : IsTrans Pod fun p q => p.name ≤ q.name := ⟨fun _ _ _ => String.le_trans⟩
  have hsorted : (sortedPodsByName pods).Pairwise fun p q => p.name ≤ q.name :=
    pairwise_insertionSort _ pods
  have hp' := (sortedPodsByName_perm pods).mem_iff.2 hp
  unfold designated
  rw [if_pos rfl]
  cases hs : sortedPodsByName pods with
  | nil => rw [hs] at hp'; cases hp'
  | cons q rest =>
    rw [hs] at hp' hsorted
    rcases mem_cons.1 hp' with rfl | hp'
    · exact String.le_refl _
    · exact (pairwise_cons.1 hsorted).1 p hp'

theorem designated_of_mem {pods : List Pod} {m : String} (hm : ∃ p ∈ pods, p.name = m) :
    designated pods m = m := by
  by_cases h : m = ""
  · obtain ⟨p, hp, rfl⟩ := hm
    have hle := designated_empty_le hp
    rw [h] at hle ⊢
    refine String.le_antisymm hle ?_
    rw [← String.not_lt, String.lt_iff]
    exact not_lt_nil _
  · exact if_neg h

/-! ## The master is spared -/

/-- The request is no `REPLICAOF` on the pod `m`. -/
def Spares (m : String) : Req → Prop
  | .replicaOf p _ _ => p ≠ m
  | _ => True

theorem ensureWithMaster_spares {cr : KeyValCluster} {pods : List Pod} {m : String}
    {opts : EnsureOptions} (hm : ∃ p ∈ pods, p.name = m) :
    Asks (Spares m) (ensureWithMaster cr pods m opts) := by
  unfold ensureWithMaster
  split
  · exact .ret _
  · rw [designated_of_mem hm]
    exact Issues.forErr _ fun p _ res => ensurePod_asks cr pods opts m res p trivial trivial
      trivial (fun _ => trivial) trivial (fun _ => trivial) id

theorem step_spares {g : Graph} {m : String} {e : Event Op} (h : Spares m e.req)
    (hg : g m = .master) : redisWorld.step g e m = .master := by
  obtain ⟨q, r⟩ := e
  cases q with
  | noOne p =>
    cases r with
    | error e => exact hg
    | ok u =>
      show Function.update g p RedisState.master m = .master
      by_cases hp : m = p
      · rw [hp, Function.update_self]
      · rw [Function.update_of_ne hp, hg]
  | replicaOf p host port =>
    cases r with
    | error e => exact hg
    | ok u => exact (Function.update_of_ne (Ne.symm h) _ _).trans hg
  | _ => exact hg

/-! ## INFO fails everywhere -/

/-- Only commands succeed. -/
def blind (_ : Graph) : Replies
  | .redisForPod _ => .ok ()
  | .auth .. => .ok ()
  | .replicaOf .. => .ok ()
  | .noOne _ => .ok ()
  | q => q.unavailable

theorem blind_ok (g : Graph) (q : Req) : redisWorld.ok g ⟨q, blind g q⟩ := by
  cases q <;> trivial

theorem play_maybeAuth_blind (g : Graph) (pod : String) (opts : EnsureOptions) :
    (redisWorld.play blind g (maybeAuth pod opts)).2 = .ok () ∧
      redisWorld.after g (redisWorld.play blind g (maybeAuth pod opts)).1 = g := by
  refine ⟨?_, after_quiet g ((maybeAuth_asks pod opts trivial fun _ => trivial).mem
    (World.runs_play g _))⟩
  unfold maybeAuth
  split_ifs <;> rfl

section
variable (cr : KeyValCluster) (pods : List Pod) (opts : EnsureOptions) (m : String)

/-- The loop body with a failing `INFO`: the designated master is left alone, every other pod
becomes a replica. -/
theorem play_ensurePod_blind (g : Graph) (res : EnsureResult) (p : Pod) :
    (redisWorld.play blind g (ensurePod cr pods opts m res p)).2.2 = none ∧
      redisWorld.after g (redisWorld.play blind g (ensurePod cr pods opts m res p)).1 =
        if p.name = m then g
        else Function.update g p.name (.replica (masterHost cr pods m) (redisPort cr)) := by
  obtain ⟨hauth, hg⟩ := play_maybeAuth_blind g p.name opts
  have hfor : redisWorld.step g ⟨.redisForPod p.name, .ok ()⟩ = g := rfl
  unfold ensurePod
  simp only [bind_eq, pure_eq, ask_eq, call_bind, ret_bind, World.play_call, World.play_bind,
    blind, hfor, hauth, hg, World.after_cons, World.after_append]
  by_cases hm : p.name = m
  · simp only [if_pos hm]
    exact ⟨rfl, rfl⟩
  · simp only [if_neg hm]
    exact ⟨rfl, rfl⟩

/-- **INFO fails everywhere**: the loop makes every pod but the designated master a replica. -/
theorem after_blind : ∀ (l : List Pod) (g : Graph) (res : EnsureResult),
    ∀ q, redisWorld.after g
        (redisWorld.play blind g (forErr (ensurePod cr pods opts m) l res)).1 q =
      if q ∈ l.map (·.name) ∧ q ≠ m then .replica (masterHost cr pods m) (redisPort cr) else g q
  | [], g, res, q => by
    rw [if_neg (fun h => not_mem_nil h.1)]
    rfl
  | p :: l, g, res, q => by
    obtain ⟨hnone, hafter⟩ := play_ensurePod_blind cr pods opts m g res p
    unfold forErr
    rw [World.play_bind]
    -- the loop goes on after `p`
    generalize hr : redisWorld.play blind g (ensurePod cr pods opts m res p) = r at *
    obtain ⟨t, res', err⟩ := r
    obtain rfl : err = none := hnone
    rw [World.after_append, hafter, after_blind l]
    by_cases hq : q ∈ l.map (·.name) ∧ q ≠ m
    · rw [if_pos hq, if_pos ⟨mem_cons_of_mem _ hq.1, hq.2⟩]
    · rw [if_neg hq]
      by_cases hp : p.name = m
      · rw [if_pos hp, if_neg]
        rintro ⟨hmem, hqm⟩
        rcases mem_cons.1 hmem with rfl | hmem
        · exact hqm hp
        · exact hq ⟨hmem, hqm⟩
      · rw [if_neg hp]
        by_cases hqp : q = p.name
        · rw [hqp, Function.update_self, if_pos ⟨mem_cons_self, hp⟩]
        · rw [Function.update_of_ne hqp, if_neg]
          rintro ⟨hmem, hqm⟩
          rcases mem_cons.1 hmem with rfl | hmem
          · exact hqp rfl
          · exact hq ⟨hmem, hqm⟩

/-! ## The result -/

variable {cr pods opts m}

/-- **Switching the master**: in every run, before and after every command, some pod is a master
exactly when the designated master is one at the start. -/
theorem masterKept_iff {g : Graph} (hm : ∃ p ∈ pods, p.name = m) :
    MasterKept cr pods m opts g ↔ g m = .master := by
  constructor
  · intro h
    by_contra hg
    -- in the blind environment no pod is left a master
    obtain ⟨p, hp, hmaster⟩ := h _ _ (World.runs_play (W := redisWorld) (r := blind) g _)
      (World.admits_play blind_ok g _) _ prefix_rfl
    have hpods : pods ≠ [] := ne_nil_of_mem hp
    unfold ensureWithMaster at hmaster
    rw [if_neg hpods, designated_of_mem hm, after_blind] at hmaster
    by_cases hpm : p.name = m
    · rw [if_neg (fun h => h.2 hpm), hpm] at hmaster
      exact hg hmaster
    · have hmem : p.name ∈ (sortedPodsByName pods).map (·.name) :=
        mem_map_of_mem ((sortedPodsByName_perm pods).mem_iff.2 hp)
      rw [if_pos ⟨hmem, hpm⟩] at hmaster
      cases hmaster
  · intro hg t r hr _ t' ht'
    obtain ⟨p, hp, rfl⟩ := hm
    refine ⟨p, hp, ?_⟩
    have hasks := (ensureWithMaster_spares ⟨p, hp, rfl⟩).mem hr
    exact redisWorld.after_inv (I := fun g => g p.name = .master) hg fun e he g hg =>
      step_spares (hasks e (ht'.subset he)) hg

end

/-- Two pods. -/
def podsA : List Pod :=
  [{ name := "a-0", ns := "prod", podIP := "10.0.0.1" },
   { name := "a-1", ns := "prod", podIP := "10.0.0.2" }]

/-- a-1 replicates a-0. -/
def graphA : Graph := fun pod => if pod = "a-0" then .master else .replica "10.0.0.1" 6379

theorem masterKept_a0 : MasterKept clusterA podsA "a-0" {} graphA :=
  (masterKept_iff ⟨_, mem_cons_self, rfl⟩).2 rfl

/-- Moving the master from `a-0` to `a-1`, with every pod reachable and truthful: `a-0` becomes a
replica before `a-1` is promoted. -/
theorem switch_to_a1_without_master : graphA "a-0" = .master ∧
    (∃ t r, (ensureWithMaster clusterA podsA "a-1" {}).Runs t r ∧ redisWorld.Admits graphA t ∧
      ∃ t', t' <+: t ∧ ∀ p ∈ podsA, redisWorld.after graphA t' p.name ≠ .master) ∧
    ¬ MasterKept clusterA podsA "a-1" {} graphA := by
  have hrun := World.runs_play (W := redisWorld) (r := healthy) graphA
    (ensureWithMaster clusterA podsA "a-1" {})
  have hadm := World.admits_play (W := redisWorld) healthy_ok graphA
    (ensureWithMaster clusterA podsA "a-1" {})
  -- the fourth event is `REPLICAOF` on `a-0`
  have hnone : ∀ p ∈ podsA, redisWorld.after graphA
      ((redisWorld.play healthy graphA (ensureWithMaster clusterA podsA "a-1" {})).1.take 4)
      p.name ≠ .master := by decide
  refine ⟨rfl, ⟨_, _, hrun, hadm, _, List.take_prefix 4 _, hnone⟩, fun h => ?_⟩
  obtain ⟨p, hp, hmaster⟩ := h _ _ hrun hadm _ (List.take_prefix 4 _)
  exact hnone p hp hmaster

end Keyval.Replication
