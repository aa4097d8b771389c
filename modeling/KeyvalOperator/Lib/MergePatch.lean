import KeyvalOperator.Lib.Go

/-!
# Merge patches

JSON merge patches (RFC 7386) of objects: a patch names members, each with a patch of its value or
with `null`, which removes the member. A patch is made from two versions of an object (`members`)
and applied to a third one (`mergeMembers`).

Objects are nested by `Kind.object`: `Kind.scalar` is the kind of values that are replaced as a
whole, `Kind.object k` the kind of objects whose members are of kind `k`.

* `mem_members`: the members that a patch names, each once (`members_nodup`).
* `lookup_merge_members`: every member of an object after a patch.
* `lookup_merge_scalars`: a patch of scalars leaves the members alone that did not change.
* `merge_members_scalars`: applied to the object that it was made from, a patch gives the other one.
* `lookup_merge_object`: a patch of objects patches the member.
-/

namespace MergePatch

open Go List

/-- Values of type `V` with patches of type `P`: the patch from a value, which may be missing, to
another one, if there is a difference, and the value after a patch. -/
structure Kind (V P : Type) where
  diff : Option V → V → Option P
  merge : Option V → P → V

/-- A value that is replaced as a whole. -/
def Kind.scalar {V : Type} [DecidableEq V] : Kind V V where
  diff a b := if a = some b then none else some b
  merge _ p := p

/-- The patch of an object; `none` is `null`. -/
abbrev ObjectPatch (P : Type) := List (String × Option P)

section
variable {V P : Type} (k : Kind V P)

/-- The patch from the object `a` to the object `b`. -/
def members (a b : Map V) : ObjectPatch P :=
  b.sortedKeys.filterMap (fun name =>
    ((b.lookup name).bind (k.diff (a.lookup name))).map fun p => (name, some p)) ++
  (a.sortedKeys.filter (· ∉ b)).map fun name => (name, none)

/-- Apply one member of a patch. -/
def mergeMember (target : Map V) (m : String × Option P) : Map V :=
  match m.2 with
  | none => target.erase m.1
  | some p => target.insert m.1 (k.merge (target.lookup m.1) p)

/-- Apply a patch. -/
def mergeMembers (target : Map V) (patch : ObjectPatch P) : Map V :=
  patch.foldl (mergeMember k) target

/-- An object. -/
def Kind.object : Kind (Map V) (ObjectPatch P) where
  diff a b :=
    let patch := members k (a.getD ∅) b
    if a.isSome ∧ patch = [] then none else some patch
  merge target patch := mergeMembers k (target.getD ∅) patch

end

section
variable {V P : Type} {k : Kind V P} {a b : Map V} {name : String}

theorem mem_members {q : Option P} :
    (name, q) ∈ members k a b ↔
      (∃ v p, b.lookup name = some v ∧ k.diff (a.lookup name) v = some p ∧ q = some p) ∨
        name ∈ a ∧ name ∉ b ∧ q = none := by
  simp only [members, mem_append, mem_filterMap, mem_map, mem_filter,
    Map.mem_sortedKeys, Option.map_eq_some_iff, Option.bind_eq_some_iff, decide_eq_true_eq]
  constructor
  · rintro (⟨n, -, p, ⟨v, hv, hp⟩, heq⟩ | ⟨n, ⟨ha, hb⟩, heq⟩)
    · obtain ⟨rfl, rfl⟩ := Prod.mk.inj heq
      exact .inl ⟨v, p, hv, hp, rfl⟩
    · obtain ⟨rfl, rfl⟩ := Prod.mk.inj heq
      exact .inr ⟨ha, hb, rfl⟩
  · rintro (⟨v, p, hv, hp, rfl⟩ | ⟨ha, hb, rfl⟩)
    · exact .inl ⟨name, Finmap.mem_of_lookup_eq_some hv, p, ⟨v, hv, hp⟩, rfl⟩
    · exact .inr ⟨name, ⟨ha, hb⟩, rfl⟩

theorem lookup_mergeMember_ne {target : Map V} {m : String × Option P} (h : name ≠ m.1) :
    (mergeMember k target m).lookup name = target.lookup name := by
  unfold mergeMember
  split
  · exact Finmap.lookup_erase_ne h
  · exact Finmap.lookup_insert_of_ne _ h

theorem lookup_mergeMembers_of_notMem {target : Map V} {patch : ObjectPatch P}
    (h : ∀ q, (name, q) ∉ patch) :
    (mergeMembers k target patch).lookup name = target.lookup name := by
  induction patch generalizing target with
  | nil => rfl
  | cons m patch ih =>
    have hne : name ≠ m.1 := by
      rintro rfl
      exact h m.2 (.head _)
    rw [mergeMembers, foldl_cons, ← mergeMembers, ih fun q hq => h q (.tail _ hq),
      lookup_mergeMember_ne hne]

theorem lookup_mergeMembers_of_mem {target : Map V} {patch : ObjectPatch P} {q : Option P}
    (hnodup : (patch.map (·.1)).Nodup) (h : (name, q) ∈ patch) :
    (mergeMembers k target patch).lookup name =
      q.map fun p => k.merge (target.lookup name) p := by
  induction patch generalizing target with
  | nil => cases h
  | cons m patch ih =>
    rw [map_cons, nodup_cons] at hnodup
    rw [mergeMembers, foldl_cons, ← mergeMembers]
    rcases mem_cons.1 h with rfl | h
    · have hrest (q : Option P) : (name, q) ∉ patch := fun hq =>
        hnodup.1 (mem_map.2 ⟨_, hq, rfl⟩)
      rw [lookup_mergeMembers_of_notMem hrest]
      cases q with
      | none => exact Finmap.lookup_erase _ _
      | some p => exact Finmap.lookup_insert _
    · have hne : name ≠ m.1 := by
        rintro rfl
        exact hnodup.1 (mem_map.2 ⟨_, h, rfl⟩)
      rw [ih hnodup.2 h, lookup_mergeMember_ne hne]

theorem members_nodup (k : Kind V P) (a b : Map V) : ((members k a b).map (·.1)).Nodup := by
  have hset : ((b.sortedKeys.filterMap fun name =>
      ((b.lookup name).bind (k.diff (a.lookup name))).map fun p => (name, some p)).map
        (·.1)).Nodup := by
    rw [map_filterMap]
    refine b.nodup_sortedKeys.filterMap fun name name' m h h' => ?_
    simp only [Option.map_map, Option.mem_def, Option.map_eq_some_iff, Function.comp_def] at h h'
    obtain ⟨-, -, rfl⟩ := h
    obtain ⟨-, -, rfl⟩ := h'
    rfl
  rw [members, map_append, map_map]
  refine hset.append ?_ ?_
  · simpa [Function.comp_def] using a.nodup_sortedKeys.filter _
  · intro name h1 h2
    obtain ⟨m, hm, rfl⟩ := mem_map.1 h1
    obtain ⟨name, hname, hset⟩ := mem_filterMap.1 hm
    obtain ⟨p, -, rfl⟩ := Option.map_eq_some_iff.1 hset
    simp only [Function.comp_def, map_id', mem_filter, Map.mem_sortedKeys,
      decide_eq_true_eq] at h2 hname
    exact h2.2 hname

/-- An object after the patch from `a` to `b`: what both lack is kept, what `b` lacks is removed,
and what `b` has is merged where it differs. -/
theorem lookup_merge_members (k : Kind V P) (target a b : Map V) (name : String) :
    (mergeMembers k target (members k a b)).lookup name =
      match b.lookup name with
      | none => if name ∈ a then none else target.lookup name
      | some v =>
        match k.diff (a.lookup name) v with
        | none => target.lookup name
        | some p => some (k.merge (target.lookup name) p) := by
  cases hb : b.lookup name with
  | none =>
    have hb' : name ∉ b := Finmap.lookup_eq_none.1 hb
    by_cases ha : name ∈ a
    · have hmem : (name, none) ∈ members k a b := mem_members.2 (.inr ⟨ha, hb', rfl⟩)
      simp only [if_pos ha]
      exact lookup_mergeMembers_of_mem (members_nodup k a b) hmem
    · simp only [if_neg ha]
      refine lookup_mergeMembers_of_notMem fun q hq => ?_
      rcases mem_members.1 hq with ⟨v, p, hv, -⟩ | ⟨ha', -⟩
      · rw [hb] at hv
        cases hv
      · exact ha ha'
  | some v =>
    cases hdiff : k.diff (a.lookup name) v with
    | none =>
      simp only [hdiff]
      refine lookup_mergeMembers_of_notMem fun q hq => ?_
      rcases mem_members.1 hq with ⟨v', p, hv, hp, -⟩ | ⟨-, hb', -⟩
      · obtain rfl := Option.some.inj (hb.symm.trans hv)
        rw [hdiff] at hp
        cases hp
      · exact hb' (Finmap.mem_of_lookup_eq_some hb)
    | some p =>
      have hmem : (name, some p) ∈ members k a b := mem_members.2 (.inl ⟨v, p, hb, hdiff, rfl⟩)
      simp only [hdiff]
      exact lookup_mergeMembers_of_mem (members_nodup k a b) hmem

theorem lookup_merge_scalars [DecidableEq V] {target a b : Map V}
    (h : a.lookup name = b.lookup name) :
    (mergeMembers .scalar target (members .scalar a b)).lookup name = target.lookup name := by
  rw [lookup_merge_members]
  cases hb : b.lookup name with
  | none =>
    have ha : name ∉ a := Finmap.lookup_eq_none.1 (h.trans hb)
    simp only [if_neg ha]
  | some v =>
    have hdiff : (Kind.scalar : Kind V V).diff (a.lookup name) v = none := if_pos (h.trans hb)
    simp only [hdiff]

/-- The patch from one object of scalars to another turns the first into the second. -/
theorem merge_members_scalars [DecidableEq V] (a b : Map V) :
    mergeMembers .scalar a (members .scalar a b) = b := by
  refine Finmap.ext_lookup fun name => ?_
  by_cases hsame : a.lookup name = b.lookup name
  · rw [lookup_merge_scalars hsame, hsame]
  · rw [lookup_merge_members]
    cases hb : b.lookup name with
    | none =>
      have ha : name ∈ a := by
        by_contra hmem
        exact hsame ((Finmap.lookup_eq_none.2 hmem).trans hb.symm)
      exact if_pos ha
    | some v =>
      have hdiff : (Kind.scalar : Kind V V).diff (a.lookup name) v = some v :=
        if_neg fun heq => hsame (heq.trans hb.symm)
      simp only [hdiff]
      rfl

theorem lookup_merge_object {target a b : Map (Map V)} {v : Map V} (hb : b.lookup name = some v) :
    ((mergeMembers (.object k) target (members (.object k) a b)).lookup name).getD ∅ =
      mergeMembers k ((target.lookup name).getD ∅) (members k ((a.lookup name).getD ∅) v) := by
  rw [lookup_merge_members, hb]
  by_cases hsame : (a.lookup name).isSome ∧ members k ((a.lookup name).getD ∅) v = []
  · have hdiff : (Kind.object k).diff (a.lookup name) v = none := if_pos hsame
    simp only [hdiff, hsame.2]
    rfl
  · have hdiff : (Kind.object k).diff (a.lookup name) v =
        some (members k ((a.lookup name).getD ∅) v) := if_neg hsame
    simp only [hdiff]
    rfl

end

end MergePatch
