import KeyvalOperator.Ops.Update

/-!
# Comparison of resource requirements

The planner compares quantities with two loops over Go maps, whose order is not fixed and which are
not alike: the first looks every entry up in the other list, the second only at the entries that the
first could not see.

* `resourceListEqualIn_iff`: the loops find two lists equal, in whatever order they visit them,
  exactly when every resource has the same amount in both.
* `eqResourceRequirements_equivalence`: the comparison is an equivalence.
-/

namespace Keyval.Update

open Go List

variable {l : List (String × Quantity)} {a b : ResourceRequirements}

/-- The amount of a resource, or 0. -/
def amountOf (x : Map Quantity) (k : String) : Int := ((x.lookup k).map Quantity.amount).getD 0

/-- The lists have equal amounts. -/
def SameAmounts (x y : Map Quantity) : Prop := ∀ k, amountOf x k = amountOf y k

section
variable {x y : Map Quantity} {k : String}

theorem amountOf_of_lookup {q : Quantity} (h : x.lookup k = some q) : amountOf x k = q.amount := by
  rw [amountOf, h]
  rfl

theorem amountOf_of_notMem (h : k ∉ x) : amountOf x k = 0 := by
  rw [amountOf, Finmap.lookup_eq_none.2 h]
  rfl

theorem sameAmounts_iff :
    SameAmounts x y ↔ (∀ k (q : Quantity), x.lookup k = some q → q.amount = amountOf y k) ∧
      ∀ k (q : Quantity), y.lookup k = some q → k ∈ x ∨ q.amount = 0 := by
  constructor
  · intro h
    refine ⟨fun k q hq => ?_, fun k q hq => ?_⟩
    · rw [← amountOf_of_lookup hq, h k]
    · by_cases hk : k ∈ x
      · exact .inl hk
      · right
        rw [← amountOf_of_lookup hq, ← h k, amountOf_of_notMem hk]
  · intro ⟨hfirst, hsecond⟩ k
    cases hx : x.lookup k with
    | some q => rw [amountOf_of_lookup hx, hfirst k q hx]
    | none =>
      have hk : k ∉ x := Finmap.lookup_eq_none.1 hx
      rw [amountOf_of_notMem hk]
      cases hy : y.lookup k with
      | none => rw [amountOf_of_notMem (Finmap.lookup_eq_none.1 hy)]
      | some q => rw [amountOf_of_lookup hy, (hsecond k q hy).resolve_left hk]

theorem resourceListEqual_iff : resourceListEqual x y = true ↔ SameAmounts x y := by
  simp [sameAmounts_iff, resourceListEqual, Map.all_iff, amountOf]

@[simp] theorem resourceListEqual_self (x : Map Quantity) : resourceListEqual x x = true :=
  resourceListEqual_iff.2 fun _ => rfl

theorem cmpQuantity_eq_zero {a b : Quantity} : cmpQuantity a b = 0 ↔ a.amount = b.amount := by
  unfold cmpQuantity
  split
  · simp; omega
  · split
    · simp; omega
    · simp; omega

/-! ## The loops -/

theorem rangeFirst_iff :
    rangeFirst y l = true ↔ ∀ k q, (k, q) ∈ l → q.amount = amountOf y k := by
  induction l with
  | nil => simp [rangeFirst]
  | cons e l ih =>
    obtain ⟨k, q⟩ := e
    have hcons : (∀ k' q', (k', q') ∈ (k, q) :: l → q'.amount = amountOf y k') ↔
        q.amount = amountOf y k ∧ ∀ k' q', (k', q') ∈ l → q'.amount = amountOf y k' := by
      simp only [mem_cons, Prod.mk.injEq]
      grind
    rw [hcons, rangeFirst, ← ih]
    cases hy : y.lookup k with
    | none =>
      rw [amountOf_of_notMem (Finmap.lookup_eq_none.1 hy)]
      simp [isZeroQuantity]
    | some qy =>
      rw [amountOf_of_lookup hy, ← cmpQuantity_eq_zero]
      simp

theorem rangeSecond_iff :
    rangeSecond x l = true ↔ ∀ k q, (k, q) ∈ l → k ∈ x ∨ q.amount = 0 := by
  induction l with
  | nil => simp [rangeSecond]
  | cons e l ih =>
    obtain ⟨k, q⟩ := e
    have hcons : (∀ k' q', (k', q') ∈ (k, q) :: l → k' ∈ x ∨ q'.amount = 0) ↔
        (k ∈ x ∨ q.amount = 0) ∧ ∀ k' q', (k', q') ∈ l → k' ∈ x ∨ q'.amount = 0 := by
      simp only [mem_cons, Prod.mk.injEq]
      grind
    rw [hcons, rangeSecond, ← ih]
    by_cases hk : k ∈ x
    · simp [hk]
    · simp [hk, isZeroQuantity]

/-- **The loops compare amounts**, in every order. -/
theorem resourceListEqualIn_iff (ox : Map.Order x) (oy : Map.Order y) :
    resourceListEqualIn ox oy = true ↔ SameAmounts x y := by
  have hloops : (rangeFirst y ox.entries && rangeSecond x oy.entries) = true ↔
      SameAmounts x y := by
    rw [Bool.and_eq_true, rangeFirst_iff, rangeSecond_iff, sameAmounts_iff]
    simp only [ox.mem_iff, oy.mem_iff]
  unfold resourceListEqualIn
  split
  · next hempty =>
    -- the shortcut for two empty lists gives what the loops would
    rw [← hloops, length_eq_zero_iff.1 hempty.1, length_eq_zero_iff.1 hempty.2]
    simp [rangeFirst, rangeSecond]
  · exact hloops

end

/-! ## Requirements -/

/-- The requirements have equal amounts. -/
def SameRequirements (a b : ResourceRequirements) : Prop :=
  SameAmounts a.limits b.limits ∧ SameAmounts a.requests b.requests

theorem eqResourceRequirements_iff :
    eqResourceRequirements a b = true ↔ SameRequirements a b := by
  rw [eqResourceRequirements, Bool.and_eq_true, resourceListEqual_iff, resourceListEqual_iff]
  rfl

theorem eqResourceRequirementsIn_iff (o : RangeOrders a b) :
    eqResourceRequirementsIn o = true ↔ SameRequirements a b := by
  rw [eqResourceRequirementsIn, Bool.and_eq_true, resourceListEqualIn_iff, resourceListEqualIn_iff]
  rfl

/-- **The comparison of resource requirements** does not depend on the order of its loops, holds
exactly when limits and requests have the same amounts, and is an equivalence. -/
theorem eqResourceRequirements_equivalence :
    (∀ a b (o : RangeOrders a b), eqResourceRequirementsIn o = eqResourceRequirements a b) ∧
      (∀ a b, eqResourceRequirements a b = true ↔
        ∀ k, amountOf a.limits k = amountOf b.limits k ∧
          amountOf a.requests k = amountOf b.requests k) ∧
      Equivalence fun a b => eqResourceRequirements a b = true := by
  refine ⟨fun a b o => ?_, fun a b => ?_, ?_, ?_, ?_⟩
  · rw [Bool.eq_iff_iff, eqResourceRequirementsIn_iff, eqResourceRequirements_iff]
  · rw [eqResourceRequirements_iff]
    exact forall_and.symm
  · intro a
    exact eqResourceRequirements_iff.2 ⟨fun _ => rfl, fun _ => rfl⟩
  · intro a b h
    obtain ⟨hlimits, hrequests⟩ := eqResourceRequirements_iff.1 h
    exact eqResourceRequirements_iff.2 ⟨fun k => (hlimits k).symm, fun k => (hrequests k).symm⟩
  · intro a b c h h'
    obtain ⟨hlimits, hrequests⟩ := eqResourceRequirements_iff.1 h
    obtain ⟨hlimits', hrequests'⟩ := eqResourceRequirements_iff.1 h'
    exact eqResourceRequirements_iff.2
      ⟨fun k => (hlimits k).trans (hlimits' k), fun k => (hrequests k).trans (hrequests' k)⟩

end Keyval.Update
