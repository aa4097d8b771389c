import Mathlib.Data.List.Sort
import Mathlib.Order.Defs.LinearOrder

/-!
# The first of a list by rank

A program that sorts a list only to take its first element chooses an element of least rank. The
comparison that it sorts by needs to be an order only on the elements of the list: this is what
`least_insertionSort` asks for. When the elements have distinct ranks, all the others rank behind
the first (`Least.lt`), so that the order of the list does not matter.
-/

namespace Ranking

open List

variable {α κ : Type*} [LinearOrder κ] {rank : α → κ} {l : List α} {x y : α}

/-- `x` is an element of least rank. -/
structure Least (rank : α → κ) (l : List α) (x : α) : Prop where
  mem : x ∈ l
  le : ∀ y ∈ l, rank x ≤ rank y

/-- The ranks of the elements are distinct. -/
def Distinct (rank : α → κ) (l : List α) : Prop :=
  ∀ x ∈ l, ∀ y ∈ l, rank x = rank y → x = y

theorem Least.lt (h : Least rank l x) (hdistinct : Distinct rank l) (hy : y ∈ l) (hne : y ≠ x) :
    rank x < rank y :=
  lt_of_le_of_ne (h.le y hy) fun heq => hne (hdistinct x h.mem y hy heq).symm

/-- **The first of a sorted list has the least rank**, if the comparison agrees with the rank on the
elements of the list. -/
theorem least_insertionSort {r : α → α → Prop} [DecidableRel r] {xs : List α}
    (hr : ∀ a ∈ l, ∀ b ∈ l, r a b ↔ rank a ≤ rank b) (h : l.insertionSort r = x :: xs) :
    Least rank l x := by
  induction l generalizing x xs with
  | nil => cases h
  | cons a l ih =>
    have hrest : ∀ b ∈ l, ∀ c ∈ l, r b c ↔ rank b ≤ rank c := fun b hb c hc =>
      hr b (.tail _ hb) c (.tail _ hc)
    rw [insertionSort_cons] at h
    cases hl : l.insertionSort r with
    | nil =>
      have hnil : l = [] := ((perm_insertionSort r l).symm.trans (hl ▸ .nil)).eq_nil
      subst hnil
      cases h
      exact ⟨.head _, forall_mem_singleton.2 le_rfl⟩
    | cons b bs =>
      have hb := ih hrest hl
      have hagree := hr a (.head _) b (.tail _ hb.mem)
      rw [hl, orderedInsert_cons] at h
      by_cases hab : r a b
      · rw [if_pos hab] at h
        cases h
        refine ⟨.head _, forall_mem_cons.2 ⟨le_rfl, fun y hy => ?_⟩⟩
        exact (hagree.1 hab).trans (hb.le y hy)
      · rw [if_neg hab] at h
        cases h
        have hlt := not_le.1 (mt hagree.2 hab)
        exact ⟨.tail _ hb.mem, forall_mem_cons.2 ⟨hlt.le, hb.le⟩⟩

end Ranking
