import Mathlib.Data.List.Basic

/-!
# Lists with two owners

A list in which one writer owns the elements that a test recognises and leaves the others, which
belong to other writers, alone. The writer replaces its elements (`replaceOwned`), makes sure that
it has one (`ensureOwned`), or removes them: what remains then is `foreign`.

* `foreign_foreign`, `replaceOwned_twice`, `ensureOwned_twice`: to do it again changes nothing.
* `foreign_replaceOwned`, `foreign_ensureOwned`: the elements of others stay, in their order.
-/

namespace Owned

open List

variable {α : Type} (own : α → Bool)

/-- The elements of the other writers. -/
def foreign (l : List α) : List α := l.filter fun x => !own x

/-- The elements of the other writers, then `mine`. -/
def replaceOwned (mine l : List α) : List α := foreign own l ++ mine

/-- The list with an owned element, which is `x` if there was none. -/
def ensureOwned (x : α) (l : List α) : List α := if l.any own then l else l ++ [x]

variable {own}

theorem filter_not_eq_foreign {Own : α → Prop} [DecidablePred Own] (h : ∀ x, own x = true ↔ Own x)
    (l : List α) : l.filter (fun x => ¬ Own x) = foreign own l := by
  apply filter_congr
  intro x _
  simp [← h x]

theorem not_of_mem_foreign {l : List α} {x : α} {Own : Prop} (h : own x = true ↔ Own)
    (hx : x ∈ foreign own l) : ¬ Own := by
  have hown : own x = false := by simpa using (mem_filter.1 hx).2
  simp [← h, hown]

theorem foreign_append (l l' : List α) : foreign own (l ++ l') = foreign own l ++ foreign own l' :=
  filter_append ..

@[simp] theorem foreign_foreign (l : List α) : foreign own (foreign own l) = foreign own l := by
  simp [foreign]

theorem foreign_eq_nil {l : List α} (h : ∀ x ∈ l, own x = true) : foreign own l = [] := by
  unfold foreign
  apply filter_eq_nil_iff.2
  intro x hx
  simp [h x hx]

theorem foreign_replaceOwned {mine : List α} (h : ∀ x ∈ mine, own x = true) (l : List α) :
    foreign own (replaceOwned own mine l) = foreign own l := by
  unfold replaceOwned
  rw [foreign_append, foreign_foreign, foreign_eq_nil h, append_nil]

theorem replaceOwned_twice {mine : List α} (h : ∀ x ∈ mine, own x = true) (l : List α) :
    replaceOwned own mine (replaceOwned own mine l) = replaceOwned own mine l := by
  show foreign own (replaceOwned own mine l) ++ mine = foreign own l ++ mine
  rw [foreign_replaceOwned h]

theorem foreign_ensureOwned {x : α} (h : own x = true) (l : List α) :
    foreign own (ensureOwned own x l) = foreign own l := by
  unfold ensureOwned
  split
  · rfl
  · rw [foreign_append, foreign_eq_nil (l := [x]) (by simpa using h), append_nil]

theorem ensureOwned_twice {x : α} (h : own x = true) (l : List α) :
    ensureOwned own x (ensureOwned own x l) = ensureOwned own x l := by
  have hany : (ensureOwned own x l).any own = true := by
    unfold ensureOwned
    split
    · assumption
    · simp [h]
  exact if_pos hany

end Owned
