import Mathlib.Data.List.Induction

/-!
# Histories

Past-time statements about a list of events, oldest first.

* `Since P Q l`: an event satisfied `P`, and none has satisfied `Q` since.
* `split_eq`: a list is split in one way at elements that do not come again.
* `prefix_of_split`: what comes before an element starts with what comes before all such elements.
* `exists_split_flatten`: a position in a concatenation lies in one of the lists.
-/

namespace History

open List

variable {α : Type} {P Q : α → Prop}

/-- An element satisfied `P`, and none after it satisfies `Q`. -/
def Since (P Q : α → Prop) (l : List α) : Prop :=
  ∃ l1 x l2, l = l1 ++ x :: l2 ∧ P x ∧ ∀ y ∈ l2, ¬ Q y

theorem since_concat {l : List α} {x : α} : Since P Q (l ++ [x]) ↔ P x ∨ Since P Q l ∧ ¬ Q x := by
  constructor
  · rintro ⟨l1, y, l2, heq, hy, hnone⟩
    rcases eq_nil_or_concat l2 with rfl | ⟨l3, z, rfl⟩
    · obtain ⟨-, hxy⟩ := append_inj' heq rfl
      cases hxy
      exact .inl hy
    · rw [concat_eq_append, ← cons_append, ← append_assoc] at heq
      obtain ⟨rfl, hxz⟩ := append_inj' heq rfl
      cases hxz
      rw [concat_eq_append, forall_mem_append, forall_mem_singleton] at hnone
      exact .inr ⟨⟨l1, y, l3, rfl, hy, hnone.1⟩, hnone.2⟩
  · rintro (hx | ⟨⟨l1, y, l2, rfl, hy, hnone⟩, hx⟩)
    · exact ⟨l, x, [], rfl, hx, forall_mem_nil _⟩
    · refine ⟨l1, y, l2 ++ [x], by simp, hy, ?_⟩
      exact forall_mem_append.2 ⟨hnone, forall_mem_singleton.2 hx⟩

/-- Elements that satisfy neither predicate change nothing. -/
theorem since_append {l l' : List α} (h : ∀ x ∈ l', ¬ P x ∧ ¬ Q x) :
    Since P Q (l ++ l') ↔ Since P Q l := by
  induction l' using List.reverseRecOn with
  | nil => rw [append_nil]
  | append_singleton l' x ih =>
    rw [forall_mem_append, forall_mem_singleton] at h
    rw [← append_assoc, since_concat, ih h.1]
    simp [h.2.1, h.2.2]

theorem split_eq {a b c d : List α} {x y : α} (h : a ++ x :: b = c ++ y :: d)
    (hleft : x ∈ c → y ∉ b) (hright : y ∈ a → x ∉ d) : a = c ∧ x = y ∧ b = d := by
  rcases append_eq_append_iff.1 h with ⟨c', rfl, hcons⟩ | ⟨a', rfl, hcons⟩
  · cases c' with
    | nil =>
      cases hcons
      exact ⟨(append_nil a).symm, rfl, rfl⟩
    | cons z c' =>
      cases hcons
      exact absurd (by simp) (hleft (by simp))
  · cases a' with
    | nil =>
      cases hcons
      exact ⟨append_nil c, rfl, rfl⟩
    | cons z a' =>
      cases hcons
      exact absurd (by simp) (hright (by simp))

theorem prefix_of_split {a b c d : List α} {x : α} (h : a ++ b = c ++ x :: d) (hx : P x)
    (ha : ∀ y ∈ a, ¬ P y) : a <+: c := by
  rcases append_eq_append_iff.1 h with ⟨c', rfl, -⟩ | ⟨a', rfl, hcons⟩
  · exact prefix_append a c'
  · cases a' with
    | nil => simp
    | cons z a' =>
      cases hcons
      exact absurd hx (ha x (by simp))

theorem exists_split_flatten {x : α} : ∀ {ls : List (List α)} {a b : List α},
    ls.flatten = a ++ x :: b →
      ∃ ls1 l ls2 l1 l2, ls = ls1 ++ l :: ls2 ∧ l = l1 ++ x :: l2 ∧ a = ls1.flatten ++ l1
  | [], a, b, h => by simp at h
  | l :: ls, a, b, h => by
    have hrest : ∀ {c : List α}, a = l ++ c → ls.flatten = c ++ x :: b →
        ∃ ls1 l' ls2 l1 l2, l :: ls = ls1 ++ l' :: ls2 ∧ l' = l1 ++ x :: l2 ∧
          a = ls1.flatten ++ l1 := by
      intro c hc hflat
      obtain ⟨ls1, l', ls2, l1, l2, rfl, hl', rfl⟩ := exists_split_flatten hflat
      exact ⟨l :: ls1, l', ls2, l1, l2, rfl, hl', by simp [hc]⟩
    rw [flatten_cons] at h
    rcases append_eq_append_iff.1 h with ⟨c, hc, hflat⟩ | ⟨c, hl, hcons⟩
    · exact hrest hc hflat
    · cases c with
      | nil => exact hrest (c := []) (by simpa using hl.symm) hcons.symm
      | cons z c =>
        cases hcons
        exact ⟨[], l, ls, a, c, rfl, hl, rfl⟩

end History
