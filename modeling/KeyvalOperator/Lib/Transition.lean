import Mathlib.Data.List.Induction

/-!
# Labelled runs

Runs of a transition system whose steps carry a label, the oldest label first.

* `Steps step s ls s'`: the labels `ls`, taken in turn, lead from `s` to `s'`.
* `Steps.split`: a run passes through a state before and a state after each of its labels.
* `Steps.invariant`: **the invariant rule**. An assertion about the labels so far and the state
  that holds at the start and is kept by every step holds at the end of the run.
-/

namespace Transition

open List

variable {S L : Type} {step : S → L → S → Prop} {s s' : S} {ls : List L}

/-- The labels `ls`, taken in turn, lead from a state to a state. -/
inductive Steps (step : S → L → S → Prop) (s : S) : List L → S → Prop
  | nil : Steps step s [] s
  | snoc {ls : List L} {l : L} {s1 s2 : S} :
      Steps step s ls s1 → step s1 l s2 → Steps step s (ls ++ [l]) s2

theorem steps_nil : Steps step s [] s' ↔ s' = s := by
  refine ⟨fun h => ?_, ?_⟩
  · generalize hls : ([] : List L) = ls at h
    cases h with
    | nil => rfl
    | snoc => simp at hls
  · rintro rfl
    exact .nil

theorem steps_concat {l : L} :
    Steps step s (ls ++ [l]) s' ↔ ∃ s1, Steps step s ls s1 ∧ step s1 l s' := by
  refine ⟨fun h => ?_, fun ⟨_, h, hl⟩ => .snoc h hl⟩
  generalize hls : ls ++ [l] = ls' at h
  cases h with
  | nil => simp at hls
  | snoc h hl =>
    obtain ⟨rfl, heq⟩ := append_inj' hls rfl
    cases heq
    exact ⟨_, h, hl⟩

theorem steps_append {ls1 ls2 : List L} :
    Steps step s (ls1 ++ ls2) s' ↔ ∃ s1, Steps step s ls1 s1 ∧ Steps step s1 ls2 s' := by
  induction ls2 using List.reverseRecOn generalizing s' with
  | nil =>
    rw [append_nil]
    refine ⟨fun h => ⟨s', h, .nil⟩, ?_⟩
    rintro ⟨s1, h, hnil⟩
    rw [steps_nil.1 hnil]
    exact h
  | append_singleton ls2 l ih =>
    rw [← append_assoc, steps_concat]
    constructor
    · rintro ⟨s2, h, hl⟩
      obtain ⟨s1, h1, h2⟩ := ih.1 h
      exact ⟨s1, h1, .snoc h2 hl⟩
    · rintro ⟨s1, h1, h⟩
      obtain ⟨s2, h2, hl⟩ := steps_concat.1 h
      exact ⟨s2, ih.2 ⟨s1, h1, h2⟩, hl⟩

theorem Steps.split {ls1 ls2 : List L} {l : L} (h : Steps step s (ls1 ++ l :: ls2) s') :
    ∃ s1 s2, Steps step s ls1 s1 ∧ step s1 l s2 ∧ Steps step s2 ls2 s' := by
  rw [append_cons, steps_append] at h
  obtain ⟨s2, h1, h2⟩ := h
  obtain ⟨s1, h0, hl⟩ := steps_concat.1 h1
  exact ⟨s1, s2, h0, hl, h2⟩

theorem Steps.mem {l : L} (h : Steps step s ls s') (hl : l ∈ ls) : ∃ s1 s2, step s1 l s2 := by
  obtain ⟨ls1, ls2, rfl⟩ := append_of_mem hl
  obtain ⟨s1, s2, -, hstep, -⟩ := h.split
  exact ⟨s1, s2, hstep⟩

/-- **The invariant rule**, for runs whose labels all satisfy `C`. -/
theorem Steps.invariant {C : L → Prop} {I : List L → S → Prop} (h : Steps step s ls s')
    (hC : ∀ l ∈ ls, C l) (h0 : I [] s)
    (hstep : ∀ ls s1 l s2, Steps step s ls s1 → I ls s1 → C l → step s1 l s2 →
      I (ls ++ [l]) s2) : I ls s' := by
  induction h with
  | nil => exact h0
  | snoc hrun hl ih =>
    rw [forall_mem_append, forall_mem_singleton] at hC
    exact hstep _ _ _ _ hrun (ih hC.1) hC.2 hl

end Transition
