import Mathlib.Data.List.Infix
import Mathlib.Tactic.Common

/-!
# Operations that announce their beginning and their end

A register holds the operation that is going on, or `idle`. Some events write the register; others
announce that an operation starts or completes. In the traces of `Announces` a write that begins an
operation is followed at once by its announcement, and so is the write that ends one.

* `Announces.append`: such traces compose.
* `Announces.starts_iff`: **an operation is announced exactly when the register changes to it**.
* `Announces.completes_after`: **a completed operation was announced before**, with no announcement
  since, and the register held it from there up to the write that ends it.
-/

namespace Announced

open List

/-- A register with values in `V` and events in `α`, of which some are announcements. -/
structure Register (α V : Type) where
  idle : V
  step : V → α → V
  /-- The operation that the event announces as started. -/
  starts : α → Option V
  /-- The operation that the event announces as completed. -/
  completes : α → Option V
  step_starts : ∀ {e d}, starts e = some d → ∀ v, step v e = v
  step_completes : ∀ {e d}, completes e = some d → ∀ v, step v e = v
  completes_of_starts : ∀ {e d}, starts e = some d → completes e = none

variable {α V : Type} (R : Register α V)

/-- The event announces nothing. -/
def Silent (e : α) : Prop := R.starts e = none ∧ R.completes e = none

/-- The register after the events `t`. -/
def held (v : V) (t : List α) : V := t.foldl R.step v

/-- The traces in which every change of the register is announced at once. -/
inductive Announces : V → List α → V → Prop
  | nil (v : V) : Announces v [] v
  | quiet {v v' : V} {e : α} {t : List α} :
      Silent R e → R.step v e = v → Announces v t v' → Announces v (e :: t) v'
  | start {v v' d : V} {c s : α} {t : List α} : Silent R c → R.step v c = d → d ≠ R.idle → d ≠ v →
      R.starts s = some d → Announces d t v' → Announces v (c :: s :: t) v'
  | finish {v v' : V} {c s : α} {t : List α} : Silent R c → R.step v c = R.idle → v ≠ R.idle →
      R.completes s = some v → Announces R.idle t v' → Announces v (c :: s :: t) v'

section
variable {R} {v v' v'' d : V} {t t' u w : List α} {e : α}

theorem held_concat (v : V) (t : List α) (e : α) : held R v (t ++ [e]) = R.step (held R v t) e :=
  foldl_concat _ _ _ _

theorem Announces.append (h : Announces R v t v') (h' : Announces R v' t' v'') :
    Announces R v (t ++ t') v'' := by
  induction h with
  | nil v => exact h'
  | quiet hsilent hstep _ ih => exact .quiet hsilent hstep (ih h')
  | start hsilent hstep hidle hne hs _ ih => exact .start hsilent hstep hidle hne hs (ih h')
  | finish hsilent hstep hidle hs _ ih => exact .finish hsilent hstep hidle hs (ih h')

theorem Announces.of_silent (h : ∀ e ∈ t, Silent R e ∧ R.step v e = v) : Announces R v t v := by
  induction t with
  | nil => exact .nil v
  | cons e t ih =>
    obtain ⟨⟨hsilent, hstep⟩, ht⟩ := forall_mem_cons.1 h
    exact .quiet hsilent hstep (ih ht)

theorem Announces.held_eq (h : Announces R v t v') : held R v t = v' := by
  induction h with
  | nil v => rfl
  | @quiet v v' e t _ hstep _ ih =>
    show held R (R.step v e) t = v'
    rw [hstep]
    exact ih
  | @start v v' d c s t _ hstep _ _ hs _ ih =>
    show held R (R.step (R.step v c) s) t = v'
    rw [R.step_starts hs, hstep]
    exact ih
  | @finish v v' c s t _ hstep _ hs _ ih =>
    show held R (R.step (R.step v c) s) t = v'
    rw [R.step_completes hs, hstep]
    exact ih

/-! ## Started operations -/

/-- The last of the events changes the register to `d`. -/
def Changes (R : Register α V) (d : V) (u : List α) : Prop :=
  ∃ u' c, u = u' ++ [c] ∧ held R R.idle u' ≠ d ∧ held R R.idle u = d

/-- The first of the events announces that `d` starts. -/
def Begins (R : Register α V) (d : V) (w : List α) : Prop :=
  ∃ s w', w = s :: w' ∧ R.starts s = some d

theorem not_changes_nil : ¬ Changes R d [] := by
  rintro ⟨u', c, heq, -⟩
  simp at heq

theorem changes_concat :
    Changes R d (u ++ [e]) ↔ held R R.idle u ≠ d ∧ R.step (held R R.idle u) e = d := by
  constructor
  · rintro ⟨u', c, heq, hne, hd⟩
    obtain ⟨rfl, hc⟩ := append_inj' heq rfl
    cases hc
    rw [held_concat] at hd
    exact ⟨hne, hd⟩
  · rintro ⟨hne, hd⟩
    exact ⟨u, e, rfl, hne, by rw [held_concat, hd]⟩

theorem begins_cons : Begins R d (e :: t) ↔ R.starts e = some d := by
  constructor
  · rintro ⟨s, w', heq, hs⟩
    cases heq
    exact hs
  · exact fun h => ⟨e, t, rfl, h⟩

theorem not_begins_of_none (h : R.starts e = none) : ¬ Begins R d (e :: t) := by
  rw [begins_cons, h]
  simp

theorem not_changes_of_step (h : R.step (held R R.idle u) e = held R R.idle u) :
    ¬ Changes R d (u ++ [e]) := by
  rw [changes_concat, h]
  exact fun ⟨hne, heq⟩ => hne heq

theorem Announces.starts_after (h : Announces R v t v') : ∀ u0, held R R.idle u0 = v →
    (∀ d, d ≠ R.idle → ¬ Changes R d u0) → ∀ u w, t = u ++ w → ∀ d,
      Begins R d w ↔ d ≠ R.idle ∧ Changes R d (u0 ++ u) := by
  -- at the place of `u0` itself nothing has changed, so nothing may begin there
  have hhere : ∀ {u0 w : List α} {d : V}, (∀ d, d ≠ R.idle → ¬ Changes R d u0) →
      ¬ Begins R d w → (Begins R d w ↔ d ≠ R.idle ∧ Changes R d (u0 ++ [])) := by
    intro u0 w d hsettled hw
    rw [append_nil]
    exact iff_of_false hw fun ⟨hidle, hchanges⟩ => hsettled d hidle hchanges
  induction h with
  | nil v =>
    intro u0 _ hsettled u w heq d
    obtain ⟨rfl, rfl⟩ := append_eq_nil_iff.1 heq.symm
    exact hhere hsettled fun ⟨s, w', heq, _⟩ => by simp at heq
  | @quiet v v' e t hsilent hstep _ ih =>
    intro u0 hheld hsettled u w heq d
    cases u with
    | nil =>
      subst heq
      exact hhere hsettled (not_begins_of_none hsilent.1)
    | cons e' u =>
      cases heq
      have hkeep : R.step (held R R.idle u0) e = held R R.idle u0 := by rw [hheld, hstep]
      have hrest := ih (u0 ++ [e]) (by rw [held_concat, hkeep, hheld])
        (fun d _ => not_changes_of_step hkeep) u w rfl d
      rwa [append_assoc] at hrest
  | @start v v' d0 c s t hsilent hstep hidle hne hs _ ih =>
    intro u0 hheld hsettled u w heq d
    have hc : held R R.idle (u0 ++ [c]) = d0 := by rw [held_concat, hheld, hstep]
    match u, heq with
    | [], heq =>
      subst heq
      exact hhere hsettled (not_begins_of_none hsilent.1)
    | [c'], heq =>
      cases heq
      rw [begins_cons, hs, changes_concat, hheld, hstep, Option.some_inj]
      refine ⟨?_, fun h => h.2.2⟩
      rintro rfl
      exact ⟨hidle, hne.symm, rfl⟩
    | c' :: s' :: u, heq =>
      cases heq
      have hkeep : R.step (held R R.idle (u0 ++ [c])) s = held R R.idle (u0 ++ [c]) :=
        R.step_starts hs _
      have hrest := ih (u0 ++ [c] ++ [s]) (by rw [held_concat, hkeep, hc])
        (fun d _ => not_changes_of_step hkeep) u w rfl d
      rwa [append_assoc, append_assoc] at hrest
  | @finish v v' c s t hsilent hstep hidle hs _ ih =>
    intro u0 hheld hsettled u w heq d
    have hc : held R R.idle (u0 ++ [c]) = R.idle := by rw [held_concat, hheld, hstep]
    match u, heq with
    | [], heq =>
      subst heq
      exact hhere hsettled (not_begins_of_none hsilent.1)
    | [c'], heq =>
      cases heq
      rw [begins_cons, changes_concat, hheld, hstep]
      refine iff_of_false (fun hstarts => ?_) fun h => h.1 h.2.2.symm
      rw [R.completes_of_starts hstarts] at hs
      cases hs
    | c' :: s' :: u, heq =>
      cases heq
      have hkeep : R.step (held R R.idle (u0 ++ [c])) s = held R R.idle (u0 ++ [c]) :=
        R.step_completes hs _
      have hrest := ih (u0 ++ [c] ++ [s]) (by rw [held_concat, hkeep, hc])
        (fun d _ => not_changes_of_step hkeep) u w rfl d
      rwa [append_assoc, append_assoc] at hrest

/-- **An operation is announced exactly when the register changes to it.** -/
theorem Announces.starts_iff (h : Announces R R.idle t v') (ht : t = u ++ w) :
    Begins R d w ↔ d ≠ R.idle ∧ Changes R d u :=
  h.starts_after [] rfl (fun _ _ => not_changes_nil) u w ht d

/-! ## Completed operations -/

/-- The last announcement is that `d` starts, and the register has held `d` since. -/
def Open (R : Register α V) (d : V) (u : List α) : Prop :=
  ∃ u1 s m, u = u1 ++ s :: m ∧ R.starts s = some d ∧ (∀ e ∈ m, Silent R e) ∧
    ∀ m', m' <+: m → held R R.idle (u1 ++ s :: m') = d

theorem Open.concat (h : Open R d u) (hsilent : Silent R e) (hstep : R.step d e = d) :
    Open R d (u ++ [e]) := by
  obtain ⟨u1, s, m, rfl, hs, hm, hheld⟩ := h
  refine ⟨u1, s, m ++ [e], by simp, hs, ?_, fun m' hm' => ?_⟩
  · exact forall_mem_append.2 ⟨hm, forall_mem_singleton.2 hsilent⟩
  · rcases prefix_concat_iff.1 hm' with rfl | hm'
    · rw [← cons_append, ← append_assoc, held_concat, hheld m (prefix_refl m), hstep]
    · exact hheld m' hm'

/-- The operation `d` was open until the last of the events, which ends it. -/
def Ends (R : Register α V) (d : V) (u : List α) : Prop :=
  ∃ u' c, u = u' ++ [c] ∧ Open R d u' ∧ Silent R c ∧ held R R.idle u = R.idle

theorem Announces.ends_after (h : Announces R v t v') : ∀ u0, held R R.idle u0 = v →
    (v ≠ R.idle → Open R v u0) → ∀ u s w, t = u ++ s :: w → ∀ d, R.completes s = some d →
      Ends R d (u0 ++ u) := by
  induction h with
  | nil v =>
    intro u0 _ _ u s w heq
    simp at heq
  | @quiet v v' e t hsilent hstep _ ih =>
    intro u0 hheld hopen u s w heq d hd
    cases u with
    | nil =>
      cases heq
      rw [hsilent.2] at hd
      cases hd
    | cons e' u =>
      cases heq
      have hrest := ih (u0 ++ [e]) (by rw [held_concat, hheld, hstep])
        (fun hne => (hopen hne).concat hsilent hstep) u s w rfl d hd
      rwa [append_assoc] at hrest
  | @start v v' d0 c s0 t hsilent hstep hidle hne hs _ ih =>
    intro u0 hheld hopen u s w heq d hd
    match u, heq with
    | [], heq =>
      cases heq
      rw [hsilent.2] at hd
      cases hd
    | [c'], heq =>
      cases heq
      rw [R.completes_of_starts hs] at hd
      cases hd
    | c' :: s' :: u, heq =>
      cases heq
      have hc : held R R.idle (u0 ++ [c]) = d0 := by rw [held_concat, hheld, hstep]
      have hs' : held R R.idle (u0 ++ [c] ++ [s0]) = d0 := by
        rw [held_concat, R.step_starts hs, hc]
      have hrest := ih (u0 ++ [c] ++ [s0]) hs' (fun _ => ⟨u0 ++ [c], s0, [], rfl, hs,
        forall_mem_nil _, fun m' hm' => by rw [prefix_nil.1 hm', hs']⟩) u s w rfl d hd
      rwa [append_assoc, append_assoc] at hrest
  | @finish v v' c s0 t hsilent hstep hidle hs _ ih =>
    intro u0 hheld hopen u s w heq d hd
    have hc : held R R.idle (u0 ++ [c]) = R.idle := by rw [held_concat, hheld, hstep]
    match u, heq with
    | [], heq =>
      cases heq
      rw [hsilent.2] at hd
      cases hd
    | [c'], heq =>
      cases heq
      obtain rfl : v = d := Option.some_inj.1 (hs.symm.trans hd)
      exact ⟨u0, c, rfl, hopen hidle, hsilent, hc⟩
    | c' :: s' :: u, heq =>
      cases heq
      have hrest := ih (u0 ++ [c] ++ [s0]) (by rw [held_concat, R.step_completes hs, hc])
        (fun hne => absurd rfl hne) u s w rfl d hd
      rwa [append_assoc, append_assoc] at hrest

/-- **A completed operation was announced before**, with no announcement since, and the register
held it from there up to the write that ends it. -/
theorem Announces.completes_after (h : Announces R R.idle t v') {s : α} (ht : t = u ++ s :: w)
    (hd : R.completes s = some d) : Ends R d u :=
  h.ends_after [] rfl (fun hne => absurd rfl hne) u s w ht d hd

end

end Announced
