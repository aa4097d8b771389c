import KeyvalOperator.Core.Naming
import KeyvalOperator.Api.Op

/-!
# The role labels in the API server

The role labels of the pods of one namespace, by pod name, and how the requests of the Labels phase
change them (`labelWorld`): a patch that succeeds sets the label, a reply NotFound says that the pod
is gone, and a read shows the stored label. No other writer changes a role label.
-/

namespace Keyval

open Interact

variable {pod role : String} {e : Event Op}

/-- The role label of every pod that exists. -/
abbrev LabelStore := String → Option String

def labelWorld : World Op LabelStore where
  step s
    | ⟨.patchPodRole _ name _ role, .ok _⟩ => Function.update s name (some role)
    | ⟨.patchPodRole _ name _ _, .error e⟩ =>
      if e.reason = .notFound then Function.update s name none else s
    | ⟨.getPod _ name, .error e⟩ =>
      if e.reason = .notFound then Function.update s name none else s
    | _ => s
  ok s
    | ⟨.patchPodRole _ name _ role, .ok pod⟩ =>
      s name ≠ none ∧ pod.name = name ∧ pod.role = role
    | ⟨.getPod _ name, .ok pod⟩ => pod.name = name ∧ s name = some pod.role
    | _ => True

/-- A request about the role label of the pod, which a patch sets to `role`. -/
def RoleReq (pod role : String) : Req → Prop
  | .patchPodRole _ n _ r => n = pod ∧ r = role
  | .getPod _ n => n = pod
  | _ => False

/-- A read or a patch returns the pod it was sent to. -/
def SamePod : Event Op → Prop
  | ⟨.patchPodRole _ n _ _, .ok pod⟩ => pod.name = n
  | ⟨.getPod _ n, .ok pod⟩ => pod.name = n
  | _ => True

theorem labelWorld_samePod (s : LabelStore) (e : Event Op) (h : labelWorld.ok s e) : SamePod e := by
  obtain ⟨q, r⟩ := e
  cases q with
  | patchPodRole ns n rv role =>
    cases r with
    | ok pod => exact h.2.1
    | error e => trivial
  | getPod ns n =>
    cases r with
    | ok pod => exact h.1
    | error e => trivial
  | _ => trivial

/-- A request that is not about role labels. -/
def RoleQuiet : Req → Prop
  | .patchPodRole .. => False
  | .getPod .. => False
  | _ => True

/-- A request that is not about the role label of the pod. -/
def OffPod (pod : String) : Req → Prop
  | .patchPodRole _ n _ _ => n ≠ pod
  | .getPod _ n => n ≠ pod
  | _ => True

theorem RoleQuiet.offPod {q : Req} (h : RoleQuiet q) (pod : String) : OffPod pod q := by
  cases q <;> trivial

theorem RoleReq.offPod {q : Req} {pod role p : String} (h : RoleReq pod role q)
    (hp : p ≠ pod) : OffPod p q := by
  cases q with
  | patchPodRole ns n rv r => exact fun hn => hp (hn.symm.trans h.1)
  | getPod ns n => exact fun hn => hp (hn.symm.trans h)
  | _ => trivial

theorem labelWorld_step_off (s : LabelStore) {pod : String}
    (h : OffPod pod e.req) : labelWorld.step s e pod = s pod := by
  obtain ⟨req, rep⟩ := e
  have hgone : ∀ (n : String) (p : Prop) [Decidable p], n ≠ pod →
      (if p then Function.update s n none else s) pod = s pod := by
    intro n p _ hn
    split
    · exact Function.update_of_ne (Ne.symm hn) _ _
    · rfl
  cases req with
  | patchPodRole ns n rv r =>
    cases rep with
    | ok p => exact Function.update_of_ne (Ne.symm h) _ _
    | error e => exact hgone n _ h
  | getPod ns n =>
    cases rep with
    | ok p => rfl
    | error e => exact hgone n _ h
  | _ => rfl

theorem labelWorld_after_off (s : LabelStore) {t : Trace} {pod : String}
    (h : ∀ e ∈ t, OffPod pod e.req) : labelWorld.after s t pod = s pod :=
  labelWorld.after_inv (I := fun s' => s' pod = s pod) rfl fun e he s' hs => by
    rw [labelWorld_step_off s' (h e he), hs]

/-- A patch that sets the role label of the pod and succeeds. -/
def SetsRole (pod role : String) : Event Op → Prop
  | ⟨.patchPodRole _ n _ r, .ok _⟩ => n = pod ∧ r = role
  | _ => False

theorem labelWorld_step_sets {s : LabelStore}
    (h : SetsRole pod role e) : labelWorld.step s e pod = some role := by
  obtain ⟨q, r⟩ := e
  cases q with
  | patchPodRole ns n rv r' =>
    cases r with
    | error e => exact h.elim
    | ok p =>
      obtain ⟨rfl, rfl⟩ : n = pod ∧ r' = role := h
      exact Function.update_self _ _ _
  | _ => exact h.elim

theorem OffPod.not_setsRole (h : OffPod pod e.req) : ¬ SetsRole pod role e := by
  intro hset
  obtain ⟨q, r⟩ := e
  cases q with
  | patchPodRole ns n rv r' =>
    cases r with
    | error e => exact hset
    | ok p => exact h hset.1
  | _ => exact hset

theorem labelWorld_step_gained {s : LabelStore} (hset : ¬ SetsRole pod role e)
    (h : labelWorld.step s e pod = some role) : s pod = some role := by
  obtain ⟨req, rep⟩ := e
  -- a reply NotFound removes the label and sets none
  have hgone : ∀ (n : String) (p : Prop) [Decidable p],
      (if p then Function.update s n none else s) pod = some role → s pod = some role := by
    intro n p _ h
    split at h
    · by_cases hn : pod = n
      · rw [hn, Function.update_self] at h
        cases h
      · rwa [Function.update_of_ne hn] at h
    · exact h
  cases req with
  | patchPodRole ns n rv r =>
    cases rep with
    | error e => exact hgone n _ h
    | ok p =>
      have h' : Function.update s n (some r) pod = some role := h
      by_cases hn : pod = n
      · rw [hn, Function.update_self] at h'
        exact (hset ⟨hn.symm, Option.some.inj h'⟩).elim
      · rwa [Function.update_of_ne hn] at h'
  | getPod ns n =>
    cases rep with
    | error e => exact hgone n _ h
    | ok p => exact h
  | _ => exact h

theorem labelWorld_gained {s : LabelStore} {t : Trace}
    (h : labelWorld.after s t pod = some role) :
    s pod = some role ∨ ∃ e ∈ t, SetsRole pod role e := by
  induction t generalizing s with
  | nil => exact .inl h
  | cons e t ih =>
    rcases ih h with hs | ⟨e', he', hset⟩
    · by_cases hset : SetsRole pod role e
      · exact .inr ⟨e, .head _, hset⟩
      · exact .inl (labelWorld_step_gained hset hs)
    · exact .inr ⟨e', .tail _ he', hset⟩

end Keyval
