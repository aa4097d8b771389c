import KeyvalOperator.Ops.Eviction
import KeyvalOperator.Reconcile.State
import Mathlib.Tactic.Positivity

/-!
# Delays

The two places where the operator computes how long to wait.

* The requeue hints: `RequeueAccumulator` keeps a pair that it clamps after each hint, and `Sums`
  relates the pair to the hints so far. `requeue_order_independent`: **the order of the hints does
  not matter**.
* The backoff between the attempts of an eviction, in 64-bit arithmetic. `wellBehaved_iff`: **it
  doubles up to the maximum exactly for the attempts below 64**.
-/

namespace Keyval

open Go List

/-! ## Requeue hints -/

namespace Requeue

variable {hints : List Hint} {a : RequeueAccumulator}

/-- A call of the accumulator. -/
inductive Hint where
  | set (d : Duration)
  | setMin (d : Duration)
  deriving DecidableEq

/-- The accumulator after the call. -/
def take (a : RequeueAccumulator) : Hint → RequeueAccumulator
  | .set d => a.set d
  | .setMin d => a.setMin d

/-- The accumulator after all calls. -/
def collect (hints : List Hint) : RequeueAccumulator := hints.foldl take {}

/-- The delays that were set. -/
def candidates : List Hint → List Duration :=
  List.filterMap fun
    | .set d => if 0 < d then some d else none
    | .setMin _ => none

/-- The minimal delays that were set. -/
def minimums : List Hint → List Duration :=
  List.filterMap fun
    | .set _ => none
    | .setMin d => if 0 < d then some d else none

/-- The smallest delay that was set. -/
def smallestSet (hints : List Hint) : Option Duration := (candidates hints).min?

/-- The largest minimal delay. -/
def largestMin (hints : List Hint) : Duration := (minimums hints).max?.getD 0

theorem smallestSet_perm {hints hints' : List Hint} (h : hints.Perm hints') :
    smallestSet hints = smallestSet hints' := by
  refine Option.ext fun d => ?_
  have hmem : ∀ x, x ∈ candidates hints ↔ x ∈ candidates hints' := fun _ =>
    (h.filterMap _).mem_iff
  rw [smallestSet, smallestSet, min?_eq_some_iff, min?_eq_some_iff]
  simp only [hmem]

theorem largestMin_perm {hints hints' : List Hint} (h : hints.Perm hints') :
    largestMin hints = largestMin hints' := by
  have hmax : (minimums hints).max? = (minimums hints').max? := by
    refine Option.ext fun d => ?_
    have hmem : ∀ x, x ∈ minimums hints ↔ x ∈ minimums hints' := fun _ =>
      (h.filterMap _).mem_iff
    rw [max?_eq_some_iff, max?_eq_some_iff]
    simp only [hmem]
  rw [largestMin, largestMin, hmax]

theorem smallestSet_pos {d : Duration} (h : smallestSet hints = some d) : 0 < d := by
  obtain ⟨hint, -, hd⟩ := mem_filterMap.1 (min?_eq_some_iff.1 h).1
  cases hint <;> grind

theorem largestMin_nonneg (hints : List Hint) : 0 ≤ largestMin hints := by
  unfold largestMin
  cases h : (minimums hints).max? with
  | none => simp
  | some d =>
    obtain ⟨hint, -, hd⟩ := mem_filterMap.1 (max?_eq_some_iff.1 h).1
    cases hint <;> grind

/-! What one more call does to the two extremes. -/

section
variable (hints : List Hint) (d : Duration)

theorem smallestSet_set (hd : 0 < d) :
    smallestSet (hints ++ [.set d]) = some ((smallestSet hints).elim d (min d)) := by
  rw [smallestSet_perm (perm_append_singleton _ _)]
  simp [smallestSet, candidates, hd, min?_cons]

theorem smallestSet_setMin : smallestSet (hints ++ [.setMin d]) = smallestSet hints := by
  simp [smallestSet, candidates]

theorem largestMin_set : largestMin (hints ++ [.set d]) = largestMin hints := by
  simp [largestMin, minimums]

theorem largestMin_setMin (hd : 0 < d) :
    largestMin (hints ++ [.setMin d]) = max d (largestMin hints) := by
  rw [largestMin_perm (perm_append_singleton _ _)]
  have hcons : largestMin (.setMin d :: hints) = ((minimums hints).max?).elim d (max d) := by
    simp [largestMin, minimums, hd, max?_cons]
  rw [hcons, largestMin]
  cases (minimums hints).max? with
  | none => simp [hd.le]
  | some m => rfl

theorem smallestSet_ignored (hd : d ≤ 0) : smallestSet (hints ++ [.set d]) = smallestSet hints := by
  simp [smallestSet, candidates, not_lt.2 hd]

theorem largestMin_ignored (hd : d ≤ 0) : largestMin (hints ++ [.setMin d]) = largestMin hints := by
  simp [largestMin, minimums, not_lt.2 hd]

end

/-- The pair after some calls: the largest minimum, and the smallest candidate raised to it. -/
structure Sums (hints : List Hint) (a : RequeueAccumulator) : Prop where
  largest : a.min = largestMin hints
  smallest : a.next = (smallestSet hints).elim 0 (max · (largestMin hints))

theorem Sums.set (h : Sums hints a) (d : Duration) : Sums (hints ++ [.set d]) (a.set d) := by
  rcases le_or_gt d 0 with hd | hd
  · rw [RequeueAccumulator.set, if_pos hd]
    refine ⟨?_, ?_⟩
    · rw [largestMin_set, h.largest]
    · rw [smallestSet_ignored _ _ hd, largestMin_set, h.smallest]
  · have hmin := h.largest
    have hnext := h.smallest
    have hnonneg := largestMin_nonneg hints
    refine ⟨?_, ?_⟩
    · rw [largestMin_set, RequeueAccumulator.set, if_neg (not_le.2 hd)]
      exact hmin
    · -- a candidate below the present value is either the smallest so far or below the minimum
      rw [smallestSet_set _ _ hd, largestMin_set, RequeueAccumulator.set, if_neg (not_le.2 hd)]
      cases hs : smallestSet hints with
      | none =>
        rw [hs] at hnext
        simp only [Option.elim_none, Option.elim_some] at hnext ⊢
        grind
      | some s =>
        have hpos := smallestSet_pos hs
        rw [hs] at hnext
        simp only [Option.elim_some] at hnext ⊢
        grind

theorem Sums.setMin (h : Sums hints a)
    (d : Duration) : Sums (hints ++ [.setMin d]) (a.setMin d) := by
  rcases le_or_gt d 0 with hd | hd
  · rw [RequeueAccumulator.setMin, if_pos hd]
    refine ⟨?_, ?_⟩
    · rw [largestMin_ignored _ _ hd, h.largest]
    · rw [smallestSet_setMin, largestMin_ignored _ _ hd, h.smallest]
  · have hmin := h.largest
    have hnext := h.smallest
    have hnonneg := largestMin_nonneg hints
    have hraise : (if a.min = 0 ∨ a.min < d then d else a.min) = max d (largestMin hints) := by
      grind
    rw [RequeueAccumulator.setMin, if_neg (not_le.2 hd), hraise]
    refine ⟨(largestMin_setMin _ _ hd).symm, ?_⟩
    rw [smallestSet_setMin, largestMin_setMin _ _ hd]
    cases hs : smallestSet hints with
    | none =>
      rw [hs] at hnext
      simp only [Option.elim_none] at hnext ⊢
      grind
    | some s =>
      have hpos := smallestSet_pos hs
      rw [hs] at hnext
      simp only [Option.elim_some] at hnext ⊢
      grind

theorem sums_collect (hints : List Hint) : Sums hints (collect hints) := by
  induction hints using List.reverseRecOn with
  | nil => exact ⟨rfl, rfl⟩
  | append_singleton hints hint ih =>
    rw [collect, foldl_append, foldl_cons, foldl_nil]
    cases hint with
    | set d => exact ih.set d
    | setMin d => exact ih.setMin d

theorem Sums.result (h : Sums hints a) :
    a.result = (smallestSet hints).elim (largestMin hints) (max · (largestMin hints)) := by
  have hmin := h.largest
  have hnext := h.smallest
  have hnonneg := largestMin_nonneg hints
  unfold RequeueAccumulator.result
  cases hs : smallestSet hints with
  | none =>
    rw [hs, Option.elim_none] at hnext
    rw [if_pos hnext, hmin]
    rfl
  | some s =>
    have hpos := smallestSet_pos hs
    rw [hs] at hnext
    simp only [Option.elim_some] at hnext ⊢
    grind

/-- The delay after any calls is the largest minimum when no positive candidate was given, and
otherwise the larger of the smallest candidate and the largest minimum; the order of the calls does
not matter. -/
theorem requeue_order_independent (hints : List Hint) :
    (collect hints).result =
        (match smallestSet hints with
          | none => largestMin hints
          | some smallest => max smallest (largestMin hints)) ∧
      ∀ hints', hints.Perm hints' → (collect hints').result = (collect hints).result := by
  have hresult := fun hints => (sums_collect hints).result
  refine ⟨?_, fun hints' hperm => ?_⟩
  · rw [hresult]
    cases smallestSet hints <;> rfl
  · rw [hresult, hresult, smallestSet_perm hperm, largestMin_perm hperm]

theorem requeue_swapped :
    (collect [.setMin 5, .set 3]).result = (collect [.set 3, .setMin 5]).result :=
  (requeue_order_independent [.set 3, .setMin 5]).2 _ (.swap _ _ _)

end Requeue

/-! ## The backoff of evictions -/

namespace Eviction

/-- The fields of the settings are 64-bit numbers. -/
structure Settings.Fits (s : Settings) : Prop where
  initial : s.initialBackoff < 2 ^ 63
  max : s.maxBackoff < 2 ^ 63

/-- The settings after `resolve`. -/
structure Settings.Resolved (s : Settings) : Prop extends s.Fits where
  pos : 0 < s.initialBackoff
  le : s.initialBackoff ≤ s.maxBackoff

theorem applyDefaults_resolved {s : Settings} (hfits : s.Fits)
    (hpos : 0 < (applyDefaults s).initialBackoff) : (applyDefaults s).Resolved := by
  obtain ⟨hinitial, hmax⟩ := hfits
  have hsecond : second = 1000000000 := rfl
  refine ⟨⟨?_, ?_⟩, hpos, ?_⟩ <;> simp only [applyDefaults] <;> grind

/-- Up to 62 places the shift gives the power of two. -/
theorem wrap64_two_pow {n : Nat} (h : n < 63) : wrap64 (2 ^ n) = 2 ^ n := by
  have hle : (2 : Int) ^ n ≤ 2 ^ 62 := pow_le_pow_right₀ (by decide) (by omega)
  have hpos : (0 : Int) < 2 ^ n := by positivity
  exact wrap64_of_range (by omega) (by omega)

/-- The test for an overflow: dividing the product gives the factor back exactly when the product
fits. -/
theorem wrap64_mul_tdiv {a b : Int} (ha : 0 < a) (hb : 0 < b) :
    (wrap64 (a * b)).tdiv b = a ↔ a * b < 2 ^ 63 := by
  have hmul : 0 < a * b := Int.mul_pos ha hb
  constructor
  · intro h
    have hlt := wrap64_lt (a * b)
    rcases lt_or_ge (wrap64 (a * b)) 0 with hneg | hnonneg
    · have hquot := Int.tdiv_nonneg (neg_nonneg.2 hneg.le) hb.le
      rw [Int.neg_tdiv] at hquot
      omega
    · rw [Int.tdiv_eq_ediv_of_nonneg hnonneg] at h
      have hle := Int.ediv_mul_le (wrap64 (a * b)) hb.ne'
      rw [h] at hle
      omega
  · intro h
    rw [wrap64_of_range (by omega) h]
    exact Int.mul_tdiv_cancel a hb.ne'

section
variable {s : Settings} {attempt : Nat}

theorem nextBackoff_of_lt (h : s.Resolved) (hpos : 1 ≤ attempt) (hlt : attempt < 64) :
    nextBackoff s attempt = min s.maxBackoff (s.initialBackoff * 2 ^ (attempt - 1)) := by
  have hinit := h.pos
  have hmax := h.max
  have hpow : (0 : Int) < 2 ^ (attempt - 1) := by positivity
  have htest := wrap64_mul_tdiv hinit hpow
  unfold nextBackoff
  rw [if_neg hinit.ne', if_neg (by omega)]
  simp only [wrap64_two_pow (show attempt - 1 < 63 by omega)]
  rcases lt_or_ge (s.initialBackoff * 2 ^ (attempt - 1)) (2 ^ 63) with hfit | hover
  · rw [if_neg fun hc => hc.2 (htest.2 hfit), wrap64_of_range _ hfit]
    · grind
    · have := Int.mul_pos hinit hpow
      omega
  · rw [if_pos ⟨hpow, fun hc => absurd (htest.1 hc) (not_lt.2 hover)⟩]
    exact (min_eq_left (hmax.le.trans hover)).symm

/-- From attempt 64 on the multiplier is no longer positive, the test for an overflow is skipped,
and the backoff is not positive either. -/
theorem nextBackoff_of_le (h : s.Resolved) (hle : 64 ≤ attempt) : nextBackoff s attempt ≤ 0 := by
  have hinit := h.pos
  have hdvd : (2 ^ 63 : Int) ∣ 2 ^ (attempt - 1) := pow_dvd_pow 2 (by omega)
  obtain ⟨hmult, hdvd'⟩ := wrap64_of_dvd hdvd
  have hcand := (wrap64_of_dvd (hdvd'.mul_left s.initialBackoff)).1
  have hmax : 0 ≤ s.maxBackoff := hinit.le.trans h.le
  unfold nextBackoff
  rw [if_neg hinit.ne', if_neg (by omega), if_neg fun hc => absurd hc.1 (not_lt.2 hmult),
    if_neg (not_lt.2 (hcand.trans hmax))]
  exact hcand

/-- The backoff after an attempt is the first one doubled with every attempt, up to the maximum:
between the two, and not below the backoff of an earlier attempt. -/
structure WellBehaved (s : Settings) (attempt : Nat) : Prop where
  value : nextBackoff s attempt = min s.maxBackoff (s.initialBackoff * 2 ^ (attempt - 1))
  lower : s.initialBackoff ≤ nextBackoff s attempt
  upper : nextBackoff s attempt ≤ s.maxBackoff
  mono : ∀ earlier, 1 ≤ earlier → earlier ≤ attempt → nextBackoff s earlier ≤ nextBackoff s attempt

/-- The backoff of settings with their defaults is well behaved exactly for the attempts below 64.
-/
theorem wellBehaved_iff (settings : Settings) (hfits : settings.Fits)
    (hinit : 0 < (applyDefaults settings).initialBackoff) (hpos : 1 ≤ attempt) :
    WellBehaved (applyDefaults settings) attempt ↔ attempt < 64 := by
  have h := applyDefaults_resolved hfits hinit
  generalize applyDefaults settings = s at h hinit
  constructor
  · intro hw
    by_contra hc
    have hvanishes := nextBackoff_of_le h (not_lt.1 hc)
    exact absurd (hw.lower.trans hvanishes) (not_le.2 hinit)
  · intro hlt
    have hdouble : ∀ n : Nat, s.initialBackoff ≤ s.initialBackoff * 2 ^ n := fun n =>
      le_mul_of_one_le_right h.pos.le (one_le_pow₀ (by decide))
    have hvalue := nextBackoff_of_lt h hpos hlt
    refine ⟨hvalue, ?_, ?_, fun earlier hfirst hle => ?_⟩
    · rw [hvalue]
      exact le_min h.le (hdouble _)
    · rw [hvalue]
      exact min_le_left _ _
    · rw [hvalue, nextBackoff_of_lt h hfirst (by omega)]
      refine min_le_min_left _ (mul_le_mul_of_nonneg_left ?_ h.pos.le)
      exact pow_le_pow_right₀ (by decide) (by omega)

end

/-- Settings with a hundred attempts. -/
def patient : Settings where
  maxAttempts := 100
  initialBackoff := second
  maxBackoff := 5 * second

theorem patient_wellBehaved : WellBehaved (applyDefaults patient) 63 :=
  (wellBehaved_iff patient ⟨by decide, by decide⟩ (by decide) (by decide)).2 (by decide)

/-- After five seconds at attempt 63 there is no wait at all at attempt 65, where the shift has left
nothing of the multiplier. -/
theorem patient_backoff_vanishes :
    nextBackoff (applyDefaults patient) 63 = 5 * second ∧
      nextBackoff (applyDefaults patient) 65 = 0 ∧ ¬ WellBehaved (applyDefaults patient) 65 := by
  have hzero : nextBackoff (applyDefaults patient) 65 = 0 := by decide +kernel
  refine ⟨by decide +kernel, hzero, fun h => ?_⟩
  have hlower := h.lower
  rw [hzero] at hlower
  exact absurd hlower (by decide)

end Eviction

end Keyval
