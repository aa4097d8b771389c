import KeyvalOperator.Core.Storage
import KeyvalOperator.Lib.Text
import KeyvalOperator.Ops.Replication

/-!
# The names of a pod

The pod with the ordinal `n` of a cluster has the name `podName`, from which its DNS name and the
name of its claim are made. The operator reads the ordinal and the name back from them.

* `ordinal_name`: the ordinal in the name of a pod.
* `matchPodByHost_podDNSName`: the pod that a DNS name names.
* `podNameFromPVC_dataPVCName`: the pod of a claim.
* `names_inverse`: **a pod's names are read back**.
-/

namespace Keyval

open Go List

/-! ## Ordinals -/

section
variable {l : List Char} {cluster : String} {n : Nat}

theorem le_foldl_digits (l : List Char) (m : Nat) :
    m ≤ l.foldl (fun n c => n * 10 + (c.toNat - 48)) m := by
  induction l generalizing m with
  | nil => exact le_rfl
  | cons c l ih =>
    have hle := ih (m * 10 + (c.toNat - 48))
    rw [foldl_cons]
    omega

theorem foldl_wrap64 {m : Nat} (h : l.foldl (fun n c => n * 10 + (c.toNat - 48)) m < 2 ^ 63) :
    l.foldl (fun n c => wrap64 (n * 10 + (c.toNat - 48 : Nat))) (m : Int) =
      (l.foldl (fun n c => n * 10 + (c.toNat - 48)) m : Nat) := by
  induction l generalizing m with
  | nil => rfl
  | cons c l ih =>
    rw [foldl_cons] at h
    have hle := le_foldl_digits l (m * 10 + (c.toNat - 48))
    have hwrap : wrap64 ((m : Int) * 10 + (c.toNat - 48 : Nat)) =
        ((m * 10 + (c.toNat - 48) : Nat) : Int) := by
      rw [wrap64_of_range (by omega) (by omega)]
      push_cast
      rfl
    rw [foldl_cons, foldl_cons, hwrap]
    exact ih h

/-- The name of the StatefulSet's `n`-th pod. -/
def podName (cluster : String) (n : Nat) : String := cluster ++ "-" ++ toString n

theorem afterLast_podName (cluster : String) (n : Nat) :
    afterLast (podName cluster n) '-' = some (Nat.toDigits 10 n) := by
  have htext : (podName cluster n).toList = cluster.toList ++ '-' :: Nat.toDigits 10 n := by
    rw [podName, String.toList_append, String.toList_append, Nat.toString_eq_repr,
      Nat.repr_eq_ofList_toDigits, String.toList_ofList]
    simp
  have hdigits : ∀ c ∈ (Nat.toDigits 10 n).reverse, decide (c ≠ '-') = true := by
    intro c hc
    have hdigit : c.isDigit = true :=
      Nat.isDigit_of_mem_toDigits (by decide) (by decide) (mem_reverse.1 hc)
    refine decide_eq_true ?_
    rintro rfl
    cases hdigit
  unfold afterLast
  rw [htext, if_pos (by simp), reverse_append, reverse_cons, append_assoc,
    takeWhile_append_of_pos hdigits]
  simp

theorem ordinal_name (cluster : String) (hn : n < 2 ^ 63) : ordinal (podName cluster n) = n := by
  have hdigits := digits?_toDigits n
  unfold digits? at hdigits
  unfold ordinal
  rw [afterLast_podName]
  dsimp only
  split at hdigits
  · next hall =>
    have hvalue := Option.some.inj hdigits
    rw [if_neg (by simpa using hall)]
    refine (foldl_wrap64 (m := 0) (by rw [hvalue]; exact hn)).trans ?_
    rw [hvalue]
  · cases hdigits

end

/-! ## DNS names and claims -/

section
variable (cr : KeyValCluster) {n : Nat}

theorem podDNSName_podName (hn : n < 2 ^ 63) :
    podDNSName cr (podName cr.name n) =
      podName cr.name n ++ "." ++ headlessName cr ++ "." ++ cr.ns ++ ".svc" := by
  have hpos : 0 ≤ ordinal (podName cr.name n) := by
    rw [ordinal_name cr.name hn]
    omega
  rw [podDNSName, if_pos hpos, ordinal_name cr.name hn]
  rfl

theorem dot_notMem_podName (h : '.' ∉ cr.name.toList) : '.' ∉ (podName cr.name n).toList := by
  have hdigits : '.' ∉ Nat.toDigits 10 n := by
    intro hmem
    have hdigit : ('.').isDigit = true :=
      Nat.isDigit_of_mem_toDigits (by decide) (by decide) hmem
    cases hdigit
  simp [podName, h, hdigits]

theorem matchPodByHost_podDNSName (h : '.' ∉ cr.name.toList) (hn : n < 2 ^ 63) {pods : List Pod}
    (hp : podName cr.name n ∈ pods.map (·.name)) :
    Replication.matchPodByHost pods (podDNSName cr (podName cr.name n)) = podName cr.name n := by
  have hne : podName cr.name n ≠ "" := by simp [podName]
  have hcut : cutByte (podDNSName cr (podName cr.name n)) '.' = some (podName cr.name n) := by
    apply cutByte_of_toList (r := (headlessName cr ++ "." ++ cr.ns ++ ".svc").toList)
    · rw [podDNSName_podName cr hn]
      simp
    · exact dot_notMem_podName cr h
    · exact hne
  unfold Replication.matchPodByHost
  rw [hcut]
  exact if_pos hp

theorem podNameFromPVC_dataPVCName :
    podNameFromPVC cr (dataPVCName (podName cr.name n)) = podName cr.name n := by
  have htext : dataPVCName (podName cr.name n) = pvcPrefix cr ++ toString n := by
    simp [dataPVCName, pvcPrefix, podName, String.append_assoc]
  have hne : toString n ≠ "" := by
    rw [Nat.toString_eq_repr]
    exact Nat.repr_ne_empty
  unfold podNameFromPVC
  rw [htext, if_neg (not_not.2 (hasPrefix_append _ _)), trimPrefix_append]
  exact if_neg hne

/-- **The names of a pod are read back**: its ordinal from its name, the name from its DNS name in
every list of pods with it, and the name from that of its claim. -/
theorem names_inverse (h : '.' ∉ cr.name.toList) (hn : n < 2 ^ 63) :
    ordinal (podName cr.name n) = n ∧
      (∀ pods : List Pod, podName cr.name n ∈ pods.map (·.name) →
        Replication.matchPodByHost pods (podDNSName cr (podName cr.name n)) = podName cr.name n) ∧
      podNameFromPVC cr (dataPVCName (podName cr.name n)) = podName cr.name n :=
  ⟨ordinal_name cr.name hn, fun _ hp => matchPodByHost_podDNSName cr h hn hp,
    podNameFromPVC_dataPVCName cr⟩

end

/-- A cluster with digits in its name. -/
def shop : KeyValCluster := clusterNamed "shop-1"

theorem names_inverse_shop :
    '.' ∉ shop.name.toList ∧ ordinal (podName shop.name 12) = (12 : Nat) ∧
      Replication.matchPodByHost
          [{ name := "shop-1-1", ns := "prod" }, { name := "shop-1-12", ns := "prod" }]
          (podDNSName shop (podName shop.name 12)) = podName shop.name 12 ∧
      podNameFromPVC shop (dataPVCName (podName shop.name 12)) = podName shop.name 12 := by
  obtain ⟨hordinal, hhost, hclaim⟩ := names_inverse shop (n := 12) (by decide) (by decide)
  exact ⟨by decide, hordinal, hhost _ (by decide), hclaim⟩

end Keyval
