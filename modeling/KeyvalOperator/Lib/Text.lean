import KeyvalOperator.Lib.Go

/-!
# Texts in parts

What the string functions of Go give on a text whose parts are known.

* `trimPrefix_append`, `cutByte_of_toList`, `cut_of_toList`: a known start, or the part before a
  character that it does not contain.
* `trimSpace_padded`: blanks around a text that neither starts nor ends with one.
* `split_lines`: a text of lines, each with its end.
-/

namespace Go

open List

/-! ## Starts -/

theorem hasPrefix_append (p s : String) : hasPrefix (p ++ s) p = true := by
  rw [hasPrefix_iff, String.toList_append]
  exact prefix_append _ _

theorem trimPrefix_append (p s : String) : trimPrefix (p ++ s) p = s := by
  rw [trimPrefix, if_pos (hasPrefix_append p s), String.toList_append, drop_left,
    String.ofList_toList]

theorem takeWhile_ne_append {l : List Char} {c : Char} (h : c ∉ l) (r : List Char) :
    (l ++ c :: r).takeWhile (· ≠ c) = l := by
  have hl : ∀ a ∈ l, decide (a ≠ c) = true := by
    intro a ha
    apply decide_eq_true
    intro heq
    exact h (heq ▸ ha)
  rw [takeWhile_append_of_pos hl, takeWhile_cons_of_neg (by simp), append_nil]

theorem cutByte_of_toList {s a : String} {c : Char} {r : List Char}
    (hs : s.toList = a.toList ++ c :: r) (ha : c ∉ a.toList) (hne : a ≠ "") :
    cutByte s c = some a := by
  have hne' : a.toList ≠ [] := by simpa using hne
  unfold cutByte
  rw [hs, takeWhile_ne_append ha, if_pos ⟨hne', by simp⟩, String.ofList_toList]

theorem cut_of_toList {s a b : String} {c : Char} (hs : s.toList = a.toList ++ c :: b.toList)
    (ha : c ∉ a.toList) : cut s c = some (a, b) := by
  have hdrop : (a.toList ++ c :: b.toList).drop (a.toList.length + 1) = b.toList := by simp
  unfold cut
  rw [hs, takeWhile_ne_append ha, if_pos (by simp), hdrop, String.ofList_toList,
    String.ofList_toList]

/-! ## Blanks -/

/-- The text has no blank at its start or end. -/
def Unpadded (s : String) : Prop :=
  (∀ c ∈ s.toList.head?, isSpace c = false) ∧ ∀ c ∈ s.toList.getLast?, isSpace c = false

instance (s : String) : Decidable (Unpadded s) :=
  decidable_of_iff (s.toList.head?.all (!isSpace ·) ∧ s.toList.getLast?.all (!isSpace ·))
    (by simp [Unpadded, Option.all_eq_true])

theorem dropWhile_of_head? {p : Char → Bool} {l : List Char} (h : ∀ c ∈ l.head?, p c = false) :
    l.dropWhile p = l := by
  cases l with
  | nil => rfl
  | cons c l => exact dropWhile_cons_of_neg (by simp [h c rfl])

/-- **Blanks around a text** are trimmed. -/
theorem trimSpace_padded {s m : String} {l r : List Char} (hs : s.toList = l ++ m.toList ++ r)
    (hl : ∀ c ∈ l, isSpace c = true) (hr : ∀ c ∈ r, isSpace c = true) (hm : Unpadded m) :
    trimSpace s = m := by
  have hleft : s.toList.dropWhile isSpace = (m.toList ++ r).dropWhile isSpace := by
    rw [hs, append_assoc, dropWhile_append_of_pos hl]
  unfold trimSpace
  rw [hleft]
  by_cases hempty : m.toList = []
  · have hall : r.dropWhile isSpace = [] := by
      have hnil : (r ++ []).dropWhile isSpace = [].dropWhile isSpace :=
        dropWhile_append_of_pos hr
      simpa using hnil
    rw [hempty, nil_append, hall]
    exact (String.toList_eq_nil_iff.1 hempty).symm
  · have hhead : ∀ c ∈ (m.toList ++ r).head?, isSpace c = false := by
      rw [head?_append_of_ne_nil _ hempty]
      exact hm.1
    have hlast : ∀ c ∈ m.toList.reverse.head?, isSpace c = false := by
      rw [head?_reverse]
      exact hm.2
    have hr' : ∀ c ∈ r.reverse, isSpace c = true := fun c hc => hr c (mem_reverse.1 hc)
    rw [dropWhile_of_head? hhead, reverse_append, dropWhile_append_of_pos hr',
      dropWhile_of_head? hlast, reverse_reverse, String.ofList_toList]

theorem trimSpace_of_unpadded {s : String} (h : Unpadded s) : trimSpace s = s :=
  trimSpace_padded (l := []) (r := []) (by simp) (by simp) (by simp) h

/-! ## Lines -/

/-- **A text of lines** that each end with a newline is split into them. -/
theorem split_lines {lines : List String} (h : ∀ line ∈ lines, '\n' ∉ line.toList) :
    split (String.join (lines.map (· ++ "\n"))) '\n' = lines ++ [""] := by
  induction lines with
  | nil => rfl
  | cons line lines ih =>
    have htext : (String.join ((line :: lines).map (· ++ "\n"))).toList =
        line.toList ++ '\n' :: (String.join (lines.map (· ++ "\n"))).toList := by
      simp [String.toList_join]
    have hrest := ih fun l hl => h l (.tail _ hl)
    unfold split at hrest ⊢
    rw [htext, splitOn_append_cons_self, splitOn_eq_singleton (h line (.head _)),
      singleton_append, map_cons, hrest, String.ofList_toList]
    rfl

end Go
