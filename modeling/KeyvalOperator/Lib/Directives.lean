import KeyvalOperator.Lib.Go

/-!
# Files of directives

Configuration files with one directive a line: a name and its arguments. Every line is read for
itself, a later directive replaces an earlier one of the same name, and names are compared without
regard to case. How a line is taken apart is a parameter (`Grammar`), which is fixed only for plain
words; `Grammar.blanks` separates words by blanks.

* `settings_append`, `settings_flatMap`: a text is read line by line.
* `settings_entry`: the first line of an entry sets its own directive, and only that one.
* `mapSettings_getLast?`: in a file with an entry for each key of a map, the directive's own entry
  or one after it decides.
-/

namespace Directives

open List

variable {w : String}

/-! ## Grammars -/

/-- A character of a plain word. -/
def plainChar (c : Char) : Bool := c.isLower || c.isDigit || c = '-'

/-- Words that are read as they stand: lower-case letters, digits and dashes. -/
def Plain (w : String) : Prop := w ≠ "" ∧ w.toList.all plainChar = true

instance (w : String) : Decidable (Plain w) := inferInstanceAs (Decidable (_ ∧ _))

/-- How a line is read: the name of its directive in lower case, and the arguments. Arguments that
cannot be read count as none. -/
structure Grammar where
  read : List Char → Option (String × List String)
  read_nil : read [] = none
  read_name : ∀ w rest, Plain w → '\n' ∉ rest →
    ∃ args, read (w.toList ++ ' ' :: rest) = some (w, args)
  read_word : ∀ w a, Plain w → Plain a → read (w.toList ++ ' ' :: a.toList) = some (w, [a])

/-! ### Blanks -/

def isBlank (c : Char) : Bool := c = ' ' || c = '\t' || c = '\r' || c = '\x0b' || c = '\x0c'

/-- The words of a line. -/
def words (line : List Char) : List (List Char) := (line.splitOnP isBlank).filter (· ≠ [])

/-- The first word of a line in lower case, and the others. -/
def readBlanks (line : List Char) : Option (String × List String) :=
  match words line with
  | [] => none
  | w :: args => some (String.ofList (w.map Char.toLower), args.map String.ofList)

theorem Plain.not_blank (h : Plain w) : ∀ c ∈ w.toList, isBlank c = false := by
  intro c hc
  have hplain := all_eq_true.1 h.2 c hc
  by_contra hblank
  simp only [Bool.not_eq_false, isBlank, Bool.or_eq_true, decide_eq_true_eq] at hblank
  rcases hblank with (((rfl | rfl) | rfl) | rfl) | rfl <;> revert hplain <;> decide

theorem Plain.not_newline (h : Plain w) : '\n' ∉ w.toList := by
  intro hmem
  have hplain := all_eq_true.1 h.2 _ hmem
  revert hplain
  decide

theorem plainChar_cases {c : Char} (h : plainChar c = true) :
    97 ≤ c.toNat ∧ c.toNat ≤ 122 ∨ 48 ≤ c.toNat ∧ c.toNat ≤ 57 ∨ c = '-' := by
  have hrange : ∀ {a b : UInt32}, (decide (c.val ≥ a) && decide (c.val ≤ b)) = true →
      a.toNat ≤ c.toNat ∧ c.toNat ≤ b.toNat := by
    intro a b h
    rw [Bool.and_eq_true, decide_eq_true_eq, decide_eq_true_eq] at h
    exact ⟨UInt32.le_iff_toNat_le.1 h.1, UInt32.le_iff_toNat_le.1 h.2⟩
  rw [plainChar, Bool.or_eq_true, Bool.or_eq_true, decide_eq_true_eq] at h
  rcases h with (h | h) | h
  · exact .inl (hrange h)
  · exact .inr (.inl (hrange h))
  · exact .inr (.inr h)

theorem toLower_of_plainChar {c : Char} (h : plainChar c = true) : c.toLower = c := by
  refine dif_neg fun hupper => ?_
  have hlow : 65 ≤ c.toNat := UInt32.le_iff_toNat_le.1 hupper.1
  have hhigh : c.toNat ≤ 90 := UInt32.le_iff_toNat_le.1 hupper.2
  rcases plainChar_cases h with h | h | rfl
  · omega
  · omega
  · revert hlow
    decide

theorem Plain.map_toLower (h : Plain w) : w.toList.map Char.toLower = w.toList := by
  refine map_congr_left (fun c hc => ?_) |>.trans (map_id _)
  exact toLower_of_plainChar (all_eq_true.1 h.2 c hc)

theorem words_cons (h : Plain w) (rest : List Char) :
    words (w.toList ++ ' ' :: rest) = w.toList :: words rest := by
  unfold words
  rw [splitOnP_append_cons_of_forall_mem h.not_blank ' ' rfl, filter_cons_of_pos]
  simpa using h.1

theorem words_plain (h : Plain w) : words w.toList = [w.toList] := by
  have hsplit : w.toList.splitOnP isBlank = [w.toList] :=
    splitOnP_eq_singleton h.not_blank
  unfold words
  rw [hsplit, filter_cons_of_pos]
  · rfl
  · simpa using h.1

/-- Words that are separated by blanks. -/
def Grammar.blanks : Grammar where
  read := readBlanks
  read_nil := rfl
  read_name w rest hw _ := by
    refine ⟨(words rest).map String.ofList, ?_⟩
    simp only [readBlanks, words_cons hw, hw.map_toLower, String.ofList_toList]
  read_word w a hw ha := by
    simp only [readBlanks, words_cons hw, words_plain ha, hw.map_toLower, map_cons,
      map_nil, String.ofList_toList]

/-! ### Numbers -/

theorem plain_repr (n : Nat) : Plain n.repr := by
  refine ⟨fun h => ?_, all_eq_true.2 fun c hc => ?_⟩
  · have hempty : (Nat.toDigits 10 n) = [] := by
      simpa [Nat.repr_eq_ofList_toDigits] using congrArg String.toList h
    exact Nat.toDigits_ne_nil hempty
  · have hmem : c ∈ Nat.toDigits 10 n := by
      simpa [Nat.repr_eq_ofList_toDigits] using hc
    have hdigit : c.isDigit = true := Nat.isDigit_of_mem_toDigits (by decide) (by decide) hmem
    simp [plainChar, hdigit]

theorem plain_toString (n : Int) : Plain (toString n) := by
  cases n with
  | ofNat n => exact plain_repr n
  | negSucc n =>
    have htext : toString (Int.negSucc n) = "-" ++ (n + 1).repr := rfl
    have hrepr := plain_repr (n + 1)
    rw [htext]
    refine ⟨by simp, ?_⟩
    rw [String.toList_append, all_append, hrepr.2]
    rfl

/-! ## Texts -/

namespace Grammar

open Go

variable (G : Grammar)

/-- The arguments of a line, if it is a directive `name`. -/
def setting (name : String) (line : List Char) : Option (List String) :=
  (G.read line).bind fun (n, args) => if n = name then some args else none

/-- The arguments that the directives `name` of a text have, in order. -/
def settings (name : String) (text : List Char) : List (List String) :=
  (text.splitOn '\n').filterMap (G.setting name)

/-- The arguments that count. -/
def effective (name : String) (text : List Char) : Option (List String) :=
  (G.settings name text).getLast?

/-- A text that starts with a key and a blank. -/
def entry (key value : String) : List Char := key.toList ++ ' ' :: value.toList

variable {G} {name key : String} {m : Map String} {p : String → Bool}

@[simp] theorem settings_nil : G.settings name [] = [] := by
  simp [settings, setting, G.read_nil]

theorem settings_append (a b : List Char) :
    G.settings name (a ++ '\n' :: b) = G.settings name a ++ G.settings name b := by
  unfold settings
  rw [splitOn_append_cons_self, filterMap_append]

theorem settings_flatMap {α : Type} (f : α → List Char) (xs : List α) (rest : List Char) :
    G.settings name (xs.flatMap (fun x => f x ++ ['\n']) ++ rest) =
      xs.flatMap (fun x => G.settings name (f x)) ++ G.settings name rest := by
  induction xs with
  | nil => rfl
  | cons x xs ih =>
    rw [flatMap_cons, flatMap_cons, append_assoc, append_assoc,
      append_assoc, singleton_append, settings_append, ih]

/-! ### Entries -/

/-- The settings on the lines of a value after its first one. -/
def further (G : Grammar) (name value : String) : List (List String) :=
  (value.toList.splitOn '\n').tail.filterMap (G.setting name)

theorem splitOn_append_of_notMem {a : List Char} (h : '\n' ∉ a) (b : List Char) :
    (a ++ b).splitOn '\n' = (b.splitOn '\n').modifyHead (a ++ ·) := by
  induction a with
  | nil =>
    rw [nil_append]
    cases b.splitOn '\n' <;> rfl
  | cons c a ih =>
    rw [mem_cons, not_or] at h
    have hc : ¬ (c == '\n') = true := by
      rw [beq_iff_eq]
      exact fun hc => h.1 hc.symm
    rw [cons_append, splitOn_cons_eq_if_modifyHead, ih h.2, if_neg hc,
      modifyHead_modifyHead]
    rfl

theorem notMem_of_mem_splitOn {text line : List Char} (h : line ∈ text.splitOn '\n') :
    '\n' ∉ line := by
  induction text generalizing line with
  | nil =>
    rw [splitOn_nil, mem_singleton] at h
    simp [h]
  | cons c text ih =>
    rw [splitOn_cons_eq_if_modifyHead] at h
    split at h
    · rcases mem_cons.1 h with rfl | h
      · simp
      · exact ih h
    · next hc =>
      obtain ⟨first, rest, hlines⟩ := exists_cons_of_ne_nil (splitOn_ne_nil '\n' text)
      rw [hlines] at ih h
      rw [modifyHead_cons] at h
      rcases mem_cons.1 h with rfl | h
      · have hfirst := ih (.head _)
        simp only [beq_iff_eq] at hc
        simp [hfirst, Ne.symm hc]
      · exact ih (.tail _ h)

/-- The first line of an entry sets its own directive; other settings are on further lines of the
value. -/
theorem settings_entry (hkey : Plain key) (value : String) :
    ∃ args, G.settings name (entry key value) =
      (if key = name then [args] else []) ++ G.further name value := by
  have hnewline : '\n' ∉ key.toList ++ [' '] := by
    simp [hkey.not_newline]
  obtain ⟨line, lines, hlines⟩ := exists_cons_of_ne_nil (splitOn_ne_nil '\n' value.toList)
  have hfirst : '\n' ∉ line := notMem_of_mem_splitOn (hlines ▸ mem_cons_self)
  obtain ⟨args, hread⟩ := G.read_name key line hkey hfirst
  refine ⟨args, ?_⟩
  have hsplit : (entry key value).splitOn '\n' = (key.toList ++ ' ' :: line) :: lines := by
    have happ := splitOn_append_of_notMem hnewline value.toList
    rw [hlines, append_assoc] at happ
    simpa [entry] using happ
  have hsetting : G.setting name (key.toList ++ ' ' :: line) =
      if key = name then some args else none := by
    rw [setting, hread]
    rfl
  rw [settings, further, hsplit, hlines, filterMap_cons, hsetting, tail_cons]
  by_cases hname : key = name
  · simp only [if_pos hname, singleton_append]
  · simp only [if_neg hname, nil_append]

theorem settings_entry_ne (hkey : Plain key) (hne : key ≠ name) (value : String) :
    G.settings name (entry key value) = G.further name value := by
  obtain ⟨args, h⟩ : ∃ args, G.settings name (entry key value) =
      (if key = name then [args] else []) ++ G.further name value := settings_entry hkey value
  rw [h, if_neg hne, nil_append]

theorem settings_entry_self (hkey : Plain key) (value : String) :
    ∃ args, G.settings key (entry key value) = args :: G.further key value := by
  obtain ⟨args, h⟩ : ∃ args, G.settings key (entry key value) =
      (if key = key then [args] else []) ++ G.further key value := settings_entry hkey value
  rw [if_pos rfl] at h
  exact ⟨args, h⟩

theorem further_of_notMem {value : String} (h : '\n' ∉ value.toList) :
    G.further name value = [] := by
  unfold further
  rw [splitOn_eq_singleton h]
  rfl

theorem settings_entry_plain (hname : Plain name) {value : String} (hvalue : Plain value) :
    G.settings name (entry name value) = [[value]] := by
  have hnewline : '\n' ∉ entry name value := by
    simp [entry, hname.not_newline, hvalue.not_newline]
  unfold settings
  rw [splitOn_eq_singleton hnewline]
  simp [setting, entry, G.read_word name value hname hvalue]

/-! ### Files of a map -/

section
variable (G) (name)

/-- The settings that the entry of a key makes, if there is one. -/
def contribution (m : Map String) (key : String) : List (List String) :=
  if key ∈ m then G.settings name (entry key (Map.str m key)) else []

/-- The settings of a file with an entry for each key of `m` that `p` keeps, in their order. -/
def mapSettings (m : Map String) (p : String → Bool) : List (List String) :=
  (m.sortedKeys.filter p).flatMap (G.contribution name m)

/-- The settings of the entries after that of the directive itself. -/
def later (m : Map String) (p : String → Bool) : List (List String) :=
  G.mapSettings name m fun key => p key && name < key

end

theorem contribution_of_notMem (h : key ∉ m) :
    G.contribution name m key = [] := if_neg h

theorem contribution_congr {m' : Map String} (h : m.lookup key = m'.lookup key) :
    G.contribution name m key = G.contribution name m' key := by
  have hmem : key ∈ m ↔ key ∈ m' := by
    rw [← Finmap.lookup_isSome, ← Finmap.lookup_isSome, h]
  have hstr : Map.str m key = Map.str m' key := by
    rw [Map.str, Map.str, h]
  unfold contribution
  simp only [hmem, hstr]

theorem contribution_of_lookup {value : String} (h : m.lookup key = some value) :
    G.contribution name m key = G.settings name (entry key value) := by
  rw [contribution, if_pos (Finmap.mem_of_lookup_eq_some h), Map.str_of_lookup h]

theorem contribution_quiet (hkey : Plain key) (hne : key ≠ name)
    (h : ∀ value, m.lookup key = some value → '\n' ∉ value.toList) :
    G.contribution name m key = [] := by
  cases hlookup : m.lookup key with
  | none => exact contribution_of_notMem (Finmap.lookup_eq_none.1 hlookup)
  | some value =>
    rw [contribution_of_lookup hlookup, settings_entry_ne hkey hne,
      further_of_notMem (h value hlookup)]

theorem flatMap_filter_of_nil {α β : Type} {f : α → List β} {q : α → Bool} {l : List α}
    (h : ∀ x ∈ l, q x = false → f x = []) : (l.filter q).flatMap f = l.flatMap f := by
  induction l with
  | nil => rfl
  | cons x l ih =>
    have ih := ih fun y hy => h y (.tail _ hy)
    rw [filter_cons]
    split
    · rw [flatMap_cons, flatMap_cons, ih]
    · next hq => rw [flatMap_cons, h x (.head _) (by simpa using hq), ih, nil_append]

theorem mapSettings_mono {m u : Map String} (p : String → Bool) (hsub : ∀ key ∈ m, key ∈ u) :
    G.mapSettings name m p = (u.sortedKeys.filter p).flatMap (G.contribution name m) := by
  rw [mapSettings, Map.sortedKeys_filter hsub, filter_comm]
  exact flatMap_filter_of_nil fun key _ hkey => contribution_of_notMem (by simpa using hkey)

theorem mapSettings_congr {m' : Map String}
    (h : ∀ key, p key = true → G.contribution name m key = G.contribution name m' key) :
    G.mapSettings name m p = G.mapSettings name m' p := by
  rw [mapSettings_mono p fun key hkey => Finmap.mem_union.2 (.inl hkey),
    mapSettings_mono p fun key hkey => Finmap.mem_union.2 (.inr hkey)]
  refine flatMap_congr fun key hkey => ?_
  exact h key (mem_filter.1 hkey).2

theorem mapSettings_eq_nil :
    G.mapSettings name m p = [] ↔ ∀ key, p key = true → G.contribution name m key = [] := by
  rw [mapSettings, flatMap_eq_nil_iff]
  constructor
  · intro h key hp
    by_cases hkey : key ∈ m
    · exact h key (mem_filter.2 ⟨Map.mem_sortedKeys.2 hkey, hp⟩)
    · exact contribution_of_notMem hkey
  · intro h key hkey
    exact h key (mem_filter.1 hkey).2

/-- No entry after that of a directive sets it when all keys are plain and all values on one line.
-/
theorem later_eq_nil (h : ∀ key ∈ m, Plain key ∧ '\n' ∉ (Map.str m key).toList) :
    G.later name m p = [] := by
  rw [later, mapSettings_eq_nil]
  intro key hkey
  by_cases hmem : key ∈ m
  · have hne : key ≠ name := by
      rintro rfl
      simp at hkey
    refine contribution_quiet (h key hmem).1 hne fun value hvalue => ?_
    rw [← Map.str_of_lookup hvalue]
    exact (h key hmem).2
  · exact contribution_of_notMem hmem

/-- The last setting of a file comes from an entry after that of the directive, or from that. -/
theorem mapSettings_getLast? (hname : Plain name)
    (hp : p name = true) (hmem : name ∈ m) :
    (G.mapSettings name m p).getLast? =
      (G.later name m p).getLast?.or (G.settings name (entry name (Map.str m name))).getLast? := by
  obtain ⟨before, after, hkeys⟩ := append_of_mem (Map.mem_sortedKeys.2 hmem)
  have hsorted := m.sortedKeys_pairwise
  rw [hkeys, pairwise_append, pairwise_cons] at hsorted
  obtain ⟨-, ⟨hafter, -⟩, hbefore⟩ := hsorted
  have hlater : m.sortedKeys.filter (fun key => p key && name < key) = after.filter p := by
    have hleft : before.filter (fun key => p key && name < key) = [] := by
      rw [filter_eq_nil_iff]
      intro key hkey
      have hlt : ¬ name < key := String.lt_asymm (hbefore key hkey name (.head _))
      simp [hlt]
    have hright : after.filter (fun key => p key && name < key) = after.filter p := by
      refine filter_congr fun key hkey => ?_
      simp [hafter key hkey]
    rw [hkeys, filter_append, hleft, filter_cons_of_neg (by simp), hright,
      nil_append]
  obtain ⟨args, hown⟩ : ∃ args, G.settings name (entry name (Map.str m name)) =
      args :: G.further name (Map.str m name) := settings_entry_self hname _
  have hcontribution : G.contribution name m name =
      G.settings name (entry name (Map.str m name)) := if_pos hmem
  rw [later, mapSettings, mapSettings, hlater, hkeys, filter_append,
    filter_cons_of_pos hp, flatMap_append, flatMap_cons, hcontribution,
    getLast?_append, getLast?_append, hown]
  rw [getLast?_cons, Option.or_assoc, Option.some_or]

end Grammar

end Directives
