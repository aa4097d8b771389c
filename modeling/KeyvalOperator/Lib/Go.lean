import Mathlib.Data.Finmap
import Mathlib.Data.List.Infix
import Mathlib.Data.List.Sort
import Mathlib.Tactic.Common

/-!
# The Go standard library

The part of Go's strings, maps and integers that controllers are written with: byte strings by
their characters (`hasPrefix`, `cutByte`, `contains`, `equalFold`), maps as finite maps whose
missing keys read as the zero value (`Map.str`), 64-bit `int` arithmetic (`wrap64`) and decimal
text (`parseInt`).
-/

namespace Go

open List

/-! ## Strings -/

theorem append_cases {x y s t : String} (h : x ++ s = y ++ t) :
    (∃ u, y = x ++ u ∧ s = u ++ t) ∨ ∃ u, x = y ++ u ∧ t = u ++ s := by
  have hlist := congrArg String.toList h
  rw [String.toList_append, String.toList_append, append_eq_append_iff] at hlist
  have htext {a b : String} {l : List Char} (heq : a.toList = b.toList ++ l) :
      a = b ++ String.ofList l := by
    rw [← String.toList_inj, String.toList_append, String.toList_ofList, heq]
  have htext' {a b : String} {l : List Char} (heq : a.toList = l ++ b.toList) :
      a = String.ofList l ++ b := by
    rw [← String.toList_inj, String.toList_append, String.toList_ofList, heq]
  rcases hlist with ⟨l, hy, hs⟩ | ⟨l, hx, ht⟩
  · exact .inl ⟨_, htext hy, htext' hs⟩
  · exact .inr ⟨_, htext hx, htext' ht⟩

/-- `strings.HasPrefix`. -/
def hasPrefix (s p : String) : Bool := p.toList.isPrefixOf s.toList

theorem hasPrefix_iff {s p : String} : hasPrefix s p = true ↔ p.toList <+: s.toList :=
  List.isPrefixOf_iff_prefix

/-- `strings.TrimPrefix`. -/
def trimPrefix (s p : String) : String :=
  if hasPrefix s p then String.ofList (s.toList.drop p.toList.length) else s

/-- `strings.HasSuffix`. -/
def hasSuffix (s p : String) : Bool := p.toList.isSuffixOf s.toList

/-- `strings.TrimSuffix`. -/
def trimSuffix (s p : String) : String :=
  if hasSuffix s p then String.ofList (s.toList.take (s.toList.length - p.toList.length)) else s

/-- `strings.Contains`. -/
def contains (s sub : String) : Bool := s.toList.tails.any fun l => sub.toList.isPrefixOf l

/-- The text before the first `c`, when there is a `c` and text before it:
`if i := strings.IndexByte(s, c); i > 0 { s[:i] }`. -/
def cutByte (s : String) (c : Char) : Option String :=
  let l := s.toList.takeWhile (· ≠ c)
  if l ≠ [] ∧ l.length < s.toList.length then some (String.ofList l) else none

/-- The texts before and after the first `c`, when there is a `c`: `s[:i]` and `s[i+1:]` for
`i := strings.IndexByte(s, c)`. -/
def cut (s : String) (c : Char) : Option (String × String) :=
  let l := s.toList.takeWhile (· ≠ c)
  if l.length < s.toList.length then
    some (String.ofList l, String.ofList (s.toList.drop (l.length + 1)))
  else none

/-- `strings.Split` at one character. -/
def split (s : String) (c : Char) : List String := (s.toList.splitOn c).map String.ofList

/-- The text after the last `c`, when there is a `c`: `s[strings.LastIndex(s, c)+1:]`. -/
def afterLast (s : String) (c : Char) : Option (List Char) :=
  if c ∈ s.toList then some (s.toList.reverse.takeWhile (· ≠ c)).reverse else none

/-- The simple case folding of `strings.EqualFold`, exact where one side is ASCII: the long s
and the Kelvin sign are the only other characters that fold to an ASCII letter. -/
def foldChar (c : Char) : Char :=
  if c = 'ſ' then 's' else if c = Char.ofNat 0x212A then 'k' else c.toLower

/-- `strings.EqualFold`. -/
def equalFold (s t : String) : Bool := s.toList.map foldChar = t.toList.map foldChar

/-- `unicode.ToUpper` as far as it yields ASCII letters. -/
def upperChar (c : Char) : Char :=
  if c = 'ſ' then 'S' else if c = 'ı' then 'I' else c.toUpper

/-- `strings.Contains(strings.ToUpper(s), sub)`. -/
def upperContains (s sub : String) : Bool := contains (String.ofList (s.toList.map upperChar)) sub

/-- `unicode.ToLower` as far as it yields ASCII letters. -/
def lowerChar (c : Char) : Char :=
  if c = 'İ' then 'i' else if c = 'K' then 'k' else c.toLower

/-- `strings.Contains(strings.ToLower(s), sub)`. -/
def lowerContains (s sub : String) : Bool := contains (String.ofList (s.toList.map lowerChar)) sub

/-- `unicode.IsSpace`. -/
def isSpace (c : Char) : Bool :=
  let n := c.toNat
  (9 ≤ n && n ≤ 13) || n = 32 || n = 0x85 || n = 0xA0 || n = 0x1680 ||
    (0x2000 ≤ n && n ≤ 0x200A) || n = 0x2028 || n = 0x2029 || n = 0x202F || n = 0x205F || n = 0x3000

/-- The loop of `strings.Fields`; `cur` is the field read so far, in reverse. -/
def fieldsFrom (cur : List Char) : List Char → List String
  | [] => if cur = [] then [] else [String.ofList cur.reverse]
  | c :: l =>
    if isSpace c then
      if cur = [] then fieldsFrom [] l else String.ofList cur.reverse :: fieldsFrom [] l
    else fieldsFrom (c :: cur) l

/-- `strings.Fields`. -/
def fields (s : String) : List String := fieldsFrom [] s.toList

/-- `strings.TrimSpace`. -/
def trimSpace (s : String) : String :=
  String.ofList ((s.toList.dropWhile isSpace).reverse.dropWhile isSpace).reverse

/-- `strings.ToLower`, as far as it yields ASCII letters. -/
def toLower (s : String) : String := String.ofList (s.toList.map lowerChar)

/-- `strings.Trim` with one character in its cutset. -/
def trimChar (s : String) (c : Char) : String :=
  String.ofList ((s.toList.dropWhile (· = c)).reverse.dropWhile (· = c)).reverse

/-- `path.Join` of a rooted directory and a path: the elements of both, without the empty ones and
the dots; two dots take back the element before them. -/
def pathJoin (dir path : String) : String :=
  let elements := ((dir ++ "/" ++ path).toList.splitOn '/').map String.ofList
  let kept := elements.foldl (fun (acc : List String) x =>
    if x = "" ∨ x = "." then acc else if x = ".." then acc.tail else x :: acc) []
  "/" ++ "/".intercalate kept.reverse

/-- `%q` of a text without characters to escape. -/
def quote (s : String) : String := "\"" ++ s ++ "\""

/-! ## Integers -/

/-- The value of a 64-bit `int` (or `time.Duration`) computation. -/
def wrap64 (x : Int) : Int := Int.bmod x (2 ^ 64)

theorem wrap64_of_range {x : Int} (h : -2 ^ 63 ≤ x) (h' : x < 2 ^ 63) : wrap64 x = x := by
  unfold wrap64
  apply Int.bmod_eq_of_le <;> omega

theorem wrap64_lt (x : Int) : wrap64 x < 2 ^ 63 := by
  have h := Int.bmod_lt (x := x) (m := 2 ^ 64) (by decide)
  unfold wrap64
  omega

/-- A multiple of `2 ^ 63` wraps to zero or to the least number, which is one again. -/
theorem wrap64_of_dvd {x : Int} (h : 2 ^ 63 ∣ x) : wrap64 x ≤ 0 ∧ 2 ^ 63 ∣ wrap64 x := by
  have hlt := wrap64_lt x
  have hdvd : (2 ^ 63 : Int) ∣ wrap64 x := by
    have hdiff : ((2 ^ 64 : Nat) : Int) ∣ x - wrap64 x := Int.dvd_self_sub_bmod
    have hle : (2 ^ 63 : Int) ∣ ((2 ^ 64 : Nat) : Int) := ⟨2, by decide⟩
    exact (Int.dvd_iff_dvd_of_dvd_sub (hle.trans hdiff)).1 h
  obtain ⟨k, hk⟩ := hdvd
  exact ⟨by omega, ⟨k, hk⟩⟩

/-- The value of a non-empty string of decimal digits. -/
def digits? (l : List Char) : Option Nat :=
  if l ≠ [] ∧ l.all Char.isDigit then some (l.foldl (fun n c => n * 10 + (c.toNat - 48)) 0)
  else none

/-- `strconv.ParseInt(s, 10, bits)`: an optional sign, decimal digits, in range. -/
def parseInt (bits : Nat) (s : String) : Option Int :=
  let v : Option Int := match s.toList with
    | '-' :: l => (digits? l).map fun n => -(n : Int)
    | '+' :: l => (digits? l).map fun n => (n : Int)
    | l => (digits? l).map fun n => (n : Int)
  v.filter fun n => -(2 ^ (bits - 1) : Int) ≤ n ∧ n < 2 ^ (bits - 1)

theorem digits?_toDigits (n : Nat) : digits? (Nat.toDigits 10 n) = some n := by
  have hdigit : (Nat.toDigits 10 n).all Char.isDigit = true :=
    all_eq_true.2 fun c hc => Nat.isDigit_of_mem_toDigits (by decide) (by decide) hc
  have hvalue := Nat.ofDigitChars_toDigits (b := 10) (n := n) (by decide) (by decide)
  rw [Nat.ofDigitChars] at hvalue
  rw [digits?, if_pos ⟨Nat.toDigits_ne_nil, hdigit⟩]
  simpa [Nat.mul_comm] using hvalue

private theorem parseInt_natCast (bits n : Nat) :
    parseInt bits (toString n) =
      (some (n : Int)).filter fun n => -(2 ^ (bits - 1) : Int) ≤ n ∧ n < 2 ^ (bits - 1) := by
  have htext : (toString n).toList = Nat.toDigits 10 n := by
    rw [Nat.toString_eq_repr, Nat.repr_eq_ofList_toDigits, String.toList_ofList]
  unfold parseInt
  rw [htext]
  split
  · next l hl =>
    have hsign : ('-').isDigit = true :=
      Nat.isDigit_of_mem_toDigits (b := 10) (n := n) (by decide) (by decide) (hl ▸ .head _)
    cases hsign
  · next l hl =>
    have hsign : ('+').isDigit = true :=
      Nat.isDigit_of_mem_toDigits (b := 10) (n := n) (by decide) (by decide) (hl ▸ .head _)
    cases hsign
  · rw [digits?_toDigits]
    rfl

theorem parseInt_toString (bits : Nat) (n : Int) :
    parseInt bits (toString n) =
      (some n).filter fun n => -(2 ^ (bits - 1) : Int) ≤ n ∧ n < 2 ^ (bits - 1) := by
  cases n with
  | ofNat n => exact parseInt_natCast bits n
  | negSucc n =>
    have htext : (toString (Int.negSucc n)).toList = '-' :: Nat.toDigits 10 (n + 1) := by
      show ("-" ++ Nat.repr (n + 1)).toList = _
      simp [Nat.repr_eq_ofList_toDigits]
    unfold parseInt
    rw [htext]
    simp [digits?_toDigits, Int.negSucc_eq]

/-- Time in nanoseconds since Go's zero time, and durations in nanoseconds. -/
abbrev Time := Int
abbrev Duration := Int

def millisecond : Duration := 1000000
def second : Duration := 1000000000
def minute : Duration := 60 * second

/-- `t.Sub(u)`, which saturates. -/
def timeSub (t u : Time) : Duration := max (-(2 ^ 63)) (min (2 ^ 63 - 1) (t - u))

/-- `time.Time.IsZero`. -/
def isZeroTime (t : Time) : Bool := t = 0

/-! ## Maps -/

/-- A `map[string]V`. -/
abbrev Map (V : Type) := Finmap fun _ : String => V

/-- `m[k]` of a `map[string]string`: the empty string when the key is missing. -/
def Map.str (m : Map String) (k : String) : String := (m.lookup k).getD ""

theorem Map.str_of_lookup {m : Map String} {k v : String} (h : m.lookup k = some v) :
    Map.str m k = v := by
  rw [Map.str, h]
  rfl

@[simp] theorem Map.str_insert_self (m : Map String) (k v : String) :
    Map.str (m.insert k v) k = v := by
  simp [Map.str, Finmap.lookup_insert]

@[simp] theorem Map.str_insert_ne (m : Map String) {k k' : String} (v : String) (h : k' ≠ k) :
    Map.str (m.insert k v) k' = Map.str m k' := by
  simp [Map.str, Finmap.lookup_insert_of_ne _ h]

theorem Map.lookup_union {V : Type} (a b : Map V) (k : String) :
    (a ∪ b).lookup k = (a.lookup k).or (b.lookup k) := by
  by_cases h : k ∈ a
  · obtain ⟨v, hv⟩ := Finmap.mem_iff.1 h
    rw [Finmap.lookup_union_left h, hv, Option.some_or]
  · rw [Finmap.lookup_union_right h, Finmap.lookup_eq_none.2 h, Option.none_or]

theorem Map.str_union (a b : Map String) (k : String) :
    Map.str (a ∪ b) k = (a.lookup k).getD (Map.str b k) := by
  unfold Map.str
  rw [Map.lookup_union]
  cases a.lookup k <;> rfl

theorem Map.str_union_of_notMem {m m' : Map String} {k : String} (h : k ∉ m') :
    Map.str (m ∪ m') k = Map.str m k := by
  unfold Map.str
  rw [Map.lookup_union, Finmap.lookup_eq_none.2 h, Option.or_none]

theorem Map.all_iff {V : Type} {f : String → V → Bool} {m : Map V} :
    m.all f = true ↔ ∀ k v, m.lookup k = some v → f k v = true := by
  have hfold : ∀ (l : List (Sigma fun _ : String => V)) (b : Bool),
      l.foldl (fun b e => b && f e.1 e.2) b = (b && l.all fun e => f e.1 e.2) := by
    intro l
    induction l with
    | nil => simp
    | cons e l ih => simp [ih, Bool.and_assoc]
  induction m using Finmap.induction_on with
  | H s =>
    show s.entries.foldl (fun b e => b && f e.1 e.2) true = true ↔ _
    rw [hfold, Bool.true_and, all_eq_true]
    constructor
    · intro h k v hv
      exact h ⟨k, v⟩ (of_mem_dlookup hv)
    · intro h e he
      exact h e.1 e.2 (mem_dlookup s.nodupKeys he)

/-- The keys of a map in ascending order (`sort.Strings` of the keys). -/
def Map.sortedKeys {V : Type} (m : Map V) : List String :=
  Quot.liftOn m.keys.val (List.insertionSort (· ≤ ·)) fun l1 l2 (h : l1.Perm l2) => by
    have hperm : (l1.insertionSort (· ≤ ·)).Perm (l2.insertionSort (· ≤ ·)) :=
      (perm_insertionSort _ l1).trans (h.trans (perm_insertionSort _ l2).symm)
    exact hperm.eq_of_pairwise' (pairwise_insertionSort _ l1)
      (pairwise_insertionSort _ l2)

@[simp] theorem Map.mem_sortedKeys {V : Type} {m : Map V} {k : String} :
    k ∈ m.sortedKeys ↔ k ∈ m := by
  rw [← Finmap.mem_keys]
  unfold Map.sortedKeys
  obtain ⟨⟨l⟩, hl⟩ := m.keys
  exact mem_insertionSort _

theorem Map.nodup_sortedKeys {V : Type} (m : Map V) : m.sortedKeys.Nodup := by
  unfold Map.sortedKeys
  obtain ⟨⟨l⟩, hl⟩ := m.keys
  exact (perm_insertionSort _ l).nodup_iff.2 hl

theorem Map.sortedKeys_pairwise {V : Type} (m : Map V) : m.sortedKeys.Pairwise (· < ·) := by
  have hle : m.sortedKeys.Pairwise (· ≤ ·) := by
    unfold Map.sortedKeys
    obtain ⟨⟨l⟩, hl⟩ := m.keys
    exact pairwise_insertionSort _ l
  refine (hle.and m.nodup_sortedKeys).imp fun ⟨hab, hne⟩ => ?_
  by_contra hlt
  exact hne (String.le_antisymm hab (String.not_lt.1 hlt))

theorem Map.sortedKeys_filter {V : Type} {m u : Map V} (h : ∀ k ∈ m, k ∈ u) :
    m.sortedKeys = u.sortedKeys.filter (· ∈ m) := by
  have hperm : m.sortedKeys.Perm (u.sortedKeys.filter (· ∈ m)) := by
    rw [perm_ext_iff_of_nodup m.nodup_sortedKeys (u.nodup_sortedKeys.filter _)]
    intro k
    simp only [mem_filter, Map.mem_sortedKeys, decide_eq_true_eq]
    exact ⟨fun hk => ⟨h k hk, hk⟩, fun hk => hk.2⟩
  have hle {a b : String} (h : a < b) : a ≤ b := String.not_lt.1 (String.lt_asymm h)
  exact hperm.eq_of_pairwise' (m.sortedKeys_pairwise.imp hle)
    ((u.sortedKeys_pairwise.filter _).imp hle)

/-- An order in which `range` may visit the entries of a map: every entry once. -/
structure Map.Order {V : Type} (m : Map V) where
  entries : List (String × V)
  nodup : (entries.map Prod.fst).Nodup
  mem_iff : ∀ k v, (k, v) ∈ entries ↔ m.lookup k = some v

/-- The comparison of two string maps by length, values and keys. -/
def Map.equal (a b : Map String) : Bool :=
  a.keys.card = b.keys.card && a.all (fun k v => Map.str b k = v) && b.all (fun k _ => k ∈ a)

theorem Map.equal_iff {a b : Map String} : Map.equal a b = true ↔ a = b := by
  simp only [Map.equal, Bool.and_eq_true, Map.all_iff, decide_eq_true_eq]
  constructor
  · rintro ⟨⟨hcard, hvalues⟩, hkeys⟩
    have hsub : b.keys ⊆ a.keys := by
      intro k hk
      obtain ⟨v, hv⟩ := Finmap.mem_iff.1 (Finmap.mem_keys.1 hk)
      exact Finmap.mem_keys.2 (hkeys k v hv)
    have hsame : b.keys = a.keys := Finset.eq_of_subset_of_card_le hsub hcard.le
    refine Finmap.ext_lookup fun k => ?_
    cases ha : a.lookup k with
    | none =>
      have hk : k ∉ b.keys := hsame ▸ fun h => Finmap.lookup_eq_none.1 ha (Finmap.mem_keys.1 h)
      exact (Finmap.lookup_eq_none.2 fun h => hk (Finmap.mem_keys.2 h)).symm
    | some v =>
      have hk : k ∈ b.keys := hsame ▸ Finmap.mem_keys.2 (Finmap.mem_of_lookup_eq_some ha)
      obtain ⟨w, hw⟩ := Finmap.mem_iff.1 (Finmap.mem_keys.1 hk)
      rw [hw, ← hvalues k v ha, Map.str_of_lookup hw]
  · rintro rfl
    exact ⟨⟨rfl, fun _ _ => Map.str_of_lookup⟩, fun _ _ => Finmap.mem_of_lookup_eq_some⟩

@[simp] theorem Map.equal_self (m : Map String) : Map.equal m m = true := Map.equal_iff.2 rfl

end Go
