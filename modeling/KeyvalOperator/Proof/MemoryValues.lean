import KeyvalOperator.Lib.Directives
import KeyvalOperator.Lib.Text
import KeyvalOperator.Proof.ConfigTruth

/-!
# Memory sizes

The server and the operator read the units of a memory size each in their own way: the server has
`k`, `m` and `g` as powers of 1000, the operator as powers of 1024. `ApplyRedisRuntime` sends the
value as the user wrote it and compares what `CONFIG GET` reports, a number of bytes.

* `differs_set_iff`: **a value that was just set differs again** when its unit is `k`, `m` or `g`.
* `live_after_applied`: what the parameters are after a call that was applied.
* `inSync_iff`: **a call finds the pods in sync** exactly when nothing differs.
* `converges_iff`: when a second call finds nothing to do.
-/

namespace Keyval.RuntimeConfig

open Go Interact Interact.Prog Resources Directives List

variable {res : RuntimeResult} {ds us : List Char} {n : Nat} {F : Formats} {S : Server}
  {pods : List Pod} {t : Trace} {d : Discovery} {hash : String} {pods' : List Pod} {p : Pod}

/-! ## Texts -/

section
variable {c : Char} {l : List Char} {s : String}

theorem isSpace_of_range (h : 45 ≤ c.toNat) (h' : c.toNat ≤ 122) : isSpace c = false := by
  simp only [isSpace, Bool.or_eq_false_iff, Bool.and_eq_false_iff, decide_eq_false_iff_not]
  omega

theorem isSpace_of_plainChar (h : plainChar c = true) : isSpace c = false := by
  rcases plainChar_cases h with h | h | rfl
  · exact isSpace_of_range (by omega) (by omega)
  · exact isSpace_of_range (by omega) (by omega)
  · decide

theorem isSpace_of_toLower (h : plainChar c.toLower = true) : isSpace c = false := by
  by_cases hupper : c.val ≥ 'A'.val ∧ c.val ≤ 'Z'.val
  · simp only [ge_iff_le, UInt32.le_iff_toNat_le] at hupper
    change 65 ≤ c.toNat ∧ c.toNat ≤ 90 at hupper
    exact isSpace_of_range (by omega) (by omega)
  · have hsame : c.toLower = c := dif_neg hupper
    rw [hsame] at h
    exact isSpace_of_plainChar h

theorem trimSpace_ofList (h : ∀ c ∈ l, isSpace c = false) :
    trimSpace (String.ofList l) = String.ofList l := by
  refine trimSpace_of_unpadded ⟨fun c hc => h c ?_, fun c hc => h c ?_⟩
  · rw [String.toList_ofList] at hc
    exact mem_of_mem_head? hc
  · rw [String.toList_ofList] at hc
    exact mem_of_mem_getLast? hc

theorem lowerChar_of_plainChar (h : plainChar c.toLower = true) : lowerChar c = c.toLower := by
  unfold lowerChar
  split
  · next hc =>
    subst hc
    revert h
    decide
  · split
    · next hc =>
      subst hc
      revert h
      decide
    · rfl

theorem plainChar_of_isDigit (h : c.isDigit = true) : plainChar c = true := by
  simp [plainChar, h]

theorem all_isDigit_of_digits (h : digits? ds = some n) : ds ≠ [] ∧ ∀ c ∈ ds, c.isDigit = true := by
  unfold digits? at h
  split at h
  · next hds => exact ⟨hds.1, all_eq_true.1 hds.2⟩
  · cases h

theorem parseInt_of_digit (bits : Nat) (hc : c.isDigit = true) :
    parseInt bits (String.ofList (c :: l)) = ((digits? (c :: l)).map fun n => (n : Int)).filter
      fun n => -(2 ^ (bits - 1) : Int) ≤ n ∧ n < 2 ^ (bits - 1) := by
  unfold parseInt
  rw [String.toList_ofList]
  split
  · next heq =>
    cases heq
    cases hc
  · next heq =>
    cases heq
    cases hc
  · rfl

theorem digits?_append (hne : us ≠ []) (h : ∀ c ∈ us, c.isDigit = false) :
    digits? (ds ++ us) = none := by
  obtain ⟨c, us, rfl⟩ := exists_cons_of_ne_nil hne
  unfold digits?
  rw [if_neg]
  rintro ⟨-, hall⟩
  have hc := all_eq_true.1 hall c (by simp)
  rw [h c (.head _)] at hc
  cases hc

end

/-! ## Units -/

/-- The units of a memory size in a configuration file of the server. -/
inductive MemoryUnit
  | none
  | b
  | k
  | kb
  | m
  | mb
  | g
  | gb
  deriving DecidableEq

namespace MemoryUnit

/-- The unit as it is written. -/
def text : MemoryUnit → String
  | none => ""
  | b => "b"
  | k => "k"
  | kb => "kb"
  | m => "m"
  | mb => "mb"
  | g => "g"
  | gb => "gb"

/-- The bytes of the unit in Redis. -/
def redisBytes : MemoryUnit → Nat
  | none | b => 1
  | k => 1000
  | kb => 1024
  | m => 1000 ^ 2
  | mb => 1024 ^ 2
  | g => 1000 ^ 3
  | gb => 1024 ^ 3

/-- The bytes of the unit in the operator. -/
def operatorBytes : MemoryUnit → Nat
  | none | b => 1
  | k | kb => 1024
  | m | mb => 1024 ^ 2
  | g | gb => 1024 ^ 3

/-- The unit is a power of ten in Redis. -/
def Decimal (u : MemoryUnit) : Prop := u = k ∨ u = m ∨ u = g

instance (u : MemoryUnit) : Decidable u.Decimal := inferInstanceAs (Decidable (_ ∨ _ ∨ _))

theorem memoryUnit_text (u : MemoryUnit) :
    memoryUnit (trimSpace u.text) = some (u.operatorBytes : Int) := by
  cases u <;> decide

theorem redisBytes_eq_iff (u : MemoryUnit) : u.redisBytes = u.operatorBytes ↔ ¬ u.Decimal := by
  cases u <;> decide

theorem bytes_le (u : MemoryUnit) : u.redisBytes ≤ 2 ^ 30 ∧ u.operatorBytes ≤ 2 ^ 30 := by
  cases u <;> decide

theorem mul_lt {n bytes : Nat} (hn : n < 2 ^ 20) (h : bytes ≤ 2 ^ 30) : n * bytes < 2 ^ 63 :=
  calc n * bytes ≤ 2 ^ 20 * 2 ^ 30 := Nat.mul_le_mul hn.le h
    _ < 2 ^ 63 := by decide

theorem text_plain (u : MemoryUnit) :
    ∀ c ∈ u.text.toList, plainChar c = true ∧ c.isDigit = false := by
  have hall : u.text.toList.all (fun c => plainChar c && ! c.isDigit) = true := by
    cases u <;> rfl
  intro c hc
  simpa using all_eq_true.1 hall c hc

theorem map_toLower_text (u : MemoryUnit) : u.text.toList.map Char.toLower = u.text.toList := by
  cases u <;> decide

theorem text_ne_nil {u : MemoryUnit} (h : u ≠ none) : u.text.toList ≠ [] := by
  cases u <;> first | decide | exact absurd rfl h

/-- All units. -/
def all : List MemoryUnit := [none, b, k, kb, m, mb, g, gb]

end MemoryUnit

/-- A memory size as the server reads it: a decimal number and a unit, in any case. -/
def readMemory (v : String) : Option (Nat × MemoryUnit) := do
  let n ← digits? (v.toList.takeWhile Char.isDigit)
  let suffix := (v.toList.dropWhile Char.isDigit).map Char.toLower
  let unit ← MemoryUnit.all.find? fun unit => unit.text.toList = suffix
  return (n, unit)

section
variable {v key : String} {unit : MemoryUnit}

theorem readMemory_eq_some (h : readMemory v = some (n, unit)) :
    ∃ ds us, v = String.ofList (ds ++ us) ∧ digits? ds = some n ∧
      us.map Char.toLower = unit.text.toList := by
  refine ⟨v.toList.takeWhile Char.isDigit, v.toList.dropWhile Char.isDigit, ?_, ?_⟩
  · rw [takeWhile_append_dropWhile, String.ofList_toList]
  · obtain ⟨n', hn, h⟩ := Option.bind_eq_some_iff.1 h
    obtain ⟨unit', hunit, h⟩ := Option.bind_eq_some_iff.1 h
    cases h
    have htext := find?_some hunit
    exact ⟨hn, (of_decide_eq_true htext).symm⟩

/-- Numbers and units are scaled without rounding: this holds for `float64`, which has all whole
numbers below `2 ^ 53`. -/
def ScalesExactly (F : Formats) : Prop :=
  ∀ ds n (unit : MemoryUnit), digits? ds = some n → n < 2 ^ 20 →
    F.scaleFloat (String.ofList ds) unit.operatorBytes = some ((n * unit.operatorBytes : Nat) : Int)

theorem plain_of_digits (hds : digits? ds = some n) : ∀ c ∈ ds, plainChar c = true :=
  fun c hc => plainChar_of_isDigit ((all_isDigit_of_digits hds).2 c hc)

theorem plain_of_unit (hus : us.map Char.toLower = unit.text.toList) :
    ∀ c ∈ us, plainChar c.toLower = true :=
  fun _ hc => (unit.text_plain _ (hus ▸ mem_map_of_mem hc)).1

theorem trimSpace_memory (hds : digits? ds = some n)
    (hus : us.map Char.toLower = unit.text.toList) :
    trimSpace (String.ofList (ds ++ us)) = String.ofList (ds ++ us) := by
  refine trimSpace_ofList (forall_mem_append.2 ⟨?_, ?_⟩)
  · exact fun c hc => isSpace_of_plainChar (plain_of_digits hds c hc)
  · exact fun c hc => isSpace_of_toLower (plain_of_unit hus c hc)

theorem toLower_memory (hds : digits? ds = some n) (hus : us.map Char.toLower = unit.text.toList) :
    toLower (String.ofList (ds ++ us)) = String.ofList (ds ++ unit.text.toList) := by
  have hdigits : ds.map lowerChar = ds := by
    refine (map_congr_left fun c hc => ?_).trans (map_id _)
    have hplain := plain_of_digits hds c hc
    have hsame := toLower_of_plainChar hplain
    rw [lowerChar_of_plainChar (hsame.symm ▸ hplain), hsame, id]
  have hsuffix : us.map lowerChar = unit.text.toList := by
    rw [← hus]
    exact map_congr_left fun c hc => lowerChar_of_plainChar (plain_of_unit hus c hc)
  rw [toLower, String.toList_ofList, map_append, hdigits, hsuffix]

theorem split_memory (hds : digits? ds = some n) (hus : ∀ c ∈ us, c.isDigit = false) :
    (((ds ++ us).reverse.dropWhile (! ·.isDigit)).reverse = ds) ∧
      ((ds ++ us).reverse.takeWhile (! ·.isDigit)).reverse = us := by
  obtain ⟨hne, hdigit⟩ := all_isDigit_of_digits hds
  have hlast : ds.reverse.dropWhile (! ·.isDigit) = ds.reverse ∧
      ds.reverse.takeWhile (! ·.isDigit) = [] := by
    obtain ⟨c, l, hc⟩ := exists_cons_of_ne_nil (reverse_ne_nil_iff.2 hne)
    have hfirst : c.isDigit = true := hdigit c (mem_reverse.1 (hc ▸ .head _))
    rw [hc]
    simp [hfirst]
  have hrev : ∀ c ∈ us.reverse, (! c.isDigit) = true := by
    intro c hc
    rw [hus c (mem_reverse.1 hc), Bool.not_false]
  rw [reverse_append, dropWhile_append_of_pos hrev, takeWhile_append_of_pos hrev,
    hlast.1, hlast.2, append_nil, reverse_reverse, reverse_reverse]
  exact ⟨rfl, rfl⟩

theorem parseInt_memory (hds : digits? ds = some n) (hn : n < 2 ^ 20) (unit : MemoryUnit) :
    parseInt 64 (String.ofList (ds ++ unit.text.toList)) =
      if unit = .none then some (n : Int) else none := by
  obtain ⟨hne, hdigit⟩ := all_isDigit_of_digits hds
  obtain ⟨c, rest, rfl⟩ := exists_cons_of_ne_nil hne
  rw [cons_append, parseInt_of_digit 64 (hdigit c (.head _)), ← cons_append]
  split
  · next hnone =>
    subst hnone
    have hrange : -(2 ^ 63 : Int) ≤ n ∧ (n : Int) < 2 ^ 63 := ⟨by omega, by omega⟩
    rw [MemoryUnit.text, String.toList_empty, append_nil, hds]
    simpa using hrange
  · next hunit =>
    rw [digits?_append (MemoryUnit.text_ne_nil hunit) fun c hc => (unit.text_plain c hc).2]
    rfl

/-- **What the operator reads.** -/
theorem parseRedisMemory_of_read (hF : ScalesExactly F) (h : readMemory v = some (n, unit))
    (hn : n < 2 ^ 20) : parseRedisMemory F v = some ((n * unit.operatorBytes : Nat) : Int) := by
  obtain ⟨ds, us, rfl, hds, hus⟩ := readMemory_eq_some h
  obtain ⟨hne, -⟩ := all_isDigit_of_digits hds
  obtain ⟨hnum, hsuffix⟩ := split_memory hds fun c hc => (unit.text_plain c hc).2
  unfold parseRedisMemory
  rw [toLower_memory hds hus, trimSpace_memory hds unit.map_toLower_text]
  rw [if_neg (by simp [hne]), parseInt_memory hds hn]
  by_cases hunit : unit = .none
  · subst hunit
    rw [if_pos rfl, MemoryUnit.operatorBytes, Nat.mul_one]
  · rw [if_neg hunit]
    dsimp only
    rw [String.toList_ofList, hnum, hsuffix, if_neg hne, String.ofList_toList,
      unit.memoryUnit_text, Option.bind_some,
      trimSpace_ofList fun c hc => isSpace_of_plainChar (plain_of_digits hds c hc)]
    exact hF ds n unit hds hn

/-- The parameters with memory values. -/
def memoryKeys : List String := ["maxmemory", "repl-backlog-size", "stream-node-max-bytes"]

theorem toString_natCast (b : Nat) : toString (b : Int) = toString b := rfl

theorem toString_inj {a b : Nat} (ha : a < 2 ^ 63) (hb : b < 2 ^ 63)
    (h : toString (a : Int) = toString (b : Int)) : a = b := by
  have hparse := congrArg (parseInt 64) h
  rw [parseInt_toString, parseInt_toString, Option.filter_some, if_pos (by simp; omega),
    Option.filter_some, if_pos (by simp; omega)] at hparse
  exact Int.natCast_inj.1 (Option.some.inj hparse)

theorem normalizeRedisValue_memory (hkey : key ∈ memoryKeys) (htrim : trimSpace v = v) {b : Int}
    (hb : parseRedisMemory F v = some b) : normalizeRedisValue F key v = toString b := by
  have hlisted : key ∈ ["maxmemory", "repl-backlog-size", "stream-node-max-bytes"] := hkey
  unfold normalizeRedisValue
  rw [htrim]
  rw [if_pos hlisted, hb]

theorem normalizeRedisValue_bytes (hkey : key ∈ memoryKeys) {b : Nat} (hb : b < 2 ^ 63) :
    normalizeRedisValue F key (trimSpace (toString b)) = toString (b : Int) := by
  have htext : toString b = String.ofList (Nat.toDigits 10 b ++ []) := by
    rw [Nat.toString_eq_repr, Nat.repr_eq_ofList_toDigits, append_nil]
  have hunit : ([] : List Char).map Char.toLower = MemoryUnit.none.text.toList := rfl
  have htrim : trimSpace (toString b) = toString b := by
    rw [htext]
    exact trimSpace_memory (digits?_toDigits b) hunit
  have hlower : toLower (toString b) = toString b := by
    rw [htext]
    exact toLower_memory (digits?_toDigits b) hunit
  have hne : toString b ≠ "" := by
    rw [htext]
    simp
  have hparse : parseInt 64 (toString b) = some (b : Int) := by
    rw [← toString_natCast, parseInt_toString, Option.filter_some, if_pos (by simp; omega)]
  have hmemory : parseRedisMemory F (toString b) = some (b : Int) := by
    unfold parseRedisMemory
    rw [hlower, htrim]
    rw [if_neg hne, hparse]
  rw [htrim]
  exact normalizeRedisValue_memory hkey htrim hmemory

theorem normalizeRedisValue_of_read (hF : ScalesExactly F) (hkey : key ∈ memoryKeys)
    (h : readMemory v = some (n, unit)) (hn : n < 2 ^ 20) :
    normalizeRedisValue F key v = toString ((n * unit.operatorBytes : Nat) : Int) := by
  have htrim : trimSpace v = v := by
    obtain ⟨ds, us, rfl, hds, hus⟩ := readMemory_eq_some h
    exact trimSpace_memory hds hus
  exact normalizeRedisValue_memory hkey htrim (parseRedisMemory_of_read hF h hn)

/-- The server reads the units, and reports bytes. -/
def ReadsUnits (S : Server) : Prop :=
  ∀ key ∈ memoryKeys, ∀ v n unit, readMemory v = some (n, unit) →
    S.set key v = toString (n * unit.redisBytes)

/-- **A value that was just set** differs again when the server has another unit. -/
theorem differs_set_iff {desired : Map String} (hF : ScalesExactly F) (hS : ReadsUnits S)
    (hkey : key ∈ memoryKeys) (h : readMemory (desiredRaw desired key) = some (n, unit))
    (hn : n < 2 ^ 20) :
    Differs F desired key (some (S.set key (desiredRaw desired key))) ↔ unit.Decimal ∧ n ≠ 0 := by
  have hredis : n * unit.redisBytes < 2 ^ 63 := MemoryUnit.mul_lt hn unit.bytes_le.1
  have hoperator : n * unit.operatorBytes < 2 ^ 63 := MemoryUnit.mul_lt hn unit.bytes_le.2
  have hequal : toString ((n * unit.redisBytes : Nat) : Int) =
      toString ((n * unit.operatorBytes : Nat) : Int) ↔ n = 0 ∨ ¬ unit.Decimal := by
    rw [← unit.redisBytes_eq_iff]
    constructor
    · intro htext
      have hsame := toString_inj hredis hoperator htext
      exact (Nat.eq_zero_or_pos n).imp_right fun hpos => Nat.eq_of_mul_eq_mul_left hpos hsame
    · rintro (rfl | hsame)
      · rw [Nat.zero_mul, Nat.zero_mul]
      · rw [hsame]
  unfold Differs
  rw [Option.getD_some, hS key hkey _ n unit h, normalizeRedisValue_bytes hkey hredis,
    normalizeRedisValue_of_read hF hkey h hn, Ne, hequal, not_or, not_not]
  exact and_comm

end

/-! ## The first loop -/

section
variable {desired : Map String} {pod : String} {d' : Discovery}

/-- The apply fails or asks for a restart. -/
def Halts (res : RuntimeResult) : Prop := res.mode = .failed ∨ res.mode = .needsRestart

/-- No read and no patch fails. -/
def Answered : Event Op → Prop
  | ⟨.redisForPod _, .error _⟩ | ⟨.configGet .., .error _⟩
  | ⟨.patchPodAnnotations .., .error _⟩ => False
  | _ => True

/-- The run reads a value that differs. -/
def FoundDifference (F : Formats) (desired : Map String) (pods : List Pod) (t : Trace) :
    Prop :=
  ∃ p ∈ pods, ∃ key ∈ desired, ∃ current, read p.name key current ∈ t ∧
    Differs F desired key current

theorem compareKey_stops {pending pending' : Pending} {key : String}
    (h : (compareKey F desired pod pending key).Runs t (pending', some res)) : Halts res ∧
      ((∃ e ∈ t, ¬ Answered e) ∨
        ∃ current, read pod key current ∈ t ∧ Differs F desired key current) := by
  obtain ⟨r, t1, rfl, h1⟩ := runs_asked.1 h
  cases r with
  | error e =>
    cases (runs_ret.1 h1).2
    exact ⟨.inl rfl, .inl ⟨_, .head _, id⟩⟩
  | ok current =>
    dsimp only at h1
    split at h1
    · cases (runs_ret.1 h1).2
    · next hdiffers =>
      split at h1
      · cases (runs_ret.1 h1).2
        exact ⟨.inr rfl, .inr ⟨current, .head _, not_not.1 hdiffers⟩⟩
      · cases (runs_ret.1 h1).2

theorem discoverPod_stops (h : (discoverPod F desired d p).Runs t (d', some res)) :
    Halts res ∧ ((∃ e ∈ t, ¬ Answered e) ∨ ∃ key ∈ desired, ∃ current,
      read p.name key current ∈ t ∧ Differs F desired key current) := by
  obtain ⟨r, t1, rfl, h1⟩ := runs_asked.1 h
  cases r with
  | error e =>
    cases (runs_ret.1 h1).2
    exact ⟨.inl rfl, .inl ⟨_, .head _, id⟩⟩
  | ok _ =>
    obtain ⟨t2, ⟨pending, stop⟩, t3, rfl, hkeys, h2⟩ := runs_bind.1 h1
    cases stop with
    | none => cases (runs_ret.1 h2).2
    | some stop =>
      cases (runs_ret.1 h2).2
      obtain ⟨key, hkey, s1, u1, u2, rfl, hrun⟩ := hkeys.forErr_error
      obtain ⟨hhalts, hwhy⟩ := compareKey_stops hrun
      refine ⟨hhalts, hwhy.imp ?_ ?_⟩
      · rintro ⟨e, he, hfailed⟩
        exact ⟨e, by simp [he], hfailed⟩
      · rintro ⟨current, hread, hdiffers⟩
        exact ⟨key, Map.mem_sortedKeys.1 hkey, current, by simp [hread], hdiffers⟩

/-- **The first loop, when it stops**: a request failed or a parameter differs. -/
theorem discoverPods_stops (h : (forErr (discoverPod F desired) pods d).Runs t (d', some res)) :
    Halts res ∧ ((∃ e ∈ t, ¬ Answered e) ∨ FoundDifference F desired pods t) := by
  obtain ⟨p, hp, s1, t1, t2, rfl, hrun⟩ := h.forErr_error
  obtain ⟨hhalts, hwhy⟩ := discoverPod_stops hrun
  refine ⟨hhalts, hwhy.imp ?_ ?_⟩
  · rintro ⟨e, he, hfailed⟩
    exact ⟨e, mem_append_right _ he, hfailed⟩
  · rintro ⟨key, hkey, current, hread, hdiffers⟩
    exact ⟨p, hp, key, hkey, current, mem_append_right _ hread, hdiffers⟩

/-- The changes are values read that differ. -/
def Grounded (F : Formats) (desired : Map String) (pod : String) (t : Trace)
    (changes : Map String) : Prop :=
  ∀ key ∈ changes, ∃ current, read pod key current ∈ t ∧ Differs F desired key current

theorem compareKeys_grounded {keys : List String} {changed : Map Unit} {pending : Pending}
    (h : (forErr (compareKey F desired pod) keys { changedKeys := changed }).Runs t
      (pending, none)) : Grounded F desired pod t pending.changes := by
  refine Runs.forErr_inv (I := fun _ t s => Grounded F desired pod t s.changes) h ?_ ?_
  · exact fun key hkey => absurd hkey Finmap.notMem_empty
  · intro done key t0 s t1 s1 _ _ hgrounded hrun k hk
    obtain ⟨current, rfl, -, hchanges⟩ := compareKey_run hrun
    rw [hchanges] at hk
    by_cases hnew : k = key ∧ Differs F desired key current
    · obtain ⟨rfl, hdiffers⟩ := hnew
      exact ⟨current, by simp, hdiffers⟩
    · have hold : k ∈ s.changes := by
        split at hk
        · next hdiffers =>
          exact (Finmap.mem_insert.1 hk).resolve_left fun heq => hnew ⟨heq, hdiffers⟩
        · exact hk
      obtain ⟨c, hread, hdiffers⟩ := hgrounded k hold
      exact ⟨c, mem_append_left _ hread, hdiffers⟩

/-- **Every change has its ground.** -/
theorem discoverPods_grounded (h : (forErr (discoverPod F desired) pods {}).Runs t (d, none)) :
    ∀ name changes, d.perPodChanges.lookup name = some changes →
      (∃ p ∈ pods, p.name = name) ∧ Grounded F desired name t changes := by
  refine Runs.forErr_inv (I := fun done t s => ∀ name changes,
    s.perPodChanges.lookup name = some changes →
      (∃ p ∈ done, p.name = name) ∧ Grounded F desired name t changes) h ?_ ?_
  · intro name changes hlookup
    cases hlookup
  · intro done p t0 s t1 s1 _ _ hgrounded hrun name changes hlookup
    obtain ⟨pending, t2, rfl, hkeys, hchanges⟩ := discoverPod_loop hrun
    have hkept : s.perPodChanges.lookup name = some changes →
        (∃ q ∈ done ++ [p], q.name = name) ∧
          Grounded F desired name (t0 ++ ⟨.redisForPod p.name, .ok ()⟩ :: t2) changes := by
      intro hold
      obtain ⟨⟨q, hq, hname⟩, hground⟩ := hgrounded name changes hold
      refine ⟨⟨q, mem_append_left _ hq, hname⟩, fun key hkey => ?_⟩
      obtain ⟨c, hread, hdiffers⟩ := hground key hkey
      exact ⟨c, mem_append_left _ hread, hdiffers⟩
    rw [hchanges] at hlookup
    split at hlookup
    · exact hkept hlookup
    · by_cases hname : name = p.name
      · subst hname
        rw [Finmap.lookup_insert] at hlookup
        cases hlookup
        refine ⟨⟨p, by simp, rfl⟩, fun key hkey => ?_⟩
        obtain ⟨c, hread, hdiffers⟩ := compareKeys_grounded hkeys key hkey
        exact ⟨c, by simp [hread], hdiffers⟩
      · rw [Finmap.lookup_insert_of_ne _ hname] at hlookup
        exact hkept hlookup

end

/-! ## The writes and the annotations -/

theorem rewriteConfig_halts {d : Discovery} {pod : String} {u : Unit}
    (h : (rewriteConfig d pod).Runs t (u, some res)) : Halts res := by
  obtain ⟨r, t1, rfl, h1⟩ := runs_asked.1 h
  cases r with
  | ok _ => cases (runs_ret.1 h1).2
  | error e =>
    dsimp only at h1
    split at h1
    · cases (runs_ret.1 h1).2
      exact .inr rfl
    · cases (runs_ret.1 h1).2
      exact .inl rfl

theorem applyPod_halts {d : Discovery} {u : Unit} (h : (applyPod d () p).Runs t (u, some res)) :
    Halts res := by
  unfold applyPod at h
  dsimp only at h
  split at h
  · cases (runs_ret.1 h).2
  obtain ⟨r, t1, rfl, h1⟩ := runs_asked.1 h
  cases r with
  | error e =>
    cases (runs_ret.1 h1).2
    exact .inl rfl
  | ok _ =>
    obtain ⟨order, t2, rfl, h2⟩ := runs_asked.1 h1
    obtain ⟨t3, ⟨_, stop⟩, t4, rfl, hset, h3⟩ := runs_bind.1 h2
    cases stop with
    | none => exact rewriteConfig_halts h3
    | some stop =>
      cases (runs_ret.1 h3).2
      obtain ⟨key, -, _, u1, u2, rfl, hrun⟩ := hset.forErr_error
      obtain ⟨r, t5, rfl, h4⟩ := runs_asked.1 hrun
      cases r with
      | ok _ => cases (runs_ret.1 h4).2
      | error e =>
        cases (runs_ret.1 h4).2
        exact .inl rfl

theorem applyPods_halts {d : Discovery}
    (h : (forErr (applyPod d) pods ()).Runs t ((), some res)) : Halts res := by
  obtain ⟨p, -, _, t1, t2, rfl, hrun⟩ := h.forErr_error
  exact applyPod_halts hrun

theorem patchPods_answered {err : Option Error} (h : (patchPods hash pods).Runs t (pods', err))
    (ht : ∀ e ∈ t, Answered e) : err = none := by
  induction pods generalizing t pods' err with
  | nil =>
    cases (runs_ret.1 h).2
    rfl
  | cons p pods ih =>
    by_cases hlisted : Map.str p.annotations configHashAnnotationKey = hash
    · rw [patchPods_listed hlisted] at h
      obtain ⟨t1, o, t2, rfl, hrest, h1⟩ := runs_bind.1 h
      obtain ⟨rfl, heq⟩ := runs_ret.1 h1
      cases heq
      exact ih hrest fun e he => ht e (mem_append_left _ he)
    · rw [patchPods_unlisted hlisted] at h
      obtain ⟨r, t1, rfl, h1⟩ := runs_call.1 h
      cases r with
      | error e => exact (ht _ (.head _)).elim
      | ok _ =>
        obtain ⟨t2, o, t3, rfl, hrest, h2⟩ := runs_bind.1 h1
        obtain ⟨rfl, heq⟩ := runs_ret.1 h2
        cases heq
        exact ih hrest fun e he => ht e (.tail _ (mem_append_left _ he))

theorem patchConfigHashAnnotations_answered {err : Option Error}
    (h : (patchConfigHashAnnotations hash pods).Runs t (pods', err)) (ht : ∀ e ∈ t, Answered e) :
    err = none := by
  unfold patchConfigHashAnnotations at h
  split at h
  · cases (runs_ret.1 h).2
    rfl
  · exact patchPods_answered h ht

/-! ## The pods -/

section
variable {scripts : Scripts} {s : ConfigState} {out : RuntimeResult × List Pod}

/-- A live value differs from the spec's. -/
def OutOfSync (F : Formats) (s : ConfigState) (pods : List Pod) : Prop :=
  ∃ p ∈ pods, ∃ key ∈ s.desired, Differs F s.desired key (some (s.live p.name key))

theorem differs_live {desired : Map String} {pod key : String} {current : Option String}
    (hadmits : (configWorld F scripts S).Admits s t) (hlooks : ∀ e ∈ t, Looks e.req)
    (hread : read pod key current ∈ t) :
    Differs F desired key current ↔ Differs F desired key (some (s.live pod key)) := by
  have hok : current.getD "" = s.live pod key := ok_of_looks hadmits hlooks _ hread
  rw [Differs, hok]
  rfl

/-- **The first loop finds changes** exactly when a pod is out of sync. -/
theorem discoverPods_empty_iff (h : (forErr (discoverPod F s.desired) pods {}).Runs t (d, none))
    (hadmits : (configWorld F scripts S).Admits s t) :
    d.perPodChanges = ∅ ↔ ¬ OutOfSync F s pods := by
  obtain ⟨hdiscovered, hlooks⟩ := discoverPods_run h
  constructor
  · rintro hempty ⟨p, hp, key, hkey, hdiffers⟩
    obtain ⟨current, hread, hsame⟩ :=
      hdiscovered.matched p hp (by rw [hempty, Finmap.lookup_empty]) key hkey
    exact hsame ((differs_live hadmits hlooks hread).2 hdiffers)
  · intro hsync
    refine Finmap.ext_lookup fun name => ?_
    rw [Finmap.lookup_empty]
    cases hm : d.perPodChanges.lookup name with
    | none => rfl
    | some m =>
      -- a change is there for a parameter that differs
      refine absurd ?_ (hdiscovered.changed name m hm).1
      refine Finmap.ext_lookup fun key => ?_
      rw [Finmap.lookup_empty]
      cases hv : m.lookup key with
      | none => rfl
      | some v =>
        obtain ⟨⟨p, hp, rfl⟩, hground⟩ := discoverPods_grounded h name m hm
        obtain ⟨current, hread, hdiffers⟩ := hground key (Finmap.mem_iff.2 ⟨v, hv⟩)
        have hkey := ((hdiscovered.changed p.name m hm).2 key v hv).1
        exact absurd ⟨p, hp, key, hkey, (differs_live hadmits hlooks hread).1 hdiffers⟩ hsync

/-- **A call finds the pods in sync**, and sets nothing, exactly when they are. -/
theorem inSync_iff (h : (align F s.desired pods hash).Runs t out)
    (hadmits : (configWorld F scripts S).Admits s t) (hanswered : ∀ e ∈ t, Answered e) :
    (out.1.mode = .noChange ∧ ∀ e ∈ t, NoSet e.req) ↔ ¬ OutOfSync F s pods := by
  have hhalts : ∀ {res : RuntimeResult}, Halts res → res.mode ≠ .noChange := by
    rintro res (hres | hres) <;> rw [hres] <;> decide
  cases align_run h with
  | stops hdiscover =>
    obtain ⟨hres, hfailed | ⟨p, hp, key, hkey, current, hread, hdiffers⟩⟩ :=
      discoverPods_stops hdiscover
    · obtain ⟨e, he, hfailed⟩ := hfailed
      exact absurd (hanswered e he) hfailed
    · have hlooks := Asks.mem (Issues.forErr _ fun p _ s => discoverPod_asks s p) hdiscover
      refine iff_of_false (fun hsync => hhalts hres hsync.1) (not_not.2 ?_)
      exact ⟨p, hp, key, hkey, (differs_live hadmits hlooks hread).1 hdiffers⟩
  | inSync hdiscover hempty hpatch hmode =>
    have hnone := patchConfigHashAnnotations_answered hpatch fun e he =>
      hanswered e (mem_append_right _ he)
    have hlooks := (discoverPods_run hdiscover).2
    have hpatches := (patchConfigHashAnnotations_asks hash pods).mem hpatch
    rw [if_pos hnone] at hmode
    refine iff_of_true ⟨hmode, forall_mem_append.2 ⟨?_, ?_⟩⟩ ?_
    · exact fun e he => (hlooks e he).noSet
    · exact fun e he => (hpatches e he).apart.2
    · exact (discoverPods_empty_iff hdiscover ((World.admits_append _).1 hadmits).1).1 hempty
  | fails hdiscover hne happly =>
    refine iff_of_false (fun hsync => hhalts (applyPods_halts happly) hsync.1) fun hsync => hne ?_
    exact (discoverPods_empty_iff hdiscover ((World.admits_append _).1 hadmits).1).2 hsync
  | writes hdiscover hne _ _ _ hmode =>
    refine iff_of_false (fun hsync => ?_) fun hsync => hne ?_
    · rw [hmode] at hsync
      split at hsync <;> cases hsync.1
    · exact (discoverPods_empty_iff hdiscover ((World.admits_append _).1 hadmits).1).2 hsync

/-- A parameter that differed in `s` is set in `s'`, and another is as it was. -/
structure SetIfDiffers (F : Formats) (S : Server) (s s' : ConfigState) (pod key : String) :
    Prop where
  same : ¬ Differs F s.desired key (some (s.live pod key)) → s'.live pod key = s.live pod key
  set : Differs F s.desired key (some (s.live pod key)) →
    key ∈ redisRuntimeAllow ∧ s'.live pod key = S.set key (desiredRaw s.desired key)

/-- **A call that was applied** sets the parameters that differed, and no others. -/
theorem live_after_applied {key : String} (h : (align F s.desired pods hash).Runs t out)
    (hadmits : (configWorld F scripts S).Admits s t) (hmode : out.1.mode = .applied) (hp : p ∈ pods)
    (hkey : key ∈ s.desired) :
    SetIfDiffers F S s ((configWorld F scripts S).after s t) p.name key := by
  have hhalts : ∀ {res : RuntimeResult}, Halts res → res.mode ≠ .applied := by
    rintro res (hres | hres) <;> rw [hres] <;> decide
  cases align_run h with
  | stops hdiscover => exact absurd hmode (hhalts (discoverPods_stops hdiscover).1)
  | fails _ _ happly => exact absurd hmode (hhalts (applyPods_halts happly))
  | inSync _ _ _ hres =>
    rw [hres] at hmode
    split at hmode <;> cases hmode
  | @writes t1 t2 t3 t4 d _ _ _ hdiscover _ happly hpatch hannounces _ =>
    obtain ⟨hdiscovered, hlooks⟩ := discoverPods_run hdiscover
    have hlive : ∀ {current : Option String}, read p.name key current ∈ t1 →
        (Differs F s.desired key current ↔ Differs F s.desired key (some (s.live p.name key))) :=
      differs_live ((World.admits_append _).1 hadmits).1 hlooks
    have hchanges : ∀ v, wrote p.name key v ∈ t1 ++ (t2 ++ (t3 ++ t4)) →
        ∃ m, d.perPodChanges.lookup p.name = some m ∧ m.lookup key = some v := by
      intro v hmem
      simp only [mem_append] at hmem
      rcases hmem with hmem | hmem | hmem | hmem
      · exact (hlooks _ hmem).elim
      · exact (applyPods_asks d pods).mem happly _ hmem
      · exact ((patchConfigHashAnnotations_asks hash pods).mem hpatch _ hmem).elim
      · exact (hannounces _ hmem).elim
    have hwritten := applyPods_run (fun name m hm => (hdiscovered.changed name m hm).1) happly
    refine ⟨fun hsame => ?_, fun hdiffers => ?_⟩
    · refine after_live_other (fun v hmem => hsame ?_) s
      obtain ⟨m, hm, hv⟩ := hchanges v hmem
      obtain ⟨current, hread, hdiffers⟩ :=
        (discoverPods_grounded hdiscover p.name m hm).2 key (Finmap.mem_iff.2 ⟨v, hv⟩)
      exact (hlive hread).1 hdiffers
    · cases hm : d.perPodChanges.lookup p.name with
      | none =>
        obtain ⟨current, hread, hsame⟩ := hdiscovered.matched p hp hm key hkey
        exact absurd ((hlive hread).2 hdiffers) hsame
      | some m =>
        obtain ⟨current, hread, hset⟩ := hdiscovered.found p.name m hm key hkey
        have hv := hset ((hlive hread).2 hdiffers)
        refine ⟨((hdiscovered.changed p.name m hm).2 key _ hv).2.1, after_live_wrote ?_ ?_ s⟩
        · have hwrote := hwritten.values p hp m hm key _ hv
          exact mem_append_right _ (mem_append_left _ hwrote)
        · intro v' hmem
          obtain ⟨m', hm', hv'⟩ := hchanges v' hmem
          cases hm.symm.trans hm'
          exact Option.some.inj (hv'.symm.trans hv)

/-! ## Two calls -/

/-- The parameter is to have a memory size that is a number below `2 ^ 20` with a unit. -/
def MemorySize (desired : Map String) (key : String) (n : Nat) (unit : MemoryUnit) : Prop :=
  key ∈ memoryKeys ∧ readMemory (desiredRaw desired key) = some (n, unit) ∧ n < 2 ^ 20

/-- The other parameters compare equal after they were set. -/
def Echoes (F : Formats) (S : Server) (desired : Map String) : Prop :=
  ∀ key ∈ desired, key ∈ redisRuntimeAllow → (∀ n unit, ¬ MemorySize desired key n unit) →
    ¬ Differs F desired key (some (S.set key (desiredRaw desired key)))

/-- A call that was applied, and the next one with the same spec, whose requests succeed. -/
structure TwoCalls (F : Formats) (scripts : Scripts) (S : Server) (factory : Bool)
    (s : ConfigState) (pods pods' : List Pod) (t t' : Trace)
    (out out' : RuntimeResult × List Pod) : Prop where
  first : (applyRedisRuntime F factory s.cluster pods (s.desiredHash F scripts) s.settings).Runs
    t out
  first_admits : (configWorld F scripts S).Admits s t
  applied : out.1.mode = .applied
  second : (applyRedisRuntime F factory s.cluster pods' (s.desiredHash F scripts) s.settings).Runs
    t' out'
  second_admits : (configWorld F scripts S).Admits ((configWorld F scripts S).after s t) t'
  same_pods : ∀ p ∈ pods', ∃ q ∈ pods, q.name = p.name
  ready : ∀ p ∈ pods', isPodReady p = true
  answered : ∀ e ∈ t', Answered e

/-- **When a second call finds nothing to do**: the units `k`, `m` and `g` are only used for pods
that had the operator's number of bytes before the first call. -/
theorem converges_iff {factory : Bool} {t' : Trace} {out' : RuntimeResult × List Pod}
    (hF : ScalesExactly F) (hS : ReadsUnits S) (hothers : Echoes F S s.desired)
    (h : TwoCalls F scripts S factory s pods pods' t t' out out') :
    (out'.1.mode = .noChange ∧ ∀ e ∈ t', NoSet e.req) ↔
      ∀ p ∈ pods', ∀ key ∈ s.desired, ∀ n unit, MemorySize s.desired key n unit →
        unit.Decimal → n ≠ 0 → ¬ Differs F s.desired key (some (s.live p.name key)) := by
  obtain ⟨hchecked, hfirst⟩ :=
    (applyRedisRuntime_checks h.first).resolve_left fun hleft => hleft.2.2 h.applied
  by_cases hempty : pods' = []
  · subst hempty
    have hcall : applyRedisRuntime F factory s.cluster [] (s.desiredHash F scripts) s.settings =
        .ret (redisResult .noChange "no redis pods", []) := by
      rw [hchecked.client]
      rfl
    obtain ⟨rfl, rfl⟩ := runs_ret.1 (hcall ▸ h.second)
    exact iff_of_true ⟨rfl, forall_mem_nil _⟩ (forall_mem_nil _)
  have hsecond : (align F s.desired pods' (s.desiredHash F scripts)).Runs t' out' :=
    applyRedisRuntime_checked ⟨hchecked.client, hempty, h.ready, hchecked.tls⟩ ▸ h.second
  -- the parameters between the two calls
  have hlive : ∀ p ∈ pods', ∀ key ∈ s.desired,
      SetIfDiffers F S s ((configWorld F scripts S).after s t) p.name key := by
    intro p hp key hkey
    obtain ⟨q, hq, hname⟩ := h.same_pods p hp
    rw [← hname]
    exact live_after_applied hfirst h.first_admits h.applied hq hkey
  have hspec : ((configWorld F scripts S).after s t).desired = s.desired :=
    (after_sameSpec s t).desired
  rw [inSync_iff (hspec.symm ▸ hsecond) h.second_admits h.answered]
  unfold OutOfSync
  rw [hspec]
  constructor
  · intro hsync p hp key hkey n unit hsize hdecimal hn hdiffers
    refine hsync ⟨p, hp, key, hkey, ?_⟩
    rw [((hlive p hp key hkey).set hdiffers).2]
    exact (differs_set_iff hF hS hsize.1 hsize.2.1 hsize.2.2).2 ⟨hdecimal, hn⟩
  · rintro hsizes ⟨p, hp, key, hkey, hdiffers⟩
    by_cases hbefore : Differs F s.desired key (some (s.live p.name key))
    · obtain ⟨hallow, hset⟩ := (hlive p hp key hkey).set hbefore
      rw [hset] at hdiffers
      by_cases hsize : ∃ n unit, MemorySize s.desired key n unit
      · obtain ⟨n, unit, hsize⟩ := hsize
        obtain ⟨hdecimal, hn⟩ := (differs_set_iff hF hS hsize.1 hsize.2.1 hsize.2.2).1 hdiffers
        exact hsizes p hp key hkey n unit hsize hdecimal hn hbefore
      · push Not at hsize
        exact hothers key hkey hallow hsize hdiffers
    · rw [(hlive p hp key hkey).same hbefore] at hdiffers
      exact hbefore hdiffers

theorem willingRun_answered {α : Type} (s : ConfigState) (p : M α) :
    ∀ e ∈ (willingRun F scripts S s p).1, Answered e := by
  intro e he
  obtain ⟨s', hrep⟩ := World.play_rep s p e he
  obtain ⟨q, r⟩ := e
  dsimp only at hrep
  subst hrep
  cases q <;> trivial

/-- An apply in which every request succeeds. -/
def applyWilling (F : Formats) (scripts : Scripts) (S : Server) (s s' : ConfigState)
    (pods : List Pod) : Trace × RuntimeResult × List Pod :=
  willingRun F scripts S s'
    (applyRedisRuntime F true s.cluster pods (s.desiredHash F scripts) s.settings)

theorem twoCalls_willing {run run' : Trace × RuntimeResult × List Pod}
    (hrun : run = applyWilling F scripts S s s pods)
    (hrun' : run' = applyWilling F scripts S s ((configWorld F scripts S).after s run.1) pods)
    (hready : ∀ p ∈ pods, isPodReady p = true) (happlied : run.2.1.mode = .applied) :
    TwoCalls F scripts S true s pods pods run.1 run'.1 run.2 run'.2 := by
  subst hrun hrun'
  exact
    { first := willingRun_runs _ _
      first_admits := willingRun_admits _ _
      applied := happlied
      second := willingRun_runs _ _
      second_admits := willingRun_admits _ _
      same_pods := fun p hp => ⟨p, hp, rfl⟩
      ready := hready
      answered := willingRun_answered _ _ }

end

/-! ### A memory limit with a unit -/

/-- A server with the units of Redis. -/
def unitServer : Server where
  default := serverA.default
  read := serverA.read
  set key v :=
    match readMemory v with
    | some (n, unit) =>
      if key ∈ memoryKeys then toString (n * unit.redisBytes) else serverA.set key v
    | none => serverA.set key v

theorem readsUnits_unitServer : ReadsUnits unitServer := by
  intro key hkey v n unit h
  simp only [unitServer, h]
  exact if_pos hkey

theorem scalesExactly_decimal : ScalesExactly .decimal := by
  intro ds n unit hds hn
  have hparse := parseInt_memory hds hn .none
  rw [if_pos rfl, MemoryUnit.text, String.toList_empty, append_nil] at hparse
  show (parseInt 64 (String.ofList ds)).map _ = _
  rw [hparse, Option.map_some, Int.natCast_mul]

/-- Pods without a limit, and a spec with one. -/
def sizedA (limit : String) : ConfigState where
  cluster := configuredA ((∅ : Map String).insert "maxmemory" limit)
  settings := {}
  live _ := unitServer.fresh (effectiveRedisConfig unlimitedA {})
  hash _ := none
  origin _ := none

theorem only_maxmemory {limit key : String}
    (hkeys : ∀ key ∈ (sizedA limit).desired.sortedKeys, key ∈ redisRuntimeAllow →
      key = "maxmemory") (hkey : key ∈ (sizedA limit).desired)
    (hallow : key ∈ redisRuntimeAllow) : key = "maxmemory" :=
  hkeys key (Map.mem_sortedKeys.2 hkey) hallow

theorem readyA : ∀ p ∈ podsA, isPodReady p = true := by decide

/-- The first apply. -/
abbrev firstA (limit : String) : Trace × RuntimeResult × List Pod :=
  applyWilling .decimal {} unitServer (sizedA limit) (sizedA limit) podsA

/-- The second apply. -/
abbrev secondA (limit : String) : Trace × RuntimeResult × List Pod :=
  applyWilling .decimal {} unitServer (sizedA limit)
    ((configWorld .decimal {} unitServer).after (sizedA limit) (firstA limit).1) podsA

/-- The parameters that were set. -/
def configSets (t : Trace) : List (String × String × String) :=
  t.filterMap fun e =>
    match e.req with
    | .configSet pod key v => some (pod, key, v)
    | _ => none

theorem twoCallsA {limit : String} (h : (firstA limit).2.1.mode = .applied) :
    TwoCalls .decimal {} unitServer true (sizedA limit) podsA podsA (firstA limit).1
      (secondA limit).1 (firstA limit).2 (secondA limit).2 :=
  twoCalls_willing rfl rfl readyA h

/-- **A limit of `100k` is set again and again**: the server reports 100000 bytes, and the operator
expects 102400. -/
theorem limit_never_settles : ScalesExactly .decimal ∧ ReadsUnits unitServer ∧
    Echoes .decimal unitServer (sizedA "100k").desired ∧
    MemorySize (sizedA "100k").desired "maxmemory" 100 .k ∧
    TwoCalls .decimal {} unitServer true (sizedA "100k") podsA podsA (firstA "100k").1
      (secondA "100k").1 (firstA "100k").2 (secondA "100k").2 ∧
    ((configWorld .decimal {} unitServer).after (sizedA "100k") (firstA "100k").1).live "a-0"
      "maxmemory" = "100000" ∧
    (secondA "100k").2.1.mode = .applied ∧
    configSets (secondA "100k").1 =
      [("a-0", "maxmemory", "100k"), ("a-1", "maxmemory", "100k")] := by
  have hkeys : ∀ key ∈ (sizedA "100k").desired.sortedKeys, key ∈ redisRuntimeAllow →
      key = "maxmemory" := by decide +kernel
  have hsize : MemorySize (sizedA "100k").desired "maxmemory" 100 .k := by
    refine ⟨?_, ?_, ?_⟩ <;> decide +kernel
  have hruns : (firstA "100k").2.1.mode = .applied ∧
      ((configWorld .decimal {} unitServer).after (sizedA "100k") (firstA "100k").1).live "a-0"
        "maxmemory" = "100000" ∧ (secondA "100k").2.1.mode = .applied ∧
      configSets (secondA "100k").1 =
        [("a-0", "maxmemory", "100k"), ("a-1", "maxmemory", "100k")] := by decide +kernel
  refine ⟨scalesExactly_decimal, readsUnits_unitServer, fun key hkey hallow hother => ?_, hsize,
    twoCallsA hruns.1, hruns.2⟩
  obtain rfl := only_maxmemory hkeys hkey hallow
  exact absurd hsize (hother 100 .k)

/-- A limit of `100mb` is in sync after the first call. -/
theorem limit_settles : (firstA "100mb").2.1.mode = .applied ∧
    (secondA "100mb").2.1.mode = .noChange ∧ ∀ e ∈ (secondA "100mb").1, NoSet e.req := by
  have hkeys : ∀ key ∈ (sizedA "100mb").desired.sortedKeys, key ∈ redisRuntimeAllow →
      key = "maxmemory" := by decide +kernel
  have hsize : MemorySize (sizedA "100mb").desired "maxmemory" 100 .mb := by
    refine ⟨?_, ?_, ?_⟩ <;> decide +kernel
  have happlied : (firstA "100mb").2.1.mode = .applied := by decide +kernel
  have hothers : Echoes .decimal unitServer (sizedA "100mb").desired := by
    intro key hkey hallow hother
    obtain rfl := only_maxmemory hkeys hkey hallow
    exact absurd hsize (hother 100 .mb)
  refine ⟨happlied, (converges_iff scalesExactly_decimal readsUnits_unitServer hothers
    (twoCallsA happlied)).2 ?_⟩
  -- the one memory size of the spec has a binary unit
  intro p _ key hkey n unit hsize' hdecimal
  have hallow : ∀ key ∈ memoryKeys, key ∈ redisRuntimeAllow := by decide
  obtain rfl := only_maxmemory hkeys hkey (hallow key hsize'.1)
  cases hsize.2.1.symm.trans hsize'.2.1
  exact absurd hdecimal (by decide)

end Keyval.RuntimeConfig
