import KeyvalOperator.Lib.Go

/-!
# Map variables

A map of Go is a reference: what is written through one variable is seen through every other that
holds the same map, and a nil variable holds none. A function that edits the map of an object and
may have to take the edit back saves a deep copy of the object first.

* `MapVar`: a variable with the heap; `value` is the map that it holds, `entries` what is read
  from it.
* `Edit`: a variable that is edited, and the variable of the copy. They hold different maps.
* `entries_*`: what an operation makes of the variable.
* `value_restore_*`: no operation reaches the copy.
-/

namespace Go

/-- A variable of a map type: nil, or a reference to a map in the heap. -/
structure MapVar (V : Type) where
  heap : Nat → Map V
  /-- The first location that is not in use. -/
  next : Nat
  ref : Option Nat
  live : ∀ i ∈ ref, i < next

/-- A variable and the variable of a copy, which hold different maps. -/
structure Edit (V : Type) extends MapVar V where
  saved : Option Nat
  apart : ∀ i ∈ saved, i < next ∧ i ∉ ref

variable {V : Type}

namespace MapVar

def value (m : MapVar V) : Option (Map V) := m.ref.map m.heap

/-- A nil map is read as an empty one. -/
def entries (m : MapVar V) : Map V := m.value.getD ∅

/-- Copy the map; the copy of nil is nil. -/
def deepCopy (m : MapVar V) : Edit V where
  heap := Function.update m.heap m.next m.entries
  next := m.next + 1
  ref := m.ref
  live i hi := Nat.lt_succ_of_lt (m.live i hi)
  saved := m.ref.map fun _ => m.next
  apart i hi := by
    obtain ⟨_, -, rfl⟩ := Option.map_eq_some_iff.1 hi
    exact ⟨Nat.lt_succ_self _, fun hnext => Nat.lt_irrefl _ (m.live _ hnext)⟩

theorem entries_of_ref {m : MapVar V} {i : Nat} (h : m.ref = some i) : m.entries = m.heap i := by
  rw [entries, value, h]
  rfl

theorem entries_of_nil {m : MapVar V} (h : m.ref = none) : m.entries = ∅ := by
  rw [entries, value, h]
  rfl

end MapVar

namespace Edit

open MapVar

/-- Make a map when the variable is nil. -/
def ensure (e : Edit V) : Edit V :=
  if e.ref.isSome then e
  else
    { heap := Function.update e.heap e.next ∅
      next := e.next + 1
      ref := some e.next
      live := fun _ hi => Option.mem_some.1 hi ▸ Nat.lt_succ_self _
      saved := e.saved
      apart := fun i hi => ⟨Nat.lt_succ_of_lt (e.apart i hi).1, fun hnext =>
        Nat.lt_irrefl _ (Option.mem_some.1 hnext ▸ (e.apart i hi).1)⟩ }

/-- Change the map that the variable holds. Nothing happens to nil. -/
def write (f : Map V → Map V) (e : Edit V) : Edit V :=
  { e with heap := fun i => if i ∈ e.ref then f (e.heap i) else e.heap i }

/-- Callers make a map first: the assignment to an entry of nil panics. -/
def assign (e : Edit V) (k : String) (v : V) : Edit V := e.write (·.insert k v)

def delete (e : Edit V) (k : String) : Edit V := e.write (·.erase k)

/-- Set the variable to nil when there are no entries. -/
def dropEmpty [DecidableEq V] (e : Edit V) : Edit V :=
  if e.entries = ∅ then
    { e with
      ref := none
      live := fun _ hi => nomatch hi
      apart := fun i hi => ⟨(e.apart i hi).1, fun hi => nomatch hi⟩ }
  else e

/-- The variable after the map of the copy has been put back. -/
def restore (e : Edit V) : MapVar V where
  heap := e.heap
  next := e.next
  ref := e.saved
  live i hi := (e.apart i hi).1

/-! ## What the variable holds -/

@[simp] theorem entries_deepCopy (m : MapVar V) : m.deepCopy.entries = m.entries := by
  have hvalue : m.deepCopy.value = m.value := by
    refine Option.map_congr fun i hi => ?_
    exact Function.update_of_ne (Nat.ne_of_lt (m.live i hi)) _ _
  rw [entries, hvalue, entries]

@[simp] theorem entries_ensure (e : Edit V) : e.ensure.entries = e.entries := by
  unfold ensure
  split
  · rfl
  · next hnil =>
    rw [entries_of_nil (Option.not_isSome_iff_eq_none.1 hnil), entries_of_ref rfl]
    exact Function.update_self _ _ _

theorem isSome_ensure (e : Edit V) : e.ensure.ref.isSome := by
  unfold ensure
  split
  · next hsome => exact hsome
  · rfl

theorem entries_write (f : Map V → Map V) {e : Edit V} (h : e.ref.isSome) :
    (e.write f).entries = f e.entries := by
  obtain ⟨i, hi⟩ := Option.isSome_iff_exists.1 h
  rw [entries_of_ref hi, entries_of_ref (m := (e.write f).toMapVar) hi]
  exact if_pos hi

@[simp] theorem entries_assign (e : Edit V) (k : String) (v : V) :
    (e.ensure.assign k v).entries = e.entries.insert k v := by
  rw [assign, entries_write _ e.isSome_ensure, entries_ensure]

@[simp] theorem entries_delete (e : Edit V) (k : String) :
    (e.delete k).entries = e.entries.erase k := by
  by_cases h : e.ref.isSome
  · exact entries_write _ h
  · have hnil := Option.not_isSome_iff_eq_none.1 h
    rw [entries_of_nil hnil, entries_of_nil (m := (e.delete k).toMapVar) hnil]
    rfl

section
variable [DecidableEq V]

@[simp] theorem entries_dropEmpty (e : Edit V) : e.dropEmpty.entries = e.entries := by
  unfold dropEmpty
  split
  · next hempty => rw [hempty]; rfl
  · rfl

theorem value_dropEmpty_ne (e : Edit V) : e.dropEmpty.value ≠ some ∅ := by
  unfold dropEmpty
  split
  · exact Option.some_ne_none _ |>.symm
  · next hne =>
    intro hvalue
    exact hne (by rw [entries, hvalue]; rfl)

end

/-! ## What the copy holds -/

@[simp] theorem value_restore_deepCopy (m : MapVar V) : m.deepCopy.restore.value = m.value := by
  refine (Option.map_map _ _ _).trans (Option.map_congr fun i hi => ?_)
  exact (Function.update_self _ _ _).trans (entries_of_ref hi)

@[simp] theorem value_restore_ensure (e : Edit V) : e.ensure.restore.value = e.restore.value := by
  unfold ensure
  split
  · rfl
  · refine Option.map_congr fun i hi => ?_
    exact Function.update_of_ne (Nat.ne_of_lt (e.apart i hi).1) _ _

@[simp] theorem value_restore_write (f : Map V → Map V) (e : Edit V) :
    (e.write f).restore.value = e.restore.value := by
  refine Option.map_congr fun i hi => ?_
  exact if_neg (e.apart i hi).2

@[simp] theorem value_restore_dropEmpty [DecidableEq V] (e : Edit V) :
    e.dropEmpty.restore.value = e.restore.value := by
  unfold dropEmpty
  split <;> rfl

end Edit

end Go
