import Mathlib.Data.Finset.Card
import Mathlib.Data.Finset.Sort
import Mathlib.Logic.Function.Basic

/-!
# Go maps

A Go `map[K]V` is a partial function with a finite domain whose size the program can read. The
structure keeps the domain next to the lookup function and carries the proof that the two agree, so
`len` is meaningful and two maps with the same lookups are equal. A `map[K]struct{}` is a `Finset K`
in the model.
-/

namespace NatP2P

open Finset

/-- A `map[K]V`: what each key maps to, and the finite set of keys that are present. -/
structure GoMap (K V : Type*) where
  get : K → Option V
  keys : Finset K
  mem_keys : ∀ k, k ∈ keys ↔ (get k).isSome

namespace GoMap

variable {K V : Type*} {m : GoMap K V} {k k' : K} {v : V}

/-- Maps with equal lookups are equal: the key set is determined by them. -/
@[ext]
theorem ext {m₁ m₂ : GoMap K V} (h : ∀ k, m₁.get k = m₂.get k) : m₁ = m₂ := by
  obtain ⟨g₁, k₁, h₁⟩ := m₁
  obtain ⟨g₂, k₂, h₂⟩ := m₂
  obtain rfl : g₁ = g₂ := funext h
  obtain rfl : k₁ = k₂ := by
    ext k
    rw [h₁, h₂]
  rfl

/-- `make(map[K]V)`. -/
def empty : GoMap K V := ⟨fun _ => none, ∅, fun _ => by simp⟩

/-- `len(m)`. -/
def len (m : GoMap K V) : ℕ := m.keys.card

@[simp] theorem get_empty : (empty : GoMap K V).get k = none := rfl

@[simp] theorem len_empty : (empty : GoMap K V).len = 0 := rfl

/-- The loop `for k := range m { if !p(k) { delete(m, k) } }`; its result does not depend on the
order in which Go visits the keys. -/
def retain (m : GoMap K V) (p : K → Bool) : GoMap K V where
  get k := if p k then m.get k else none
  keys := m.keys.filter fun k => p k
  mem_keys k := by
    by_cases h : p k <;> simp [h, m.mem_keys]

theorem get_retain {p : K → Bool} : (m.retain p).get k = if p k then m.get k else none := rfl

theorem retain_eq_self {p : K → Bool} (h : ∀ k v, m.get k = some v → p k) : m.retain p = m := by
  ext1 k
  rw [get_retain]
  cases hk : m.get k with
  | none => rw [ite_self]
  | some v => rw [if_pos (h k v hk)]

/-- What a loop leaves that gives every entry it visits a new value or deletes it. -/
def filterMap {W : Type*} (m : GoMap K V) (f : K → V → Option W) : GoMap K W where
  get k := (m.get k).bind (f k)
  keys := m.keys.filter fun k => ((m.get k).bind (f k)).isSome
  mem_keys k := by
    rw [Finset.mem_filter, m.mem_keys]
    exact and_iff_right_of_imp fun h => by cases hk : m.get k <;> simp_all

theorem get_filterMap {W : Type*} {f : K → V → Option W} :
    (m.filterMap f).get k = (m.get k).bind (f k) := rfl

theorem get_eq_none_of_len_eq_zero (h : m.len = 0) (k : K) : m.get k = none := by
  cases hk : m.get k with
  | none => rfl
  | some v =>
    have hmem : k ∈ m.keys := (m.mem_keys k).mpr (by rw [hk]; rfl)
    rw [card_eq_zero.mp h] at hmem
    simp at hmem

theorem len_pos_of_get (h : m.get k = some v) : 0 < m.len :=
  card_pos.mpr ⟨k, (m.mem_keys k).mpr (by rw [h]; rfl)⟩

/-- A map with `bound` entries whose keys are all below `bound` has an entry for each of them. -/
theorem isSome_get_of_len {m : GoMap ℕ V} {bound : ℕ} (hlen : m.len = bound)
    (hkeys : ∀ k v, m.get k = some v → k < bound) {k : ℕ} (hk : k < bound) : (m.get k).isSome := by
  have hsubset : m.keys ⊆ range bound := by
    intro other hother
    obtain ⟨v, hv⟩ := Option.isSome_iff_exists.mp ((m.mem_keys other).mp hother)
    exact mem_range.mpr (hkeys other v hv)
  have hall : m.keys = range bound :=
    eq_of_subset_of_card_le hsubset (by rw [card_range]; exact hlen.ge)
  rw [← m.mem_keys, hall]
  exact mem_range.mpr hk

/-- An order in which `range` visits the keys of a map. Go gives a new one to every loop. -/
structure Order (K : Type*) where
  visit : Finset K → List K
  nodup : ∀ keys, (visit keys).Nodup
  mem_visit : ∀ keys k, k ∈ visit keys ↔ k ∈ keys

/-- Loops meet the keys in ascending order. The sort is one that the kernel can evaluate. -/
def Order.ascending (r : K → K → Prop) [DecidableRel r] [Std.Total r] [IsTrans K r]
    [Std.Antisymm r] : Order K where
  visit keys := Quot.liftOn keys.val (List.insertionSort r) fun l l' h =>
    ((List.perm_insertionSort r l).trans (h.trans (List.perm_insertionSort r l').symm)).eq_of_pairwise
      (fun _ _ _ _ => antisymm_of r) (List.pairwise_insertionSort r l)
      (List.pairwise_insertionSort r l')
  nodup keys := by
    obtain ⟨⟨l⟩, hl⟩ := keys
    exact (List.perm_insertionSort r l).nodup_iff.mpr hl
  mem_visit keys k := by
    obtain ⟨⟨l⟩, hl⟩ := keys
    exact (List.perm_insertionSort r l).mem_iff

/-- Loops meet numbers in ascending order. -/
def Order.numbers : Order ℕ where
  visit keys := keys.sort (· ≤ ·)
  nodup _ := Finset.sort_nodup ..
  mem_visit _ _ := Finset.mem_sort _

/-- Loops meet byte strings in ascending order. -/
def Order.bytes : Order (List UInt8) := .ascending (· ≤ ·)

/-- `for _, v := range m { values = append(values, v) }`. -/
def values (m : GoMap K V) (order : Order K) : List V := (order.visit m.keys).filterMap m.get

theorem mem_values {order : Order K} : v ∈ m.values order ↔ ∃ k, m.get k = some v := by
  rw [values, List.mem_filterMap]
  refine exists_congr fun k => and_iff_right_of_imp fun h => ?_
  rw [order.mem_visit, m.mem_keys, h]
  rfl

/-- The values of a map whose values name their keys are all different. -/
theorem nodup_values {order : Order K} {key : V → K} (h : ∀ k v, m.get k = some v → key v = k) :
    (m.values order).Nodup := by
  refine (order.nodup m.keys).filterMap ?_
  intro k k' v hk hk'
  rw [← h k v hk, ← h k' v hk']

variable [DecidableEq K]

/-- `m[k] = v`. -/
def set (m : GoMap K V) (k : K) (v : V) : GoMap K V where
  get := Function.update m.get k (some v)
  keys := insert k m.keys
  mem_keys k' := by
    by_cases h : k' = k
    · subst h; simp
    · simp [h, m.mem_keys]

/-- `delete(m, k)`. -/
def delete (m : GoMap K V) (k : K) : GoMap K V where
  get := Function.update m.get k none
  keys := m.keys.erase k
  mem_keys k' := by
    by_cases h : k' = k
    · subst h; simp
    · simp [h, m.mem_keys]

theorem get_set : (m.set k v).get k' = if k' = k then some v else m.get k' :=
  Function.update_apply ..

theorem get_delete : (m.delete k).get k' = if k' = k then none else m.get k' :=
  Function.update_apply ..

theorem get_set_eq_some {w : V} :
    (m.set k v).get k' = some w ↔ k' = k ∧ v = w ∨ k' ≠ k ∧ m.get k' = some w := by
  rw [get_set]
  split_ifs with h <;> simp [h]

theorem get_delete_eq_some : (m.delete k).get k' = some v ↔ k' ≠ k ∧ m.get k' = some v := by
  rw [get_delete]
  split_ifs with h <;> simp [h]

@[simp] theorem get_set_self : (m.set k v).get k = some v := Function.update_self ..

@[simp] theorem get_set_ne (h : k' ≠ k) : (m.set k v).get k' = m.get k' :=
  Function.update_of_ne h ..

@[simp] theorem get_delete_self : (m.delete k).get k = none := Function.update_self ..

@[simp] theorem get_delete_ne (h : k' ≠ k) : (m.delete k).get k' = m.get k' :=
  Function.update_of_ne h ..

theorem set_set {v' : V} : (m.set k v).set k v' = m.set k v' := by
  ext1 k'
  by_cases h : k' = k
  · subst h; simp
  · simp [h]

theorem delete_of_none (h : m.get k = none) : m.delete k = m := by
  ext1 k'
  by_cases hk : k' = k
  · subst hk; simp [h]
  · simp [hk]

theorem len_delete_of_get {m : GoMap K V} (h : m.get k = some v) :
    (m.delete k).len + 1 = m.len := by
  have hk : k ∈ m.keys := (m.mem_keys k).mpr (by simp [h])
  exact card_erase_add_one hk

theorem len_set_of_get {m : GoMap K V} (h : m.get k = some v) (v' : V) :
    (m.set k v').len = m.len := by
  have hk : k ∈ m.keys := (m.mem_keys k).mpr (by simp [h])
  exact congrArg card (insert_eq_of_mem hk)

theorem delete_set : (m.set k v).delete k = m.delete k := by
  ext1 k'
  by_cases h : k' = k
  · subst h; simp
  · simp [h]

theorem len_set_of_none {m : GoMap K V} (h : m.get k = none) (v : V) :
    (m.set k v).len = m.len + 1 := by
  have hk : k ∉ m.keys := fun hk => by simpa [h] using (m.mem_keys k).mp hk
  exact card_insert_of_notMem hk

end GoMap

end NatP2P
