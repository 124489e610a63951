import NatP2P.Common.GoMap
import Mathlib.Algebra.Order.BigOperators.Group.Finset

/-!
# Sums over the values of a map

A program that keeps a counter next to a map means the counter to be the sum of a weight over the
values of the map. When the map changes at one key, the sum changes by the difference of the weights
of its two values there; this is the only fact about sums that an accounting argument needs.
-/

namespace NatP2P.GoMap

open Finset

section Monoid

variable {K V M : Type*} [AddCommMonoid M] {m : GoMap K V} {k : K} {v v' : V} {f g : V → M}

/-- The sum of `f` over the values of the map. -/
def total (m : GoMap K V) (f : V → M) : M := ∑ k ∈ m.keys, (m.get k).elim 0 f

/-- Only the weights of the values that are present count. -/
theorem total_congr (h : ∀ k v, m.get k = some v → f v = g v) : m.total f = m.total g := by
  refine sum_congr rfl fun k _ => ?_
  cases hk : m.get k with
  | none => rfl
  | some v => exact h k v hk

theorem total_eq_zero (h : ∀ k v, m.get k = some v → f v = 0) : m.total f = 0 := by
  rw [total_congr h]
  refine sum_eq_zero fun k _ => ?_
  cases m.get k <;> rfl

/-- A homomorphism may be applied to the weights. -/
theorem map_total {N : Type*} [AddCommMonoid N] (φ : M →+ N) :
    φ (m.total f) = m.total fun v => φ (f v) := by
  rw [total, map_sum]
  refine sum_congr rfl fun k _ => ?_
  cases m.get k
  · exact map_zero φ
  · rfl

variable [DecidableEq K]

theorem total_delete : m.total f = (m.get k).elim 0 f + (m.delete k).total f := by
  have hrest : ∀ s : Finset K, k ∉ s → ∑ k' ∈ s, (m.get k').elim 0 f =
      ∑ k' ∈ s, ((m.delete k).get k').elim 0 f := by
    intro s hs
    refine sum_congr rfl fun k' hk' => ?_
    rw [get_delete_ne (ne_of_mem_of_not_mem hk' hs)]
  by_cases hk : k ∈ m.keys
  · rw [total, ← add_sum_erase _ _ hk, hrest _ (notMem_erase k m.keys)]
    rfl
  · have hnone : m.get k = none := by simpa [m.mem_keys] using hk
    rw [total, hrest _ hk, hnone, Option.elim_none, zero_add, total,
      show (m.delete k).keys = m.keys from erase_eq_of_notMem hk]

/-- Maps that differ at one key exchange the weights of its values. -/
theorem total_exchange {m' : GoMap K V} (h : ∀ k', k' ≠ k → m'.get k' = m.get k') :
    m'.total f + (m.get k).elim 0 f = m.total f + (m'.get k).elim 0 f := by
  have hdelete : m'.delete k = m.delete k := by
    ext1 k'
    by_cases hk : k' = k
    · subst hk; simp
    · simp [hk, h k' hk]
  rw [total_delete, total_delete (m := m) (k := k), hdelete]
  simp only [add_assoc, add_comm, add_left_comm]

/-- A value that is set brings its weight and takes the weight of the value before it. -/
theorem total_set : (m.set k v).total f + (m.get k).elim 0 f = m.total f + f v := by
  have hexchange : (m.set k v).total f + (m.get k).elim 0 f =
      m.total f + ((m.set k v).get k).elim 0 f := total_exchange fun k' hk => get_set_ne hk
  rwa [get_set_self] at hexchange

end Monoid

section Ordered

variable {K V M : Type*} [AddCommMonoid M] [PartialOrder M] [IsOrderedAddMonoid M]
  {m : GoMap K V} {k : K} {v : V} {f : V → M}

theorem total_nonneg (h : ∀ k v, m.get k = some v → 0 ≤ f v) : 0 ≤ m.total f := by
  refine sum_nonneg fun k _ => ?_
  cases hk : m.get k with
  | none => exact le_rfl
  | some v => exact h k v hk

/-- No value weighs more than the whole map. -/
theorem le_total (h : ∀ k v, m.get k = some v → 0 ≤ f v) (hk : m.get k = some v) :
    f v ≤ m.total f := by
  classical
  rw [total_delete, hk]
  refine le_add_of_nonneg_right (total_nonneg fun k' v' hv' => h k' v' ?_)
  by_cases hne : k' = k
  · subst hne; simp at hv'
  · rwa [get_delete_ne hne] at hv'

end Ordered

end NatP2P.GoMap
