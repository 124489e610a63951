import Mathlib

/-!
# Lists without a repeated key

A list whose elements carry distinct keys behaves like a map with an order. `without key l k` is the
list without the element of key `k`; removal by position is an instance of it, and what an element
contributes to a sum over the list is exactly what its removal takes away.
-/

namespace NatP2P

open List

section KeyedList

variable {α K : Type} [DecidableEq K] (key : α → K)

/-- The elements whose key is not `k`, in order. -/
def without (l : List α) (k : K) : List α := l.filter fun a => key a ≠ k

variable {key}

variable {l : List α} {k : K} {a : α}

theorem without_eq_self (h : k ∉ l.map key) : without key l k = l := by
  refine filter_eq_self.mpr fun a ha => ?_
  have hne : key a ≠ k := fun heq => h (heq ▸ mem_map_of_mem ha)
  simpa using hne

theorem mem_without : a ∈ without key l k ↔ a ∈ l ∧ key a ≠ k := by
  simp [without]

/-- The element at the head is the one that is removed when its key is. -/
theorem without_cons_self (h : ((a :: l).map key).Nodup) : without key (a :: l) (key a) = l := by
  have hnot : key a ∉ l.map key := (nodup_cons.mp h).1
  rw [without, filter_cons_of_neg (by simp)]
  exact without_eq_self hnot

theorem without_cons_of_ne (h : key a ≠ k) : without key (a :: l) k = a :: without key l k := by
  rw [without, filter_cons_of_pos (by simpa using h)]
  rfl

variable (h : (l.map key).Nodup)
include h

theorem nodup_without (k : K) : ((without key l k).map key).Nodup :=
  h.sublist (filter_sublist.map key)

/-- Removal by position is removal by key. -/
theorem eraseIdx_eq_without {i : ℕ}
    (ha : l[i]? = some a) : l.eraseIdx i = without key l (key a) := by
  induction l generalizing i with
  | nil => simp at ha
  | cons b l ih =>
    cases i with
    | zero =>
      obtain rfl : b = a := by simpa using ha
      rw [without_cons_self h, eraseIdx_cons_zero]
    | succ i =>
      rw [map_cons, nodup_cons] at h
      have hne : key b ≠ key a := fun heq =>
        h.1 (heq ▸ mem_map_of_mem (mem_of_getElem? ha))
      rw [eraseIdx_cons_succ, without_cons_of_ne hne, ih h.2 ha]

/-- A list is a permutation of any of its elements followed by the others. -/
theorem perm_cons_without (ha : a ∈ l) : l.Perm (a :: without key l (key a)) := by
  induction l with
  | nil => simp at ha
  | cons b l ih =>
    rcases mem_cons.mp ha with rfl | ha
    · rw [without_cons_self h]
    · rw [map_cons, nodup_cons] at h
      have hne : key b ≠ key a := fun heq => h.1 (heq ▸ mem_map_of_mem ha)
      rw [without_cons_of_ne hne]
      exact ((ih h.2 ha).cons b).trans (List.Perm.swap a b _)

/-- What an element contributes to a sum. -/
theorem sum_map_eq_add_without (ha : a ∈ l)
    (f : α → ℕ) : (l.map f).sum = f a + ((without key l (key a)).map f).sum := by
  rw [((perm_cons_without h ha).map f).sum_nat, map_cons, sum_cons]

theorem length_eq_add_without (ha : a ∈ l) : l.length = 1 + (without key l (key a)).length := by
  rw [(perm_cons_without h ha).length_eq, length_cons, Nat.add_comm]

end KeyedList

end NatP2P
