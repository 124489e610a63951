import Mathlib.Algebra.BigOperators.Group.List.Basic
import Mathlib.Algebra.Order.Group.Basic
import Mathlib.Data.List.Chain
import Mathlib.Tactic.Abel
import Mathlib.Tactic.Ring

/-!
# Cumulative totals and their increments

A cumulative total is a function of a position; what is handed out between two positions is the
difference of its values there. Along any path the increments add up to the difference between the
two ends, so what is handed out altogether does not depend on where the path stops on the way, and
on an ascending path of a monotone total no increment is negative.
-/

namespace NatP2P

section Increments

variable {α M : Type*} {total : α → M} {path : List α} {start : α}

/-- The increments of `total` along `path`, which begins behind `start`. -/
def increments [Sub M] (total : α → M) (start : α) : List α → List M
  | [] => []
  | position :: path => (total position - total start) :: increments total position path

theorem length_increments [Sub M] : (increments total start path).length = path.length := by
  induction path generalizing start with
  | nil => rfl
  | cons position path ih => rw [increments, List.length_cons, ih, List.length_cons]

theorem sum_increments [AddCommGroup M] (total : α → M) (start : α) (path : List α) :
    (increments total start path).sum = total (path.getLastD start) - total start := by
  induction path generalizing start with
  | nil => simp [increments]
  | cons position path ih =>
    rw [increments, List.sum_cons, ih, List.getLastD_cons]
    abel

theorem increments_nonneg [Preorder α] [AddCommGroup M] [PartialOrder M] [IsOrderedAddMonoid M]
    (htotal : Monotone total) (hpath : (start :: path).IsChain (· ≤ ·)) :
    ∀ increment ∈ increments total start path, 0 ≤ increment := by
  induction path generalizing start with
  | nil => simp [increments]
  | cons position path ih =>
    rw [List.isChain_cons_cons] at hpath
    exact List.forall_mem_cons.mpr ⟨sub_nonneg.mpr (htotal hpath.1), ih hpath.2⟩

end Increments

/-! ## A share of a total

`n / d` of a number, rounded down, can be computed from its quotient and remainder by `d`, which
keeps the products small. Both the share and what is left of the number grow with it. -/

theorem div_mul_add_mod_mul_div (n d c : ℕ) : c / d * n + c % d * n / d = n * c / d := by
  rcases Nat.eq_zero_or_pos d with rfl | hd
  · simp
  · have hsplit : n * c = c % d * n + d * (c / d * n) := by
      conv_lhs => rw [← Nat.mod_add_div c d]
      ring
    rw [hsplit, Nat.add_mul_div_left _ _ hd, Nat.add_comm]

variable {n d : ℕ}

theorem share_le (h : n ≤ d) (c : ℕ) : n * c / d ≤ c :=
  Nat.div_le_of_le_mul (Nat.mul_le_mul_right c h)

/-- One more unit adds at most one unit to the share. -/
theorem share_succ_le (h : n ≤ d) (c : ℕ) : n * (c + 1) / d ≤ n * c / d + 1 := by
  rcases Nat.eq_zero_or_pos d with rfl | hd
  · simp
  · calc n * (c + 1) / d ≤ (n * c + d) / d := Nat.div_le_div_right (by rw [Nat.mul_succ]; omega)
      _ = n * c / d + 1 := Nat.add_div_right _ hd

theorem monotone_share (n d : ℕ) : Monotone fun c => n * c / d := fun _ _ h =>
  Nat.div_le_div_right (Nat.mul_le_mul_left n h)

theorem monotone_sub_share (h : n ≤ d) : Monotone fun c => c - n * c / d := by
  refine monotone_nat_of_le_succ fun c => ?_
  have hstep := share_succ_le h c
  omega

end NatP2P
