import Mathlib.Data.Nat.Basic
import Mathlib.Tactic.NormNum

/-!
# Go's `uint64` arithmetic on `ℕ`

Counters of the program are modelled by natural numbers. Wherever the source adds, subtracts or
multiplies two `uint64` values the model uses `add64`, `sub64` and `mul64`, which wrap at `2 ^ 64`
exactly as Go does. The `_eq` lemmas say when no wrap happens, and are the only way the proofs get
from machine arithmetic to ordinary arithmetic.
-/

namespace NatP2P

/-- `a + b` on `uint64`. -/
def add64 (a b : ℕ) : ℕ := (a + b) % 2 ^ 64

/-- `a - b` on `uint64`; an underflow wraps to a number close to `2 ^ 64`. -/
def sub64 (a b : ℕ) : ℕ := (a + 2 ^ 64 - b) % 2 ^ 64

/-- `a * b` on `uint64`. -/
def mul64 (a b : ℕ) : ℕ := (a * b) % 2 ^ 64

theorem add64_eq {a b : ℕ} (h : a + b < 2 ^ 64) : add64 a b = a + b := Nat.mod_eq_of_lt h

theorem sub64_eq {a b : ℕ} (hba : b ≤ a) (ha : a < 2 ^ 64) : sub64 a b = a - b := by
  rw [sub64, show a + 2 ^ 64 - b = a - b + 2 ^ 64 from by omega, Nat.add_mod_right]
  exact Nat.mod_eq_of_lt (by omega)

theorem mul64_eq {a b : ℕ} (h : a * b < 2 ^ 64) : mul64 a b = a * b := Nat.mod_eq_of_lt h

/-! ## Go's `int` -/

/-- The largest `int`. -/
def maxInt : ℤ := 2 ^ 63 - 1

/-- The `int` that a sum or a difference of two of them wraps to. -/
def wrapInt (n : ℤ) : ℤ := Int.bmod n (2 ^ 64)

theorem wrapInt_eq {n : ℤ} (hlow : 0 ≤ n) (hhigh : n ≤ maxInt) : wrapInt n = n := by
  unfold maxInt at hhigh
  exact Int.bmod_eq_of_le (by omega) (by omega)

/-- A sum of two non-negative numbers that does not fit is negative. -/
theorem wrapInt_neg {n : ℤ} (hlow : maxInt < n) (hhigh : n < 2 ^ 64) : wrapInt n < 0 := by
  unfold maxInt at hlow
  rw [wrapInt, Int.bmod_def]
  omega

end NatP2P
