import Mathlib.Data.BitVec
import Mathlib.Logic.Function.Basic

/-!
# Bitmaps

An array of 64-bit words is a set of slots: slot `i` is bit `i % 64` of word `i / 64`. Programs read
and write it with the mask of a slot; the lemmas below say what the three mask operations do to each
slot, so no proof about such a program ever looks at a word.
-/

namespace NatP2P

/-- A `[n]uint64` that is used as a set of slots. -/
abbrev Bitmap (n : ℕ) := Fin n → BitVec 64

namespace Bitmap

variable {n : ℕ}

/-- `clear(map[:])`: no slot is in the set. -/
def clear : Bitmap n := fun _ => 0

/-- The word of a slot. -/
def word (slot : Fin (64 * n)) : Fin n := ⟨slot / 64, by omega⟩

/-- `uint64(1) << (slot % 64)`. -/
def mask (slot : Fin (64 * n)) : BitVec 64 := BitVec.twoPow 64 (slot % 64)

/-- The slot is in the set. -/
def test (map : Bitmap n) (slot : Fin (64 * n)) : Bool := (map (word slot)).getLsbD (slot % 64)

theorem getLsbD_mask (slot : Fin (64 * n)) (i : ℕ) :
    (mask slot).getLsbD i = decide (i = slot % 64) := by
  rw [mask]
  have hlt : slot.val % 64 < 64 := Nat.mod_lt _ (by decide)
  by_cases hi : i = slot % 64
  · simp [hi, hlt]
  · simp [hi, Ne.symm hi]

/-- Slots with equal words and equal bits are equal. -/
theorem slot_ext {slot other : Fin (64 * n)} (hword : word slot = word other)
    (hbit : slot.val % 64 = other.val % 64) : slot = other := by
  have hquotient : slot.val / 64 = other.val / 64 := congrArg Fin.val hword
  omega

/-- `map[word] & mask != 0`. -/
theorem and_mask_ne_zero {map : Bitmap n} {slot : Fin (64 * n)} :
    map (word slot) &&& mask slot ≠ 0 ↔ map.test slot := by
  constructor
  · intro hne
    by_contra htest
    apply hne
    ext i hi
    rw [← BitVec.getLsbD_eq_getElem, BitVec.getLsbD_and, getLsbD_mask]
    by_cases hslot : i = slot % 64
    · subst hslot
      simpa [test] using htest
    · simp [hslot]
  · intro htest hzero
    have hbit := congrArg (BitVec.getLsbD · (slot % 64)) hzero
    simp only [BitVec.getLsbD_and, getLsbD_mask, decide_true, Bool.and_true] at hbit
    rw [test] at htest
    rw [htest] at hbit
    simp at hbit

/-- `map[word] |= mask` adds the slot. -/
theorem test_update_or (map : Bitmap n) (slot other : Fin (64 * n)) :
    Bitmap.test (Function.update map (word slot) (map (word slot) ||| mask slot)) other =
      (decide (other = slot) || map.test other) := by
  unfold test
  by_cases hword : word other = word slot
  · rw [hword, Function.update_self, BitVec.getLsbD_or, getLsbD_mask]
    by_cases hbit : other.val % 64 = slot.val % 64
    · simp [slot_ext hword hbit]
    · have hne : other ≠ slot := fun heq => hbit (by rw [heq])
      simp [hbit, hne]
  · have hne : other ≠ slot := fun heq => hword (by rw [heq])
    rw [Function.update_of_ne hword]
    simp [hne]

/-- `map[word] &^= mask` removes the slot. -/
theorem test_update_andNot (map : Bitmap n) (slot other : Fin (64 * n)) :
    Bitmap.test (Function.update map (word slot) (map (word slot) &&& ~~~mask slot)) other =
      (decide (other ≠ slot) && map.test other) := by
  unfold test
  by_cases hword : word other = word slot
  · have hlt : other.val % 64 < 64 := Nat.mod_lt _ (by decide)
    rw [hword, Function.update_self, BitVec.getLsbD_and, BitVec.getLsbD_not, getLsbD_mask]
    by_cases hbit : other.val % 64 = slot.val % 64
    · simp [slot_ext hword hbit]
    · have hne : other ≠ slot := fun heq => hbit (by rw [heq])
      simp [hbit, hne, hlt]
  · have hne : other ≠ slot := fun heq => hword (by rw [heq])
    rw [Function.update_of_ne hword]
    simp [hne]

@[simp]
theorem test_clear (slot : Fin (64 * n)) : Bitmap.test (clear : Bitmap n) slot = false := by
  simp [test, clear]

end Bitmap

end NatP2P
