import Mathlib.Data.List.Induction
import Mathlib.Tactic.Ring

/-!
# Byte strings

Byte slices are lists of bytes, `[32]byte` arrays are the lists of length 32, and
`binary.BigEndian` is `putBE`/`getBE` at a chosen width. Hexadecimal text is Go's lowercase
`encoding/hex`.
-/

namespace NatP2P

open List

/-- A `[]byte`. -/
abbrev Bytes := List UInt8

/-- `[]byte(s)`: the UTF-8 encoding of a string. -/
def utf8 (s : String) : Bytes := s.toUTF8.data.toList

/-! ## Big-endian integers -/

/-- `binary.BigEndian.PutUintN` with `width` bytes. -/
def putBE : ℕ → ℕ → Bytes
  | 0, _ => []
  | width + 1, n => putBE width (n / 256) ++ [UInt8.ofNat n]

/-- `binary.BigEndian.UintN` of a whole slice. -/
def getBE (b : Bytes) : ℕ := b.foldl (fun acc x => acc * 256 + x.toNat) 0

@[simp]
theorem length_putBE (width n : ℕ) : (putBE width n).length = width := by
  induction width generalizing n with
  | zero => rfl
  | succ width ih => simp [putBE, ih]

theorem getBE_append_singleton (b : Bytes) (x : UInt8) : getBE (b ++ [x]) = getBE b * 256 + x.toNat := by
  simp [getBE]

/-- Reading back what was written returns the value reduced to the width. -/
theorem getBE_putBE (width n : ℕ) : getBE (putBE width n) = n % 256 ^ width := by
  induction width generalizing n with
  | zero => simp [putBE, getBE, Nat.mod_one]
  | succ width ih =>
    rw [putBE, getBE_append_singleton, ih, pow_succ, Nat.mul_comm (256 ^ width) 256, Nat.mod_mul,
      UInt8.toNat_ofNat']
    ring

theorem getBE_putBE_of_lt {width n : ℕ} (h : n < 256 ^ width) : getBE (putBE width n) = n := by
  rw [getBE_putBE, Nat.mod_eq_of_lt h]

theorem getBE_lt (b : Bytes) : getBE b < 256 ^ b.length := by
  induction b using reverseRecOn with
  | nil => simp [getBE]
  | append_singleton b x ih =>
    have hx := x.toNat_lt
    rw [getBE_append_singleton, length_append, length_singleton]
    omega

theorem putBE_getBE (b : Bytes) : putBE b.length (getBE b) = b := by
  induction b using reverseRecOn with
  | nil => rfl
  | append_singleton b x ih =>
    have hx := x.toNat_lt
    have hquotient : (getBE b * 256 + x.toNat) / 256 = getBE b := by omega
    have hdigit : UInt8.ofNat (getBE b * 256 + x.toNat) = x := by
      apply UInt8.toNat_inj.mp
      rw [UInt8.toNat_ofNat']
      omega
    rw [getBE_append_singleton, length_append, length_singleton, putBE, hquotient, ih, hdigit]

/-! ## Little-endian integers -/

/-- `binary.LittleEndian.PutUintN` with `width` bytes. -/
def putLE (width n : ℕ) : Bytes := (putBE width n).reverse

/-- `binary.LittleEndian.UintN` of a whole slice. -/
def getLE (b : Bytes) : ℕ := getBE b.reverse

@[simp]
theorem length_putLE (width n : ℕ) : (putLE width n).length = width := by simp [putLE]

theorem getLE_putLE_of_lt {width n : ℕ} (h : n < 256 ^ width) : getLE (putLE width n) = n := by
  rw [getLE, putLE, reverse_reverse, getBE_putBE_of_lt h]

/-! ## 32-byte arrays -/

/-- A `[32]byte`. -/
abbrev Bytes32 := { b : Bytes // b.length = 32 }

namespace Bytes32

/-- The zero array. -/
def zero : Bytes32 := ⟨List.replicate 32 0, by simp⟩

/-- `copy(a[:], b)` into a zeroed array. -/
def copy (b : Bytes) : Bytes32 :=
  ⟨b.take 32 ++ List.replicate (32 - b.length) 0, by simp; omega⟩

@[simp]
theorem length_val (a : Bytes32) : a.val.length = 32 := a.property

/-- Copying the bytes of an array gives the array back. -/
@[simp]
theorem copy_val (a : Bytes32) : copy a.val = a := by
  apply Subtype.ext
  simp only [copy, a.property, Nat.sub_self, replicate_zero, append_nil]
  exact take_of_length_le (by simp)

end Bytes32

/-! ## Hexadecimal text -/

/-- One hexadecimal digit in lowercase. -/
def hexDigit (n : ℕ) : Char := if n < 10 then Char.ofNat (48 + n) else Char.ofNat (87 + n)

/-- The value of a hexadecimal digit; `hex.DecodeString` accepts both cases. -/
def hexValue (c : Char) : Option ℕ :=
  if '0' ≤ c ∧ c ≤ '9' then some (c.toNat - 48)
  else if 'a' ≤ c ∧ c ≤ 'f' then some (c.toNat - 87)
  else if 'A' ≤ c ∧ c ≤ 'F' then some (c.toNat - 55)
  else none

/-- `hex.EncodeToString`. -/
def hexEncode (b : Bytes) : String :=
  String.ofList (b.flatMap fun x => [hexDigit (x.toNat / 16), hexDigit (x.toNat % 16)])

/-- The digits of `hex.DecodeString`, two at a time. -/
def hexDecodeChars : List Char → Option Bytes
  | [] => some []
  | [_] => none
  | hi :: lo :: rest => do
    let h ← hexValue hi
    let l ← hexValue lo
    let tail ← hexDecodeChars rest
    return UInt8.ofNat (h * 16 + l) :: tail

/-- `hex.DecodeString`. -/
def hexDecode (s : String) : Option Bytes := hexDecodeChars s.toList

/-- `hex.EncodeToString` where the text is kept as the bytes of a Go string. -/
def hexText (b : Bytes) : Bytes :=
  b.flatMap fun x => [UInt8.ofNat (hexDigit (x.toNat / 16)).toNat,
    UInt8.ofNat (hexDigit (x.toNat % 16)).toNat]

/-- `hex.DecodeString` of the bytes of a Go string. -/
def hexTextDecode (text : Bytes) : Option Bytes :=
  hexDecodeChars (text.map fun x => Char.ofNat x.toNat)

end NatP2P
