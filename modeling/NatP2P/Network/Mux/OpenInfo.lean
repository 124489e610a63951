import NatP2P.Common.Bytes
import NatP2P.Common.Word

/-!
# The payload of an OPEN frame

The end that opens a stream tells the other one the target node, the public key of the origin, and
for a striped connection the place of the leg. The fields are joined by newlines; the last three are
left out when they have their default values, so that old peers understand the frame.

Reference: `networkFrameWork/bridge_mux.go`.
-/

namespace NatP2P.Network

/-- `muxOpenInfo`. -/
structure MuxOpenInfo where
  targetNodeID : Bytes
  originPubKey : Bytes
  legIndex : ℤ
  legCount : ℤ
  legFlags : UInt8
deriving DecidableEq

namespace MuxOpenInfo

/-- The loop of `itoa`, which fills an array of 20 bytes from its end. -/
def itoaLoop : ℕ → ℕ → Bytes → Bytes
  | 0, _, digits => digits
  | room + 1, n, digits =>
    if n = 0 then digits else itoaLoop room (n / 10) (UInt8.ofNat (48 + n % 10) :: digits)

/-- `itoa`. -/
def itoa (n : ℤ) : Bytes :=
  if n = 0 then [48]
  else if n < 0 then 45 :: itoaLoop 20 (wrapInt (-n)).toNat []
  else itoaLoop 20 n.toNat []

/-- The loop of `atoi`. It stops at the first byte that is no digit. -/
def atoiLoop : ℤ → Bytes → ℤ
  | n, [] => n
  | n, c :: rest =>
    if c < 48 ∨ 57 < c then n else atoiLoop (wrapInt (n * 10 + (c.toNat - 48 : ℕ))) rest

/-- `atoi`. -/
def atoi (s : Bytes) : ℤ := atoiLoop 0 s

/-- The loop of `splitN`, with the parts so far and the bytes since the last separator. -/
def splitNLoop (sep : UInt8) (n : ℕ) : List Bytes → Bytes → Bytes → List Bytes
  | out, part, [] => out ++ [part]
  | out, part, c :: rest =>
    if out.length < n - 1 ∧ c = sep then splitNLoop sep n (out ++ [part]) [] rest
    else splitNLoop sep n out (part ++ [c]) rest

/-- `splitN`. -/
def splitN (s : Bytes) (sep : UInt8) (n : ℕ) : List Bytes := splitNLoop sep n [] [] s

/-- `optionalLegFlags`. -/
def optionalLegFlags (flags : List UInt8) : UInt8 := flags.headD 0

/-- `encodeMuxOpenLeg`. -/
def encodeMuxOpenLeg (targetNodeID originPubKey : Bytes) (legIndex legCount : ℤ)
    (legFlags : List UInt8) : Bytes :=
  let flags := optionalLegFlags legFlags
  if legCount ≤ 1 ∧ flags = 0 then targetNodeID ++ 10 :: originPubKey
  else
    let (legIndex, legCount) := if legCount ≤ 1 then (0, 1) else (legIndex, legCount)
    let payload := targetNodeID ++ 10 :: originPubKey ++ 10 :: itoa legIndex ++ 10 :: itoa legCount
    if flags ≠ 0 then payload ++ 10 :: itoa flags.toNat else payload

/-- `decodeMuxOpen`. -/
def decodeMuxOpen (payload : Bytes) : MuxOpenInfo :=
  let parts := splitN payload 10 5
  let count := atoi (parts.getD 3 [])
  let flags := atoi (parts.getD 4 [])
  { targetNodeID := parts.getD 0 []
    originPubKey := parts.getD 1 []
    legIndex := if 3 < parts.length then atoi (parts.getD 2 []) else 0
    legCount := if 3 < parts.length ∧ 0 < count then count else 1
    legFlags := if 4 < parts.length ∧ 0 ≤ flags ∧ flags ≤ 255 then UInt8.ofNat flags.toNat else 0 }

/-- The info of a stream that the own end opened: nothing sets it. -/
def unset : MuxOpenInfo where
  targetNodeID := []
  originPubKey := []
  legIndex := 0
  legCount := 0
  legFlags := 0

/-! ## The round trip

Nothing keeps a newline out of the target and the key, and the key is what a client has sent: one
with newlines sets the place of the leg (`key_sets_the_leg`). Without them the other end reads what
was written. -/

theorem toNat_digit (n : ℕ) : (UInt8.ofNat (48 + n % 10)).toNat = 48 + n % 10 := by
  rw [UInt8.toNat_ofNat']
  omega

theorem atoiLoop_itoaLoop {room n : ℕ} (hroom : n < 10 ^ room) (hn : (n : ℤ) ≤ maxInt)
    (digits : Bytes) : atoiLoop 0 (itoaLoop room n digits) = atoiLoop n digits := by
  induction room generalizing n digits with
  | zero => simp_all [itoaLoop]
  | succ room ih =>
    rw [itoaLoop]
    split_ifs with hzero
    · rw [hzero]
      rfl
    · rw [ih (by omega) (by omega), atoiLoop, if_neg, toNat_digit, wrapInt_eq (by omega) (by omega)]
      · congr 1
        omega
      · simp only [UInt8.lt_iff_toNat_lt, toNat_digit]
        simp only [UInt8.reduceToNat]
        omega

theorem atoi_itoa {n : ℤ} (hlow : 0 ≤ n) (hhigh : n ≤ maxInt) : atoi (itoa n) = n := by
  rw [itoa]
  split_ifs with hzero
  · rw [hzero]
    decide
  · omega
  · rw [atoi, atoiLoop_itoaLoop (by unfold maxInt at hhigh; omega) (by omega), atoiLoop]
    omega

theorem newline_notMem_itoaLoop {room n : ℕ} {digits : Bytes} (h : 10 ∉ digits) :
    10 ∉ itoaLoop room n digits := by
  induction room generalizing n digits with
  | zero => exact h
  | succ room ih =>
    rw [itoaLoop]
    split_ifs
    · exact h
    · refine ih fun hmem => (List.mem_cons.mp hmem).elim (fun heq => ?_) h
      have hdigit := toNat_digit n
      rw [← heq] at hdigit
      change 10 = _ at hdigit
      omega

theorem newline_notMem_itoa {n : ℤ} (hlow : 0 ≤ n) : 10 ∉ itoa n := by
  rw [itoa]
  split_ifs
  · decide
  · omega
  · exact newline_notMem_itoaLoop List.not_mem_nil

variable {sep : UInt8} {n : ℕ} {out : List Bytes} {p : Bytes}

theorem splitNLoop_cut (hout : out.length < n - 1) (hp : sep ∉ p) (part rest : Bytes) :
    splitNLoop sep n out part (p ++ sep :: rest) = splitNLoop sep n (out ++ [part ++ p]) [] rest := by
  induction p generalizing part with
  | nil => simp [splitNLoop, hout]
  | cons c p ih =>
    rw [List.mem_cons, not_or] at hp
    rw [List.cons_append, splitNLoop, if_neg fun h => hp.1 h.2.symm, ih hp.2, List.append_assoc]
    rfl

theorem splitNLoop_last (hp : sep ∉ p) (part : Bytes) :
    splitNLoop sep n out part p = out ++ [part ++ p] := by
  induction p generalizing part with
  | nil => simp [splitNLoop]
  | cons c p ih =>
    rw [List.mem_cons, not_or] at hp
    rw [splitNLoop, if_neg fun h => hp.1 h.2.symm, ih hp.2, List.append_assoc]
    rfl

/-- Only the last of the `n` parts can contain the separator. -/
theorem notMem_splitNLoop (hout : ∀ q ∈ out, sep ∉ q) {part : Bytes}
    (hpart : out.length < n - 1 → sep ∉ part) (s : Bytes) {i : ℕ} (hi : i < n - 1) :
    sep ∉ (splitNLoop sep n out part s).getD i [] := by
  induction s generalizing out part with
  | nil =>
    rw [splitNLoop, List.getD_eq_getElem?_getD, List.getElem?_append]
    split_ifs with hlt
    · rw [List.getElem?_eq_getElem hlt]
      exact hout _ (List.getElem_mem hlt)
    · obtain heq | hne := Nat.eq_zero_or_pos (i - out.length)
      · rw [heq]
        exact hpart (by omega)
      · rw [List.getElem?_eq_none (by rwa [List.length_singleton])]
        exact List.not_mem_nil
  | cons c rest ih =>
    rw [splitNLoop]
    split_ifs with hcut
    · refine ih (fun q hq => ?_) fun _ => List.not_mem_nil
      rcases List.mem_append.mp hq with hold | hnew
      · exact hout q hold
      · rw [List.mem_singleton.mp hnew]
        exact hpart hcut.1
    · refine ih hout fun hlt hmem => ?_
      rcases List.mem_append.mp hmem with hold | hnew
      · exact hpart hlt hold
      · exact hcut ⟨hlt, (List.mem_singleton.mp hnew).symm⟩

/-- Whatever the payload is, the target and the key that are read from it have no newline. -/
theorem newline_notMem_decodeMuxOpen (payload : Bytes) :
    10 ∉ (decodeMuxOpen payload).targetNodeID ∧ 10 ∉ (decodeMuxOpen payload).originPubKey :=
  ⟨notMem_splitNLoop (by simp) (fun _ => List.not_mem_nil) _ (by decide),
    notMem_splitNLoop (by simp) (fun _ => List.not_mem_nil) _ (by decide)⟩

theorem decodeMuxOpen_of_newline_notMem {target key : Bytes} {index count : ℤ} (flags : UInt8)
    (htarget : 10 ∉ target) (hkey : 10 ∉ key) (hindex : 0 ≤ index ∧ index ≤ maxInt)
    (hcount : 1 ≤ count ∧ count ≤ maxInt) (hone : count = 1 → index = 0) :
    decodeMuxOpen (encodeMuxOpenLeg target key index count [flags]) =
      ⟨target, key, index, count, flags⟩ := by
  have hpos : 0 < count := by omega
  have hi := newline_notMem_itoa hindex.1
  have hc := newline_notMem_itoa hpos.le
  have hf := newline_notMem_itoa (Int.natCast_nonneg flags.toNat)
  have hleg : (if count ≤ 1 then (0, 1) else (index, count)) = (index, count) := by
    split_ifs
    · rw [hone (by omega), show count = 1 by omega]
    · rfl
  rw [encodeMuxOpenLeg, show optionalLegFlags [flags] = flags from rfl, hleg]
  split_ifs with hshort hflags
  · have hparts : splitN (target ++ 10 :: key) 10 5 = [target, key] := by
      simp [splitN, splitNLoop_cut, splitNLoop_last, htarget, hkey]
    obtain rfl : count = 1 := by omega
    simp [decodeMuxOpen, hparts, hone, hshort.2]
  · have hparts : splitN (target ++ 10 :: key ++ 10 :: itoa index ++ 10 :: itoa count ++
        10 :: itoa flags.toNat) 10 5 = [target, key, itoa index, itoa count, itoa flags.toNat] := by
      simp [splitN, splitNLoop_cut, splitNLoop_last, htarget, hkey, hi, hc, hf]
    have hle : (flags.toNat : ℤ) ≤ 255 := by have := flags.toNat_lt; omega
    rw [decodeMuxOpen, hparts]
    simp [atoi_itoa, hindex, hcount, hpos, hpos.le, hle, hle.trans (show 255 ≤ maxInt by decide)]
  · have hparts : splitN (target ++ 10 :: key ++ 10 :: itoa index ++ 10 :: itoa count) 10 5 =
        [target, key, itoa index, itoa count] := by
      simp [splitN, splitNLoop_cut, splitNLoop_last, htarget, hkey, hi, hc]
    rw [decodeMuxOpen, hparts]
    simp [atoi_itoa, hindex, hcount, hpos, hpos.le, not_not.mp hflags]

/-- **An OPEN payload is read as it was written** if and only if neither string has a newline. -/
theorem decodeMuxOpen_encodeMuxOpenLeg (target key : Bytes) {index count : ℤ} (flags : UInt8)
    (hindex : 0 ≤ index ∧ index ≤ maxInt) (hcount : 1 ≤ count ∧ count ≤ maxInt)
    (hone : count = 1 → index = 0) :
    decodeMuxOpen (encodeMuxOpenLeg target key index count [flags]) =
      ⟨target, key, index, count, flags⟩ ↔ 10 ∉ target ∧ 10 ∉ key := by
  constructor
  · intro hread
    have hfields := newline_notMem_decodeMuxOpen (encodeMuxOpenLeg target key index count [flags])
    rw [hread] at hfields
    exact hfields
  · rintro ⟨htarget, hkey⟩
    exact decodeMuxOpen_of_newline_notMem flags htarget hkey hindex hcount hone

theorem decodeMuxOpen_encodeMuxOpenLeg_sample :
    decodeMuxOpen (encodeMuxOpenLeg [97] [98] 1 2 [3]) = ⟨[97], [98], 1, 2, 3⟩ :=
  (decodeMuxOpen_encodeMuxOpenLeg [97] [98] 3 (by decide) (by decide) (by decide)).mpr (by decide)

theorem key_sets_the_leg :
    decodeMuxOpen (encodeMuxOpenLeg [97] [98, 10, 55, 10, 57, 10, 49] 0 1 [0]) =
      ⟨[97], [98], 7, 9, 1⟩ := by
  decide

end MuxOpenInfo

end NatP2P.Network
