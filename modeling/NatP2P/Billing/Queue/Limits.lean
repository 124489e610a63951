import NatP2P.Billing.Queue.Defs

/-!
# What `validateLimits` guarantees

None of the `uint64` operations of `validateLimits` wraps around: it computes what it would compute
over the integers, and for accepted limits the largest live log fits four times into the largest
file.
-/

namespace NatP2P.Billing

/-- The largest log without garbage: every item in its frame behind the domain. -/
def Limits.liveMaximum (limits : Limits) : ℕ :=
  fileDomain.length + limits.maxItems.toNat * frameOverhead + limits.maxBytes.toNat

/-- The largest file: four times the largest log, and sixteen mebibytes. -/
def Limits.maximumFileSize (limits : Limits) : ℕ := limits.liveMaximum * 4 + 16 * 2 ^ 20

/-- The limits that `validateLimits` accepts. -/
structure Limits.Valid (limits : Limits) : Prop where
  maxItems_pos : 0 < limits.maxItems.toNat
  maxBytes_pos : 0 < limits.maxBytes.toNat
  itemsPerPayer_le : limits.maxItemsPerPayer.toNat ≤ limits.maxItems.toNat
  bytesPerPayer_le : limits.maxBytesPerPayer.toNat ≤ limits.maxBytes.toNat
  maximumFileSize_le : limits.maximumFileSize ≤ maximumAllowed

theorem length_fileDomain : fileDomain.length = 32 := by decide

theorem frameOverhead_eq : frameOverhead = 69 := rfl

/-- `validateLimits` over the integers, where nothing wraps around. -/
def validateLimitsExact (limits : Limits) : Except QueueError ℤ := do
  check (limits.maxItems = 0) .maxItemsZero
  check (limits.maxBytes = 0) .maxBytesZero
  check (limits.maxItemsPerPayer > limits.maxItems) .itemsPerPayer
  check (limits.maxBytesPerPayer > limits.maxBytes) .bytesPerPayer
  check ((limits.maxItems.toNat : ℤ) > 2 ^ 63 - 1) .itemsPlatform
  check ((limits.maxItems.toNat : ℤ) > (maximumAllowed - fileDomain.length) / frameOverhead)
    .itemsFileCapacity
  let liveMaximum : ℤ := fileDomain.length + limits.maxItems.toNat * frameOverhead
  check ((limits.maxBytes.toNat : ℤ) > maximumAllowed - liveMaximum) .bytesFileCapacity
  let liveMaximum : ℤ := liveMaximum + limits.maxBytes.toNat
  check (liveMaximum > (maximumAllowed - 16 * 2 ^ 20) / 4) .walCapacity
  return liveMaximum * 4 + 16 * 2 ^ 20

/-- Each `uint64` operation of `validateLimits` is exact, whether the limits are accepted or not:
every guard is passed before the operation that it protects. -/
theorem validateLimits_exact (limits : Limits) :
    (validateLimits limits).map (Nat.cast : ℕ → ℤ) = validateLimitsExact limits := by
  have hroom : sub64 maximumAllowed 32 = maximumAllowed - 32 := sub64_eq (by decide) (by decide)
  have hslack : sub64 maximumAllowed (16 * 2 ^ 20) = maximumAllowed - 16 * 2 ^ 20 :=
    sub64_eq (by decide) (by decide)
  unfold validateLimits validateLimitsExact
  simp only [length_fileDomain, frameOverhead_eq, hroom, hslack]
  refine check_bind_congr Iff.rfl fun _ => ?_
  refine check_bind_congr Iff.rfl fun _ => ?_
  refine check_bind_congr Iff.rfl fun _ => ?_
  refine check_bind_congr Iff.rfl fun _ => ?_
  refine check_bind_congr (by omega) fun _ => ?_
  refine check_bind_congr (by unfold maximumAllowed; omega) fun hcapacity => ?_
  have hmul : mul64 limits.maxItems.toNat 69 = limits.maxItems.toNat * 69 :=
    mul64_eq (by unfold maximumAllowed at hcapacity; omega)
  have hadd : add64 32 (limits.maxItems.toNat * 69) = 32 + limits.maxItems.toNat * 69 :=
    add64_eq (by unfold maximumAllowed at hcapacity; omega)
  have hsub : sub64 maximumAllowed (32 + limits.maxItems.toNat * 69) =
      maximumAllowed - (32 + limits.maxItems.toNat * 69) :=
    sub64_eq (by unfold maximumAllowed at *; omega) (by decide)
  rw [hmul, hadd]
  refine check_bind_congr (by unfold maximumAllowed at *; omega) fun hfile => ?_
  have hlive : add64 (32 + limits.maxItems.toNat * 69) limits.maxBytes.toNat =
      32 + limits.maxItems.toNat * 69 + limits.maxBytes.toNat :=
    add64_eq (by unfold maximumAllowed at *; omega)
  rw [hlive]
  refine check_bind_congr (by unfold maximumAllowed at *; omega) fun hwal => ?_
  have hfour : mul64 (32 + limits.maxItems.toNat * 69 + limits.maxBytes.toNat) 4 =
      (32 + limits.maxItems.toNat * 69 + limits.maxBytes.toNat) * 4 :=
    mul64_eq (by unfold maximumAllowed at *; omega)
  have htotal : add64 ((32 + limits.maxItems.toNat * 69 + limits.maxBytes.toNat) * 4) (16 * 2 ^ 20) =
      (32 + limits.maxItems.toNat * 69 + limits.maxBytes.toNat) * 4 + 16 * 2 ^ 20 :=
    add64_eq (by unfold maximumAllowed at *; omega)
  rw [hfour, htotal]
  simp [pure, Except.pure, Except.map]

/-- The limits that `validateLimits` accepts, and what it returns for them. -/
theorem validateLimits_ok_iff {limits : Limits} {maximum : ℕ} :
    validateLimits limits = .ok maximum ↔ limits.Valid ∧ maximum = limits.maximumFileSize := by
  have hcast : validateLimits limits = .ok maximum ↔
      validateLimitsExact limits = .ok (maximum : ℤ) := by
    rw [← validateLimits_exact]
    cases validateLimits limits <;> simp [Except.map]
  have hzero (n : UInt64) : n = 0 ↔ n.toNat = 0 := by
    rw [← UInt64.toNat_inj]
    rfl
  rw [hcast]
  unfold validateLimitsExact
  simp only [check_bind_ok_iff, pure_ok_iff, hzero, gt_iff_lt,
    UInt64.lt_iff_toNat_lt, Nat.not_lt, length_fileDomain, frameOverhead_eq]
  unfold Limits.maximumFileSize Limits.liveMaximum
  rw [length_fileDomain, frameOverhead_eq]
  constructor
  · rintro ⟨h1, h2, h3, h4, -, -, h7, h8, h9⟩
    refine ⟨⟨by omega, by omega, h3, h4, ?_⟩, by omega⟩
    rw [Limits.maximumFileSize, Limits.liveMaximum, length_fileDomain, frameOverhead_eq]
    omega
  · rintro ⟨⟨h1, h2, h3, h4, h5⟩, rfl⟩
    rw [Limits.maximumFileSize, Limits.liveMaximum, length_fileDomain, frameOverhead_eq] at h5
    unfold maximumAllowed at *
    exact ⟨by omega, by omega, h3, h4, by omega, by omega, by omega, by omega, by omega⟩

/-- A frame around any payload that the limits admit is within the length that replay accepts. -/
theorem Limits.Valid.frameBody_le {limits : Limits} (h : limits.Valid) {length : ℕ}
    (hlength : length ≤ limits.maxBytes.toNat ∨ length ≤ 32)
    (hframe : frameFixedBodySize + length ≤ 2 ^ 32 - 1) :
    frameFixedBodySize + length ≤ maximumFrameBody limits := by
  have hlive := h.maximumFileSize_le
  unfold Limits.maximumFileSize Limits.liveMaximum maximumAllowed at hlive
  have hadd : add64 frameFixedBodySize (max limits.maxBytes.toNat 32) =
      frameFixedBodySize + max limits.maxBytes.toNat 32 :=
    add64_eq (by unfold frameFixedBodySize; omega)
  rw [maximumFrameBody]
  omega

end NatP2P.Billing
