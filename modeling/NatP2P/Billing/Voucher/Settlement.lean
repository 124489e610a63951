import NatP2P.Billing.Voucher.Theorems
import NatP2P.Common.Increments
import Mathlib

/-!
# Settlement along a voucher chain

Reference: `billingvoucher/policy.go`.

A channel is settled from its cumulative watermark alone: what a step pays is the difference of the
policy's totals at the last vouchers of the step and of the step before it. A chain of vouchers has
ascending watermarks, so every step pays both parties a non-negative amount and all steps together
pay the totals of the last voucher, wherever the chain is cut.
-/

namespace NatP2P.Billing

open List

/-! ## The policy -/

/-- `currentRelayShareNumerator`. -/
def currentRelayShareNumerator : ℕ := 95

/-- `currentPolicyShareDenominator`. -/
def currentPolicyShareDenominator : ℕ := 100

/-- The error of `CurrentPolicyCumulativeTotals`. -/
inductive PolicyError where
  | cumulativeRange
deriving DecidableEq

/-- `CurrentPolicyCumulativeTotals`: the totals of the Relay and of the CA. -/
def currentPolicyCumulativeTotals (cumulative : ℕ) : Except PolicyError (ℕ × ℕ) := do
  check (cumulative > maxBillableBytes) .cumulativeRange
  let quotient := cumulative / currentPolicyShareDenominator
  let remainder := cumulative % currentPolicyShareDenominator
  let relay := add64 (mul64 quotient currentRelayShareNumerator)
    (mul64 remainder currentRelayShareNumerator / currentPolicyShareDenominator)
  return (relay, sub64 cumulative relay)

/-- The Relay's share of the bytes up to a watermark. -/
def relayShare (cumulative : ℕ) : ℕ := 95 * cumulative / 100

theorem relayShare_le (cumulative : ℕ) : relayShare cumulative ≤ cumulative :=
  share_le (by decide) cumulative

/-- Every machine operation of `CurrentPolicyCumulativeTotals` computes the number it stands for. -/
structure Exact (cumulative : ℕ) : Prop where
  quotient : mul64 (cumulative / currentPolicyShareDenominator) currentRelayShareNumerator =
    cumulative / currentPolicyShareDenominator * currentRelayShareNumerator
  remainder : mul64 (cumulative % currentPolicyShareDenominator) currentRelayShareNumerator =
    cumulative % currentPolicyShareDenominator * currentRelayShareNumerator
  relay : add64 (cumulative / currentPolicyShareDenominator * currentRelayShareNumerator)
      (cumulative % currentPolicyShareDenominator * currentRelayShareNumerator /
        currentPolicyShareDenominator) =
    cumulative / currentPolicyShareDenominator * currentRelayShareNumerator +
      cumulative % currentPolicyShareDenominator * currentRelayShareNumerator /
        currentPolicyShareDenominator
  relay_le : relayShare cumulative ≤ cumulative
  ca : sub64 cumulative (relayShare cumulative) = cumulative - relayShare cumulative

variable {cumulative settled watermark : ℕ} {steps : List (List MutualVoucher)}

theorem exact_of_le (h : cumulative ≤ maxBillableBytes) : Exact cumulative := by
  unfold maxBillableBytes at h
  have hle := relayShare_le cumulative
  refine ⟨mul64_eq ?_, mul64_eq ?_, add64_eq ?_, hle, sub64_eq hle (by omega)⟩
  · show cumulative / 100 * 95 < 2 ^ 64
    omega
  · show cumulative % 100 * 95 < 2 ^ 64
    omega
  · show cumulative / 100 * 95 + cumulative % 100 * 95 / 100 < 2 ^ 64
    omega

/-- Up to the billing limit the policy gives the Relay its share and the CA the rest. -/
theorem currentPolicyCumulativeTotals_eq (h : cumulative ≤ maxBillableBytes) :
    currentPolicyCumulativeTotals cumulative =
      .ok (relayShare cumulative, cumulative - relayShare cumulative) := by
  have hexact := exact_of_le h
  have hshare : cumulative / currentPolicyShareDenominator * currentRelayShareNumerator +
      cumulative % currentPolicyShareDenominator * currentRelayShareNumerator /
        currentPolicyShareDenominator = relayShare cumulative :=
    div_mul_add_mod_mul_div 95 100 cumulative
  unfold currentPolicyCumulativeTotals
  simp only [check_bind_ok_iff, pure_ok_iff, Nat.not_lt, gt_iff_lt]
  refine ⟨h, ?_⟩
  rw [hexact.quotient, hexact.remainder, hexact.relay, hshare, hexact.ca]

/-- The totals as one value, in which settlement steps are differences. -/
def policyTotals (cumulative : ℕ) : ℤ × ℤ :=
  (relayShare cumulative, (cumulative - relayShare cumulative : ℕ))

theorem monotone_policyTotals : Monotone policyTotals := by
  intro c c' hle
  have hrelay : relayShare c ≤ relayShare c' := monotone_share 95 100 hle
  have hca : c - relayShare c ≤ c' - relayShare c' :=
    monotone_sub_share (show 95 ≤ 100 by decide) hle
  exact ⟨Int.ofNat_le.mpr hrelay, Int.ofNat_le.mpr hca⟩

/-! ## Chains -/

/-- A chain of vouchers from the first one of a channel. -/
structure VoucherChain (C : Crypto) (chain : List MutualVoucher) : Prop where
  first : ∀ voucher ∈ chain.head?, voucher.body.validate = .ok () ∧ voucher.body.sequence = 1
  linked : chain.IsChain fun previous current => validateSuccessor C previous current = .ok ()

/-- The fields of a body that no voucher of a channel changes. -/
structure SameChannel (body other : VoucherBody) : Prop where
  version : body.version = other.version
  session : body.sessionID = other.sessionID
  payer : body.payerNatID = other.payerNatID
  payee : body.payeeRelayID = other.payeeRelayID
  direction : body.direction = other.direction
  policy : body.policyDigest = other.policyDigest
  authorized : body.authorizedThroughBytes = other.authorizedThroughBytes

/-- The watermark of a later voucher is further in bytes and in records. -/
structure Ascends (body other : VoucherBody) : Prop where
  cumulative : body.cumulativeUniqueBytes < other.cumulativeUniqueBytes
  recordSequence : body.lastRecordSequence < other.lastRecordSequence

namespace VoucherChain

variable {C : Crypto} {chain : List MutualVoucher}

variable (h : VoucherChain C chain)
include h

theorem isChain_succeeds : chain.IsChain (Succeeds C) :=
  h.linked.imp fun _ _ hlink => validateSuccessor_ok_iff.mp hlink

/-- The first voucher is valid by assumption, every other one by its link. -/
theorem valid : ∀ voucher ∈ chain, voucher.body.Valid := by
  cases chain with
  | nil => simp
  | cons first rest =>
    have hfirst := VoucherBody.validate_ok_iff.mp (h.first first rfl).1
    exact List.IsChain.induction (fun voucher => voucher.body.Valid) (first :: rest)
      h.isChain_succeeds (fun _ _ hlink _ => hlink.current_valid) (fun _ => hfirst)

theorem sequence_eq {i : ℕ} {voucher : MutualVoucher}
    (hvoucher : chain[i]? = some voucher) : voucher.body.sequence = i + 1 := by
  induction i generalizing voucher with
  | zero =>
    rw [← List.head?_eq_getElem?] at hvoucher
    exact (h.first voucher hvoucher).2
  | succ i ih =>
    obtain ⟨hlt, rfl⟩ := List.getElem?_eq_some_iff.mp hvoucher
    have hprevious := ih (List.getElem?_eq_getElem (by omega))
    have hlink := List.isChain_iff_getElem.mp h.isChain_succeeds i hlt
    rw [hlink.sequence, hprevious]

theorem pairwise_ascends : chain.Pairwise fun voucher later => Ascends voucher.body later.body := by
  have : IsTrans MutualVoucher fun voucher later => Ascends voucher.body later.body :=
    ⟨fun _ _ _ hab hbc =>
      ⟨hab.cumulative.trans hbc.cumulative, hab.recordSequence.trans hbc.recordSequence⟩⟩
  refine (h.isChain_succeeds.imp ?_).pairwise
  intro voucher later hlink
  exact ⟨hlink.cumulative, hlink.recordSequence⟩

/-- The bindings are those of the first voucher all along. -/
theorem sameChannel : ∀ voucher ∈ chain, ∀ other ∈ chain, SameChannel voucher.body other.body := by
  cases chain with
  | nil => simp
  | cons first rest =>
    have hfirst : ∀ voucher ∈ first :: rest, SameChannel voucher.body first.body := by
      refine List.IsChain.induction _ (first :: rest) h.isChain_succeeds ?_
        (fun _ => ⟨rfl, rfl, rfl, rfl, rfl, rfl, rfl⟩)
      intro voucher later hlink hsame
      exact ⟨hlink.version.trans hsame.version, hlink.session.trans hsame.session,
        hlink.payer.trans hsame.payer, hlink.payee.trans hsame.payee,
        hlink.direction.trans hsame.direction, hlink.policy.trans hsame.policy,
        hlink.authorized.trans hsame.authorized⟩
    intro voucher hvoucher other hother
    have ha := hfirst voucher hvoucher
    have hb := hfirst other hother
    exact ⟨ha.version.trans hb.version.symm, ha.session.trans hb.session.symm,
      ha.payer.trans hb.payer.symm, ha.payee.trans hb.payee.symm,
      ha.direction.trans hb.direction.symm, ha.policy.trans hb.policy.symm,
      ha.authorized.trans hb.authorized.symm⟩

end VoucherChain

/-- The ceiling of a sequence is never above its number of windows, also where it is cut off at the
billing limit. -/
theorem sequenceWindowCeiling_le (sequence : ℕ) :
    sequenceWindowCeiling sequence ≤ sequence * cumulativeWindowBytes := by
  unfold sequenceWindowCeiling maxBillableBytes cumulativeWindowBytes
  split <;> omega

/-! ## Settled steps -/

/-- The watermark of the last voucher of a step. -/
def stepWatermark (settled : ℕ) (step : List MutualVoucher) : ℕ :=
  (step.getLast?.map fun voucher => voucher.body.cumulativeUniqueBytes).getD settled

/-- What the policy pays the Relay and the CA between two watermarks. -/
def stepDifference (settled watermark : ℕ) : Except PolicyError (ℤ × ℤ) := do
  let (relayBefore, caBefore) ← currentPolicyCumulativeTotals settled
  let (relay, ca) ← currentPolicyCumulativeTotals watermark
  return ((relay : ℤ) - relayBefore, (ca : ℤ) - caBefore)

/-- The payments of consecutive steps behind the watermark `settled`. -/
def settleSteps (settled : ℕ) : List (List MutualVoucher) → Except PolicyError (List (ℤ × ℤ))
  | [] => .ok []
  | step :: steps => do
    let watermark := stepWatermark settled step
    let difference ← stepDifference settled watermark
    let differences ← settleSteps watermark steps
    return difference :: differences

/-- The watermarks at which the steps end. -/
def stepWatermarks (settled : ℕ) : List (List MutualVoucher) → List ℕ
  | [] => []
  | step :: steps => stepWatermark settled step :: stepWatermarks (stepWatermark settled step) steps

theorem stepDifference_eq (hsettled : settled ≤ maxBillableBytes)
    (hwatermark : watermark ≤ maxBillableBytes) :
    stepDifference settled watermark = .ok (policyTotals watermark - policyTotals settled) := by
  unfold stepDifference
  rw [currentPolicyCumulativeTotals_eq hsettled, currentPolicyCumulativeTotals_eq hwatermark]
  rfl

/-- Settling is taking increments of the totals along the watermarks. -/
theorem settleSteps_eq (hsettled : settled ≤ maxBillableBytes)
    (hsteps : ∀ watermark ∈ stepWatermarks settled steps, watermark ≤ maxBillableBytes) :
    settleSteps settled steps = .ok (increments policyTotals settled (stepWatermarks settled steps)) := by
  induction steps generalizing settled with
  | nil => rfl
  | cons step steps ih =>
    have hstep := hsteps _ mem_cons_self
    have hrest := ih hstep fun watermark hmem => hsteps watermark (mem_cons_of_mem _ hmem)
    simp only [settleSteps, bind_ok_iff, pure_ok_iff]
    exact ⟨_, stepDifference_eq hsettled hstep, _, hrest, rfl⟩

theorem length_stepWatermarks : (stepWatermarks settled steps).length = steps.length := by
  induction steps generalizing settled with
  | nil => rfl
  | cons step steps ih => rw [stepWatermarks, length_cons, ih, length_cons]

/-- The last step ends where the whole chain ends. -/
theorem getLastD_stepWatermarks :
    (stepWatermarks settled steps).getLastD settled = stepWatermark settled steps.flatten := by
  induction steps generalizing settled with
  | nil => rfl
  | cons step steps ih =>
    rw [stepWatermarks, getLastD_cons, ih, flatten_cons]
    simp only [stepWatermark, getLast?_append]
    cases steps.flatten.getLast? <;> rfl

/-- The watermarks of the steps ascend when those of the vouchers do. -/
theorem isChain_stepWatermarks
    (hchain : (settled :: steps.flatten.map fun voucher => voucher.body.cumulativeUniqueBytes).Pairwise
      (· ≤ ·)) :
    (settled :: stepWatermarks settled steps).IsChain (· ≤ ·) := by
  induction steps generalizing settled with
  | nil => simp [stepWatermarks]
  | cons step steps ih =>
    rw [flatten_cons, map_append, pairwise_cons, pairwise_append] at hchain
    obtain ⟨hsettled, -, hrest, hacross⟩ := hchain
    rw [stepWatermarks, isChain_cons_cons]
    -- a step without vouchers ends where the one before it ended
    rcases hlast : step.getLast? with _ | voucher
    · have hempty : stepWatermark settled step = settled := by rw [stepWatermark, hlast]; rfl
      rw [hempty]
      exact ⟨le_rfl, ih (pairwise_cons.mpr
        ⟨fun later hlater => hsettled later (mem_append_right _ hlater), hrest⟩)⟩
    · have hvoucher : voucher.body.cumulativeUniqueBytes ∈
          step.map fun voucher => voucher.body.cumulativeUniqueBytes :=
        mem_map_of_mem (mem_of_getLast? hlast)
      have hend : stepWatermark settled step = voucher.body.cumulativeUniqueBytes := by
        rw [stepWatermark, hlast]
        rfl
      rw [hend]
      exact ⟨hsettled _ (mem_append_left _ hvoucher),
        ih (pairwise_cons.mpr ⟨hacross _ hvoucher, hrest⟩)⟩

theorem mem_stepWatermarks (h : watermark ∈ stepWatermarks settled steps) :
    watermark = settled ∨
      ∃ voucher ∈ steps.flatten, voucher.body.cumulativeUniqueBytes = watermark := by
  induction steps generalizing settled with
  | nil => simp [stepWatermarks] at h
  | cons step steps ih =>
    have hstep : stepWatermark settled step = settled ∨
        ∃ voucher ∈ step, voucher.body.cumulativeUniqueBytes = stepWatermark settled step := by
      unfold stepWatermark
      rcases hlast : step.getLast? with _ | voucher
      · exact .inl rfl
      · exact .inr ⟨voucher, mem_of_getLast? hlast, rfl⟩
    have hcases : watermark = stepWatermark settled step ∨
        ∃ voucher ∈ steps.flatten, voucher.body.cumulativeUniqueBytes = watermark := by
      rcases mem_cons.mp h with heq | hmem
      · exact .inl heq
      · exact ih hmem
    rcases hcases with rfl | ⟨voucher, hmem, heq⟩
    · rcases hstep with heq | ⟨voucher, hmem, heq⟩
      · exact .inl heq
      · exact .inr ⟨voucher, mem_append_left _ hmem, heq⟩
    · exact .inr ⟨voucher, mem_append_right _ hmem, heq⟩

/-! ## Conservation -/

/-- A chain that starts at the first voucher of a channel numbers its vouchers from one, ascends in
bytes and records, stays below the windows of its sequences and the authorization, and keeps its
bindings. However it is cut into consecutive steps, each step pays both parties a non-negative
amount, and the steps together pay the totals of the last voucher. The totals split the bytes, with
the Relay's part rounded down, and are computed without a wrap. -/
theorem chain_settlement_conserved (C : Crypto) (chain : List MutualVoucher)
    (hchain : VoucherChain C chain) :
    (∀ i voucher, chain[i]? = some voucher → voucher.body.sequence = i + 1 ∧
        voucher.body.cumulativeUniqueBytes ≤
          min ((i + 1) * 2 ^ 20) voucher.body.authorizedThroughBytes) ∧
    (chain.Pairwise fun voucher later => Ascends voucher.body later.body) ∧
    (∀ voucher ∈ chain, ∀ other ∈ chain, SameChannel voucher.body other.body) ∧
    (∀ steps : List (List MutualVoucher), steps.flatten = chain → [] ∉ steps →
      ∃ differences relay ca, settleSteps 0 steps = .ok differences ∧
        differences.length = steps.length ∧
        (∀ difference ∈ differences, 0 ≤ difference.1 ∧ 0 ≤ difference.2) ∧
        currentPolicyCumulativeTotals (stepWatermark 0 chain) = .ok (relay, ca) ∧
        differences.sum = ((relay : ℤ), (ca : ℤ))) ∧
    ∀ cumulative ≤ maxBillableBytes, Exact cumulative ∧ ∃ relay ca,
      currentPolicyCumulativeTotals cumulative = .ok (relay, ca) ∧ relay + ca = cumulative ∧
        relay = 95 * cumulative / 100 := by
  refine ⟨?_, hchain.pairwise_ascends, hchain.sameChannel, ?_, ?_⟩
  · intro i voucher hvoucher
    have hvalid := hchain.valid voucher (mem_of_getElem? hvoucher)
    have hsequence := hchain.sequence_eq hvoucher
    have hwindow := hvalid.window.trans (sequenceWindowCeiling_le _)
    rw [hsequence] at hwindow
    exact ⟨hsequence, le_min hwindow hvalid.authorized⟩
  · rintro steps rfl -
    have hlimit : ∀ watermark ∈ stepWatermarks 0 steps, watermark ≤ maxBillableBytes := by
      intro watermark hmem
      rcases mem_stepWatermarks hmem with rfl | ⟨voucher, hvoucher, rfl⟩
      · exact Nat.zero_le _
      · exact (hchain.valid voucher hvoucher).cumulative_le
    have hascending : (0 :: steps.flatten.map fun voucher =>
        voucher.body.cumulativeUniqueBytes).Pairwise (· ≤ ·) := by
      refine pairwise_cons.mpr ⟨fun _ _ => Nat.zero_le _, pairwise_map.mpr ?_⟩
      exact hchain.pairwise_ascends.imp fun h => h.cumulative.le
    have hnonneg := increments_nonneg monotone_policyTotals (isChain_stepWatermarks hascending)
    -- the differences telescope
    have hsum := sum_increments policyTotals 0 (stepWatermarks 0 steps)
    rw [getLastD_stepWatermarks] at hsum
    refine ⟨_, _, _, settleSteps_eq (Nat.zero_le _) hlimit, length_increments.trans length_stepWatermarks,
      hnonneg, currentPolicyCumulativeTotals_eq ?_, hsum⟩
    rcases hlast : steps.flatten.getLast? with _ | voucher
    · rw [stepWatermark, hlast]
      exact Nat.zero_le _
    · rw [stepWatermark, hlast]
      exact (hchain.valid voucher (mem_of_getLast? hlast)).cumulative_le
  · intro cumulative hle
    refine ⟨exact_of_le hle, _, _, currentPolicyCumulativeTotals_eq hle, ?_, rfl⟩
    exact Nat.add_sub_cancel' (relayShare_le cumulative)

/-- Two vouchers of one channel. -/
def sampleLink (sequence cumulative : ℕ) (previous : Identifier) : MutualVoucher where
  body :=
    { version := 1
      sessionID := Bytes32.copy [1]
      payerNatID := Bytes32.copy [2]
      payeeRelayID := Bytes32.copy [3]
      direction := directionPayerOutbound
      sequence
      previousMutualVoucherID := previous
      cumulativeUniqueBytes := cumulative
      lastRecordID := Bytes32.copy [4]
      lastRecordSequence := sequence
      recordSetDigest := Bytes32.copy (putBE 8 sequence)
      policyDigest := Bytes32.copy [6]
      authorizedThroughBytes := maxBillableBytes }
  payerSignature := [0x30, 6, 2, 1, 1, 2, 1, 1]
  relaySignature := [0x30, 6, 2, 1, 1, 2, 1, 1]

def sampleChain : List MutualVoucher :=
  let first := sampleLink 1 1000 Bytes32.zero
  [first, sampleLink 2 1001 (first.digest .sample)]

/-- The Relay's part of a thousand bytes is 950, and the byte after it goes to the CA. -/
theorem chain_settlement_conserved_sample :
    VoucherChain .sample sampleChain ∧ settleSteps 0 (sampleChain.map ([·])) = .ok [(950, 50), (0, 1)] ∧
      (sampleChain.Pairwise fun voucher later => Ascends voucher.body later.body) := by
  have hchain : VoucherChain .sample sampleChain := by
    refine ⟨?_, ?_⟩
    · intro voucher hvoucher
      cases hvoucher
      decide +kernel
    · rw [sampleChain, isChain_cons_cons]
      exact ⟨by decide +kernel, isChain_singleton _⟩
  exact ⟨hchain, by decide +kernel, (chain_settlement_conserved .sample sampleChain hchain).2.1⟩

end NatP2P.Billing
