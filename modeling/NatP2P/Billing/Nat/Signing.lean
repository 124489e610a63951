import NatP2P.Billing.Nat.Evidence
import NatP2P.Billing.Voucher.Settlement

/-!
# The payer signs one chain for each channel

Whatever a Relay claims, the vouchers that it gets for a session are one chain, so it never has two
of them with one sequence to choose from.
-/

namespace NatP2P.Billing

open List NatMeter

variable {C : Crypto} {meter meter' : NatMeter} {voucher : MutualVoucher}
  {outputs : List NatMeter.Output}

/-- The session and the Relay of a voucher. -/
def MutualVoucher.channel (voucher : MutualVoucher) : Identifier × Identifier :=
  (voucher.body.sessionID, voucher.body.payeeRelayID)

/-! ## Signing -/

/-- A chain goes on with a voucher that succeeds its last one. -/
theorem VoucherChain.concat {chain : List MutualVoucher} (h : VoucherChain C chain)
    (hvalid : voucher.body.Valid) (hfirst : chain = [] → voucher.body.sequence = 1)
    (hnext : ∀ last ∈ chain.getLast?, validateSuccessor C last voucher = .ok ()) :
    VoucherChain C (chain ++ [voucher]) := by
  refine ⟨?_, isChain_append.mpr ⟨h.linked, .singleton voucher, by simpa using hnext⟩⟩
  cases chain with
  | nil => simpa using ⟨VoucherBody.validate_ok_iff.mpr hvalid, hfirst rfl⟩
  | cons first rest => exact h.first

/-- The voucher is the new last one of its channel, and it prolongs the channel's chain. -/
structure Prolongs (C : Crypto) (meter meter' : NatMeter) (voucher : MutualVoucher) : Prop where
  channels : meter'.channels = meter.channels.set voucher.channel voucher
  chain : ∀ chain, VoucherChain C chain → chain.getLast? = meter.channels.get voucher.channel →
    VoucherChain C (chain ++ [voucher])

/-- `cosign` returns the last voucher once more, or it signs the next one. -/
theorem cosignBody_prolongs {body : VoucherBody} {relaySignature : Bytes}
    (h : meter.cosignBody C body relaySignature = .ok (voucher, meter')) :
    meter' = meter ∧ (∃ channel, meter.channels.get channel = some voucher) ∨
      Prolongs C meter meter' voucher := by
  unfold cosignBody at h
  split at h
  · cases h
  simp only [bind_ok_iff, exists_unit_iff, check_ok_iff, not_not, lastVoucher] at h
  obtain ⟨hrelay, repeated, hrepeats, h⟩ := h
  split at h
  · next last hlast =>
    obtain ⟨rfl, rfl⟩ := Prod.mk.inj (Except.ok.inj h)
    exact .inl ⟨rfl, _, hlast⟩
  unfold signNext at h
  split at h
  · cases h
  simp only [bind_ok_iff, exists_unit_iff, mapError_ok_iff, pure_ok_iff, Prod.mk.injEq,
    newMutualVoucher_ok_iff] at h
  obtain ⟨-, -, payerSignature, -, signed, ⟨rfl, hvalid, -⟩, hsucceeds, rfl, rfl⟩ := h
  rw [hrelay] at hrepeats hsucceeds ⊢
  refine .inr ⟨rfl, fun chain hchain hlast => ?_⟩
  change chain.getLast? = meter.channels.get (body.sessionID, body.payeeRelayID) at hlast
  rw [← hlast] at hrepeats hsucceeds
  refine hchain.concat hvalid ?_ fun last hmem => ?_
  · rintro rfl
    simp only [getLast?_nil, repeatsLast, check_bind_ok_iff] at hrepeats
    exact not_not.mp (not_or.mp hrepeats.1).1
  · rw [Option.mem_def.mp hmem] at hsucceeds
    exact mapError_ok_iff.mp hsucceeds

/-! ## Runs -/

theorem channels_enable {cert : Option SignedCert} (h : meter.enable C cert = .ok meter') :
    meter'.channels = meter.channels := by
  unfold enable at h
  split at h
  · cases h
  · simp only [bind_ok_iff, pure_ok_iff] at h
    grind

theorem channels_activate {relayAddr sessionHex relayPublicKeyHex : String}
    {relayState : Option Snapshot} {status : SessionStatus}
    (h : meter.activateRelaySessionWithState C relayAddr sessionHex relayPublicKeyHex relayState =
      .ok (status, meter')) : meter'.channels = meter.channels := by
  unfold activateRelaySessionWithState activateSession activateExisting reactivate at h
  repeat' first
    | rw [bind_ok_iff] at h; obtain ⟨_, -, h⟩ := h
    | split at h
  all_goals cases h
  all_goals rfl

/-- A call prolongs a chain, or it keeps the channels and hands out no voucher but a last one. -/
theorem step_prolongs (event : NatMeter.Event) :
    ((meter.step C event).1.channels = meter.channels ∧ ∀ voucher,
      (meter.step C event).2 = .cosigned voucher →
        ∃ channel, meter.channels.get channel = some voucher) ∨
      ∃ voucher, (meter.step C event).2 = .cosigned voucher ∧
        Prolongs C meter (meter.step C event).1 voucher := by
  cases event with
  | enable cert => grind [NatMeter.step, channels_enable]
  | prepare payloadLength relayAddr lease =>
    have hcases := @prepareWithLease_cases meter
    grind [NatMeter.step, setSession, Output.ofHeader]
  | completeSend header => grind [NatMeter.step, completeSend, setSession]
  | confirm header => grind [NatMeter.step, confirm, bind_ok_iff, pure_ok_iff, setSession]
  | observe message e2eRecordID => grind [NatMeter.step, observe, setSession]
  | invalidate relayAddr expectedSessionID =>
    refine .inl ⟨?_, by rintro _ ⟨⟩⟩
    simp only [NatMeter.step, invalidateRelaySession]
    split_ifs <;> rfl
  | activate relayAddr sessionHex relayPublicKeyHex relayState =>
    grind [NatMeter.step, channels_activate]
  | cosign payerCertificate verifier claim =>
    have hcosign := @cosignBody_prolongs C meter
    grind [NatMeter.step, cosign, bind_ok_iff]

/-- The vouchers that were handed out for a channel are a chain up to its last voucher. -/
def NatMeter.Chained (C : Crypto) (meter : NatMeter) (outputs : List NatMeter.Output) : Prop :=
  ∀ channel, ∃ chain, VoucherChain C chain ∧ chain.getLast? = meter.channels.get channel ∧
    ∀ voucher, voucher ∈ chain ↔ .cosigned voucher ∈ outputs ∧ voucher.channel = channel

theorem NatMeter.Chained.step (h : meter.Chained C outputs) (event : NatMeter.Event) :
    (meter.step C event).1.Chained C (outputs ++ [(meter.step C event).2]) := by
  -- a last voucher is one that was handed out before
  have hold : ∀ voucher channel, meter.channels.get channel = some voucher →
      .cosigned voucher ∈ outputs := by
    intro voucher channel hget
    obtain ⟨chain, -, hlast, hmem⟩ := h channel
    exact ((hmem voucher).mp (mem_of_getLast? (hlast.trans hget))).1
  intro channel
  obtain ⟨chain, hchain, hlast, hmem⟩ := h channel
  rcases step_prolongs (C := C) event with ⟨hsame, hagain⟩ | ⟨voucher, hout, hset, hnext⟩
  · exact ⟨chain, hchain, by rw [hsame, hlast], by grind⟩
  · by_cases heq : voucher.channel = channel
    · subst heq
      refine ⟨chain ++ [voucher], hnext chain hchain hlast, ?_, by grind⟩
      rw [hset, GoMap.get_set_self, getLast?_concat]
    · refine ⟨chain, hchain, ?_, by grind⟩
      rw [hset, GoMap.get_set_ne (Ne.symm heq), hlast]

theorem NatMeter.Chained.run (h : meter.Chained C outputs) (events : List NatMeter.Event) :
    (meter.run C events).1.Chained C (outputs ++ (meter.run C events).2) := by
  induction events generalizing meter outputs with
  | nil => simpa [NatMeter.run] using h
  | cons event events ih =>
    rw [NatMeter.run, append_cons]
    exact ih (h.step event)

/-- In every run of the payer's meter the vouchers it signs for a session and a Relay are one chain
from the first one on, and the last one is for the bytes that were assigned to its records. Two of
them with the same sequence are the same voucher. -/
theorem signed_vouchers_chain (C : Crypto) (privateKey billingPrivateKey : Bytes) (hasVerifier : Bool)
    (events : List NatMeter.Event) (channel : Identifier × Identifier) :
    let outputs := ((NatMeter.new C privateKey billingPrivateKey hasVerifier).run C events).2
    let signed := {voucher : MutualVoucher | .cosigned voucher ∈ outputs ∧ voucher.channel = channel}
    (∃ chain, VoucherChain C chain ∧ (∀ voucher, voucher ∈ chain ↔ voucher ∈ signed) ∧
      ∀ last ∈ chain.getLast?, last.body.cumulativeUniqueBytes =
        ∑ sequence ∈ Finset.Icc 1 last.body.lastRecordSequence,
          assignedBytes outputs channel.1 sequence) ∧
      ∀ voucher ∈ signed, ∀ other ∈ signed,
        voucher.body.sequence = other.body.sequence → voucher = other := by
  intro outputs signed
  have hstart : (NatMeter.new C privateKey billingPrivateKey hasVerifier).Chained C [] :=
    fun channel => ⟨[], ⟨by simp, .nil⟩, rfl, by simp⟩
  have hnew : (NatMeter.new C privateKey billingPrivateKey hasVerifier).Backed fun _ _ => 0 :=
    backed_new privateKey billingPrivateKey hasVerifier
  obtain ⟨chain, hchain, hlast, hsigned⟩ := hstart.run events channel
  refine ⟨⟨chain, hchain, hsigned, fun last hget => ?_⟩, fun voucher hvoucher other hother heq => ?_⟩
  · obtain ⟨-, -, -, hsum, -⟩ := (hnew.run events).channels _ _ last (hlast.symm.trans hget)
    exact hsum
  · obtain ⟨i, hi⟩ := mem_iff_getElem?.mp ((hsigned voucher).mpr hvoucher)
    obtain ⟨j, hj⟩ := mem_iff_getElem?.mp ((hsigned other).mpr hother)
    rw [hchain.sequence_eq hi, hchain.sequence_eq hj, Nat.add_right_cancel_iff] at heq
    rw [heq, hj] at hi
    exact (Option.some.inj hi).symm

end NatP2P.Billing
