import Mathlib.Data.List.Nodup
import NatP2P.Billing.Admission
import NatP2P.Billing.Voucher.Theorems

/-!
# Settlement envelopes

Reference: `billingqueue/queue.go:72-104, 839-977`.

An envelope is a mutual voucher with the payer's settlement identity. Its stored form is a domain
followed by a JSON text; `encodeEnvelope` and `decodeEnvelope` are modelled in full around
`encoding/json`, which is a parameter. The module ends with the fact the rest of the queue rests on:
when JSON round-trips the disk record, `decodeEnvelope` inverts `encodeEnvelope`.
-/

namespace NatP2P.Billing

open List

/-- `Envelope`. -/
structure Envelope where
  voucher : MutualVoucher
  payerPublicKey : String
  payerBillingPublicKey : String
  payerCert : Option SignedCert
deriving DecidableEq

/-- `diskEnvelope`. -/
structure DiskEnvelope where
  canonicalVoucher : Bytes
  payerPublicKey : String
  payerBillingPublicKey : String
  payerCert : Option SignedCert
deriving DecidableEq

/-- The two ways in which `decodeEnvelope` can fail to read its JSON (`queue.go:892-899`). -/
inductive JsonError where
  | malformed
  | trailing
deriving DecidableEq

/-- `encoding/json` at `diskEnvelope`: `json.Marshal`, and a decoder that refuses unknown fields
and trailing data. -/
structure EnvelopeJson where
  marshal : DiskEnvelope → Option Bytes
  unmarshal : Bytes → Except JsonError DiskEnvelope

/-- Reading back a marshalled record returns it. -/
def EnvelopeJson.RoundTrips (J : EnvelopeJson) : Prop :=
  ∀ disk payload, J.marshal disk = some payload → payload ≠ [] ∧ J.unmarshal payload = .ok disk

/-- A JSON codec that knows the texts of finitely many records. -/
def EnvelopeJson.ofTable (table : List (DiskEnvelope × Bytes)) : EnvelopeJson where
  marshal disk := (table.find? fun entry => entry.1 = disk).map Prod.snd
  unmarshal payload :=
    match table.find? fun entry => entry.2 = payload with
    | some entry => .ok entry.1
    | none => .error .malformed

/-- The errors of `encodeEnvelope` and `decodeEnvelope`. -/
inductive EnvelopeError where
  | invalidVoucher (reason : VoucherError)
  | invalidCanonicalVoucher (reason : VoucherError)
  | identityRequired
  | publicKeyNotCanonical
  | invalidPublicKey
  | identityMismatch
  | invalidBinding (reason : AdmissionError)
  | legacyBillingKey
  | billingKeyMismatch
  | billingKeyNotCanonical
  | invalidBillingKey
  | encodeFailed
  | invalidDomain
  | invalidJson (reason : JsonError)
  | notCanonical
deriving DecidableEq

def envelopeDomain : Bytes := utf8 "BNFS/BILLING-SETTLEMENT-ENVELOPE/V1"

/-- A key text that is the canonical hexadecimal form of a public key. -/
def checkPublicKeyText (C : Crypto) (text : String) (format invalid : EnvelopeError) :
    Except EnvelopeError Unit :=
  match hexDecode text with
  | none => .error format
  | some publicKeyBytes => do
    check (hexEncode publicKeyBytes ≠ text) format
    check (¬ C.validPublicKey publicKeyBytes) invalid

/-- The checks of `validateSettlementIdentity` once a certificate is there (`queue.go:926-960`). -/
def validateCertifiedIdentity (C : Crypto) (envelope : Envelope) (cert : Cert) :
    Except EnvelopeError Unit := do
  checkPublicKeyText C envelope.payerPublicKey .publicKeyNotCanonical .invalidPublicKey
  let payerID := envelope.voucher.body.payerNatID.string
  check (nodeIDFromPubKeyHex C envelope.payerPublicKey ≠ payerID ∨ cert.subjectNodeID ≠ payerID ∨
    cert.subjectPubKey ≠ envelope.payerPublicKey ∨ cert.role ≠ .server) .identityMismatch
  (validateBillingBinding C cert).mapError .invalidBinding
  if cert.authorizationID = "" then
    check (envelope.payerBillingPublicKey ≠ "") .legacyBillingKey
  else do
    check (envelope.payerBillingPublicKey = "" ∨
      envelope.payerBillingPublicKey ≠ cert.billingPubKey) .billingKeyMismatch
    checkPublicKeyText C envelope.payerBillingPublicKey .billingKeyNotCanonical .invalidBillingKey

/-- `validateSettlementIdentity`. -/
def validateSettlementIdentity (C : Crypto) (envelope : Envelope) (required : Bool) :
    Except EnvelopeError Unit :=
  if envelope.payerPublicKey = "" ∧ envelope.payerBillingPublicKey = "" ∧
      envelope.payerCert = none ∧ required = false then .ok ()
  else match envelope.payerCert with
    | none => .error .identityRequired
    | some signed => do
      check (envelope.payerPublicKey = "") .identityRequired
      validateCertifiedIdentity C envelope signed.cert

/-- `encodeEnvelope`: the stored bytes and the envelope with its voucher in canonical form. -/
def encodeEnvelope (C : Crypto) (J : EnvelopeJson) (envelope : Envelope) (required : Bool) :
    Except EnvelopeError (Bytes × Envelope) := do
  let voucherBytes ← (envelope.voucher.canonicalBytes C).mapError .invalidVoucher
  let voucher ← (parseCanonicalVoucher C voucherBytes).mapError .invalidCanonicalVoucher
  let canonicalEnvelope := { envelope with voucher }
  validateSettlementIdentity C canonicalEnvelope required
  let disk : DiskEnvelope :=
    { canonicalVoucher := voucherBytes
      payerPublicKey := canonicalEnvelope.payerPublicKey
      payerBillingPublicKey := canonicalEnvelope.payerBillingPublicKey
      payerCert := canonicalEnvelope.payerCert }
  match J.marshal disk with
  | none => .error .encodeFailed
  | some payload => return (envelopeDomain ++ payload, canonicalEnvelope)

/-- `decodeEnvelope`. -/
def decodeEnvelope (C : Crypto) (J : EnvelopeJson) (encoded : Bytes) :
    Except EnvelopeError Envelope := do
  check (encoded.length ≤ envelopeDomain.length ∨
    encoded.take envelopeDomain.length ≠ envelopeDomain) .invalidDomain
  let disk ← (J.unmarshal (encoded.drop envelopeDomain.length)).mapError .invalidJson
  let voucher ← (parseCanonicalVoucher C disk.canonicalVoucher).mapError .invalidCanonicalVoucher
  let envelope : Envelope :=
    { voucher
      payerPublicKey := disk.payerPublicKey
      payerBillingPublicKey := disk.payerBillingPublicKey
      payerCert := disk.payerCert }
  validateSettlementIdentity C envelope false
  match encodeEnvelope C J envelope false with
  | .ok (canonical, _) => do
    check (canonical ≠ encoded) .notCanonical
    return envelope
  | .error _ => .error .notCanonical

/-! ## Decoding inverts encoding -/

variable {envelope : Envelope} {C : Crypto} {required : Bool} {J : EnvelopeJson}

/-- A settlement identity that was required is accepted where it is optional. -/
theorem validateSettlementIdentity_optional
    (h : validateSettlementIdentity C envelope required = .ok ()) :
    validateSettlementIdentity C envelope false = .ok () := by
  unfold validateSettlementIdentity at h ⊢
  split_ifs at h with hrequired
  · rw [if_pos ⟨hrequired.1, hrequired.2.1, hrequired.2.2.1, rfl⟩]
  · cases hcert : envelope.payerCert with
    | none => simp [hcert] at h
    | some signed =>
      rw [hcert] at h
      rw [if_neg (by simp)]
      exact h

/-- A table with distinct texts round-trips. -/
theorem roundTrips_ofTable {table : List (DiskEnvelope × Bytes)}
    (hnodup : (table.map Prod.snd).Nodup) (hne : ∀ entry ∈ table, entry.2 ≠ []) :
    (EnvelopeJson.ofTable table).RoundTrips := by
  intro disk payload hmarshal
  unfold EnvelopeJson.ofTable at hmarshal ⊢
  dsimp only at ⊢
  cases hfind : table.find? fun entry => entry.1 = disk with
  | none => simp [hfind] at hmarshal
  | some entry =>
    have hmem := mem_of_find?_eq_some hfind
    have hdisk : entry.1 = disk := by simpa using find?_some hfind
    obtain rfl : entry.2 = payload := by simpa [hfind] using hmarshal
    refine ⟨hne entry hmem, ?_⟩
    cases htext : table.find? fun other => other.2 = entry.2 with
    | none => exact absurd (find?_eq_none.mp htext entry hmem) (by simp)
    | some other =>
      have heq : other.2 = entry.2 := by simpa using find?_some htext
      have hsame : other = entry := inj_on_of_nodup_map hnodup (mem_of_find?_eq_some htext) hmem heq
      subst hsame
      dsimp only
      rw [hdisk]

/-- What `encodeEnvelope` returns: the voucher is untouched, the identity was accepted, and the
bytes are the domain followed by the marshalled disk record. -/
theorem encodeEnvelope_ok {canonical : Envelope} {encoded : Bytes}
    (h : encodeEnvelope C J envelope required = .ok (encoded, canonical)) :
    canonical = envelope ∧ validateSettlementIdentity C envelope required = .ok () ∧
      ∃ voucherBytes payload, envelope.voucher.canonicalBytes C = .ok voucherBytes ∧
        J.marshal ⟨voucherBytes, envelope.payerPublicKey, envelope.payerBillingPublicKey,
          envelope.payerCert⟩ = some payload ∧ encoded = envelopeDomain ++ payload := by
  unfold encodeEnvelope at h
  simp only [bind_ok_iff, exists_unit_iff, mapError_ok_iff] at h
  obtain ⟨voucherBytes, hbytes, voucher, hparse, hidentity, hmarshal⟩ := h
  rw [parseCanonicalVoucher_canonicalBytes hbytes] at hparse
  obtain rfl : envelope.voucher = voucher := by simpa using hparse
  cases hpayload : J.marshal ⟨voucherBytes, envelope.payerPublicKey,
      envelope.payerBillingPublicKey, envelope.payerCert⟩ with
  | none => simp [hpayload] at hmarshal
  | some payload =>
    rw [hpayload] at hmarshal
    simp only [pure_ok_iff, Prod.mk.injEq] at hmarshal
    exact ⟨hmarshal.2.symm, hidentity, voucherBytes, payload, hbytes, hpayload, hmarshal.1.symm⟩

/-- `decodeEnvelope` inverts `encodeEnvelope` on its image. -/
def DecodeInvertsEncode (C : Crypto) (J : EnvelopeJson) : Prop :=
  ∀ envelope required encoded canonical,
    encodeEnvelope C J envelope required = .ok (encoded, canonical) →
      decodeEnvelope C J encoded = .ok canonical

theorem decodeInvertsEncode_of_roundTrips (hJ : J.RoundTrips) : DecodeInvertsEncode C J := by
  intro envelope required encoded canonical h
  obtain ⟨rfl, hidentity, voucherBytes, payload, hbytes, hmarshal, rfl⟩ := encodeEnvelope_ok h
  obtain ⟨hne, hunmarshal⟩ := hJ _ _ hmarshal
  have hoptional := validateSettlementIdentity_optional hidentity
  have hparse := parseCanonicalVoucher_canonicalBytes hbytes
  -- the decoder encodes the envelope once more and compares the bytes
  have hagain : encodeEnvelope C J canonical false =
      .ok (envelopeDomain ++ payload, canonical) := by
    unfold encodeEnvelope
    simp only [bind_ok_iff, exists_unit_iff, mapError_ok_iff]
    refine ⟨voucherBytes, hbytes, canonical.voucher, hparse, hoptional, ?_⟩
    rw [hmarshal]
    rfl
  unfold decodeEnvelope
  simp only [bind_ok_iff, exists_unit_iff, mapError_ok_iff, check_ok_iff, drop_left,
    take_left, length_append]
  refine ⟨?_, _, hunmarshal, canonical.voucher, hparse, hoptional, ?_⟩
  · have := length_pos_iff.mpr hne
    simp only [ne_eq, not_true_eq_false, or_false]
    omega
  · rw [hagain]
    simp only [check_bind_ok_iff, ne_eq, not_true_eq_false,
      not_false_eq_true, pure_ok_iff, true_and]

end NatP2P.Billing
