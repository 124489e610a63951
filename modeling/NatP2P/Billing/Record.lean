import NatP2P.Billing.Admission
import NatP2P.Billing.Voucher.Defs

/-!
# Billable records and watermarks

Reference: `billingrecord/record.go`, `crypoto/NoisePackage.go` (`InspectE2ERecord`) and
`billingcontrol/wire.go`.

A record is one sealed message of a payer. Both parties hash the records of a session, in the order
of their sequences, into a running digest; a `Snapshot` is the watermark behind some record: the
bytes so far, the last record and the digest. The Relay asks for the payer's signature under a
watermark with a claim.
-/

namespace NatP2P.Billing

/-! ## Records -/

def recordDomain : Bytes := utf8 "BNFS/BILLABLE-E2E-RECORD/V1"

def setDomain : Bytes := utf8 "BNFS/BILLABLE-RECORD-SET/V1"

/-- `billingrecord.Record`; a Go string is its bytes. -/
structure Record where
  sessionID : Identifier
  sequence : ℕ
  bytes : ℕ
  connection : Bytes
  e2eRecordID : Bytes
  ciphertext : Bytes
deriving DecidableEq

/-- The errors of package `billingrecord`. -/
inductive RecordError where
  | sessionRequired
  | sequenceRequired
  | byteCount
  | connectionID
  | e2eRecordID
  | ciphertextRequired
  | recordSetInput
deriving DecidableEq

/-- `Record.ID`. -/
def Record.id (C : Crypto) (record : Record) : Except RecordError Identifier := do
  check (record.sessionID = Bytes32.zero) .sessionRequired
  check (record.sequence = 0) .sequenceRequired
  check (record.bytes = 0 ∨ record.bytes > maxBillableBytes) .byteCount
  check (record.connection.length = 0 ∨ record.connection.length > 65535) .connectionID
  check (record.e2eRecordID.length = 0 ∨ record.e2eRecordID.length > 255) .e2eRecordID
  check (record.ciphertext.length = 0) .ciphertextRequired
  return C.sha256 (recordDomain ++ record.sessionID.val ++ putBE 8 record.sequence ++
    putBE 8 record.bytes ++ putBE 2 record.connection.length ++ record.connection ++
    putBE 1 record.e2eRecordID.length ++ record.e2eRecordID ++
    (C.sha256 record.ciphertext).val)

/-- `Advance`: the record-set digest behind one more record. -/
def advance (C : Crypto) (previous : Digest) (recordID : Identifier) (sequence bytes : ℕ) :
    Except RecordError Digest := do
  check (recordID = Bytes32.zero ∨ sequence = 0 ∨ bytes = 0) .recordSetInput
  return C.sha256 (setDomain ++ previous.val ++ recordID.val ++ putBE 8 sequence ++ putBE 8 bytes)

theorem advance_ok_iff {C : Crypto} {previous digest : Digest} {recordID : Identifier}
    {sequence bytes : ℕ} :
    advance C previous recordID sequence bytes = .ok digest ↔
      recordID ≠ Bytes32.zero ∧ sequence ≠ 0 ∧ bytes ≠ 0 ∧
        C.sha256 (setDomain ++ previous.val ++ recordID.val ++ putBE 8 sequence ++
          putBE 8 bytes) = digest := by
  simp only [advance, check_bind_ok_iff, pure_ok_iff, not_or, ne_eq, and_assoc]

/-! ## Sealed records (`NoisePackage.go:583-619`) -/

def e2eRecordHeaderSize : ℕ := 64

def e2eRecordMagic : Bytes := utf8 "BNFSE2E2"

def noiseProtocolVersion : UInt8 := 2

def noiseSuiteID : UInt8 := 1

/-- `noise.MaxNonce`. -/
def maxNonce : ℕ := 2 ^ 64 - 2

/-- `E2ERecordMetadata`. -/
structure E2ERecordMetadata where
  messageID : Bytes
  plaintextBytes : ℕ
  direction : UInt8
deriving DecidableEq

inductive E2ERecordError where
  | tooShort
  | unsupportedHeader
  | epochOrSequence
  | lengthMismatch
deriving DecidableEq

/-- `InspectE2ERecord`. -/
def inspectE2ERecord (record : Bytes) : Except E2ERecordError E2ERecordMetadata := do
  check (record.length < e2eRecordHeaderSize + 16) .tooShort
  let header := record.take e2eRecordHeaderSize
  check (header.take 8 ≠ e2eRecordMagic ∨ (header.drop 8).headD 0 ≠ noiseProtocolVersion ∨
    (header.drop 9).headD 0 ≠ noiseSuiteID ∨ (header.drop 11).headD 0 ≠ 0) .unsupportedHeader
  let epoch := getBE (slice header 12 4)
  let sequence := getBE (slice header 16 8)
  check (epoch = 0 ∨ sequence = 0 ∨ sequence > maxNonce) .epochOrSequence
  let plaintextLength := getBE (slice header 56 8)
  check (plaintextLength > record.length ∨
    plaintextLength + e2eRecordHeaderSize + 16 ≠ record.length) .lengthMismatch
  return { messageID := slice header 24 32 ++ putBE 4 epoch ++ putBE 8 sequence
           plaintextBytes := plaintextLength
           direction := (header.drop 10).headD 0 }

/-! ## Watermarks -/

/-- `natBillingSnapshot` and `relayBillingSnapshot`, which have the same fields. -/
structure Snapshot where
  cumulative : ℕ
  lastRecord : Identifier
  lastRecordSequence : ℕ
  recordSet : Digest
deriving DecidableEq

namespace Snapshot

/-- The zero value. -/
def zero : Snapshot := ⟨0, Bytes32.zero, 0, Bytes32.zero⟩

/-- `billingSnapshotConsistent`. -/
def consistent (snapshot : Snapshot) : Bool :=
  snapshot = zero ∨ (snapshot.cumulative > 0 ∧ snapshot.lastRecordSequence > 0 ∧
    snapshot.lastRecord ≠ Bytes32.zero ∧ snapshot.recordSet ≠ Bytes32.zero)

end Snapshot

/-- The watermark that a voucher's body states. -/
def VoucherBody.watermark (body : VoucherBody) : Snapshot :=
  ⟨body.cumulativeUniqueBytes, body.lastRecordID, body.lastRecordSequence, body.recordSetDigest⟩

/-! ## Claims (`wire.go:15-37`) -/

/-- The fields of a `billingcontrol.Message` of type `TypeClaim`. -/
structure Claim where
  body : Bytes
  relaySignature : Bytes
  relayPublicKey : String
  relayBillingPublicKey : String
  relayCert : Option SignedCert

/-- The two types of answers to a claim. -/
inductive AnswerType where
  | cosigned
  | reject
deriving DecidableEq

/-- The fields of a `billingcontrol.Message` that answers a claim. -/
structure ClaimAnswer where
  type : AnswerType
  voucher : Bytes
  payerPublicKey : String
  payerBillingPublicKey : String
  payerCert : Option SignedCert

end NatP2P.Billing
