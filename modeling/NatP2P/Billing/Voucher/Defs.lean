import NatP2P.Billing.Crypto
import NatP2P.Common.Check
import NatP2P.Common.Word

/-!
# Vouchers

Reference: `billingvoucher/voucher.go` and `billingvoucher/signature.go`.

A `VoucherBody` is what the payer and the Relay sign, a `MutualVoucher` is a body with both
signatures. `validate` is the static check of a body, `canonicalBytes` and `parseCanonicalBody` its
wire form, `id` the hash that a successor names, and `validateSuccessor` the check of one link of a
voucher chain.
-/

namespace NatP2P.Billing

/-- `billingvoucher.Identifier`. -/
abbrev Identifier := Bytes32

/-- `billingvoucher.Digest`. -/
abbrev Digest := Bytes32

/-- `Identifier.String` and `Digest.String`. -/
def Identifier.string (identifier : Identifier) : String := hexEncode identifier.val

/-! ## Constants (`voucher.go:13-26`, `signature.go:17-22`) -/

def currentVersion : ℕ := 1

/-- The unsigned window: one mebibyte. -/
def cumulativeWindowBytes : ℕ := 2 ^ 20

def maxSequence : ℕ := 2 ^ 63 - 1

def maxBillableBytes : ℕ := 2 ^ 63 - 1

def voucherBodyDomain : Bytes := utf8 "BNFS/USAGE-VOUCHER-BODY/V1"

def mutualVoucherDomain : Bytes := utf8 "BNFS/MUTUAL-VOUCHER/V1"

def mutualEncodingDomain : Bytes := utf8 "BNFS/MUTUAL-VOUCHER-WIRE/V1"

def payerSignatureDomain : Bytes := utf8 "BNFS/NAT-VOUCHER/V1"

def relaySignatureDomain : Bytes := utf8 "BNFS/RELAY-VOUCHER/V1"

def canonicalBodySize : ℕ := voucherBodyDomain.length + 2 + 7 * 32 + 1 + 4 * 8

def maxSignatureSize : ℕ := 72

/-- `Direction`; a byte off the wire may be neither of the two valid ones. -/
abbrev Direction := UInt8

def directionPayerOutbound : Direction := 1

def directionPayerInbound : Direction := 2

/-- `Direction.Valid`. -/
def Direction.valid (direction : Direction) : Bool :=
  direction = directionPayerOutbound || direction = directionPayerInbound

/-- `VoucherBody`. -/
structure VoucherBody where
  version : ℕ
  sessionID : Identifier
  payerNatID : Identifier
  payeeRelayID : Identifier
  direction : Direction
  sequence : ℕ
  previousMutualVoucherID : Identifier
  cumulativeUniqueBytes : ℕ
  lastRecordID : Identifier
  lastRecordSequence : ℕ
  recordSetDigest : Digest
  policyDigest : Digest
  authorizedThroughBytes : ℕ
deriving DecidableEq

/-- `MutualVoucher`. -/
structure MutualVoucher where
  body : VoucherBody
  payerSignature : Bytes
  relaySignature : Bytes
deriving DecidableEq

/-- The errors of package `billingvoucher`. -/
inductive VoucherError where
  | unsupportedVersion (version : ℕ)
  | sessionRequired
  | payerRequired
  | payeeRequired
  | payerIsPayee
  | invalidDirection (direction : Direction)
  | sequenceRange
  | firstHasPredecessor
  | predecessorRequired
  | cumulativeRange
  | authorizedRange
  | exceedsAuthorization
  | exceedsSequenceWindow
  | lastRecordRequired
  | lastRecordSequence
  | recordSetRequired
  | policyRequired
  | bodyLength (length : ℕ)
  | bodyDomain
  | signatureLength
  | signatureEncoding
  | payerSignature (reason : VoucherError)
  | relaySignature (reason : VoucherError)
  | voucherTruncated
  | voucherDomain
  | trailingVoucherData
  | invalidPublicKey
  | signingFailed
  | invalidSignature
  | invalidPredecessor (reason : VoucherError)
  | invalidSuccessor (reason : VoucherError)
  | successorSequence
  | successorPredecessor
  | successorBindings
  | successorCumulative
  | successorRecordSequence
  | successorWindow
  | successorRecordSet
deriving DecidableEq

/-! ## Bodies -/

/-- `sequenceWindowCeiling`. -/
def sequenceWindowCeiling (sequence : ℕ) : ℕ :=
  if sequence > maxBillableBytes / cumulativeWindowBytes then maxBillableBytes
  else sequence * cumulativeWindowBytes

namespace VoucherBody

/-- `VoucherBody.Validate`. -/
def validate (body : VoucherBody) : Except VoucherError Unit := do
  check (body.version ≠ currentVersion) (.unsupportedVersion body.version)
  check (body.sessionID = Bytes32.zero) .sessionRequired
  check (body.payerNatID = Bytes32.zero) .payerRequired
  check (body.payeeRelayID = Bytes32.zero) .payeeRequired
  check (body.payerNatID = body.payeeRelayID) .payerIsPayee
  check (¬ body.direction.valid) (.invalidDirection body.direction)
  check (body.sequence = 0 ∨ body.sequence > maxSequence) .sequenceRange
  check (body.sequence = 1 ∧ body.previousMutualVoucherID ≠ Bytes32.zero) .firstHasPredecessor
  check (body.sequence > 1 ∧ body.previousMutualVoucherID = Bytes32.zero) .predecessorRequired
  check (body.cumulativeUniqueBytes = 0 ∨ body.cumulativeUniqueBytes > maxBillableBytes)
    .cumulativeRange
  check (body.authorizedThroughBytes = 0 ∨ body.authorizedThroughBytes > maxBillableBytes)
    .authorizedRange
  check (body.cumulativeUniqueBytes > body.authorizedThroughBytes) .exceedsAuthorization
  check (body.cumulativeUniqueBytes > sequenceWindowCeiling body.sequence) .exceedsSequenceWindow
  check (body.lastRecordID = Bytes32.zero) .lastRecordRequired
  check (body.lastRecordSequence = 0 ∨ body.lastRecordSequence > maxSequence) .lastRecordSequence
  check (body.recordSetDigest = Bytes32.zero) .recordSetRequired
  check (body.policyDigest = Bytes32.zero) .policyRequired

/-- The layout of a canonical body, without the validation. -/
def encode (body : VoucherBody) : Bytes :=
  voucherBodyDomain ++ putBE 2 body.version ++ body.sessionID.val ++ body.payerNatID.val ++
    body.payeeRelayID.val ++ [body.direction] ++ putBE 8 body.sequence ++
    body.previousMutualVoucherID.val ++ putBE 8 body.cumulativeUniqueBytes ++
    body.lastRecordID.val ++ putBE 8 body.lastRecordSequence ++ body.recordSetDigest.val ++
    body.policyDigest.val ++ putBE 8 body.authorizedThroughBytes

/-- `VoucherBody.CanonicalBytes`. -/
def canonicalBytes (body : VoucherBody) : Except VoucherError Bytes := do
  body.validate
  return body.encode

/-- `VoucherBody.BodyID`. -/
def bodyID (C : Crypto) (body : VoucherBody) : Except VoucherError Identifier := do
  let encoded ← body.canonicalBytes
  return C.sha256 encoded

end VoucherBody

/-- `encoded[offset : offset+size]`. -/
def slice (encoded : Bytes) (offset size : ℕ) : Bytes := (encoded.drop offset).take size

/-- `ParseCanonicalBody`. The offsets are those the Go function accumulates. -/
def parseCanonicalBody (encoded : Bytes) : Except VoucherError VoucherBody := do
  check (encoded.length ≠ canonicalBodySize) (.bodyLength encoded.length)
  check (encoded.take voucherBodyDomain.length ≠ voucherBodyDomain) .bodyDomain
  let offset := voucherBodyDomain.length
  let body : VoucherBody :=
    { version := getBE (slice encoded offset 2)
      sessionID := Bytes32.copy (slice encoded (offset + 2) 32)
      payerNatID := Bytes32.copy (slice encoded (offset + 34) 32)
      payeeRelayID := Bytes32.copy (slice encoded (offset + 66) 32)
      direction := (encoded.drop (offset + 98)).headD 0
      sequence := getBE (slice encoded (offset + 99) 8)
      previousMutualVoucherID := Bytes32.copy (slice encoded (offset + 107) 32)
      cumulativeUniqueBytes := getBE (slice encoded (offset + 139) 8)
      lastRecordID := Bytes32.copy (slice encoded (offset + 147) 32)
      lastRecordSequence := getBE (slice encoded (offset + 179) 8)
      recordSetDigest := Bytes32.copy (slice encoded (offset + 187) 32)
      policyDigest := Bytes32.copy (slice encoded (offset + 219) 32)
      authorizedThroughBytes := getBE (slice encoded (offset + 251) 8) }
  body.validate
  return body

/-! ## Signatures -/

/-- `validateCanonicalSignature`. -/
def validateCanonicalSignature (C : Crypto) (signature : Bytes) : Except VoucherError Unit := do
  check (signature.length = 0 ∨ signature.length > maxSignatureSize) .signatureLength
  check (¬ C.lowSSignature signature) .signatureEncoding

/-- `signatureDigest`. -/
def signatureDigest (C : Crypto) (domain : Bytes) (bodyID : Identifier) : Bytes32 :=
  C.sha256 (domain ++ bodyID.val)

/-- `signBodyWithBillingKey`. -/
def signBodyWithBillingKey (C : Crypto) (body : VoucherBody) (billingKey domain : Bytes) :
    Except VoucherError Bytes := do
  body.validate
  let bodyID ← body.bodyID C
  match C.sign billingKey (signatureDigest C domain bodyID) with
  | some signature => return signature
  | none => .error .signingFailed

/-- `SignPayerBilling`. -/
def signPayerBilling (C : Crypto) (body : VoucherBody) (billingKey : Bytes) :
    Except VoucherError Bytes :=
  signBodyWithBillingKey C body billingKey payerSignatureDomain

/-- `SignRelayBilling`. -/
def signRelayBilling (C : Crypto) (body : VoucherBody) (billingKey : Bytes) :
    Except VoucherError Bytes :=
  signBodyWithBillingKey C body billingKey relaySignatureDomain

/-- `verifyBodyBillingSignature`. -/
def verifyBodyBillingSignature (C : Crypto) (body : VoucherBody) (signature billingKey domain : Bytes) :
    Except VoucherError Unit := do
  body.validate
  check (¬ C.validPublicKey billingKey) .invalidPublicKey
  validateCanonicalSignature C signature
  let bodyID ← body.bodyID C
  check (¬ C.verify billingKey (signatureDigest C domain bodyID) signature) .invalidSignature

/-- `VerifyRelayBillingSignature`. -/
def verifyRelayBillingSignature (C : Crypto) (body : VoucherBody) (signature billingKey : Bytes) :
    Except VoucherError Unit :=
  verifyBodyBillingSignature C body signature billingKey relaySignatureDomain

/-! ## Mutual vouchers -/

/-- `appendLengthPrefixedSignature`. -/
def lengthPrefixedSignature (signature : Bytes) : Bytes := putBE 2 signature.length ++ signature

namespace MutualVoucher

/-- The two signature checks that `ID` and `CanonicalBytes` share. -/
def checkSignatures (C : Crypto) (voucher : MutualVoucher) : Except VoucherError Unit := do
  (validateCanonicalSignature C voucher.payerSignature).mapError .payerSignature
  (validateCanonicalSignature C voucher.relaySignature).mapError .relaySignature

/-- `MutualVoucher.ID`. -/
def id (C : Crypto) (voucher : MutualVoucher) : Except VoucherError Identifier := do
  let bodyID ← voucher.body.bodyID C
  voucher.checkSignatures C
  return C.sha256 (mutualVoucherDomain ++ bodyID.val ++
    lengthPrefixedSignature voucher.payerSignature ++
    lengthPrefixedSignature voucher.relaySignature)

/-- `MutualVoucher.CanonicalBytes`. -/
def canonicalBytes (C : Crypto) (voucher : MutualVoucher) : Except VoucherError Bytes := do
  let body ← voucher.body.canonicalBytes
  voucher.checkSignatures C
  return mutualEncodingDomain ++ body ++ lengthPrefixedSignature voucher.payerSignature ++
    lengthPrefixedSignature voucher.relaySignature

/-- `MutualVoucher.VerifyBillingSignatures`. -/
def verifyBillingSignatures (C : Crypto) (voucher : MutualVoucher)
    (payerBillingKey relayBillingKey : Bytes) : Except VoucherError Unit := do
  (verifyBodyBillingSignature C voucher.body voucher.payerSignature payerBillingKey
    payerSignatureDomain).mapError .payerSignature
  (verifyBodyBillingSignature C voucher.body voucher.relaySignature relayBillingKey
    relaySignatureDomain).mapError .relaySignature

end MutualVoucher

/-- `NewMutualVoucher`. -/
def newMutualVoucher (C : Crypto) (body : VoucherBody) (payerSignature relaySignature : Bytes) :
    Except VoucherError MutualVoucher := do
  let voucher : MutualVoucher := { body, payerSignature, relaySignature }
  let _ ← voucher.id C
  return voucher

/-- `readLengthPrefixedSignature`: the signature at `offset` and the offset behind it. -/
def readLengthPrefixedSignature (C : Crypto) (encoded : Bytes) (offset : ℕ) :
    Except VoucherError (Bytes × ℕ) := do
  check (encoded.length - offset < 2) .signatureLength
  let length := getBE (slice encoded offset 2)
  let offset := offset + 2
  check (length = 0 ∨ length > maxSignatureSize ∨ encoded.length - offset < length) .signatureLength
  let signature := slice encoded offset length
  validateCanonicalSignature C signature
  return (signature, offset + length)

/-- `ParseCanonicalVoucher`. -/
def parseCanonicalVoucher (C : Crypto) (encoded : Bytes) : Except VoucherError MutualVoucher := do
  check (encoded.length < mutualEncodingDomain.length + canonicalBodySize + 4) .voucherTruncated
  check (encoded.take mutualEncodingDomain.length ≠ mutualEncodingDomain) .voucherDomain
  let offset := mutualEncodingDomain.length
  let body ← parseCanonicalBody (slice encoded offset canonicalBodySize)
  let offset := offset + canonicalBodySize
  let (payerSignature, next) ←
    (readLengthPrefixedSignature C encoded offset).mapError .payerSignature
  let (relaySignature, next) ←
    (readLengthPrefixedSignature C encoded next).mapError .relaySignature
  check (next ≠ encoded.length) .trailingVoucherData
  newMutualVoucher C body payerSignature relaySignature

/-- `ValidateSuccessor`. -/
def validateSuccessor (C : Crypto) (previous current : MutualVoucher) : Except VoucherError Unit := do
  let previousID ← (previous.id C).mapError .invalidPredecessor
  let _ ← (current.id C).mapError .invalidSuccessor
  check (previous.body.sequence = maxSequence ∨
    current.body.sequence ≠ previous.body.sequence + 1) .successorSequence
  check (current.body.previousMutualVoucherID ≠ previousID) .successorPredecessor
  check (current.body.version ≠ previous.body.version ∨
    current.body.sessionID ≠ previous.body.sessionID ∨
    current.body.payerNatID ≠ previous.body.payerNatID ∨
    current.body.payeeRelayID ≠ previous.body.payeeRelayID ∨
    current.body.direction ≠ previous.body.direction ∨
    current.body.policyDigest ≠ previous.body.policyDigest ∨
    current.body.authorizedThroughBytes ≠ previous.body.authorizedThroughBytes) .successorBindings
  check (current.body.cumulativeUniqueBytes ≤ previous.body.cumulativeUniqueBytes)
    .successorCumulative
  check (current.body.lastRecordSequence ≤ previous.body.lastRecordSequence)
    .successorRecordSequence
  check (sub64 current.body.cumulativeUniqueBytes previous.body.cumulativeUniqueBytes >
    cumulativeWindowBytes) .successorWindow
  check (current.body.recordSetDigest = previous.body.recordSetDigest) .successorRecordSet

/-! ## Policy (`billingvoucher/policy.go`) -/

/-- `CurrentPolicyDigest`. -/
def currentPolicyDigest (C : Crypto) : Digest :=
  C.sha256 (utf8 "BNFS/BILLING-POLICY/V1" ++ [0] ++ putBE 8 cumulativeWindowBytes ++ putBE 8 95 ++
    putBE 8 100)

end NatP2P.Billing
