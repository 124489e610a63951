import NatP2P.Billing.Queue.Defs
import NatP2P.Billing.Record

/-!
# The Relay's billing session

Reference: `p2pnode/impl/relaynode/billing_pipeline.go`, the parts that work on one
`relayBillingSession`.

The Relay charges the records of a session in the order of their sequences. It asks the payer for a
voucher in front of a record that would not fit into the window of the last voucher, and behind a
record that fills the window. While it waits for the payer it holds the session's lock, so
`advanceRecordLocked` is cut here at the calls of `issueVoucher`, and `issueVoucherWithClaim` at its
call of `claim`: what is left to do at such a point is the data that `Progress.claim` carries.
-/

namespace NatP2P.Billing

def maximumPendingRecordGap : ℕ := 4096

def maximumRecentBillingRecords : ℕ := 4096

/-- `relayBillingRecord`. -/
structure RelayRecord where
  bytes : ℕ
  recordID : Identifier
deriving DecidableEq

/-- The errors a session is blocked with. -/
inductive SessionBlock where
  | rotated
  | rejected
  | mismatched
  | denied
deriving DecidableEq

/-- `relayBillingSession`. A session without a voucher has none in `lastVoucher`. -/
structure RelaySession where
  payerID : Identifier
  sessionID : Identifier
  nextRecordSequence : ℕ
  cumulative : ℕ
  lastRecord : Identifier
  lastRecordSequence : ℕ
  recordSet : Digest
  lastVoucher : Option MutualVoucher
  recent : GoMap ℕ RelayRecord
  pending : GoMap ℕ RelayRecord
  pendingBytes : ℕ
  blocked : Option SessionBlock

/-- What a pipeline is poisoned with. -/
inductive PipelineFault where
  | persistGrowth (reason : QueueError)
  | persistRecovered (reason : QueueError)
  | readHeads (reason : QueueError)
  | encodeVoucher (reason : VoucherError)
  | deriveID (reason : VoucherError)
  | persistRemoval (reason : QueueError)
deriving DecidableEq

/-- What the functions of the pipeline fail with. -/
inductive RelayError where
  | fatal (fault : PipelineFault)
  | direction
  | notServer
  | payerIdentity
  | cutOff
  | invalidRecord
  | unnegotiatedSession
  | controlUnavailable
  | blocked (reason : SessionBlock)
  | staleSequence
  | sequenceGap
  | deferred (next received : ℕ)
  | cumulativeOverflow
  | record (reason : RecordError)
  | emptyVoucher
  | sequenceExhausted
  | voucher (reason : VoucherError)
  | transport
  | rejected
  | invalidCosigned (reason : VoucherError)
  | bodyChanged
  | payerCertificate
  | verifyCertificate
  | certificateIdentity
  | certificateBinding (reason : AdmissionError)
  | billingKeyMismatch
  | publicKeyEncoding
  | publicKeyInvalid
  | differsFromRegistered
  | capacity (reason : QueueError)
  | controlBlocked (reason : SessionBlock)
  | controlPending
  | recoveryBinding
  | recoverySignatures (reason : VoucherError)
  | recoveryChanged
  | recoveryIdentity
  | recoveryConflict
  | recoverySuccessor (reason : VoucherError)
  | recoveryFirst
  | recoveryPredates
  | recoveryCrosses
  | retainRecovered (reason : QueueError)
  | settlementChanged
  | rotateUnrelated
  | rotateBlocked (reason : SessionBlock)
  | rotateUncovered
  | snapshotQueue (reason : QueueError)
  | itemIdentity (index : ℕ)
  | itemRelay (index : ℕ)
  | itemBillingIdentity (index : ℕ)
  | itemBillingKey (index : ℕ) (reason : RelayError)
  | itemSignatures (index : ℕ) (reason : VoucherError)
  | itemPayer (index : ℕ)
  | itemChain (index : ℕ) (reason : VoucherError)
deriving DecidableEq

namespace RelaySession

/-- `newRelayBillingSession`. -/
def new (payerID sessionID : Identifier) : RelaySession :=
  { payerID
    sessionID
    nextRecordSequence := 1
    cumulative := 0
    lastRecord := Bytes32.zero
    lastRecordSequence := 0
    recordSet := Bytes32.zero
    lastVoucher := none
    recent := .empty
    pending := .empty
    pendingBytes := 0
    blocked := none }

/-- The `relayBillingSnapshot` of the session's watermark. -/
def snapshot (session : RelaySession) : Snapshot :=
  ⟨session.cumulative, session.lastRecord, session.lastRecordSequence, session.recordSet⟩

/-- `restoreSessionVoucher`. -/
def restoreVoucher (session : RelaySession) (voucher : MutualVoucher) : RelaySession :=
  { session with
    lastVoucher := some voucher
    cumulative := voucher.body.cumulativeUniqueBytes
    lastRecord := voucher.body.lastRecordID
    lastRecordSequence := voucher.body.lastRecordSequence
    recordSet := voucher.body.recordSetDigest
    nextRecordSequence := add64 voucher.body.lastRecordSequence 1 }

/-- `session.lastVoucher = voucher`. -/
def install (session : RelaySession) (voucher : MutualVoucher) : RelaySession :=
  { session with lastVoucher := some voucher }

/-- Whether the session holds records that are not yet in order; nothing ever puts any there. -/
def hasPending (session : RelaySession) : Bool :=
  session.pending.len ≠ 0 ∨ session.pendingBytes ≠ 0

/-- `billingSessionSafeToRotateLocked`. -/
def safeToRotate (session : RelaySession) : Bool :=
  if session.blocked ≠ none ∨ session.hasPending then false
  else match session.lastVoucher with
    | none => session.cumulative = 0 ∧ session.lastRecordSequence = 0
    | some voucher => voucher.body.watermark = session.snapshot

/-- `relayBillingControlSnapshot`. -/
def controlSnapshot (session : RelaySession) : Except RelayError Snapshot :=
  match session.blocked with
  | some reason => .error (.controlBlocked reason)
  | none => do
    check session.hasPending .controlPending
    return session.snapshot

/-- `blockSession` on the session: a rotated session may still be blocked for another reason. -/
def block (session : RelaySession) (reason : SessionBlock) : RelaySession :=
  match session.blocked with
  | none => { session with blocked := some reason }
  | some .rotated => { session with blocked := some reason }
  | some _ => session

/-! ## Records (`billing_pipeline.go:886-975`) -/

/-- Where `observeRecord` stands: it has returned without charging the record, it has called
`issueVoucher` for a snapshot, or it has charged the record. The `candidate` of a claim is the
watermark behind the record when the record fills the window, and `none` when the voucher is due in
front of the record. -/
inductive Progress where
  | returned (result : Except RelayError Unit) (session : RelaySession)
  | claim (session : RelaySession) (snapshot : Snapshot) (candidate : Option Snapshot)
  | charged (session : RelaySession)

/-- `windowBase`. -/
def windowBase (session : RelaySession) : ℕ :=
  match session.lastVoucher with
  | some voucher => voucher.body.cumulativeUniqueBytes
  | none => 0

/-- What `advanceRecordLocked` does when nothing can fail any more
(`billing_pipeline.go:962-973`). -/
def commit (session : RelaySession) (sequence : ℕ) (record : RelayRecord) (candidate : Snapshot) :
    RelaySession :=
  let recent := session.recent.set sequence record
  { session with
    cumulative := candidate.cumulative
    lastRecord := record.recordID
    lastRecordSequence := sequence
    recordSet := candidate.recordSet
    recent := if sequence > maximumRecentBillingRecords then
        recent.delete (sub64 sequence maximumRecentBillingRecords)
      else recent
    nextRecordSequence := add64 session.nextRecordSequence 1 }

/-- `advanceRecordLocked` behind its first call of `issueVoucher`
(`billing_pipeline.go:943-975`). -/
def advanceWithin (C : Crypto) (session : RelaySession) (windowBytes sequence : ℕ)
    (record : RelayRecord) : Progress :=
  if session.cumulative > sub64 maxBillableBytes record.bytes then
    .returned (.error .cumulativeOverflow) session
  else
    let cumulative := add64 session.cumulative record.bytes
    match advance C session.recordSet record.recordID sequence record.bytes with
    | .error reason => .returned (.error (.record reason)) session
    | .ok recordSet =>
      let candidate : Snapshot := ⟨cumulative, record.recordID, sequence, recordSet⟩
      if add64 windowBytes record.bytes = cumulativeWindowBytes then
        .claim session candidate (some candidate)
      else .charged (session.commit sequence record candidate)

/-- `advanceRecordLocked`. -/
def advanceRecordLocked (C : Crypto) (session : RelaySession) (sequence : ℕ) (record : RelayRecord) :
    Progress :=
  let windowBytes := sub64 session.cumulative session.windowBase
  if windowBytes > 0 ∧ record.bytes > sub64 cumulativeWindowBytes windowBytes then
    .claim session session.snapshot none
  else session.advanceWithin C windowBytes sequence record

/-- `advanceRecordLocked` from where `issueVoucher` has returned a voucher. -/
def resume (C : Crypto) (session : RelaySession) (sequence : ℕ) (record : RelayRecord)
    (candidate : Option Snapshot) (voucher : MutualVoucher) : Progress :=
  match candidate with
  | none => (session.install voucher).advanceWithin C 0 sequence record
  | some candidate => .charged ((session.install voucher).commit sequence record candidate)

/-- `observeRecord` under the session's lock. -/
def observeLocked (C : Crypto) (session : RelaySession) (sequence : ℕ) (record : RelayRecord) :
    Progress :=
  match session.blocked with
  | some reason => .returned (.error (.blocked reason)) session
  | none =>
    if sequence < session.nextRecordSequence then
      if session.recent.get sequence = some record then .returned (.ok ()) session
      else .returned (.error .staleSequence) session
    else if sequence > session.nextRecordSequence then
      if sub64 sequence session.nextRecordSequence > maximumPendingRecordGap then
        .returned (.error .sequenceGap) session
      else .returned (.error (.deferred session.nextRecordSequence sequence)) session
    else session.advanceRecordLocked C sequence record

end RelaySession

/-! ## Vouchers (`billing_pipeline.go:989-1101, 1287-1316`) -/

/-- What a pipeline reads of its Relay node, and its certificate. -/
structure RelayNode where
  relayID : Identifier
  pubKeyHex : String
  billingPrivateKey : Bytes
  billingPublicKeyForWire : String
  relayCert : SignedCert

/-- The sequence and the predecessor of the voucher behind `last`. -/
def nextVoucherLink (C : Crypto) (last : Option MutualVoucher) :
    Except RelayError (ℕ × Identifier) :=
  match last with
  | none => .ok (1, Bytes32.zero)
  | some last => do
    check (last.body.sequence ≥ maxSequence) .sequenceExhausted
    let previousID ← (last.id C).mapError .voucher
    return (add64 last.body.sequence 1, previousID)

/-- The body that `issueVoucherWithClaim` asks for behind the voucher `last`. -/
def nextVoucherBody (C : Crypto) (relayID payerID sessionID : Identifier)
    (last : Option MutualVoucher) (snapshot : Snapshot) : Except RelayError VoucherBody := do
  check (snapshot.cumulative = 0 ∨ snapshot.lastRecord = Bytes32.zero ∨
    snapshot.lastRecordSequence = 0 ∨ snapshot.recordSet = Bytes32.zero) .emptyVoucher
  let (sequence, previousID) ← nextVoucherLink C last
  return { version := currentVersion
           sessionID
           payerNatID := payerID
           payeeRelayID := relayID
           direction := directionPayerOutbound
           sequence
           previousMutualVoucherID := previousID
           cumulativeUniqueBytes := snapshot.cumulative
           lastRecordID := snapshot.lastRecord
           lastRecordSequence := snapshot.lastRecordSequence
           recordSetDigest := snapshot.recordSet
           policyDigest := currentPolicyDigest C
           authorizedThroughBytes := maxBillableBytes }

/-- The message that `issueVoucherWithClaim` sends to the payer. -/
def claimMessage (C : Crypto) (node : RelayNode) (body : VoucherBody) : Except RelayError Claim := do
  let bodyBytes ← body.canonicalBytes.mapError .voucher
  let relaySignature ← (signRelayBilling C body node.billingPrivateKey).mapError .voucher
  return { body := bodyBytes
           relaySignature
           relayPublicKey := node.pubKeyHex
           relayBillingPublicKey := node.billingPublicKeyForWire
           relayCert := some node.relayCert }

/-- `parseBillingPublicKey`. -/
def parseBillingPublicKey (C : Crypto) (publicKeyHex : String) : Except RelayError Bytes :=
  match hexDecode publicKeyHex with
  | none => .error .publicKeyEncoding
  | some encoded => do
    check (hexEncode encoded ≠ publicKeyHex) .publicKeyEncoding
    check (¬ C.validPublicKey encoded) .publicKeyInvalid
    return encoded

/-- `certificateSigningPublicKey`: the key that signs for the node, and the billing key that its
certificate binds. -/
def certificateSigningPublicKey (C : Crypto) (certificate : Option SignedCert)
    (identityPublicKey : String) : Except RelayError (String × String) :=
  match certificate with
  | none => .error .certificateIdentity
  | some signed => do
    check (signed.cert.subjectPubKey ≠ identityPublicKey) .certificateIdentity
    (validateBillingBinding C signed.cert).mapError .certificateBinding
    if signed.cert.authorizationID = "" then return (identityPublicKey, "")
    else return (signed.cert.billingPubKey, signed.cert.billingPubKey)

/-- What `issueVoucherWithClaim` checks of the payer's answer: the envelope that goes into the
queue. `verifier` is what the CA verifier says about the payer's certificate, `none` when there is
no verifier; `registered` is the payer's certificate in the accounts. -/
def acceptAnswer (C : Crypto) (node : RelayNode) (body : VoucherBody) (answer : ClaimAnswer)
    (verifier : Option Bool) (registered : Option SignedCert) : Except RelayError Envelope := do
  check (answer.type = .reject) .rejected
  let voucher ← (parseCanonicalVoucher C answer.voucher).mapError .invalidCosigned
  check (voucher.body ≠ body) .bodyChanged
  match answer.payerCert with
  | none => .error .payerCertificate
  | some payerCert => do
    check (payerCert.cert.subjectPubKey ≠ answer.payerPublicKey ∨ verifier = none) .payerCertificate
    check (verifier = some false) .verifyCertificate
    let (signingKey, billingKey) ←
      certificateSigningPublicKey C (some payerCert) answer.payerPublicKey
    check (answer.payerBillingPublicKey ≠ billingKey) .billingKeyMismatch
    let payerPublicKey ← parseBillingPublicKey C signingKey
    (voucher.verifyBillingSignatures C payerPublicKey (C.publicKey node.billingPrivateKey)).mapError
      .voucher
    check (¬ ∃ current ∈ registered, current.cert.subjectPubKey = answer.payerPublicKey ∧
      current.cert.authorizationID = payerCert.cert.authorizationID ∧
      current.cert.billingPubKey = payerCert.cert.billingPubKey) .differsFromRegistered
    return { voucher
             payerPublicKey := answer.payerPublicKey
             payerBillingPublicKey := answer.payerBillingPublicKey
             payerCert := some payerCert }

/-! ## Recovered vouchers (`billing_pipeline.go:634-716`) -/

/-- The identity that `acceptControl` has established before it recovers a voucher. -/
structure PayerIdentity where
  publicKeyHex : String
  signingPublicKeyHex : String
  billingPublicKeyHex : String
  certificate : SignedCert

/-- The checks of `installRecoveredVoucher` that come before the session's lock. -/
def checkRecoveredVoucher (C : Crypto) (node : RelayNode) (session : RelaySession)
    (voucher : MutualVoucher) (payer : PayerIdentity) : Except RelayError Unit := do
  check (voucher.body.sessionID ≠ session.sessionID ∨ voucher.body.payerNatID ≠ session.payerID ∨
    voucher.body.payeeRelayID ≠ node.relayID ∨ voucher.body.direction ≠ directionPayerOutbound ∨
    voucher.body.policyDigest ≠ currentPolicyDigest C ∨
    voucher.body.authorizedThroughBytes ≠ maxBillableBytes) .recoveryBinding
  let payerPublicKey ← parseBillingPublicKey C payer.signingPublicKeyHex
  (voucher.verifyBillingSignatures C payerPublicKey (C.publicKey node.billingPrivateKey)).mapError
    .recoverySignatures

/-- The place of a recovered voucher in the session's chain: whether it is the last voucher, which
the session must then stand at. -/
def RelaySession.recoversLast (C : Crypto) (session : RelaySession) (voucher : MutualVoucher) :
    Except RelayError Bool :=
  match session.lastVoucher with
  | some last =>
    match last.id C, voucher.id C with
    | .ok lastID, .ok voucherID =>
      if lastID = voucherID then do
        check (session.snapshot ≠ voucher.body.watermark) .recoveryConflict
        return true
      else do
        (validateSuccessor C last voucher).mapError .recoverySuccessor
        return false
    | _, _ => .error .recoveryIdentity
  | none => do
    check (voucher.body.sequence ≠ 1 ∨ voucher.body.previousMutualVoucherID ≠ Bytes32.zero)
      .recoveryFirst
    return false

/-- `installRecoveredVoucher` under the session's lock, up to the queue: whether there is anything
to install. -/
def RelaySession.recoverLocked (C : Crypto) (session : RelaySession) (advertised : Snapshot)
    (voucher : MutualVoucher) : Except RelayError Bool := do
  check (session.snapshot ≠ advertised ∨ session.blocked ≠ none ∨ session.hasPending)
    .recoveryChanged
  let installed ← session.recoversLast C voucher
  if installed then return false
  else do
    let body := voucher.body
    check (body.cumulativeUniqueBytes < session.cumulative ∨
      body.lastRecordSequence < session.lastRecordSequence) .recoveryPredates
    check ((body.cumulativeUniqueBytes = session.cumulative ∨
      body.lastRecordSequence = session.lastRecordSequence) ∧ body.watermark ≠ session.snapshot)
      .recoveryCrosses
    return true

end NatP2P.Billing
