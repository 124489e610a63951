import NatP2P.Billing.Nat.Session

/-!
# The payer's billing meter

Reference: `p2pnode/impl/natnode/billing_meter.go`.

The meter of a NAT node keeps its sessions, the session that each Relay address is bound to, and the
last mutual voucher of each channel. Every method runs under the meter's lock. `cosign` also reads
the node's certificate in a critical section of its own before the main one, so the certificate is
an argument here; what the CA verifier answers is one as well.

The wake-up channels, the send gates and the counters of waiters only order or delay the calls
below.
-/

namespace NatP2P.Billing

/-- `natBillingMeter`. A channel without a voucher is an absent one. -/
structure NatMeter where
  privateKey : Bytes
  billingPrivateKey : Bytes
  payerID : Identifier
  sessions : GoMap Identifier NatSession
  relaySessions : GoMap String Identifier
  invalidSessions : Finset Identifier
  relayInvalidation : GoMap String ℕ
  channels : GoMap (Identifier × Identifier) MutualVoucher
  rotationTargets : GoMap Identifier Snapshot
  rotationSettled : GoMap Identifier Snapshot
  cert : Option SignedCert
  hasVerifier : Bool
  enabled : Bool

/-- `ParseIdentifierHex`; the length of a Go string is that of its bytes. -/
def parseIdentifierHex (value : String) : Option Identifier :=
  if (utf8 value).length ≠ 64 then none
  else match hexDecode value with
    | none => none
    | some decoded => if hexEncode decoded = value then some (Bytes32.copy decoded) else none

/-- `NodeIDFromPublicKey` of a key that `ecdh` accepts. -/
def nodeIDFromPublicKey (C : Crypto) (publicKey : Bytes) : Identifier :=
  C.sha256 (utf8 (hexEncode publicKey))

/-- `natBillingSessionStatus`. -/
structure SessionStatus where
  preexisting : Bool
  resetRequired : Bool
  draining : Bool
  watermark : Snapshot
  recoveryVoucher : Option MutualVoucher

/-- `natBillingSendLease`: what `prepareWithLease` checks of it. -/
structure SendLease where
  sessionID : Identifier
  generation : ℕ

/-- The fields of the header that `prepareWithLease` fills in. -/
structure BillingHeader where
  sessionID : Identifier
  sequence : ℕ
  bytes : ℕ
deriving DecidableEq

/-- The parts of a `network.Message` that the meter reads. -/
structure SealedMessage where
  header : BillingHeader
  connectionID : Bytes
  payload : Bytes

namespace NatMeter

/-- `newNatBillingMeter`, after `setBillingPrivateKey` and `setCertificateVerifier`. -/
def new (C : Crypto) (privateKey billingPrivateKey : Bytes) (hasVerifier : Bool) : NatMeter :=
  { privateKey
    billingPrivateKey
    payerID := nodeIDFromPublicKey C (C.publicKey privateKey)
    sessions := .empty
    relaySessions := .empty
    invalidSessions := ∅
    relayInvalidation := .empty
    channels := .empty
    rotationTargets := .empty
    rotationSettled := .empty
    cert := none
    hasVerifier
    enabled := false }

/-- `enable`. -/
def enable (C : Crypto) (meter : NatMeter) (cert : Option SignedCert) : Except NatError NatMeter :=
  match cert with
  | none => .error .serverCertificate
  | some signed => do
    let billingPublicKey := hexEncode (C.publicKey meter.billingPrivateKey)
    check (signed.cert.role ≠ .server) .serverCertificate
    check (signed.cert.subjectNodeID ≠ meter.payerID.string ∨
      signed.cert.subjectPubKey ≠ hexEncode (C.publicKey meter.privateKey)) .certificateIdentity
    (validateBillingBinding C signed.cert).mapError fun _ => .certificateBinding
    check (signed.cert.authorizationID = "" ∧ billingPublicKey ≠ signed.cert.subjectPubKey)
      .legacyCertificateKey
    check (signed.cert.authorizationID ≠ "" ∧ ¬ meter.hasVerifier) .verifierRequired
    check (signed.cert.authorizationID ≠ "" ∧ signed.cert.billingPubKey ≠ billingPublicKey)
      .certificateKey
    return { meter with cert := some signed, enabled := true }

/-- The last voucher of a session's channel. -/
def lastVoucher (meter : NatMeter) (sessionID : Identifier) (session : NatSession) :
    Option MutualVoucher :=
  meter.channels.get (sessionID, session.relayID)

/-- `meter.sessions[sessionID] = session`, for a session that a method has changed. -/
def setSession (meter : NatMeter) (sessionID : Identifier) (session : NatSession) : NatMeter :=
  { meter with sessions := meter.sessions.set sessionID session }

/-! ## Sending and observing -/

/-- `prepareWithLease`; nothing is assigned while billing is off. -/
def prepareWithLease (meter : NatMeter) (payloadLength : ℕ) (relayAddr : String)
    (lease : Option SendLease) : Except NatError (Option BillingHeader × NatMeter) :=
  if meter.enabled = false then .ok (none, meter)
  else
    match meter.relaySessions.get relayAddr with
    | none => .error .sessionNotReady
    | some sessionID => do
      check (∃ held ∈ lease, held.sessionID ≠ sessionID ∨
        held.generation ≠ (meter.relayInvalidation.get relayAddr).getD 0) .sessionReconciling
      check (sessionID ∈ meter.invalidSessions) .sessionReconciling
      check (payloadLength = 0 ∨ payloadLength > cumulativeWindowBytes) (.messageSize payloadLength)
      match meter.sessions.get sessionID with
      | none => .error .negotiatedUnavailable
      | some session =>
        let (sequence, assigned) ← session.assign payloadLength
        return (some ⟨sessionID, sequence, payloadLength⟩, meter.setSession sessionID assigned)

/-- `completeSend`: whether the last active send of a session that waits for it is done. -/
def completeSend (meter : NatMeter) (header : BillingHeader) : Bool × NatMeter :=
  if header.sequence = 0 then (false, meter)
  else
    match meter.sessions.get header.sessionID with
    | none => (false, meter)
    | some session =>
      let session := { session with activeSends := session.activeSends.erase header.sequence }
      (decide ((header.sessionID ∈ meter.invalidSessions ∨ session.reconciliationDraining) ∧
        session.activeSends = ∅), meter.setSession header.sessionID session)

/-- `confirm`. -/
def confirm (meter : NatMeter) (header : BillingHeader) : Except NatError NatMeter :=
  if header.sequence = 0 then .ok meter
  else
    match meter.sessions.get header.sessionID with
    | none => .error .confirmedWithoutEvidence
    | some session => do
      let confirmed ← session.confirm header.sequence
      return meter.setSession header.sessionID confirmed

/-- The record of a sealed message and its identifier (`billing_meter.go:1174-1190`). -/
def sealedRecord (C : Crypto) (message : SealedMessage) (e2eRecordID : Bytes) :
    Except NatError Identifier := do
  let metadata ← (inspectE2ERecord message.payload).mapError .sealedRecord
  check (metadata.messageID ≠ e2eRecordID ∨ metadata.plaintextBytes ≠ message.header.bytes)
    .metadataMismatch
  let record : Record :=
    { sessionID := message.header.sessionID
      sequence := message.header.sequence
      bytes := message.header.bytes
      connection := message.connectionID
      e2eRecordID := e2eRecordID
      ciphertext := message.payload }
  (record.id C).mapError .record

/-- `observe`. -/
def observe (C : Crypto) (meter : NatMeter) (message : SealedMessage) (e2eRecordID : Bytes) :
    Except NatError Unit × NatMeter :=
  if message.header.sequence = 0 then (.ok (), meter)
  else
    match sealedRecord C message e2eRecordID with
    | .error err => (.error err, meter)
    | .ok recordID =>
      match meter.sessions.get message.header.sessionID with
      | none => (.error .unknownSession, meter)
      | some session =>
        let (result, session) := session.observe C
          (meter.lastVoucher message.header.sessionID session) message.header.sequence
          message.header.bytes recordID
        (result, meter.setSession message.header.sessionID session)

/-! ## Sessions -/

/-- `sessionBoundLocked`. -/
def sessionBound (meter : NatMeter) (sessionID : Identifier) : Bool :=
  ∃ relayAddr ∈ meter.relaySessions.keys, meter.relaySessions.get relayAddr = some sessionID

/-- `sessionSafeToReplaceLocked`: everything that was assigned is covered by the last voucher, or by
a rotation that is settled. -/
def sessionSafeToReplace (meter : NatMeter) (sessionID : Identifier) : Bool :=
  match meter.sessions.get sessionID with
  | none => false
  | some session =>
    let covers (snapshot : Snapshot) : Bool :=
      match meter.lastVoucher sessionID session with
      | none => false
      | some voucher => voucher.body.sessionID = sessionID ∧
          voucher.body.payerNatID = meter.payerID ∧ voucher.body.payeeRelayID = session.relayID ∧
          voucher.body.watermark = snapshot
    if session.nextAssigned = 0 ∨ session.nextAdvance = 0 ∨ session.pending.len ≠ 0 ∨
        session.activeSends ≠ ∅ ∨ session.reconciliationDraining then false
    else
      match meter.rotationSettled.get sessionID with
      | some target => target = Snapshot.zero ∨ covers target
      | none =>
        if session.nextAssigned ≠ session.nextAdvance then false
        else if (meter.lastVoucher sessionID session).isNone then session.snapshot = Snapshot.zero
        else covers session.snapshot

/-- `invalidateRelaySessionForSession`; the zero identifier matches every session. -/
def invalidateRelaySession (meter : NatMeter) (relayAddr : String) (expectedSessionID : Identifier) :
    NatMeter :=
  let current := meter.relaySessions.get relayAddr
  if relayAddr = "" ∨ (expectedSessionID ≠ Bytes32.zero ∧ current ≠ some expectedSessionID) then meter
  else if ∃ sessionID ∈ current, sessionID ∈ meter.invalidSessions then meter
  else { meter with
    invalidSessions := match current with
      | some sessionID => insert sessionID meter.invalidSessions
      | none => meter.invalidSessions
    relayInvalidation := meter.relayInvalidation.set relayAddr
      (add64 ((meter.relayInvalidation.get relayAddr).getD 0) 1) }

/-- The session that the Relay address is bound to is replaced. -/
def bind (meter : NatMeter) (relayAddr : String) (sessionID : Identifier) : NatMeter :=
  { meter with
    invalidSessions := match meter.relaySessions.get relayAddr with
      | some previousID =>
        if previousID ≠ sessionID then insert previousID meter.invalidSessions
        else meter.invalidSessions
      | none => meter.invalidSessions
    relaySessions := meter.relaySessions.set relayAddr sessionID }

/-- The case of `activateRelaySessionWithState` in which an invalid session meets the Relay's
watermark (`billing_meter.go:523-564`). -/
def reactivate (meter : NatMeter) (relayAddr : String) (sessionID : Identifier)
    (existing : NatSession) (relayState : Snapshot) : Except NatError (SessionStatus × NatMeter) := do
  let (result, session) ← existing.reconcile (meter.lastVoucher sessionID existing) relayState
  let meter := meter.setSession sessionID session
  if result.draining then
    return (⟨true, false, true, result.target, result.recoveryVoucher⟩, meter)
  else if result.rotationRequired then
    return (⟨false, true, false, result.target, result.recoveryVoucher⟩, { meter with
      rotationTargets := meter.rotationTargets.set sessionID result.target
      rotationSettled :=
        if result.recoveryVoucher.isSome ∨ result.target = Snapshot.zero then
          meter.rotationSettled.set sessionID result.target
        else meter.rotationSettled })
  else
    let meter := { meter with
      invalidSessions := meter.invalidSessions.erase sessionID
      rotationTargets := meter.rotationTargets.delete sessionID
      rotationSettled := meter.rotationSettled.delete sessionID }
    return (⟨true, false, false, session.snapshot, result.recoveryVoucher⟩,
      meter.bind relayAddr sessionID)

/-- The case of `activateRelaySessionWithState` in which the session is known
(`billing_meter.go:513-582`). -/
def activateExisting (meter : NatMeter) (relayAddr : String) (sessionID : Identifier)
    (existing : NatSession) (relayState : Option Snapshot) :
    Except NatError (SessionStatus × NatMeter) := do
  let reset : SessionStatus := ⟨false, true, false, Snapshot.zero, none⟩
  let resumed : SessionStatus := ⟨true, false, false, existing.snapshot, none⟩
  let invalid : Bool := sessionID ∈ meter.invalidSessions
  check (existing.nextAdvance = 0) .sessionStateUnavailable
  match relayState with
  | none =>
    if invalid then return (reset, meter)
    else do
      check (meter.relaySessions.get relayAddr ≠ some sessionID) .watermarkRequired
      return (resumed, meter.bind relayAddr sessionID)
  | some state =>
    if invalid then meter.reactivate relayAddr sessionID existing state
    else do
      check (state ≠ existing.snapshot) .watermarkDiffers
      return (resumed, meter.bind relayAddr sessionID)

/-- `activateRelaySessionWithState` behind the parsing of its arguments
(`billing_meter.go:496-606`). -/
def activateSession (meter : NatMeter) (relayAddr : String) (sessionID relayID : Identifier)
    (relayState : Option Snapshot) : Except NatError (SessionStatus × NatMeter) := do
  let reset : SessionStatus := ⟨false, true, false, Snapshot.zero, none⟩
  let existing := meter.sessions.get sessionID
  check (∃ session ∈ existing, session.relayID ≠ relayID) .boundToAnotherRelay
  if sessionID ∈ meter.invalidSessions ∧ ¬ meter.sessionBound sessionID then return (reset, meter)
  else do
    check (∃ previousID ∈ meter.relaySessions.get relayAddr, previousID ≠ sessionID ∧
      ¬ meter.sessionSafeToReplace previousID) .replaceUncovered
    match existing with
    | some session => meter.activateExisting relayAddr sessionID session relayState
    | none =>
      if ∃ state ∈ relayState, state ≠ Snapshot.zero then do
        check (∃ state ∈ relayState, ¬ state.consistent) .freshWatermarkInconsistent
        return (reset, meter)
      else
        let session := NatSession.new relayID
        return (⟨false, false, false, session.snapshot, none⟩, { meter.setSession sessionID session with
          -- here the address' previous session is invalid even if it is this one
          invalidSessions := match meter.relaySessions.get relayAddr with
            | some previousID => insert previousID meter.invalidSessions
            | none => meter.invalidSessions
          relaySessions := meter.relaySessions.set relayAddr sessionID })

/-- `activateRelaySessionWithState`. -/
def activateRelaySessionWithState (C : Crypto) (meter : NatMeter)
    (relayAddr sessionHex relayPublicKeyHex : String) (relayState : Option Snapshot) :
    Except NatError (SessionStatus × NatMeter) := do
  check (relayAddr = "") .relayAddressRequired
  match parseIdentifierHex sessionHex with
  | none => .error .negotiatedSession
  | some sessionID =>
    match hexDecode relayPublicKeyHex with
    | none => .error .negotiatedRelayKey
    | some relayPublicKey => do
      check (¬ C.validPublicKey relayPublicKey) .negotiatedRelayKey
      meter.activateSession relayAddr sessionID (nodeIDFromPublicKey C relayPublicKey) relayState

/-! ## Vouchers -/

/-- The key that must have signed a claim (`billing_meter.go:1342-1377`). `verifier` is what the CA
verifier says about the certificate, `none` when the meter has no verifier. -/
def relaySigningKey (C : Crypto) (payerCertificate : Option SignedCert) (verifier : Option Bool)
    (relayID : Identifier) (claim : Claim) : Except NatError String :=
  match claim.relayCert with
  | none => do
    check (∃ payer ∈ payerCertificate, payer.cert.authorizationID ≠ "") .relayCertificate
    check (claim.relayBillingPublicKey ≠ "") .relayUncertifiedKey
    return claim.relayPublicKey
  | some relay => do
    check (relay.cert.subjectNodeID ≠ relayID.string ∨
      relay.cert.subjectPubKey ≠ claim.relayPublicKey ∨ relay.cert.role ≠ .relay) .relayCertificate
    check (verifier = some false) .verifyRelayCertificate
    check (verifier = none ∧ relay.cert.authorizationID ≠ "") .relayUntrusted
    (validateBillingBinding C relay.cert).mapError fun _ => .relayBinding
    if relay.cert.authorizationID = "" then do
      check (claim.relayBillingPublicKey ≠ "") .relayLegacyKey
      return claim.relayPublicKey
    else do
      check (claim.relayBillingPublicKey = "" ∨
        claim.relayBillingPublicKey ≠ relay.cert.billingPubKey) .relayKeyMismatch
      return claim.relayBillingPublicKey

/-- The checks of a claim before `cosign` locks the meter (`billing_meter.go:1326-1388`). -/
def claimedBody (C : Crypto) (payerID : Identifier) (payerCertificate : Option SignedCert)
    (verifier : Option Bool) (claim : Claim) : Except NatError VoucherBody := do
  let body ← (parseCanonicalBody claim.body).mapError .voucher
  check (body.payerNatID ≠ payerID ∨ body.direction ≠ directionPayerOutbound ∨
    body.authorizedThroughBytes ≠ maxBillableBytes ∨ body.policyDigest ≠ currentPolicyDigest C)
    .channelBinding
  check (nodeIDFromPubKeyHex C claim.relayPublicKey ≠ body.payeeRelayID.string) .relayIdentity
  let signingKey ← relaySigningKey C payerCertificate verifier body.payeeRelayID claim
  match hexDecode signingKey with
  | none => .error .relayPublicKey
  | some key => do
    check (¬ C.validPublicKey key) .relayPublicKey
    (verifyRelayBillingSignature C body claim.relaySignature key).mapError .voucher
    return body

/-- The place of a body in the channel's chain (`billing_meter.go:1406-1421`): whether it is the
last voucher's body once more. -/
def repeatsLast (C : Crypto) (last : Option MutualVoucher) (body : VoucherBody) :
    Except NatError Bool :=
  match last with
  | some last =>
    if body.sequence = last.body.sequence then do
      check ((body.bodyID C).toOption ≠ (last.body.bodyID C).toOption) .conflictingBody
      return true
    else do
      check (body.sequence ≠ add64 last.body.sequence 1 ∨
        (last.id C).toOption ≠ some body.previousMutualVoucherID) .predecessorChain
      return false
  | none => do
    check (body.sequence ≠ 1 ∨ body.previousMutualVoucherID ≠ Bytes32.zero) .firstVoucher
    return false

/-- What `cosign` changes in the session when it signs (`billing_meter.go:1446-1458`). -/
def cosigned (session : NatSession) (body : VoucherBody) (rotationClaim : Bool) : NatSession :=
  let session : NatSession := { session with cosignedRecordSequence := body.lastRecordSequence }
  let session : NatSession :=
    if rotationClaim then session
    else { session with
      claimableCumulative := match session.claimable.head? with
        | some first => session.claimableCumulative.erase first.cumulative
        | none => session.claimableCumulative
      claimable := session.claimable.tail }
  { session with
    snapshots := session.snapshots.retain fun cumulative => body.cumulativeUniqueBytes ≤ cumulative }

/-- The check of a new voucher against the last one, if there is one
(`billing_meter.go:1438-1442`). -/
def succeedsLast (C : Crypto) (last : Option MutualVoucher) (voucher : MutualVoucher) :
    Except NatError Unit :=
  match last with
  | some last => (validateSuccessor C last voucher).mapError .voucher
  | none => .ok ()

/-- The part of `cosign` that signs a body which is not the last voucher's
(`billing_meter.go:1422-1460`). -/
def signNext (C : Crypto) (meter : NatMeter) (session : NatSession) (last : Option MutualVoucher)
    (body : VoucherBody) (relaySignature : Bytes) : Except NatError (MutualVoucher × NatMeter) :=
  match session.snapshots.get body.cumulativeUniqueBytes with
  | none => .error .usageMismatch
  | some snapshot => do
    check (snapshot.lastRecord ≠ body.lastRecordID ∨
      snapshot.lastRecordSequence ≠ body.lastRecordSequence ∨
      snapshot.recordSet ≠ body.recordSetDigest) .usageMismatch
    let rotationClaim : Bool := meter.rotationTargets.get body.sessionID = some snapshot
    check (¬ rotationClaim ∧ session.claimable.head? ≠ some snapshot) .beforeThreshold
    let payerSignature ← (signPayerBilling C body meter.billingPrivateKey).mapError .voucher
    let voucher ← (newMutualVoucher C body payerSignature relaySignature).mapError .voucher
    succeedsLast C last voucher
    return (voucher, { meter with
      sessions := meter.sessions.set body.sessionID (cosigned session body rotationClaim)
      channels := meter.channels.set (body.sessionID, session.relayID) voucher
      rotationSettled :=
        if rotationClaim then meter.rotationSettled.set body.sessionID snapshot
        else meter.rotationSettled })

/-- `cosign` behind its second lock (`billing_meter.go:1393-1460`). -/
def cosignBody (C : Crypto) (meter : NatMeter) (body : VoucherBody) (relaySignature : Bytes) :
    Except NatError (MutualVoucher × NatMeter) :=
  match meter.sessions.get body.sessionID with
  | none => .error .voucherSession
  | some session => do
    check (session.relayID ≠ body.payeeRelayID) .voucherRelay
    let last := meter.lastVoucher body.sessionID session
    let repeated ← repeatsLast C last body
    match repeated, last with
    | true, some last => return (last, meter)
    | _, last => meter.signNext C session last body relaySignature

/-- `cosign`, with the certificate that it reads first and the verifier's answer. -/
def cosign (C : Crypto) (meter : NatMeter) (payerCertificate : Option SignedCert)
    (verifier : Option Bool) (claim : Claim) : Except NatError (MutualVoucher × NatMeter) := do
  let body ← claimedBody C meter.payerID payerCertificate verifier claim
  meter.cosignBody C body claim.relaySignature

end NatMeter

/-! ## Stand-ins

A payer and a Relay to evaluate the model with. -/

def samplePayerKey : Bytes := [1]

def sampleRelayKey : Bytes := [2]

def samplePayerID : Identifier :=
  nodeIDFromPublicKey .sample (Crypto.sample.publicKey samplePayerKey)

def sampleRelayHex : String := hexEncode (Crypto.sample.publicKey sampleRelayKey)

def sampleSessionID : Identifier := Bytes32.copy [7]

def sampleServerCert : SignedCert where
  cert :=
    { subjectNodeID := samplePayerID.string
      subjectPubKey := hexEncode (Crypto.sample.publicKey samplePayerKey)
      role := .server
      notBefore := 0
      notAfter := 0
      nonce := ""
      issuer := ""
      authorizationID := ""
      billingKeyID := ""
      billingPubKey := ""
      billingUserID := "" }
  sig := ""

end NatP2P.Billing
