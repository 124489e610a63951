import NatP2P.Billing.Nat.Meter
import NatP2P.Billing.Relay.Session
import NatP2P.Common.Run
import Mathlib

/-!
# The Relay's billing pipeline

Reference: `p2pnode/impl/relaynode/billing_pipeline.go` and
`p2pnode/impl/relaynode/admission_register.go`.

The pipeline keeps its sessions, the control peers and the settlement queue, and many goroutines
work on it. `Pipeline.step` is one uninterrupted piece of work of one of them. A goroutine that
calls `observeRecord` or `installRecoveredVoucher` holds the lock of its session while it waits for
the payer or for the queue; what it has in hand is its `Holder`. A goroutine that settles a session
before a rotation does not hold the lock; where it stands is its `Settlement`.

The accounts, the control peers and the poison flag are also written by goroutines that are not
modelled; `Event.environment` stands for all of them. A call that waits for a lock is represented by
the step in which it gets it. Session identifiers come from `rand.Read` and are taken to be new.
-/

namespace NatP2P.Billing

/-! ## Accounts (`admission_register.go:28-136`) -/

/-- `natAccount`: the fields that the pipeline uses. -/
structure Account where
  role : Role
  cert : Option SignedCert
  uplinkBytes : ℤ
  cutoff : Bool

/-- `accountStore`. -/
abbrev AccountStore := GoMap String Account

namespace AccountStore

/-- `accountStore.role`; an unknown node has the empty role. -/
def role (accounts : AccountStore) (nodeID : String) : Role :=
  match accounts.get nodeID with
  | some account => account.role
  | none => .other ""

/-- `accountStore.cert`. -/
def cert (accounts : AccountStore) (nodeID : String) : Option SignedCert :=
  (accounts.get nodeID).bind Account.cert

/-- `addUplink`, which creates the account if there is none. -/
def addUplink (accounts : AccountStore) (nodeID : String) (delta : ℤ) : AccountStore :=
  let account := (accounts.get nodeID).getD ⟨.other "", none, 0, false⟩
  GoMap.set accounts nodeID { account with uplinkBytes := account.uplinkBytes + delta }

/-- `isCutoff`. -/
def isCutoff (accounts : AccountStore) (nodeID : String) : Bool :=
  match accounts.get nodeID with
  | some account => account.cutoff
  | none => false

end AccountStore

/-! ## Goroutines -/

/-- The arguments and variables of `observeRecord` while it waits for a voucher. -/
structure Held where
  nodeID : String
  sequence : ℕ
  record : RelayRecord
  candidate : Option Snapshot

/-- A goroutine that holds a session's lock: it waits for the payer's answer to a claim, the voucher
of a claim is in the queue, or a recovered voucher is. -/
inductive Holder where
  | claiming (held : Held) (body : VoucherBody)
  | queued (held : Held) (voucher : MutualVoucher)
  | recovering (voucher : MutualVoucher)

/-- Where the settlement before a rotation stands (`billing_pipeline.go:561-596`). -/
inductive Settlement where
  | begun
  | snapshot (state : Snapshot)
  | claiming (state : Snapshot) (body : VoucherBody)
  | queued (state : Snapshot) (voucher : MutualVoucher)

/-- `relayBillingPipeline`, with the accounts of its node and the goroutines that are at work. A
control peer is the session that it was installed for; a settlement has a number besides its
session. -/
structure Pipeline where
  fatal : Option PipelineFault
  queue : Queue
  sessions : GoMap Identifier RelaySession
  currentByPayer : GoMap Identifier Identifier
  controls : GoMap Identifier Identifier
  accounts : AccountStore
  holders : GoMap Identifier Holder
  settlements : GoMap (Identifier × ℕ) Settlement

/-- `networkFrameWork.BillableRecord`. -/
structure BillableRecord where
  nodeID : String
  direction : String
  sessionID : Identifier
  sequence : ℕ
  bytes : ℕ
  recordID : Identifier

/-- What a step makes known: nothing, the result of a call of `observeRecord` that has not charged
its record, a claim to the payer, a voucher in the queue, or a charged record. -/
inductive Output where
  | nothing
  | returned (result : Except RelayError Unit)
  | requested (sessionID : Identifier) (body : VoucherBody)
  | queued (voucher : MutualVoucher)
  | recovered (voucher : MutualVoucher)
  | charged (sessionID : Identifier) (sequence : ℕ) (record : RelayRecord)

namespace Pipeline

/-- `operational`. -/
def operational (pipeline : Pipeline) : Except RelayError Unit :=
  match pipeline.fatal with
  | some fault => .error (.fatal fault)
  | none => .ok ()

/-- `poison`. -/
def poison (pipeline : Pipeline) (fault : PipelineFault) : Pipeline :=
  { pipeline with fatal := some (pipeline.fatal.getD fault) }

/-- The session's data changes. -/
def setSession (pipeline : Pipeline) (session : RelaySession) : Pipeline :=
  { pipeline with sessions := pipeline.sessions.set session.sessionID session }

/-- `session.mu.Unlock`. -/
def unlock (pipeline : Pipeline) (sessionID : Identifier) : Pipeline :=
  { pipeline with holders := pipeline.holders.delete sessionID }

/-- A goroutine stops with the lock of a session in hand. -/
def hold (pipeline : Pipeline) (sessionID : Identifier) (holder : Holder) : Pipeline :=
  { pipeline with holders := pipeline.holders.set sessionID holder }

def setSettlement (pipeline : Pipeline) (sessionID : Identifier) (thread : ℕ)
    (settlement : Settlement) : Pipeline :=
  { pipeline with settlements := pipeline.settlements.set (sessionID, thread) settlement }

/-- `acceptControl` returns or goes on without its settlement. -/
def endSettlement (pipeline : Pipeline) (sessionID : Identifier) (thread : ℕ) : Pipeline :=
  { pipeline with settlements := pipeline.settlements.delete (sessionID, thread) }

/-- Whether `controlFor` finds a peer. -/
def hasControl (pipeline : Pipeline) (payerID sessionID : Identifier) : Bool :=
  pipeline.controls.get payerID = some sessionID

/-! ## Records (`billing_pipeline.go:857-988`) -/

/-- `observeRecord` in front of the session's lock. -/
def admitRecord (pipeline : Pipeline) (record : BillableRecord) :
    Except RelayError RelaySession := do
  pipeline.operational
  check (record.direction ≠ "relay_to_clients") .direction
  check (pipeline.accounts.role record.nodeID ≠ .server) .notServer
  match parseIdentifierHex record.nodeID with
  | none => .error .payerIdentity
  | some payerID => do
    check (pipeline.accounts.isCutoff record.nodeID) .cutOff
    check (record.sessionID = Bytes32.zero ∨ record.sequence = 0 ∨ record.bytes = 0 ∨
      record.bytes > cumulativeWindowBytes ∨ record.recordID = Bytes32.zero) .invalidRecord
    match pipeline.sessions.get record.sessionID with
    | none => .error .unnegotiatedSession
    | some session => do
      check (session.payerID ≠ payerID) .unnegotiatedSession
      check (¬ pipeline.hasControl payerID record.sessionID) .controlUnavailable
      return session

/-- `issueVoucher` up to the claim: the body that is asked for. -/
def requestVoucher (C : Crypto) (node : RelayNode) (pipeline : Pipeline) (session : RelaySession)
    (snapshot : Snapshot) : Except RelayError VoucherBody := do
  check (¬ pipeline.hasControl session.payerID session.sessionID) .controlUnavailable
  let body ← nextVoucherBody C node.relayID session.payerID session.sessionID session.lastVoucher
    snapshot
  let _ ← claimMessage C node body
  return body

/-- What comes of a call of `observeRecord` that has got as far as `progress`. -/
def follow (C : Crypto) (node : RelayNode) (pipeline : Pipeline) (nodeID : String) (sequence : ℕ)
    (record : RelayRecord) : RelaySession.Progress → Pipeline × Output
  | .returned result session =>
    ((pipeline.setSession session).unlock session.sessionID, .returned result)
  | .charged session =>
    let pipeline := (pipeline.setSession session).unlock session.sessionID
    ({ pipeline with accounts := pipeline.accounts.addUplink nodeID record.bytes },
      .charged session.sessionID sequence record)
  | .claim session snapshot candidate =>
    match pipeline.requestVoucher C node session snapshot with
    | .error err =>
      ((pipeline.setSession session).unlock session.sessionID, .returned (.error err))
    | .ok body =>
      ((pipeline.setSession session).hold session.sessionID
        (.claiming ⟨nodeID, sequence, record, candidate⟩ body), .requested session.sessionID body)

/-- `observeRecord` up to its first claim, if it gets the session's lock. -/
def observeRecord (C : Crypto) (node : RelayNode) (pipeline : Pipeline) (record : BillableRecord) :
    Pipeline × Output :=
  match pipeline.admitRecord record with
  | .error err => (pipeline, .returned (.error err))
  | .ok session =>
    match pipeline.holders.get record.sessionID with
    | some _ => (pipeline, .nothing)
    | none => pipeline.follow C node record.nodeID record.sequence ⟨record.bytes, record.recordID⟩
        (session.observeLocked C record.sequence ⟨record.bytes, record.recordID⟩)

/-! ## Claims (`billing_pipeline.go:1031-1101`) -/

/-- What the payer's side and the CA verifier contribute to the end of `issueVoucherWithClaim`, and
what the disk does: `answer` is `none` when the claim fails on the way. -/
structure Response where
  answer : Option ClaimAnswer
  verifier : Option Bool
  append : AppendOutcome

/-- The end of `issueVoucherWithClaim`: the envelope goes into the queue. -/
def persistGrowth (C : Crypto) (J : EnvelopeJson) (pipeline : Pipeline) (append : AppendOutcome)
    (envelope : Envelope) : Except RelayError MutualVoucher × Pipeline :=
  match pipeline.queue.enqueueEnvelope C J append envelope with
  | (.ok (), queue) => (.ok envelope.voucher, { pipeline with queue := queue })
  | (.error err, queue) =>
    if err = .full ∨ err = .payerFull then
      (.error (.capacity err), { pipeline with queue := queue })
    else
      let pipeline := { pipeline with queue := queue }.poison (.persistGrowth err)
      (.error (.fatal (pipeline.fatal.getD (.persistGrowth err))), pipeline)

/-- `issueVoucherWithClaim` from its claim on. -/
def finishClaim (C : Crypto) (J : EnvelopeJson) (node : RelayNode) (pipeline : Pipeline)
    (payerID : Identifier) (body : VoucherBody) (response : Response) :
    Except RelayError MutualVoucher × Pipeline :=
  match response.answer with
  | none => (.error .transport, pipeline)
  | some answer =>
    match acceptAnswer C node body answer response.verifier
        (pipeline.accounts.cert payerID.string) with
    | .error err => (.error err, pipeline)
    | .ok envelope => pipeline.persistGrowth C J response.append envelope

/-- The goroutine that waits for the payer with the session's lock gets its answer. -/
def answerRecord (C : Crypto) (J : EnvelopeJson) (node : RelayNode) (pipeline : Pipeline)
    (sessionID : Identifier) (response : Response) : Pipeline × Output :=
  match pipeline.holders.get sessionID with
  | some (.claiming held body) =>
    match pipeline.finishClaim C J node body.payerNatID body response with
    | (.error err, pipeline) => (pipeline.unlock sessionID, .returned (.error err))
    | (.ok voucher, pipeline) =>
      (pipeline.hold sessionID (.queued held voucher), .queued voucher)
  | _ => (pipeline, .nothing)

/-! ## Recovered vouchers (`billing_pipeline.go:634-716`) -/

/-- `installRecoveredVoucher` up to the queue, if it gets the session's lock. -/
def recoverVoucher (C : Crypto) (J : EnvelopeJson) (node : RelayNode) (pipeline : Pipeline)
    (sessionID : Identifier) (advertised : Snapshot) (voucher : MutualVoucher)
    (payer : PayerIdentity) (append : AppendOutcome) : Pipeline × Output :=
  match pipeline.sessions.get sessionID, pipeline.holders.get sessionID with
  | some session, none =>
    match checkRecoveredVoucher C node session voucher payer, session.recoverLocked C advertised
        voucher with
    | .ok (), .ok true =>
      match pipeline.queue.enqueueEnvelope C J append
          ⟨voucher, payer.publicKeyHex, payer.billingPublicKeyHex, some payer.certificate⟩ with
      | (.ok (), queue) =>
        ({ pipeline with queue := queue }.hold sessionID (.recovering voucher), .recovered voucher)
      | (.error err, queue) =>
        let pipeline := { pipeline with queue := queue }
        if err = .duplicate then
          (pipeline.hold sessionID (.recovering voucher), .recovered voucher)
        else if err = .full ∨ err = .payerFull then
          (pipeline, .returned (.error (.retainRecovered err)))
        else
          (pipeline.poison (.persistRecovered err), .returned (.error (.retainRecovered err)))
    | _, _ => (pipeline, .nothing)
  | _, _ => (pipeline, .nothing)

/-- The goroutine that holds the session's lock goes on behind the queue. -/
def resume (C : Crypto) (node : RelayNode) (pipeline : Pipeline) (sessionID : Identifier) :
    Pipeline × Output :=
  match pipeline.sessions.get sessionID, pipeline.holders.get sessionID with
  | some session, some (.queued held voucher) =>
    pipeline.follow C node held.nodeID held.sequence held.record
      (session.resume C held.sequence held.record held.candidate voucher)
  | some session, some (.recovering voucher) =>
    let delta := sub64 voucher.body.cumulativeUniqueBytes session.cumulative
    let pipeline := (pipeline.setSession (session.restoreVoucher voucher)).unlock sessionID
    ({ pipeline with accounts := pipeline.accounts.addUplink session.payerID.string delta }, .nothing)
  | _, _ => (pipeline, .nothing)

/-! ## Settlements before a rotation (`billing_pipeline.go:561-596`) -/

/-- `acceptControl` finds that the session is not safe to rotate. -/
def beginSettlement (pipeline : Pipeline) (sessionID : Identifier) (thread : ℕ) : Pipeline × Output :=
  match pipeline.sessions.get sessionID, pipeline.holders.get sessionID,
      pipeline.settlements.get (sessionID, thread) with
  | some session, none, none =>
    if session.safeToRotate then (pipeline, .nothing)
    else (pipeline.setSettlement sessionID thread .begun, .nothing)
  | _, _, _ => (pipeline, .nothing)

/-- The settlement takes the session's watermark. -/
def snapshotSettlement (pipeline : Pipeline) (sessionID : Identifier) (thread : ℕ) :
    Pipeline × Output :=
  match pipeline.sessions.get sessionID, pipeline.holders.get sessionID,
      pipeline.settlements.get (sessionID, thread) with
  | some session, none, some .begun =>
    match session.controlSnapshot with
    | .error _ => (pipeline.endSettlement sessionID thread, .nothing)
    | .ok state => (pipeline.setSettlement sessionID thread (.snapshot state), .nothing)
  | _, _, _ => (pipeline, .nothing)

/-- The settlement asks for its voucher. It reads the last voucher without the lock. -/
def claimSettlement (C : Crypto) (node : RelayNode) (pipeline : Pipeline) (sessionID : Identifier)
    (thread : ℕ) : Pipeline × Output :=
  match pipeline.sessions.get sessionID, pipeline.settlements.get (sessionID, thread) with
  | some session, some (.snapshot state) =>
    match nextVoucherBody C node.relayID session.payerID session.sessionID session.lastVoucher state
      with
    | .error _ => (pipeline.endSettlement sessionID thread, .nothing)
    | .ok body =>
      match claimMessage C node body with
      | .error _ => (pipeline.endSettlement sessionID thread, .nothing)
      | .ok _ => (pipeline.setSettlement sessionID thread (.claiming state body),
          .requested sessionID body)
  | _, _ => (pipeline, .nothing)

/-- The settlement gets its answer. -/
def answerSettlement (C : Crypto) (J : EnvelopeJson) (node : RelayNode) (pipeline : Pipeline)
    (sessionID : Identifier) (thread : ℕ) (response : Response) : Pipeline × Output :=
  match pipeline.settlements.get (sessionID, thread) with
  | some (.claiming state body) =>
    match pipeline.finishClaim C J node body.payerNatID body response with
    | (.error _, pipeline) => (pipeline.endSettlement sessionID thread, .nothing)
    | (.ok voucher, pipeline) =>
      (pipeline.setSettlement sessionID thread (.queued state voucher), .queued voucher)
  | _ => (pipeline, .nothing)

/-- The settlement compares the session with its snapshot and installs its voucher. -/
def assignSettlement (pipeline : Pipeline) (sessionID : Identifier) (thread : ℕ) :
    Pipeline × Output :=
  match pipeline.sessions.get sessionID, pipeline.holders.get sessionID,
      pipeline.settlements.get (sessionID, thread) with
  | some session, none, some (.queued state voucher) =>
    if session.snapshot ≠ state ∨ session.blocked ≠ none ∨ session.hasPending then
      (pipeline.endSettlement sessionID thread, .returned (.error .settlementChanged))
    else
      ((pipeline.setSession (session.install voucher)).endSettlement sessionID thread, .nothing)
  | _, _, _ => (pipeline, .nothing)

/-! ## Sessions (`billing_pipeline.go:346-394, 1344-1354`) -/

/-- A random identifier, of which the zero one is changed. -/
def drawnSessionID (random : Identifier) : Identifier :=
  if random = Bytes32.zero then Bytes32.copy [1] else random

/-- A new session of the payer. -/
def addSession (pipeline : Pipeline) (payerID sessionID : Identifier) : Pipeline :=
  { pipeline.setSession (RelaySession.new payerID sessionID) with
    currentByPayer := pipeline.currentByPayer.set payerID sessionID }

/-- `sessionForPayer`. -/
def sessionForPayer (pipeline : Pipeline) (payerID random : Identifier) : Pipeline :=
  let sessionID := drawnSessionID random
  if (pipeline.currentByPayer.get payerID).isSome ∨ (pipeline.sessions.get sessionID).isSome then
    pipeline
  else pipeline.addSession payerID sessionID

/-- `rotateSessionForPayer`, if it gets the previous session's lock. -/
def rotateSessionForPayer (pipeline : Pipeline) (payerID previousID random : Identifier) : Pipeline :=
  let sessionID := drawnSessionID random
  if (∃ currentID ∈ pipeline.currentByPayer.get payerID, currentID ≠ previousID) ∨
      (pipeline.sessions.get sessionID).isSome then pipeline
  else
    match pipeline.sessions.get previousID, pipeline.holders.get previousID with
    | some previous, none =>
      if previous.payerID ≠ payerID ∨ previous.blocked ≠ none ∨ ¬ previous.safeToRotate then pipeline
      else (pipeline.setSession { previous with blocked := some .rotated }).addSession payerID
        sessionID
    | _, _ => pipeline

/-- `blockSession`, if it gets the session's lock. -/
def blockSession (pipeline : Pipeline) (sessionID : Identifier) (reason : SessionBlock) : Pipeline :=
  match pipeline.sessions.get sessionID, pipeline.holders.get sessionID with
  | some session, none => pipeline.setSession (session.block reason)
  | _, _ => pipeline

/-! ## Restart (`billing_pipeline.go:263-323`) -/

/-- One round of the loop of `restoreQueue`. -/
def restoreItem (C : Crypto) (node : RelayNode) (pipeline : Pipeline) (index : ℕ)
    (envelope : Envelope) : Except RelayError Pipeline := do
  let voucher := envelope.voucher
  check (envelope.payerCert = none ∨ envelope.payerPublicKey = "") (.itemIdentity index)
  check (voucher.body.payeeRelayID ≠ node.relayID) (.itemRelay index)
  let (signingKey, billingKey) ←
    (certificateSigningPublicKey C envelope.payerCert envelope.payerPublicKey).mapError fun _ =>
      .itemBillingIdentity index
  check (billingKey ≠ envelope.payerBillingPublicKey) (.itemBillingIdentity index)
  let payerPublicKey ← (parseBillingPublicKey C signingKey).mapError (.itemBillingKey index)
  (voucher.verifyBillingSignatures C payerPublicKey (C.publicKey node.billingPrivateKey)).mapError
    (.itemSignatures index)
  let session := (pipeline.sessions.get voucher.body.sessionID).getD
    (RelaySession.new voucher.body.payerNatID voucher.body.sessionID)
  check (session.payerID ≠ voucher.body.payerNatID) (.itemPayer index)
  match session.lastVoucher with
  | some last => (validateSuccessor C last voucher).mapError (.itemChain index)
  | none => .ok ()
  return { pipeline.setSession (session.restoreVoucher voucher) with
    currentByPayer := pipeline.currentByPayer.set session.payerID voucher.body.sessionID }

/-- The loop of `restoreQueue` from item `index` on. -/
def restoreItems (C : Crypto) (node : RelayNode) (pipeline : Pipeline) :
    ℕ → List Envelope → Except RelayError Pipeline
  | _, [] => .ok pipeline
  | index, envelope :: envelopes => do
    let pipeline ← pipeline.restoreItem C node index envelope
    restoreItems C node pipeline (index + 1) envelopes

/-- The pipeline that `newRelayBillingPipeline` fills in. -/
def blank (queue : Queue) : Pipeline :=
  { fatal := none
    queue
    sessions := .empty
    currentByPayer := .empty
    controls := .empty
    accounts := .empty
    holders := .empty
    settlements := .empty }

/-- `restoreQueue` of a new pipeline. -/
def restoreQueue (C : Crypto) (node : RelayNode) (queue : Queue) : Except RelayError Pipeline := do
  let envelopes ← queue.snapshotEnvelopes.mapError .snapshotQueue
  restoreItems C node (blank queue) 0 envelopes

/-- The limits of `newRelayBillingPipeline`. -/
def queueLimits : Limits := ⟨65536, 64 * 2 ^ 20, 4096, 8 * 2 ^ 20⟩

/-- The process dies and a new one starts on the file that it leaves. When that fails there is no
pipeline: nothing is in memory, and the queue is closed. -/
def restart (C : Crypto) (J : EnvelopeJson) (node : RelayNode) (pipeline : Pipeline)
    (outcome : WriteOutcome) : Pipeline :=
  match Queue.openFile C J queueLimits outcome (some pipeline.queue.file) with
  | (.ok queue, _) =>
    match restoreQueue C node queue with
    | .ok restored => restored
    | .error _ => blank queue.close
  | (.error _, file) => blank (Queue.blank queueLimits (file.getD pipeline.queue.file)).close

/-! ## Runs -/

/-- The steps of a pipeline. -/
inductive Event where
  | observe (record : BillableRecord)
  | answer (sessionID : Identifier) (response : Response)
  | recover (sessionID : Identifier) (advertised : Snapshot) (voucher : MutualVoucher)
      (payer : PayerIdentity) (append : AppendOutcome)
  | resume (sessionID : Identifier)
  | settleBegin (sessionID : Identifier) (thread : ℕ)
  | settleSnapshot (sessionID : Identifier) (thread : ℕ)
  | settleClaim (sessionID : Identifier) (thread : ℕ)
  | settleAnswer (sessionID : Identifier) (thread : ℕ) (response : Response)
  | settleAssign (sessionID : Identifier) (thread : ℕ)
  | openSession (payerID random : Identifier)
  | rotate (payerID previousID random : Identifier)
  | block (sessionID : Identifier) (reason : SessionBlock)
  | remove (voucherID : Identifier) (append : AppendOutcome) (compaction : WriteOutcome)
  | environment (fatal : Option PipelineFault) (controls : GoMap Identifier Identifier)
      (accounts : AccountStore)
  | restart (outcome : WriteOutcome)

/-- The removal in `submitPending` of a voucher that the CA has settled. -/
def removeHead (C : Crypto) (pipeline : Pipeline) (voucherID : Identifier) (append : AppendOutcome)
    (compaction : WriteOutcome) : Pipeline :=
  match pipeline.queue.removeChannelHead C append compaction voucherID with
  | (.ok (), queue) => { pipeline with queue := queue }
  | (.error err, queue) => { pipeline with queue := queue }.poison (.persistRemoval err)

/-- One step. -/
def step (C : Crypto) (J : EnvelopeJson) (node : RelayNode) (pipeline : Pipeline) :
    Event → Pipeline × Output
  | .observe record => pipeline.observeRecord C node record
  | .answer sessionID response => pipeline.answerRecord C J node sessionID response
  | .recover sessionID advertised voucher payer append =>
    pipeline.recoverVoucher C J node sessionID advertised voucher payer append
  | .resume sessionID => pipeline.resume C node sessionID
  | .settleBegin sessionID thread => pipeline.beginSettlement sessionID thread
  | .settleSnapshot sessionID thread => pipeline.snapshotSettlement sessionID thread
  | .settleClaim sessionID thread => pipeline.claimSettlement C node sessionID thread
  | .settleAnswer sessionID thread response =>
    pipeline.answerSettlement C J node sessionID thread response
  | .settleAssign sessionID thread => pipeline.assignSettlement sessionID thread
  | .openSession payerID random => (pipeline.sessionForPayer payerID random, .nothing)
  | .rotate payerID previousID random =>
    (pipeline.rotateSessionForPayer payerID previousID random, .nothing)
  | .block sessionID reason => (pipeline.blockSession sessionID reason, .nothing)
  | .remove voucherID append compaction =>
    (pipeline.removeHead C voucherID append compaction, .nothing)
  | .environment fatal controls accounts =>
    ({ pipeline with fatal := fatal, controls := controls, accounts := accounts }, .nothing)
  | .restart outcome => (pipeline.restart C J node outcome, .nothing)

/-- The pipeline behind a list of steps, and what they have made known. -/
def run (C : Crypto) (J : EnvelopeJson) (node : RelayNode) (pipeline : Pipeline)
    (events : List Event) : Pipeline × List Output :=
  runSteps (step C J node) pipeline events

end Pipeline

end NatP2P.Billing
