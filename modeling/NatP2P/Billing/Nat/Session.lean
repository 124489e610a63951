import NatP2P.Billing.Record
import NatP2P.Common.GoMap
import Mathlib

/-!
# The payer's billing session

Reference: `p2pnode/impl/natnode/billing_meter.go`, the parts that work on one `natBillingSession`.

A session assigns sequences to the messages it sends (`nextAssigned`), and advances over the sealed
records in the order of their sequences (`nextAdvance`); records that are sealed early wait in
`pending`. Behind every record it keeps a snapshot, and it marks as `claimable` the snapshots at
which the Relay is expected to ask for a voucher.
-/

namespace NatP2P.Billing

def maximumNatBillingEvidenceEntries : ℕ := 4096

def maximumNatBillingReconciliationSnapshots : ℕ := 65536

/-- `natBillingRecord`. -/
structure NatRecord where
  bytes : ℕ
  recordID : Identifier
deriving DecidableEq

/-- `natBillingSession`, without the time of the last send. -/
structure NatSession where
  relayID : Identifier
  nextAssigned : ℕ
  nextAdvance : ℕ
  confirmedSequence : ℕ
  confirmedOutOfOrder : Finset ℕ
  cosignedRecordSequence : ℕ
  assignedBytes : GoMap ℕ ℕ
  activeSends : Finset ℕ
  reconciliationDraining : Bool
  pending : GoMap ℕ NatRecord
  snapshots : GoMap ℕ Snapshot
  snapshotOrder : List ℕ
  claimable : List Snapshot
  claimableCumulative : Finset ℕ
  cumulative : ℕ
  lastRecord : Identifier
  recordSet : Digest

/-- What the methods of the meter fail with. -/
inductive NatError where
  | relayAddressRequired
  | negotiatedSession
  | negotiatedRelayKey
  | boundToAnotherRelay
  | replaceUncovered
  | sessionStateUnavailable
  | watermarkRequired
  | watermarkDiffers
  | freshWatermarkInconsistent
  | reconcileUnavailable
  | reconcilePending
  | reconcileInconsistent
  | reconcileVoucherConflict
  | reconcileNoEvidence
  | reconcileRollback
  | sessionNotReady
  | sessionReconciling
  | messageSize (bytes : ℕ)
  | negotiatedUnavailable
  | sequenceExhausted
  | assignedGap
  | confirmedWithoutEvidence
  | confirmationLimit
  | sealedRecord (reason : E2ERecordError)
  | metadataMismatch
  | record (reason : RecordError)
  | unknownSession
  | conflictingSequence
  | assignmentMismatch
  | pendingGap
  | pendingLimit
  | cumulativeOverflow
  | voucher (reason : VoucherError)
  | channelBinding
  | relayIdentity
  | relayCertificate
  | relayUncertifiedKey
  | verifyRelayCertificate
  | relayUntrusted
  | relayBinding
  | relayLegacyKey
  | relayKeyMismatch
  | relayPublicKey
  | voucherSession
  | voucherRelay
  | conflictingBody
  | predecessorChain
  | firstVoucher
  | usageMismatch
  | beforeThreshold
  | serverCertificate
  | certificateIdentity
  | certificateBinding
  | legacyCertificateKey
  | verifierRequired
  | certificateKey
deriving DecidableEq

namespace NatSession

/-- `newNatBillingSession` with its Relay. -/
def new (relayID : Identifier) : NatSession :=
  { relayID
    nextAssigned := 1
    nextAdvance := 1
    confirmedSequence := 0
    confirmedOutOfOrder := ∅
    cosignedRecordSequence := 0
    assignedBytes := .empty
    activeSends := ∅
    reconciliationDraining := false
    pending := .empty
    snapshots := .empty
    snapshotOrder := []
    claimable := []
    claimableCumulative := ∅
    cumulative := 0
    lastRecord := Bytes32.zero
    recordSet := Bytes32.zero }

/-- `natBillingSessionSnapshot`. -/
def snapshot (session : NatSession) : Snapshot :=
  ⟨session.cumulative, session.lastRecord, sub64 session.nextAdvance 1, session.recordSet⟩

/-! ## Sending (`billing_meter.go:1072-1168`) -/

/-- The part of `prepareWithLease` behind the lookup of the session: the session and the sequence
that the message is given. -/
def assign (session : NatSession) (billableBytes : ℕ) : Except NatError (ℕ × NatSession) := do
  let sequence := session.nextAssigned
  check (sequence = 0 ∨ sequence > maxSequence) .sequenceExhausted
  check (sequence < session.nextAdvance ∨
    sub64 sequence session.nextAdvance ≥ maximumNatBillingEvidenceEntries) .assignedGap
  return (sequence, { session with
    assignedBytes := session.assignedBytes.set sequence billableBytes
    activeSends := insert sequence session.activeSends
    nextAssigned := add64 session.nextAssigned 1 })

/-- The loop of `confirm` over the confirmations that came early, at most `fuel` times. -/
def confirmLoop : ℕ → NatSession → NatSession
  | 0, session => session
  | fuel + 1, session =>
    let next := session.confirmedSequence + 1
    if session.confirmedSequence < maxSequence ∧ next ∈ session.confirmedOutOfOrder then
      confirmLoop fuel { session with
        confirmedOutOfOrder := session.confirmedOutOfOrder.erase next
        confirmedSequence := next }
    else session

/-- `confirm` on the message's session. Each round of the loop uses up one early confirmation. -/
def confirm (session : NatSession) (sequence : ℕ) : Except NatError NatSession := do
  check (sequence ≥ session.nextAdvance ∨ sequence ≥ session.nextAssigned) .confirmedWithoutEvidence
  if sequence ≤ session.confirmedSequence then return session
  else if sequence = session.confirmedSequence + 1 then
    return confirmLoop session.confirmedOutOfOrder.card { session with confirmedSequence := sequence }
  else if sequence ∈ session.confirmedOutOfOrder then return session
  else do
    check (session.confirmedOutOfOrder.card ≥ maximumNatBillingEvidenceEntries) .confirmationLimit
    return { session with confirmedOutOfOrder := insert sequence session.confirmedOutOfOrder }

/-- `highestNatBillingConfirmedSequence`. -/
def highestConfirmedSequence (session : NatSession) : ℕ :=
  max session.confirmedSequence (session.confirmedOutOfOrder.sup id)

/-! ## Snapshots (`billing_meter.go:1265-1319`) -/

/-- `appendNatClaimableSnapshot`. -/
def appendClaimable (session : NatSession) (snapshot : Snapshot) : NatSession :=
  if snapshot = Snapshot.zero ∨ snapshot.cumulative ∈ session.claimableCumulative then session
  else { session with
    claimable := session.claimable ++ [snapshot]
    claimableCumulative := insert snapshot.cumulative session.claimableCumulative }

/-- The snapshots that `trimNatBillingSnapshots` moves to the end of the order instead of deleting
them. -/
def retains (session : NatSession) (oldest : ℕ) (snapshot : Snapshot) : Bool :=
  snapshot.lastRecordSequence = session.confirmedSequence ∨
    snapshot.lastRecordSequence ∈ session.confirmedOutOfOrder ∨
    snapshot.lastRecordSequence = session.cosignedRecordSequence ∨
    oldest ∈ session.claimableCumulative

/-- The first loop of `trimNatBillingSnapshots`. -/
def trimLoop (session : NatSession) (attempts : ℕ) : NatSession :=
  if session.snapshots.len ≤ maximumNatBillingReconciliationSnapshots then session
  else
    match _horder : session.snapshotOrder with
    | [] => session
    | oldest :: order =>
      match hget : session.snapshots.get oldest with
      | none => trimLoop { session with snapshotOrder := order } attempts
      | some snapshot =>
        if session.retains oldest snapshot then
          if attempts + 1 > order.length + 1 then
            { session with snapshotOrder := order ++ [oldest] }
          else trimLoop { session with snapshotOrder := order ++ [oldest] } (attempts + 1)
        else
          trimLoop { session with
            snapshotOrder := order, snapshots := session.snapshots.delete oldest } 0
-- a deletion makes the map smaller, a stale position makes the order shorter, and an order that is
-- only turned is turned once around
termination_by (session.snapshots.len, session.snapshotOrder.length,
  session.snapshotOrder.length + 1 - attempts)
decreasing_by
  · refine Prod.Lex.right _ (Prod.Lex.left _ _ ?_)
    rw [_horder, List.length_cons]
    omega
  · refine Prod.Lex.right _ ?_
    have hlength : session.snapshotOrder.length = (order ++ [oldest]).length := by
      rw [_horder, List.length_cons, List.length_append, List.length_singleton]
    rw [hlength]
    refine Prod.Lex.right _ ?_
    rw [List.length_append, List.length_singleton]
    omega
  · refine Prod.Lex.left _ _ ?_
    have hlen := GoMap.len_delete_of_get hget
    omega

/-- `trimNatBillingSnapshots`. -/
def trimSnapshots (session : NatSession) : NatSession :=
  let session :=
    if session.snapshots.len ≤ maximumNatBillingReconciliationSnapshots then session
    else session.trimLoop 0
  if session.snapshotOrder.length ≤ 2 * maximumNatBillingReconciliationSnapshots then session
  else { session with
    snapshotOrder := session.snapshotOrder.filter fun cumulative =>
      (session.snapshots.get cumulative).isSome }

/-! ## Observing sealed records (`billing_meter.go:1194-1263`) -/

/-- The start of the window that the next voucher covers: the last claimable snapshot, or else the
last voucher. -/
def windowBase (session : NatSession) (lastVoucher : Option MutualVoucher) : ℕ :=
  match session.claimable.getLast? with
  | some snapshot => snapshot.cumulative
  | none => match lastVoucher with
    | some voucher => voucher.body.cumulativeUniqueBytes
    | none => 0

/-- The watermark moves to a new snapshot, which is claimable if its window is full
(`billing_meter.go:1246-1258`). -/
def moveTo (session : NatSession) (snapshot : Snapshot) (full : Bool) : NatSession :=
  let moved : NatSession := { session with
    cumulative := snapshot.cumulative
    lastRecord := snapshot.lastRecord
    recordSet := snapshot.recordSet
    snapshots := session.snapshots.set snapshot.cumulative snapshot
    snapshotOrder := session.snapshotOrder ++ [snapshot.cumulative] }
  (if full then moved.appendClaimable snapshot else moved).trimSnapshots

/-- The record at `nextAdvance` is done with. -/
def passNext (session : NatSession) : NatSession :=
  { session with
    assignedBytes := session.assignedBytes.delete session.nextAdvance
    pending := session.pending.delete session.nextAdvance
    nextAdvance := add64 session.nextAdvance 1 }

/-- One round of the loop of `observe`, with the record at `nextAdvance`: the error that ends the
loop, if any, and the session. An error of `Advance` leaves the new watermark in place and the
record pending. -/
def advanceNext (C : Crypto) (lastVoucher : Option MutualVoucher) (session : NatSession)
    (next : NatRecord) : Option NatError × NatSession :=
  if session.cumulative > sub64 maxBillableBytes next.bytes then (some .cumulativeOverflow, session)
  else
    let windowBytes := sub64 session.cumulative (session.windowBase lastVoucher)
    let cut : Bool := windowBytes > 0 ∧ next.bytes > sub64 cumulativeWindowBytes windowBytes
    let windowBase := if cut then session.cumulative else session.windowBase lastVoucher
    let marked := if cut then session.appendClaimable session.snapshot else session
    let cumulative := add64 session.cumulative next.bytes
    match advance C session.recordSet next.recordID session.nextAdvance next.bytes with
    | .error reason =>
      (some (.record reason), { marked with
        cumulative := cumulative, lastRecord := next.recordID, recordSet := Bytes32.zero })
    | .ok recordSet =>
      let snapshot : Snapshot := ⟨cumulative, next.recordID, session.nextAdvance, recordSet⟩
      let full : Bool := sub64 cumulative windowBase = cumulativeWindowBytes
      (none, (marked.moveTo snapshot full).passNext)

/-- The loop of `observe`, at most `fuel` times. -/
def drain (C : Crypto) (lastVoucher : Option MutualVoucher) :
    ℕ → NatSession → Except NatError Unit × NatSession
  | 0, session => (.ok (), session)
  | fuel + 1, session =>
    match session.pending.get session.nextAdvance with
    | none => (.ok (), session)
    | some next =>
      match session.advanceNext C lastVoucher next with
      | (some err, session) => (.error err, session)
      | (none, session) => drain C lastVoucher fuel session

/-- What `observe` does with a record: the record is put into `pending`, or there is
nothing to do. -/
def accept (session : NatSession) (sequence bytes : ℕ) (recordID : Identifier) :
    Except NatError (Option NatSession) :=
  match session.pending.get sequence with
  | some existing => do
    check (existing.bytes ≠ bytes ∨ existing.recordID ≠ recordID) .conflictingSequence
    return none
  | none =>
    if sequence < session.nextAdvance then .ok none
    else do
      check (session.assignedBytes.get sequence ≠ some bytes) .assignmentMismatch
      check (sequence > session.nextAdvance ∧
        sub64 sequence session.nextAdvance > maximumNatBillingEvidenceEntries) .pendingGap
      check (sequence > session.nextAdvance ∧
        session.pending.len ≥ maximumNatBillingEvidenceEntries) .pendingLimit
      return some { session with pending := session.pending.set sequence ⟨bytes, recordID⟩ }

/-- `observe` on the record's session. Each round of the loop uses up one pending record. -/
def observe (C : Crypto) (lastVoucher : Option MutualVoucher) (session : NatSession)
    (sequence bytes : ℕ) (recordID : Identifier) : Except NatError Unit × NatSession :=
  match session.accept sequence bytes recordID with
  | .error err => (.error err, session)
  | .ok none => (.ok (), session)
  | .ok (some accepted) => drain C lastVoucher accepted.pending.len accepted

end NatSession

/-! ## Reconciliation (`billing_meter.go:665-804`) -/

/-- `natBillingReconciliationResult`. -/
structure Reconciliation where
  target : Snapshot
  recoveryVoucher : Option MutualVoucher
  draining : Bool
  rotationRequired : Bool

namespace NatSession

/-- `locallyAssignedRelayAdvanceMatches`: whether the Relay is ahead by one record that was assigned
here, and whether the window is full with it. -/
def assignedAdvanceMatches (session : NatSession) (lastVoucher : Option MutualVoucher)
    (relayState : Snapshot) : Bool × Bool :=
  let current := session.snapshot
  if relayState.lastRecordSequence ≠ add64 current.lastRecordSequence 1 ∨
      relayState.lastRecordSequence < session.nextAdvance ∨
      relayState.lastRecordSequence ≥ session.nextAssigned then (false, false)
  else
    match session.assignedBytes.get relayState.lastRecordSequence with
    | none => (false, false)
    | some assignedBytes =>
      if current.cumulative > sub64 maxBillableBytes assignedBytes ∨
          add64 current.cumulative assignedBytes ≠ relayState.cumulative then (false, false)
      else if current.cumulative < session.windowBase lastVoucher then (false, false)
      else
        let windowBytes := sub64 current.cumulative (session.windowBase lastVoucher)
        if windowBytes > cumulativeWindowBytes ∨
            assignedBytes > sub64 cumulativeWindowBytes windowBytes then (false, false)
        else (true, add64 windowBytes assignedBytes = cumulativeWindowBytes)

/-- The watermark to adopt when the last voucher is ahead of the Relay or level with it, and the
voucher to recover with it (`billing_meter.go:686-711`). -/
def recoveryTarget (lastVoucher : Option MutualVoucher) (relayState : Snapshot) :
    Except NatError (Option MutualVoucher × Snapshot) :=
  match lastVoucher with
  | none => .ok (none, relayState)
  | some voucher =>
    let body := voucher.body
    if (relayState.lastRecordSequence < body.lastRecordSequence ∧
        relayState.cumulative < body.cumulativeUniqueBytes) ∨ relayState = body.watermark then
      .ok (some voucher, body.watermark)
    else if relayState.lastRecordSequence > body.lastRecordSequence ∧
        relayState.cumulative > body.cumulativeUniqueBytes then .ok (none, relayState)
    else .error .reconcileVoucherConflict

/-- What a successful reconciliation changes (`billing_meter.go:752-787`). -/
def adopt (session : NatSession) (target : Snapshot) (assignedAdvance claimable : Bool) :
    NatSession :=
  let current := session.snapshot
  let session := if assignedAdvance then
      let session : NatSession := { session with
        snapshots := session.snapshots.set target.cumulative target
        snapshotOrder := session.snapshotOrder ++ [target.cumulative] }
      if claimable then session.appendClaimable target else session
    else session
  let session : NatSession := if target = current then session else { session with
    cumulative := target.cumulative
    lastRecord := target.lastRecord
    recordSet := target.recordSet
    nextAdvance := add64 target.lastRecordSequence 1 }
  { session with
    nextAssigned := session.nextAdvance
    confirmedSequence := target.lastRecordSequence
    confirmedOutOfOrder := ∅
    assignedBytes := .empty
    reconciliationDraining := false
    snapshots := session.snapshots.retain fun cumulative => cumulative ≤ target.cumulative
    claimable := session.claimable.filter fun snapshot => snapshot.cumulative ≤ target.cumulative
    claimableCumulative := session.claimableCumulative \
      ((session.claimable.filter fun snapshot => target.cumulative < snapshot.cumulative).map
        Snapshot.cumulative).toFinset }

/-- `reconcileRelaySessionStateLocked`. -/
def reconcile (lastVoucher : Option MutualVoucher) (session : NatSession) (relayState : Snapshot) :
    Except NatError (Reconciliation × NatSession) := do
  check (session.nextAdvance = 0) .reconcileUnavailable
  check (session.pending.len ≠ 0) .reconcilePending
  check (¬ relayState.consistent) .reconcileInconsistent
  let current := session.snapshot
  let (recoveryVoucher, target) ← recoveryTarget lastVoucher relayState
  let unproved : Bool := recoveryVoucher.isNone ∧ relayState ≠ current ∧
    relayState ≠ Snapshot.zero ∧ session.snapshots.get relayState.cumulative ≠ some relayState
  let (assignedAdvance, claimable) :=
    if unproved then session.assignedAdvanceMatches lastVoucher relayState else (false, false)
  check (unproved ∧ ¬ assignedAdvance) .reconcileNoEvidence
  check (target.lastRecordSequence < session.highestConfirmedSequence) .reconcileRollback
  if session.activeSends ≠ ∅ then
    return (⟨target, recoveryVoucher, true, false⟩, { session with reconciliationDraining := true })
  else if target.lastRecordSequence < current.lastRecordSequence ∨ (¬ assignedAdvance ∧
      (session.nextAssigned ≠ session.nextAdvance ∨ session.assignedBytes.len ≠ 0)) then
    return (⟨target, recoveryVoucher, false, true⟩, session)
  else
    return (⟨target, recoveryVoucher, false, false⟩, session.adopt target assignedAdvance claimable)

end NatSession

end NatP2P.Billing
