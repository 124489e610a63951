import NatP2P.Billing.Relay.Pipeline

/-!
# What a step does to one session

Most of what there is to say about a pipeline is about one of its sessions: its data, the goroutine
that holds its lock and its settlements. `SessionView.Moves` lists everything that a step can do to
these three, with the checks that have passed by then. Every step of the pipeline leaves a session
alone, opens it or makes one of these moves.
-/

namespace NatP2P.Billing

open RelaySession

variable {C : Crypto} {J : EnvelopeJson} {node : RelayNode} {pipeline pipeline' : Pipeline}
  {sessionID : Identifier} {output : Output} {snapshot : Snapshot} {body : VoucherBody}

/-- A session, the goroutine that holds its lock and its settlements. -/
structure SessionView where
  session : RelaySession
  holder : Option Holder
  settlement : ℕ → Option Settlement

/-- The session `sessionID` of a pipeline. -/
def Pipeline.view (pipeline : Pipeline) (sessionID : Identifier) : Option SessionView :=
  (pipeline.sessions.get sessionID).map fun session =>
    ⟨session, pipeline.holders.get sessionID,
      fun thread => pipeline.settlements.get (sessionID, thread)⟩

/-- A session that was just opened. -/
def SessionView.fresh (payerID sessionID : Identifier) : SessionView :=
  ⟨RelaySession.new payerID sessionID, none, fun _ => none⟩

/-- What `observeRecord` has checked of a record before it takes the lock. -/
structure RelayRecord.Admitted (sequence : ℕ) (record : RelayRecord) : Prop where
  sequence_pos : 0 < sequence
  bytes_pos : 0 < record.bytes
  bytes_le : record.bytes ≤ cumulativeWindowBytes
  recordID_ne : record.recordID ≠ Bytes32.zero

namespace SessionView

/-- The moves of a session. -/
inductive Moves (C : Crypto) (node : RelayNode) : SessionView → Output → SessionView → Prop
  | observeCharged {session session' : RelaySession} {settlement : ℕ → Option Settlement}
      {sequence : ℕ} {record : RelayRecord} (hrecord : record.Admitted sequence)
      (hobserve : session.observeLocked C sequence record = .charged session') :
      Moves C node ⟨session, none, settlement⟩ (.charged session.sessionID sequence record)
        ⟨session', none, settlement⟩
  | observeClaim {session session' : RelaySession} {settlement : ℕ → Option Settlement}
      {nodeID : String} {sequence : ℕ} {record : RelayRecord} {snapshot : Snapshot}
      {candidate : Option Snapshot} {body : VoucherBody} (hrecord : record.Admitted sequence)
      (hobserve : session.observeLocked C sequence record = .claim session' snapshot candidate)
      (hbody : nextVoucherBody C node.relayID session'.payerID session'.sessionID
        session'.lastVoucher snapshot = .ok body) :
      Moves C node ⟨session, none, settlement⟩ (.requested session.sessionID body)
        ⟨session', some (.claiming ⟨nodeID, sequence, record, candidate⟩ body), settlement⟩
  | refused {session : RelaySession} {settlement : ℕ → Option Settlement} {held : Held}
      {body : VoucherBody} {reason : RelayError} :
      Moves C node ⟨session, some (.claiming held body), settlement⟩ (.returned (.error reason))
        ⟨session, none, settlement⟩
  | answered {session : RelaySession} {settlement : ℕ → Option Settlement} {held : Held}
      {body : VoucherBody} {answer : ClaimAnswer} {verifier : Option Bool}
      {registered : Option SignedCert} {envelope : Envelope}
      (haccept : acceptAnswer C node body answer verifier registered = .ok envelope) :
      Moves C node ⟨session, some (.claiming held body), settlement⟩ (.queued envelope.voucher)
        ⟨session, some (.queued held envelope.voucher), settlement⟩
  | resumeCharged {session session' : RelaySession} {settlement : ℕ → Option Settlement} {held : Held}
      {voucher : MutualVoucher}
      (hresume : session.resume C held.sequence held.record held.candidate voucher =
        .charged session') :
      Moves C node ⟨session, some (.queued held voucher), settlement⟩
        (.charged session.sessionID held.sequence held.record) ⟨session', none, settlement⟩
  | resumeClaim {session session' : RelaySession} {settlement : ℕ → Option Settlement} {held : Held}
      {voucher : MutualVoucher} {snapshot : Snapshot} {candidate : Option Snapshot}
      {body : VoucherBody}
      (hresume : session.resume C held.sequence held.record held.candidate voucher =
        .claim session' snapshot candidate)
      (hbody : nextVoucherBody C node.relayID session'.payerID session'.sessionID
        session'.lastVoucher snapshot = .ok body) :
      Moves C node ⟨session, some (.queued held voucher), settlement⟩
        (.requested session.sessionID body)
        ⟨session', some (.claiming ⟨held.nodeID, held.sequence, held.record, candidate⟩ body),
          settlement⟩
  | resumeStopped {session : RelaySession} {settlement : ℕ → Option Settlement} {held : Held}
      {voucher : MutualVoucher} {result : Except RelayError Unit} (hheld : held.candidate = none) :
      Moves C node ⟨session, some (.queued held voucher), settlement⟩ (.returned result)
        ⟨session.install voucher, none, settlement⟩
  | recovered {session : RelaySession} {settlement : ℕ → Option Settlement} {advertised : Snapshot}
      {voucher : MutualVoucher} {payer : PayerIdentity}
      (hcheck : checkRecoveredVoucher C node session voucher payer = .ok ())
      (hrecover : session.recoverLocked C advertised voucher = .ok true) :
      Moves C node ⟨session, none, settlement⟩ (.recovered voucher)
        ⟨session, some (.recovering voucher), settlement⟩
  | restored {session : RelaySession} {settlement : ℕ → Option Settlement}
      {voucher : MutualVoucher} :
      Moves C node ⟨session, some (.recovering voucher), settlement⟩ .nothing
        ⟨session.restoreVoucher voucher, none, settlement⟩
  | settleBegun {session : RelaySession} {settlement : ℕ → Option Settlement} {thread : ℕ}
      (hthread : settlement thread = none) (hsafe : session.safeToRotate = false) :
      Moves C node ⟨session, none, settlement⟩ .nothing
        ⟨session, none, Function.update settlement thread (some .begun)⟩
  | settleSnapshot {session : RelaySession} {settlement : ℕ → Option Settlement} {thread : ℕ}
      {state : Snapshot} (hthread : settlement thread = some .begun)
      (hstate : session.controlSnapshot = .ok state) :
      Moves C node ⟨session, none, settlement⟩ .nothing
        ⟨session, none, Function.update settlement thread (some (.snapshot state))⟩
  | settleClaim {session : RelaySession} {holder : Option Holder}
      {settlement : ℕ → Option Settlement} {thread : ℕ} {state : Snapshot} {body : VoucherBody}
      (hthread : settlement thread = some (.snapshot state))
      (hbody : nextVoucherBody C node.relayID session.payerID session.sessionID session.lastVoucher
        state = .ok body) :
      Moves C node ⟨session, holder, settlement⟩ (.requested session.sessionID body)
        ⟨session, holder, Function.update settlement thread (some (.claiming state body))⟩
  | settleAnswered {session : RelaySession} {holder : Option Holder}
      {settlement : ℕ → Option Settlement} {thread : ℕ} {state : Snapshot} {body : VoucherBody}
      {answer : ClaimAnswer} {verifier : Option Bool} {registered : Option SignedCert}
      {envelope : Envelope} (hthread : settlement thread = some (.claiming state body))
      (haccept : acceptAnswer C node body answer verifier registered = .ok envelope) :
      Moves C node ⟨session, holder, settlement⟩ (.queued envelope.voucher)
        ⟨session, holder, Function.update settlement thread (some (.queued state envelope.voucher))⟩
  | settleAssigned {session : RelaySession} {settlement : ℕ → Option Settlement} {thread : ℕ}
      {state : Snapshot} {voucher : MutualVoucher}
      (hthread : settlement thread = some (.queued state voucher))
      (hstate : session.snapshot = state) (hblocked : session.blocked = none) :
      Moves C node ⟨session, none, settlement⟩ .nothing
        ⟨session.install voucher, none, Function.update settlement thread none⟩
  | settleEnded {session : RelaySession} {holder : Option Holder}
      {settlement : ℕ → Option Settlement} {thread : ℕ}
      (hqueued : ∀ state voucher, settlement thread ≠ some (.queued state voucher)) :
      Moves C node ⟨session, holder, settlement⟩ .nothing
        ⟨session, holder, Function.update settlement thread none⟩
  | settleRefused {session : RelaySession} {settlement : ℕ → Option Settlement} {thread : ℕ}
      {state : Snapshot} {voucher : MutualVoucher}
      (hthread : settlement thread = some (.queued state voucher))
      (hchanged : session.snapshot ≠ state ∨ session.blocked ≠ none ∨ session.hasPending) :
      Moves C node ⟨session, none, settlement⟩ (.returned (.error .settlementChanged))
        ⟨session, none, Function.update settlement thread none⟩
  | blocked {session : RelaySession} {settlement : ℕ → Option Settlement} {reason : SessionBlock}
      (hblocked : session.blocked = none ∨ session.blocked = some .rotated) :
      Moves C node ⟨session, none, settlement⟩ .nothing
        ⟨{ session with blocked := some reason }, none, settlement⟩

end SessionView

/-- The session that an output is about. -/
def Output.about : Output → Option Identifier
  | .nothing => none
  | .returned _ => none
  | .requested sessionID _ => some sessionID
  | .queued voucher => some voucher.body.sessionID
  | .recovered voucher => some voucher.body.sessionID
  | .charged sessionID _ _ => some sessionID

/-- The maps of a pipeline agree about the sessions. -/
structure Pipeline.Keyed (pipeline : Pipeline) : Prop where
  session : ∀ sessionID session, pipeline.sessions.get sessionID = some session →
    session.sessionID = sessionID
  holder : ∀ sessionID, pipeline.sessions.get sessionID = none →
    pipeline.holders.get sessionID = none
  settlement : ∀ sessionID thread, pipeline.sessions.get sessionID = none →
    pipeline.settlements.get (sessionID, thread) = none
  claiming : ∀ sessionID held body, pipeline.holders.get sessionID = some (.claiming held body) →
    body.sessionID = sessionID
  settling : ∀ sessionID thread state body,
    pipeline.settlements.get (sessionID, thread) = some (.claiming state body) →
      body.sessionID = sessionID

/-- The pipelines have the same entries for the session `sessionID`. -/
structure Pipeline.Agree (pipeline pipeline' : Pipeline) (sessionID : Identifier) : Prop where
  session : pipeline'.sessions.get sessionID = pipeline.sessions.get sessionID
  holder : pipeline'.holders.get sessionID = pipeline.holders.get sessionID
  settlement : ∀ thread, pipeline'.settlements.get (sessionID, thread) =
    pipeline.settlements.get (sessionID, thread)

/-- What a step from `pipeline` to `pipeline'` does to the session `sessionID`. -/
inductive Pipeline.Steps (C : Crypto) (node : RelayNode) (pipeline pipeline' : Pipeline)
    (output : Output) (sessionID : Identifier) : Prop
  | stays (hagree : pipeline.Agree pipeline' sessionID) (houtput : output.about ≠ some sessionID)
  | opens (payerID : Identifier) (hnone : pipeline.view sessionID = none)
      (hview : pipeline'.view sessionID = some (.fresh payerID sessionID))
      (houtput : output = .nothing)
  | moves (view view' : SessionView) (hview : pipeline.view sessionID = some view)
      (hview' : pipeline'.view sessionID = some view')
      (hmove : SessionView.Moves C node view output view')

/-! ## Progress of a record -/

namespace RelaySession

/-- The session that `observeRecord` leaves. -/
def Progress.session : Progress → RelaySession
  | .returned _ session => session
  | .claim session _ _ => session
  | .charged session => session

variable {session charged claimed : RelaySession} {sequence : ℕ} {record : RelayRecord}
  {candidate : Option Snapshot} {voucher : MutualVoucher} {progress : Progress}

/-- The watermark behind the record. -/
def nextSnapshot (session : RelaySession) (sequence : ℕ) (record : RelayRecord) (recordSet : Digest) :
    Snapshot :=
  ⟨add64 session.cumulative record.bytes, record.recordID, sequence, recordSet⟩

/-- The record fits behind the watermark, which then has the record set `recordSet`. -/
structure Follows (C : Crypto) (session : RelaySession) (sequence : ℕ) (record : RelayRecord)
    (recordSet : Digest) : Prop where
  fits : session.cumulative ≤ sub64 maxBillableBytes record.bytes
  advance : Billing.advance C session.recordSet record.recordID sequence record.bytes = .ok recordSet

section

variable (C session sequence record) (windowBytes : ℕ)

/-- `advanceRecordLocked` behind its first voucher fails, asks for a voucher behind the record or
charges the record. -/
inductive Advances : Progress → Prop
  | failed (err : RelayError) : Advances (.returned (.error err) session)
  | claims (recordSet : Digest) (hfollows : session.Follows C sequence record recordSet)
      (hfull : add64 windowBytes record.bytes = cumulativeWindowBytes) :
      Advances (.claim session (session.nextSnapshot sequence record recordSet)
        (some (session.nextSnapshot sequence record recordSet)))
  | charges (recordSet : Digest) (hfollows : session.Follows C sequence record recordSet)
      (hroom : add64 windowBytes record.bytes ≠ cumulativeWindowBytes) :
      Advances (.charged (session.commit sequence record
        (session.nextSnapshot sequence record recordSet)))

theorem advances_advanceWithin : session.Advances C sequence record windowBytes
    (session.advanceWithin C windowBytes sequence record) := by
  unfold advanceWithin
  by_cases hoverflow : session.cumulative > sub64 maxBillableBytes record.bytes
  · rw [if_pos hoverflow]
    exact .failed _
  · rw [if_neg hoverflow]
    split
    · exact .failed _
    · next recordSet hadvance =>
      have hfollows : session.Follows C sequence record recordSet :=
        ⟨Nat.not_lt.mp hoverflow, hadvance⟩
      split_ifs with hfull
      · exact .claims recordSet hfollows hfull
      · exact .charges recordSet hfollows hfull

/-- The window is too full for the record. -/
def Overfills (session : RelaySession) (record : RelayRecord) : Prop :=
  sub64 session.cumulative session.windowBase > 0 ∧
    record.bytes > sub64 cumulativeWindowBytes (sub64 session.cumulative session.windowBase)

/-- A record that is not the next one changes nothing. A voucher is asked for in front of the next
one when it does not fit, and otherwise it is advanced over. -/
inductive Observes : Progress → Prop
  | stays (result : Except RelayError Unit)
      (hfound : result = .ok () → session.recent.get sequence = some record) :
      Observes (.returned result session)
  | cuts (hfree : session.blocked = none) (hnext : sequence = session.nextRecordSequence)
      (hcut : session.Overfills record) : Observes (.claim session session.snapshot none)
  | advances {progress : Progress} (hfree : session.blocked = none)
      (hnext : sequence = session.nextRecordSequence) (hcut : ¬ session.Overfills record)
      (hadvances : session.Advances C sequence record (sub64 session.cumulative session.windowBase)
        progress) : Observes progress

theorem observes_observeLocked :
    session.Observes C sequence record (session.observeLocked C sequence record) := by
  unfold observeLocked
  cases hblocked : session.blocked with
  | some reason => exact .stays _ nofun
  | none =>
    split_ifs with hlt hrecent hgt hgap
    · exact .stays _ fun _ => hrecent
    · exact .stays _ nofun
    · exact .stays _ nofun
    · exact .stays _ nofun
    · have hnext : sequence = session.nextRecordSequence := by omega
      unfold advanceRecordLocked
      dsimp only
      split_ifs with hcut
      · exact .cuts hblocked hnext hcut
      · exact .advances hblocked hnext hcut (advances_advanceWithin ..)

end

/-- A record is charged at once when it is the next one and leaves room in the window. -/
theorem observeLocked_charged (h : session.observeLocked C sequence record = .charged charged) :
    session.blocked = none ∧ sequence = session.nextRecordSequence ∧ ¬ session.Overfills record ∧
      add64 (sub64 session.cumulative session.windowBase) record.bytes ≠ cumulativeWindowBytes ∧
      ∃ recordSet, session.Follows C sequence record recordSet ∧
        charged = session.commit sequence record
          (session.nextSnapshot sequence record recordSet) := by
  have hobserves := observes_observeLocked C session sequence record
  rw [h] at hobserves
  cases hobserves with
  | advances hfree hnext hcut hadvances =>
    cases hadvances with
    | charges recordSet hfollows hroom => exact ⟨hfree, hnext, hcut, hroom, recordSet, hfollows, rfl⟩

/-- A voucher is asked for in front of a record that is too large for the window, and behind one
that fills it. -/
theorem observeLocked_claim {candidate : Option Snapshot}
    (h : session.observeLocked C sequence record = .claim claimed snapshot candidate) :
    session.blocked = none ∧ sequence = session.nextRecordSequence ∧ claimed = session ∧
      (session.Overfills record ∧ snapshot = session.snapshot ∧ candidate = none ∨
        ¬ session.Overfills record ∧
          add64 (sub64 session.cumulative session.windowBase) record.bytes = cumulativeWindowBytes ∧
          ∃ recordSet, session.Follows C sequence record recordSet ∧
            snapshot = session.nextSnapshot sequence record recordSet ∧
            candidate = some snapshot) := by
  have hobserves := observes_observeLocked C session sequence record
  rw [h] at hobserves
  cases hobserves with
  | cuts hfree hnext hcut => exact ⟨hfree, hnext, rfl, .inl ⟨hcut, rfl, rfl⟩⟩
  | advances hfree hnext hcut hadvances =>
    cases hadvances with
    | claims recordSet hfollows hfull =>
      exact ⟨hfree, hnext, rfl, .inr ⟨hcut, hfull, recordSet, hfollows, rfl, rfl⟩⟩

/-- With its voucher a record is charged, unless it fills the next window on its own. -/
theorem resume_charged (h : session.resume C sequence record candidate voucher = .charged charged) :
    (candidate = none ∧ add64 0 record.bytes ≠ cumulativeWindowBytes ∧
        ∃ recordSet, session.Follows C sequence record recordSet ∧
          charged = (session.install voucher).commit sequence record
            (session.nextSnapshot sequence record recordSet)) ∨
      ∃ behind, candidate = some behind ∧
        charged = (session.install voucher).commit sequence record behind := by
  unfold resume at h
  cases candidate with
  | some behind =>
    cases h
    exact .inr ⟨behind, rfl, rfl⟩
  | none =>
    dsimp only at h
    have hadvances := advances_advanceWithin C (session.install voucher) sequence record 0
    rw [h] at hadvances
    cases hadvances with
    | charges recordSet hfollows hroom =>
      exact .inl ⟨rfl, hroom, recordSet, ⟨hfollows.fits, hfollows.advance⟩, rfl⟩

/-- A second voucher is asked for behind a record of the size of a window. -/
theorem resume_claim {behind : Option Snapshot}
    (h : session.resume C sequence record candidate voucher = .claim claimed snapshot behind) :
    candidate = none ∧ claimed = session.install voucher ∧
      add64 0 record.bytes = cumulativeWindowBytes ∧
      ∃ recordSet, session.Follows C sequence record recordSet ∧
        snapshot = session.nextSnapshot sequence record recordSet ∧ behind = some snapshot := by
  unfold resume at h
  cases candidate with
  | some candidate => cases h
  | none =>
    dsimp only at h
    have hadvances := advances_advanceWithin C (session.install voucher) sequence record 0
    rw [h] at hadvances
    cases hadvances with
    | claims recordSet hfollows hfull =>
      exact ⟨rfl, rfl, hfull, recordSet, ⟨hfollows.fits, hfollows.advance⟩, rfl, rfl⟩

/-- Until a voucher is installed, nothing but a charge changes the session. -/
theorem observeLocked_session (C : Crypto) (session : RelaySession) (sequence : ℕ)
    (record : RelayRecord) :
    (session.observeLocked C sequence record).session = session ∨
      ∃ candidate, session.observeLocked C sequence record =
        .charged (session.commit sequence record candidate) := by
  have hobserves := observes_observeLocked C session sequence record
  generalize session.observeLocked C sequence record = progress at hobserves
  cases hobserves with
  | stays | cuts => exact .inl rfl
  | advances hfree hnext hcut hadvances =>
    cases hadvances with
    | failed | claims => exact .inl rfl
    | charges => exact .inr ⟨_, rfl⟩

/-- With its voucher, `advanceRecordLocked` installs it and goes on. -/
theorem resume_session (C : Crypto) (session : RelaySession) (sequence : ℕ) (record : RelayRecord)
    (candidate : Option Snapshot) (voucher : MutualVoucher) :
    ((session.resume C sequence record candidate voucher).session = session.install voucher ∧
        candidate = none) ∨
      ∃ candidate', session.resume C sequence record candidate voucher =
        .charged ((session.install voucher).commit sequence record candidate') := by
  unfold resume
  cases candidate with
  | some candidate => exact .inr ⟨candidate, rfl⟩
  | none =>
    have hadvances := advances_advanceWithin C (session.install voucher) sequence record 0
    generalize (session.install voucher).advanceWithin C 0 sequence record = progress at hadvances
    cases hadvances with
    | failed | claims => exact .inl ⟨rfl, rfl⟩
    | charges => exact .inr ⟨_, rfl⟩

/-- What neither records nor vouchers change. -/
structure Frame (session session' : RelaySession) : Prop where
  payerID : session'.payerID = session.payerID
  sessionID : session'.sessionID = session.sessionID
  pending : session'.pending = session.pending
  pendingBytes : session'.pendingBytes = session.pendingBytes
  blocked : session'.blocked = session.blocked

theorem frame_observeLocked
    (h : session.observeLocked C sequence record = progress) : session.Frame progress.session := by
  rcases observeLocked_session C session sequence record with heq | ⟨candidate, heq⟩
  all_goals
    rw [← h, heq]
    exact ⟨rfl, rfl, rfl, rfl, rfl⟩

theorem frame_resume (h : session.resume C sequence record candidate voucher = progress) :
    session.Frame progress.session := by
  rcases resume_session C session sequence record candidate voucher with ⟨heq, -⟩ | ⟨_, heq⟩
  all_goals
    rw [← h, heq]
    exact ⟨rfl, rfl, rfl, rfl, rfl⟩

end RelaySession

/-! ## Bodies that are asked for -/

/-- What `issueVoucherWithClaim` puts into the body that it asks for behind the voucher `last`. -/
structure AsksFor (C : Crypto) (relayID payerID sessionID : Identifier)
    (last : Option MutualVoucher) (snapshot : Snapshot) (body : VoucherBody) : Prop where
  sessionID : body.sessionID = sessionID
  payer : body.payerNatID = payerID
  payee : body.payeeRelayID = relayID
  version : body.version = currentVersion
  direction : body.direction = directionPayerOutbound
  policy : body.policyDigest = currentPolicyDigest C
  authorized : body.authorizedThroughBytes = maxBillableBytes
  watermark : body.watermark = snapshot
  link : nextVoucherLink C last = .ok (body.sequence, body.previousMutualVoucherID)

theorem nextVoucherBody_ok {relayID payerID : Identifier} {last : Option MutualVoucher}
    (h : nextVoucherBody C relayID payerID sessionID last snapshot = .ok body) :
    AsksFor C relayID payerID sessionID last snapshot body := by
  unfold nextVoucherBody at h
  simp only [bind_ok_iff, exists_unit_iff, pure_ok_iff] at h
  obtain ⟨-, ⟨sequence, previousID⟩, hlink, rfl⟩ := h
  exact ⟨rfl, rfl, rfl, rfl, rfl, rfl, rfl, rfl, hlink⟩

/-- An accepted answer has a valid and signed voucher over the body that was asked for. -/
theorem acceptAnswer_ok {answer : ClaimAnswer} {verifier : Option Bool}
    {registered : Option SignedCert} {envelope : Envelope}
    (h : acceptAnswer C node body answer verifier registered = .ok envelope) :
    envelope.voucher.body = body ∧ body.Valid ∧ envelope.voucher.Signed C := by
  unfold acceptAnswer at h
  simp only [bind_ok_iff, exists_unit_iff, check_ok_iff, mapError_ok_iff, not_not, ne_eq] at h
  obtain ⟨-, voucher, hparse, rfl, h⟩ := h
  cases hcert : answer.payerCert with
  | none =>
    rw [hcert] at h
    cases h
  | some payerCert =>
    rw [hcert] at h
    simp only [bind_ok_iff, exists_unit_iff, check_ok_iff, mapError_ok_iff, pure_ok_iff] at h
    obtain ⟨-, -, keys, -, -, payerPublicKey, -, -, -, rfl⟩ := h
    exact ⟨rfl, parseCanonicalVoucher_ok hparse⟩

/-- What `installRecoveredVoucher` has checked of a voucher besides its signatures. -/
structure BindsTo (C : Crypto) (node : RelayNode) (session : RelaySession) (voucher : MutualVoucher) :
    Prop where
  sessionID : voucher.body.sessionID = session.sessionID
  payer : voucher.body.payerNatID = session.payerID
  payee : voucher.body.payeeRelayID = node.relayID
  direction : voucher.body.direction = directionPayerOutbound
  policy : voucher.body.policyDigest = currentPolicyDigest C
  authorized : voucher.body.authorizedThroughBytes = maxBillableBytes
  valid : voucher.body.Valid
  signed : voucher.Signed C

theorem checkRecoveredVoucher_ok {session : RelaySession} {voucher : MutualVoucher}
    {payer : PayerIdentity} (h : checkRecoveredVoucher C node session voucher payer = .ok ()) :
    BindsTo C node session voucher := by
  unfold checkRecoveredVoucher at h
  simp only [bind_ok_iff, exists_unit_iff, check_ok_iff, mapError_ok_iff, not_or, not_not,
    ne_eq] at h
  obtain ⟨⟨hsession, hpayer, hpayee, hdirection, hpolicy, hauthorized⟩, key, -, hverify⟩ := h
  obtain ⟨hvalid, hsigned⟩ := verifyBillingSignatures_ok hverify
  exact ⟨hsession, hpayer, hpayee, hdirection, hpolicy, hauthorized, hvalid, hsigned⟩

/-! ## Identities -/

namespace SessionView

variable {view view' : SessionView}

/-- A session keeps its identity and never has records that are out of order. -/
theorem Moves.frame (hmove : Moves C node view output view') :
    view'.session.payerID = view.session.payerID ∧
      view'.session.sessionID = view.session.sessionID ∧
      view'.session.hasPending = view.session.hasPending := by
  have hframe {session session' : RelaySession} (h : session.Frame session') :
      session'.payerID = session.payerID ∧ session'.sessionID = session.sessionID ∧
        session'.hasPending = session.hasPending := by
    refine ⟨h.payerID, h.sessionID, ?_⟩
    unfold hasPending
    rw [h.pending, h.pendingBytes]
  cases hmove with
  | observeCharged hrecord hobserve => exact hframe (frame_observeLocked hobserve)
  | observeClaim hrecord hobserve hbody => exact hframe (frame_observeLocked hobserve)
  | resumeCharged hresume => exact hframe (frame_resume hresume)
  | resumeClaim hresume hbody => exact hframe (frame_resume hresume)
  | _ => exact ⟨rfl, rfl, rfl⟩

/-- The view is one of the session `sessionID`, and so are the claims in it. -/
structure KeyedBy (view : SessionView) (sessionID : Identifier) : Prop where
  session : view.session.sessionID = sessionID
  claiming : ∀ held body, view.holder = some (.claiming held body) → body.sessionID = sessionID
  settling : ∀ thread state body, view.settlement thread = some (.claiming state body) →
    body.sessionID = sessionID

/-- A settlement that is written to next to others. -/
theorem settling_update {settlement : ℕ → Option Settlement} {thread : ℕ} {next : Option Settlement}
    {P : VoucherBody → Prop}
    (hold : ∀ other state body, settlement other = some (.claiming state body) → P body)
    (hnext : ∀ state body, next = some (.claiming state body) → P body) :
    ∀ other state body,
      Function.update settlement thread next other = some (.claiming state body) → P body := by
  intro other
  rw [Function.update_apply]
  split_ifs
  · exact hnext
  · exact hold other

theorem Moves.keyedBy (hmove : Moves C node view output view') (hkeyed : view.KeyedBy sessionID) :
    view'.KeyedBy sessionID := by
  have hsession := hmove.frame.2.1.trans hkeyed.session
  cases hmove with
  | observeClaim _ _ hbody | resumeClaim _ hbody =>
    refine ⟨hsession, ?_, hkeyed.settling⟩
    rintro held body ⟨⟩
    exact (nextVoucherBody_ok hbody).sessionID.trans hsession
  | settleClaim hthread hbody =>
    refine ⟨hsession, hkeyed.claiming, settling_update hkeyed.settling ?_⟩
    rintro state body ⟨⟩
    exact (nextVoucherBody_ok hbody).sessionID.trans hsession
  | settleBegun | settleSnapshot | settleAssigned | settleRefused =>
    exact ⟨hsession, by simp, settling_update hkeyed.settling (by simp)⟩
  | settleAnswered | settleEnded =>
    exact ⟨hsession, hkeyed.claiming, settling_update hkeyed.settling (by simp)⟩
  | _ => exact ⟨hsession, by simp, hkeyed.settling⟩

end SessionView

end NatP2P.Billing
