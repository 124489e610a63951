import NatP2P.Billing.Relay.Steps

/-!
# Unsigned exposure

What a session has charged and no voucher covers stays below one window. The invariant has to look
into the goroutines: a voucher in hand covers the watermark in front of the record that waits for
it, or the one behind it when the record fills the window, and a voucher of a settlement covers the
settlement's snapshot. Then installing a voucher leaves nothing or one record uncovered.
-/

namespace NatP2P.Billing

open RelaySession

variable {C : Crypto} {J : EnvelopeJson} {node : RelayNode} {pipeline pipeline' : Pipeline}
  {sessionID : Identifier} {output : Output}

/-! ## Sessions within their window -/

namespace RelaySession

variable {session : RelaySession} {sequence : ℕ} {record : RelayRecord} {recordSet : Digest}
  {voucher : MutualVoucher} {windowBytes : ℕ}

/-- The session's sequences follow each other and its numbers are far from an overflow. A sequence
above `maxSequence` costs at least a byte. -/
structure Numbered (session : RelaySession) : Prop where
  next : session.nextRecordSequence = session.lastRecordSequence + 1
  sequence_le : session.lastRecordSequence ≤ maxSequence + session.cumulative
  cumulative_le : session.cumulative ≤ maxBillableBytes

/-- What no voucher covers is less than a window. -/
structure Bounded (session : RelaySession) : Prop extends session.Numbered where
  base_le : session.windowBase ≤ session.cumulative
  exposure_lt : session.cumulative - session.windowBase < cumulativeWindowBytes

theorem bounded_new (payerID sessionID : Identifier) : (new payerID sessionID).Bounded where
  next := rfl
  sequence_le := Nat.zero_le _
  cumulative_le := Nat.zero_le _
  base_le := le_rfl
  exposure_lt := Nat.two_pow_pos 20

/-- A session that stands at a voucher owes nothing. -/
theorem bounded_restoreVoucher (session : RelaySession) (hvalid : voucher.body.Valid) :
    (session.restoreVoucher voucher).Bounded where
  next := add64_eq (by
    have := hvalid.lastRecordSequence_le
    unfold maxSequence at this
    omega)
  sequence_le := hvalid.lastRecordSequence_le.trans (Nat.le_add_right _ _)
  cumulative_le := hvalid.cumulative_le
  base_le := le_rfl
  exposure_lt := by
    change voucher.body.cumulativeUniqueBytes - voucher.body.cumulativeUniqueBytes < _
    rw [Nat.sub_self]
    decide

/-- A voucher over the session's own watermark leaves nothing uncovered. -/
theorem Bounded.install (hbounded : session.Bounded)
    (hwatermark : voucher.body.watermark = session.snapshot) : (session.install voucher).Bounded := by
  have hbase : (session.install voucher).windowBase = session.cumulative :=
    congrArg Snapshot.cumulative hwatermark
  refine ⟨{ hbounded with }, hbase.le, ?_⟩
  change session.cumulative - (session.install voucher).windowBase < _
  rw [hbase, Nat.sub_self]
  decide

/-- `windowBytes` is computed without an underflow. -/
theorem Bounded.windowBytes_eq (hbounded : session.Bounded) :
    sub64 session.cumulative session.windowBase = session.cumulative - session.windowBase := by
  refine sub64_eq hbounded.base_le ?_
  have := hbounded.cumulative_le
  unfold maxBillableBytes at this
  omega

/-- A record that `advanceRecordLocked` has not refused does not overflow the count. -/
theorem add_le_of_le_sub64 (hrecord : record.Admitted sequence)
    (h : session.cumulative ≤ sub64 maxBillableBytes record.bytes) :
    session.cumulative + record.bytes ≤ maxBillableBytes ∧
      add64 session.cumulative record.bytes = session.cumulative + record.bytes := by
  have hwindow := hrecord.bytes_le
  rw [sub64_eq (hrecord.bytes_le.trans (by decide)) (by decide)] at h
  have hle : session.cumulative + record.bytes ≤ maxBillableBytes := by
    unfold maxBillableBytes cumulativeWindowBytes at *
    omega
  refine ⟨hle, add64_eq ?_⟩
  unfold maxBillableBytes at hle
  omega

/-- A charge that stays within the window. The voucher may have been installed in the same breath,
so the old count may lie below the base. -/
theorem Numbered.commit (hnumbered : session.Numbered) (hrecord : record.Admitted sequence)
    (hsequence : sequence = session.nextRecordSequence)
    (hfits : session.cumulative ≤ sub64 maxBillableBytes record.bytes)
    (hbase : session.windowBase ≤ session.cumulative + record.bytes)
    (hexposure : session.cumulative + record.bytes - session.windowBase < cumulativeWindowBytes) :
    (session.commit sequence record (session.nextSnapshot sequence record recordSet)).Bounded := by
  obtain ⟨hle, hadd⟩ := add_le_of_le_sub64 hrecord hfits
  have hnext := hnumbered.next
  have hsequence_le := hnumbered.sequence_le
  have hpos := hrecord.bytes_pos
  have hcumulative : (session.commit sequence record
      (session.nextSnapshot sequence record recordSet)).cumulative =
      session.cumulative + record.bytes := hadd
  refine ⟨⟨?_, ?_, hcumulative.trans_le hle⟩, ?_, ?_⟩
  · rw [hsequence]
    refine add64_eq ?_
    unfold maxSequence maxBillableBytes at *
    omega
  · change sequence ≤ maxSequence + add64 session.cumulative record.bytes
    omega
  · rw [hcumulative]
    exact hbase
  · rw [hcumulative]
    exact hexposure

end RelaySession

/-! ## Vouchers in hand -/

/-- The voucher that a call of `observeRecord` waits for covers `watermark`, in front of the record
or behind it. -/
structure Held.Fits (held : Held) (session : RelaySession) (watermark : Snapshot) : Prop where
  record : held.record.Admitted held.sequence
  sequence : held.sequence = session.nextRecordSequence
  before : held.candidate = none → watermark = session.snapshot
  behind : ∀ candidate, held.candidate = some candidate → watermark = candidate ∧
    session.cumulative ≤ sub64 maxBillableBytes held.record.bytes ∧
    ∃ recordSet, candidate = session.nextSnapshot held.sequence held.record recordSet

namespace SessionView

variable {view view' : SessionView} {session session' : RelaySession}
  {settlement : ℕ → Option Settlement}

/-- A session within its window, with goroutines whose vouchers keep it there. -/
structure Bounded (view : SessionView) : Prop where
  session : view.session.Bounded
  claiming : ∀ held body, view.holder = some (.claiming held body) →
    held.Fits view.session body.watermark
  queued : ∀ held voucher, view.holder = some (.queued held voucher) →
    held.Fits view.session voucher.body.watermark
  recovering : ∀ voucher, view.holder = some (.recovering voucher) → voucher.body.Valid
  settling : ∀ thread state body, view.settlement thread = some (.claiming state body) →
    body.watermark = state
  settled : ∀ thread state voucher, view.settlement thread = some (.queued state voucher) →
    voucher.body.watermark = state

theorem bounded_of_free (hsession : session.Bounded)
    (hsettling : ∀ thread state body, settlement thread = some (.claiming state body) →
      body.watermark = state)
    (hsettled : ∀ thread state voucher, settlement thread = some (.queued state voucher) →
      voucher.body.watermark = state) : Bounded ⟨session, none, settlement⟩ :=
  ⟨hsession, nofun, nofun, nofun, hsettling, hsettled⟩

/-- A settlement that is written to next to others, for both of the facts about settlements. -/
theorem Bounded.update {holder : Option Holder}
    (h : Bounded ⟨session, holder, settlement⟩) (thread : ℕ) {next : Option Settlement}
    (hsettling : ∀ state body, next = some (.claiming state body) → body.watermark = state)
    (hsettled : ∀ state voucher, next = some (.queued state voucher) →
      voucher.body.watermark = state) :
    Bounded ⟨session, holder, Function.update settlement thread next⟩ := by
  refine { h with settling := fun other => ?_, settled := fun other => ?_ }
  all_goals
    dsimp only
    rw [Function.update_apply]
    split_ifs
  · exact hsettling
  · exact h.settling other
  · exact hsettled
  · exact h.settled other

theorem bounded_observeCharged {sequence : ℕ}
    {record : RelayRecord} (h : session.Bounded) (hrecord : record.Admitted sequence)
    (hobserve : session.observeLocked C sequence record = .charged session') : session'.Bounded := by
  obtain ⟨-, hnext, hroom, hfull, recordSet, hfollows, rfl⟩ :=
    observeLocked_charged hobserve
  have hbase := h.base_le
  have hexposure := h.exposure_lt
  have hbytes := hrecord.bytes_le
  unfold RelaySession.Overfills at hroom
  rw [h.windowBytes_eq] at hroom hfull
  rw [sub64_eq hexposure.le (by decide)] at hroom
  rw [add64_eq (by unfold cumulativeWindowBytes at *; omega)] at hfull
  refine h.toNumbered.commit hrecord hnext hfollows.fits (by omega) ?_
  omega

theorem bounded_resumeCharged {held : Held} {voucher : MutualVoucher} (h : session.Bounded)
    (hfits : held.Fits session voucher.body.watermark)
    (hresume : session.resume C held.sequence held.record held.candidate voucher =
      .charged session') : session'.Bounded := by
  have hnumbered : (session.install voucher).Numbered := { h with }
  have hbytes := hfits.record.bytes_le
  rcases resume_charged hresume with ⟨hnone, hfull, recordSet, hfollows, rfl⟩ |
    ⟨behind, hsome, rfl⟩
  · -- the voucher covers everything in front of the record
    have hbase : (session.install voucher).windowBase = session.cumulative :=
      congrArg Snapshot.cumulative (hfits.before hnone)
    rw [add64_eq (by unfold cumulativeWindowBytes at *; omega)] at hfull
    refine hnumbered.commit hfits.record hfits.sequence hfollows.fits ?_ ?_
    · rw [hbase]
      exact Nat.le_add_right _ _
    · change session.cumulative + _ - _ < _
      omega
  · -- the voucher covers the record too
    obtain ⟨hwatermark, hle, recordSet, rfl⟩ := hfits.behind behind hsome
    have hadd := (add_le_of_le_sub64 hfits.record hle).2
    have hbase : (session.install voucher).windowBase = session.cumulative + held.record.bytes :=
      (congrArg Snapshot.cumulative hwatermark).trans hadd
    refine hnumbered.commit hfits.record hfits.sequence hle hbase.le ?_
    change session.cumulative + _ - _ < _
    rw [hbase, Nat.sub_self]
    decide

theorem Moves.bounded (hmove : Moves C node view output view') (h : view.Bounded) :
    view'.Bounded := by
  cases hmove with
  | observeCharged hrecord hobserve =>
    exact bounded_of_free (bounded_observeCharged h.session hrecord hobserve) h.settling h.settled
  | observeClaim hrecord hobserve hbody =>
    obtain ⟨-, hnext, rfl, hclaim⟩ := observeLocked_claim hobserve
    refine ⟨h.session, ?_, nofun, nofun, h.settling, h.settled⟩
    rintro held body ⟨⟩
    rw [(nextVoucherBody_ok hbody).watermark]
    -- the claim is for what is charged, or for the candidate behind it
    rcases hclaim with ⟨-, rfl, rfl⟩ | ⟨-, -, recordSet, hfollows, rfl, rfl⟩
    · exact ⟨hrecord, hnext, fun _ => rfl, nofun⟩
    · refine ⟨hrecord, hnext, nofun, ?_⟩
      rintro candidate ⟨⟩
      exact ⟨rfl, hfollows.fits, recordSet, rfl⟩
  | refused => exact bounded_of_free h.session h.settling h.settled
  | answered haccept =>
    refine ⟨h.session, nofun, ?_, nofun, h.settling, h.settled⟩
    rintro held voucher ⟨⟩
    rw [(acceptAnswer_ok haccept).1]
    exact h.claiming _ _ rfl
  | resumeCharged hresume =>
    exact bounded_of_free (bounded_resumeCharged h.session (h.queued _ _ rfl) hresume) h.settling
      h.settled
  | resumeClaim hresume hbody =>
    obtain ⟨hnone, rfl, -, recordSet, hfollows, rfl, rfl⟩ := resume_claim hresume
    -- the voucher is installed, and the record makes the next claim
    have hfits := h.queued _ _ rfl
    refine ⟨h.session.install (hfits.before hnone), ?_, nofun, nofun, h.settling, h.settled⟩
    rintro held body ⟨⟩
    rw [(nextVoucherBody_ok hbody).watermark]
    refine ⟨hfits.record, hfits.sequence, nofun, ?_⟩
    rintro candidate ⟨⟩
    exact ⟨rfl, hfollows.fits, recordSet, rfl⟩
  | resumeStopped hheld =>
    exact bounded_of_free (h.session.install ((h.queued _ _ rfl).before hheld)) h.settling h.settled
  | recovered hcheck hrecover =>
    refine ⟨h.session, nofun, nofun, ?_, h.settling, h.settled⟩
    rintro voucher ⟨⟩
    exact (checkRecoveredVoucher_ok hcheck).valid
  | restored =>
    exact bounded_of_free (bounded_restoreVoucher _ (h.recovering _ rfl)) h.settling
      h.settled
  | settleBegun | settleSnapshot | settleEnded | settleRefused => exact h.update _ nofun nofun
  | settleClaim hthread hbody =>
    refine h.update _ ?_ nofun
    rintro state body ⟨⟩
    exact (nextVoucherBody_ok hbody).watermark
  | settleAnswered hthread haccept =>
    refine h.update _ nofun ?_
    rintro state voucher ⟨⟩
    rw [(acceptAnswer_ok haccept).1]
    exact h.settling _ _ _ hthread
  | settleAssigned hthread hstate hblocked =>
    have hinstalled := h.session.install ((h.settled _ _ _ hthread).trans hstate.symm)
    exact (bounded_of_free hinstalled h.settling h.settled).update _ nofun nofun
  | blocked =>
    exact bounded_of_free ⟨⟨h.session.next, h.session.sequence_le, h.session.cumulative_le⟩,
      h.session.base_le, h.session.exposure_lt⟩ h.settling h.settled

end SessionView

/-! ## Runs -/

namespace Pipeline

/-- Every session is within its window. -/
structure Bounded (pipeline : Pipeline) : Prop where
  keyed : pipeline.Keyed
  view : ∀ sessionID view, pipeline.view sessionID = some view → view.Bounded

theorem Restored.bounded (hrestored : pipeline.Restored) : pipeline.Bounded := by
  refine ⟨hrestored.keyed, ?_⟩
  intro sessionID view hview
  obtain ⟨session, holder, settlement⟩ := view
  obtain ⟨hsession, hholder, hsettlement⟩ := view_eq_some.mp hview
  obtain ⟨voucher, hvalid, -, rfl⟩ := hrestored.sessions _ _ hsession
  rw [hrestored.holders] at hholder
  rw [hrestored.settlements] at hsettlement
  subst hholder hsettlement
  exact SessionView.bounded_of_free (bounded_restoreVoucher _ hvalid) nofun nofun

theorem Bounded.step (hbounded : pipeline.Bounded) (event : Event) :
    (pipeline.step C J node event).1.Bounded := by
  by_cases hrestart : ∃ outcome, event = .restart outcome
  · obtain ⟨outcome, rfl⟩ := hrestart
    exact (restored_restart C J node pipeline outcome).bounded
  · refine ⟨hbounded.keyed.step event, ?_⟩
    intro sessionID view' hview'
    rcases @step_steps C J node _ hbounded.keyed event (fun outcome h => hrestart ⟨outcome, h⟩)
      sessionID with ⟨hagree, -⟩ | ⟨payerID, -, hopened, -⟩ | ⟨view, moved, hview, hmoved, hmove⟩
    · exact hbounded.view _ _ (hagree.view.symm.trans hview')
    · obtain rfl := Option.mem_unique hopened hview'
      exact SessionView.bounded_of_free (bounded_new _ _) nofun nofun
    · obtain rfl := Option.mem_unique hmoved hview'
      exact hmove.bounded (hbounded.view _ _ hview)

theorem Bounded.run (hbounded : pipeline.Bounded) (events : List Event) :
    (pipeline.run C J node events).1.Bounded :=
  runSteps_invariant hbounded (fun _ event h => h.step event) events

/-- In every state of every run, whatever records, answers, recovered vouchers, settlements and
restarts the sessions have seen: the last voucher does not cover more than was charged, less than a
window is not covered, the next sequence follows the last one, and the subtraction in
`advanceRecordLocked` does not underflow. -/
theorem unsigned_exposure_bounded (C : Crypto) (J : EnvelopeJson) (node : RelayNode) (queue : Queue)
    (events : List Event) (sessionID : Identifier) (session : RelaySession)
    (hsession : ((blank queue).run C J node events).1.sessions.get sessionID = some session) :
    session.windowBase ≤ session.cumulative ∧
      session.cumulative - session.windowBase < cumulativeWindowBytes ∧
      session.nextRecordSequence = session.lastRecordSequence + 1 ∧
      sub64 session.cumulative session.windowBase = session.cumulative - session.windowBase := by
  have hreached : ((blank queue).run C J node events).1.Bounded :=
    (restored_blank queue).bounded.run events
  have hbounded := hreached.view sessionID ⟨session, _, _⟩ (view_eq_some.mpr ⟨hsession, rfl, rfl⟩)
  exact ⟨hbounded.session.base_le, hbounded.session.exposure_lt, hbounded.session.next,
    hbounded.session.windowBytes_eq⟩

/-! A record of five bytes on a new session, with stand-ins for the cryptography and the queue. -/

def sampleNode : RelayNode where
  relayID := nodeIDFromPublicKey .sample (Crypto.sample.publicKey sampleRelayKey)
  pubKeyHex := sampleRelayHex
  billingPrivateKey := sampleRelayKey
  billingPublicKeyForWire := ""
  relayCert := sampleServerCert

/-- The payer is a server, and its control peer is there for the session. -/
def sampleEnvironment : Event :=
  .environment none (GoMap.set .empty samplePayerID sampleSessionID)
    (GoMap.set .empty samplePayerID.string ⟨.server, some sampleServerCert, 0, false⟩)

def sampleBillable (sequence bytes : ℕ) : BillableRecord :=
  ⟨samplePayerID.string, "relay_to_clients", sampleSessionID, sequence, bytes,
    Bytes32.copy (putBE 8 sequence)⟩

def sampleCharge : List Event :=
  [.openSession samplePayerID sampleSessionID, sampleEnvironment, .observe (sampleBillable 1 5)]

/-- Envelopes of the sample payer, stored as their vouchers. -/
def samplePayerJson : EnvelopeJson where
  marshal disk :=
    if disk.payerPublicKey = sampleServerCert.cert.subjectPubKey ∧ disk.payerBillingPublicKey = "" ∧
        disk.payerCert = some sampleServerCert then some (1 :: disk.canonicalVoucher)
    else none
  unmarshal payload :=
    .ok ⟨payload.drop 1, sampleServerCert.cert.subjectPubKey, "", some sampleServerCert⟩

/-- A pipeline over an empty file. -/
def samplePipeline : Pipeline := blank (Queue.blank queueLimits fileDomain)

/-! The session is then settled: the payer answers the claim for the five bytes, and a second record
follows. -/

def sampleQueueOpened : Queue :=
  ((Queue.openFile .sample samplePayerJson queueLimits .done none).1.toOption).getD
    (Queue.blank queueLimits fileDomain)

/-- The body that the settlement asks for behind the first record. -/
def sampleSettledBody : VoucherBody where
  version := 1
  sessionID := sampleSessionID
  payerNatID := samplePayerID
  payeeRelayID := sampleNode.relayID
  direction := directionPayerOutbound
  sequence := 1
  previousMutualVoucherID := Bytes32.zero
  cumulativeUniqueBytes := 5
  lastRecordID := Bytes32.copy (putBE 8 1)
  lastRecordSequence := 1
  recordSetDigest :=
    ((advance .sample Bytes32.zero (Bytes32.copy (putBE 8 1)) 1 5).toOption).getD Bytes32.zero
  policyDigest := currentPolicyDigest .sample
  authorizedThroughBytes := maxBillableBytes

/-- What the payer answers to a claim. -/
def sampleResponse (body : VoucherBody) : Response where
  answer := some
    { type := .cosigned
      voucher := ((MutualVoucher.canonicalBytes .sample
        { body
          payerSignature := ((signPayerBilling .sample body samplePayerKey).toOption).getD []
          relaySignature :=
            ((signRelayBilling .sample body sampleRelayKey).toOption).getD [] }).toOption).getD []
      payerPublicKey := sampleServerCert.cert.subjectPubKey
      payerBillingPublicKey := ""
      payerCert := some sampleServerCert }
  verifier := some true
  append := .done

def sampleSettlement (between behind : List Event) : List Event :=
  sampleCharge ++ [.settleBegin sampleSessionID 0, .settleSnapshot sampleSessionID 0,
    .settleClaim sampleSessionID 0] ++ between ++
    [.settleAnswer sampleSessionID 0 (sampleResponse sampleSettledBody),
      .settleAssign sampleSessionID 0] ++ behind ++ [.observe (sampleBillable 3 (2 ^ 20 - 1))]

theorem unsigned_exposure_bounded_sample : ∃ session : RelaySession,
    ((blank sampleQueueOpened).run .sample samplePayerJson sampleNode
      (sampleSettlement [] [.observe (sampleBillable 2 7)])).1.sessions.get sampleSessionID =
        some session ∧ session.cumulative = 12 ∧ session.windowBase = 5 ∧
      session.cumulative - session.windowBase < cumulativeWindowBytes := by
  have hcharged : (((blank sampleQueueOpened).run .sample samplePayerJson sampleNode
      (sampleSettlement [] [.observe (sampleBillable 2 7)])).1.sessions.get sampleSessionID).map
        (fun session => (session.cumulative, session.windowBase)) = some (12, 5) := by
    decide +kernel
  obtain ⟨session, hsession, hfields⟩ := Option.map_eq_some_iff.mp hcharged
  obtain ⟨hcumulative, hbase⟩ := Prod.mk.inj hfields
  exact ⟨session, hsession, hcumulative, hbase, (unsigned_exposure_bounded .sample samplePayerJson
    sampleNode sampleQueueOpened _ sampleSessionID session hsession).2.1⟩

end Pipeline

end NatP2P.Billing
