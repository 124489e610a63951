import NatP2P.Billing.Nat.Backing
import NatP2P.Billing.Nat.Meter
import NatP2P.Billing.Voucher.Theorems

/-!
# The payer signs for what it assigned

A meter is driven by any calls in any order. Every session stays backed by what `prepareWithLease`
has assigned to it, and every voucher that `cosign` returns is the last one of its channel or covers
a snapshot, so its bytes are the sum of the bytes that were assigned to its records.
-/

namespace NatP2P.Billing

open Option NatMeter

variable {C : Crypto} {meter meter' : NatMeter} {session session' : NatSession}
  {assigned : Identifier → ℕ → ℕ} {sessionID : Identifier} {relayAddr : String}
  {assignment : Option BillingHeader} {lease : Option SendLease} {payloadLength : ℕ}
  {status : SessionStatus} {relayState : Option Snapshot} {voucher : MutualVoucher}
  {relaySignature : Bytes} {body : VoucherBody}

/-! ## Runs of a meter -/

/-- The calls on a meter. -/
inductive NatMeter.Event where
  | enable (cert : Option SignedCert)
  | prepare (payloadLength : ℕ) (relayAddr : String) (lease : Option SendLease)
  | completeSend (header : BillingHeader)
  | confirm (header : BillingHeader)
  | observe (message : SealedMessage) (e2eRecordID : Bytes)
  | invalidate (relayAddr : String) (expectedSessionID : Identifier)
  | activate (relayAddr sessionHex relayPublicKeyHex : String) (relayState : Option Snapshot)
  | cosign (payerCertificate : Option SignedCert) (verifier : Option Bool) (claim : Claim)

/-- What a call hands out: the header it has assigned, the voucher it has signed, or neither. -/
inductive NatMeter.Output where
  | nothing
  | assigned (header : BillingHeader)
  | cosigned (voucher : MutualVoucher)

/-- The output of a call of `prepareWithLease`, which assigns nothing while billing is off. -/
def NatMeter.Output.ofHeader : Option BillingHeader → NatMeter.Output
  | some header => .assigned header
  | none => .nothing

/-- One call; one that fails leaves the meter alone, apart from `observe`. -/
def NatMeter.step (C : Crypto) (meter : NatMeter) : NatMeter.Event → NatMeter × NatMeter.Output
  | .enable cert => match meter.enable C cert with
    | .ok meter' => (meter', .nothing)
    | .error _ => (meter, .nothing)
  | .prepare payloadLength relayAddr lease =>
    match meter.prepareWithLease payloadLength relayAddr lease with
    | .ok (assignment, meter') => (meter', .ofHeader assignment)
    | .error _ => (meter, .nothing)
  | .completeSend header => ((meter.completeSend header).2, .nothing)
  | .confirm header => match meter.confirm header with
    | .ok meter' => (meter', .nothing)
    | .error _ => (meter, .nothing)
  | .observe message e2eRecordID => ((meter.observe C message e2eRecordID).2, .nothing)
  | .invalidate relayAddr expectedSessionID =>
    (meter.invalidateRelaySession relayAddr expectedSessionID, .nothing)
  | .activate relayAddr sessionHex relayPublicKeyHex relayState =>
    match meter.activateRelaySessionWithState C relayAddr sessionHex relayPublicKeyHex relayState with
    | .ok (_, meter') => (meter', .nothing)
    | .error _ => (meter, .nothing)
  | .cosign payerCertificate verifier claim =>
    match meter.cosign C payerCertificate verifier claim with
    | .ok (voucher, meter') => (meter', .cosigned voucher)
    | .error _ => (meter, .nothing)

/-- The meter behind a list of calls, and what they have handed out. -/
def NatMeter.run (C : Crypto) (meter : NatMeter) :
    List NatMeter.Event → NatMeter × List NatMeter.Output
  | [] => (meter, [])
  | event :: events =>
    let (meter, output) := meter.step C event
    let (meter, outputs) := meter.run C events
    (meter, output :: outputs)

/-- The assignments behind one more output: a sequence has the bytes it was given last. -/
def assignOutput (bytes : Identifier → ℕ → ℕ) :
    NatMeter.Output → Identifier → ℕ → ℕ
  | .assigned header => fun sessionID sequence =>
    if sessionID = header.sessionID ∧ sequence = header.sequence then header.bytes
    else bytes sessionID sequence
  | _ => bytes

/-- The bytes that `prepareWithLease` has assigned to each sequence of each session. -/
def assignedBytes (outputs : List NatMeter.Output) : Identifier → ℕ → ℕ :=
  outputs.foldl assignOutput fun _ _ => 0

/-! ## What the calls keep -/

/-- Every session and every voucher of the meter is backed by the assignments. -/
structure NatMeter.Backed (assigned : Identifier → ℕ → ℕ) (meter : NatMeter) : Prop where
  sessions : ∀ sessionID session, meter.sessions.get sessionID = some session →
    session.Backed (assigned sessionID)
  channels : ∀ sessionID relayID voucher, meter.channels.get (sessionID, relayID) = some voucher →
    voucher.body.sessionID = sessionID ∧ ∃ session, meter.sessions.get sessionID = some session ∧
      CoveredBy (assigned sessionID) session voucher

theorem NatMeter.backed_new (privateKey billingPrivateKey : Bytes) (hasVerifier : Bool) :
    (NatMeter.new C privateKey billingPrivateKey hasVerifier).Backed assigned := by
  constructor
  · intro sessionID session hnone
    cases hnone
  · intro sessionID relayID voucher hnone
    cases hnone

section

variable (h : meter.Backed assigned)
include h

/-- A session is replaced, under assignments that differ from the old ones in this session only. -/
theorem NatMeter.Backed.setSession {assigned' : Identifier → ℕ → ℕ}
    (hbacked : session'.Backed (assigned' sessionID))
    (hcovers : ∀ relayID voucher, meter.channels.get (sessionID, relayID) = some voucher →
      CoveredBy (assigned' sessionID) session' voucher)
    (hother : ∀ other, other ≠ sessionID → assigned' other = assigned other) :
    (meter.setSession sessionID session').Backed assigned' := by
  have hset (other : Identifier) : (meter.setSession sessionID session').sessions.get other =
      if other = sessionID then some session' else meter.sessions.get other := by
    change (meter.sessions.set sessionID session').get other = _
    rw [GoMap.get_set]
  constructor
  · intro other found hfound
    rw [hset] at hfound
    split_ifs at hfound with heq
    · obtain rfl := some.inj hfound
      rw [heq]
      exact hbacked
    · rw [hother other heq]
      exact h.sessions other found hfound
  · intro other relayID voucher hvoucher
    obtain ⟨hid, covered, hcovered, hsum⟩ := h.channels other relayID voucher hvoucher
    refine ⟨hid, ?_⟩
    rw [hset]
    split_ifs with heq
    · subst heq
      exact ⟨session', rfl, hcovers relayID voucher hvoucher⟩
    · rw [hother other heq]
      exact ⟨covered, hcovered, hsum⟩

/-- The vouchers of a session cover what comes of it, under assignments that differ from the old
ones only where the session has not advanced to. -/
theorem NatMeter.Backed.covers {assigned' : ℕ → ℕ} {relayID : Identifier}
    (hget : meter.sessions.get sessionID = some session) (hprecedes : session.Precedes session')
    (hbelow : ∀ sequence < session.nextAdvance, assigned' sequence = assigned sessionID sequence)
    (hvoucher : meter.channels.get (sessionID, relayID) = some voucher) :
    CoveredBy assigned' session' voucher := by
  obtain ⟨-, covered, hcovered, hsum, hbefore⟩ := h.channels sessionID relayID voucher hvoucher
  obtain rfl : session = covered := mem_unique hget hcovered
  refine ⟨?_, hbefore.trans_le hprecedes.2⟩
  rw [hsum]
  exact (sumTo_congr fun sequence hle => hbelow sequence (hle.trans_lt hbefore)).symm

theorem NatMeter.Backed.replace (hget : meter.sessions.get sessionID = some session)
    (hcontinues : session.Continues (assigned sessionID) session') :
    (meter.setSession sessionID session').Backed assigned :=
  h.setSession hcontinues.1 (fun _ _ => h.covers hget hcontinues.2 fun _ _ => rfl) fun _ _ => rfl

theorem NatMeter.Backed.enable {cert : Option SignedCert}
    (henable : meter.enable C cert = .ok meter') : meter'.Backed assigned := by
  unfold NatMeter.enable at henable
  cases cert with
  | none => cases henable
  | some signed =>
    simp only [bind_ok_iff, exists_unit_iff, check_ok_iff, pure_ok_iff] at henable
    obtain ⟨-, -, -, -, -, -, rfl⟩ := henable
    exact ⟨h.sessions, h.channels⟩

end

/-- What `prepareWithLease` changes when it assigns a sequence. -/
theorem NatMeter.prepareWithLease_cases
    (hprepare : meter.prepareWithLease payloadLength relayAddr lease = .ok (assignment, meter')) :
    assignment = none ∧ meter' = meter ∨ ∃ sessionID session session' sequence, 0 < payloadLength ∧
        payloadLength ≤ cumulativeWindowBytes ∧ meter.sessions.get sessionID = some session ∧
        session.assign payloadLength = .ok (sequence, session') ∧
        assignment = some ⟨sessionID, sequence, payloadLength⟩ ∧
        meter' = meter.setSession sessionID session' := by
  unfold prepareWithLease at hprepare
  split_ifs at hprepare
  · obtain ⟨rfl, rfl⟩ := Prod.mk.inj (Except.ok.inj hprepare)
    exact .inl ⟨rfl, rfl⟩
  · split at hprepare
    · cases hprepare
    · next sessionID hrelay =>
      simp only [check_bind_ok_iff, not_or, Nat.not_lt, gt_iff_lt]
        at hprepare
      obtain ⟨-, -, ⟨hpos, hle⟩, hprepare⟩ := hprepare
      split at hprepare
      · cases hprepare
      · next session hsession =>
        simp only [bind_ok_iff, pure_ok_iff, Prod.mk.injEq] at hprepare
        obtain ⟨⟨sequence, session'⟩, hassign, rfl, rfl⟩ := hprepare
        exact .inr ⟨sessionID, session, session', sequence, Nat.pos_of_ne_zero hpos, hle, hsession,
          hassign, rfl, rfl⟩

section

variable (h : meter.Backed assigned)
include h

/-- The header that `prepareWithLease` returns is one more assignment. -/
theorem NatMeter.Backed.prepareWithLease
    (hprepare : meter.prepareWithLease payloadLength relayAddr lease = .ok (assignment, meter')) :
    meter'.Backed (assignOutput assigned (.ofHeader assignment)) := by
  rcases prepareWithLease_cases hprepare with ⟨rfl, rfl⟩ |
    ⟨sessionID, session, session', sequence, hpos, hle, hget, hassign, rfl, rfl⟩
  · exact h
  · have hbacked := h.sessions sessionID session hget
    obtain ⟨hsequence, hprecedes, hassigned⟩ := hbacked.assign hpos hle hassign
    refine h.setSession ?_ (fun _ _ => h.covers hget hprecedes ?_) ?_
    · have hat : assignOutput assigned (.ofHeader (some ⟨sessionID, sequence, payloadLength⟩))
          sessionID = fun other => if other = sequence then payloadLength else assigned sessionID other := by
        funext other
        change (if sessionID = sessionID ∧ other = sequence then _ else _) = _
        simp only [true_and]
      rw [hat]
      exact hassigned
    · intro below hbelow
      have hadvance := hbacked.advance_le
      exact if_neg fun heq => by
        have hbelow' : below = sequence := heq.2
        omega
    · intro other hne
      funext sequence
      exact if_neg fun heq => hne heq.1

theorem NatMeter.Backed.completeSend (header : BillingHeader) :
    (meter.completeSend header).2.Backed assigned := by
  unfold NatMeter.completeSend
  split_ifs
  · exact h
  · split
    · exact h
    · next session hget =>
      exact h.replace hget ⟨{ h.sessions _ _ hget with }, .refl session⟩

theorem NatMeter.Backed.confirm {header : BillingHeader}
    (hconfirm : meter.confirm header = .ok meter') : meter'.Backed assigned := by
  unfold NatMeter.confirm at hconfirm
  split_ifs at hconfirm
  · obtain rfl := Except.ok.inj hconfirm
    exact h
  · split at hconfirm
    · cases hconfirm
    · next session hget =>
      simp only [bind_ok_iff, pure_ok_iff] at hconfirm
      obtain ⟨confirmed, hsession, rfl⟩ := hconfirm
      obtain ⟨sequence, early, rfl⟩ := NatSession.confirm_eq hsession
      exact h.replace hget ⟨{ h.sessions _ _ hget with }, .refl session⟩

theorem NatMeter.Backed.observe (message : SealedMessage)
    (e2eRecordID : Bytes) : (meter.observe C message e2eRecordID).2.Backed assigned := by
  unfold NatMeter.observe
  split_ifs
  · exact h
  · split
    · exact h
    · split
      · exact h
      · next session hget => exact h.replace hget ((h.sessions _ _ hget).observe ..)

theorem NatMeter.Backed.invalidateRelaySession (relayAddr : String)
    (expectedSessionID : Identifier) :
    (meter.invalidateRelaySession relayAddr expectedSessionID).Backed assigned := by
  unfold NatMeter.invalidateRelaySession
  dsimp only
  split_ifs
  · exact h
  · exact h
  · exact ⟨h.sessions, h.channels⟩

section

variable (hget : meter.sessions.get sessionID = some session)
include hget

/-- The last voucher of a session's channel covers what the session has advanced over. -/
theorem NatMeter.Backed.lastVoucher :
    ∀ voucher ∈ meter.lastVoucher sessionID session,
      CoveredBy (assigned sessionID) session voucher := by
  intro voucher hvoucher
  exact h.covers hget (.refl session) (fun _ _ => rfl) hvoucher

theorem NatMeter.Backed.reactivate {relayState : Snapshot}
    (hreactivate : meter.reactivate relayAddr sessionID session relayState = .ok (status, meter')) :
    meter'.Backed assigned := by
  unfold NatMeter.reactivate at hreactivate
  simp only [bind_ok_iff] at hreactivate
  obtain ⟨⟨result, session'⟩, hreconcile, hreactivate⟩ := hreactivate
  have hset := h.replace hget ((h.sessions _ _ hget).reconcile (h.lastVoucher hget) hreconcile)
  -- whatever the outcome, the session is the only thing that changes here
  split_ifs at hreactivate
  all_goals
    obtain ⟨-, rfl⟩ := Prod.mk.inj (Except.ok.inj hreactivate)
    exact ⟨hset.sessions, hset.channels⟩

theorem NatMeter.Backed.activateExisting
    (hactivate : meter.activateExisting relayAddr sessionID session relayState =
      .ok (status, meter')) :
    meter'.Backed assigned := by
  unfold NatMeter.activateExisting at hactivate
  simp only [check_bind_ok_iff] at hactivate
  obtain ⟨-, hactivate⟩ := hactivate
  cases relayState with
  | none =>
    split_ifs at hactivate
    · obtain ⟨-, rfl⟩ := Prod.mk.inj (Except.ok.inj hactivate)
      exact h
    · simp only [check_bind_ok_iff, pure_ok_iff, Prod.mk.injEq] at hactivate
      obtain ⟨-, -, rfl⟩ := hactivate
      exact ⟨h.sessions, h.channels⟩
  | some state =>
    split_ifs at hactivate
    · exact h.reactivate hget hactivate
    · simp only [check_bind_ok_iff, pure_ok_iff, Prod.mk.injEq] at hactivate
      obtain ⟨-, -, rfl⟩ := hactivate
      exact ⟨h.sessions, h.channels⟩

end

/-- A fresh session has no channel yet: a channel with a voucher has a session. -/
theorem NatMeter.Backed.addSession
    (hget : meter.sessions.get sessionID = none) (hbacked : session.Backed (assigned sessionID)) :
    (meter.setSession sessionID session).Backed assigned := by
  refine h.setSession hbacked (fun relayID voucher hvoucher => ?_) fun _ _ => rfl
  obtain ⟨-, covered, hcovered, -⟩ := h.channels sessionID relayID voucher hvoucher
  rw [hget] at hcovered
  cases hcovered

theorem NatMeter.Backed.activateSession {relayID : Identifier}
    (hactivate : meter.activateSession relayAddr sessionID relayID relayState =
      .ok (status, meter')) :
    meter'.Backed assigned := by
  unfold NatMeter.activateSession at hactivate
  simp only [check_bind_ok_iff] at hactivate
  obtain ⟨-, hactivate⟩ := hactivate
  split at hactivate
  · obtain ⟨-, rfl⟩ := Prod.mk.inj (Except.ok.inj hactivate)
    exact h
  · simp only [check_bind_ok_iff] at hactivate
    obtain ⟨-, hactivate⟩ := hactivate
    split at hactivate
    · next session hget => exact h.activateExisting hget hactivate
    · next hget =>
      split at hactivate
      · simp only [check_bind_ok_iff, pure_ok_iff, Prod.mk.injEq] at hactivate
        obtain ⟨-, -, rfl⟩ := hactivate
        exact h
      · obtain ⟨-, rfl⟩ := Prod.mk.inj (Except.ok.inj hactivate)
        have hadded := h.addSession hget (NatSession.backed_new relayID)
        exact ⟨hadded.sessions, hadded.channels⟩

theorem NatMeter.Backed.activateRelaySessionWithState {sessionHex relayPublicKeyHex : String}
    (hactivate : meter.activateRelaySessionWithState C relayAddr sessionHex relayPublicKeyHex
      relayState = .ok (status, meter')) :
    meter'.Backed assigned := by
  unfold NatMeter.activateRelaySessionWithState at hactivate
  simp only [check_bind_ok_iff] at hactivate
  obtain ⟨-, hactivate⟩ := hactivate
  split at hactivate
  · cases hactivate
  · split at hactivate
    · cases hactivate
    · simp only [check_bind_ok_iff] at hactivate
      exact h.activateSession hactivate.2

end

/-! ## Signing -/

/-- What `signNext` has checked when it signs, and what it changes. -/
theorem NatMeter.signNext_cases {last : Option MutualVoucher}
    (h : meter.signNext C session last body relaySignature = .ok (voucher, meter')) :
    ∃ snapshot rotationClaim rotationSettled,
      session.snapshots.get body.cumulativeUniqueBytes = some snapshot ∧
      snapshot.lastRecordSequence = body.lastRecordSequence ∧ voucher.body = body ∧
      meter' = { meter with
        sessions := meter.sessions.set body.sessionID (NatMeter.cosigned session body rotationClaim)
        channels := meter.channels.set (body.sessionID, session.relayID) voucher
        rotationSettled := rotationSettled } := by
  unfold signNext at h
  split at h
  · cases h
  · next snapshot hget =>
    simp only [bind_ok_iff, exists_unit_iff, check_ok_iff, mapError_ok_iff,
      pure_ok_iff, Prod.mk.injEq, newMutualVoucher_ok_iff, not_or, not_not, ne_eq] at h
    obtain ⟨⟨-, hsequence, -⟩, -, payerSignature, -, signed, ⟨rfl, -, -⟩, -, rfl, rfl⟩ := h
    exact ⟨snapshot, _, _, hget, hsequence, rfl, rfl⟩

/-- A voucher that `cosign` returns is the last one of its channel, or a new one. -/
theorem NatMeter.cosignBody_cases
    (h : meter.cosignBody C body relaySignature = .ok (voucher, meter')) :
    ∃ session, meter.sessions.get body.sessionID = some session ∧
      (meter' = meter ∧ meter.lastVoucher body.sessionID session = some voucher ∨
        meter.signNext C session (meter.lastVoucher body.sessionID session) body relaySignature =
          .ok (voucher, meter')) := by
  unfold cosignBody at h
  cases hget : meter.sessions.get body.sessionID with
  | none =>
    rw [hget] at h
    cases h
  | some session =>
    rw [hget] at h
    refine ⟨session, rfl, ?_⟩
    simp only [bind_ok_iff, exists_unit_iff, check_ok_iff] at h
    obtain ⟨-, repeated, -, h⟩ := h
    cases hlast : meter.lastVoucher body.sessionID session with
    | none =>
      rw [hlast] at h
      cases repeated with
      | false | true => exact .inr h
    | some last =>
      rw [hlast] at h
      cases repeated with
      | false => exact .inr h
      | true =>
        obtain ⟨rfl, rfl⟩ := Prod.mk.inj (Except.ok.inj h)
        exact .inl ⟨rfl, rfl⟩

/-- Signing removes snapshots and marks. -/
theorem NatMeter.backed_cosigned {assigned : ℕ → ℕ} (h : session.Backed assigned)
    (body : VoucherBody) (rotationClaim : Bool) :
    session.Continues assigned (NatMeter.cosigned session body rotationClaim) := by
  have hsnapshots (cumulative : ℕ) (snapshot : Snapshot)
      (hget : (session.snapshots.retain fun cumulative =>
        body.cumulativeUniqueBytes ≤ cumulative).get cumulative = some snapshot) :
      session.snapshots.get cumulative = some snapshot := by
    rw [GoMap.get_retain] at hget
    split_ifs at hget
    exact hget
  cases rotationClaim with
  | false | true =>
    refine ⟨{ h with snapshots := fun cumulative snapshot hget => ?_ }, .refl session⟩
    exact h.snapshots _ _ (hsnapshots cumulative snapshot hget)

section

variable (h : meter.Backed assigned)
include h

/-- The voucher of a successful `cosign` covers records of its session. -/
theorem NatMeter.Backed.cosignBody
    (hcosign : meter.cosignBody C body relaySignature = .ok (voucher, meter')) :
    meter'.Backed assigned ∧ ∃ session, meter'.sessions.get voucher.body.sessionID = some session ∧
        CoveredBy (assigned voucher.body.sessionID) session voucher := by
  obtain ⟨session, hget, ⟨rfl, hlast⟩ | hsign⟩ := cosignBody_cases hcosign
  · obtain ⟨hid, covered, hcovered, hsum⟩ := h.channels body.sessionID session.relayID voucher hlast
    rw [hid]
    exact ⟨h, covered, hcovered, hsum⟩
  · obtain ⟨snapshot, rotationClaim, rotationSettled, hsnapshot, hsequence, rfl, rfl⟩ :=
      signNext_cases hsign
    have hbacked := h.sessions _ _ hget
    have hcosigned := backed_cosigned hbacked voucher.body rotationClaim
    have hset := h.replace hget hcosigned
    -- the new voucher states a snapshot, whose bytes are a sum
    obtain ⟨-, hsum, hbefore⟩ := hbacked.snapshots _ _ hsnapshot
    rw [hsequence] at hsum hbefore
    have hcovered : CoveredBy (assigned voucher.body.sessionID)
        (cosigned session voucher.body rotationClaim) voucher :=
      ⟨hsum, hbefore.trans_le hcosigned.2.2⟩
    have hat : (meter.sessions.set voucher.body.sessionID
        (cosigned session voucher.body rotationClaim)).get voucher.body.sessionID =
          some (cosigned session voucher.body rotationClaim) := GoMap.get_set_self
    refine ⟨⟨hset.sessions, ?_⟩, _, hat, hcovered⟩
    intro other relayID found hfound
    change (meter.channels.set (voucher.body.sessionID, session.relayID) voucher).get
      (other, relayID) = some found at hfound
    rcases GoMap.get_set_eq_some.mp hfound with ⟨heq, rfl⟩ | ⟨-, hold⟩
    · obtain ⟨rfl, rfl⟩ := Prod.mk.inj heq
      exact ⟨rfl, _, hat, hcovered⟩
    · exact hset.channels other relayID found hold

theorem NatMeter.Backed.cosign {payerCertificate : Option SignedCert}
    {verifier : Option Bool} {claim : Claim}
    (hcosign : meter.cosign C payerCertificate verifier claim = .ok (voucher, meter')) :
    meter'.Backed assigned ∧ ∃ session, meter'.sessions.get voucher.body.sessionID = some session ∧
        CoveredBy (assigned voucher.body.sessionID) session voucher := by
  unfold NatMeter.cosign at hcosign
  simp only [bind_ok_iff] at hcosign
  obtain ⟨body, -, hcosign⟩ := hcosign
  exact h.cosignBody hcosign

/-! ## Whole runs -/

/-- One call keeps the meter backed by the assignments so far. -/
theorem NatMeter.Backed.step (event : NatMeter.Event) :
    (meter.step C event).1.Backed (assignOutput assigned (meter.step C event).2) := by
  cases event with
  | enable cert =>
    dsimp only [NatMeter.step]
    split
    · next hcall => exact h.enable hcall
    · exact h
  | prepare payloadLength relayAddr lease =>
    dsimp only [NatMeter.step]
    split
    · next hcall => exact h.prepareWithLease hcall
    · exact h
  | completeSend header => exact h.completeSend header
  | confirm header =>
    dsimp only [NatMeter.step]
    split
    · next hcall => exact h.confirm hcall
    · exact h
  | observe message e2eRecordID => exact h.observe message e2eRecordID
  | invalidate relayAddr expectedSessionID =>
    exact h.invalidateRelaySession relayAddr expectedSessionID
  | activate relayAddr sessionHex relayPublicKeyHex relayState =>
    dsimp only [NatMeter.step]
    split
    · next hcall => exact h.activateRelaySessionWithState hcall
    · exact h
  | cosign payerCertificate verifier claim =>
    dsimp only [NatMeter.step]
    split
    · next hcall => exact (h.cosign hcall).1
    · exact h

theorem NatMeter.Backed.run (events : List NatMeter.Event) :
    (meter.run C events).1.Backed ((meter.run C events).2.foldl assignOutput assigned) := by
  induction events generalizing meter assigned with
  | nil => exact h
  | cons event events ih =>
    have hstep := h.step (C := C) event
    exact ih hstep

end

/-- Whatever calls a meter has seen, with whatever watermarks and claims of the Relay: a voucher
that `cosign` returns is for the bytes that `prepareWithLease` assigned to its sequences, and each
of these sequences was assigned. -/
theorem cosign_signs_assigned_bytes (privateKey billingPrivateKey : Bytes) (hasVerifier : Bool)
    (events : List NatMeter.Event) {outputs : List NatMeter.Output}
    (hrun : (NatMeter.new C privateKey billingPrivateKey hasVerifier).run C events = (meter, outputs))
    {payerCertificate : Option SignedCert} {verifier : Option Bool} {claim : Claim}
    {voucher : MutualVoucher}
    (hcosign : meter.cosign C payerCertificate verifier claim = .ok (voucher, meter')) :
    voucher.body.cumulativeUniqueBytes = ∑ sequence ∈ Finset.Icc 1 voucher.body.lastRecordSequence,
          assignedBytes outputs voucher.body.sessionID sequence ∧
      ∃ session, meter'.sessions.get voucher.body.sessionID = some session ∧
        voucher.body.lastRecordSequence < session.nextAssigned ∧
        ∀ sequence ∈ Finset.Icc 1 voucher.body.lastRecordSequence,
          0 < assignedBytes outputs voucher.body.sessionID sequence := by
  have hnew : (new C privateKey billingPrivateKey hasVerifier).Backed fun _ _ => 0 :=
    backed_new privateKey billingPrivateKey hasVerifier
  have hbacked := hnew.run (C := C) events
  rw [hrun] at hbacked
  obtain ⟨hafter, session, hget, hsum, hbefore⟩ := hbacked.cosign hcosign
  have hsession := hafter.sessions _ _ hget
  refine ⟨hsum, session, hget, hbefore.trans_le hsession.advance_le, ?_⟩
  intro sequence hmem
  obtain ⟨hpos, hle⟩ := Finset.mem_Icc.mp hmem
  exact hsession.assigned_pos sequence hpos
    ((hle.trans_lt hbefore).trans_le hsession.advance_le)

/-! A run with stand-ins for the cryptography: two messages of one byte each, the first of them
sealed; the session is invalidated and meets the Relay's watermark behind the first record, so it
has to rotate; then the Relay claims that record. -/

def sampleMessageID : Bytes := List.replicate 32 0 ++ putBE 4 1 ++ putBE 8 1

/-- The first message of the session, sealed. -/
def sampleMessage : SealedMessage where
  header := ⟨sampleSessionID, 1, 1⟩
  connectionID := [1]
  payload := e2eRecordMagic ++ [2, 1, 0, 0] ++ putBE 4 1 ++ putBE 8 1 ++ List.replicate 32 0 ++
    putBE 8 1 ++ List.replicate 17 0

def sampleRecordID : Identifier :=
  ((NatMeter.sealedRecord .sample sampleMessage sampleMessageID).toOption).getD Bytes32.zero

def sampleRecordSet : Digest :=
  ((advance .sample Bytes32.zero sampleRecordID 1 1).toOption).getD Bytes32.zero

def sampleCalls : List NatMeter.Event :=
  [.enable (some sampleServerCert),
    .activate "relay" sampleSessionID.string sampleRelayHex none,
    .prepare 1 "relay" none,
    .prepare 1 "relay" none,
    .observe sampleMessage sampleMessageID,
    .completeSend ⟨sampleSessionID, 1, 1⟩,
    .completeSend ⟨sampleSessionID, 2, 1⟩,
    .invalidate "relay" sampleSessionID,
    .activate "relay" sampleSessionID.string sampleRelayHex
      (some ⟨1, sampleRecordID, 1, sampleRecordSet⟩)]

def sampleRun : NatMeter × List NatMeter.Output :=
  (NatMeter.new .sample samplePayerKey samplePayerKey false).run .sample sampleCalls

def sampleBody : VoucherBody where
  version := 1
  sessionID := sampleSessionID
  payerNatID := samplePayerID
  payeeRelayID := nodeIDFromPublicKey .sample (Crypto.sample.publicKey sampleRelayKey)
  direction := directionPayerOutbound
  sequence := 1
  previousMutualVoucherID := Bytes32.zero
  cumulativeUniqueBytes := 1
  lastRecordID := sampleRecordID
  lastRecordSequence := 1
  recordSetDigest := sampleRecordSet
  policyDigest := currentPolicyDigest .sample
  authorizedThroughBytes := maxBillableBytes

def sampleClaim : Claim where
  body := sampleBody.encode
  relaySignature := ((signRelayBilling .sample sampleBody sampleRelayKey).toOption).getD []
  relayPublicKey := sampleRelayHex
  relayBillingPublicKey := ""
  relayCert := none

theorem cosign_signs_assigned_bytes_sample : ∃ voucher meter',
    sampleRun.1.cosign .sample none none sampleClaim = .ok (voucher, meter') ∧
      voucher.body = sampleBody ∧
      voucher.body.cumulativeUniqueBytes =
        ∑ sequence ∈ Finset.Icc 1 voucher.body.lastRecordSequence,
          assignedBytes sampleRun.2 voucher.body.sessionID sequence := by
  have hsigned : (sampleRun.1.cosign .sample none none sampleClaim).toOption.map
      (fun result => result.1.body) = some sampleBody := by decide +kernel
  cases hcosign : sampleRun.1.cosign .sample none none sampleClaim with
  | error err =>
    rw [hcosign] at hsigned
    cases hsigned
  | ok result =>
    rw [hcosign] at hsigned
    have hrun : (new .sample samplePayerKey samplePayerKey false).run .sample sampleCalls =
        (sampleRun.1, sampleRun.2) := by
      rw [sampleRun]
    exact ⟨result.1, result.2, rfl, some.inj hsigned,
      (cosign_signs_assigned_bytes samplePayerKey samplePayerKey false sampleCalls hrun hcosign).1⟩

end NatP2P.Billing
