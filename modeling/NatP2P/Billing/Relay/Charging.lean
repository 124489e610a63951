import NatP2P.Billing.Relay.Exposure

/-!
# Charging exactly once

A session that never took over a recovered voucher has charged the records `1 ..
lastRecordSequence`, each of them once, and `cumulative` is the sum of their bytes. The map `recent`
holds the last `maximumRecentBillingRecords` of them, so a retransmitted record is told from a
different one under its sequence.
-/

namespace NatP2P.Billing

open List Option RelaySession

variable {C : Crypto} {J : EnvelopeJson} {node : RelayNode} {pipeline : Pipeline}
  {sessionID : Identifier} {output : Output}

/-! ## What was charged -/

/-- The record that a step has charged to the session. -/
def Output.chargeTo (sessionID : Identifier) : Output → Option (ℕ × RelayRecord)
  | .charged owner number record => if owner = sessionID then some (number, record) else none
  | _ => none

/-- The records that were charged to the session, in order. -/
def charges (sessionID : Identifier) (outputs : List Output) : List (ℕ × RelayRecord) :=
  outputs.filterMap (Output.chargeTo sessionID)

/-- The bytes of a list of charges. -/
def chargedBytes (charged : List (ℕ × RelayRecord)) : ℕ :=
  (charged.map fun charge => charge.2.bytes).sum

/-- The step has taken over a recovered voucher. -/
def Output.isRecovered : Output → Bool
  | .recovered _ => true
  | _ => false

/-- `observeRecord` returns success with the step: the record was charged before, or is charged
now. -/
def Output.succeeds : Output → Bool
  | .returned (.ok ()) => true
  | .charged _ _ _ => true
  | _ => false

/-- The accounts behind a step of `observeRecord` for the node: a charge is what `addUplink`
gets. -/
def Output.credit (output : Output) (nodeID : String) (accounts : AccountStore) : AccountStore :=
  match output with
  | .charged _ _ record => accounts.addUplink nodeID record.bytes
  | _ => accounts

theorem charges_append (outputs : List Output) (output : Output) :
    charges sessionID (outputs ++ [output]) =
      charges sessionID outputs ++ (output.chargeTo sessionID).toList := by
  unfold charges
  cases hcharge : output.chargeTo sessionID with
  | none | some => simp [hcharge]

/-- A step that is not about the session charges nothing to it. -/
theorem chargeTo_of_about (h : output.about ≠ some sessionID) : output.chargeTo sessionID = none := by
  cases output with
  | charged owner sequence record =>
    refine if_neg ?_
    rintro rfl
    exact h rfl
  | _ => rfl

/-! ## Sessions -/

namespace RelaySession

variable {session : RelaySession} {sequence : ℕ} {record : RelayRecord} {candidate : Snapshot}
  {charged : List (ℕ × RelayRecord)}

/-- The session has charged exactly `charged`. -/
structure Charged (session : RelaySession) (charged : List (ℕ × RelayRecord)) : Prop where
  sequences : charged.map Prod.fst = List.range' 1 session.lastRecordSequence
  total : chargedBytes charged = session.cumulative
  recent : ∀ sequence record, session.recent.get sequence = some record ↔
    (sequence, record) ∈ charged ∧
      session.lastRecordSequence < sequence + maximumRecentBillingRecords

variable (h : session.Charged charged)
include h

/-- A charged sequence is one of `1 .. lastRecordSequence`. -/
theorem Charged.mem_sequence (hmem : (sequence, record) ∈ charged) :
    1 ≤ sequence ∧ sequence ≤ session.lastRecordSequence := by
  have hsequence : sequence ∈ charged.map Prod.fst := mem_map.mpr ⟨_, hmem, rfl⟩
  rw [h.sequences, mem_range'_1] at hsequence
  omega

/-- A charge of the next record. The entry that leaves `recent` is the one that is
`maximumRecentBillingRecords` older. -/
theorem Charged.commit
    (hsequence : sequence = session.lastRecordSequence + 1) (hlt : sequence < 2 ^ 64)
    (hcumulative : candidate.cumulative = session.cumulative + record.bytes) :
    (session.commit sequence record candidate).Charged (charged ++ [(sequence, record)]) := by
  refine ⟨?_, ?_, ?_⟩
  · change _ = range' 1 sequence
    rw [map_append, h.sequences, hsequence, range'_concat]
    simp [Nat.add_comm]
  · change _ = candidate.cumulative
    rw [hcumulative, ← h.total]
    simp [chargedBytes]
  · intro other found
    have hold := h.recent other found
    have hmem (hcharged : (other, found) ∈ charged) := h.mem_sequence hcharged
    -- first the record is added, then the oldest one leaves
    have hset : (session.recent.set sequence record).get other = some found ↔
        (other, found) ∈ charged ++ [(sequence, record)] ∧
          session.lastRecordSequence < other + maximumRecentBillingRecords := by
      rw [GoMap.get_set]
      by_cases hsame : other = sequence
      · subst hsame
        have hnew : (other, found) ∉ charged := fun hcharged => by
          have := hmem hcharged
          omega
        simp only [if_true, some.injEq, mem_append, hnew, mem_singleton,
          Prod.mk.injEq, true_and, false_or]
        have hrecent : session.lastRecordSequence < other + maximumRecentBillingRecords := by omega
        rw [and_iff_left hrecent, eq_comm]
      · simp [hsame, hold]
    change (if sequence > maximumRecentBillingRecords then
      (session.recent.set sequence record).delete (sub64 sequence maximumRecentBillingRecords)
      else session.recent.set sequence record).get other = some found ↔
        (other, found) ∈ charged ++ [(sequence, record)] ∧
          sequence < other + maximumRecentBillingRecords
    have hpos : (other, found) ∈ charged ++ [(sequence, record)] → 1 ≤ other := by
      intro happended
      rcases mem_append.mp happended with hcharged | hlast
      · exact (hmem hcharged).1
      · have := congrArg Prod.fst (mem_singleton.mp hlast)
        omega
    split_ifs with hlarge
    · rw [sub64_eq (Nat.le_of_lt hlarge) hlt, GoMap.get_delete]
      split_ifs with hleaves
      · refine iff_of_false nofun ?_
        omega
      · rw [hset]
        exact and_congr_right fun _ => by omega
    · rw [hset]
      refine and_congr_right fun hcharged => ?_
      have := hpos hcharged
      omega

theorem Charged.install (voucher : MutualVoucher) : (session.install voucher).Charged charged :=
  { h with }

/-- A record that is not the next one is looked up. -/
theorem Charged.observeLocked (hnumbered : session.Numbered) (hfree : session.blocked = none) :
    (sequence ≤ session.lastRecordSequence → session.observeLocked C sequence record =
      .returned (if (sequence, record) ∈ charged ∧
        session.lastRecordSequence < sequence + maximumRecentBillingRecords then .ok ()
        else .error .staleSequence) session) ∧
      (session.nextRecordSequence < sequence → ∃ err, session.observeLocked C sequence record =
        .returned (.error err) session) := by
  have hnext := hnumbered.next
  unfold RelaySession.observeLocked
  rw [hfree]
  constructor
  · intro hold
    rw [if_pos (by omega)]
    simp only [h.recent sequence record]
    split_ifs <;> rfl
  · intro hahead
    rw [if_neg (by omega)]
    split_ifs <;> exact ⟨_, rfl⟩

end RelaySession

/-! ## Moves -/

namespace SessionView

variable {view view' : SessionView} {paid : List (ℕ × RelayRecord)}

/-- The session has charged exactly `paid` and no recovered voucher is under way. -/
structure Charged (view : SessionView) (paid : List (ℕ × RelayRecord)) : Prop where
  session : view.session.Charged paid
  holder : ∀ voucher, view.holder ≠ some (.recovering voucher)

/-- Every move but a recovery charges what its output says. -/
theorem Moves.charged (hmove : Moves C node view output view') (hbounded : view.Bounded)
    (hcharged : view.Charged paid) (hid : view.session.sessionID = sessionID)
    (hrecovered : ∀ voucher, output ≠ .recovered voucher) :
    view'.Charged (paid ++ (output.chargeTo sessionID).toList) := by
  have hown (sequence : ℕ) (record : RelayRecord) {session : RelaySession}
      (hid : session.sessionID = sessionID) :
      ((Output.charged session.sessionID sequence record).chargeTo sessionID).toList =
        [(sequence, record)] := by
    simp [Output.chargeTo, hid]
  have hlt {session : RelaySession} (hnumbered : session.Numbered) :
      session.lastRecordSequence + 1 < 2 ^ 64 := by
    have hsequence := hnumbered.sequence_le
    have hcumulative := hnumbered.cumulative_le
    unfold maxSequence maxBillableBytes at *
    omega
  have hnothing (h : output.chargeTo sessionID = none) :
      paid ++ (output.chargeTo sessionID).toList = paid := by
    rw [h]
    exact append_nil paid
  cases hmove with
  | observeCharged hrecord hobserve =>
    obtain ⟨-, hnext, -, -, recordSet, hfollows, rfl⟩ := observeLocked_charged hobserve
    have hnumbered := hbounded.session.toNumbered
    rw [hown _ _ hid]
    rw [hnumbered.next] at hnext
    refine ⟨hcharged.session.commit hnext ?_ ?_, nofun⟩
    · rw [hnext]
      exact hlt hnumbered
    · exact (add_le_of_le_sub64 hrecord hfollows.fits).2
  | resumeCharged hresume =>
    have hnumbered := hbounded.session.toNumbered
    have hfits := hbounded.queued _ _ rfl
    have hnext := hfits.sequence.trans hnumbered.next
    rw [hown _ _ hid]
    -- both charges are those of the session with its voucher installed
    rcases resume_charged hresume with ⟨-, -, recordSet, hfollows, rfl⟩ |
      ⟨behind, hsome, rfl⟩
    · refine ⟨(hcharged.session.install _).commit hnext (hnext ▸ hlt hnumbered) ?_, nofun⟩
      exact (add_le_of_le_sub64 hfits.record hfollows.fits).2
    · obtain ⟨-, hle, recordSet, rfl⟩ := hfits.behind behind hsome
      refine ⟨(hcharged.session.install _).commit hnext (hnext ▸ hlt hnumbered) ?_, nofun⟩
      exact (add_le_of_le_sub64 hfits.record hle).2
  | observeClaim hrecord hobserve hbody =>
    obtain ⟨-, -, rfl, -⟩ := observeLocked_claim hobserve
    rw [hnothing rfl]
    exact ⟨hcharged.session, nofun⟩
  | resumeClaim hresume hbody =>
    obtain ⟨-, rfl, -⟩ := resume_claim hresume
    rw [hnothing rfl]
    exact ⟨hcharged.session.install _, nofun⟩
  | resumeStopped | settleAssigned =>
    rw [hnothing rfl]
    exact ⟨hcharged.session.install _, nofun⟩
  | recovered hcheck hrecover => exact absurd rfl (hrecovered _)
  | restored => exact absurd rfl (hcharged.holder _)
  | blocked hblocked =>
    rw [hnothing rfl]
    exact ⟨{ hcharged.session with }, nofun⟩
  | refused | answered =>
    rw [hnothing rfl]
    exact ⟨hcharged.session, nofun⟩
  | _ =>
    rw [hnothing rfl]
    exact ⟨hcharged.session, hcharged.holder⟩

end SessionView

/-! ## Runs -/

namespace Pipeline

/-- No recovered voucher of the session has been taken over. -/
def Unrecovered (sessionID : Identifier) (outputs : List Output) : Prop :=
  ∀ voucher : MutualVoucher, .recovered voucher ∈ outputs → voucher.body.sessionID ≠ sessionID

/-- The session has charged what the outputs say. -/
structure Charged (sessionID : Identifier) (pipeline : Pipeline) (outputs : List Output) : Prop where
  bounded : pipeline.Bounded
  absent : pipeline.view sessionID = none → charges sessionID outputs = []
  view : Unrecovered sessionID outputs → ∀ view, pipeline.view sessionID = some view →
    view.Charged (charges sessionID outputs)

theorem Charged.step {outputs : List Output} (h : Charged sessionID pipeline outputs) (event : Event)
    (hrestart : ∀ outcome, event ≠ .restart outcome) :
    Charged sessionID (pipeline.step C J node event).1
      (outputs ++ [(pipeline.step C J node event).2]) := by
  have hkeyed := h.bounded.keyed
  have hsteps := @step_steps C J node _ hkeyed event hrestart sessionID
  have hearlier {output : Output} (hall : Unrecovered sessionID (outputs ++ [output])) :
      Unrecovered sessionID outputs :=
    fun voucher hmem => hall voucher (mem_append_left _ hmem)
  refine ⟨h.bounded.step event, ?_, ?_⟩
  · intro hnone
    rw [charges_append]
    rcases hsteps with ⟨hagree, habout⟩ | ⟨_, -, hopened, -⟩ | ⟨_, _, -, hmoved, -⟩
    · rw [h.absent (hagree.view.symm.trans hnone), chargeTo_of_about habout]
      rfl
    · rw [hnone] at hopened
      cases hopened
    · rw [hnone] at hmoved
      cases hmoved
  · intro hall view' hview'
    rw [charges_append]
    rcases hsteps with ⟨hagree, habout⟩ | ⟨payerID, hnone, hopened, hout⟩ |
      ⟨view, moved, hview, hmoved, hmove⟩
    · rw [chargeTo_of_about habout, toList_none, append_nil]
      exact h.view (hearlier hall) view' (hagree.view.symm.trans hview')
    · obtain rfl := mem_unique hopened hview'
      rw [h.absent hnone, hout]
      exact ⟨⟨rfl, rfl, fun _ _ => by simp [SessionView.fresh, RelaySession.new, Output.chargeTo]⟩,
        nofun⟩
    · obtain rfl := mem_unique hmoved hview'
      have hid := (hkeyed.view hview).session
      refine hmove.charged (h.bounded.view _ _ hview) (h.view (hearlier hall) _ hview) hid ?_
      -- a recovery of this session is among the outputs
      intro voucher hout
      have hsession := hall voucher (mem_append_right _ (mem_singleton.mpr hout.symm))
      rw [hout] at hmove
      cases hmove with
      | recovered hcheck hrecover =>
        exact hsession ((checkRecoveredVoucher_ok hcheck).sessionID.trans hid)

theorem Charged.run (queue : Queue) (events : List Event)
    (hrestart : ∀ event ∈ events, ∀ outcome, event ≠ .restart outcome) :
    Charged sessionID ((blank queue).run C J node events).1
      ((blank queue).run C J node events).2 := by
  have halong : Along (Pipeline.step C J node) (fun _ event => ∀ outcome, event ≠ .restart outcome)
      (blank queue) events := along_of_forall fun event hmem _ => hrestart event hmem
  have hstart : Charged sessionID (blank queue) [] :=
    ⟨(restored_blank queue).bounded, fun _ => rfl, nofun⟩
  exact runSteps_induction (fun _ _ event hevent h => h.step event hevent) halong hstart

/-! ## Calls -/

/-- A step of `observeRecord` gives `addUplink` what it has charged. -/
theorem follow_accounts (nodeID : String) (sequence : ℕ) (record : RelayRecord)
    (progress : RelaySession.Progress) :
    (pipeline.follow C node nodeID sequence record progress).1.accounts =
      (pipeline.follow C node nodeID sequence record progress).2.credit nodeID
        pipeline.accounts := by
  cases progress with
  | returned | charged => rfl
  | claim session snapshot candidate =>
    unfold follow
    dsimp only
    cases pipeline.requestVoucher C node session snapshot with
    | error | ok => rfl

/-- A step of `observeRecord` returns success when the session finds the record again, or charges
it. -/
theorem follow_succeeds {nodeID : String} {sequence : ℕ} {record : RelayRecord}
    {progress : RelaySession.Progress}
    (h : (pipeline.follow C node nodeID sequence record progress).2.succeeds = true) :
    (∃ session, progress = .returned (.ok ()) session) ∨ ∃ session, progress = .charged session ∧
      (pipeline.follow C node nodeID sequence record progress).2 =
        .charged session.sessionID sequence record := by
  cases progress with
  | returned result session =>
    cases result with
    | error => cases h
    | ok => exact .inl ⟨session, rfl⟩
  | charged session => exact .inr ⟨session, rfl, rfl⟩
  | claim session snapshot candidate =>
    unfold follow at h
    dsimp only at h
    cases hrequest : pipeline.requestVoucher C node session snapshot <;>
      simp [hrequest, Output.succeeds] at h

/-- What a step charges to its session is among the charges behind it. -/
theorem mem_charges_charged {outputs : List Output} {sequence : ℕ} {record : RelayRecord} :
    (sequence, record) ∈ charges sessionID (outputs ++ [.charged sessionID sequence record]) := by
  rw [charges_append]
  simp [Output.chargeTo]

/-- Writing back what is there and giving back a lock that is free changes nothing. -/
theorem setSession_unlock (hkeyed : pipeline.Keyed) {session : RelaySession}
    (hsession : pipeline.sessions.get sessionID = some session)
    (hholder : pipeline.holders.get sessionID = none) :
    (pipeline.setSession session).unlock session.sessionID = pipeline := by
  have hid := hkeyed.session _ _ hsession
  have hsessions : pipeline.sessions.set session.sessionID session = pipeline.sessions := by
    apply GoMap.ext
    intro other
    rw [GoMap.get_set]
    split_ifs with hsame
    · rw [hsame, hid, hsession]
    · rfl
  unfold setSession unlock
  rw [hsessions, hid, GoMap.delete_of_none hholder]

/-- A call that returns without a charge leaves the pipeline as it was. -/
theorem observeRecord_returned (hkeyed : pipeline.Keyed) {record : BillableRecord}
    {session : RelaySession} {result : Except RelayError Unit}
    (hguard : pipeline.admitRecord record = .ok session)
    (hholder : pipeline.holders.get record.sessionID = none)
    (hobserve : session.observeLocked C record.sequence ⟨record.bytes, record.recordID⟩ =
      .returned result session) :
    pipeline.observeRecord C node record = (pipeline, .returned result) := by
  unfold observeRecord
  rw [hguard]
  rw [hholder]
  dsimp only
  rw [hobserve]
  exact congrArg (·, Output.returned result)
    (setSession_unlock hkeyed (admitRecord_ok hguard).1 hholder)

section Success

variable {session : RelaySession} {outputs : List Output}
  (hsession : pipeline.sessions.get sessionID = some session)
  (hid : session.sessionID = sessionID)
  (hcharged : session.Charged (charges sessionID outputs))
include hsession hid hcharged

/-- A call of `observeRecord` that succeeds without waiting has its record among the charges. -/
theorem observeRecord_succeeds {record : BillableRecord} (hrecord : record.sessionID = sessionID)
    (h : (pipeline.observeRecord C node record).2.succeeds = true) :
    (record.sequence, ⟨record.bytes, record.recordID⟩) ∈
      charges sessionID (outputs ++ [(pipeline.observeRecord C node record).2]) := by
  unfold observeRecord at h ⊢
  cases hguard : pipeline.admitRecord record with
  | error => simp [hguard, Output.succeeds] at h
  | ok found =>
    obtain rfl := mem_unique hsession (hrecord ▸ (admitRecord_ok hguard).1)
    cases hholder : pipeline.holders.get record.sessionID with
    | some holder => simp [hguard, hholder, Output.succeeds] at h
    | none =>
      simp only [hguard, hholder] at h ⊢
      rcases follow_succeeds h with ⟨_, hreturned⟩ | ⟨_, hcharges, hout⟩
      · -- the session has found the record among its last ones
        have hrecent : session.recent.get record.sequence = some ⟨record.bytes, record.recordID⟩ := by
          have hobserves := observes_observeLocked C session record.sequence
            ⟨record.bytes, record.recordID⟩
          rw [hreturned] at hobserves
          cases hobserves with
          | stays _ hfound => exact hfound rfl
          | advances _ _ _ hadvances => cases hadvances
        rw [charges_append]
        exact mem_append_left _ ((hcharged.recent _ _).mp hrecent).1
      · obtain ⟨-, -, -, -, _, -, rfl⟩ := observeLocked_charged hcharges
        rw [hout, show (session.commit _ _ _).sessionID = _ from hid]
        exact mem_charges_charged

omit hcharged in
/-- So has one that succeeds behind its voucher. -/
theorem resume_succeeds {held : Held} {voucher : MutualVoucher}
    (hholder : pipeline.holders.get sessionID = some (.queued held voucher))
    (h : (pipeline.resume C node sessionID).2.succeeds = true) :
    (held.sequence, held.record) ∈
      charges sessionID (outputs ++ [(pipeline.resume C node sessionID).2]) := by
  unfold Pipeline.resume at h ⊢
  simp only [hsession, hholder] at h ⊢
  rcases follow_succeeds h with ⟨_, hreturned⟩ | ⟨charged, hcharges, hout⟩
  · unfold RelaySession.resume at hreturned
    cases hcandidate : held.candidate with
    | some => simp [hcandidate] at hreturned
    | none =>
      have hadvances := advances_advanceWithin C (session.install voucher) held.sequence
        held.record 0
      simp only [hcandidate] at hreturned
      rw [hreturned] at hadvances
      cases hadvances
  · have hsame : charged.sessionID = sessionID := by
      rcases resume_charged hcharges with ⟨-, -, _, -, rfl⟩ | ⟨_, -, rfl⟩
      all_goals exact hid
    rw [hout, hsame]
    exact mem_charges_charged

end Success

/-- In every run without a restart, for a session that has taken over no recovered voucher: the
bytes that were charged to it are its `cumulative`, and the charged sequences are `1 ..
lastRecordSequence`, each of them once. A call of `observeRecord` that succeeds, at once or behind
its voucher, has its record charged at its sequence, and the steps give to `addUplink` exactly what
they charge. Where the call is admitted and the session is not blocked, a record that was already
charged and is among the last `maximumRecentBillingRecords` returns success, any other record at or
below the last sequence is refused, and so is one ahead of the next sequence; none of these changes
anything. -/
theorem charged_exactly_once (C : Crypto) (J : EnvelopeJson) (node : RelayNode) (queue : Queue)
    (events : List Event) (hrestart : ∀ event ∈ events, ∀ outcome, event ≠ .restart outcome)
    {pipeline : Pipeline} {outputs : List Output}
    (hrun : (blank queue).run C J node events = (pipeline, outputs)) (sessionID : Identifier)
    (hunrecovered : Unrecovered sessionID outputs) (session : RelaySession)
    (hsession : pipeline.sessions.get sessionID = some session) :
    chargedBytes (charges sessionID outputs) = session.cumulative ∧
      (charges sessionID outputs).map Prod.fst = List.range' 1 session.lastRecordSequence ∧
      (∀ record, record.sessionID = sessionID →
        (pipeline.observeRecord C node record).2.succeeds = true →
        (record.sequence, ⟨record.bytes, record.recordID⟩) ∈
          charges sessionID (outputs ++ [(pipeline.observeRecord C node record).2])) ∧
      (∀ held voucher, pipeline.holders.get sessionID = some (.queued held voucher) →
        (pipeline.resume C node sessionID).2.succeeds = true → (held.sequence, held.record) ∈
          charges sessionID (outputs ++ [(pipeline.resume C node sessionID).2])) ∧
      (∀ record, (pipeline.observeRecord C node record).1.accounts =
        (pipeline.observeRecord C node record).2.credit record.nodeID pipeline.accounts) ∧
      (∀ held voucher, pipeline.holders.get sessionID = some (.queued held voucher) →
        (pipeline.resume C node sessionID).1.accounts =
          (pipeline.resume C node sessionID).2.credit held.nodeID pipeline.accounts) ∧
      ∀ record, record.sessionID = sessionID → pipeline.admitRecord record = .ok session →
        pipeline.holders.get sessionID = none → session.blocked = none →
        (record.sequence ≤ session.lastRecordSequence → pipeline.observeRecord C node record =
          (pipeline, .returned (if
              (record.sequence, ⟨record.bytes, record.recordID⟩) ∈ charges sessionID outputs ∧
                session.lastRecordSequence < record.sequence + maximumRecentBillingRecords
            then .ok () else .error .staleSequence))) ∧
        (session.nextRecordSequence < record.sequence → ∃ err,
          pipeline.observeRecord C node record = (pipeline, .returned (.error err))) := by
  have hcharged := @Charged.run C J node sessionID queue events hrestart
  rw [hrun] at hcharged
  have hkeyed := hcharged.bounded.keyed
  have hview : pipeline.view sessionID = some ⟨session, _, _⟩ :=
    view_eq_some.mpr ⟨hsession, rfl, rfl⟩
  -- the invariant of the run, for this session
  have hsessionCharged := (hcharged.view hunrecovered _ hview).session
  have hid := hkeyed.session _ _ hsession
  refine ⟨hsessionCharged.total, hsessionCharged.sequences,
    fun record => observeRecord_succeeds hsession hid hsessionCharged,
    fun held voucher => resume_succeeds hsession hid, ?_, ?_, ?_⟩
  · intro record
    unfold observeRecord
    cases pipeline.admitRecord record with
    | error err => rfl
    | ok found =>
      cases pipeline.holders.get record.sessionID with
      | some holder => rfl
      | none => exact follow_accounts _ _ _ _
  · intro held voucher hholder
    unfold Pipeline.resume
    rw [hsession, hholder]
    exact follow_accounts _ _ _ _
  · rintro record rfl hguard hholder hfree
    -- a record that is not the next one is looked up and never charged
    have hcalls := @RelaySession.Charged.observeLocked C session record.sequence
      ⟨record.bytes, record.recordID⟩ _ hsessionCharged
      (hcharged.bounded.view _ _ hview).session.toNumbered hfree
    constructor
    · intro hold
      exact observeRecord_returned hkeyed hguard hholder (hcalls.1 hold)
    · intro hahead
      obtain ⟨err, hobserve⟩ := hcalls.2 hahead
      exact ⟨err, observeRecord_returned hkeyed hguard hholder hobserve⟩

/-- The sample run, and the record of it once more. -/
def sampleCharged : Pipeline × List Output :=
  samplePipeline.run .sample samplePayerJson sampleNode sampleCharge

theorem charged_exactly_once_sample : ∃ session : RelaySession,
    sampleCharged.1.sessions.get sampleSessionID = some session ∧ session.cumulative = 5 ∧
      chargedBytes (charges sampleSessionID sampleCharged.2) = session.cumulative ∧
      sampleCharged.1.observeRecord .sample sampleNode (sampleBillable 1 5) =
        (sampleCharged.1, .returned (.ok ())) := by
  have hguard : (sampleCharged.1.admitRecord (sampleBillable 1 5)).toOption.map
      (fun session => (session.cumulative, session.lastRecordSequence, session.blocked)) =
      some (5, 1, none) := by decide +kernel
  have hcharges : charges sampleSessionID sampleCharged.2 =
      [(1, ⟨5, Bytes32.copy (putBE 8 1)⟩)] := by decide +kernel
  have hholder : (sampleCharged.1.holders.get sampleSessionID).isNone = true := by decide +kernel
  have hrecovered : (sampleCharged.2.all fun output => !output.isRecovered) = true := by
    decide +kernel
  cases hsession : sampleCharged.1.admitRecord (sampleBillable 1 5) with
  | error err =>
    rw [hsession] at hguard
    cases hguard
  | ok session =>
    rw [hsession] at hguard
    have hfields := some.inj hguard
    simp only [Prod.mk.injEq] at hfields
    obtain ⟨hcumulative, hlast, hfree⟩ := hfields
    have hid : (sampleBillable 1 5).sessionID = sampleSessionID := rfl
    have hget := (admitRecord_ok hsession).1
    rw [hid] at hget
    have hrun : (blank (Queue.blank queueLimits fileDomain)).run .sample samplePayerJson sampleNode
        sampleCharge = (sampleCharged.1, sampleCharged.2) := by
      rw [sampleCharged, samplePipeline]
    obtain ⟨htotal, -, -, -, -, -, hcalls⟩ := charged_exactly_once .sample samplePayerJson sampleNode
      (Queue.blank queueLimits fileDomain) sampleCharge
      (by simp [sampleCharge, sampleEnvironment]) hrun sampleSessionID
      (fun voucher hmem => by cases all_eq_true.mp hrecovered _ hmem) session hget
    refine ⟨session, hget, hcumulative, htotal, ?_⟩
    have hduplicate := (hcalls (sampleBillable 1 5) hid hsession
      (isNone_iff_eq_none.mp hholder) hfree).1 hlast.ge
    rw [hduplicate, hcharges, hlast]
    rfl

/-- The payer's control peer goes away: the record that was charged comes again and is refused. -/
theorem duplicate_refused_without_control :
    let run := samplePipeline.run .sample samplePayerJson sampleNode
      (sampleCharge ++ [.environment none .empty sampleCharged.1.accounts])
    charges sampleSessionID run.2 = [(1, ⟨5, Bytes32.copy (putBE 8 1)⟩)] ∧
      (match (run.1.observeRecord .sample sampleNode (sampleBillable 1 5)).2 with
        | .returned (.error .controlUnavailable) => true
        | _ => false) = true := by
  decide +kernel

end Pipeline

end NatP2P.Billing
