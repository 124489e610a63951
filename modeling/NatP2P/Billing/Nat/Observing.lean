import NatP2P.Billing.Nat.Evidence

/-!
# Observing sealed records

`observe` stores a record in `pending` before its loop moves over the records that are next. When
the loop fails, the record stays there, and the next attempt finds it and reports success without
moving on: `overflow_keeps_the_record` is such a call. A call that fails in front of the loop leaves
everything as it was, one that fails in it never does.

Reference: `p2pnode/impl/natnode/billing_meter.go:1170-1263`.
-/

namespace NatP2P.Billing

variable {C : Crypto} {lastVoucher : Option MutualVoucher} {session : NatSession}

namespace NatSession

/-- The session takes a record of these bytes into `pending`: it is new, was assigned here and is
not too far ahead. -/
def Stores (session : NatSession) (sequence bytes : ℕ) : Prop :=
  session.pending.get sequence = none ∧ session.nextAdvance ≤ sequence ∧
    session.assignedBytes.get sequence = some bytes ∧
    (session.nextAdvance < sequence →
      sub64 sequence session.nextAdvance ≤ maximumNatBillingEvidenceEntries ∧
        session.pending.len < maximumNatBillingEvidenceEntries)

/-- The records that follow each other in `pending` from `sequence` on can be counted behind
`cumulative`: none of them exceeds the limit of the bytes, and `Advance` accepts each. -/
def chargeable (pending : GoMap ℕ NatRecord) : ℕ → ℕ → ℕ → Bool
  | 0, _, _ => true
  | fuel + 1, sequence, cumulative =>
    match pending.get sequence with
    | none => true
    | some next =>
      cumulative ≤ sub64 maxBillableBytes next.bytes ∧ next.recordID ≠ Bytes32.zero ∧
        sequence ≠ 0 ∧ next.bytes ≠ 0 ∧
        chargeable (pending.delete sequence) fuel (add64 sequence 1)
          (add64 cumulative next.bytes)

theorem accept_some_iff {sequence bytes : ℕ} {recordID : Identifier} {accepted : NatSession} :
    session.accept sequence bytes recordID = .ok (some accepted) ↔ session.Stores sequence bytes ∧
      { session with pending := session.pending.set sequence ⟨bytes, recordID⟩ } = accepted := by
  unfold accept Stores
  cases hget : session.pending.get sequence with
  | some existing =>
    dsimp only
    rw [check_bind_ok_iff]
    simp
  | none =>
    dsimp only
    split_ifs with hpassed
    · simp
      omega
    · simp only [check_bind_ok_iff, pure_ok_iff, Option.some.injEq]
      grind

/-- **The loop fails** just when a record that follows cannot be counted. -/
theorem drain_fails_iff {fuel : ℕ} : (∃ err, (session.drain C lastVoucher fuel).1 = .error err) ↔
    chargeable session.pending fuel session.nextAdvance session.cumulative = false := by
  induction fuel generalizing session with
  | zero => simp [drain, chargeable]
  | succ fuel ih =>
    rw [drain, chargeable]
    cases hget : session.pending.get session.nextAdvance with
    | none => simp
    | some next =>
      dsimp only
      rcases session.advanceNext_cases C lastVoucher next with
        ⟨hover, hstops⟩ | ⟨hfits, _, _, ⟨reason, _, _, _, hadvance, hstuck⟩ |
          ⟨recordSet, full, hadvance, hmoves⟩⟩
      · rw [hstops]
        simp [Nat.not_le.mpr hover]
      · rw [hstuck]
        have hrefused : ¬ (next.recordID ≠ Bytes32.zero ∧ session.nextAdvance ≠ 0 ∧
            next.bytes ≠ 0) := by
          rintro ⟨hid, hsequence, hbytes⟩
          cases hadvance.symm.trans (advance_ok_iff.mpr ⟨hid, hsequence, hbytes, rfl⟩)
        simp only [Except.error.injEq, exists_eq', true_iff, decide_eq_false_iff_not]
        tauto
      · rw [hmoves]
        obtain ⟨hid, hsequence, hbytes, -⟩ := advance_ok_iff.mp hadvance
        obtain ⟨_, _, _, _, hmove, -⟩ := moveTo_eq _ _ full
        rw [hmove]
        dsimp only
        rw [ih]
        simp [hfits, hid, hsequence, hbytes, passNext]

/-- Whether the loop fails or not, behind it the record still waits or its assignment is used up. -/
theorem drain_keeps {sequence : ℕ} {fuel : ℕ}
    (h : session.pending.get sequence ≠ none ∨ session.assignedBytes.get sequence = none) :
    (session.drain C lastVoucher fuel).2.pending.get sequence ≠ none ∨
      (session.drain C lastVoucher fuel).2.assignedBytes.get sequence = none := by
  induction fuel generalizing session with
  | zero => exact h
  | succ fuel ih =>
    rw [drain]
    cases hget : session.pending.get session.nextAdvance with
    | none => exact h
    | some next =>
      dsimp only
      rcases session.advanceNext_cases C lastVoucher next with
        ⟨-, hstops⟩ | ⟨-, _, _, ⟨reason, _, _, _, -, hstuck⟩ | ⟨recordSet, full, -, hmoves⟩⟩
      · rw [hstops]
        exact h
      · rw [hstuck]
        exact h
      · rw [hmoves]
        obtain ⟨_, _, _, _, hmove, -⟩ := moveTo_eq _ _ full
        rw [hmove]
        refine ih ?_
        -- the round takes both entries of the record at `nextAdvance` away
        simp only [passNext, GoMap.get_delete]
        split_ifs
        · exact .inr rfl
        · exact h

end NatSession

/-- **A failed call changes nothing** if and only if its record is not stored, or all records that
follow can be counted (and then the call does not fail). -/
theorem NatMeter.observe_error_unchanged (C : Crypto) (meter : NatMeter) (message : SealedMessage)
    (e2eRecordID : Bytes) :
    ((∃ err, (meter.observe C message e2eRecordID).1 = .error err) → ∀ sessionID,
      (meter.observe C message e2eRecordID).2.sessions.get sessionID =
        meter.sessions.get sessionID) ↔
    ∀ recordID session, message.header.sequence ≠ 0 →
      NatMeter.sealedRecord C message e2eRecordID = .ok recordID →
      meter.sessions.get message.header.sessionID = some session →
      session.Stores message.header.sequence message.header.bytes →
      let pending := session.pending.set message.header.sequence ⟨message.header.bytes, recordID⟩
      NatSession.chargeable pending pending.len session.nextAdvance session.cumulative = true := by
  unfold NatMeter.observe
  split_ifs with hzero
  · simp [hzero]
  cases hsealed : NatMeter.sealedRecord C message e2eRecordID with
  | error err => simp
  | ok recordID =>
    cases hget : meter.sessions.get message.header.sessionID with
    | none => simp
    | some session =>
      have hstores := @NatSession.accept_some_iff session message.header.sequence
        message.header.bytes recordID
      dsimp only [NatSession.observe]
      cases haccept : session.accept message.header.sequence message.header.bytes recordID with
      | error err =>
        refine iff_of_true (fun _ sessionID => ?_) ?_
        · simp only [setSession, GoMap.get_set]
          split_ifs with hsame
          · rw [hsame, hget]
          · rfl
        · rintro _ _ - ⟨⟩ ⟨⟩ hstored
          cases haccept.symm.trans (hstores.mpr ⟨hstored, rfl⟩)
      | ok accepted =>
        cases accepted with
        | none =>
          refine iff_of_true (fun ⟨_, hfails⟩ => nomatch hfails) ?_
          rintro _ _ - ⟨⟩ ⟨⟩ hstored
          cases haccept.symm.trans (hstores.mpr ⟨hstored, rfl⟩)
        | some accepted =>
          have hfails := @NatSession.drain_fails_iff C
            (meter.lastVoucher message.header.sessionID session) accepted accepted.pending.len
          have hkept := @NatSession.drain_keeps C
            (meter.lastVoucher message.header.sessionID session) accepted message.header.sequence
            accepted.pending.len
          obtain ⟨hstored, rfl⟩ := hstores.mp haccept
          constructor
          · rintro hunchanged _ _ - ⟨⟩ ⟨⟩ -
            by_contra hcharge
            have hsame := hunchanged (hfails.mpr (Bool.eq_false_of_not_eq_true hcharge))
              message.header.sessionID
            rw [hget, setSession, GoMap.get_set_self, Option.some.injEq] at hsame
            -- a session that failed in its loop has the record, or has used up its assignment
            rw [hsame, hstored.1, hstored.2.2.1, GoMap.get_set_self] at hkept
            simpa using hkept (.inl nofun)
          · intro hcharge hfailed
            have hcharge := hcharge _ _ hzero rfl rfl hstored
            rw [hfails.mp hfailed] at hcharge
            cases hcharge

/-- A session at the limit of the bytes, with one byte assigned to the message that is next. -/
def sampleExhausted : NatMeter :=
  (NatMeter.new .sample samplePayerKey samplePayerKey false).setSession sampleSessionID
    { NatSession.new samplePayerID with
      nextAssigned := 2, assignedBytes := GoMap.empty.set 1 1, cumulative := maxBillableBytes }

theorem overflow_keeps_the_record :
    let failed := sampleExhausted.observe .sample sampleMessage sampleMessageID
    let retried := failed.2.observe .sample sampleMessage sampleMessageID
    failed.1 = .error .cumulativeOverflow ∧ retried.1 = .ok () ∧
      (sampleExhausted.sessions.get sampleSessionID).map (fun s => (s.pending.len, s.nextAdvance)) =
        some (0, 1) ∧
      (retried.2.sessions.get sampleSessionID).map (fun s => (s.pending.len, s.nextAdvance)) =
        some (1, 1) := by
  decide +kernel

/-- The message with a sequence that was not assigned. -/
def sampleUnassigned : SealedMessage := { sampleMessage with header := ⟨sampleSessionID, 2, 1⟩ }

theorem observe_error_unchanged_sample :
    (sampleExhausted.observe .sample sampleUnassigned sampleMessageID).1 =
      .error .assignmentMismatch ∧ ∀ sessionID,
    (sampleExhausted.observe .sample sampleUnassigned sampleMessageID).2.sessions.get sessionID =
      sampleExhausted.sessions.get sessionID := by
  have hfails : (sampleExhausted.observe .sample sampleUnassigned sampleMessageID).1 =
      .error .assignmentMismatch := by decide +kernel
  refine ⟨hfails, (NatMeter.observe_error_unchanged ..).mpr ?_ ⟨_, hfails⟩⟩
  rintro _ session - - hget ⟨-, -, hassigned, -⟩
  cases hget
  cases hassigned

end NatP2P.Billing
