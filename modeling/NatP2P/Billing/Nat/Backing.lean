import Mathlib.Algebra.BigOperators.Intervals
import NatP2P.Billing.Nat.Session

/-!
# Sessions whose watermark is a sum

The snapshots of a payer's session and its watermark cover the sequences up to some record, and the
bytes of each are the sum of what was assigned to these sequences. The three paths that move the
watermark keep this: a sealed record, the records that waited for it, and a reconciliation, which
adopts a watermark of the Relay only where the sum is known here.
-/

namespace NatP2P.Billing

open GoMap Option NatSession

variable {session session' : NatSession} {lastVoucher : Option MutualVoucher} {assigned : ℕ → ℕ}
  {sequence bytes : ℕ} {next : NatRecord} {recordID : Identifier} {relayState target : Snapshot}
  {result : Reconciliation}

/-! ## Sessions whose snapshots are sums -/

/-- The bytes assigned to the sequences up to `n`. -/
def sumTo (assigned : ℕ → ℕ) (n : ℕ) : ℕ := ∑ sequence ∈ Finset.Icc 1 n, assigned sequence

theorem sumTo_pred {n : ℕ} (hpos : 1 ≤ n) : sumTo assigned n = sumTo assigned (n - 1) + assigned n := by
  obtain ⟨n, rfl⟩ := Nat.exists_eq_add_of_le' hpos
  exact Finset.sum_Icc_succ_top (by omega) _

/-- A later assignment does not change the sum. -/
theorem sumTo_congr {assigned' : ℕ → ℕ} {n : ℕ}
    (h : ∀ sequence ≤ n, assigned' sequence = assigned sequence) :
    sumTo assigned' n = sumTo assigned n := by
  refine Finset.sum_congr rfl fun sequence hmem => ?_
  exact h sequence (Finset.mem_Icc.mp hmem).2

/-- What the assignments to a session say about it. A session whose next record has a zero
identifier is stuck: its watermark may be wrong, but it never advances again. -/
structure NatSession.Backed (assigned : ℕ → ℕ) (session : NatSession) : Prop where
  advance_pos : 1 ≤ session.nextAdvance
  advance_le : session.nextAdvance ≤ session.nextAssigned
  assigned_le : session.nextAssigned ≤ maxSequence + 1
  assigned_pos : ∀ sequence, 1 ≤ sequence → sequence < session.nextAssigned → 0 < assigned sequence
  window : ∀ sequence bytes, session.assignedBytes.get sequence = some bytes →
    assigned sequence = bytes ∧ session.nextAdvance ≤ sequence ∧ sequence < session.nextAssigned ∧
      0 < bytes ∧ bytes ≤ cumulativeWindowBytes
  waiting : ∀ sequence record, session.pending.get sequence = some record →
    assigned sequence = record.bytes ∧ session.nextAdvance ≤ sequence ∧
      sequence < session.nextAssigned ∧ 0 < record.bytes ∧ record.bytes ≤ cumulativeWindowBytes
  snapshots : ∀ cumulative snapshot, session.snapshots.get cumulative = some snapshot →
    snapshot.cumulative = cumulative ∧ cumulative = sumTo assigned snapshot.lastRecordSequence ∧
      snapshot.lastRecordSequence < session.nextAdvance
  watermark : session.cumulative = sumTo assigned (session.nextAdvance - 1) ∨
    ∃ record, session.pending.get session.nextAdvance = some record ∧
      record.recordID = Bytes32.zero

/-- The last voucher of a session's channel covers records that the session has advanced over. -/
def CoveredBy (assigned : ℕ → ℕ) (session : NatSession) (voucher : MutualVoucher) : Prop :=
  voucher.body.cumulativeUniqueBytes = sumTo assigned voucher.body.lastRecordSequence ∧
    voucher.body.lastRecordSequence < session.nextAdvance

theorem NatSession.backed_new (relayID : Identifier) : (NatSession.new relayID).Backed assigned := by
  constructor
  · exact le_rfl
  · exact le_rfl
  · exact Nat.le_add_left 1 maxSequence
  · intro sequence hpos hlt
    change sequence < 1 at hlt
    omega
  · nofun
  · nofun
  · nofun
  · exact .inl rfl

/-! ## Sending -/

/-- What every call keeps of a session: its Relay, and the records it has advanced over. -/
def NatSession.Precedes (session session' : NatSession) : Prop :=
  session'.relayID = session.relayID ∧ session.nextAdvance ≤ session'.nextAdvance

theorem NatSession.Precedes.refl (session : NatSession) : session.Precedes session := ⟨rfl, le_rfl⟩

theorem NatSession.Precedes.trans {session'' : NatSession} (h : session.Precedes session')
    (h' : session'.Precedes session'') : session.Precedes session'' :=
  ⟨h'.1.trans h.1, h.2.trans h'.2⟩

/-- The session goes on as `session'`, whose snapshots are sums as well. -/
abbrev NatSession.Continues (assigned : ℕ → ℕ) (session session' : NatSession) : Prop :=
  session'.Backed assigned ∧ session.Precedes session'

theorem NatSession.Backed.stays (h : session.Backed assigned) : session.Continues assigned session :=
  ⟨h, .refl session⟩

theorem NatSession.Continues.trans {session'' : NatSession} (h : session.Continues assigned session')
    (h' : session'.Continues assigned session'') : session.Continues assigned session'' :=
  ⟨h'.1, h.2.trans h'.2⟩

/-- A new assignment is behind everything that the session has advanced over. -/
theorem NatSession.Backed.assign (h : session.Backed assigned)
    (hpos : 0 < bytes) (hle : bytes ≤ cumulativeWindowBytes)
    (hassign : session.assign bytes = .ok (sequence, session')) :
    sequence = session.nextAssigned ∧ session.Precedes session' ∧
      session'.Backed (fun other => if other = sequence then bytes else assigned other) := by
  unfold NatSession.assign at hassign
  simp only [check_bind_ok_iff, pure_ok_iff, Prod.mk.injEq,
    not_or, gt_iff_lt, Nat.not_lt] at hassign
  obtain ⟨⟨hsequence, hmax⟩, -, rfl, rfl⟩ := hassign
  have hadvance := h.advance_le
  have hnext : add64 session.nextAssigned 1 = session.nextAssigned + 1 :=
    add64_eq (by unfold maxSequence at hmax; omega)
  -- the sequences below the next one keep their bytes
  have hsame (n : ℕ) (hn : n < session.nextAssigned) :
      sumTo (fun other => if other = session.nextAssigned then bytes else assigned other) n =
        sumTo assigned n :=
    sumTo_congr fun other hother => if_neg (by omega)
  refine ⟨rfl, .refl session, ?_⟩
  constructor
  · exact h.advance_pos
  · change session.nextAdvance ≤ add64 session.nextAssigned 1
    omega
  · change add64 session.nextAssigned 1 ≤ _
    omega
  · intro other hone hlt
    change other < add64 session.nextAssigned 1 at hlt
    split_ifs with heq
    · exact hpos
    · exact h.assigned_pos other hone (by omega)
  · intro other found hget
    rw [get_set] at hget
    dsimp only
    split_ifs at hget ⊢ with heq
    · obtain rfl : bytes = found := some.inj hget
      exact ⟨rfl, by omega, by omega, hpos, hle⟩
    · obtain ⟨hbytes, hlow, hhigh, hrest⟩ := h.window other found hget
      exact ⟨hbytes, hlow, by omega, hrest⟩
  · intro other record hget
    change _ ∧ _ ∧ other < add64 session.nextAssigned 1 ∧ _
    obtain ⟨hbytes, hlow, hhigh, hrest⟩ := h.waiting other record hget
    exact ⟨by rw [if_neg (by omega), hbytes], hlow, by omega, hrest⟩
  · intro cumulative snapshot hget
    obtain ⟨hcumulative, hsum, hlt⟩ := h.snapshots cumulative snapshot hget
    exact ⟨hcumulative, by rw [hsame _ (by omega), ← hsum], hlt⟩
  · rcases h.watermark with hsum | hstuck
    · left
      change session.cumulative = sumTo _ (session.nextAdvance - 1)
      rw [hsame _ (by omega), hsum]
    · exact .inr hstuck

/-- Confirming touches the confirmations only. -/
theorem NatSession.confirmLoop_eq (fuel : ℕ) (session : NatSession) :
    ∃ sequence early, NatSession.confirmLoop fuel session =
      { session with confirmedSequence := sequence, confirmedOutOfOrder := early } := by
  induction fuel generalizing session with
  | zero => exact ⟨_, _, rfl⟩
  | succ fuel ih =>
    unfold confirmLoop
    dsimp only
    split_ifs
    · obtain ⟨sequence, early, heq⟩ := ih _
      exact ⟨sequence, early, heq⟩
    · exact ⟨_, _, rfl⟩

theorem NatSession.confirm_eq (h : session.confirm sequence = .ok session') :
    ∃ confirmed early, session' =
      { session with confirmedSequence := confirmed, confirmedOutOfOrder := early } := by
  unfold confirm at h
  simp only [check_bind_ok_iff] at h
  obtain ⟨-, h⟩ := h
  split_ifs at h
  · obtain rfl := Except.ok.inj h
    exact ⟨_, _, rfl⟩
  · obtain rfl := Except.ok.inj h
    obtain ⟨confirmed, early, heq⟩ := confirmLoop_eq session.confirmedOutOfOrder.card
      { session with confirmedSequence := sequence }
    exact ⟨confirmed, early, heq⟩
  · obtain rfl := Except.ok.inj h
    exact ⟨_, _, rfl⟩
  · simp only [check_bind_ok_iff, pure_ok_iff] at h
    exact ⟨_, _, h.2.symm⟩

/-! ## Sealed records -/

/-- Trimming forgets snapshots, and changes nothing else that matters here. -/
def NatSession.Trims (session session' : NatSession) : Prop :=
  ∃ snapshots order, session' = { session with snapshots := snapshots, snapshotOrder := order } ∧
    ∀ cumulative snapshot, snapshots.get cumulative = some snapshot →
      session.snapshots.get cumulative = some snapshot

theorem NatSession.Trims.refl (session : NatSession) : session.Trims session :=
  ⟨_, _, rfl, fun _ _ hget => hget⟩

theorem NatSession.trims_trimLoop (session : NatSession) (attempts : ℕ) :
    session.Trims (session.trimLoop attempts) := by
  fun_induction trimLoop session attempts with
  | case1 session attempts hlen => exact .refl session
  | case2 session attempts hlen horder => exact .refl session
  | case3 session attempts hlen oldest order horder hnone ih =>
    obtain ⟨snapshots, order, hloop, hsub⟩ := ih
    exact ⟨snapshots, order, hloop, hsub⟩
  | case4 session attempts hlen oldest order horder snapshot hsome hretained hturned =>
    exact ⟨_, _, rfl, fun _ _ hget => hget⟩
  | case5 session attempts hlen oldest order horder snapshot hsome hretained hturned ih =>
    obtain ⟨snapshots, order, hloop, hsub⟩ := ih
    exact ⟨snapshots, order, hloop, hsub⟩
  | case6 session attempts hlen oldest order horder snapshot hsome hretained ih =>
    obtain ⟨snapshots, order, hloop, hsub⟩ := ih
    refine ⟨snapshots, order, hloop, fun cumulative snapshot hget => ?_⟩
    have hdeleted := hsub cumulative snapshot hget
    exact (get_delete_eq_some.mp hdeleted).2

theorem NatSession.trims_trimSnapshots (session : NatSession) :
    session.Trims session.trimSnapshots := by
  have hloop : session.Trims
      (if session.snapshots.len ≤ maximumNatBillingReconciliationSnapshots then session
        else session.trimLoop 0) := by
    split_ifs
    · exact .refl session
    · exact session.trims_trimLoop 0
  obtain ⟨snapshots, order, heq, hsub⟩ := hloop
  unfold trimSnapshots
  rw [heq]
  dsimp only
  split_ifs
  · exact ⟨snapshots, order, rfl, hsub⟩
  · exact ⟨snapshots, _, rfl, hsub⟩

/-- Marking a snapshot touches the claimable snapshots only. -/
theorem NatSession.mark_eq (session : NatSession) (snapshot : Snapshot) (cut : Prop)
    [Decidable cut] :
    ∃ claimable cumulatives, (if cut then session.appendClaimable snapshot else session) =
      { session with claimable := claimable, claimableCumulative := cumulatives } := by
  unfold appendClaimable
  split_ifs <;> exact ⟨_, _, rfl⟩

/-- Moving the watermark adds at most the snapshot it moves to. -/
theorem NatSession.moveTo_eq (session : NatSession) (snapshot : Snapshot) (full : Bool) :
    ∃ claimable cumulatives snapshots order, session.moveTo snapshot full = { session with
        claimable := claimable, claimableCumulative := cumulatives
        snapshots := snapshots, snapshotOrder := order, cumulative := snapshot.cumulative
        lastRecord := snapshot.lastRecord, recordSet := snapshot.recordSet } ∧
      ∀ cumulative found, snapshots.get cumulative = some found →
        (session.snapshots.set snapshot.cumulative snapshot).get cumulative = some found := by
  unfold moveTo
  dsimp only
  generalize hmoved : mk _ _ _ _ _ _ _ _ _ _ _ _ _ _ _ _ _ = moved
  obtain ⟨claimable, cumulatives, hmark⟩ := moved.mark_eq snapshot (full = true)
  rw [hmark]
  generalize hmarked : mk _ _ _ _ _ _ _ _ _ _ _ _ _ _ _ _ _ = marked
  obtain ⟨snapshots, order, htrim, hsub⟩ := marked.trims_trimSnapshots
  rw [htrim]
  subst hmarked hmoved
  exact ⟨claimable, cumulatives, snapshots, order, rfl, hsub⟩

/-- What a round of the loop of `observe` does: it stops, it gets stuck at a record that `Advance`
refuses, or it moves over the record. -/
theorem NatSession.advanceNext_cases (C : Crypto) (lastVoucher : Option MutualVoucher)
    (session : NatSession) (next : NatRecord) :
    session.cumulative > sub64 maxBillableBytes next.bytes ∧
      session.advanceNext C lastVoucher next = (some .cumulativeOverflow, session) ∨
    session.cumulative ≤ sub64 maxBillableBytes next.bytes ∧ ∃ claimable cumulatives,
        ((∃ reason cumulative lastRecord recordSet,
          advance C session.recordSet next.recordID session.nextAdvance next.bytes = .error reason ∧
          session.advanceNext C lastVoucher next = (some (.record reason), { session with
            claimable := claimable, claimableCumulative := cumulatives, cumulative := cumulative
            lastRecord := lastRecord, recordSet := recordSet })) ∨
        ∃ recordSet full, advance C session.recordSet next.recordID session.nextAdvance next.bytes =
            .ok recordSet ∧
          session.advanceNext C lastVoucher next = (none, (NatSession.moveTo { session with
              claimable := claimable, claimableCumulative := cumulatives }
            ⟨add64 session.cumulative next.bytes, next.recordID, session.nextAdvance, recordSet⟩
              full).passNext)) := by
  by_cases hoverflow : session.cumulative > sub64 maxBillableBytes next.bytes
  · refine .inl ⟨hoverflow, ?_⟩
    unfold advanceNext
    rw [if_pos hoverflow]
  · refine .inr ⟨Nat.not_lt.mp hoverflow, ?_⟩
    unfold advanceNext
    rw [if_neg hoverflow]
    dsimp only
    generalize decide (sub64 session.cumulative (session.windowBase lastVoucher) > 0 ∧
      next.bytes > sub64 cumulativeWindowBytes
        (sub64 session.cumulative (session.windowBase lastVoucher))) = cut
    obtain ⟨claimable, cumulatives, hmark⟩ := session.mark_eq session.snapshot (cut = true)
    rw [hmark]
    refine ⟨claimable, cumulatives, ?_⟩
    cases hadvance : advance C session.recordSet next.recordID session.nextAdvance next.bytes with
    | error reason => exact .inl ⟨reason, _, _, _, rfl, rfl⟩
    | ok recordSet => exact .inr ⟨recordSet, _, rfl, rfl⟩

/-- The watermark is right unless the session is stuck. -/
theorem NatSession.Backed.cumulative_eq (h : session.Backed assigned)
    (hfree : ∀ record, session.pending.get session.nextAdvance = some record →
      record.recordID ≠ Bytes32.zero) :
    session.cumulative = sumTo assigned (session.nextAdvance - 1) := by
  rcases h.watermark with hsum | ⟨record, hget, hzero⟩
  · exact hsum
  · exact absurd hzero (hfree record hget)

/-- Moving over the next record keeps the sums. -/
theorem NatSession.Backed.passNext (h : session.Backed assigned) {full : Bool}
    {recordSet : Digest} (hget : session.pending.get session.nextAdvance = some next)
    (hrecordID : next.recordID ≠ Bytes32.zero)
    (hoverflow : session.cumulative ≤ sub64 maxBillableBytes next.bytes) :
    session.Continues assigned (session.moveTo ⟨add64 session.cumulative next.bytes, next.recordID,
      session.nextAdvance, recordSet⟩ full).passNext := by
  obtain ⟨claimable, cumulatives, snapshots, order, hmove, hsub⟩ := session.moveTo_eq
    ⟨add64 session.cumulative next.bytes, next.recordID, session.nextAdvance, recordSet⟩ full
  rw [hmove]
  have hadvance := h.advance_pos
  have hassigned := h.assigned_le
  obtain ⟨hbytes, -, hlt, hpos, hwindow⟩ := h.waiting session.nextAdvance next hget
  have hnext : add64 session.nextAdvance 1 = session.nextAdvance + 1 :=
    add64_eq (by unfold maxSequence at hassigned; omega)
  have hfits : next.bytes ≤ maxBillableBytes := hwindow.trans (by decide)
  rw [sub64_eq hfits (by decide)] at hoverflow
  have hcumulative : add64 session.cumulative next.bytes = session.cumulative + next.bytes :=
    add64_eq (by unfold maxBillableBytes at hoverflow hfits; omega)
  -- the watermark is not stuck, so it is the sum up to the last record
  have hsum : session.cumulative + next.bytes = sumTo assigned session.nextAdvance := by
    rw [h.cumulative_eq fun record hrecord => by
      obtain rfl : next = record := mem_unique hget hrecord
      exact hrecordID, ← hbytes, sumTo_pred hadvance]
  rw [hcumulative] at hsub ⊢
  refine ⟨?_, rfl, by change session.nextAdvance ≤ add64 session.nextAdvance 1; omega⟩
  constructor
  · change 1 ≤ add64 session.nextAdvance 1
    omega
  · change add64 session.nextAdvance 1 ≤ session.nextAssigned
    omega
  · exact h.assigned_le
  · exact h.assigned_pos
  · intro sequence bytes hassignedBytes
    change (session.assignedBytes.delete session.nextAdvance).get sequence = _ at hassignedBytes
    change _ ∧ add64 session.nextAdvance 1 ≤ sequence ∧ _
    obtain ⟨hne, hold⟩ := get_delete_eq_some.mp hassignedBytes
    obtain ⟨hbytes', hlow, hrest⟩ := h.window sequence bytes hold
    exact ⟨hbytes', by omega, hrest⟩
  · intro sequence record hpending
    change (session.pending.delete session.nextAdvance).get sequence = some record at hpending
    change _ ∧ add64 session.nextAdvance 1 ≤ sequence ∧ _
    obtain ⟨hne, hold⟩ := get_delete_eq_some.mp hpending
    obtain ⟨hbytes', hlow, hrest⟩ := h.waiting sequence record hold
    exact ⟨hbytes', by omega, hrest⟩
  · intro cumulative snapshot hsnapshot
    change _ ∧ _ ∧ _ < add64 session.nextAdvance 1
    have hkept := hsub cumulative snapshot hsnapshot
    -- the snapshot is the new one or was there before
    rcases get_set_eq_some.mp hkept with ⟨rfl, rfl⟩ | ⟨-, hold⟩
    · exact ⟨rfl, hsum, by rw [hnext]; exact Nat.lt_succ_self _⟩
    · obtain ⟨hkey, hsnapshotSum, hbefore⟩ := h.snapshots cumulative snapshot hold
      exact ⟨hkey, hsnapshotSum, by omega⟩
  · left
    change session.cumulative + next.bytes = sumTo assigned (add64 session.nextAdvance 1 - 1)
    rw [hsum, hnext, Nat.add_sub_cancel]

/-- A round of the loop of `observe`. -/
theorem NatSession.Backed.advanceNext (C : Crypto) (lastVoucher : Option MutualVoucher)
    (h : session.Backed assigned) (hget : session.pending.get session.nextAdvance = some next) :
    session.Continues assigned (session.advanceNext C lastVoucher next).2 := by
  rcases session.advanceNext_cases C lastVoucher next with ⟨-, heq⟩ | ⟨hoverflow, claimable,
    cumulatives, ⟨reason, cumulative, lastRecord, recordSet, hadvance, heq⟩ | ⟨recordSet, full, hadvance, heq⟩⟩
  · rw [heq]
    exact h.stays
  · -- the sequence and the bytes are positive, so it is the identifier that `Advance` refuses
    have hzero : next.recordID = Bytes32.zero := by
      by_contra hne
      have hpos := (h.waiting _ _ hget).2.2.2.1
      rw [advance_ok_iff.mpr ⟨hne, Nat.ne_of_gt h.advance_pos, hpos.ne', rfl⟩] at hadvance
      cases hadvance
    rw [heq]
    exact ⟨{ h with watermark := .inr ⟨next, hget, hzero⟩ }, rfl, le_rfl⟩
  · rw [heq]
    have hmarked : NatSession.Backed assigned
        { session with claimable := claimable, claimableCumulative := cumulatives } := { h with }
    exact hmarked.passNext hget (advance_ok_iff.mp hadvance).1 hoverflow

theorem NatSession.Backed.drain (C : Crypto) (lastVoucher : Option MutualVoucher)
    (h : session.Backed assigned) (fuel : ℕ) :
    session.Continues assigned (session.drain C lastVoucher fuel).2 := by
  induction fuel generalizing session with
  | zero => exact h.stays
  | succ fuel ih =>
    unfold drain
    cases hget : session.pending.get session.nextAdvance with
    | none => exact h.stays
    | some next =>
      have hround := h.advanceNext C lastVoucher hget
      dsimp only
      generalize session.advanceNext C lastVoucher next = round at hround
      obtain ⟨outcome, advanced⟩ := round
      cases outcome with
      | some err => exact hround
      | none => exact hround.trans (ih hround.1)

/-- A record is put into `pending` only if its bytes are those that were assigned. -/
theorem NatSession.accept_cases {session' : NatSession}
    (haccept : session.accept sequence bytes recordID = .ok (some session')) :
    session.pending.get sequence = none ∧ session.nextAdvance ≤ sequence ∧
      session.assignedBytes.get sequence = some bytes ∧
      session' = { session with pending := session.pending.set sequence ⟨bytes, recordID⟩ } := by
  unfold accept at haccept
  cases hpending : session.pending.get sequence with
  | some existing =>
    rw [hpending] at haccept
    simp only [bind_ok_iff, pure_ok_iff, reduceCtorEq, and_false, exists_false]
      at haccept
  | none =>
    rw [hpending] at haccept
    split_ifs at haccept with hlt
    · simp only [Except.ok.injEq, reduceCtorEq] at haccept
    · simp only [check_bind_ok_iff, pure_ok_iff, not_not, some.injEq] at haccept
      exact ⟨rfl, Nat.not_lt.mp hlt, haccept.1, haccept.2.2.2.symm⟩

theorem NatSession.Backed.accept (h : session.Backed assigned)
    (haccept : session.accept sequence bytes recordID = .ok (some session')) :
    session.Continues assigned session' := by
  obtain ⟨hnew, -, hassigned, rfl⟩ := accept_cases haccept
  refine ⟨{ h with waiting := ?_, watermark := ?_ }, .refl session⟩
  · intro other record hget
    rcases get_set_eq_some.mp hget with ⟨rfl, rfl⟩ | ⟨-, hold⟩
    · exact h.window other bytes hassigned
    · exact h.waiting other record hold
  · rcases h.watermark with hsum | ⟨record, hget, hzero⟩
    · exact .inl hsum
    · -- a stuck session keeps the record it is stuck at
      refine .inr ⟨record, ?_, hzero⟩
      have hne : session.nextAdvance ≠ sequence := by
        rintro heq
        rw [heq, hnew] at hget
        cases hget
      rw [get_set_ne hne]
      exact hget

theorem NatSession.Backed.observe (C : Crypto) (lastVoucher : Option MutualVoucher)
    (h : session.Backed assigned) (sequence bytes : ℕ) (recordID : Identifier) :
    session.Continues assigned (session.observe C lastVoucher sequence bytes recordID).2 := by
  unfold NatSession.observe
  split
  · exact h.stays
  · exact h.stays
  · next accepted haccept =>
    have haccepted := h.accept haccept
    exact haccepted.trans (haccepted.1.drain C lastVoucher accepted.pending.len)

/-! ## Reconciliation -/

/-- The target of a reconciliation is the last voucher's watermark or what the Relay has stated. -/
theorem NatSession.recoveryTarget_cases {recovery : Option MutualVoucher}
    (h : NatSession.recoveryTarget lastVoucher relayState = .ok (recovery, target)) :
    (∃ voucher, lastVoucher = some voucher ∧ recovery = some voucher ∧
      target = voucher.body.watermark) ∨ recovery = none ∧ target = relayState := by
  unfold recoveryTarget at h
  cases lastVoucher with
  | none =>
    obtain ⟨rfl, rfl⟩ := Prod.mk.inj (Except.ok.inj h)
    exact .inr ⟨rfl, rfl⟩
  | some voucher =>
    dsimp only at h
    split_ifs at h
    all_goals obtain ⟨rfl, rfl⟩ := Prod.mk.inj (Except.ok.inj h)
    · exact .inl ⟨voucher, rfl, rfl, rfl⟩
    · exact .inr ⟨rfl, rfl⟩

/-- A Relay that is ahead by one record states the bytes that were assigned to it. -/
theorem NatSession.assignedAdvanceMatches_cases {claimable : Bool}
    (h : session.assignedAdvanceMatches lastVoucher relayState = (true, claimable)) :
    relayState.lastRecordSequence = add64 session.snapshot.lastRecordSequence 1 ∧
      ∃ bytes, session.assignedBytes.get relayState.lastRecordSequence = some bytes ∧
        session.cumulative ≤ sub64 maxBillableBytes bytes ∧
        add64 session.cumulative bytes = relayState.cumulative := by
  unfold assignedAdvanceMatches at h
  dsimp only at h
  split at h
  · cases h
  · next hsequence =>
    cases hget : session.assignedBytes.get relayState.lastRecordSequence with
    | none =>
      rw [hget] at h
      cases h
    | some bytes =>
      rw [hget] at h
      dsimp only at h
      split at h
      · cases h
      · next hcumulative =>
        simp only [not_or, not_not, ne_eq, Nat.not_lt, gt_iff_lt] at hsequence hcumulative
        exact ⟨hsequence.1, bytes, rfl, hcumulative.1, hcumulative.2⟩

/-- When the watermark is the session's own, setting it changes nothing. -/
theorem NatSession.move_eq (session : NatSession) (target : Snapshot)
    (hpos : 1 ≤ session.nextAdvance) (hlt : session.nextAdvance < 2 ^ 64) :
    (if target = session.snapshot then session else { session with
        cumulative := target.cumulative, lastRecord := target.lastRecord
        recordSet := target.recordSet, nextAdvance := add64 target.lastRecordSequence 1 }) =
      { session with
        cumulative := target.cumulative, lastRecord := target.lastRecord
        recordSet := target.recordSet, nextAdvance := add64 target.lastRecordSequence 1 } := by
  split_ifs with htarget
  · have hadvance : add64 session.snapshot.lastRecordSequence 1 = session.nextAdvance := by
      change add64 (sub64 session.nextAdvance 1) 1 = session.nextAdvance
      rw [sub64_eq hpos hlt, add64_eq (by omega), Nat.sub_add_cancel hpos]
    rw [htarget, hadvance]
    rfl
  · rfl

/-- What adopting a watermark changes. A snapshot behind it is an old one, or the watermark. -/
theorem NatSession.adopt_eq (session : NatSession) (target : Snapshot)
    (assignedAdvance claimable : Bool) (hpos : 1 ≤ session.nextAdvance)
    (hlt : session.nextAdvance < 2 ^ 64) :
    ∃ claimable' cumulatives snapshots order,
      session.adopt target assignedAdvance claimable = { session with
        cumulative := target.cumulative, lastRecord := target.lastRecord
        recordSet := target.recordSet, nextAdvance := add64 target.lastRecordSequence 1
        nextAssigned := add64 target.lastRecordSequence 1
        confirmedSequence := target.lastRecordSequence, confirmedOutOfOrder := ∅
        assignedBytes := .empty, reconciliationDraining := false
        claimable := claimable', claimableCumulative := cumulatives
        snapshots := snapshots, snapshotOrder := order } ∧
      ∀ cumulative snapshot, snapshots.get cumulative = some snapshot →
        session.snapshots.get cumulative = some snapshot ∨
          target.cumulative = cumulative ∧ target = snapshot := by
  unfold adopt
  dsimp only
  generalize hnoted : (if assignedAdvance = true then _ else session) = noted
  -- first the target is noted as a snapshot, then the session moves
  have hmarked : ∃ claimable' cumulatives snapshots order, noted = { session with
        claimable := claimable', claimableCumulative := cumulatives
        snapshots := snapshots, snapshotOrder := order } ∧
      ∀ cumulative snapshot, snapshots.get cumulative = some snapshot →
        session.snapshots.get cumulative = some snapshot ∨
          target.cumulative = cumulative ∧ target = snapshot := by
    subst hnoted
    cases assignedAdvance with
    | false => exact ⟨_, _, _, _, rfl, fun _ _ hget => .inl hget⟩
    | true =>
      obtain ⟨claimable', cumulatives, hmark⟩ := mark_eq { session with
        snapshots := session.snapshots.set target.cumulative target
        snapshotOrder := session.snapshotOrder ++ [target.cumulative] } target (claimable = true)
      refine ⟨claimable', cumulatives, _, _, hmark, fun cumulative snapshot hget => ?_⟩
      rcases get_set_eq_some.mp hget with ⟨heq, hfound⟩ | ⟨-, hold⟩
      · exact .inr ⟨heq.symm, hfound⟩
      · exact .inl hold
  obtain ⟨claimable', cumulatives, snapshots, order, rfl, hsub⟩ := hmarked
  have hkept (cumulative : ℕ) (snapshot : Snapshot)
      (hget : (snapshots.retain fun cumulative => cumulative ≤ target.cumulative).get cumulative =
        some snapshot) : snapshots.get cumulative = some snapshot := by
    rw [get_retain] at hget
    split_ifs at hget
    exact hget
  have hmoved := move_eq { session with
    claimable := claimable', claimableCumulative := cumulatives
    snapshots := snapshots, snapshotOrder := order } target hpos hlt
  change (if target = session.snapshot then _ else _) = _ at hmoved
  rw [hmoved]
  exact ⟨_, _, _, order, rfl, fun cumulative snapshot hget =>
    hsub cumulative snapshot (hkept cumulative snapshot hget)⟩

/-- Adopting a watermark whose sum is known keeps the sums. -/
theorem NatSession.Backed.adopt (h : session.Backed assigned)
    (hpending : ∀ sequence, session.pending.get sequence = none)
    (hsum : target.cumulative = sumTo assigned target.lastRecordSequence)
    (hlow : session.nextAdvance ≤ target.lastRecordSequence + 1)
    (hhigh : target.lastRecordSequence + 1 ≤ session.nextAssigned)
    (assignedAdvance claimable : Bool) :
    session.Continues assigned (session.adopt target assignedAdvance claimable) := by
  have hassigned := h.assigned_le
  unfold maxSequence at hassigned
  obtain ⟨claimable', cumulatives, snapshots, order, hadopt, hsub⟩ := session.adopt_eq target
    assignedAdvance claimable h.advance_pos (by omega)
  rw [hadopt, add64_eq (by omega)]
  refine ⟨?_, rfl, hlow⟩
  constructor
  · exact Nat.le_add_left 1 _
  · exact le_rfl
  · exact hhigh.trans h.assigned_le
  · intro sequence hpos hlt
    exact h.assigned_pos sequence hpos (lt_of_lt_of_le hlt hhigh)
  · intro sequence bytes hget
    cases hget
  · intro sequence record hget
    rw [hpending sequence] at hget
    cases hget
  · intro cumulative snapshot hget
    rcases hsub cumulative snapshot hget with hold | ⟨hkey, rfl⟩
    · obtain ⟨hcumulative, hsnapshot, hlt⟩ := h.snapshots cumulative snapshot hold
      exact ⟨hcumulative, hsnapshot, lt_of_lt_of_le hlt hlow⟩
    · exact ⟨hkey, hkey ▸ hsum, Nat.lt_succ_self _⟩
  · exact .inl hsum

/-- What a reconciliation has established when it succeeds, and what it does then. -/
theorem NatSession.reconcile_cases
    (h : session.reconcile lastVoucher relayState = .ok (result, session')) :
    session.pending.len = 0 ∧ ∃ recovery target assignedAdvance claimable,
      NatSession.recoveryTarget lastVoucher relayState = .ok (recovery, target) ∧
      ((recovery.isSome ∨ relayState = session.snapshot ∨ relayState = Snapshot.zero ∨
          session.snapshots.get relayState.cumulative = some relayState) ∨
        session.assignedAdvanceMatches lastVoucher relayState = (true, claimable)) ∧
      (session' = { session with reconciliationDraining := true } ∨ session' = session ∨
        session.snapshot.lastRecordSequence ≤ target.lastRecordSequence ∧
          session' = session.adopt target assignedAdvance claimable) := by
  unfold reconcile at h
  simp only [bind_ok_iff, exists_unit_iff, check_ok_iff, not_not] at h
  obtain ⟨-, hpending, -, ⟨recovery, target⟩, htarget, h⟩ := h
  generalize hunproved : decide (recovery.isNone = true ∧ relayState ≠ session.snapshot ∧
    relayState ≠ Snapshot.zero ∧ session.snapshots.get relayState.cumulative ≠ some relayState) =
      unproved at h
  generalize hmatch : (if unproved = true then session.assignedAdvanceMatches lastVoucher relayState
    else (false, false)) = advances at h
  obtain ⟨hproved, -, h⟩ := h
  refine ⟨hpending, recovery, target, advances.1, advances.2, htarget, ?_, ?_⟩
  · cases unproved with
    | false =>
      left
      have hknown := of_decide_eq_false hunproved
      simp only [not_and_or, not_not, ne_eq, isNone_iff_eq_none] at hknown
      rcases hknown with hrecovery | hrest
      · exact .inl (isSome_iff_ne_none.mpr hrecovery)
      · exact .inr hrest
    | true =>
      right
      rw [if_pos rfl] at hmatch
      have hadvances : advances.1 = true := by
        by_contra hfalse
        exact hproved ⟨rfl, hfalse⟩
      rw [hmatch, ← hadvances]
  · split_ifs at h with hactive hbehind
    all_goals obtain ⟨-, rfl⟩ := Prod.mk.inj (Except.ok.inj h)
    · exact .inl rfl
    · exact .inr (.inl rfl)
    · exact .inr (.inr ⟨Nat.not_lt.mp fun hlt => hbehind (.inl hlt), rfl⟩)

/-- The watermark that a reconciliation adopts is known here: it is the last voucher's, the
session's own, a snapshot, or one record ahead. -/
theorem NatSession.Backed.reconcile (h : session.Backed assigned)
    (hvoucher : ∀ voucher ∈ lastVoucher, CoveredBy assigned session voucher)
    (hreconcile : session.reconcile lastVoucher relayState = .ok (result, session')) :
    session.Continues assigned session' := by
  obtain ⟨hlen, recovery, target, assignedAdvance, claimable, htarget, hknown, hafter⟩ :=
    reconcile_cases hreconcile
  have hpending (sequence : ℕ) : session.pending.get sequence = none :=
    get_eq_none_of_len_eq_zero hlen sequence
  have hpos := h.advance_pos
  have hadvance := h.advance_le
  have hassigned := h.assigned_le
  have hbound : session.nextAdvance < 2 ^ 64 := by
    unfold maxSequence at hassigned
    omega
  have hcurrent : session.cumulative = sumTo assigned (session.nextAdvance - 1) :=
    h.cumulative_eq fun record hget => by
      rw [hpending] at hget
      cases hget
  have hlast : session.snapshot.lastRecordSequence = session.nextAdvance - 1 := sub64_eq hpos hbound
  have hsum : target.cumulative = sumTo assigned target.lastRecordSequence ∧
      target.lastRecordSequence + 1 ≤ session.nextAssigned := by
    rcases recoveryTarget_cases htarget with ⟨voucher, hlastVoucher, -, rfl⟩ | ⟨rfl, rfl⟩
    · obtain ⟨hcovered, hbefore⟩ := hvoucher voucher hlastVoucher
      exact ⟨hcovered, hbefore.trans_le hadvance⟩
    · rcases hknown with (hnone | rfl | rfl | hsnapshot) | hmatch
      · cases hnone
      · rw [hlast]
        exact ⟨hcurrent, by omega⟩
      · exact ⟨rfl, hpos.trans hadvance⟩
      · obtain ⟨-, hsnapshotSum, hbefore⟩ := h.snapshots _ _ hsnapshot
        exact ⟨hsnapshotSum, hbefore.trans_le hadvance⟩
      · obtain ⟨hnext, bytes, hget, hfits, hcumulative⟩ :=
          assignedAdvanceMatches_cases hmatch
        obtain ⟨hbytes, -, hlt, -, hwindow⟩ := h.window _ _ hget
        rw [hlast, add64_eq (by omega), Nat.sub_add_cancel hpos] at hnext
        have hmax : bytes ≤ maxBillableBytes := hwindow.trans (by decide)
        rw [sub64_eq hmax (by decide)] at hfits
        rw [add64_eq (by unfold maxBillableBytes at hfits hmax; omega)] at hcumulative
        refine ⟨?_, hlt⟩
        rw [← hcumulative, ← hbytes, hnext, hcurrent, sumTo_pred hpos]
  rcases hafter with rfl | rfl | ⟨hlow, rfl⟩
  · exact ⟨{ h with }, .refl session⟩
  · exact h.stays
  · exact h.adopt hpending hsum.1 (by omega) hsum.2 assignedAdvance claimable

end NatP2P.Billing
