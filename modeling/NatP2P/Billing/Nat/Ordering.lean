import NatP2P.Billing.Nat.Observing
import NatP2P.Common.Run

/-!
# Records in any order

A record that `observe` gets early waits in `pending`, and the call with the record in front of it
moves over both. So a session is a function of the set of records that it has got: it has moved over
those that follow each other without a gap, and the others wait. The order of the calls does not
matter, nor how often each record comes. The same holds of the meter that has the session.

Not all calls succeed: one that takes the session over the limit of the bytes fails, as in
`exhausted_session_fails`.

Reference: `p2pnode/impl/natnode/billing_meter.go:1194-1277`.
-/

namespace NatP2P.Billing

open GoMap

namespace NatSession

variable {C : Crypto} {lastVoucher : Option MutualVoucher} {session session' : NatSession}
  {pending : GoMap ℕ NatRecord} {next : NatRecord}

/-! ## The records that wait do not matter to a round -/

/-- The session with other records that wait. -/
def waiting (session : NatSession) (pending : GoMap ℕ NatRecord) : NatSession :=
  { session with pending := pending }

theorem trimLoop_waiting (session : NatSession) (attempts : ℕ) :
    (session.waiting pending).trimLoop attempts = (session.trimLoop attempts).waiting pending := by
  fun_induction trimLoop session attempts
  all_goals
    rw [trimLoop]
    grind [waiting, retains]

theorem appendClaimable_waiting (snapshot : Snapshot) :
    (session.waiting pending).appendClaimable snapshot =
      (session.appendClaimable snapshot).waiting pending := by
  grind [waiting, appendClaimable]

theorem moveTo_waiting (snapshot : Snapshot) (full : Bool) :
    (session.waiting pending).moveTo snapshot full =
      (session.moveTo snapshot full).waiting pending := by
  have htrim : ∀ s : NatSession, (s.waiting pending).trimSnapshots =
      s.trimSnapshots.waiting pending := by
    grind [waiting, trimSnapshots, trimLoop_waiting]
  unfold moveTo
  rw [← htrim]
  split_ifs
  · rw [← appendClaimable_waiting]
    rfl
  · rfl

/-- The end of a round that succeeds. -/
theorem passNext_waiting (cut full : Bool) (marked snapshot : Snapshot) :
    let moved := (if cut then session.appendClaimable marked else session).moveTo snapshot full
    ((if cut then (session.waiting pending).appendClaimable marked
        else session.waiting pending).moveTo snapshot full).passNext =
      moved.passNext.waiting (pending.delete session.nextAdvance) ∧
    moved.passNext.pending = session.pending.delete session.nextAdvance ∧
    moved.passNext.nextAdvance = add64 session.nextAdvance 1 ∧
    moved.passNext.assignedBytes = session.assignedBytes.delete session.nextAdvance := by
  rw [appendClaimable_waiting, ← apply_ite (waiting · pending), moveTo_waiting]
  obtain ⟨_, _, hmark⟩ := session.mark_eq marked (cut = true)
  rw [hmark]
  generalize hmarked : mk _ _ _ _ _ _ _ _ _ _ _ _ _ _ _ _ _ = marked
  obtain ⟨_, _, _, _, hmove, -⟩ := marked.moveTo_eq snapshot full
  rw [hmove, ← hmarked]
  exact ⟨rfl, rfl, rfl, rfl⟩

/-- A round that succeeds does so whatever else waits. -/
theorem advanceNext_waiting (h : session.advanceNext C lastVoucher next = (none, session'))
    (pending : GoMap ℕ NatRecord) :
    (session.waiting pending).advanceNext C lastVoucher next =
        (none, session'.waiting (pending.delete session.nextAdvance)) ∧
      session'.pending = session.pending.delete session.nextAdvance ∧
      session'.nextAdvance = add64 session.nextAdvance 1 ∧
      session'.assignedBytes = session.assignedBytes.delete session.nextAdvance := by
  unfold advanceNext at h ⊢
  split_ifs at h with hlimit
  · cases h
  rw [if_neg (show ¬ (session.waiting pending).cumulative > _ from hlimit)]
  cases hadvance : advance C session.recordSet next.recordID session.nextAdvance next.bytes with
  | error reason =>
    rw [hadvance] at h
    cases h
  | ok recordSet =>
    rw [hadvance] at h
    obtain rfl := (Prod.mk.inj h).2
    rw [show advance C (session.waiting pending).recordSet next.recordID
      (session.waiting pending).nextAdvance next.bytes = _ from hadvance]
    exact ⟨congrArg (Prod.mk none) (passNext_waiting ..).1, (@passNext_waiting _ pending ..).2⟩

end NatSession

/-! ## The session behind a set of records -/

/-- What the calls of `observe` have in common: the session at the beginning, the record of each
sequence, and what else the meter knows. -/
structure Intake where
  C : Crypto
  lastVoucher : Option MutualVoucher
  session : NatSession
  record : ℕ → NatRecord

namespace Intake

variable {m : Intake} {assigned : ℕ → ℕ} {seen sequences : Set ℕ} {got : Finset ℕ} {n k : ℕ}
  {s s' : NatSession} {order : List ℕ}

/-- A call of `observe`. -/
def observe (m : Intake) (s : NatSession) (k : ℕ) : NatSession × Except NatError Unit :=
  (s.observe m.C m.lastVoucher k (m.record k).bytes (m.record k).recordID).swap

/-- Calls of `observe` with the records of these sequences. -/
def run (m : Intake) (order : List ℕ) : NatSession × List (Except NatError Unit) :=
  runSteps m.observe m.session order

/-- The session when it has moved over `n` records. -/
def passed (m : Intake) : ℕ → NatSession
  | 0 => m.session
  | n + 1 => ((m.passed n).advanceNext m.C m.lastVoucher (m.record (m.session.nextAdvance + n))).2

/-- A record that the session has got, or that waited in it. -/
def Seen (m : Intake) (seen : Set ℕ) (k : ℕ) : Prop :=
  m.session.nextAdvance ≤ k ∧ (k ∈ seen ∨ (m.session.pending.get k).isSome)

/-- The limits of the evidence allow a record when the session has got the records `got`: it is not
behind the first one that is missing, or it has come already, or it is not too far behind that one
and not too many wait. -/
def Allows (m : Intake) (got : Finset ℕ) (k : ℕ) : Prop :=
  ∀ n, (∀ i < n, m.Seen got (m.session.nextAdvance + i)) →
    ¬ m.Seen got (m.session.nextAdvance + n) →
    k ≤ m.session.nextAdvance + n ∨ m.Seen got k ∨
      (k - (m.session.nextAdvance + n) ≤ maximumNatBillingEvidenceEntries ∧
        ((got ∪ m.session.pending.keys).filter (m.session.nextAdvance + n ≤ ·)).card <
          maximumNatBillingEvidenceEntries)

/-- They allow each record of an order when those in front of it have come. -/
def Within (m : Intake) (order : List ℕ) : Prop :=
  ∀ before k after, order = before ++ k :: after → m.Allows before.toFinset k

/-- The records with these sequences were prepared in the session, and their bytes do not exceed the
limit. -/
structure Prepared (m : Intake) (assigned : ℕ → ℕ) (sequences : Set ℕ) : Prop where
  backed : m.session.Backed assigned
  drained : m.session.pending.get m.session.nextAdvance = none
  waiting : ∀ k r, m.session.pending.get k = some r → r = m.record k
  assignedBytes : ∀ k ∈ sequences, m.session.nextAdvance ≤ k →
    m.session.assignedBytes.get k = some (m.record k).bytes
  recordID : ∀ k, m.Seen sequences k → (m.record k).recordID ≠ Bytes32.zero
  fits : ∀ k, m.Seen sequences k → sumTo assigned k ≤ maxBillableBytes

/-- The session `s` has got the records `seen` and has moved over `n` of them. -/
structure Stands (m : Intake) (assigned : ℕ → ℕ) (seen : Set ℕ) (n : ℕ) (s : NatSession) :
    Prop where
  backed : s.Backed assigned
  relayID : s.relayID = m.session.relayID
  nextAdvance : s.nextAdvance = m.session.nextAdvance + n
  below : ∀ i < n, m.Seen seen (m.session.nextAdvance + i)
  pending : ∀ k r, s.pending.get k = some r ↔ m.Seen seen k ∧ s.nextAdvance ≤ k ∧ r = m.record k
  assignedBytes : ∀ k, s.nextAdvance ≤ k → s.assignedBytes.get k = m.session.assignedBytes.get k
  moved : s.waiting (m.passed n).pending = m.passed n

/-- It is at the first record that it has not got. -/
def Settled (m : Intake) (assigned : ℕ → ℕ) (seen : Set ℕ) (s : NatSession) : Prop :=
  ∃ n, m.Stands assigned seen n s ∧ ¬ m.Seen seen (m.session.nextAdvance + n)

section

variable (hp : m.Prepared assigned sequences)
include hp

/-- The session as it is at the beginning. -/
theorem Prepared.settled : m.Settled assigned ∅ m.session := by
  refine ⟨0, ⟨hp.backed, rfl, rfl, nofun, fun k r => ⟨fun hget => ?_, ?_⟩, fun _ _ => rfl, rfl⟩, ?_⟩
  · have hle := (hp.backed.waiting k r hget).2.1
    exact ⟨⟨hle, .inr (by rw [hget]; rfl)⟩, hle, hp.waiting k r hget⟩
  · rintro ⟨⟨-, hmem | hsome⟩, -, rfl⟩
    · cases hmem
    · obtain ⟨r, hget⟩ := Option.isSome_iff_exists.mp hsome
      rw [hget, hp.waiting k r hget]
  · rintro ⟨-, hmem | hsome⟩
    · cases hmem
    · rw [Nat.add_zero, hp.drained] at hsome
      cases hsome

/-- A round of the loop moves over a record that the session has got. -/
theorem Prepared.round (hseen : seen ⊆ sequences) (h : m.Stands assigned seen n s)
    (hnext : m.Seen seen (m.session.nextAdvance + n)) :
    ∃ next s', s.pending.get s.nextAdvance = some next ∧
      s.advanceNext m.C m.lastVoucher next = (none, s') ∧ s'.pending.len + 1 = s.pending.len ∧
      m.Stands assigned seen (n + 1) s' := by
  rw [← h.nextAdvance] at hnext
  have hget := (h.pending _ _).mpr ⟨hnext, le_rfl, rfl⟩
  have hbacked := h.backed.advanceNext m.C m.lastVoucher hget
  obtain ⟨hbytes, -, hlt, hpos, -⟩ := h.backed.waiting _ _ hget
  have hposition := h.backed.advance_pos
  have hassigned := h.backed.assigned_le
  have hknown : m.Seen sequences s.nextAdvance :=
    ⟨hnext.1, hnext.2.imp_left fun hmem => hseen hmem⟩
  -- the sum up to the record is what was counted and its bytes
  have hsum := @sumTo_pred assigned _ hposition
  rw [← h.backed.cumulative_eq fun r hr => ?_] at hsum
  · have hfits := hp.fits _ hknown
    rcases s.advanceNext_cases m.C m.lastVoucher (m.record s.nextAdvance) with
      ⟨hover, -⟩ | ⟨-, _, _, ⟨reason, _, _, _, hadvance, -⟩ | ⟨_, _, -, heq⟩⟩
    · rw [sub64_eq (by omega) (by decide)] at hover
      omega
    · rw [advance_ok_iff.mpr ⟨hp.recordID _ hknown, by omega, by omega, rfl⟩] at hadvance
      cases hadvance
    · obtain ⟨hwaiting, hpending, hmoved, hrest⟩ :=
        NatSession.advanceNext_waiting heq (m.passed n).pending
      have hadd : add64 s.nextAdvance 1 = s.nextAdvance + 1 :=
        add64_eq (by unfold maxSequence at hassigned; omega)
      rw [heq] at hbacked
      generalize NatSession.passNext _ = s' at *
      refine ⟨_, s', hget, heq, ?_, hbacked.1, hbacked.2.1.trans h.relayID, ?_, ?_, ?_, ?_, ?_⟩
      · rw [hpending]
        exact len_delete_of_get hget
      · rw [hmoved, hadd, h.nextAdvance, Nat.add_assoc]
      · intro i hi
        rcases Nat.lt_succ_iff_lt_or_eq.mp hi with hi | rfl
        · exact h.below i hi
        · rw [← h.nextAdvance]
          exact hnext
      · intro k r
        rw [hpending, hmoved, hadd, get_delete]
        split_ifs with hk
        · subst hk
          simp
        · rw [h.pending]
          have : s.nextAdvance ≤ k ↔ s.nextAdvance + 1 ≤ k := by omega
          rw [this]
      · intro k hk
        rw [hrest, get_delete_ne (by omega)]
        exact h.assignedBytes k (by omega)
      · rw [h.moved, h.nextAdvance] at hwaiting
        rw [passed, hwaiting]
        rfl
  · rw [hget] at hr
    cases hr
    exact hp.recordID _ hknown

/-- The loop of `observe` goes on up to the first record that the session has not got. -/
theorem Prepared.drain (hseen : seen ⊆ sequences) (fuel : ℕ)
    (h : m.Stands assigned seen n s) (hfuel : s.pending.len ≤ fuel) :
    (s.drain m.C m.lastVoucher fuel).1 = .ok () ∧
      m.Settled assigned seen (s.drain m.C m.lastVoucher fuel).2 := by
  induction fuel generalizing n s with
  | zero =>
    refine ⟨rfl, n, h, fun hnext => ?_⟩
    obtain ⟨next, s', -, -, hlen, -⟩ := hp.round hseen h hnext
    omega
  | succ fuel ih =>
    rw [NatSession.drain]
    by_cases hnext : m.Seen seen (m.session.nextAdvance + n)
    · obtain ⟨next, s', hget, heq, hlen, hstands⟩ := hp.round hseen h hnext
      rw [hget]
      dsimp only
      rw [heq]
      exact ih hstands (by omega)
    · have hnone : s.pending.get s.nextAdvance = none := by
        rw [Option.eq_none_iff_forall_ne_some]
        intro r hr
        exact hnext (h.nextAdvance ▸ ((h.pending _ _).mp hr).1)
      rw [hnone]
      exact ⟨rfl, n, h, hnext⟩

omit hp in
/-- The records that wait are those that have come and are not passed. -/
theorem Stands.len_pending (h : m.Stands assigned got n s) : s.pending.len =
    ((got ∪ m.session.pending.keys).filter (m.session.nextAdvance + n ≤ ·)).card := by
  rw [GoMap.len, ← h.nextAdvance]
  congr 1
  ext k
  rw [s.pending.mem_keys, Option.isSome_iff_exists, Finset.mem_filter, Finset.mem_union,
    m.session.pending.mem_keys]
  constructor
  · rintro ⟨r, hr⟩
    obtain ⟨⟨-, hknown⟩, hle, -⟩ := (h.pending k r).mp hr
    exact ⟨hknown, hle⟩
  · rintro ⟨hknown, hle⟩
    have hadvance := h.nextAdvance
    exact ⟨_, (h.pending k _).mpr ⟨⟨by omega, hknown⟩, hle, rfl⟩⟩

/-- A record that the session has got already changes nothing, and a new one waits with the
others. -/
theorem Prepared.accept (hk : k ∈ sequences) (h : m.Stands assigned got n s)
    (hnext : ¬ m.Seen got (m.session.nextAdvance + n)) (hallows : m.Allows got k) :
    (s.accept k (m.record k).bytes (m.record k).recordID = .ok none ∧
        (m.session.nextAdvance ≤ k → m.Seen got k)) ∨
      s.accept k (m.record k).bytes (m.record k).recordID =
        .ok (some (s.waiting (s.pending.set k (m.record k)))) ∧ s.nextAdvance ≤ k := by
  have hadvance := h.nextAdvance
  unfold NatSession.accept
  cases hget : s.pending.get k with
  | some r =>
    obtain ⟨hknown, -, rfl⟩ := (h.pending k r).mp hget
    refine .inl ⟨?_, fun _ => hknown⟩
    simp [check]
  | none =>
    split_ifs with hlt
    · refine .inl ⟨rfl, fun hle => ?_⟩
      have hbelow := h.below (k - m.session.nextAdvance) (by omega)
      rwa [Nat.add_sub_cancel' hle] at hbelow
    · have hassigned := hp.assignedBytes k hk (by omega)
      have hwindow := (hp.backed.window k _ hassigned).2.2.1
      have hmax := hp.backed.assigned_le
      -- a record behind the first missing one that does not wait yet is within both limits
      have hroom : k > s.nextAdvance →
          sub64 k s.nextAdvance ≤ maximumNatBillingEvidenceEntries ∧
            s.pending.len < maximumNatBillingEvidenceEntries := by
        intro hbehind
        rcases hallows n h.below hnext with hle | hknown | ⟨hgap, hwaiting⟩
        · omega
        · rw [(h.pending k _).mpr ⟨hknown, by omega, rfl⟩] at hget
          cases hget
        · rw [sub64_eq (by omega) (by unfold maxSequence at hmax; omega), h.len_pending, hadvance]
          exact ⟨hgap, hwaiting⟩
      rw [h.assignedBytes k (by omega), hassigned]
      simp only [check, ne_eq, not_true_eq_false, if_false]
      rw [if_neg fun hgap => Nat.not_lt.mpr (hroom hgap.1).1 hgap.2,
        if_neg fun hlimit => Nat.not_lt.mpr hlimit.2 (hroom hlimit.1).2]
      exact .inr ⟨rfl, by omega⟩

/-- A call with one of the records succeeds. -/
theorem Prepared.observe (hgot : ↑got ⊆ sequences) (hk : k ∈ sequences)
    (h : m.Settled assigned got s) (hallows : m.Allows got k) :
    (m.observe s k).2 = .ok () ∧ m.Settled assigned (insert k ↑got) (m.observe s k).1 := by
  obtain ⟨n, h, hnext⟩ := h
  have hinsert : ∀ j, m.Seen (insert k ↑got) j ↔
      m.Seen got j ∨ m.session.nextAdvance ≤ j ∧ j = k := by
    simp only [Seen, Set.mem_insert_iff]
    tauto
  rcases hp.accept hk h hnext hallows with ⟨haccept, hknown⟩ | ⟨haccept, hle⟩
  · have hsame : ∀ j, m.Seen (insert k ↑got) j ↔ m.Seen got j := by
      intro j
      rw [hinsert]
      exact or_iff_left_of_imp fun hj => hj.2 ▸ hknown (hj.2 ▸ hj.1)
    simp only [Intake.observe, NatSession.observe, haccept, Prod.swap_prod_mk]
    refine ⟨trivial, n, ⟨h.backed, h.relayID, h.nextAdvance, ?_, ?_, h.assignedBytes, h.moved⟩, ?_⟩
    · simpa only [hsame] using h.below
    · simpa only [hsame] using h.pending
    · rwa [hsame]
  · simp only [Intake.observe, NatSession.observe, haccept]
    refine hp.drain (Set.insert_subset hk hgot) _ ⟨(h.backed.accept haccept).1, h.relayID,
      h.nextAdvance, fun i hi => (hinsert _).mpr (.inl (h.below i hi)), fun j r => ?_,
      h.assignedBytes, h.moved⟩ le_rfl
    have hadvance := h.nextAdvance
    rw [hinsert]
    show (s.pending.set k (m.record k)).get j = some r ↔ _ ∧ s.nextAdvance ≤ j ∧ r = m.record j
    rw [get_set]
    split_ifs with hj
    · subst hj
      rw [Option.some.injEq, eq_comm]
      exact ⟨fun hr => ⟨.inr ⟨by omega, rfl⟩, hle, hr⟩, fun hr => hr.2.2⟩
    · rw [h.pending]
      simp only [hj, and_false, or_false]

omit hp in
theorem Within.of_append {more : List ℕ} (h : m.Within (order ++ more)) : m.Within order := by
  rintro before k after rfl
  exact h before k (after ++ more) (by simp)

/-- All calls succeed, and the session is behind the set of their records. -/
theorem Prepared.run (horder : ∀ k ∈ order, k ∈ sequences) (hwithin : m.Within order) :
    (∀ result ∈ (m.run order).2, result = .ok ()) ∧
      m.Settled assigned order.toFinset (m.run order).1 := by
  induction order using List.reverseRecOn with
  | nil => exact ⟨nofun, by simpa [Intake.run, runSteps] using hp.settled⟩
  | append_singleton order k ih =>
    unfold Intake.run at *
    rw [runSteps_concat]
    simp only [List.forall_mem_append, List.forall_mem_singleton] at horder ⊢
    obtain ⟨hok, hsettled⟩ := ih horder.1 hwithin.of_append
    have hgot : ↑order.toFinset ⊆ sequences := fun j hj => horder.1 j (List.mem_toFinset.mp hj)
    obtain ⟨hlast, hnext⟩ := hp.observe hgot horder.2 hsettled (hwithin order k [] rfl)
    refine ⟨⟨hok, hlast⟩, ?_⟩
    have hset : (order ++ [k]).toFinset = insert k order.toFinset := by
      ext j
      simp
    rw [hset, Finset.coe_insert]
    exact hnext

end

/-- The set of records determines the session. -/
theorem Settled.unique (h : m.Settled assigned seen s) (h' : m.Settled assigned seen s') :
    s = s' := by
  obtain ⟨n, h, hnext⟩ := h
  obtain ⟨n', h', hnext'⟩ := h'
  obtain rfl : n = n' := by
    rcases lt_trichotomy n n' with hlt | heq | hlt
    · exact absurd (h'.below n hlt) hnext
    · exact heq
    · exact absurd (h.below n' hlt) hnext'
  have hpending : s.pending = s'.pending := by
    refine GoMap.ext fun k => Option.ext fun r => ?_
    rw [h.pending, h'.pending, h.nextAdvance, h'.nextAdvance]
  calc s = (m.passed n).waiting s.pending := by rw [← h.moved]; rfl
    _ = (m.passed n).waiting s'.pending := by rw [hpending]
    _ = s' := by rw [← h'.moved]; rfl

/-! ## Calls of the meter -/

/-- The session is one of a meter, and these messages have its records. -/
structure Carried (m : Intake) (meter : NatMeter) (sessionID : Identifier)
    (message : ℕ → SealedMessage) (e2eRecordID : ℕ → Bytes) (sequences : Set ℕ) : Prop where
  session : meter.sessions.get sessionID = some m.session
  lastVoucher : meter.lastVoucher sessionID m.session = m.lastVoucher
  header : ∀ k ∈ sequences, k ≠ 0 ∧ (message k).header = ⟨sessionID, k, (m.record k).bytes⟩
  record : ∀ k ∈ sequences,
    NatMeter.sealedRecord m.C (message k) (e2eRecordID k) = .ok (m.record k).recordID

/-- Calls of `observe` of a meter with the messages of these sequences. -/
def meterRun (C : Crypto) (meter : NatMeter) (message : ℕ → SealedMessage)
    (e2eRecordID : ℕ → Bytes) (order : List ℕ) : NatMeter × List (Except NatError Unit) :=
  runSteps (fun meter k => (meter.observe C (message k) (e2eRecordID k)).swap) meter order

section

variable {meter : NatMeter} {sessionID : Identifier} {message : ℕ → SealedMessage}
  {e2eRecordID : ℕ → Bytes} (hc : m.Carried meter sessionID message e2eRecordID sequences)
include hc

/-- A call of the meter is one of its session. -/
theorem Carried.observe (hk : k ∈ sequences) (hrelay : s.relayID = m.session.relayID) :
    (meter.setSession sessionID s).observe m.C (message k) (e2eRecordID k) =
      ((m.observe s k).2, meter.setSession sessionID (m.observe s k).1) := by
  obtain ⟨hpos, hheader⟩ := hc.header k hk
  have hvoucher : (meter.setSession sessionID s).lastVoucher sessionID s = m.lastVoucher := by
    rw [← hc.lastVoucher, NatMeter.lastVoucher, hrelay]
    rfl
  have hget : (meter.setSession sessionID s).sessions.get sessionID = some s := get_set_self
  have hset : ∀ next, (meter.setSession sessionID s).setSession sessionID next =
      meter.setSession sessionID next := by
    intro next
    simp only [NatMeter.setSession, set_set]
  unfold NatMeter.observe
  rw [hc.record k hk, hheader, if_neg hpos]
  simp only [hget, hvoucher, hset, Intake.observe, Prod.fst_swap, Prod.snd_swap]

/-- So are all of them. -/
theorem Carried.meterRun (hp : m.Prepared assigned sequences)
    (horder : ∀ k ∈ order, k ∈ sequences) (hwithin : m.Within order) :
    Intake.meterRun m.C meter message e2eRecordID order =
      (meter.setSession sessionID (m.run order).1, (m.run order).2) := by
  induction order using List.reverseRecOn with
  | nil =>
    have hsame : meter.sessions.set sessionID m.session = meter.sessions := by
      ext1 k
      rw [get_set]
      split_ifs with hk
      · rw [hk, hc.session]
      · rfl
    show (meter, []) = ({ meter with sessions := meter.sessions.set sessionID m.session }, [])
    rw [hsame]
  | append_singleton order k ih =>
    rw [List.forall_mem_append, List.forall_mem_singleton] at horder
    obtain ⟨-, _, hstands, -⟩ := hp.run horder.1 hwithin.of_append
    have hrun := ih horder.1 hwithin.of_append
    unfold Intake.meterRun Intake.run at *
    rw [runSteps_concat, runSteps_concat, hrun]
    dsimp only
    rw [hc.observe horder.2 hstands.relayID]
    rfl

end

/-- **The order of the records does not matter**, nor how often each of them comes, as long as their
bytes do not exceed the limit: every call succeeds, and the session is the same, and so is the meter
that has it. -/
theorem observe_order_independent (hp : m.Prepared assigned sequences)
    {order order' : List ℕ} (horder : ∀ k, k ∈ order ↔ k ∈ sequences)
    (horder' : ∀ k, k ∈ order' ↔ k ∈ sequences)
    (hwithin : m.Within order) (hwithin' : m.Within order') :
    (∀ result ∈ (m.run order).2, result = .ok ()) ∧
      (∀ result ∈ (m.run order').2, result = .ok ()) ∧
      (m.run order).1 = (m.run order').1 ∧
      ∀ meter sessionID message e2eRecordID,
        m.Carried meter sessionID message e2eRecordID sequences →
        (∀ result ∈ (meterRun m.C meter message e2eRecordID order).2, result = .ok ()) ∧
          (∀ result ∈ (meterRun m.C meter message e2eRecordID order').2, result = .ok ()) ∧
          (meterRun m.C meter message e2eRecordID order).1 =
            (meterRun m.C meter message e2eRecordID order').1 := by
  obtain ⟨hok, hsettled⟩ := hp.run (fun k => (horder k).mp) hwithin
  obtain ⟨hok', hsettled'⟩ := hp.run (fun k => (horder' k).mp) hwithin'
  have hset : order.toFinset = order'.toFinset := by
    ext k
    rw [List.mem_toFinset, List.mem_toFinset, horder, horder']
  have hsame := (hset ▸ hsettled).unique hsettled'
  refine ⟨hok, hok', hsame, fun meter sessionID message e2eRecordID hc => ?_⟩
  rw [hc.meterRun hp (fun k => (horder k).mp) hwithin,
    hc.meterRun hp (fun k => (horder' k).mp) hwithin']
  exact ⟨hok, hok', congrArg (meter.setSession sessionID) hsame⟩

/-- The message of one byte with a sequence. -/
def sampleNumbered (sequence : ℕ) : SealedMessage :=
  { sampleMessage with header := ⟨sampleSessionID, sequence, 1⟩ }

/-- A session in which these messages have the first two sequences. -/
def sampleIntake : Intake where
  C := .sample
  lastVoucher := none
  session := { NatSession.new samplePayerID with
    nextAssigned := 3, assignedBytes := (GoMap.empty.set 1 1).set 2 1 }
  record k := ⟨1, (NatMeter.sealedRecord .sample (sampleNumbered k) sampleMessageID).toOption.getD
    Bytes32.zero⟩

/-- The meter with this session. -/
def sampleIntakeMeter : NatMeter :=
  (NatMeter.new .sample samplePayerKey samplePayerKey false).setSession sampleSessionID
    sampleIntake.session

theorem observe_order_independent_sample :
    let run := meterRun .sample sampleIntakeMeter sampleNumbered fun _ => sampleMessageID
    (run [2, 1, 2]).2 = [.ok (), .ok (), .ok ()] ∧ (run [2, 1, 2]).1 = (run [1, 2]).1 := by
  have hassigned : ∀ k bytes, sampleIntake.session.assignedBytes.get k = some bytes →
      bytes = 1 ∧ (k = 1 ∨ k = 2) := by
    intro k bytes hget
    change ((GoMap.empty.set 1 1).set 2 1).get k = some bytes at hget
    rw [get_set, get_set] at hget
    split_ifs at hget
    · simp_all
    · simp_all
    · cases hget
  have hbacked : sampleIntake.session.Backed fun _ => 1 := by
    refine ⟨by decide, by decide, by decide, fun _ _ _ => Nat.one_pos, fun k bytes hget => ?_,
      nofun, nofun, .inl rfl⟩
    obtain ⟨rfl, rfl | rfl⟩ := hassigned k bytes hget <;> decide
  have hprepared : sampleIntake.Prepared (fun _ => 1) {1, 2} := by
    refine ⟨hbacked, rfl, nofun, ?_, ?_, ?_⟩
    · rintro k (rfl | rfl) - <;> rfl
    · rintro k ⟨-, (rfl | rfl) | hsome⟩
      · decide +kernel
      · decide +kernel
      · cases hsome
    · rintro k ⟨-, (rfl | rfl) | hsome⟩
      · decide
      · decide
      · cases hsome
  -- no more than three records come, and none is far behind another one
  have hwithin : ∀ order : List ℕ, order.length ≤ 3 → (∀ k ∈ order, k ≤ 2) →
      sampleIntake.Within order := by
    rintro order hlength hle before k after rfl n - -
    have hk := hle k (by simp)
    have hcard := Finset.card_filter_le (before.toFinset ∪ ∅) (1 + n ≤ ·)
    have hbefore := List.toFinset_card_le before
    have hunion : (before.toFinset ∪ ∅).card = before.toFinset.card := by rw [Finset.union_empty]
    rw [List.length_append, List.length_cons] at hlength
    refine .inr (.inr ⟨?_, ?_⟩)
    · show k - (1 + n) ≤ 4096
      omega
    · show ((before.toFinset ∪ ∅).filter (1 + n ≤ ·)).card < 4096
      omega
  have hcarried : sampleIntake.Carried sampleIntakeMeter sampleSessionID sampleNumbered
      (fun _ => sampleMessageID) {1, 2} := by
    refine ⟨get_set_self, rfl, ?_, ?_⟩
    · rintro k (rfl | rfl) <;> exact ⟨by decide, rfl⟩
    · rintro k (rfl | rfl) <;> decide +kernel
  refine ⟨by decide +kernel, ((observe_order_independent hprepared (fun k => ?_) (fun k => ?_)
    (hwithin _ (by decide) (by decide)) (hwithin _ (by decide) (by decide))).2.2.2 _ _ _ _
    hcarried).2.2⟩
  · simp
    omega
  · simp

/-- At the limit of the bytes, the record that is next is refused. -/
theorem exhausted_session_fails :
    let full : Intake := { sampleIntake with
      session := { sampleIntake.session with cumulative := maxBillableBytes } }
    (full.run [1]).2 = [.error .cumulativeOverflow] := by
  decide +kernel

end Intake

end NatP2P.Billing
