import NatP2P.Billing.Relay.Moves

/-!
# Steps of a pipeline are moves of its sessions

One lemma for each piece of work of a goroutine says what it does to every session: to its own one
it makes a move, and any other session stays as it is.
-/

namespace NatP2P.Billing

open GoMap Option RelaySession

variable {C : Crypto} {J : EnvelopeJson} {node : RelayNode} {pipeline pipeline' : Pipeline}
  {sessionID : Identifier} {output : Output}

/-! ## Views -/

namespace Pipeline

theorem view_eq_some {view : SessionView} :
    pipeline.view sessionID = some view ↔ pipeline.sessions.get sessionID = some view.session ∧
      pipeline.holders.get sessionID = view.holder ∧
      (fun thread => pipeline.settlements.get (sessionID, thread)) = view.settlement := by
  unfold Pipeline.view
  constructor
  · intro h
    obtain ⟨session, hsession, rfl⟩ := map_eq_some_iff.mp h
    exact ⟨hsession, rfl, rfl⟩
  · rintro ⟨hsession, hholder, hsettlement⟩
    rw [hsession, hholder, hsettlement]
    rfl

theorem view_of_get {session : RelaySession} {holder : Option Holder}
    (hsession : pipeline.sessions.get sessionID = some session)
    (hholder : pipeline.holders.get sessionID = holder) :
    pipeline.view sessionID =
      some ⟨session, holder, fun thread => pipeline.settlements.get (sessionID, thread)⟩ :=
  view_eq_some.mpr ⟨hsession, hholder, rfl⟩

theorem view_eq_none : pipeline.view sessionID = none ↔ pipeline.sessions.get sessionID = none :=
  map_eq_none_iff

theorem Agree.view (hagree : pipeline.Agree pipeline' sessionID) :
    pipeline'.view sessionID = pipeline.view sessionID := by
  unfold Pipeline.view
  rw [hagree.session, hagree.holder]
  simp only [hagree.settlement]

theorem agree_of_view {view : SessionView} (hview : pipeline.view sessionID = some view)
    (hview' : pipeline'.view sessionID = some view) : pipeline.Agree pipeline' sessionID := by
  obtain ⟨hsession, hholder, hsettlement⟩ := view_eq_some.mp hview
  obtain ⟨hsession', hholder', hsettlement'⟩ := view_eq_some.mp hview'
  exact ⟨hsession'.trans hsession.symm, hholder'.trans hholder.symm,
    congrFun (hsettlement'.trans hsettlement.symm)⟩

theorem settlements_delete (thread : ℕ) :
    (fun other => (pipeline.settlements.delete (sessionID, thread)).get (sessionID, other)) =
      Function.update (fun other => pipeline.settlements.get (sessionID, other)) thread none := by
  funext other
  rw [get_delete, Function.update_apply]
  simp only [Prod.mk.injEq, true_and]

/-- What a function that returns `after` does to the session. -/
abbrev StepsTo (C : Crypto) (node : RelayNode) (pipeline : Pipeline) (after : Pipeline × Output)
    (sessionID : Identifier) : Prop :=
  Steps C node pipeline after.1 after.2 sessionID

/-- Nothing but the queue, the accounts, the controls and the poison flag changes. -/
theorem Steps.same (hsessions : pipeline'.sessions = pipeline.sessions)
    (hholders : pipeline'.holders = pipeline.holders)
    (hsettlements : pipeline'.settlements = pipeline.settlements)
    (houtput : output.about ≠ some sessionID) : Steps C node pipeline pipeline' output sessionID := by
  refine .stays ⟨?_, ?_, fun thread => ?_⟩ houtput
  · rw [hsessions]
  · rw [hholders]
  · rw [hsettlements]

theorem Steps.silent (houtput : output.about = none) :
    Steps C node pipeline pipeline output sessionID :=
  .same rfl rfl rfl (by simp [houtput])

/-- One session moves, and every other one stays as it is. -/
theorem Steps.own {own : Identifier} {view : SessionView} (view' : SessionView)
    (hview : pipeline.view own = some view) (hview' : pipeline'.view own = some view')
    (hmove : view.Moves C node output view')
    (hothers : ∀ {other}, other ≠ own → pipeline.Agree pipeline' other)
    (habout : ∀ other, output.about = some other → other = own) :
    Steps C node pipeline pipeline' output sessionID := by
  by_cases hsame : sessionID = own
  · subst hsame
    exact .moves _ _ hview hview' hmove
  · exact .stays (hothers hsame) fun hout => hsame (habout _ hout)

/-! ## Records -/

section Records

variable {nodeID : String} {sequence : ℕ} {record : RelayRecord} {progress : RelaySession.Progress}
  {session : RelaySession} {settlement : ℕ → Option Settlement} {holder : Option Holder}

/-- The session is written and its lock is free or kept. -/
theorem view_written (hview : pipeline.view sessionID = some ⟨session, holder, settlement⟩)
    (written : RelaySession) (hid : written.sessionID = sessionID) :
    ((pipeline.setSession written).unlock written.sessionID).view sessionID =
        some ⟨written, none, settlement⟩ ∧
      ∀ holder', ((pipeline.setSession written).hold written.sessionID holder').view sessionID =
        some ⟨written, some holder', settlement⟩ := by
  subst hid
  obtain ⟨-, -, hsettlement⟩ := view_eq_some.mp hview
  exact ⟨view_eq_some.mpr ⟨get_set_self, get_delete_self, hsettlement⟩,
    fun holder' => view_eq_some.mpr ⟨get_set_self, get_set_self, hsettlement⟩⟩

theorem admitRecord_ok {record : BillableRecord} (h : pipeline.admitRecord record = .ok session) :
    pipeline.sessions.get record.sessionID = some session ∧
      RelayRecord.Admitted record.sequence ⟨record.bytes, record.recordID⟩ := by
  unfold admitRecord at h
  simp only [bind_ok_iff, exists_unit_iff, check_ok_iff] at h
  obtain ⟨-, -, -, h⟩ := h
  cases hpayer : parseIdentifierHex record.nodeID with
  | none =>
    rw [hpayer] at h
    cases h
  | some payerID =>
    rw [hpayer] at h
    simp only [check_bind_ok_iff, not_or, gt_iff_lt, Nat.not_lt] at h
    obtain ⟨-, ⟨-, hsequence, hbytes, hwindow, hrecordID⟩, h⟩ := h
    cases hsession : pipeline.sessions.get record.sessionID with
    | none =>
      rw [hsession] at h
      cases h
    | some found =>
      rw [hsession] at h
      simp only [check_bind_ok_iff, pure_ok_iff] at h
      obtain ⟨-, -, rfl⟩ := h
      exact ⟨rfl, Nat.pos_of_ne_zero hsequence, Nat.pos_of_ne_zero hbytes, hwindow, hrecordID⟩

/-- A call of `observeRecord` steps as its progress moves. -/
theorem follow_steps (hview : pipeline.view sessionID = some ⟨session, holder, settlement⟩)
    (hid : progress.session.sessionID = sessionID)
    (hstop : ∀ result, (∀ charged, progress ≠ .charged charged) →
      (progress.session = session ∧ holder = none) ∨
        SessionView.Moves C node ⟨session, holder, settlement⟩ (.returned result)
          ⟨progress.session, none, settlement⟩)
    (hcharge : ∀ charged, progress = .charged charged →
      SessionView.Moves C node ⟨session, holder, settlement⟩ (.charged sessionID sequence record)
        ⟨charged, none, settlement⟩)
    (hclaim : ∀ claimed snapshot candidate body, progress = .claim claimed snapshot candidate →
      nextVoucherBody C node.relayID claimed.payerID claimed.sessionID claimed.lastVoucher
        snapshot = .ok body →
      SessionView.Moves C node ⟨session, holder, settlement⟩ (.requested sessionID body)
        ⟨claimed, some (.claiming ⟨nodeID, sequence, record, candidate⟩ body), settlement⟩)
    (other : Identifier) :
    StepsTo C node pipeline (pipeline.follow C node nodeID sequence record progress) other := by
  have hne {other : Identifier} (h : other ≠ sessionID) : other ≠ progress.session.sessionID :=
    hid ▸ h
  obtain ⟨hfree, hheld⟩ := view_written hview progress.session hid
  -- the call returns without a charge and frees the lock
  have hstopped (result : Except RelayError Unit) (hcharged : ∀ charged, progress ≠ .charged charged) :
      Steps C node pipeline ((pipeline.setSession progress.session).unlock
        progress.session.sessionID) (.returned result) other := by
    have hothers {other : Identifier} (h : other ≠ sessionID) : pipeline.Agree
        ((pipeline.setSession progress.session).unlock progress.session.sessionID) other :=
      ⟨get_set_ne (hne h), get_delete_ne (hne h), fun _ => rfl⟩
    rcases hstop result hcharged with ⟨hsame, rfl⟩ | hmove
    · refine .stays ?_ nofun
      by_cases heq : other = sessionID
      · subst heq
        exact agree_of_view hview (hsame ▸ hfree)
      · exact hothers heq
    · exact .own _ hview hfree hmove hothers nofun
  cases progress with
  | returned result returned => exact hstopped result nofun
  | charged charged =>
    have hmove := hcharge charged rfl
    rw [← hid] at hmove
    exact .own _ hview ((Agree.view ⟨rfl, rfl, fun _ => rfl⟩).trans hfree) hmove
      (fun h => ⟨get_set_ne (hne h), get_delete_ne (hne h), fun _ => rfl⟩)
      fun _ hout => (some.inj hout).symm.trans hid
  | claim claimed snapshot candidate =>
    unfold follow
    dsimp only
    cases hrequest : pipeline.requestVoucher C node claimed snapshot with
    | error err => exact hstopped _ nofun
    | ok body =>
      -- the lock is kept until the voucher comes
      unfold requestVoucher at hrequest
      simp only [bind_ok_iff, exists_unit_iff, pure_ok_iff] at hrequest
      obtain ⟨-, found, hbody, -, -, rfl⟩ := hrequest
      have hmove := hclaim claimed snapshot candidate found rfl hbody
      rw [← hid] at hmove
      exact .own _ hview (hheld _) hmove
        (fun h => ⟨get_set_ne (hne h), get_set_ne (hne h), fun _ => rfl⟩)
        fun _ hout => (some.inj hout).symm.trans hid

theorem observeRecord_steps (hkeyed : pipeline.Keyed) (record : BillableRecord)
    (sessionID : Identifier) :
    StepsTo C node pipeline (pipeline.observeRecord C node record) sessionID := by
  unfold observeRecord
  split
  next err hguard => exact .silent rfl
  next session hguard =>
    obtain ⟨hsession, hadmitted⟩ := admitRecord_ok hguard
    have hid := hkeyed.session _ _ hsession
    split
    next holder hholder => exact .silent rfl
    next hholder =>
      refine follow_steps (view_of_get hsession hholder)
        ((frame_observeLocked rfl).sessionID.trans hid) ?_ ?_ ?_ sessionID
      · intro result hcharged
        rcases observeLocked_session C session record.sequence
          ⟨record.bytes, record.recordID⟩ with hsame | ⟨candidate, hcommit⟩
        · exact .inl ⟨hsame, rfl⟩
        · exact absurd hcommit (hcharged _)
      · intro charged hprogress
        rw [← hid]
        exact .observeCharged hadmitted hprogress
      · intro claimed snapshot candidate body hprogress hbody
        rw [← hid]
        exact .observeClaim hadmitted hprogress hbody

theorem resume_steps (hkeyed : pipeline.Keyed) (resumed sessionID : Identifier) :
    StepsTo C node pipeline (pipeline.resume C node resumed) sessionID := by
  unfold Pipeline.resume
  split
  next session held voucher hsession hholder =>
    have hid := hkeyed.session _ _ hsession
    refine follow_steps (view_of_get hsession hholder)
      ((frame_resume rfl).sessionID.trans hid) ?_ ?_ ?_ sessionID
    · intro result hcharged
      rcases resume_session C session held.sequence held.record held.candidate
        voucher with ⟨hsame, hcandidate⟩ | ⟨candidate, hcommit⟩
      · right
        rw [hsame]
        exact .resumeStopped hcandidate
      · exact absurd hcommit (hcharged _)
    · intro charged hprogress
      rw [← hid]
      exact .resumeCharged hprogress
    · intro claimed snapshot candidate body hprogress hbody
      rw [← hid]
      exact .resumeClaim hprogress hbody
  next session voucher hsession hholder =>
    obtain rfl := hkeyed.session _ _ hsession
    exact .own ⟨session.restoreVoucher voucher, none, _⟩ (view_of_get hsession hholder)
      (view_eq_some.mpr ⟨get_set_self, get_delete_self, rfl⟩) .restored
      (fun hne => ⟨get_set_ne hne, get_delete_ne hne, fun _ => rfl⟩) nofun
  next => exact .silent rfl

end Records

/-! ## Claims -/

/-- The end of `issueVoucherWithClaim` fails, or an accepted answer is in the queue. -/
theorem finishClaim_cases (C : Crypto) (J : EnvelopeJson) (node : RelayNode) (pipeline : Pipeline)
    (payerID : Identifier) (body : VoucherBody) (response : Response) :
    (∃ err queue fatal, pipeline.finishClaim C J node payerID body response =
        (.error err, { pipeline with queue := queue, fatal := fatal }) ∧
        (queue = pipeline.queue ∨ ∃ envelope reason,
          pipeline.queue.enqueueEnvelope C J response.append envelope = (.error reason, queue))) ∨
      ∃ answer envelope queue, acceptAnswer C node body answer response.verifier
          (pipeline.accounts.cert payerID.string) = .ok envelope ∧
        pipeline.queue.enqueueEnvelope C J response.append envelope = (.ok (), queue) ∧
        pipeline.finishClaim C J node payerID body response =
          (.ok envelope.voucher, { pipeline with queue := queue }) := by
  unfold finishClaim
  cases response.answer with
  | none => exact .inl ⟨_, _, _, rfl, .inl rfl⟩
  | some answer =>
    dsimp only
    cases haccept : acceptAnswer C node body answer response.verifier
        (pipeline.accounts.cert payerID.string) with
    | error err => exact .inl ⟨_, _, _, rfl, .inl rfl⟩
    | ok envelope =>
      unfold persistGrowth
      dsimp only
      cases henqueue : pipeline.queue.enqueueEnvelope C J response.append envelope with
      | mk result queue =>
        cases result with
        | ok done => exact .inr ⟨answer, envelope, queue, haccept, henqueue, rfl⟩
        | error reason =>
          dsimp only
          split_ifs
          · exact .inl ⟨_, queue, pipeline.fatal, rfl, .inr ⟨envelope, reason, henqueue⟩⟩
          · exact .inl ⟨_, queue, _, rfl, .inr ⟨envelope, reason, henqueue⟩⟩

theorem answerRecord_steps (hkeyed : pipeline.Keyed) (answered : Identifier) (response : Response)
    (sessionID : Identifier) :
    StepsTo C node pipeline (pipeline.answerRecord C J node answered response) sessionID := by
  unfold answerRecord
  cases hholder : pipeline.holders.get answered with
  | none => exact .silent rfl
  | some holder =>
    cases holder with
    | queued | recovering => exact .silent rfl
    | claiming held body =>
      have hbody := hkeyed.claiming _ _ _ hholder
      cases hsession : pipeline.sessions.get answered with
      | none =>
        rw [hkeyed.holder _ hsession] at hholder
        cases hholder
      | some session =>
        have hview := view_of_get hsession hholder
        rcases finishClaim_cases C J node pipeline body.payerNatID body response with
          ⟨err, queue, fatal, heq, -⟩ | ⟨answer, envelope, queue, haccept, -, heq⟩
        · dsimp only
          rw [heq]
          exact .own ⟨session, none, _⟩ hview
            (view_eq_some.mpr ⟨hsession, get_delete_self, rfl⟩) .refused
            (fun hne => ⟨rfl, get_delete_ne hne, fun _ => rfl⟩) nofun
        · dsimp only
          rw [heq]
          refine .own ⟨session, some (.queued held envelope.voucher), _⟩ hview
            (view_eq_some.mpr ⟨hsession, get_set_self, rfl⟩) (.answered haccept)
            (fun hne => ⟨rfl, get_set_ne hne, fun _ => rfl⟩) fun other hout => ?_
          rw [← hbody, ← (acceptAnswer_ok haccept).1]
          exact (some.inj hout).symm

/-! ## Recovered vouchers -/

/-- What `installRecoveredVoucher` does up to the queue. -/
theorem recoverVoucher_cases (C : Crypto) (J : EnvelopeJson) (node : RelayNode)
    (pipeline : Pipeline) (recovered : Identifier) (advertised : Snapshot) (voucher : MutualVoucher)
    (payer : PayerIdentity) (append : AppendOutcome) :
    (∃ queue fatal output, pipeline.recoverVoucher C J node recovered advertised voucher payer
        append = ({ pipeline with queue := queue, fatal := fatal }, output) ∧ output.about = none ∧
        (queue = pipeline.queue ∨ ∃ envelope reason,
          pipeline.queue.enqueueEnvelope C J append envelope = (.error reason, queue))) ∨
      ∃ session queue, pipeline.sessions.get recovered = some session ∧
        pipeline.holders.get recovered = none ∧
        checkRecoveredVoucher C node session voucher payer = .ok () ∧
        session.recoverLocked C advertised voucher = .ok true ∧
        (pipeline.queue.enqueueEnvelope C J append ⟨voucher, payer.publicKeyHex,
            payer.billingPublicKeyHex, some payer.certificate⟩ = (.ok (), queue) ∨
          pipeline.queue.enqueueEnvelope C J append ⟨voucher, payer.publicKeyHex,
            payer.billingPublicKeyHex, some payer.certificate⟩ = (.error .duplicate, queue)) ∧
        pipeline.recoverVoucher C J node recovered advertised voucher payer append =
          ({ pipeline with queue := queue }.hold recovered (.recovering voucher),
            .recovered voucher) := by
  have hnothing : ∃ queue fatal output, (pipeline, Output.nothing) =
      ({ pipeline with queue := queue, fatal := fatal }, output) ∧ output.about = none ∧
      (queue = pipeline.queue ∨ ∃ envelope reason,
        pipeline.queue.enqueueEnvelope C J append envelope = (.error reason, queue)) :=
    ⟨_, _, _, rfl, rfl, .inl rfl⟩
  unfold recoverVoucher
  split
  next session hsession hholder =>
    split
    next hcheck hrecover =>
      split
      next queue henqueue =>
        exact .inr ⟨session, queue, hsession, hholder, hcheck, hrecover, .inl henqueue, rfl⟩
      next reason queue henqueue =>
        split_ifs with hduplicate
        · subst hduplicate
          exact .inr ⟨session, queue, hsession, hholder, hcheck, hrecover, .inr henqueue, rfl⟩
        · exact .inl ⟨queue, pipeline.fatal, _, rfl, rfl, .inr ⟨_, reason, henqueue⟩⟩
        · exact .inl ⟨queue, _, _, rfl, rfl, .inr ⟨_, reason, henqueue⟩⟩
    next => exact .inl hnothing
  next => exact .inl hnothing

theorem recoverVoucher_steps (hkeyed : pipeline.Keyed) (recovered : Identifier)
    (advertised : Snapshot) (voucher : MutualVoucher) (payer : PayerIdentity)
    (append : AppendOutcome) (sessionID : Identifier) :
    StepsTo C node pipeline
      (pipeline.recoverVoucher C J node recovered advertised voucher payer append) sessionID := by
  rcases recoverVoucher_cases C J node pipeline recovered advertised voucher payer append with
    ⟨queue, fatal, output, heq, hout, -⟩ |
    ⟨session, queue, hsession, hholder, hcheck, hrecover, -, heq⟩
  · rw [heq]
    exact .same rfl rfl rfl (by rw [hout]; simp)
  · rw [heq]
    have hview := view_of_get hsession hholder
    refine .own ⟨session, some (.recovering voucher), _⟩ hview
      (view_eq_some.mpr ⟨hsession, get_set_self, rfl⟩) (.recovered hcheck hrecover)
      (fun hne => ⟨rfl, get_set_ne hne, fun _ => rfl⟩) fun other hout => ?_
    rw [← hkeyed.session _ _ hsession, ← (checkRecoveredVoucher_ok hcheck).sessionID]
    exact (some.inj hout).symm

/-! ## Settlements -/

section Settlements

variable {settled : Identifier} {thread : ℕ} {session : RelaySession} {holder : Option Holder}
  {settlement : ℕ → Option Settlement}

/-- The pipelines differ at the settlement `thread` of `settled`, which is now `next`. -/
structure SettlesTo (pipeline pipeline' : Pipeline) (settled : Identifier) (thread : ℕ)
    (next : Option Settlement) : Prop where
  sessions : pipeline'.sessions = pipeline.sessions
  holders : pipeline'.holders = pipeline.holders
  settlements : ∀ key, pipeline'.settlements.get key =
    if key = (settled, thread) then next else pipeline.settlements.get key

theorem settlesTo_set {next : Settlement} :
    SettlesTo pipeline (pipeline.setSettlement settled thread next) settled thread (some next) :=
  ⟨rfl, rfl, fun _ => get_set⟩

theorem settlesTo_end :
    SettlesTo pipeline (pipeline.endSettlement settled thread) settled thread none :=
  ⟨rfl, rfl, fun _ => get_delete⟩

/-- A step of a settlement moves its own session and no other. -/
theorem SettlesTo.steps {next : Option Settlement}
    (hsettles : SettlesTo pipeline pipeline' settled thread next)
    (hview : pipeline.view settled = some ⟨session, holder, settlement⟩)
    (hmove : SessionView.Moves C node ⟨session, holder, settlement⟩ output
      ⟨session, holder, Function.update settlement thread next⟩)
    (habout : ∀ other, output.about = some other → other = settled) (sessionID : Identifier) :
    Steps C node pipeline pipeline' output sessionID := by
  obtain ⟨hsession, hholder, hsettlement⟩ := view_eq_some.mp hview
  refine .own _ hview (view_eq_some.mpr ⟨?_, ?_, ?_⟩) hmove (fun hne => ⟨?_, ?_, fun other => ?_⟩)
    habout
  · rw [hsettles.sessions, hsession]
  · rw [hsettles.holders, hholder]
  · funext other
    change _ = Function.update settlement thread next other
    rw [hsettles.settlements, Function.update_apply]
    have hother : pipeline.settlements.get (settled, other) = settlement other :=
      congrFun hsettlement other
    simp only [Prod.mk.injEq, true_and, hother]
  · rw [hsettles.sessions]
  · rw [hsettles.holders]
  · rw [hsettles.settlements, if_neg fun hkey => hne (congrArg Prod.fst hkey)]

theorem beginSettlement_steps (settled : Identifier) (thread : ℕ) (sessionID : Identifier) :
    StepsTo C node pipeline (pipeline.beginSettlement settled thread) sessionID := by
  unfold beginSettlement
  split
  next session hsession hholder hthread =>
    split_ifs with hsafe
    · exact .silent rfl
    · exact settlesTo_set.steps (view_of_get hsession hholder)
        (.settleBegun hthread (Bool.not_eq_true _ ▸ hsafe)) nofun sessionID
  next => exact .silent rfl

theorem snapshotSettlement_steps (settled : Identifier) (thread : ℕ) (sessionID : Identifier) :
    StepsTo C node pipeline (pipeline.snapshotSettlement settled thread) sessionID := by
  unfold snapshotSettlement
  split
  next session hsession hholder hthread =>
    have hview := view_of_get hsession hholder
    cases hstate : session.controlSnapshot with
    | error err =>
      exact settlesTo_end.steps hview (.settleEnded (by simp [hthread])) nofun sessionID
    | ok state =>
      exact settlesTo_set.steps hview (.settleSnapshot hthread hstate) nofun
        sessionID
  next => exact .silent rfl

theorem claimSettlement_steps (hkeyed : pipeline.Keyed) (settled : Identifier) (thread : ℕ)
    (sessionID : Identifier) :
    StepsTo C node pipeline (pipeline.claimSettlement C node settled thread) sessionID := by
  unfold claimSettlement
  split
  next session state hsession hthread =>
    have hview := view_of_get hsession rfl
    have hended : Steps C node pipeline (pipeline.endSettlement settled thread) .nothing
        sessionID :=
      settlesTo_end.steps hview (.settleEnded (by simp [hthread])) nofun sessionID
    split
    next err hbody => exact hended
    next body hbody =>
      split
      next err hclaim => exact hended
      next claim hclaim =>
        have hid := hkeyed.session _ _ hsession
        have houtput : Output.requested settled body = .requested session.sessionID body := by
          rw [hid]
        rw [houtput]
        refine settlesTo_set.steps hview (.settleClaim hthread hbody) ?_ sessionID
        intro other hout
        exact (some.inj hout).symm.trans hid
  next => exact .silent rfl

theorem answerSettlement_steps (hkeyed : pipeline.Keyed) (settled : Identifier) (thread : ℕ)
    (response : Response) (sessionID : Identifier) :
    StepsTo C node pipeline (pipeline.answerSettlement C J node settled thread response) sessionID := by
  unfold answerSettlement
  split
  next state body hthread =>
    have hbody := hkeyed.settling _ _ _ _ hthread
    cases hsession : pipeline.sessions.get settled with
    | none =>
      rw [hkeyed.settlement _ _ hsession] at hthread
      cases hthread
    | some session =>
      have hview := view_of_get hsession rfl
      rcases finishClaim_cases C J node pipeline body.payerNatID body response with
        ⟨err, queue, fatal, heq, -⟩ | ⟨answer, envelope, queue, haccept, -, heq⟩
      · rw [heq]
        have hsettles : SettlesTo pipeline ({ pipeline with queue := queue, fatal := fatal
            }.endSettlement settled thread) settled thread none :=
          ⟨rfl, rfl, fun _ => get_delete⟩
        exact hsettles.steps hview (.settleEnded (by simp [hthread])) nofun sessionID
      · rw [heq]
        have hsettles : SettlesTo pipeline ({ pipeline with queue := queue }.setSettlement settled
            thread (.queued state envelope.voucher)) settled thread
            (some (.queued state envelope.voucher)) :=
          ⟨rfl, rfl, fun _ => get_set⟩
        refine hsettles.steps hview (.settleAnswered hthread haccept) ?_ sessionID
        intro other hout
        rw [← hbody, ← (acceptAnswer_ok haccept).1]
        exact (some.inj hout).symm
  next => exact .silent rfl

theorem assignSettlement_steps (hkeyed : pipeline.Keyed) (settled : Identifier) (thread : ℕ)
    (sessionID : Identifier) :
    StepsTo C node pipeline (pipeline.assignSettlement settled thread) sessionID := by
  unfold assignSettlement
  split
  next session state voucher hsession hholder hthread =>
    have hid := hkeyed.session _ _ hsession
    have hview := view_of_get hsession hholder
    split_ifs with hchanged
    · exact settlesTo_end.steps hview (.settleRefused hthread hchanged) nofun
        sessionID
    · simp only [not_or, not_not, ne_eq] at hchanged
      subst hid
      exact .own ⟨session.install voucher, none, _⟩ hview
        (view_eq_some.mpr ⟨get_set_self, hholder, settlements_delete thread⟩)
        (.settleAssigned hthread hchanged.1 hchanged.2.1)
        (fun hne => ⟨get_set_ne hne, rfl, fun other =>
          get_delete_ne fun hkey => hne (congrArg Prod.fst hkey)⟩) nofun
  next => exact .silent rfl

end Settlements

/-! ## Sessions -/

section

variable (hkeyed : pipeline.Keyed)
include hkeyed

/-- A session under a new identifier is fresh. -/
theorem addSession_steps (payerID opened : Identifier)
    (hnone : pipeline.sessions.get opened = none) (sessionID : Identifier) :
    Steps C node pipeline (pipeline.addSession payerID opened) .nothing sessionID := by
  by_cases hsame : sessionID = opened
  · subst hsame
    refine .opens payerID (view_eq_none.mpr hnone) (view_eq_some.mpr ⟨get_set_self, ?_, ?_⟩) rfl
    · exact hkeyed.holder _ hnone
    · funext thread
      exact hkeyed.settlement _ thread hnone
  · exact .stays ⟨get_set_ne hsame, rfl, fun _ => rfl⟩ nofun

theorem sessionForPayer_steps (payerID random sessionID : Identifier) :
    Steps C node pipeline (pipeline.sessionForPayer payerID random) .nothing sessionID := by
  unfold sessionForPayer
  dsimp only
  split_ifs with hknown
  · exact .silent rfl
  · rw [not_or, not_isSome_iff_eq_none, not_isSome_iff_eq_none] at hknown
    exact addSession_steps hkeyed payerID _ hknown.2 sessionID

theorem setBlocked_steps {blockedID : Identifier} {session : RelaySession}
    (hsession : pipeline.sessions.get blockedID = some session)
    (hholder : pipeline.holders.get blockedID = none)
    (hblocked : session.blocked = none ∨ session.blocked = some .rotated) (reason : SessionBlock)
    (sessionID : Identifier) :
    Steps C node pipeline (pipeline.setSession { session with blocked := some reason }) .nothing
      sessionID := by
  have hid : session.sessionID = blockedID := hkeyed.session _ _ hsession
  have hview := view_of_get hsession hholder
  subst hid
  exact .own ⟨{ session with blocked := some reason }, none, _⟩ hview
    (view_eq_some.mpr ⟨get_set_self, hholder, rfl⟩) (.blocked hblocked)
    (fun hne => ⟨get_set_ne hne, rfl, fun _ => rfl⟩) nofun

theorem blockSession_steps (blockedID : Identifier) (reason : SessionBlock)
    (sessionID : Identifier) :
    Steps C node pipeline (pipeline.blockSession blockedID reason) .nothing sessionID := by
  unfold blockSession
  split
  next session hsession hholder =>
    have hsteps := @setBlocked_steps C node pipeline hkeyed _ _ hsession hholder
    unfold block
    split
    next hblocked => exact hsteps (.inl hblocked) reason sessionID
    next hblocked => exact hsteps (.inr hblocked) reason sessionID
    next =>
      refine .stays ⟨?_, rfl, fun _ => rfl⟩ nofun
      unfold setSession
      rw [hkeyed.session _ _ hsession, get_set]
      split_ifs with hsame
      · rw [hsame, hsession]
      · rfl
  next => exact .silent rfl

/-- A rotation blocks the previous session and opens a new one. -/
theorem rotateSessionForPayer_steps (payerID previousID random sessionID : Identifier) :
    Steps C node pipeline (pipeline.rotateSessionForPayer payerID previousID random) .nothing
      sessionID := by
  unfold rotateSessionForPayer
  dsimp only
  split_ifs with hknown
  · exact .silent rfl
  · rw [not_or, not_isSome_iff_eq_none] at hknown
    split
    next previous hsession hholder =>
      split_ifs with hrefused
      · exact .silent rfl
      · simp only [not_or, not_not, ne_eq] at hrefused
        by_cases hopened : sessionID = drawnSessionID random
        · subst hopened
          refine .opens payerID (view_eq_none.mpr hknown.2)
            (view_eq_some.mpr ⟨get_set_self, hkeyed.holder _ hknown.2, ?_⟩) rfl
          funext thread
          exact hkeyed.settlement _ thread hknown.2
        · -- for any other session the opened one is out of sight
          have hagree : Pipeline.Agree
              (pipeline.setSession { previous with blocked := some .rotated })
              ((pipeline.setSession { previous with blocked := some .rotated }).addSession payerID
                (drawnSessionID random)) sessionID :=
            ⟨get_set_ne hopened, rfl, fun _ => rfl⟩
          rcases @setBlocked_steps C node pipeline hkeyed _ _ hsession hholder
            (.inl hrefused.2.1) .rotated sessionID with ⟨hstay, hout⟩ | ⟨_, hnone, hview, -⟩ |
            ⟨view, view', hview, hview', hmove⟩
          · exact .stays ⟨hagree.session.trans hstay.session, hagree.holder.trans hstay.holder,
              fun thread => (hagree.settlement thread).trans (hstay.settlement thread)⟩ hout
          · exact .opens _ hnone (hagree.view.trans hview) rfl
          · exact .moves _ _ hview (hagree.view.trans hview') hmove
    next => exact .silent rfl

end

/-! ## Steps -/

theorem removeHead_eq (C : Crypto) (pipeline : Pipeline) (voucherID : Identifier)
    (append : AppendOutcome) (compaction : WriteOutcome) :
    ∃ fatal, pipeline.removeHead C voucherID append compaction = { pipeline with
      queue := (pipeline.queue.removeChannelHead C append compaction voucherID).2
      fatal := fatal } := by
  unfold removeHead
  cases pipeline.queue.removeChannelHead C append compaction voucherID with
  | mk result queue =>
    cases result with
    | ok done => exact ⟨pipeline.fatal, rfl⟩
    | error reason => exact ⟨_, rfl⟩

/-- Every step but a restart leaves a session alone, opens it or makes one of its moves. -/
theorem step_steps (hkeyed : pipeline.Keyed) (event : Event)
    (hrestart : ∀ outcome, event ≠ .restart outcome) (sessionID : Identifier) :
    StepsTo C node pipeline (pipeline.step C J node event) sessionID := by
  cases event with
  | observe record => exact observeRecord_steps hkeyed record sessionID
  | answer answered response => exact answerRecord_steps hkeyed answered response sessionID
  | recover recovered advertised voucher payer append =>
    exact recoverVoucher_steps hkeyed recovered advertised voucher payer append sessionID
  | resume resumed => exact resume_steps hkeyed resumed sessionID
  | settleBegin settled thread => exact beginSettlement_steps settled thread sessionID
  | settleSnapshot settled thread => exact snapshotSettlement_steps settled thread sessionID
  | settleClaim settled thread => exact claimSettlement_steps hkeyed settled thread sessionID
  | settleAnswer settled thread response =>
    exact answerSettlement_steps hkeyed settled thread response sessionID
  | settleAssign settled thread => exact assignSettlement_steps hkeyed settled thread sessionID
  | openSession payerID random => exact sessionForPayer_steps hkeyed payerID random sessionID
  | rotate payerID previousID random =>
    exact rotateSessionForPayer_steps hkeyed payerID previousID random sessionID
  | block blockedID reason => exact blockSession_steps hkeyed blockedID reason sessionID
  | remove voucherID append compaction =>
    obtain ⟨fatal, heq⟩ := removeHead_eq C pipeline voucherID append compaction
    refine .same ?_ ?_ ?_ (by simp [step, Output.about])
    all_goals
      unfold step
      dsimp only
      rw [heq]
  | environment fatal controls accounts => exact .same rfl rfl rfl (by simp [step, Output.about])
  | restart outcome => exact absurd rfl (hrestart outcome)

/-! ## Restarts -/

variable {envelope : Envelope} {index : ℕ}

/-- What `restoreItem` has checked of an envelope, and what it makes of it. -/
theorem restoreItem_ok (h : pipeline.restoreItem C node index envelope = .ok pipeline') :
    ∃ session, session = (pipeline.sessions.get envelope.voucher.body.sessionID).getD
        (RelaySession.new envelope.voucher.body.payerNatID envelope.voucher.body.sessionID) ∧
      envelope.voucher.body.Valid ∧ session.payerID = envelope.voucher.body.payerNatID ∧
      pipeline' = { pipeline.setSession (session.restoreVoucher envelope.voucher) with
        currentByPayer :=
          pipeline.currentByPayer.set session.payerID envelope.voucher.body.sessionID } := by
  unfold restoreItem at h
  simp only [bind_ok_iff, exists_unit_iff, check_ok_iff, mapError_ok_iff, ne_eq, not_not] at h
  obtain ⟨-, -, keys, -, -, payerPublicKey, -, hverify, hpayer, h⟩ := h
  refine ⟨_, rfl, (verifyBillingSignatures_ok hverify).1, hpayer, ?_⟩
  split at h
  · simp only [bind_ok_iff, exists_unit_iff, pure_ok_iff] at h
    exact h.2.symm
  · exact (Except.ok.inj h).symm

/-- A pipeline whose sessions stand where vouchers have put them. -/
structure Restored (pipeline : Pipeline) : Prop where
  holders : pipeline.holders = .empty
  settlements : pipeline.settlements = .empty
  sessions : ∀ sessionID session, pipeline.sessions.get sessionID = some session →
    ∃ voucher : MutualVoucher, voucher.body.Valid ∧ voucher.body.sessionID = sessionID ∧
      session = (RelaySession.new voucher.body.payerNatID sessionID).restoreVoucher voucher

theorem restored_blank (queue : Queue) : (blank queue).Restored := ⟨rfl, rfl, nofun⟩

theorem Restored.restoreItem (hrestored : pipeline.Restored)
    (h : pipeline.restoreItem C node index envelope = .ok pipeline') : pipeline'.Restored := by
  obtain ⟨session, hsession, hvalid, hpayer, rfl⟩ := restoreItem_ok h
  -- an earlier voucher of the session leaves nothing that the new one does not replace
  have hwritten : session.restoreVoucher envelope.voucher =
      (new envelope.voucher.body.payerNatID
        envelope.voucher.body.sessionID).restoreVoucher envelope.voucher := by
    cases hget : pipeline.sessions.get envelope.voucher.body.sessionID with
    | none =>
      rw [hget] at hsession
      rw [hsession]
      rfl
    | some found =>
      rw [hget] at hsession
      obtain ⟨earlier, -, -, hearlier⟩ := hrestored.sessions _ _ hget
      have hfound : session = (new earlier.body.payerNatID
          envelope.voucher.body.sessionID).restoreVoucher earlier := hsession.trans hearlier
      have hsame : earlier.body.payerNatID = envelope.voucher.body.payerNatID := by
        rw [← hpayer, hfound]
        rfl
      rw [hfound, hsame]
      rfl
  refine ⟨hrestored.holders, hrestored.settlements, ?_⟩
  intro sessionID restored hget
  change (set pipeline.sessions (session.restoreVoucher envelope.voucher).sessionID
    (session.restoreVoucher envelope.voucher)).get sessionID = some restored at hget
  rw [hwritten, get_set] at hget
  split_ifs at hget with hsame
  · obtain rfl : sessionID = envelope.voucher.body.sessionID := hsame
    exact ⟨envelope.voucher, hvalid, rfl, (some.inj hget).symm⟩
  · exact hrestored.sessions _ _ hget

theorem Restored.restoreItems {envelopes : List Envelope} (hrestored : pipeline.Restored)
    (h : pipeline.restoreItems C node index envelopes = .ok pipeline') : pipeline'.Restored := by
  induction envelopes generalizing pipeline index with
  | nil =>
    obtain rfl : pipeline = pipeline' := Except.ok.inj h
    exact hrestored
  | cons envelope envelopes ih =>
    unfold Pipeline.restoreItems at h
    rw [bind_ok_iff] at h
    obtain ⟨next, hitem, h⟩ := h
    exact ih (hrestored.restoreItem hitem) h

/-- Whatever file a process finds, its sessions stand where vouchers have put them. -/
theorem restored_restart (C : Crypto) (J : EnvelopeJson) (node : RelayNode) (pipeline : Pipeline)
    (outcome : WriteOutcome) : (pipeline.restart C J node outcome).Restored := by
  unfold restart
  split
  · split
    · rename_i hqueue
      unfold restoreQueue at hqueue
      rw [bind_ok_iff] at hqueue
      obtain ⟨envelopes, -, hitems⟩ := hqueue
      exact (restored_blank _).restoreItems hitems
    · exact restored_blank _
  · exact restored_blank _

/-! ## The maps agree -/

theorem Restored.keyed (hrestored : pipeline.Restored) : pipeline.Keyed := by
  have hholders (sessionID : Identifier) : pipeline.holders.get sessionID = none := by
    rw [hrestored.holders]
    rfl
  have hsettlements (key : Identifier × ℕ) : pipeline.settlements.get key = none := by
    rw [hrestored.settlements]
    rfl
  refine ⟨?_, fun sessionID _ => hholders sessionID, fun _ _ _ => hsettlements _, ?_, ?_⟩
  · intro sessionID session hget
    obtain ⟨voucher, -, -, rfl⟩ := hrestored.sessions _ _ hget
    rfl
  · intro sessionID held body hget
    rw [hholders] at hget
    cases hget
  · intro sessionID thread state body hget
    rw [hsettlements] at hget
    cases hget

theorem Keyed.view (hkeyed : pipeline.Keyed) {view : SessionView}
    (hview : pipeline.view sessionID = some view) : view.KeyedBy sessionID := by
  obtain ⟨hsession, hholder, hsettlement⟩ := view_eq_some.mp hview
  refine ⟨hkeyed.session _ _ hsession, ?_, ?_⟩
  · intro held body hclaim
    exact hkeyed.claiming _ held body (hholder.trans hclaim)
  · intro thread state body hclaim
    exact hkeyed.settling _ thread state body ((congrFun hsettlement thread).trans hclaim)

/-- Steps that move every session keep the maps in agreement. -/
theorem Keyed.of_steps (hkeyed : pipeline.Keyed)
    (hsteps : ∀ sessionID, Steps C node pipeline pipeline' output sessionID) : pipeline'.Keyed := by
  have hcases (sessionID : Identifier) :
      (∃ view, pipeline'.view sessionID = some view ∧ view.KeyedBy sessionID) ∨
        pipeline'.sessions.get sessionID = none ∧ pipeline'.holders.get sessionID = none ∧
          ∀ thread, pipeline'.settlements.get (sessionID, thread) = none := by
    rcases hsteps sessionID with ⟨hagree, -⟩ | ⟨payerID, -, hopened, -⟩ |
      ⟨view, moved, hview, hmoved, hmove⟩
    · cases hview : pipeline.view sessionID with
      | some view => exact .inl ⟨view, hagree.view.trans hview, hkeyed.view hview⟩
      | none =>
        have hnone := view_eq_none.mp hview
        exact .inr ⟨hagree.session.trans hnone, hagree.holder.trans (hkeyed.holder _ hnone),
          fun thread => (hagree.settlement thread).trans (hkeyed.settlement _ thread hnone)⟩
    · exact .inl ⟨_, hopened, rfl, nofun, nofun⟩
    · exact .inl ⟨moved, hmoved, hmove.keyedBy (hkeyed.view hview)⟩
  refine ⟨fun sessionID session hget => ?_, fun sessionID hnone => ?_,
    fun sessionID thread hnone => ?_, fun sessionID held body hget => ?_,
    fun sessionID thread state body hget => ?_⟩
  all_goals
    rcases hcases sessionID with ⟨view, hview, hby⟩ | ⟨habsent, hholder, hsettlement⟩
  · obtain rfl := mem_unique (view_eq_some.mp hview).1 hget
    exact hby.session
  · rw [habsent] at hget
    cases hget
  · rw [(view_eq_some.mp hview).1] at hnone
    cases hnone
  · exact hholder
  · rw [(view_eq_some.mp hview).1] at hnone
    cases hnone
  · exact hsettlement thread
  · exact hby.claiming held body ((view_eq_some.mp hview).2.1.symm.trans hget)
  · rw [hholder] at hget
    cases hget
  · exact hby.settling thread state body
      ((congrFun (view_eq_some.mp hview).2.2.symm thread).trans hget)
  · rw [hsettlement] at hget
    cases hget

theorem Keyed.step (hkeyed : pipeline.Keyed) (event : Event) :
    (pipeline.step C J node event).1.Keyed := by
  by_cases hrestart : ∃ outcome, event = .restart outcome
  · obtain ⟨outcome, rfl⟩ := hrestart
    exact (restored_restart C J node pipeline outcome).keyed
  · exact hkeyed.of_steps (step_steps hkeyed event fun outcome h => hrestart ⟨outcome, h⟩)

end Pipeline

end NatP2P.Billing
