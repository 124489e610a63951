import NatP2P.Network.Holdback.Defs

/-!
# What the operations of the holdback can do

Reference: `networkFrameWork/billing_holdback.go`.

One lemma for each operation lists its outcomes with what has been checked on the way. The accounts
are derived from these lists, without another look into an operation.
-/

namespace NatP2P.Network.Holdback

open List GoMap

variable {p : EntryRef} {e : Entry} {k : HoldbackKey} {h : Holdback}

theorem entry_eq_some : h.entry p = some e ↔ h.entries.get p.key = some e ∧ e.ref = p.ref := by
  simp [entry, Option.filter_eq_some_iff]

theorem entry_pointer (he : h.entries.get k = some e)
    (hkey : e.key = k) : h.entry e.pointer = some e := by
  subst hkey
  exact entry_eq_some.mpr ⟨he, rfl⟩

theorem entry_put (h : Holdback) (e : Entry) (p : EntryRef) :
    (h.put e).entry p = if p.key = e.key then (if e.ref = p.ref then some e else none)
      else h.entry p := by
  rw [put]
  split_ifs <;> simp_all [entry]

/-! ## Removal -/

theorem removeIdleConnection_eq (h : Holdback) (ck : ConnectionKey) :
    h.removeIdleConnection ck = h ∨ ∃ c, h.connections.get ck = some c ∧ c.busy = false ∧
      h.removeIdleConnection ck = { h with connections := h.connections.delete ck } := by
  rw [removeIdleConnection]
  split
  · exact .inl rfl
  · next c hc =>
    split_ifs with hbusy
    · exact .inl rfl
    · exact .inr ⟨c, hc, Bool.not_eq_true _ ▸ hbusy, rfl⟩

theorem removeIdleConnection_approved (h : Holdback) (ck : ConnectionKey) :
    (h.removeIdleConnection ck).approved = h.approved := by
  rcases removeIdleConnection_eq h ck with heq | ⟨c, -, -, heq⟩ <;> rw [heq]

/-- `removeEntryLocked` leaves the rest of the state alone when it takes an entry off the counter of
its node. -/
theorem uncountNode_eq (h : Holdback) (n : Bytes) :
    ∃ byNode locks, h.uncountNode n = { h with entriesByNode := byNode, validationLocks := locks } ∧
      (∀ n', (byNode.get n').getD 0 =
        if n' = n then max (h.nodeEntries n - 1) 0 else h.nodeEntries n') ∧
      (locks = h.validationLocks ∨ ∃ lock, h.validationLocks.get n = some lock ∧
        (h.locks lock).users = 0 ∧ locks = h.validationLocks.delete n) := by
  simp only [uncountNode]
  split_ifs with hremaining
  · refine ⟨_, _, rfl, fun n' => ?_, .inl rfl⟩
    rw [get_set]
    split_ifs
    · rw [Option.getD_some, max_eq_left (by omega)]
    · rfl
  · have hcount : ∀ n', ((h.entriesByNode.delete n).get n').getD 0 =
        if n' = n then max (h.nodeEntries n - 1) 0 else h.nodeEntries n' := by
      intro n'
      rw [get_delete]
      split_ifs
      · rw [Option.getD_none, max_eq_right (by omega)]
      · rfl
    simp only [dropUnusedLock]
    split
    · exact ⟨_, _, rfl, hcount, .inl rfl⟩
    · next lock hlock =>
      split_ifs with husers
      · exact ⟨_, _, rfl, hcount, .inr ⟨lock, hlock, husers, rfl⟩⟩
      · exact ⟨_, _, rfl, hcount, .inl rfl⟩

theorem discharge_eq (h : Holdback) (p : EntryRef) (e : Entry) :
    ∃ byNode locks, h.discharge p e = { h with
        entries := h.entries.delete p.key
        entriesByNode := byNode
        validationLocks := locks
        usage := h.usage + -e.usage
        connections := (h.count p.key.connection (-e.usage)).connections
        approved := if e.approved ∧ e.approvedItem then h.approved.erase e.pointer else h.approved } ∧
      (∀ n', (byNode.get n').getD 0 =
        if n' = p.key.nodeID then max (h.nodeEntries p.key.nodeID - 1) 0 else h.nodeEntries n') ∧
      (locks = h.validationLocks ∨ ∃ lock, h.validationLocks.get p.key.nodeID = some lock ∧
        (h.locks lock).users = 0 ∧ locks = h.validationLocks.delete p.key.nodeID) := by
  obtain ⟨byNode, locks, heq, hcount, hlocks⟩ :=
    uncountNode_eq { h with entries := h.entries.delete p.key } p.key.nodeID
  refine ⟨byNode, locks, ?_, hcount, hlocks⟩
  simp only [discharge, heq, unlist, count]
  split_ifs <;> rfl

theorem removeEntry_of_none (he : h.entry p = none) : h.removeEntry p = h := by
  rw [removeEntry, he]

/-- The state behind the removal of an entry, apart from the connections and from the counters of
the node. -/
theorem removeEntry_eq (he : h.entry p = some e) :
    ∃ byNode locks connections, h.removeEntry p = { h with
        entries := h.entries.delete p.key
        entriesByNode := byNode
        validationLocks := locks
        usage := h.usage + -e.usage
        connections := connections
        approved := if e.approved ∧ e.approvedItem then h.approved.erase e.pointer else h.approved } ∧
      (connections = (h.count p.key.connection (-e.usage)).connections ∨
        ∃ c, (h.count p.key.connection (-e.usage)).connections.get p.key.connection = some c ∧
          c.busy = false ∧ connections =
            (h.count p.key.connection (-e.usage)).connections.delete p.key.connection) ∧
      (locks = h.validationLocks ∨ ∃ lock, h.validationLocks.get p.key.nodeID = some lock ∧
        (h.locks lock).users = 0 ∧ locks = h.validationLocks.delete p.key.nodeID) := by
  obtain ⟨byNode, locks, heq, -, hlocks⟩ := discharge_eq h p e
  have hremove : h.removeEntry p = (h.discharge p e).removeIdleConnection p.key.connection := by
    rw [removeEntry, he]
  rcases removeIdleConnection_eq (h.discharge p e) p.key.connection with hidle | ⟨c, hc, hbusy, hidle⟩
  · exact ⟨byNode, locks, _, hremove.trans (hidle.trans heq), .inl rfl, hlocks⟩
  · rw [heq] at hc
    exact ⟨byNode, locks, _, hremove.trans (heq ▸ hidle), .inr ⟨c, hc, hbusy, rfl⟩, hlocks⟩

theorem entry_unique {q : EntryRef} {e' : Entry} (he : h.entry p = some e)
    (he' : h.entry q = some e') (hkey : q.key = p.key) : q = p := by
  obtain ⟨hget, href⟩ := entry_eq_some.mp he
  obtain ⟨hget', href'⟩ := entry_eq_some.mp he'
  obtain ⟨qkey, qref⟩ := q
  simp_all

theorem entry_removeEntry (h : Holdback) (p q : EntryRef) :
    (h.removeEntry p).entry q = if q = p then none else h.entry q := by
  cases he : h.entry p with
  | none =>
    rw [removeEntry_of_none he]
    split_ifs with hq
    · rw [hq, he]
    · rfl
  | some e =>
    obtain ⟨byNode, locks, connections, heq, -, -⟩ := removeEntry_eq he
    rw [heq]
    show ((h.entries.delete p.key).get q.key).filter _ = _
    rw [get_delete]
    by_cases hkey : q.key = p.key
    · split_ifs with hq
      · rfl
      · cases he' : h.entry q with
        | none => rfl
        | some e' => exact absurd (entry_unique he he' hkey) hq
    · rw [if_neg hkey, if_neg fun hq : q = p => hkey (hq ▸ rfl)]
      rfl

/-! ## Frames come in -/

section Add

variable {h h' : Holdback} {ck : ConnectionKey} {c : HoldbackConnection}

variable (hok : h.connect ck = .ok (c, h'))
include hok

/-- `add` reaches a connection that is there, or makes one. -/
theorem connect_cases :
    (∃ old, h.connections.get ck = some old ∧ c = old.stopRecovery ∧ h' = h.putConnection ck c) ∨
      (h.connections.get ck = none ∧ h.connections.len < h.limits.maxConnections ∧
        c = .new h.created ∧
        h' = { h.putConnection ck (.new h.created) with created := h.created + 1 }) := by
  rw [Holdback.connect] at hok
  split at hok
  · next old hold =>
    obtain ⟨rfl, rfl⟩ := Prod.ext_iff.mp (Except.ok.inj hok)
    exact .inl ⟨old, hold, rfl, rfl⟩
  · next hnone =>
    split_ifs at hok with hlimit
    obtain ⟨rfl, rfl⟩ := Prod.ext_iff.mp (Except.ok.inj hok)
    exact .inr ⟨hnone, Nat.not_le.mp hlimit, rfl, rfl⟩

theorem connect_limits : h'.limits = h.limits := by
  rcases connect_cases hok with ⟨old, -, -, rfl⟩ | ⟨-, -, -, rfl⟩ <;> rfl

theorem connect_entries : h'.entries = h.entries := by
  rcases connect_cases hok with ⟨old, -, -, rfl⟩ | ⟨-, -, -, rfl⟩ <;> rfl

end Add

/-- `add` takes up a deferred message again. -/
structure Resumes (h : Holdback) (nodeID : Bytes) (frame : Frame) (now : ℤ) (e : Entry)
    (message : Message) (result : Except HoldbackError Added × Holdback) : Prop where
  entry : h.entries.get ⟨nodeID, frame.connectionId, frame.messageId⟩ = some e
  held : e.message = some message
  deferred : e.deferred
  unapproved : e.approved = false
  retry : e.retryAfter ≤ now
  completion : result.1 = .ok (.resume ⟨e.pointer, orderedFrames e.frames, message⟩)
  state : result.2 = h.put { e.stopTimer with deferred := false }

/-- `add` reaches the part that stores the frame. -/
structure Stores (h : Holdback) (nodeID : Bytes) (frame : Frame) : Prop where
  carries : frame.carries
  sequence : frame.seqId < frame.totalFrames
  total : frame.totalFrames ≤ h.limits.maxMessageFrames
  unknown : ∀ e, h.entries.get ⟨nodeID, frame.connectionId, frame.messageId⟩ = some e →
    e.approved = false ∧ e.validating = false ∧ e.digests.get frame.seqId = none ∧
      e.totalFrames = frame.totalFrames

/-- The frame is not held back: it is no data frame, or a frame of an approved message. -/
def Passes (h : Holdback) (C : Crypto) (nodeID : Bytes) (frame : Frame) : Prop :=
  ¬ frame.carries ∨ ∃ e, h.entries.get ⟨nodeID, frame.connectionId, frame.messageId⟩ = some e ∧
    e.approved ∧ e.digests.get frame.seqId = some (C.sha256 frame.payload)

theorem add_cases (h : Holdback) (C : Crypto) (nodeID : Bytes) (frame : Frame) (now : ℤ) :
    ((h.add C nodeID frame now).2 = h ∧ (∀ added, (h.add C nodeID frame now).1 = .ok added →
      added = .nothing ∨ added = .forward [frame] ∧ h.Passes C nodeID frame)) ∨
    (∃ e message, h.Resumes nodeID frame now e message (h.add C nodeID frame now)) ∨
    (h.Stores nodeID frame ∧ h.add C nodeID frame now =
      h.addFrame C ⟨nodeID, frame.connectionId, frame.messageId⟩
        (h.entries.get ⟨nodeID, frame.connectionId, frame.messageId⟩) frame now) := by
  -- a frame that is no piece of a message is passed on
  by_cases hcarries : frame.carries
  swap
  · refine .inl ⟨?_, ?_⟩ <;> rw [add, if_pos hcarries]
    rintro added ⟨⟩
    exact .inr ⟨rfl, .inl hcarries⟩
  rw [add, if_neg (not_not.mpr hcarries)]
  split
  · exact .inl ⟨rfl, nofun⟩
  next hcheck =>
  -- what the checks of the frame have established
  simp only [checkFrame, check_bind_ok_iff, check_ok_iff, not_or, not_lt, not_le] at hcheck
  obtain ⟨-, ⟨-, -, hsequence⟩, htotal⟩ := hcheck
  simp only
  cases he : h.entries.get ⟨nodeID, frame.connectionId, frame.messageId⟩ with
  | none => exact .inr (.inr ⟨⟨hcarries, hsequence, htotal, fun e he' => by simp [he] at he'⟩, rfl⟩)
  | some e =>
    simp only
    by_cases hframes : e.totalFrames = frame.totalFrames
    swap
    · rw [if_pos hframes]
      exact .inl ⟨rfl, nofun⟩
    rw [if_neg (not_not.mpr hframes)]
    cases hdigest : e.digests.get frame.seqId with
    | some expected =>
      simp only
      -- the number has come before, with this payload or another one
      by_cases hsame : expected = C.sha256 frame.payload
      swap
      · rw [if_pos hsame]
        exact .inl ⟨rfl, nofun⟩
      rw [if_neg (not_not.mpr hsame), addKnown]
      by_cases happroved : e.approved
      · rw [if_pos happroved]
        refine .inl ⟨rfl, ?_⟩
        rintro added ⟨⟩
        exact .inr ⟨rfl, .inr ⟨e, he, happroved, hsame ▸ hdigest⟩⟩
      rw [if_neg happroved]
      cases hmessage : e.message with
      | none =>
        refine .inl ⟨rfl, ?_⟩
        rintro added ⟨⟩
        exact .inl rfl
      | some message =>
        simp only
        -- a deferred message goes on with its last frame, after the delay
        by_cases hretry : e.deferred ∧ frame.seqId + 1 = e.totalFrames ∧ e.retryAfter ≤ now
        · rw [if_pos hretry]
          exact .inr (.inl ⟨e, message, he, hmessage, hretry.1, Bool.not_eq_true _ ▸ happroved,
            hretry.2.2, rfl, rfl⟩)
        · rw [if_neg hretry]
          refine .inl ⟨rfl, ?_⟩
          rintro added ⟨⟩
          exact .inl rfl
    | none =>
      -- a new number is too late for an entry that is complete
      by_cases hknown : e.approved ∨ e.validating
      · rw [if_pos hknown]
        exact .inl ⟨rfl, nofun⟩
      · rw [if_neg hknown]
        rw [not_or, Bool.not_eq_true, Bool.not_eq_true] at hknown
        refine .inr (.inr ⟨⟨hcarries, hsequence, htotal, ?_⟩, rfl⟩)
        intro e' he'
        obtain rfl : e = e' := Option.mem_unique he he'
        exact ⟨hknown.1, hknown.2, hdigest, hframes⟩

/-! ## Validation -/

/-- `approve` finds the entry under validation and its connection in a phase that admits it. -/
structure Approvable (h : Holdback) (p : EntryRef) (a : Approval) (e : Entry)
    (c : HoldbackConnection) : Prop where
  entry : h.entry p = some e
  validating : e.validating
  pending : e.pending
  connection : h.connections.get p.key.connection = some c
  session : a.bindE2ESession → c.phase.e2eSessionSeen → c.phase.e2eSessionID = a.e2eSessionID

theorem approve_cases (h : Holdback) (p : EntryRef) (a : Approval) (now : ℤ) :
    (h.approve p a now = (false, h) ∧ ∀ e c, ¬ h.Approvable p a e c) ∨
    ∃ e c, h.Approvable p a e c ∧ h.approve p a now =
      (true, ((h.approveEntry p e c a).evictApproved p.key.connection).scheduleHeld p now
        ((h.approveEntry p e c a).evictApproved p.key.connection).limits.approvedTTL) := by
  rw [approve]
  cases he : h.entry p with
  | none => exact .inl ⟨rfl, fun e c hok => Option.some_ne_none e (hok.entry.symm.trans he)⟩
  | some e =>
    have hentry : ∀ e' c, h.Approvable p a e' c → e' = e := fun e' c hok =>
      Option.mem_unique hok.entry he
    simp only
    by_cases hflags : ¬ e.validating ∨ ¬ e.pending
    · rw [if_pos hflags]
      refine .inl ⟨rfl, fun e' c hok => ?_⟩
      obtain rfl := hentry e' c hok
      exact hflags.elim (fun h => h hok.validating) fun h => h hok.pending
    rw [if_neg hflags]
    rw [not_or, not_not, not_not] at hflags
    cases hc : h.connections.get p.key.connection with
    | none =>
      exact .inl ⟨rfl, fun e' c hok => Option.some_ne_none c (hok.connection.symm.trans hc)⟩
    | some c =>
      simp only
      by_cases hsession : a.bindE2ESession ∧ c.phase.e2eSessionSeen ∧
          c.phase.e2eSessionID ≠ a.e2eSessionID
      · rw [if_pos hsession]
        refine .inl ⟨rfl, fun e' c' hok => ?_⟩
        obtain rfl : c = c' := Option.mem_unique hc hok.connection
        exact hsession.2.2 (hok.session hsession.1 hsession.2.1)
      · rw [if_neg hsession]
        refine .inr ⟨e, c, ⟨he, hflags.1, hflags.2, hc, fun hbind hseen => ?_⟩, rfl⟩
        by_contra hne
        exact hsession ⟨hbind, hseen, hne⟩

theorem deferCompletion_cases (h : Holdback) (completion : Completion) (now : ℤ) :
    (h.deferCompletion completion now = (false, h) ∧
      ∀ e, h.entry completion.entry = some e → e.validating → e.pending = false) ∨
    ∃ e, h.entry completion.entry = some e ∧ e.validating ∧ e.pending ∧
      h.deferCompletion completion now =
        (true, h.put (e.defer completion.message now h.limits.pendingTTL)) := by
  rw [deferCompletion]
  cases he : h.entry completion.entry with
  | none => exact .inl ⟨rfl, fun e he => absurd he.symm (Option.some_ne_none e)⟩
  | some e =>
    simp only
    by_cases hflags : ¬ e.validating ∨ ¬ e.pending
    · rw [if_pos hflags]
      refine .inl ⟨rfl, ?_⟩
      rintro e' ⟨⟩ hvalidating
      exact Bool.not_eq_true _ ▸ hflags.resolve_left (not_not.mpr hvalidating)
    · rw [if_neg hflags]
      rw [not_or, not_not, not_not] at hflags
      exact .inr ⟨e, rfl, hflags.1, hflags.2, rfl⟩

/-- The loop of `nextDeferred` selects one of the entries it visits. -/
theorem foldl_prefer {entries : List Entry} {nodeID : Bytes} {sessionID : Bytes32}
    {start : Option (Entry × Message)} {m : Message}
    (h : entries.foldl (prefer nodeID sessionID) start = some (e, m)) :
    start = some (e, m) ∨ e ∈ entries ∧ deferredMessage e nodeID sessionID = some m := by
  induction entries generalizing start with
  | nil => exact .inl h
  | cons first rest ih =>
    rcases ih h with hfirst | ⟨hmem, hm⟩
    · unfold prefer at hfirst
      split at hfirst
      · exact .inl hfirst
      · next m' hm' =>
        obtain ⟨rfl, rfl⟩ := Prod.ext_iff.mp (Option.some.inj hfirst)
        exact .inr ⟨mem_cons_self, hm'⟩
      · next m' s sm hm' =>
        split_ifs at hfirst
        · obtain ⟨rfl, rfl⟩ := Prod.ext_iff.mp (Option.some.inj hfirst)
          exact .inr ⟨mem_cons_self, hm'⟩
        · exact .inl hfirst
    · exact .inr ⟨mem_cons_of_mem _ hmem, hm⟩

theorem nextDeferred_cases (h : Holdback) (order : GoMap.Order HoldbackKey) (nodeID : Bytes)
    (sessionID : Bytes32) :
    h.nextDeferred order nodeID sessionID = (none, h) ∨
    ∃ k e m, h.entries.get k = some e ∧ deferredMessage e nodeID sessionID = some m ∧
      h.nextDeferred order nodeID sessionID = (some ⟨e.pointer, orderedFrames e.frames, m⟩,
          h.put { e.stopTimer with deferred := false }) := by
  rw [nextDeferred]
  split
  · exact .inl rfl
  · next e m hselected =>
    rcases foldl_prefer hselected with hnone | ⟨hmem, hm⟩
    · cases hnone
    · obtain ⟨k, hk⟩ := mem_values.mp hmem
      exact .inr ⟨k, e, m, hk, hm, rfl⟩

/-! ## Connections go away -/

/-- A removal only takes entries away. -/
theorem get_removeEntry
    (he : (h.removeEntry p).entries.get k = some e) : h.entries.get k = some e := by
  cases hp : h.entry p with
  | none => rwa [removeEntry_of_none hp] at he
  | some e' =>
    obtain ⟨byNode, locks, connections, heq, -, -⟩ := removeEntry_eq hp
    rw [heq] at he
    exact (get_delete_eq_some.mp he).2

/-- `forgetConnection` and `resetConnection` leave no entry on the connection. -/
theorem removeEntries_none {order : GoMap.Order HoldbackKey} {ck : ConnectionKey}
    (hkeyed : ∀ k e, h.entries.get k = some e → e.key = k) (k : HoldbackKey) (e : Entry)
    (he : (h.removeEntries order ck).entries.get k = some e) : k.connection ≠ ck := by
  -- the entries of the connection that are still there are among those the loop has yet to visit
  have hloop : ∀ (rest : List Entry) (h : Holdback), (∀ k e, h.entries.get k = some e → e.key = k) →
      (∀ k e, h.entries.get k = some e → k.connection = ck → e ∈ rest) →
      ∀ k e, (rest.foldl (fun h e => if e.key.connection = ck then h.removeEntry e.pointer else h)
        h).entries.get k = some e → k.connection ≠ ck := by
    intro rest
    induction rest with
    | nil =>
      intro h _ hrest k e he hck
      exact absurd (hrest k e he hck) not_mem_nil
    | cons first rest ih =>
      intro h hkeyed hrest
      rw [foldl_cons]
      split_ifs with hfirst
      · refine ih _ (fun k e he => hkeyed k e (get_removeEntry he)) fun k e he hck => ?_
        rcases mem_cons.mp (hrest k e (get_removeEntry he) hck) with rfl | hmem
        · have hkey := hkeyed k e (get_removeEntry he)
          have hgone := entry_removeEntry h e.pointer e.pointer
          rw [if_pos rfl, entry_pointer he hkey] at hgone
          cases hgone
        · exact hmem
      · refine ih h hkeyed fun k e he hck => ?_
        rcases mem_cons.mp (hrest k e he hck) with rfl | hmem
        · exact absurd (hkeyed k e he ▸ hck) hfirst
        · exact hmem
  exact hloop _ h hkeyed (fun k e he _ => mem_values.mpr ⟨k, he⟩) k e he

/-- What removals keep, the loop keeps. -/
theorem removeEntries_induction {motive : Holdback → Prop}
    (order : GoMap.Order HoldbackKey) (ck : ConnectionKey) (hstart : motive h)
    (hstep : ∀ h p, motive h → motive (h.removeEntry p)) : motive (h.removeEntries order ck) := by
  rw [removeEntries]
  generalize h.entries.values order = visited
  induction visited generalizing h with
  | nil => exact hstart
  | cons first rest ih =>
    rw [foldl_cons]
    split_ifs
    · exact ih (hstep h _ hstart)
    · exact ih hstart

end NatP2P.Network.Holdback
