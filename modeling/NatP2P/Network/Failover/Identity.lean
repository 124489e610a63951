import NatP2P.Network.Failover.Ownership
import NatP2P.Network.Failover.Representation

/-!
# Failover keeps the messages apart

Every ACK that the endpoint writes goes to the leg that its message came from, under the id that the
message had there. Every ACK that it reads is taken for the message that was written to that leg
under that id, and no two messages are written to a leg under one id. All this holds until one of
the 64-bit generators of ids comes round.

There is one exception. `onLegDetached` gives up the route of a message that came in, because an ACK
makes sense only on the leg of its message. `replayRoute` has no such check: when the write of an
ACK fails and somebody else has already taken the leg out of `DualStream`, it moves the route to
another leg and writes the ACK there, under an id of its own.
-/

namespace NatP2P.Network

open List DualFrameRelayEndpoint

/-- The key of the message of a frame that was read. -/
def CollectedFrame.key (c : CollectedFrame) : FrameEndpointKey :=
  ⟨c.adapter.kind, c.adapter, c.frame.connectionId, c.frame.messageId⟩

namespace LegSystem

/-- Failover keeps the messages apart. A leg is the stream below it. -/
structure PreservesIdentity (s : LegSystem) : Prop where
  /-- An ACK that is written has the id under which the peer sent its message on this leg. -/
  acks : ∀ w ∈ s.written, w.frame.frameType = frameTypeAck → ∃ c ∈ s.collected,
    c.frame.frameType ≠ frameTypeAck ∧ c.logicalID = w.logicalID ∧ c.adapter = w.adapter ∧
      c.frame.messageId = w.frame.messageId
  /-- A logical id stands for one message of one peer. -/
  received : ∀ c ∈ s.collected, ∀ c' ∈ s.collected, c.frame.frameType ≠ frameTypeAck →
    c'.frame.frameType ≠ frameTypeAck → c.logicalID = c'.logicalID → c.key = c'.key
  /-- An ACK that was read is taken for the message that was written to the leg under its id. -/
  translated : ∀ c ∈ s.collected, c.frame.frameType = frameTypeAck → ∀ w ∈ s.written,
    w.frame.frameType ≠ frameTypeAck → w.adapter.stream = c.adapter.stream →
      w.frame.messageId = c.frame.messageId → w.logicalID = c.logicalID
  /-- As long as the route and the adapter are there, the next ACK is taken for the message. -/
  found : ∀ w ∈ s.written, w.frame.frameType ≠ frameTypeAck →
    ∀ route, s.endpoint.routes.get w.logicalID = some route → route.serial = w.route →
    s.endpoint.adapters.get w.adapter.kind = some w.adapter →
    ∀ frame order now, frame.frameType = frameTypeAck → frame.messageId = w.frame.messageId →
      (s.endpoint.resolveIncomingFrameLocked w.adapter.kind w.adapter frame order now).1 =
        .ok (some w.logicalID)
  /-- Data that is written to a leg under one id belongs to one message. -/
  data : ∀ w ∈ s.written, ∀ w' ∈ s.written, w.frame.frameType ≠ frameTypeAck →
    w'.frame.frameType ≠ frameTypeAck → w.adapter.stream = w'.adapter.stream →
      w.frame.messageId = w'.frame.messageId → w.logicalID = w'.logicalID

/-- A message came in under a key. -/
def Received (collected : List CollectedFrame) (l : ℕ) (key : FrameEndpointKey) : Prop :=
  ∃ c ∈ collected, c.frame.frameType ≠ frameTypeAck ∧ c.logicalID = l ∧ c.key = key

/-- How the pumps use the endpoint: an ACK has the logical id of a message that came in, and any
other frame has an id that was allocated for its message. -/
def Answers (s : LegSystem) (f : Frame) : Prop :=
  if f.frameType = frameTypeAck then
    ∃ c ∈ s.collected, c.frame.frameType ≠ frameTypeAck ∧ c.logicalID = f.messageId
  else f.messageId ∈ s.allocated

/-- The pumps use the endpoint as they should. -/
def Pumped (s : LegSystem) : Event → Prop
  | .handle frames => ∀ f ∈ frames, f.frameType ≠ frameTypeConnectionClose → Answers s f
  | _ => True

/-- `replayRoute` moves no route of a message that came in. -/
def MovesOutgoing (s : LegSystem) : Event → Prop
  | .step i m => ∀ route ∈ (s.calls[i]?).bind (s.reboundRoute m), route.sourceKey = none
  | _ => True

instance (s : LegSystem) (f : Frame) : Decidable (Answers s f) :=
  inferInstanceAs (Decidable (ite _ _ _))

instance (s : LegSystem) (event : Event) : Decidable (Pumped s event) := by
  cases event <;> unfold Pumped <;> infer_instance

instance (s : LegSystem) (event : Event) : Decidable (MovesOutgoing s event) := by
  cases event <;> unfold MovesOutgoing <;> infer_instance

/-! ## What is known of messages -/

/-- A ticket leads where its message belongs. -/
def KnownTicket (s : LegSystem) (t : Ticket) : Prop :=
  Known (Received s.collected) (· ∈ s.allocated) s.endpoint t

/-- A frame may be written for a message. -/
def Names (s : LegSystem) (l : ℕ) (f : Frame) : Prop :=
  Carries (Received s.collected) (· ∈ s.allocated) l f

/-- What a call may still do leads where the messages belong. -/
def Leads (s : LegSystem) (stage : FailoverStage) : Prop :=
  stage.All s.KnownTicket (fun t f => s.Names t.logicalID f) fun f =>
    f.frameType ≠ frameTypeConnectionClose → s.Names f.messageId f

/-- A frame that was written is where its message belongs. -/
def Belongs (s : LegSystem) (w : SentFrame) : Prop :=
  if w.frame.frameType = frameTypeAck then
    ∃ key, Received s.collected w.logicalID key ∧ w.adapter = key.adapter ∧
      w.frame.messageId = key.messageID
  else w.logicalID ∈ s.allocated ∧
    Bound s.endpoint w.adapter w.frame.messageId w.logicalID w.route

/-- Logical ids of messages that came in and of messages that go out are different ones, and each
stands for one message. -/
structure Ledger (collected : List CollectedFrame) (allocated : List ℕ) (logicalGen : ℕ) :
    Prop where
  received_le : ∀ l key, Received collected l key → l ≤ logicalGen
  sent_le : ∀ l ∈ allocated, l ≤ logicalGen
  received_not_sent : ∀ l key, Received collected l key → l ∉ allocated
  received_unique : ∀ l key key', Received collected l key → Received collected l key' → key = key'

/-- What holds in every state. -/
structure Identified (s : LegSystem) : Prop where
  inv : Inv s
  ledger : Ledger s.collected s.allocated s.endpoint.logicalGen
  tracked : Tracked (Received s.collected) (· ∈ s.allocated) s.endpoint
  calls : ∀ stage ∈ s.calls, s.Leads stage
  read : ∀ c ∈ s.collected, c.frame.frameType = frameTypeAck →
    s.endpoint.owners.get (c.adapter.stream, c.frame.messageId) = some c.logicalID
  written : ∀ w ∈ s.written, s.Belongs w

/-- What was known goes on to be known. -/
structure Onward (s s' : LegSystem) : Prop where
  received : ∀ l key, Received s.collected l key → Received s'.collected l key
  sent : ∀ l ∈ s.allocated, l ∈ s'.allocated
  keeps : Keeps s.endpoint s'.endpoint

section Steps

variable {s s' : LegSystem} {w : Warrant} {f frame : Frame} {l n n' : ℕ} {t : Ticket}
  {stage : FailoverStage} {e : DualFrameRelayEndpoint} {collected : List CollectedFrame}
  {allocated : List ℕ} {c : CollectedFrame} {m : FailoverMoment} {adapter : TcpFrameAdapter}
  {outcome : CollectOutcome}

theorem Names.onward (h : s.Names l f) (honward : Onward s s') : s'.Names l f :=
  Carries.mono honward.received honward.sent h

theorem KnownTicket.onward (h : s.KnownTicket t) (honward : Onward s s') : s'.KnownTicket t :=
  Known.mono honward.received honward.sent honward.keeps h

theorem Leads.onward (h : s.Leads stage) (honward : Onward s s') : s'.Leads stage :=
  h.mono (fun _ ht => KnownTicket.onward ht honward) (fun _ _ hf => Names.onward hf honward)
    fun _ hf hclose => Names.onward (hf hclose) honward

theorem Belongs.onward {w : SentFrame} (h : s.Belongs w) (honward : Onward s s') :
    s'.Belongs w := by
  unfold Belongs at h ⊢
  split_ifs at h ⊢
  · obtain ⟨key, hkey, hplace⟩ := h
    exact ⟨key, honward.received _ key hkey, hplace⟩
  · exact ⟨honward.sent _ h.1, honward.keeps.bound _ _ _ _ h.2⟩

/-- A step that keeps what is known. Only what is new in the state has to be looked at. -/
theorem Identified.next (h : Identified s) (honward : Onward s s') (hinv : Inv s')
    (hledger : Ledger s'.collected s'.allocated s'.endpoint.logicalGen)
    (htracked : Tracked (Received s'.collected) (· ∈ s'.allocated) s'.endpoint)
    (hcalls : ∀ stage ∈ s'.calls, stage ∈ s.calls ∨ s'.Leads stage)
    (hread : ∀ c ∈ s'.collected, c ∈ s.collected ∨ (c.frame.frameType = frameTypeAck →
      s'.endpoint.owners.get (c.adapter.stream, c.frame.messageId) = some c.logicalID))
    (hwritten : ∀ w ∈ s'.written, w ∈ s.written ∨ s'.Belongs w) : Identified s' where
  inv := hinv
  ledger := hledger
  tracked := htracked
  calls stage hstage := (hcalls stage hstage).elim
    (fun hold => Leads.onward (h.calls stage hold) honward) id
  read c hc := (hread c hc).elim
    (fun hold hack => honward.keeps.owner _ _ (h.read c hold hack)) id
  written w hw := (hwritten w hw).elim
    (fun hold => Belongs.onward (h.written w hold) honward) id

/-- A frame of a ticket that leads where its message belongs is written where it belongs. -/
theorem belongs_of_known (hledger : Ledger s.collected s.allocated s.endpoint.logicalGen)
    (hknown : s.KnownTicket t) (hnames : s.Names t.logicalID f) :
    s.Belongs ⟨t.endpoint, { f with messageId := t.dstID }, t.logicalID, t.serial⟩ := by
  unfold Belongs
  unfold Names Carries at hnames
  split_ifs at hnames ⊢ with hack
  · -- the message of an ACK came in, so it does not go out
    rcases hknown with ⟨key, hkey, hadapter, hid⟩ | ⟨hsent, -⟩
    · exact ⟨key, hkey, hadapter, hid⟩
    · obtain ⟨key, hkey⟩ := hnames
      exact absurd hsent (hledger.received_not_sent _ key hkey)
  · rcases hknown with ⟨key, hkey, -⟩ | hbound
    · exact absurd hnames (hledger.received_not_sent _ key hkey)
    · exact hbound

/-- What a loop takes along leads where the messages belong. -/
theorem leads_of_born {e' : DualFrameRelayEndpoint} {jobs : List ReplayJob}
    (hgrants : Grants w (Received s.collected) (· ∈ s.allocated)) (hopens : ∀ l, ¬ w.opens l)
    (hsound : Sound e) (hregistered : Registered e)
    (htracked : Tracked (Received s.collected) (· ∈ s.allocated) e)
    (hdone : LoopDone w e (e', jobs)) (hs' : s' = { s with endpoint := e', calls := s'.calls })
    (hbounded : Bounded e') :
    ∀ job ∈ jobs, s'.KnownTicket job.ticket ∧ ∀ f ∈ job.frames, s'.Names job.ticket.logicalID f := by
  intro job hjob
  rw [hs']
  exact htracked.born hgrants hopens hsound hregistered (hdone.born job hjob) hbounded

/-- A frame is read: its message was known before, or has a new logical id. -/
theorem Ledger.collect (h : Ledger collected allocated n) (hle : n ≤ n') (hc : c.logicalID ≤ n')
    (hnew : c.frame.frameType ≠ frameTypeAck → Received collected c.logicalID c.key ∨ n < c.logicalID) :
    Ledger (collected ++ [c]) allocated n' := by
  have hcases : ∀ {l key}, Received (collected ++ [c]) l key →
      Received collected l key ∨ (n < l ∧ l = c.logicalID ∧ key = c.key) := by
    rintro l key ⟨c', hmem, hdata, rfl, rfl⟩
    rcases mem_append.mp hmem with hold | hlast
    · exact .inl ⟨c', hold, hdata, rfl, rfl⟩
    · obtain rfl := mem_singleton.mp hlast
      exact (hnew hdata).imp_right fun hlt => ⟨hlt, rfl, rfl⟩
  constructor
  · intro l key hkey
    rcases hcases hkey with hold | ⟨-, rfl, -⟩
    · exact (h.received_le l key hold).trans hle
    · exact hc
  · exact fun l hl => (h.sent_le l hl).trans hle
  · intro l key hkey hsent
    rcases hcases hkey with hold | ⟨hlt, -, -⟩
    · exact h.received_not_sent l key hold hsent
    · exact absurd (h.sent_le l hsent) (Nat.not_le.mpr hlt)
  · intro l key key' hkey hkey'
    rcases hcases hkey with hold | ⟨hlt, hl, rfl⟩ <;>
      rcases hcases hkey' with hold' | ⟨hlt', hl', rfl⟩
    · exact h.received_unique l key key' hold hold'
    · exact absurd (h.received_le l key hold) (Nat.not_le.mpr hlt')
    · exact absurd (h.received_le l _ hold') (Nat.not_le.mpr hlt)
    · rfl

theorem Ledger.mono
    (h : Ledger collected allocated n) (hle : n ≤ n') : Ledger collected allocated n' :=
  { h with
    received_le := fun l key hkey => (h.received_le l key hkey).trans hle
    sent_le := fun l hl => (h.sent_le l hl).trans hle }

theorem Identified.changed (h : Identified s)
    (hs' : s' = { s with endpoint := e, calls := s'.calls }) (hinv : Inv s')
    (hle : s.endpoint.logicalGen ≤ e.logicalGen)
    (htracked : Tracked (Received s.collected) (· ∈ s.allocated) e) (hkeeps : Keeps s.endpoint e)
    (hcalls : ∀ stage ∈ s'.calls, stage ∈ s.calls ∨ s'.Leads stage) : Identified s' := by
  rw [hs'] at hinv hcalls ⊢
  exact h.next ⟨fun _ _ => id, fun _ => id, hkeeps⟩ hinv (h.ledger.mono hle) htracked hcalls
    (fun _ => .inl) fun _ => .inl

/-- A step that only moves outgoing routes fits what is known. -/
theorem Rebinds.grants (h : Rebinds s m stage w)
    (hkeeping : ∀ route, s.reboundRoute m stage = some route → route.sourceKey = none)
    (R : ℕ → FrameEndpointKey → Prop) (A : ℕ → Prop) : Grants w R A where
  moves route hmoves := by
    rcases h.moves route hmoves with hstrict | hrebound
    · exact hstrict
    · intro key hkey
      rw [hkeeping route hrebound] at hkey
      cases hkey
  caches l f hf := absurd hf (h.caches l f)
  admits l key hkey := absurd hkey (h.admits l key)
  opens l hl := absurd hl (h.opens l)

/-- What `handleFrameRun` does for frames that the pumps may hand over fits what is known. -/
theorem grants_handle {first : Frame} {run : List Frame}
    (hnames : ∀ f ∈ first :: run, s.Names first.messageId f) :
    Grants (handleWarrant first run) (Received s.collected) (· ∈ s.allocated) where
  moves _ hmoves := False.elim hmoves
  caches l f hf := hf.1 ▸ hnames f hf.2
  admits _ _ hadmits := False.elim hadmits
  opens l hl := by
    have hfirst := hnames first mem_cons_self
    unfold Names Carries at hfirst
    rw [if_neg] at hfirst
    · exact hl.1 ▸ hfirst
    · intro hack
      have hdata := of_decide_eq_true hl.2
      rw [hack] at hdata
      exact absurd hdata (by decide)

theorem collectedFrames_cases (h : c ∈ collectedFrames adapter frame outcome) :
    ∃ out, outcome = .passed out ∧ frame.frameType ≠ frameTypeConnectionClose ∧
      c = ⟨adapter, frame, out.messageId⟩ := by
  unfold collectedFrames at h
  split at h
  · next out =>
    split_ifs at h with hclose
    · cases h
    · exact ⟨out, rfl, hclose, mem_singleton.mp h⟩
  · cases h

/-- A message that `collect` admits is the one of the frame that it passes on. -/
theorem grants_collect (collected : List CollectedFrame) (A : ℕ → Prop) :
    Grants (collectWarrant adapter frame l outcome)
      (Received (collected ++ collectedFrames adapter frame outcome)) A where
  moves _ hmoves := False.elim hmoves
  caches _ _ hcaches := False.elim hcaches
  admits l' key hadmits := by
    obtain ⟨-, hdata, hclose, houtcome, rfl⟩ := hadmits
    refine ⟨⟨adapter, frame, l'⟩, mem_append_right _ ?_, hdata, rfl, rfl⟩
    rw [houtcome, collectedFrames, if_neg hclose]
    exact mem_singleton_self _
  opens _ hopens := False.elim hopens

section

variable (h : Identified s)
include h

/-- The logical id of a frame that was read stands for one message. -/
theorem Identified.ledger_collected (hle : s.endpoint.logicalGen ≤ n) (hlt : n < 2 ^ 64)
    (hresolves : ∀ out, outcome = .passed out → frame.frameType ≠ frameTypeConnectionClose →
      Resolves s.endpoint n adapter frame out.messageId) :
    Ledger (s.collected ++ collectedFrames adapter frame outcome) s.allocated n := by
  unfold collectedFrames
  split
  · next out =>
    split_ifs with hclose
    · rw [append_nil]
      exact h.ledger.mono hle
    · have hresolved := hresolves out rfl hclose
      refine h.ledger.collect hle hresolved.logicalID_le fun hdata => ?_
      obtain ⟨-, ⟨route, hget, hsource⟩ | ⟨hfresh, htaken⟩⟩ := hresolved.data hdata
      · exact .inl (h.tracked.incoming _ route _ hget hsource).1
      · rw [FrameIdGenerator.next, add64_eq (Nat.lt_of_le_of_lt htaken hlt)] at hfresh
        exact .inr (hfresh ▸ Nat.lt_succ_self _)
  · rw [append_nil]
    exact h.ledger.mono hle

theorem Identified.resumes {stage' : FailoverStage}
    (hfits : Fits s.endpoint.logicalGen stage) (hstage : s.Leads stage)
    (hkeeping : ∀ route, s.reboundRoute m stage = some route → route.sourceKey = none)
    (hresumes : Resumes s m stage (s', stage')) (hbounded : Bounded s'.endpoint) :
    Identified s' ∧ s'.Leads stage' := by
  have hinv := (h.inv.resumes hfits hresumes hbounded).1
  have hregistered := h.inv.placed.toRegistered
  cases hresumes with
  | stays hpart =>
    exact ⟨{ h with inv := hinv }, hpart _ _ _ hstage⟩
  | wrote hpart =>
    obtain ⟨⟨hknown, hnames⟩, hrest⟩ := hpart _ _ _ hstage
    refine ⟨{ h with inv := hinv, written := fun w hw => ?_ }, hrest⟩
    refine (mem_append.mp hw).elim (h.written w) fun hnew => ?_
    obtain ⟨f, hf, rfl⟩ := mem_map.mp hnew
    exact belongs_of_known h.ledger hknown (hnames f hf)
  | changed hwarrant hdone hpart =>
    have hgrants := hwarrant.grants hkeeping (Received s.collected) (· ∈ s.allocated)
    obtain ⟨htracked, hkeeps⟩ := h.tracked.changes hgrants
      (fun l hl => absurd hl (hwarrant.opens l)) h.inv.sound hregistered hdone.changes hbounded
    have hnext := h.changed rfl hinv (Changes.logicalGen_le hdone.changes) htracked hkeeps
      fun _ => .inl
    refine ⟨hnext, hpart _ _ _ (Leads.onward hstage ⟨fun _ _ => id, fun _ => id, hkeeps⟩) ?_⟩
    exact leads_of_born hgrants hwarrant.opens h.inv.sound hregistered h.tracked hdone rfl hbounded
  | @handled first run e stage' hchanges hframes hclose hsame hpart =>
    -- all frames of the run are of the message of the first
    have hnames : ∀ f ∈ first :: run, s.Names first.messageId f := by
      intro f hf
      have hf' := hframes _ _ _ hstage f hf (hclose f hf)
      rwa [hsame f hf] at hf'
    have hgrants := grants_handle hnames
    obtain ⟨htracked, hkeeps⟩ := h.tracked.changes hgrants
      (fun l hl => h.ledger.sent_le l (hgrants.opens l hl)) h.inv.sound hregistered hchanges hbounded
    have hnext := h.changed rfl hinv (Changes.logicalGen_le hchanges) htracked hkeeps fun _ => .inl
    refine ⟨hnext, hpart _ _ _ (Leads.onward hstage ⟨fun _ _ => id, fun _ => id, hkeeps⟩) ?_⟩
    exact fun route hget => ⟨htracked.known hget, hnames⟩
  | @collected adapter frame outcome e stage' hchanges hresolves hpart =>
    -- what was received stays received
    have hold : ∀ l key, Received s.collected l key →
        Received (s.collected ++ collectedFrames adapter frame outcome) l key :=
      fun l key ⟨c, hc, hdata, hplace⟩ => ⟨c, mem_append_left _ hc, hdata, hplace⟩
    obtain ⟨htracked, hkeeps⟩ := (h.tracked.mono hold fun _ => id).changes
      (grants_collect s.collected (· ∈ s.allocated)) (fun _ => False.elim) h.inv.sound hregistered
      hchanges hbounded
    refine ⟨h.next ⟨hold, fun _ => id, hkeeps⟩ hinv ?_ htracked (fun _ => .inl) ?_ fun _ => .inl,
      hpart _ _ _⟩
    · exact h.ledger_collected (Changes.logicalGen_le hchanges) hbounded.1 hresolves
    · intro c hc
      refine (mem_append.mp hc).imp_right fun hnew hack => ?_
      obtain ⟨out, hout, hclose, rfl⟩ := collectedFrames_cases hnew
      exact hkeeps.owner _ _ (h.tracked.indexed _ _ ((hresolves out hout hclose).ack hack))
  | @installed kind stream e jobs stage' hdone hpart =>
    have hgrants := Grants.strict (Received s.collected) (· ∈ s.allocated)
    -- the new adapter enters first, then routes move to it
    have hentered := h.tracked.enterAdapter kind stream
    have hsound := h.inv.sound.enterAdapter kind stream
    have hknown := hregistered.enterAdapter kind stream
    obtain ⟨htracked, hkeeps⟩ := hentered.changes hgrants (fun _ => False.elim) hsound hknown
      hdone.changes hbounded
    have hle : (s.endpoint.enterAdapter kind stream).logicalGen ≤ e.logicalGen :=
      Changes.logicalGen_le hdone.changes
    refine ⟨h.changed rfl hinv hle htracked
      ((Keeps.enterAdapter _ kind stream).trans hkeeps) fun c hc => ?_, hpart _ _ _ ?_⟩
    · refine (mem_append.mp hc).imp_right fun hnew => ?_
      rw [mem_singleton.mp hnew]
      trivial
    · exact leads_of_born hgrants (fun _ => id) hsound hknown hentered hdone rfl hbounded

theorem Identified.begin (hfits : Fits s.endpoint.logicalGen stage) (hstage : s.Leads stage) :
    Identified (s.begin stage) := by
  refine h.changed rfl (h.inv.begin hfits) le_rfl h.tracked (.refl _) fun c hc => ?_
  refine (mem_append.mp hc).imp_right fun hnew => ?_
  rw [mem_singleton.mp hnew]
  exact hstage

/-- Something changes the tables without a call. -/
theorem Identified.changes (hchanges : Changes .strict s.endpoint e) (hbounded : Bounded e) :
    Identified { s with endpoint := e } := by
  obtain ⟨htracked, hkeeps⟩ := h.tracked.changes (.strict _ _) (fun _ => False.elim) h.inv.sound
    h.inv.placed.toRegistered hchanges hbounded
  exact h.changed rfl (h.inv.changes hchanges rfl hbounded) (Changes.logicalGen_le hchanges) htracked
    hkeeps fun _ => .inl

theorem Identified.allocMessageId (hbounded : Bounded (s.step .allocMessageId).endpoint) :
    Identified (s.step .allocMessageId) := by
  have hinv : Inv (s.step .allocMessageId) := h.inv.step trivial hbounded
  have halloc : Change .strict s.endpoint
      { s.endpoint with logicalGen := s.endpoint.logicalGen + 1 } := .alloc
  have hsent : ∀ l ∈ s.allocated,
      l ∈ s.allocated ++ [FrameIdGenerator.next s.endpoint.logicalGen] :=
    fun l hl => mem_append_left _ hl
  have htracked := h.tracked.change (.strict _ _) h.inv.sound h.inv.placed.toRegistered halloc hbounded
  refine h.next ⟨fun _ _ => id, hsent, h.tracked.owned.keeps halloc hbounded⟩ hinv ?_
    (htracked.mono (fun _ _ => id) hsent) (fun _ => .inl) (fun _ => .inl) fun _ => .inl
  have hledger := h.ledger.mono (Nat.le_succ _)
  refine ⟨hledger.received_le, fun l hl => ?_, fun l key hkey hl => ?_, hledger.received_unique⟩
  · rcases mem_append.mp hl with hold | hnew
    · exact hledger.sent_le l hold
    · exact (mem_singleton.mp hnew).le.trans (Nat.mod_le _ _)
  · rcases mem_append.mp hl with hold | hnew
    · exact hledger.received_not_sent l key hkey hold
    · have hle := h.ledger.received_le l key hkey
      have heq := mem_singleton.mp hnew
      rw [FrameIdGenerator.next, add64_eq hbounded.1] at heq
      omega

/-- What the pumps hand over has a logical id from the generator. -/
theorem Identified.issued (hf : s.Names f.messageId f) : HasIssuedID s.endpoint.logicalGen f := by
  unfold Names Carries at hf
  intro _
  split_ifs at hf
  · obtain ⟨key, hkey⟩ := hf
    exact h.ledger.received_le _ key hkey
  · exact h.ledger.sent_le _ hf

end

theorem names_of_answers (h : Answers s f) : s.Names f.messageId f := by
  unfold Answers at h
  unfold Names Carries
  split_ifs at h ⊢
  · obtain ⟨c, hc, hdata, hl⟩ := h
    exact ⟨c.key, c, hc, hdata, hl, rfl⟩
  · exact h

theorem Identified.step (h : Identified s) {event : Event} (hpumped : Pumped s event)
    (houtgoing : MovesOutgoing s event) (hbounded : Unwrapped s event) :
    Identified (s.step event) := by
  unfold Unwrapped at hbounded
  cases event with
  | step i m =>
    cases hget : s.calls[i]? with
    | none => exact (step_no_call hget).symm ▸ h
    | some stage =>
      have hmem := mem_of_getElem? hget
      have hfits := h.inv.calls stage hmem
      have hrebound : ∀ route, s.reboundRoute m stage = some route → route.sourceKey = none :=
        fun route hroute => houtgoing route (by rw [hget]; exact hroute)
      have hinv : Inv (s.step (.step i m)) := h.inv.step trivial hbounded
      rw [step_call hget] at hinv hbounded ⊢
      obtain ⟨hnext, hleads⟩ := h.resumes hfits (h.calls stage hmem) hrebound
        (resume_cases h.inv.sound h.inv.placed
          (FailoverStage.All.mono (fun _ => id) (fun _ _ => id) (fun _ _ => trivial) hfits)) hbounded
      refine hnext.changed rfl hinv le_rfl hnext.tracked (.refl _) fun c hc => ?_
      rcases mem_or_eq_of_mem_set hc with hold | rfl
      · exact .inl hold
      · exact .inr hleads
  | handle frames =>
    have hnames : s.Leads (.handing frames) :=
      fun f hf hclose => names_of_answers (hpumped f hf hclose)
    refine h.begin (fun f hf hdata => ?_) hnames
    exact h.issued (hnames f hf (not_close_of_data hdata)) hdata
  | attach | detach | fail | maintain => exact h.begin trivial trivial
  | close order => exact h.changes changes_close hbounded
  | allocMessageId => exact h.allocMessageId hbounded
  | takeFrameId stream => exact h.changes (.single .takeFrameId) hbounded
  | leg id stream =>
    exact { h with inv := { h.inv with } }

end Steps

theorem Identified.new (limits : RouteLimits) (frameIdGen : ℕ → ℕ) :
    Identified (new limits frameIdGen) where
  inv := .new limits frameIdGen
  ledger :=
    { received_le := fun _ _ ⟨_, hc, _⟩ => nomatch hc
      sent_le := fun _ hl => nomatch hl
      received_not_sent := fun _ _ ⟨_, hc, _⟩ => nomatch hc
      received_unique := fun _ _ _ ⟨_, hc, _⟩ => nomatch hc }
  tracked :=
    { owned := fun _ _ _ hget => nomatch hget
      incoming := fun _ _ _ hget => nomatch hget
      outgoing := fun _ _ hget => nomatch hget
      cached := fun _ _ _ _ hget => nomatch hget
      indexed := fun _ _ hget => nomatch hget }
  calls _ hc := nomatch hc
  read _ hc := nomatch hc
  written _ hw := nomatch hw

/-- The id of data that was written belongs to its message. -/
theorem Identified.bound {s : LegSystem} (h : Identified s) {w : SentFrame} (hw : w ∈ s.written)
    (hdata : w.frame.frameType ≠ frameTypeAck) :
    Bound s.endpoint w.adapter w.frame.messageId w.logicalID w.route := by
  have hbelongs := h.written w hw
  unfold Belongs at hbelongs
  rw [if_neg hdata] at hbelongs
  exact hbelongs.2

theorem Identified.preservesIdentity {s : LegSystem} (h : Identified s) : PreservesIdentity s where
  acks w hw hack := by
    have hbelongs := h.written w hw
    unfold Belongs at hbelongs
    rw [if_pos hack] at hbelongs
    obtain ⟨key, ⟨c, hc, hdata, hl, rfl⟩, hadapter, hid⟩ := hbelongs
    exact ⟨c, hc, hdata, hl, hadapter.symm, hid.symm⟩
  received c hc c' hc' hdata hdata' hl :=
    h.ledger.received_unique c'.logicalID _ _ ⟨c, hc, hdata, hl, rfl⟩ ⟨c', hc', hdata', rfl, rfl⟩
  translated c hc hack w hw hdata hstream hid := by
    have howner := (h.bound hw hdata).owner
    rw [hstream, hid, h.read c hc hack] at howner
    exact (Option.some.inj howner).symm
  found w hw hdata route hget hserial hattached frame order now hack hid := by
    have hkey := (h.bound hw hdata).key_mem route hget hserial hattached
    have hindex := (h.inv.sound.ackIDs_iff _ _).mpr ⟨route, hget, hkey⟩
    unfold resolveIncomingFrameLocked
    rw [if_pos hack, hid]
    simp only [hindex, hget]
  data w hw w' hw' hdata hdata' hstream hid := by
    have howner := (h.bound hw hdata).owner
    rw [hstream, hid, (h.bound hw' hdata').owner] at howner
    exact (Option.some.inj howner).symm

/-- In every state that the calls of an endpoint reach, failover has kept the messages apart, if
`replayRoute` has moved no route of a message that came in and no generator has come round. -/
theorem run_preserves_identity (limits : RouteLimits) (frameIdGen : ℕ → ℕ) (events : List Event)
    (hsteps : Along stepOutput (fun s event => Pumped s event ∧ MovesOutgoing s event)
      (new limits frameIdGen) events)
    (hbounded : Along stepOutput Unwrapped (new limits frameIdGen) events) :
    PreservesIdentity (run limits frameIdGen events) := by
  have h : Identified (run limits frameIdGen events) :=
    runSteps_along (along_and hsteps hbounded) (Identified.new limits frameIdGen) fun _ _ hevent h =>
      h.step hevent.1.1 hevent.1.2 hevent.2
  exact h.preservesIdentity

/-! ## An ACK on the wrong leg -/

/-- An ACK for no frame. -/
def sampleAck (messageId : ℕ) : Frame := ⟨messageId, 0, 1, 0, frameTypeAck, [9], []⟩

/-- The adapters of the two legs. -/
def sampleAdapter (number : ℕ) : TcpFrameAdapter := ⟨number, number, sampleLeg number⟩

/-- A message goes out over the second leg because the first one fails, and its ACK comes back. Then
a message comes in over the second leg and is acknowledged there. -/
def sampleExchange : List Event :=
  sampleFailure ++ [.step 3 (sampleMoment true (some (sampleAck 1))),
    .step 3 (sampleMoment true none), .step 3 (sampleMoment true (some (sampleData 7))),
    .handle [sampleAck 2], .step 5 (sampleMoment true none), .step 5 (sampleMoment true none)]

/-- The message has id 1 on the second leg and so has its ACK. The other message has id 7 there, and
so has its ACK. -/
theorem run_preserves_identity_exchange :
    let s := run .default (fun _ => 0) sampleExchange
    s.written = [⟨sampleAdapter 1, sampleData 1, 1, 0⟩, ⟨sampleAdapter 1, sampleAck 7, 2, 1⟩] ∧
      s.collected = [⟨sampleAdapter 1, sampleAck 1, 1⟩, ⟨sampleAdapter 1, sampleData 7, 2⟩] ∧
      PreservesIdentity s :=
  ⟨by decide +kernel, by decide +kernel, run_preserves_identity _ _ _ (by decide +kernel) (by decide +kernel)⟩

/-- A message comes in over the first leg. `DualStream` has put another stream in the place of that
leg when the write of the ACK fails, so `handleLegFailure` finds nothing to detach, and
`replayRoute` moves the route. -/
def sampleMisplaced : List Event :=
  sampleLegs ++ [.step 1 (sampleMoment true (some (sampleData 7))),
    .leg (sampleLeg 0) (some 2), .handle [sampleAck 1], .step 4 (sampleMoment true none)] ++
    List.replicate 4 (.step 4 (sampleMoment false none)) ++ [.step 4 (sampleMoment true none)]

/-- The ACK of a message that came from the first leg under id 7 is written to the second leg under
id 1, an id that the peer has never used there. -/
theorem ack_on_other_leg :
    let s := run .default (fun _ => 0) sampleMisplaced
    Along stepOutput Pumped (new .default fun _ => 0) sampleMisplaced ∧
      s.collected = [⟨sampleAdapter 0, sampleData 7, 1⟩] ∧
      s.written = [⟨sampleAdapter 1, sampleAck 1, 1, 0⟩] ∧ ¬ PreservesIdentity s := by
  have hcollected : (run .default (fun _ => 0) sampleMisplaced).collected =
      [⟨sampleAdapter 0, sampleData 7, 1⟩] := by decide +kernel
  have hwritten : (run .default (fun _ => 0) sampleMisplaced).written =
      [⟨sampleAdapter 1, sampleAck 1, 1, 0⟩] := by decide +kernel
  refine ⟨by decide +kernel, hcollected, hwritten, fun h => ?_⟩
  have hacks := h.acks
  rw [hcollected, hwritten] at hacks
  obtain ⟨c, hc, -, -, hadapter, -⟩ := hacks _ (mem_singleton_self _) rfl
  rw [mem_singleton.mp hc] at hadapter
  exact absurd hadapter (by decide)

end LegSystem

end NatP2P.Network
