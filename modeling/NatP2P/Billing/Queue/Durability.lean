import NatP2P.Billing.Queue.Open

/-!
# Crash consistency

A queue is opened and then called any number of times. At every point the file replays to the queue
in memory, and when the process dies in the middle of an append, wherever the frame is cut, the file
replays to the queue as it was before the call.
-/

namespace NatP2P.Billing

open List Queue

variable {C : Crypto} {J : EnvelopeJson} {limits : Limits} {queue queue' : Queue} {log : Bytes}

/-! ## Calls -/

/-- The calls that change a queue. -/
inductive Queue.Call where
  | enqueue (voucher : MutualVoucher)
  | enqueueEnvelope (envelope : Envelope)
  | remove (expectedID : Identifier)
  | removeChannelHead (expectedID : Identifier)

/-- One call, with what the disk does for it. -/
def Queue.call (C : Crypto) (J : EnvelopeJson) (append : AppendOutcome) (compaction : WriteOutcome)
    (queue : Queue) : Queue.Call → Except QueueError Unit × Queue
  | .enqueue voucher => queue.enqueueVoucher C J append voucher
  | .enqueueEnvelope envelope => queue.enqueueEnvelope C J append envelope
  | .remove expectedID => queue.remove C append compaction expectedID
  | .removeChannelHead expectedID => queue.removeChannelHead C append compaction expectedID

/-- The position that a call removes. -/
def Queue.callTarget (queue : Queue) : Queue.Call → Option (Fin queue.items.length)
  | .enqueue _ => none
  | .enqueueEnvelope _ => none
  | .remove expectedID => (queue.removeTarget expectedID).toOption
  | .removeChannelHead expectedID => (queue.removeChannelHeadTarget expectedID).toOption

/-- A call is refused, enqueues an admitted entry or removes the head of a channel; which of them
does not depend on the disk. -/
theorem Queue.Inv.call_cases (h : queue.Inv C J log) (hcodec : DecodeInvertsEncode C J)
    (call : Queue.Call) :
    (queue.callTarget call = none ∧ ∃ err, ∀ append compaction,
        queue.call C J append compaction call = (.error err, queue)) ∨
      (queue.callTarget call = none ∧ ∃ item, queue.Admits C J item ∧ ∀ append compaction,
        queue.call C J append compaction call = queue.enqueueWith C item append) ∨
      ∃ index, queue.callTarget call = some index ∧ queue.operationalLocked = .ok () ∧
        IsChannelHead queue.items (queue.items.get index) ∧ ∀ append compaction,
          queue.call C J append compaction call =
            queue.removeIndexLocked C append compaction index := by
  cases call with
  | enqueue voucher =>
    rcases h.enqueue_cases hcodec ⟨voucher, "", "", none⟩ false with
      ⟨err, herr⟩ | ⟨item, -, hadmits, heq⟩
    · exact .inl ⟨rfl, err, fun append _ => herr append⟩
    · exact .inr (.inl ⟨rfl, item, hadmits, fun append _ => heq append⟩)
  | enqueueEnvelope envelope =>
    rcases h.enqueue_cases hcodec envelope true with ⟨err, herr⟩ | ⟨item, -, hadmits, heq⟩
    · exact .inl ⟨rfl, err, fun append _ => herr append⟩
    · exact .inr (.inl ⟨rfl, item, hadmits, fun append _ => heq append⟩)
  | remove expectedID =>
    simp only [call, remove, callTarget]
    cases htarget : queue.removeTarget expectedID with
    | error err => exact .inl ⟨rfl, err, fun _ _ => rfl⟩
    | ok index =>
      obtain ⟨hoperational, -, hhead⟩ := removeTarget_ok htarget
      exact .inr (.inr ⟨index, rfl, hoperational, hhead, fun _ _ => rfl⟩)
  | removeChannelHead expectedID =>
    simp only [call, removeChannelHead, callTarget]
    cases htarget : queue.removeChannelHeadTarget expectedID with
    | error err => exact .inl ⟨rfl, err, fun _ _ => rfl⟩
    | ok index =>
      obtain ⟨hoperational, -, hhead⟩ := removeChannelHeadTarget_ok htarget
      exact .inr (.inr ⟨index, rfl, hoperational, hhead, fun _ _ => rfl⟩)

/-- On a disk that works, a removal that finds its target succeeds. -/
theorem Queue.Inv.remove_done (h : queue.Inv C J log) {expectedID : Identifier}
    {index : Fin queue.items.length} (htarget : queue.removeTarget expectedID = .ok index) :
    ∃ after, queue.call C J .done .done (.remove expectedID) = (.ok (), after) := by
  obtain ⟨-, -, hhead⟩ := removeTarget_ok htarget
  have hcall : queue.call C J .done .done (.remove expectedID) =
      (queue.removed C index).compactAfterRemoval C .done := by
    rw [call, remove, htarget]
    exact removeIndexLocked_eq ..
  cases hcompact : (queue.removed C index).compactAfterRemoval C .done with
  | mk result after =>
    rw [hcall, hcompact]
    rcases (h.removed hhead).compactAfterRemoval_cases hcompact with
      ⟨-, hfailed, -⟩ | ⟨-, rfl, -⟩ | ⟨-, -, -, ⟨rfl, -⟩ | ⟨hunsynced, -⟩⟩
    · cases hfailed
    · exact ⟨after, rfl⟩
    · exact ⟨after, rfl⟩
    · cases hunsynced

/-! ## Successful runs -/

/-- The queue's file is its log, and nothing has gone wrong on disk. -/
def Queue.Sound (C : Crypto) (J : EnvelopeJson) (queue : Queue) : Prop :=
  ∃ log, queue.file = fileDomain ++ log ∧ queue.Inv C J log

/-- `Runs queue queue'`: `queue'` is reached from `queue` by successful calls. -/
inductive Queue.Runs (C : Crypto) (J : EnvelopeJson) (queue : Queue) : Queue → Prop
  | refl : Queue.Runs C J queue queue
  | step {before after : Queue} {call : Queue.Call} (run : Queue.Runs C J queue before)
      (success : before.call C J .done .done call = (.ok (), after)) : Queue.Runs C J queue after

/-! ## Recovery -/

/-- Replay of `file` succeeds with the entries, bytes and hash that the queue has in memory, and
with the first `validBytes` bytes of the file as the valid ones. -/
def Queue.RecoversFrom (C : Crypto) (J : EnvelopeJson) (queue : Queue) (file : Bytes)
    (validBytes : ℕ) : Prop :=
  ∃ st, replayWAL C J queue.limits file = .ok st ∧ queue.Mirrors st ∧ st.validBytes = validBytes

/-- A log followed by a torn frame recovers the queue that the log mirrors. -/
theorem Queue.Inv.recoversFrom (h : queue.Inv C J log) {tail : Bytes}
    (htail : Torn C J queue.limits tail) :
    queue.RecoversFrom C J (fileDomain ++ (log ++ tail)) (fileDomain ++ log).length := by
  obtain ⟨-, ⟨st, hscans, hmirror⟩, -⟩ := h
  refine ⟨st, replayWAL_of_scans hscans htail, hmirror, ?_⟩
  rw [length_append]
  exact validBytes_of_scans hscans .start

theorem Queue.Sound.recoversFrom (h : queue.Sound C J) :
    queue.RecoversFrom C J queue.file queue.file.length := by
  obtain ⟨log, hfile, hinv⟩ := h
  have hrecovers := hinv.recoversFrom torn_nil
  rwa [append_nil, ← hfile] at hrecovers

/-- The bytes that a call appends, the queue it installs with them and the recoveries that go with
every cut of these bytes. -/
structure Queue.Recoverable (C : Crypto) (J : EnvelopeJson) (queue installed : Queue)
    (frame : Bytes) : Prop where
  file : installed.file = queue.file ++ frame
  whole : installed.RecoversFrom C J (queue.file ++ frame) (queue.file ++ frame).length
  cut : ∀ cut < frame.length,
    queue.RecoversFrom C J (queue.file ++ frame.take cut) queue.file.length

/-- A whole frame leaves the queue that is installed with it, and one that is cut short the queue
before the call. -/
theorem Queue.Sound.recoverable (h : queue.Sound C J) {frameType : UInt8} {payload : Bytes}
    {previous : Digest} (hfile' : queue'.file = queue.file ++ frameBytesOf C frameType payload previous)
    (hinv' : ∀ log, queue.Inv C J log →
      queue'.Inv C J (log ++ frameBytesOf C frameType payload previous) ∧
        frameFixedBodySize + payload.length ≤ maximumFrameBody queue.limits) :
    queue.Recoverable C J queue' (frameBytesOf C frameType payload previous) := by
  obtain ⟨log, hfile, hinv⟩ := h
  obtain ⟨hinstalled, hlimit⟩ := hinv' log hinv
  refine ⟨hfile', ?_, fun cut hcut => ?_⟩
  · rw [← hfile']
    exact Queue.Sound.recoversFrom ⟨_, by rw [hfile', hfile, append_assoc], hinstalled⟩
  · rw [length_frameBytesOf] at hcut
    have htorn : Torn C J queue.limits ((frameBytesOf C frameType payload previous).take cut) :=
      fun _ => replayFrame_torn hlimit hcut
    have hrecovers := hinv.recoversFrom htorn
    rwa [← append_assoc, ← hfile] at hrecovers

theorem Queue.Sound.recoverable_enqueued (h : queue.Sound C J) {item : Entry}
    (hadmits : queue.Admits C J item) :
    queue.Recoverable C J { queue.enqueued C item with poisoned := some .disk }
      (queue.enqueueBytes C item) := by
  refine h.recoverable rfl fun log hinv => ⟨(hinv.enqueued hadmits).reflag _ _ _, ?_⟩
  have hbytes := hadmits.bytes_le
  exact hinv.valid.frameBody_le (.inl (by omega)) hadmits.decoded.fits

theorem Queue.Sound.recoverable_removed (h : queue.Sound C J) {index : Fin queue.items.length}
    (hhead : IsChannelHead queue.items (queue.items.get index)) :
    queue.Recoverable C J { queue.removed C index with poisoned := some .disk }
      (queue.removeBytes C index) := by
  refine h.recoverable rfl fun log hinv => ⟨(hinv.removed hhead).reflag _ _ _, ?_⟩
  rw [Bytes32.length_val]
  exact hinv.valid.frameBody_le (.inr le_rfl) (by decide)

/-- A successful call keeps the file equal to the log. Its frame is recoverable, and the queue that
the call leaves has the entries that it installs with the frame. -/
theorem Queue.Sound.call (h : queue.Sound C J) (hcodec : DecodeInvertsEncode C J)
    {call : Queue.Call} (hcall : queue.call C J .done .done call = (.ok (), queue')) :
    queue'.Sound C J ∧ ∃ frame installed, (queue.call C J .unsynced .done call).2 = installed ∧
      queue.Recoverable C J installed frame ∧
      queue'.items.map Entry.rebased = installed.items.map Entry.rebased := by
  obtain ⟨log, hfile, hinv⟩ := id h
  rcases hinv.call_cases hcodec call with
    ⟨-, err, herr⟩ | ⟨-, item, hadmits, heq⟩ | ⟨index, -, -, hhead, heq⟩
  · rw [herr] at hcall
    simp at hcall
  · rw [heq] at hcall
    obtain ⟨-, rfl⟩ := hcall
    rw [heq]
    refine ⟨⟨_, ?_, hinv.enqueued hadmits⟩, _, _, rfl, h.recoverable_enqueued hadmits, rfl⟩
    change queue.file ++ queue.enqueueBytes C item = _
    rw [hfile, append_assoc]
  · rw [heq, removeIndexLocked_eq] at hcall ⊢
    have hremoved := hinv.removed hhead
    have hrecoverable := h.recoverable_removed hhead
    rcases hremoved.compactAfterRemoval_cases hcall with
      ⟨-, -, ⟨err, herr⟩, -⟩ | ⟨-, -, rfl⟩ | ⟨-, -, hcompacted, -⟩
    · simp at herr
    · refine ⟨⟨_, ?_, hremoved⟩, _, _, rfl, hrecoverable, rfl⟩
      change queue.file ++ queue.removeBytes C index = _
      rw [hfile, append_assoc]
    · obtain ⟨log', hfile', hinv', -⟩ := hcompacted.inv
      refine ⟨⟨log', hfile', hinv'⟩, _, _, rfl, hrecoverable, ?_⟩
      rw [hcompacted.items, map_map]
      rfl

theorem Queue.Runs.sound (hcodec : DecodeInvertsEncode C J) (hrun : queue.Runs C J queue')
    (h : queue.Sound C J) : queue'.Sound C J := by
  induction hrun with
  | refl => exact h
  | step _ success ih => exact (ih.call hcodec success).1

/-- **Crash consistency.** A queue is opened and called successfully any number of times. Its file
replays to the queue in memory, up to its last byte. When a further call appends its frame, then for
every cut of the frame the file replays to the queue before the call, with the end of the last whole
frame as the end of the valid bytes; with the whole frame it replays to the queue that the call has
installed, and after the compaction that may follow to the queue that the call leaves, whose entries
are the same. -/
theorem queue_crash_consistent (hcodec : DecodeInvertsEncode C J) {outcome : WriteOutcome}
    {file file' : Option Bytes} {opened : Queue}
    (hopen : Queue.openFile C J limits outcome file = (.ok opened, file'))
    (hrun : opened.Runs C J queue) :
    queue.RecoversFrom C J queue.file queue.file.length ∧
      ∀ call queue', queue.call C J .done .done call = (.ok (), queue') →
        queue'.RecoversFrom C J queue'.file queue'.file.length ∧
        ∃ frame installed, (queue.call C J .unsynced .done call).2 = installed ∧
          queue.Recoverable C J installed frame ∧
          queue'.items.map Entry.rebased = installed.items.map Entry.rebased := by
  obtain ⟨-, -, -, -, hopened, -⟩ := openFile_ok hopen
  have hsound : queue.Sound C J := hrun.sound hcodec hopened
  refine ⟨hsound.recoversFrom, fun call queue' hcall => ?_⟩
  obtain ⟨hafter, hrecoverable⟩ := hsound.call hcodec hcall
  exact ⟨hafter.recoversFrom, hrecoverable⟩

/-! ## A run -/

/-- A first voucher for a thousand bytes. -/
def sampleVoucher : MutualVoucher where
  body :=
    { version := 1
      sessionID := Bytes32.copy [1]
      payerNatID := Bytes32.copy [2]
      payeeRelayID := Bytes32.copy [3]
      direction := directionPayerOutbound
      sequence := 1
      previousMutualVoucherID := Bytes32.zero
      cumulativeUniqueBytes := 1000
      lastRecordID := Bytes32.copy [4]
      lastRecordSequence := 1
      recordSetDigest := Bytes32.copy [5]
      policyDigest := Bytes32.copy [6]
      authorizedThroughBytes := maxBillableBytes }
  payerSignature := [0x30, 6, 2, 1, 1, 2, 1, 1]
  relaySignature := [0x30, 6, 2, 1, 1, 2, 1, 1]

/-- The JSON text of the voucher's disk record. -/
def sampleText : Bytes := utf8
  ("\x7b\"canonical_voucher\":\"Qk5GUy9NVVRVQUwtVk9VQ0hFUi1XSVJFL1YxQk5GUy9VU0FHRS1WT1VDSEVSLUJP" ++
   "RFkvVjEAAQEAAAAAAAAAAAAAAAAAAAAAAAAAAAAAAAAAAAAAAAAAAgAAAAAAAAAAAAAAAAAAAAAAAAAAAAAAAAAAAAAA" ++
   "AAADAAAAAAAAAAAAAAAAAAAAAAAAAAAAAAAAAAAAAAAAAAEAAAAAAAAAAQAAAAAAAAAAAAAAAAAAAAAAAAAAAAAAAAAA" ++
   "AAAAAAAAAAAAAAAAA+gEAAAAAAAAAAAAAAAAAAAAAAAAAAAAAAAAAAAAAAAAAAAAAAAAAAABBQAAAAAAAAAAAAAAAAAA" ++
   "AAAAAAAAAAAAAAAAAAAAAAAGAAAAAAAAAAAAAAAAAAAAAAAAAAAAAAAAAAAAAAAAAH//////////AAgwBgIBAQIBAQAI" ++
   "MAYCAQECAQE=\"\x7d")

/-- The voucher's disk record as `encodeEnvelope` builds it. -/
def sampleDisk : DiskEnvelope where
  canonicalVoucher := mutualEncodingDomain ++ sampleVoucher.body.encode ++
    lengthPrefixedSignature sampleVoucher.payerSignature ++
    lengthPrefixedSignature sampleVoucher.relaySignature
  payerPublicKey := ""
  payerBillingPublicKey := ""
  payerCert := none

def sampleJson : EnvelopeJson := .ofTable [(sampleDisk, sampleText)]

theorem sampleJson_inverts : DecodeInvertsEncode .sample sampleJson := by
  have htext : sampleText ≠ [] := by decide +kernel
  exact decodeInvertsEncode_of_roundTrips (roundTrips_ofTable (by simp) (by simpa using htext))

def sampleLimits : Limits := ⟨2, 4096, 0, 0⟩

/-- An empty queue, ready for the voucher. -/
structure Queue.Ready (queue : Queue) (log : Bytes) : Prop where
  inv : queue.Inv .sample sampleJson log
  file : queue.file = fileDomain ++ log
  limits : queue.limits = sampleLimits
  items : queue.items = []

/-- The voucher's entry with the frame of an enqueue. -/
def sampleEntry : Entry where
  envelope := ⟨sampleVoucher, "", "", none⟩
  id := sampleVoucher.digest .sample
  encoded := envelopeDomain ++ sampleText
  frameBytes := frameOverhead + (envelopeDomain ++ sampleText).length

theorem length_sampleText : (envelopeDomain ++ sampleText).length = 503 := by decide +kernel

theorem frameBytes_sampleEntry : sampleEntry.frameBytes = 572 := by
  rw [sampleEntry, length_sampleText]
  rfl

theorem encodeEnvelope_sampleVoucher :
    encodeEnvelope .sample sampleJson ⟨sampleVoucher, "", "", none⟩ false =
      .ok (envelopeDomain ++ sampleText, ⟨sampleVoucher, "", "", none⟩) := by
  decide +kernel

theorem id_sampleVoucher : sampleVoucher.id .sample = .ok (sampleVoucher.digest .sample) := by
  decide +kernel

theorem Queue.Ready.enqueue (h : queue.Ready log) (hclosed : queue.closed = false)
    (hclean : queue.poisoned = none) :
    queue.Admits .sample sampleJson sampleEntry ∧
      ∀ compaction, queue.call .sample sampleJson .done compaction (.enqueue sampleVoucher) =
        (.ok (), queue.enqueued .sample sampleEntry) := by
  have hbytes : queue.bytes = 0 := by
    rw [h.inv.counted.bytes, h.items]
    rfl
  have husage : queue.usage sampleVoucher.body.payerNatID = ⟨0, 0⟩ := by
    rw [h.inv.indexed.usage_eq, h.items]
    rfl
  have hfresh : sampleVoucher.digest .sample ∉ queue.liveIDs := by
    rw [h.inv.indexed.liveIDs, h.items]
    simp
  have hmax : queue.maxItemsPerPayer = 2 ∧ queue.maxBytesPerPayer = 4096 := by
    unfold Queue.maxItemsPerPayer Queue.maxBytesPerPayer
    rw [h.limits]
    decide
  have hlimits : queue.limits.maxItems.toNat = 2 ∧ queue.limits.maxBytes.toNat = 4096 := by
    rw [h.limits]
    decide
  have hframe : queue.enqueueFrame .sample sampleJson ⟨sampleVoucher, "", "", none⟩ false =
      .ok (sampleEntry, queue.enqueueBytes .sample sampleEntry,
        frameDigest .sample frameEnqueue queue.lastHash (envelopeDomain ++ sampleText)) := by
    unfold Queue.enqueueFrame
    simp only [bind_ok_iff, exists_unit_iff, mapError_ok_iff, check_ok_iff, pure_ok_iff,
      Prod.exists, encodeFrame_ok_iff]
    refine ⟨_, _, encodeEnvelope_sampleVoucher, _, id_sampleVoucher,
      Queue.operationalLocked_ok_iff.mpr ⟨hclosed, hclean⟩, hfresh, ?_, ?_, ?_, _, _,
      ⟨?_, rfl, rfl⟩, ?_⟩
    · rw [h.items, hlimits.1]
      decide
    · rw [hbytes, hlimits.2, length_sampleText]
      decide
    · rw [husage, hmax.1, hmax.2, length_sampleText]
      decide
    · rw [length_sampleText]
      decide
    · rw [length_frameBytesOf]
      rfl
  obtain ⟨-, hadmits, -⟩ := h.inv.enqueueFrame_ok sampleJson_inverts hframe
  refine ⟨hadmits, fun compaction => ?_⟩
  simp only [Queue.call, Queue.enqueueVoucher, Queue.enqueue, hframe, appendFrame, ↓reduceIte]
  rfl

theorem Queue.Ready.removeTarget (h : queue.Ready log) (hclosed : queue.closed = false)
    (hclean : queue.poisoned = none) :
    (queue.enqueued .sample sampleEntry).items = [sampleEntry] ∧
      ∃ index, (queue.enqueued .sample sampleEntry).removeTarget (sampleVoucher.digest .sample) =
        .ok index := by
  have hitems : (queue.enqueued .sample sampleEntry).items = [sampleEntry] := by
    change queue.items ++ [sampleEntry] = _
    rw [h.items, nil_append]
  have hoperational : (queue.enqueued .sample sampleEntry).operationalLocked = .ok () :=
    Queue.operationalLocked_ok_iff.mpr ⟨hclosed, hclean⟩
  generalize queue.enqueued .sample sampleEntry = one at *
  have hpos : 0 < one.items.length := by
    rw [hitems]
    decide
  have hget : one.items.get ⟨0, hpos⟩ = sampleEntry := by simp [hitems]
  refine ⟨hitems, ⟨0, hpos⟩, ?_⟩
  unfold Queue.removeTarget
  simp only [bind_ok_iff, exists_unit_iff]
  refine ⟨hoperational, ?_⟩
  rw [dif_pos hpos]
  simp only [check_bind_ok_iff, pure_ok_iff, hget]
  exact ⟨by simp [sampleEntry], trivial⟩

/-- A new queue, and the same queue once the voucher is enqueued. -/
def sampleQueue : Queue := { Queue.blank sampleLimits fileDomain with logBytes := fileDomain.length }

def sampleQueueOne : Queue :=
  (sampleQueue.call .sample sampleJson .done .done (.enqueue sampleVoucher)).2

theorem validateLimits_sampleLimits : validateLimits sampleLimits = .ok 16794280 := by
  decide +kernel

theorem openFile_sampleQueue : Queue.openFile .sample sampleJson sampleLimits .done none =
    (.ok sampleQueue, some fileDomain) := by
  rfl

theorem Queue.ready_sampleQueue : sampleQueue.Ready [] := by
  obtain ⟨-, -, -, -, ⟨log, hlog, hinv⟩, -⟩ := openFile_ok openFile_sampleQueue
  obtain rfl : log = [] := append_cancel_left (hlog.symm.trans (append_nil _).symm)
  exact ⟨hinv, hlog, rfl, rfl⟩

/-- The queue with one voucher recovers, also when its removal is cut short. -/
theorem queue_crash_consistent_sample :
    sampleQueueOne.items.map Entry.id = [sampleVoucher.digest .sample] ∧
      sampleQueueOne.RecoversFrom .sample sampleJson sampleQueueOne.file
        sampleQueueOne.file.length ∧
      ∃ frame installed, sampleQueueOne.Recoverable .sample sampleJson installed frame := by
  obtain ⟨hadmits, hcall⟩ := ready_sampleQueue.enqueue rfl rfl
  obtain ⟨hitems, index, htarget⟩ := ready_sampleQueue.removeTarget rfl rfl
  have hone : sampleQueueOne = sampleQueue.enqueued .sample sampleEntry := by
    rw [sampleQueueOne, hcall]
  rw [← hone] at hitems
  have hrun : sampleQueue.Runs .sample sampleJson sampleQueueOne := .step .refl (hone ▸ hcall .done)
  obtain ⟨hrecovers, hnext⟩ := queue_crash_consistent sampleJson_inverts openFile_sampleQueue hrun
  have hinv := ready_sampleQueue.inv.enqueued hadmits
  obtain ⟨after, hremove⟩ := hinv.remove_done htarget
  rw [← hone] at hremove
  obtain ⟨-, frame, installed, -, hrecoverable, -⟩ := hnext _ _ hremove
  refine ⟨?_, hrecovers, frame, installed, hrecoverable⟩
  rw [hitems]
  rfl

end NatP2P.Billing
