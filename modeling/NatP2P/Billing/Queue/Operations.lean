import NatP2P.Billing.Queue.Invariant

/-!
# What the queue's operations do

One lemma for each operation lists everything it can do, for every outcome on disk: refuse and leave
the queue alone, install its frame, or leave a torn frame behind and poison the queue.
-/

namespace NatP2P.Billing

open List Queue

variable {C : Crypto} {J : EnvelopeJson} {limits : Limits} {queue queue' : Queue}
  {st : ReplayState} {log : Bytes}

/-! ## Files -/

/-- A tail at which replay stops, whatever came before. -/
def Torn (C : Crypto) (J : EnvelopeJson) (limits : Limits) (tail : Bytes) : Prop :=
  ∀ st, replayFrame C J limits st tail = .ok none

theorem torn_nil : Torn C J limits [] := by
  intro st
  rw [replayFrame, if_pos (by decide)]

/-- Replay of whole frames and a torn tail ends behind the last whole frame. -/
theorem replayWAL_of_scans (h : Scans (replayFrame C J limits) ReplayState.start log st)
    {tail : Bytes} (htail : Torn C J limits tail) :
    replayWAL C J limits (fileDomain ++ (log ++ tail)) = .ok st := by
  unfold replayWAL
  simp only [check_bind_ok_iff, take_left, drop_left]
  refine ⟨by simp, scan_of_scans h (htail st) ?_⟩
  simp only [length_append]
  omega

/-- A file that replay accepts is a domain, whole frames and a tail at which replay stops. -/
theorem scans_of_replayWAL {encoded : Bytes} (h : replayWAL C J limits encoded = .ok st) :
    ∃ log tail, encoded = fileDomain ++ (log ++ tail) ∧
      Scans (replayFrame C J limits) ReplayState.start log st ∧
      st.validBytes = (fileDomain ++ log).length := by
  unfold replayWAL at h
  simp only [check_bind_ok_iff, ne_eq, Decidable.not_not] at h
  obtain ⟨hdomain, hscan⟩ := h
  obtain ⟨log, tail, hrest, hscans, -⟩ := scans_of_scan consumes_replayFrame hscan
    (by rw [length_drop]; omega)
  refine ⟨log, tail, ?_, hscans, ?_⟩
  · rw [← hrest]
    conv_lhs => rw [← take_append_drop fileDomain.length encoded, hdomain]
  · rw [length_append]
    exact validBytes_of_scans hscans .start

/-- What is left of a frame by a torn append stops the replay. -/
theorem torn_dropLast_take {frameType : UInt8} {payload : Bytes} {previous : Digest}
    (hlimit : frameFixedBodySize + payload.length ≤ maximumFrameBody limits) (written : ℕ) :
    Torn C J limits ((frameBytesOf C frameType payload previous).dropLast.take written) := by
  intro st
  have hlength := @length_frameBytesOf C frameType payload previous
  rw [dropLast_eq_take, take_take]
  refine replayFrame_torn hlimit ?_
  rw [hlength, frameOverhead_eq]
  omega

/-! ## Operations on an open queue -/

theorem Queue.operationalLocked_ok_iff :
    queue.operationalLocked = .ok () ↔ queue.closed = false ∧ queue.poisoned = none := by
  unfold operationalLocked
  cases queue.poisoned <;> simp

/-- The frame `enqueue` appends for an entry. -/
def Queue.enqueueBytes (C : Crypto) (queue : Queue) (item : Entry) : Bytes :=
  frameBytesOf C frameEnqueue item.encoded queue.lastHash

/-- The queue in memory once the enqueue frame of `item` is installed. -/
def Queue.enqueued (C : Crypto) (queue : Queue) (item : Entry) : Queue :=
  { queue.installEnqueued item (frameDigest C frameEnqueue queue.lastHash item.encoded) with
    file := queue.file ++ queue.enqueueBytes C item }

/-- What `enqueue` does with an entry that passed its checks. -/
def Queue.enqueueWith (C : Crypto) (queue : Queue) (item : Entry) :
    AppendOutcome → Except QueueError Unit × Queue
  | .done => (.ok (), queue.enqueued C item)
  | .unsynced =>
    (.error (.persistEnqueue .disk), { queue.enqueued C item with poisoned := some .disk })
  | .torn written =>
    (.error (.persistEnqueue .disk), { queue with
      file := queue.file ++ (queue.enqueueBytes C item).dropLast.take written
      poisoned := some .disk })

/-- `enqueue` refuses an envelope whatever the disk does, or admits its entry whatever the disk
does. -/
theorem Queue.Inv.enqueue_cases (h : queue.Inv C J log) (hcodec : DecodeInvertsEncode C J)
    (envelope : Envelope) (required : Bool) :
    (∃ err, ∀ outcome, queue.enqueue C J outcome envelope required = (.error err, queue)) ∨
      ∃ item, item.envelope = envelope ∧ queue.Admits C J item ∧
        ∀ outcome, queue.enqueue C J outcome envelope required =
          queue.enqueueWith C item outcome := by
  unfold enqueue
  cases hframe : queue.enqueueFrame C J envelope required with
  | error err => exact .inl ⟨err, fun _ => rfl⟩
  | ok found =>
    obtain ⟨item, frame, frameHash⟩ := found
    obtain ⟨henvelope, hadmits, rfl, rfl⟩ := h.enqueueFrame_ok hcodec hframe
    refine .inr ⟨item, henvelope, hadmits, fun outcome => ?_⟩
    cases outcome <;> rfl

theorem Queue.Inv.enqueued (h : queue.Inv C J log) {item : Entry}
    (hadmits : queue.Admits C J item) :
    (queue.enqueued C item).Inv C J (log ++ queue.enqueueBytes C item) := by
  exact (h.installEnqueued hadmits).reflag _ _ _

/-- The frame `removeIndexLocked` appends. -/
def Queue.removeBytes (C : Crypto) (queue : Queue) (index : Fin queue.items.length) : Bytes :=
  frameBytesOf C frameRemove (queue.items.get index).id.val queue.lastHash

/-- The queue in memory once the remove frame is installed. -/
def Queue.removed (C : Crypto) (queue : Queue) (index : Fin queue.items.length) : Queue :=
  { queue.installRemoved index (queue.removeBytes C index).length
      (frameDigest C frameRemove queue.lastHash (queue.items.get index).id.val) with
    file := queue.file ++ queue.removeBytes C index }

theorem Queue.Inv.removed (h : queue.Inv C J log) {index : Fin queue.items.length}
    (hhead : IsChannelHead queue.items (queue.items.get index)) :
    (queue.removed C index).Inv C J (log ++ queue.removeBytes C index) := by
  exact (h.installRemoved hhead).reflag _ _ _

/-- Everything the end of a removal can do. -/
theorem Queue.Inv.compactAfterRemoval_cases (h : queue.Inv C J log) {compaction : WriteOutcome}
    {result : Except QueueError Unit}
    (heq : queue.compactAfterRemoval C compaction = (result, queue')) :
    (queue.compactionDue ∧ compaction = .failed ∧ (∃ err, result = .error err) ∧
        queue' = { queue with poisoned := some .disk }) ∨
      (¬ queue.compactionDue ∧ result = .ok () ∧ queue' = queue) ∨
      (queue.compactionDue ∧ compaction ≠ .failed ∧ queue.Compacted C J queue' ∧
        (result = .ok () ∧ compaction = .done ∧ queue'.poisoned = queue.poisoned ∨
          compaction = .unsynced ∧ (∃ err, result = .error err) ∧
            queue'.poisoned = some .disk)) := by
  unfold compactAfterRemoval maybeCompactLocked at heq
  by_cases hdue : queue.compactionDue
  · rw [if_pos hdue] at heq
    cases hcompact : queue.compactLocked C compaction with
    | mk err compacted =>
      rw [hcompact] at heq
      rcases h.compactLocked compaction hcompact with
        ⟨rfl, rfl, rfl⟩ | ⟨rfl, rfl, hdone⟩ | ⟨rfl, rfl, hpoisoned, hdone⟩
      · left
        simp only [Prod.mk.injEq] at heq
        exact ⟨hdue, rfl, ⟨_, heq.1.symm⟩, heq.2.symm⟩
      · right; right
        obtain ⟨rfl, rfl⟩ := heq
        obtain ⟨log', hfile, hinv', hlength⟩ := hdone.inv
        exact ⟨hdue, by simp, ⟨hdone.limits, hdone.closed, hdone.items, hdone.garbageBytes, log',
          hfile, hinv'.reflag _ _ _, hlength⟩, .inr ⟨rfl, ⟨_, rfl⟩, rfl⟩⟩
      · right; right
        obtain ⟨rfl, rfl⟩ := heq
        exact ⟨hdue, by simp, hdone, .inl ⟨rfl, rfl, hpoisoned⟩⟩
  · right; left
    rw [if_neg hdue] at heq
    simp only [Prod.mk.injEq] at heq
    exact ⟨hdue, heq.1.symm, heq.2.symm⟩

/-- What `removeIndexLocked` does up to the compaction. -/
theorem Queue.removeIndexLocked_eq (append : AppendOutcome) (compaction : WriteOutcome)
    (index : Fin queue.items.length) :
    queue.removeIndexLocked C append compaction index = match append with
      | .done => (queue.removed C index).compactAfterRemoval C compaction
      | .unsynced =>
        (.error (.persistRemoval .disk), { queue.removed C index with poisoned := some .disk })
      | .torn written => (.error (.persistRemoval .disk), { queue with
          file := queue.file ++ (queue.removeBytes C index).dropLast.take written
          poisoned := some .disk }) := by
  have hframe : encodeFrame C frameRemove (queue.items.get index).id.val queue.lastHash =
      .ok (queue.removeBytes C index,
        frameDigest C frameRemove queue.lastHash (queue.items.get index).id.val) :=
    encodeFrame_ok_iff.mpr ⟨by rw [Bytes32.length_val]; decide, rfl, rfl⟩
  unfold removeIndexLocked
  rw [hframe]
  cases append with
  | torn written => simp only [appendFrame, Bool.false_eq_true, ↓reduceIte]
  | unsynced | done => simp only [appendFrame, ↓reduceIte, removed]

end NatP2P.Billing
