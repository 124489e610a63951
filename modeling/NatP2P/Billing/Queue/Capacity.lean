import NatP2P.Billing.Queue.Durability

/-!
# Reopening what was written

A host holds the queue's file. Processes on it open the queue, call it, close it and die at any
moment, and the disk fails as it likes. In every state that a host can reach, the counters of an
open queue are exact. The file stays within the size that `readFile` accepts as long as at most
three due compactions in a row were skipped: each removal that skips one leaves its dead frames
behind, and nothing but the next compaction takes them away.
-/

namespace NatP2P.Billing

open List Option Queue

variable {C : Crypto} {J : EnvelopeJson} {limits : Limits} {queue queue' : Queue}
  {log tail encoded : Bytes} {item : Entry} {garbage skipped : ℕ} {index : Fin queue.items.length}
  {st st' : ReplayState} {previous lastHash : Digest} {frameSizes : List ℕ} {items : List Entry}
  {result : Except QueueError Queue} {outcome : WriteOutcome}

/-! ## Hosts -/

/-- How many due compactions in a row are skipped after a call, given how many were before it. A
removal skips the compaction when its append is not synced, or when the rewrite fails. -/
def Queue.skippedAfter (C : Crypto) (queue : Queue) (append : AppendOutcome)
    (compaction : WriteOutcome) (call : Queue.Call) (skipped : ℕ) : ℕ :=
  match queue.callTarget call with
  | none => skipped
  | some index =>
    if (queue.removed C index).compactionDue then
      match append, compaction with
      | .torn _, _ => skipped
      | .unsynced, _ => skipped + 1
      | .done, .failed => skipped + 1
      | .done, _ => 0
    else skipped

/-- The file on disk and the queue of the process that has it open; `skipped` counts the due
compactions that were skipped since the last one that was made. -/
structure Host where
  file : Option Bytes
  queue : Option Queue
  skipped : ℕ

/-- What happens on a host. -/
inductive Host.Event where
  | start (outcome : WriteOutcome)
  | call (append : AppendOutcome) (compaction : WriteOutcome) (call : Queue.Call)
  | close
  | crash

/-- A host before its first process. -/
def Host.initial (file : Option Bytes) : Host := ⟨file, none, 0⟩

def Host.step (C : Crypto) (J : EnvelopeJson) (limits : Limits) (host : Host) : Host.Event → Host
  | .start outcome =>
    match host.queue with
    | some _ => host
    | none =>
      let (result, file) := Queue.openFile C J limits outcome host.file
      { host with file := file, queue := result.toOption }
  | .call append compaction call =>
    match host.queue with
    | none => host
    | some queue =>
      let (_, queue') := queue.call C J append compaction call
      { file := some queue'.file
        queue := some queue'
        skipped := queue.skippedAfter C append compaction call host.skipped }
  | .close => { host with queue := host.queue.map Queue.close }
  | .crash => { host with queue := none }

def Host.run (C : Crypto) (J : EnvelopeJson) (limits : Limits) (host : Host)
    (events : List Host.Event) : Host :=
  events.foldl (Host.step C J limits) host

/-! ## A queue and its file -/

/-- The queue's file is its log and possibly a torn frame, and `garbage` bytes of the log belong to
dead frames. -/
def Queue.OnDisk (C : Crypto) (J : EnvelopeJson) (queue : Queue) (garbage : ℕ) : Prop :=
  ∃ log tail, queue.file = fileDomain ++ (log ++ tail) ∧ queue.Inv C J log ∧
    Torn C J queue.limits tail ∧ (queue.poisoned = none → tail = []) ∧
    log.length = (queue.items.map Entry.frameBytes).sum + garbage ∧
    fileDomain.length + (queue.items.map Entry.frameBytes).sum + tail.length ≤
      queue.limits.liveMaximum + 101

theorem length_removeBytes (index : Fin queue.items.length) :
    (queue.removeBytes C index).length = 101 := by
  rw [removeBytes, length_frameBytesOf, Bytes32.length_val]
  rfl

theorem Queue.Admits.length_enqueueBytes (h : queue.Admits C J item) :
    (queue.enqueueBytes C item).length = item.frameBytes := by
  rw [enqueueBytes, length_frameBytesOf, h.decoded.frameBytes]

theorem Queue.Inv.live_le (h : queue.Inv C J log) :
    fileDomain.length + (queue.items.map Entry.frameBytes).sum ≤ queue.limits.liveMaximum := by
  have hcounted := h.counted
  have hframes : queue.items.map Entry.frameBytes =
      queue.items.map fun item => frameOverhead + item.encoded.length :=
    map_congr_left fun item hmem => (hcounted.decoded item hmem).frameBytes
  rw [hframes]
  exact sum_frameBytes_le hcounted.length_le (hcounted.bytes ▸ hcounted.bytes_le)

/-- A queue without a torn frame behind its log. -/
theorem Queue.Inv.onDisk (h : queue.Inv C J log) (hfile : queue.file = fileDomain ++ log)
    (hgarbage : log.length = (queue.items.map Entry.frameBytes).sum + garbage) :
    queue.OnDisk C J garbage := by
  have hlive := h.live_le
  refine ⟨log, [], by rw [append_nil, hfile], h, torn_nil, fun _ => rfl, hgarbage, ?_⟩
  rw [length_nil]
  omega

section

variable (h : queue.OnDisk C J garbage)
include h

/-- Below the size of a word, the queue's counters are exact. -/
theorem Queue.OnDisk.exact (hword : queue.limits.liveMaximum + garbage < 2 ^ 64) :
    queue.garbageBytes = garbage ∧
      queue.logBytes = fileDomain.length + (queue.items.map Entry.frameBytes).sum + garbage := by
  obtain ⟨log, tail, -, hinv, -, -, hgarbage, -⟩ := h
  have hlive := hinv.live_le
  have hcounted := hinv.counted
  rw [hcounted.garbageBytes, hcounted.logBytes]
  omega

theorem Queue.OnDisk.limits_valid : queue.limits.Valid := by
  obtain ⟨_, _, -, hinv, -⟩ := h
  exact hinv.valid

theorem Queue.OnDisk.close : queue.close.OnDisk C J garbage := by
  obtain ⟨log, tail, hfile, hinv, htail, hclean, hgarbage, hroom⟩ := h
  exact ⟨log, tail, hfile, hinv.close, htail, hclean, hgarbage, hroom⟩

theorem Queue.OnDisk.poison (cause : QueueError) :
    ({ queue with poisoned := some cause } : Queue).OnDisk C J garbage := by
  obtain ⟨log, tail, hfile, hinv, htail, -, hgarbage, hroom⟩ := h
  exact ⟨log, tail, hfile, hinv.reflag _ _ _, htail, by simp, hgarbage, hroom⟩

theorem Queue.OnDisk.torn (hclean : queue.poisoned = none) (htail : Torn C J queue.limits tail)
    (hroom : fileDomain.length + (queue.items.map Entry.frameBytes).sum + tail.length ≤
      queue.limits.liveMaximum + 101) (cause : QueueError) :
    ({ queue with file := queue.file ++ tail, poisoned := some cause } : Queue).OnDisk C J
      garbage := by
  obtain ⟨log, old, hfile, hinv, -, hnil, hgarbage, -⟩ := h
  obtain rfl := hnil hclean
  refine ⟨log, tail, ?_, hinv.reflag _ _ _, htail, by simp, hgarbage, hroom⟩
  rw [hfile, append_nil, append_assoc]

end

/-! ## What a call does to the garbage -/

/-- What a call can do to the garbage of the log and to the count of skipped compactions: nothing, a
compaction, or a removal whose dead frames stay in the log, with or without a compaction being
due. -/
inductive Queue.Effect (queue queue' : Queue) (garbage skipped : ℕ) : ℕ → ℕ → Prop
  | kept (clean : queue'.poisoned = queue.poisoned ∨ queue.poisoned = none) :
      Queue.Effect queue queue' garbage skipped garbage skipped
  | compacted : Queue.Effect queue queue' garbage skipped 0 0
  | removed {frameBytes : ℕ} (clean : queue.poisoned = none)
      (frameBytes_le : frameBytes ≤ queue.limits.liveMaximum)
      (notDue : queue'.compactionDue = false) :
      Queue.Effect queue queue' garbage skipped (garbage + (frameBytes + 101)) skipped
  | skipped {frameBytes : ℕ} (clean : queue.poisoned = none)
      (frameBytes_le : frameBytes ≤ queue.limits.liveMaximum)
      (poisoned : queue'.poisoned ≠ none) :
      Queue.Effect queue queue' garbage skipped (garbage + (frameBytes + 101)) (skipped + 1)

/-- An installed enqueue leaves the garbage as it is. -/
theorem Queue.OnDisk.enqueued (h : queue.OnDisk C J garbage)
    (hadmits : queue.Admits C J item) : (queue.enqueued C item).OnDisk C J garbage := by
  obtain ⟨log, tail, hfile, hinv, -, hclean, hgarbage, -⟩ := h
  obtain rfl := hclean (operationalLocked_ok_iff.mp hadmits.operational).2
  refine (hinv.enqueued hadmits).onDisk ?_ ?_
  · change queue.file ++ queue.enqueueBytes C item = _
    rw [hfile, append_nil, append_assoc]
  · change _ = ((queue.items ++ [item]).map Entry.frameBytes).sum + garbage
    rw [length_append, hadmits.length_enqueueBytes, map_append, sum_append]
    simp only [map_cons, map_nil, sum_cons, sum_nil]
    omega

/-- An installed removal makes garbage of the entry's frame and of its own. -/
theorem Queue.OnDisk.removed (h : queue.OnDisk C J garbage)
    (hoperational : queue.operationalLocked = .ok ())
    (hhead : IsChannelHead queue.items (queue.items.get index)) :
    (queue.removed C index).OnDisk C J
      (garbage + ((queue.items.get index).frameBytes + 101)) := by
  obtain ⟨log, tail, hfile, hinv, -, hclean, hgarbage, -⟩ := h
  obtain rfl := hclean (operationalLocked_ok_iff.mp hoperational).2
  refine (hinv.removed hhead).onDisk ?_ ?_
  · change queue.file ++ queue.removeBytes C index = _
    rw [hfile, append_nil, append_assoc]
  · change _ = ((queue.items.eraseIdx index).map Entry.frameBytes).sum + _
    have hnodup := hinv.counted.nodup
    have hget : queue.items[(index : ℕ)]? = some (queue.items.get index) :=
      getElem?_eq_getElem index.isLt
    have hsum := sum_map_eq_add_without hnodup (get_mem queue.items index) Entry.frameBytes
    rw [length_append, length_removeBytes, eraseIdx_eq_without hnodup hget]
    omega

theorem Queue.Inv.frameBytes_le (h : queue.Inv C J log) (index : Fin queue.items.length) :
    (queue.items.get index).frameBytes ≤ queue.limits.liveMaximum := by
  have hlive := h.live_le
  have hmem : (queue.items.get index).frameBytes ≤ (queue.items.map Entry.frameBytes).sum :=
    le_sum_of_mem (mem_map.mpr ⟨_, get_mem queue.items index, rfl⟩)
  omega

/-- A torn append of an admitted entry or of a removal fits behind the log. -/
theorem Queue.Inv.torn_room (h : queue.Inv C J log) {frame : Bytes}
    (hframe : frame.length ≤ 101 ∨ ∃ item, queue.Admits C J item ∧ frame = queue.enqueueBytes C item)
    (written : ℕ) :
    fileDomain.length + (queue.items.map Entry.frameBytes).sum +
      (frame.dropLast.take written).length ≤ queue.limits.liveMaximum + 101 := by
  have hlive := h.live_le
  have hcut : (frame.dropLast.take written).length ≤ frame.length := by
    rw [length_take, length_dropLast]
    omega
  rcases hframe with hshort | ⟨item, hadmits, rfl⟩
  · omega
  · -- with the entry installed, its whole frame would be live
    have hinstalled := (h.enqueued hadmits).live_le
    change _ + ((queue.items ++ [item]).map Entry.frameBytes).sum ≤ queue.limits.liveMaximum
      at hinstalled
    have hlength := hadmits.length_enqueueBytes
    rw [map_append, sum_append] at hinstalled
    simp only [map_cons, map_nil, sum_cons, sum_nil] at hinstalled
    omega

theorem Queue.OnDisk.enqueueWith (h : queue.OnDisk C J garbage)
    (hadmits : queue.Admits C J item) (append : AppendOutcome) :
    (queue.enqueueWith C item append).2.OnDisk C J garbage ∧
      (queue.enqueueWith C item append).2.limits = queue.limits := by
  obtain ⟨-, hclean⟩ := operationalLocked_ok_iff.mp hadmits.operational
  cases append with
  | done => exact ⟨h.enqueued hadmits, rfl⟩
  | unsynced => exact ⟨(h.enqueued hadmits).poison _, rfl⟩
  | torn written =>
    obtain ⟨log, _, -, hinv, -⟩ := id h
    have hbytes := hadmits.bytes_le
    have hlimit : frameFixedBodySize + item.encoded.length ≤ maximumFrameBody queue.limits :=
      hinv.valid.frameBody_le (.inl (by omega)) hadmits.decoded.fits
    exact ⟨h.torn hclean (torn_dropLast_take hlimit written)
      (hinv.torn_room (.inr ⟨item, hadmits, rfl⟩) written) _, rfl⟩

theorem Queue.compactionDue_poison (queue : Queue) (poisoned : Option QueueError) :
    ({ queue with poisoned := poisoned } : Queue).compactionDue = queue.compactionDue := rfl

theorem Queue.OnDisk.removeIndexLocked (h : queue.OnDisk C J garbage)
    (hoperational : queue.operationalLocked = .ok ())
    (hhead : IsChannelHead queue.items (queue.items.get index)) (append : AppendOutcome)
    (compaction : WriteOutcome) {call : Queue.Call} (htarget : queue.callTarget call = some index)
    (skipped : ℕ) {result : Except QueueError Unit}
    (heq : queue.removeIndexLocked C append compaction index = (result, queue')) :
    queue'.limits = queue.limits ∧ ∃ garbage', queue'.OnDisk C J garbage' ∧
      queue.Effect queue' garbage skipped garbage'
        (queue.skippedAfter C append compaction call skipped) := by
  obtain ⟨-, hclean⟩ := operationalLocked_ok_iff.mp hoperational
  obtain ⟨log, _, -, hinv, -⟩ := id h
  have hframe := hinv.frameBytes_le index
  have hremoved := h.removed hoperational hhead
  rw [removeIndexLocked_eq] at heq
  unfold skippedAfter
  rw [htarget]
  cases append with
  | torn written =>
    obtain ⟨-, rfl⟩ := heq
    have hlimit : frameFixedBodySize + (queue.items.get index).id.val.length ≤
        maximumFrameBody queue.limits := by
      rw [Bytes32.length_val]
      exact hinv.valid.frameBody_le (.inr le_rfl) (by decide)
    -- the torn frame stays behind the log until the next open
    have hroom := hinv.torn_room (.inl (length_removeBytes (C := C) index).le) written
    refine ⟨rfl, garbage, h.torn hclean (torn_dropLast_take hlimit written) hroom _, ?_⟩
    simp only [ite_self]
    exact .kept (.inr hclean)
  | unsynced =>
    obtain ⟨-, rfl⟩ := heq
    refine ⟨rfl, _, hremoved.poison _, ?_⟩
    dsimp only
    split_ifs with hdue
    · exact .skipped hclean hframe (by simp)
    · refine .removed hclean hframe ?_
      rw [compactionDue_poison]
      exact Bool.not_eq_true _ ▸ hdue
  | done =>
    obtain ⟨log', _, -, hinv', -⟩ := id hremoved
    dsimp only at ⊢
    -- a compaction that fails, one that is not due, and one that is made
    rcases hinv'.compactAfterRemoval_cases heq with
      ⟨hdue, rfl, -, rfl⟩ | ⟨hnot, -, rfl⟩ | ⟨hdue, hmade, hcompacted, -⟩
    · refine ⟨rfl, _, hremoved.poison _, ?_⟩
      rw [if_pos hdue]
      exact .skipped hclean hframe (by simp)
    · refine ⟨rfl, _, hremoved, ?_⟩
      rw [if_neg hnot]
      exact .removed hclean hframe (Bool.not_eq_true _ ▸ hnot)
    · obtain ⟨compactedLog, hfile, hcompactedInv, hlength⟩ := hcompacted.inv
      refine ⟨hcompacted.limits, 0, hcompactedInv.onDisk hfile hlength, ?_⟩
      rw [if_pos hdue]
      cases compaction with
      | failed => exact absurd rfl hmade
      | done | unsynced => exact .compacted

theorem Queue.OnDisk.call (h : queue.OnDisk C J garbage)
    (hcodec : DecodeInvertsEncode C J) (append : AppendOutcome) (compaction : WriteOutcome)
    (call : Queue.Call) (skipped : ℕ) :
    ((queue.call C J append compaction call).2).limits = queue.limits ∧
      ∃ garbage', ((queue.call C J append compaction call).2).OnDisk C J garbage' ∧
        queue.Effect (queue.call C J append compaction call).2 garbage skipped garbage'
          (queue.skippedAfter C append compaction call skipped) := by
  obtain ⟨log, _, -, hinv, -⟩ := id h
  rcases hinv.call_cases hcodec call with
    ⟨hnone, err, herr⟩ | ⟨hnone, item, hadmits, heq⟩ | ⟨index, htarget, hoperational, hhead, heq⟩
  · unfold skippedAfter
    rw [herr, hnone]
    exact ⟨rfl, garbage, h, .kept (.inl rfl)⟩
  · unfold skippedAfter
    rw [heq, hnone]
    obtain ⟨hdisk, hlimits⟩ := h.enqueueWith hadmits append
    exact ⟨hlimits, garbage, hdisk,
      .kept (.inr (operationalLocked_ok_iff.mp hadmits.operational).2)⟩
  · rw [heq]
    exact h.removeIndexLocked hoperational hhead append compaction htarget skipped rfl

/-! ## Files -/

/-- The file of a host that has skipped `skipped` due compactions in a row: what it may hold beyond
a live log is garbage below the threshold, the dead frames of the removals that skipped a
compaction, and a torn frame. -/
structure FileWithin (C : Crypto) (J : EnvelopeJson) (limits : Limits) (skipped : ℕ)
    (file : Bytes) : Prop where
  length_le : file.length ≤ compactionCeiling + (skipped + 1) * (limits.liveMaximum + 101)
  garbage_lt : ∀ st, replayWAL C J limits file = .ok st →
    st.garbageBytes < compactionCeiling + skipped * (limits.liveMaximum + 101)

theorem Queue.OnDisk.fileWithin (h : queue.OnDisk C J garbage)
    (hgarbage : garbage < compactionCeiling + skipped * (queue.limits.liveMaximum + 101)) :
    FileWithin C J queue.limits skipped queue.file := by
  obtain ⟨log, tail, hfile, hinv, htail, -, hlog, hroom⟩ := h
  have hcounted := hinv.counted
  obtain ⟨-, ⟨st, hscans, hmirror⟩, -⟩ := hinv
  constructor
  · rw [hfile, Nat.add_mul]
    simp only [length_append]
    omega
  · intro st' hst'
    rw [hfile, replayWAL_of_scans hscans htail, Except.ok.injEq] at hst'
    subst hst'
    rw [← hmirror.garbageBytes, hcounted.garbageBytes, hlog, Nat.add_sub_cancel_left]
    exact (Nat.mod_le _ _).trans_lt hgarbage

/-- A written enqueue frame, if replay takes it, adds no garbage. -/
theorem garbageBytes_replayFrame {payload rest : Bytes}
    (hfits : frameFixedBodySize + payload.length ≤ 2 ^ 32 - 1)
    (h : replayFrame C J limits st (frameBytesOf C frameEnqueue payload previous ++ tail) =
      .ok (some (st', rest))) :
    rest = tail ∧ st'.garbageBytes = st.garbageBytes := by
  have hparses := @parses_frameBytesOf C frameEnqueue payload previous (by omega) tail
  -- the length of the payload that was read is within the limit, and it is the one written
  obtain ⟨_, _, read, _, frameBytes, hread, hlimit⟩ := parses_of_replayFrame h
  have hsame : read.length = payload.length := by
    have hwritten := hparses.frameBytes_eq
    have hlength := hread.length_payload
    rw [hread.frameBytes_eq] at hlength
    omega
  rw [replayFrame_of_parses hparses (hsame ▸ hlimit)] at h
  simp only [bind_ok_iff, exists_unit_iff, pure_ok_iff, some.injEq,
    Prod.mk.injEq, ReplayState.apply, ↓reduceIte] at h
  obtain ⟨-, applied, happly, rfl, rfl⟩ := h
  unfold ReplayState.enqueue at happly
  simp only [bind_ok_iff, exists_unit_iff, pure_ok_iff] at happly
  obtain ⟨_, -, _, -, -, -, rfl⟩ := happly
  exact ⟨drop_left' length_frameBytesOf, rfl⟩

/-- A log of enqueue frames, as far as replay accepts it, holds no garbage. -/
theorem garbageBytes_scan_compacted {frames : Bytes}
    (hencode : encodeCompactedFrom C previous items = .ok (frames, frameSizes, lastHash))
    {fuel : ℕ} (h : scan (replayFrame C J limits) fuel st frames = .ok st') :
    st'.garbageBytes = st.garbageBytes := by
  induction fuel generalizing items st previous frames frameSizes with
  | zero =>
    rw [scan, Except.ok.injEq] at h
    rw [h]
  | succ fuel ih =>
    rw [scan] at h
    cases items with
    | nil =>
      obtain ⟨rfl, rfl, rfl⟩ := hencode
      simp only [torn_nil st, Except.ok.injEq] at h
      rw [h]
    | cons item items =>
      rw [encodeCompactedFrom] at hencode
      simp only [bind_ok_iff, Prod.exists, encodeFrame_ok_iff, pure_ok_iff, Prod.mk.injEq] at hencode
      obtain ⟨_, _, ⟨hfits, rfl, rfl⟩, rest, sizes, last, hrest, rfl, rfl, rfl⟩ := hencode
      split at h
      · cases h
      · rw [Except.ok.injEq] at h
        rw [h]
      · next hstep =>
        obtain ⟨rfl, hsame⟩ := garbageBytes_replayFrame hfits hstep
        rw [ih hrest h, hsame]

/-- A new log of entries within the limits. -/
theorem fileWithin_compacted
    (hencode : encodeCompacted C items = .ok (encoded, frameSizes, lastHash))
    (hlength : items.length ≤ limits.maxItems.toNat)
    (hbytes : (items.map fun item => item.encoded.length).sum ≤ limits.maxBytes.toNat)
    (skipped : ℕ) : FileWithin C J limits skipped encoded := by
  obtain ⟨frames, hframes, rfl⟩ := encodeCompacted_ok hencode
  obtain ⟨hsizes, hframesLength, -⟩ := encodeCompactedFrom_sizes hframes
  have hlive := sum_frameBytes_le hlength hbytes
  constructor
  · rw [length_append, hframesLength, hsizes, Nat.add_mul]
    omega
  · intro st hreplay
    unfold replayWAL at hreplay
    simp only [bind_ok_iff, exists_unit_iff, drop_left] at hreplay
    rw [garbageBytes_scan_compacted hframes hreplay.2]
    exact Nat.lt_add_right _ (by decide)

theorem fileWithin_truncated (hvalid : limits.Valid)
    (hscans : Scans (replayFrame C J limits) ReplayState.start log st)
    (hsize : (fileDomain ++ log).length ≤ limits.maximumFileSize)
    (hgarbage : st.garbageBytes < compactionCeiling + skipped * (limits.liveMaximum + 101)) :
    FileWithin C J limits skipped (fileDomain ++ log) := by
  have hst := consistent_of_scans hscans
  have hframes : st.items.map Entry.frameBytes =
      st.items.map fun item => frameOverhead + item.encoded.length :=
    map_congr_left fun item hmem => (hst.decoded item hmem).frameBytes
  have hlive := sum_frameBytes_le hst.length_le (hst.bytes ▸ hst.bytes_le)
  have hcursor := validBytes_of_scans hscans .start
  have hexact := hst.garbageBytes
  have hallowed := hvalid.maximumFileSize_le
  unfold maximumAllowed at hallowed
  rw [length_append] at hsize
  rw [← hframes] at hlive
  change st.validBytes = fileDomain.length + log.length at hcursor
  constructor
  · rw [length_append, Nat.add_mul]
    omega
  · intro st' hst'
    have hreplay := @replayWAL_of_scans C J limits st log hscans [] torn_nil
    rw [append_nil] at hreplay
    rw [hreplay, Except.ok.injEq] at hst'
    rwa [← hst']

/-- The two ways in which `Open` rewrites the file, whether it succeeds or not: a log is cut behind
its last whole frame, and a legacy file is replaced by a new log. -/
theorem Queue.load_file (hvalid : limits.Valid) {file : Bytes}
    (hsize : encoded.length ≤ limits.maximumFileSize)
    (hgarbage : ∀ st, replayWAL C J limits encoded = .ok st →
      st.garbageBytes < compactionCeiling + skipped * (limits.liveMaximum + 101))
    (h : Queue.load C J limits outcome encoded = (result, file)) :
    file = encoded ∨ FileWithin C J limits skipped file := by
  unfold load at h
  split_ifs at h
  · rcases loadLog_cases h with ⟨rfl, -⟩ | ⟨st, log, tail, hreplay, rfl, hscans, rfl, -⟩
    · exact .inl rfl
    · refine .inr (fileWithin_truncated hvalid hscans ?_ (hgarbage st hreplay))
      rw [← append_assoc, length_append] at hsize
      omega
  · rcases loadLegacy_cases h with ⟨rfl, -⟩ | ⟨items, _, sizes, last, hencode, hcount, rfl, hle, -⟩
    · exact .inl rfl
    · exact .inr (fileWithin_compacted hencode hcount hle skipped)
  · cases h
    exact .inl rfl

/-- What `Open` leaves in the place of the file it finds. -/
theorem Queue.openFile_file {file file' : Option Bytes}
    (hgarbage : ∀ encoded st, file = some encoded → replayWAL C J limits encoded = .ok st →
      st.garbageBytes < compactionCeiling + skipped * (limits.liveMaximum + 101))
    (h : Queue.openFile C J limits outcome file = (result, file')) :
    file' = file ∨ ∃ new, file' = some new ∧ FileWithin C J limits skipped new := by
  rcases openFile_cases h with ⟨rfl, -⟩ | ⟨hvalid, ⟨rfl, rfl, -⟩ |
    ⟨encoded, _, left, rfl, hsize, hload, rfl, -⟩⟩
  · exact .inl rfl
  · have hempty : encodeCompacted C [] = .ok (fileDomain, [], Bytes32.zero) := by
      simp [encodeCompacted, encodeCompactedFrom]
    exact .inr ⟨fileDomain, rfl, fileWithin_compacted hempty (by simp) (by simp) skipped⟩
  · rcases load_file hvalid hsize (hgarbage encoded · rfl) hload with rfl | hnew
    · exact .inl rfl
    · exact .inr ⟨left, rfl, hnew⟩

/-- A file that is no log, or a log whose garbage is below the threshold. -/
def Tidy (C : Crypto) (J : EnvelopeJson) (limits : Limits) (file : Option Bytes) : Prop :=
  ∀ encoded st, file = some encoded → replayWAL C J limits encoded = .ok st →
    st.garbageBytes < compactionCeiling

/-! ## Runs -/

/-- The garbage a queue can have: a file is opened with at most the largest size, and only one
removal, which poisons the queue, goes beyond that. -/
def Queue.garbageMaximum (queue : Queue) : ℕ :=
  queue.limits.maximumFileSize + if queue.poisoned = none then 0 else queue.limits.liveMaximum + 101

/-- What holds of every state of a host whose first process finds the file `initial`. -/
structure Host.Inv (C : Crypto) (J : EnvelopeJson) (limits : Limits) (initial : Option Bytes)
    (host : Host) : Prop where
  file : Tidy C J limits initial →
    host.file = initial ∨ ∃ file, host.file = some file ∧ FileWithin C J limits host.skipped file
  queue : ∀ queue, host.queue = some queue → host.file = some queue.file ∧ queue.limits = limits ∧
    ∃ garbage, queue.OnDisk C J garbage ∧ garbage ≤ queue.garbageMaximum ∧
      (Tidy C J limits initial →
        garbage < compactionCeiling + host.skipped * (limits.liveMaximum + 101))

/-- The garbage of a queue on a host never reaches the size of a word. -/
theorem Queue.OnDisk.word (h : queue.OnDisk C J garbage)
    (hgarbage : garbage ≤ queue.garbageMaximum) :
    queue.limits.liveMaximum + garbage < 2 ^ 64 := by
  have hallowed := h.limits_valid.maximumFileSize_le
  unfold garbageMaximum at hgarbage
  unfold Limits.maximumFileSize maximumAllowed at *
  split_ifs at hgarbage <;> omega

/-- A compaction that is not due leaves less garbage than the threshold. -/
theorem Queue.garbageBytes_lt (h : queue.compactionDue = false) :
    queue.garbageBytes < compactionCeiling := by
  unfold compactionDue at h
  simp only [Bool.and_eq_false_iff, Bool.not_eq_false', decide_eq_true_eq, Bool.and_eq_true] at h
  unfold compactionFloor compactionCeiling at *
  omega

/-- Every effect of a call keeps the garbage within its bounds. -/
theorem Queue.Effect.bounds {garbage' skipped' : ℕ}
    (heffect : queue.Effect queue' garbage skipped garbage' skipped')
    (hdisk : queue.OnDisk C J garbage) (hdisk' : queue'.OnDisk C J garbage')
    (hlimits : queue'.limits = queue.limits) (h : garbage ≤ queue.garbageMaximum) :
    garbage' ≤ queue'.garbageMaximum ∧
      (garbage < compactionCeiling + skipped * (queue.limits.liveMaximum + 101) →
        garbage' < compactionCeiling + skipped' * (queue.limits.liveMaximum + 101)) := by
  have hallowed := hdisk.limits_valid.maximumFileSize_le
  have hceiling : compactionCeiling ≤ queue.limits.maximumFileSize := by
    unfold Limits.maximumFileSize compactionCeiling
    omega
  unfold garbageMaximum at *
  cases heffect with
  | kept clean =>
    rw [hlimits]
    rcases clean with hsame | hclean
    · rw [hsame]
      exact ⟨h, id⟩
    · rw [if_pos hclean] at h
      exact ⟨by omega, id⟩
  | compacted => exact ⟨Nat.zero_le _, fun _ => Nat.lt_add_right _ (by decide)⟩
  | @removed frameBytes hclean hframe hnot =>
    rw [if_pos hclean] at h
    -- the counter is exact, and the test has compared it with the threshold
    have hlt : garbage + (frameBytes + 101) < compactionCeiling := by
      have hbytes := garbageBytes_lt hnot
      rwa [(hdisk'.exact _).1] at hbytes
      rw [hlimits]
      unfold Limits.maximumFileSize maximumAllowed at *
      omega
    rw [hlimits]
    exact ⟨by omega, fun _ => by omega⟩
  | @skipped frameBytes hclean hframe hpoisoned =>
    rw [if_pos hclean] at h
    rw [if_neg hpoisoned, hlimits, Nat.add_mul]
    exact ⟨by omega, fun _ => by omega⟩

variable {initial : Option Bytes} {host : Host}

section

variable (h : host.Inv C J limits initial)
include h

/-- A process starts: `Open` reads the file, and may cut or rewrite it. -/
theorem Host.Inv.start (hnone : host.queue = none) (outcome : WriteOutcome) :
    (host.step C J limits (.start outcome)).Inv C J limits initial := by
  -- the garbage that replay finds in the file is below the bound
  have hgarbage (htidy : Tidy C J limits initial) (encoded : Bytes) (st : ReplayState)
      (hfile : host.file = some encoded) (hreplay : replayWAL C J limits encoded = .ok st) :
      st.garbageBytes < compactionCeiling + host.skipped * (limits.liveMaximum + 101) := by
    rcases h.file htidy with hinitial | ⟨file, hsome, hwithin⟩
    · exact Nat.lt_add_right _ (htidy encoded st (hinitial ▸ hfile) hreplay)
    · obtain rfl : file = encoded := mem_unique hsome hfile
      exact hwithin.garbage_lt st hreplay
  cases hopen : openFile C J limits outcome host.file with
  | mk result file' =>
    simp only [Host.step, hnone, hopen]
    constructor
    · intro htidy
      rcases openFile_file (hgarbage htidy) hopen with rfl | hnew
      · exact h.file htidy
      · exact .inr hnew
    · intro queue hqueue
      cases result with
      | error err => cases hqueue
      | ok opened =>
        obtain rfl : opened = queue := some.inj hqueue
        obtain ⟨hfile, hlimits, -, hclean, ⟨log, hlog, hinv⟩, hsize, horigin⟩ :=
          openFile_ok hopen
        have hcounted := hinv.counted
        have hge := hcounted.log_ge
        have hallowed := hinv.valid.maximumFileSize_le
        unfold maximumAllowed at hallowed
        rw [hlog, length_append, ← hlimits] at hsize
        have hexact := hcounted.garbageBytes
        refine ⟨hfile, hlimits, opened.garbageBytes, hinv.onDisk hlog (by omega), ?_, ?_⟩
        · rw [garbageMaximum]
          omega
        · intro htidy
          rcases horigin with hzero | ⟨encoded, st, hsome, hreplay, hsame⟩
          · rw [hzero]
            exact Nat.lt_add_right _ (by decide)
          · rw [hsame]
            exact hgarbage htidy encoded st hsome hreplay

variable (hcodec : DecodeInvertsEncode C J)
include hcodec

theorem Host.Inv.call (hqueue : host.queue = some queue) (append : AppendOutcome)
    (compaction : WriteOutcome) (call : Queue.Call) :
    (host.step C J limits (.call append compaction call)).Inv C J limits initial := by
  obtain ⟨-, hlimits, garbage, hdisk, hmaximum, htidy⟩ := h.queue queue hqueue
  obtain ⟨hlimits', garbage', hdisk', heffect⟩ :=
    hdisk.call hcodec append compaction call host.skipped
  obtain ⟨hmaximum', hbound⟩ := heffect.bounds hdisk hdisk' hlimits' hmaximum
  rw [hlimits] at hlimits' hbound
  simp only [Host.step, hqueue]
  constructor
  · intro hinitial
    refine .inr ⟨_, rfl, ?_⟩
    have hwithin := hdisk'.fileWithin (hlimits' ▸ hbound (htidy hinitial))
    rwa [hlimits'] at hwithin
  · intro called hcalled
    obtain rfl := some.inj hcalled
    exact ⟨rfl, hlimits', garbage', hdisk', hmaximum', fun hinitial => hbound (htidy hinitial)⟩

theorem Host.Inv.step (event : Host.Event) :
    (host.step C J limits event).Inv C J limits initial := by
  cases event with
  | start outcome =>
    cases hqueue : host.queue with
    | none => exact h.start hqueue outcome
    | some queue =>
      simp only [Host.step, hqueue]
      exact h
  | call append compaction call =>
    cases hqueue : host.queue with
    | none =>
      simp only [Host.step, hqueue]
      exact h
    | some queue => exact h.call hcodec hqueue append compaction call
  | close =>
    refine ⟨h.file, fun closed hclosed => ?_⟩
    obtain ⟨queue, hqueue, rfl⟩ := map_eq_some_iff.mp hclosed
    obtain ⟨hfile, hlimits, garbage, hdisk, hmaximum, htidy⟩ := h.queue queue hqueue
    exact ⟨hfile, hlimits, garbage, hdisk.close, hmaximum, htidy⟩
  | crash => exact ⟨h.file, nofun⟩

theorem Host.Inv.run (events : List Host.Event) :
    (host.run C J limits events).Inv C J limits initial := by
  induction events generalizing host with
  | nil => exact h
  | cons event events ih => exact ih (h.step hcodec event)

end

theorem Host.inv_initial (file : Option Bytes) : (Host.initial file).Inv C J limits file :=
  ⟨fun _ => .inl rfl, nofun⟩

/-- The counters and indexes of a queue are exactly those of its entries, within the limits. -/
structure Queue.Accounted (queue : Queue) : Prop where
  logBytes : queue.logBytes =
    fileDomain.length + (queue.items.map Entry.frameBytes).sum + queue.garbageBytes
  bytes : queue.bytes = (queue.items.map fun item => item.encoded.length).sum
  bytes_le : queue.bytes ≤ queue.limits.maxBytes.toNat
  nodup : (queue.items.map Entry.id).Nodup
  indexed : queue.Indexed queue.items

theorem Host.Inv.accounted (h : host.Inv C J limits initial)
    (hqueue : host.queue = some queue) : queue.Accounted := by
  obtain ⟨-, -, garbage, hdisk, hmaximum, -⟩ := h.queue queue hqueue
  obtain ⟨hgarbage, hlog⟩ := hdisk.exact (hdisk.word hmaximum)
  obtain ⟨log, _, -, hinv, -⟩ := hdisk
  have hcounted := hinv.counted
  exact ⟨by rw [hlog, hgarbage], hcounted.bytes, hcounted.bytes_le, hcounted.nodup, hinv.indexed⟩

theorem four_logs_fit {live dead : ℕ} (h : dead ≤ 4 * (live + 101)) :
    8 * 2 ^ 20 + dead ≤ live * 4 + 16 * 2 ^ 20 := by
  omega

/-- Three skipped compactions and a torn frame still fit into the largest file. -/
theorem Limits.skipped_le (h : skipped ≤ 3) :
    compactionCeiling + (skipped + 1) * (limits.liveMaximum + 101) ≤ limits.maximumFileSize := by
  have hmul : (skipped + 1) * (limits.liveMaximum + 101) ≤ 4 * (limits.liveMaximum + 101) :=
    Nat.mul_le_mul_right _ (by omega)
  exact four_logs_fit hmul

/-- **The settlement queue reopens what it wrote.** The arithmetic of the limits is exact. Whatever
the file, the calls, the crashes and the failures of the disk, the counters of an open queue are
exact. If the first file is no log, or a log with little garbage, then while at most three due
compactions in a row were skipped, the log and the file are within the size that `validateLimits`
returns, and opening the file gives the queue back. -/
theorem queue_reopens (hcodec : DecodeInvertsEncode C J) {maximum : ℕ}
    (hlimits : validateLimits limits = .ok maximum) (initial : Option Bytes)
    (events : List Host.Event) (host : Host)
    (hrun : (Host.initial initial).run C J limits events = host) :
    (∀ limits, (validateLimits limits).map (Nat.cast : ℕ → ℤ) = validateLimitsExact limits) ∧
      (∀ queue, host.queue = some queue → queue.limits = limits ∧ queue.Accounted) ∧
      (Tidy C J limits initial → host.skipped ≤ 3 →
        (host.file = initial ∨ ∃ file, host.file = some file ∧ file.length ≤ maximum) ∧
        ∀ queue, host.queue = some queue → queue.logBytes ≤ maximum ∧ ∃ reopened,
          Queue.openFile C J limits .done host.file = (.ok reopened, some reopened.file) ∧
            reopened = { queue with
              file := reopened.file, closed := false, poisoned := none }) := by
  subst hrun
  obtain ⟨-, rfl⟩ := validateLimits_ok_iff.mp hlimits
  have hinv : ((Host.initial initial).run C J limits events).Inv C J limits initial :=
    (Host.inv_initial initial).run hcodec events
  refine ⟨validateLimits_exact, fun queue hqueue => ?_, fun htidy hskipped => ⟨?_, ?_⟩⟩
  · exact ⟨(hinv.queue queue hqueue).2.1, hinv.accounted hqueue⟩
  · rcases hinv.file htidy with hsame | ⟨file, hfile, hwithin⟩
    · exact .inl hsame
    · exact .inr ⟨file, hfile, hwithin.length_le.trans (Limits.skipped_le hskipped)⟩
  · intro queue hqueue
    obtain ⟨hfile, rfl, garbage, hdisk, hmaximum, hbound⟩ := hinv.queue queue hqueue
    obtain ⟨-, hlog⟩ := hdisk.exact (hdisk.word hmaximum)
    have hwithin := (hdisk.fileWithin (hbound htidy)).length_le.trans (Limits.skipped_le hskipped)
    obtain ⟨log, tail, hcontent, hinv', htorn, -, hgarbage, -⟩ := hdisk
    rw [hcontent] at hwithin
    have hreopen := hinv'.reopen htorn hwithin
    simp only [length_append] at hwithin
    refine ⟨by omega, { queue with file := fileDomain ++ log, closed := false, poisoned := none },
      ?_, rfl⟩
    rw [hfile, hcontent]
    exact hreopen

/-! ## A log that outgrows its limit -/

/-- The voucher is removed, and the compaction, if one is due, fails. -/
theorem Queue.Ready.remove (h : queue.Ready log) (hclosed : queue.closed = false)
    (hclean : queue.poisoned = none) :
    ∃ log', log'.length = log.length + 673 ∧
      ((queue.enqueued .sample sampleEntry).call .sample sampleJson .done .failed
        (.remove (sampleVoucher.digest .sample))).2.Ready log' := by
  obtain ⟨hadmits, -⟩ := h.enqueue hclosed hclean
  obtain ⟨hitems, index, htarget⟩ := h.removeTarget hclosed hclean
  have hinv := h.inv.enqueued hadmits
  have honeFile : (queue.enqueued .sample sampleEntry).file =
      fileDomain ++ (log ++ queue.enqueueBytes .sample sampleEntry) := by
    rw [← append_assoc, ← h.file]
    rfl
  have honeLimits : (queue.enqueued .sample sampleEntry).limits = sampleLimits := h.limits
  generalize queue.enqueued .sample sampleEntry = one at *
  obtain ⟨-, -, hhead⟩ := Queue.removeTarget_ok htarget
  have hremoved := hinv.removed hhead
  have hlength : (log ++ queue.enqueueBytes .sample sampleEntry ++
      one.removeBytes .sample index).length = log.length + 673 := by
    rw [length_append, length_append, length_removeBytes, hadmits.length_enqueueBytes,
      frameBytes_sampleEntry]
  have hfile : (one.removed .sample index).file = fileDomain ++ (log ++
      queue.enqueueBytes .sample sampleEntry ++ one.removeBytes .sample index) := by
    change one.file ++ _ = _
    rw [honeFile, append_assoc]
  have hempty : (one.removed .sample index).items = [] := by
    change one.items.eraseIdx index = []
    rw [← length_eq_zero_iff, length_eraseIdx_of_lt index.isLt, hitems]
    rfl
  refine ⟨_, hlength, ?_⟩
  have hcall : one.call .sample sampleJson .done .failed (.remove (sampleVoucher.digest .sample)) =
      (one.removed .sample index).compactAfterRemoval .sample .failed := by
    rw [Queue.call, Queue.remove, htarget]
    exact Queue.removeIndexLocked_eq ..
  cases hcompact : (one.removed .sample index).compactAfterRemoval .sample .failed with
  | mk result after =>
    rw [hcall, hcompact]
    rcases hremoved.compactAfterRemoval_cases hcompact with
      ⟨-, -, -, rfl⟩ | ⟨-, -, rfl⟩ | ⟨-, hmade, -⟩
    · exact ⟨hremoved.reflag _ _ _, hfile, honeLimits, hempty⟩
    · exact ⟨hremoved, hfile, honeLimits, hempty⟩
    · exact absurd rfl hmade

theorem Queue.Ready.reopen (h : queue.Ready log)
    (hsize : queue.file.length ≤ sampleLimits.maximumFileSize) :
    ∃ opened, Queue.openFile .sample sampleJson sampleLimits .done (some queue.file) =
      (.ok opened, some queue.file) ∧ opened.Ready log ∧ opened.closed = false ∧
        opened.poisoned = none := by
  have hreopen : ∃ opened : Queue, openFile .sample sampleJson queue.limits .done
      (some (fileDomain ++ (log ++ []))) = (.ok opened, some (fileDomain ++ log)) ∧
        opened.items = queue.items := by
    refine ⟨_, h.inv.reopen torn_nil ?_, rfl⟩
    rw [append_nil, ← h.file, h.limits]
    exact hsize
  obtain ⟨opened, hopen, hitems⟩ := hreopen
  rw [append_nil, ← h.file, h.limits] at hopen
  obtain ⟨hfile, hlimits, hclosed, hclean, ⟨found, hfound, hinv⟩, -⟩ := openFile_ok hopen
  obtain rfl : found = log := by
    rw [← some.inj hfile, h.file] at hfound
    exact (append_cancel_left hfound).symm
  exact ⟨opened, hopen, ⟨hinv, hfound, hlimits, hitems.trans h.items⟩, hclosed, hclean⟩

/-- A process opens the queue and settles the voucher, and the compaction that may be due fails. -/
def sampleCycle : List Host.Event :=
  [.start .done, .call .done .failed (.enqueue sampleVoucher),
    .call .done .failed (.remove (sampleVoucher.digest .sample))]

/-- The file of an empty queue grows by the two dead frames. -/
theorem Host.run_sampleCycle (hnone : host.queue = none)
    (hready : queue.Ready log) (hfile : host.file = some queue.file)
    (hsize : queue.file.length ≤ sampleLimits.maximumFileSize) :
    ∃ log' queue', log'.length = log.length + 673 ∧ queue'.Ready log' ∧
      (host.run .sample sampleJson sampleLimits sampleCycle).queue = some queue' ∧
      (host.run .sample sampleJson sampleLimits sampleCycle).file = some queue'.file := by
  obtain ⟨opened, hopen, hopened, hclosed, hclean⟩ := hready.reopen hsize
  obtain ⟨-, henqueue⟩ := hopened.enqueue hclosed hclean
  obtain ⟨log', hlength, hafter⟩ := hopened.remove hclosed hclean
  refine ⟨log', _, hlength, hafter, ?_⟩
  simp only [sampleCycle, Host.run, foldl_cons, foldl_nil, Host.step, hnone, hfile, hopen,
    Except.toOption, henqueue, and_self]

/-- An empty host, after `k` cycles with a crash behind each. -/
theorem Host.run_sampleCycles (k : ℕ) (hk : k ≤ 24955) :
    ∃ events log queue, log.length = 673 * k ∧ queue.Ready log ∧
      ((Host.initial none).run .sample sampleJson sampleLimits events).queue = some queue ∧
      ((Host.initial none).run .sample sampleJson sampleLimits events).file = some queue.file := by
  induction k with
  | zero =>
    refine ⟨[.start .done], [], sampleQueue, rfl, ready_sampleQueue, ?_⟩
    exact ⟨rfl, rfl⟩
  | succ k ih =>
    obtain ⟨events, log, queue, hlength, hready, hqueue, hfile⟩ := ih (by omega)
    have hsize : queue.file.length ≤ sampleLimits.maximumFileSize := by
      obtain ⟨-, hmaximum⟩ := validateLimits_ok_iff.mp validateLimits_sampleLimits
      rw [hready.file, length_append, length_fileDomain]
      omega
    obtain ⟨log', queue', hlength', hready', hqueue', hfile'⟩ :=
      @Host.run_sampleCycle queue log
        (((Host.initial none).run .sample sampleJson sampleLimits events).step .sample sampleJson
          sampleLimits .crash) rfl hready hfile hsize
    refine ⟨events ++ .crash :: sampleCycle, log', queue', by omega, hready', ?_⟩
    rw [Host.run, foldl_append]
    exact ⟨hqueue', hfile'⟩

/-- When every due compaction fails, the log outgrows the limit, and the queue cannot be opened
again. -/
theorem queue_outgrows_its_file :
    DecodeInvertsEncode .sample sampleJson ∧ ∃ maximum events queue,
      validateLimits sampleLimits = .ok maximum ∧
      ((Host.initial none).run .sample sampleJson sampleLimits events).queue = some queue ∧
      maximum < queue.logBytes ∧
      Queue.openFile .sample sampleJson sampleLimits .done
        ((Host.initial none).run .sample sampleJson sampleLimits events).file =
          (.error (.corrupt .fileExceedsLimits), some queue.file) := by
  refine ⟨sampleJson_inverts, ?_⟩
  obtain ⟨events, log, queue, hlength, hready, hqueue, hfile⟩ := Host.run_sampleCycles 24955 le_rfl
  refine ⟨16794280, events, queue, validateLimits_sampleLimits, hqueue, ?_, ?_⟩
  · rw [hready.inv.counted.logBytes, hlength]
    decide
  · have hlarge : queue.file.length > 16794280 := by
      rw [hready.file, length_append, hlength]
      decide
    rw [hfile, openFile, validateLimits_sampleLimits]
    dsimp only
    rw [if_pos hlarge]

/-- A host with one voucher in the queue reopens it. -/
theorem queue_reopens_sample :
    ∃ host queue, (Host.initial none).run .sample sampleJson sampleLimits
        [.start .done, .call .done .done (.enqueue sampleVoucher)] = host ∧
      host.queue = some queue ∧ queue.items = [sampleEntry] ∧ queue.Accounted ∧
      queue.logBytes ≤ 16794280 ∧ ∃ reopened,
        Queue.openFile .sample sampleJson sampleLimits .done host.file =
          (.ok reopened, some reopened.file) ∧ reopened.items = [sampleEntry] := by
  obtain ⟨-, hcall⟩ := ready_sampleQueue.enqueue rfl rfl
  obtain ⟨hitems, -⟩ := ready_sampleQueue.removeTarget rfl rfl
  have hrun : (Host.initial none).run .sample sampleJson sampleLimits
      [.start .done, .call .done .done (.enqueue sampleVoucher)] =
      ⟨some (sampleQueue.enqueued .sample sampleEntry).file,
        some (sampleQueue.enqueued .sample sampleEntry), 0⟩ := by
    simp only [Host.run, foldl_cons, foldl_nil, Host.step, Host.initial,
      openFile_sampleQueue, Except.toOption, hcall]
    rfl
  obtain ⟨-, haccounted, hfits⟩ := queue_reopens sampleJson_inverts validateLimits_sampleLimits none
    _ _ hrun
  have htidy : Tidy .sample sampleJson sampleLimits none := nofun
  obtain ⟨-, hqueue⟩ := hfits htidy (Nat.zero_le 3)
  obtain ⟨hlog, reopened, hopen, heq⟩ := hqueue _ rfl
  refine ⟨_, _, hrun, rfl, hitems, (haccounted _ rfl).2, hlog, reopened, hopen, ?_⟩
  rw [heq]
  exact hitems

end NatP2P.Billing
