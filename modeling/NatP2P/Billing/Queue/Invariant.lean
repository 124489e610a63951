import Mathlib.Algebra.Order.BigOperators.Group.List
import NatP2P.Billing.Queue.Limits
import NatP2P.Billing.Queue.Replay

/-!
# The queue's invariant

`Queue.Inv queue log` relates the queue in memory to the frames `log` that are installed in its
file: the log replays to the entries and counters in memory, and the two indexes in memory are those
of the entries. The parts of the operations that change the memory, `installEnqueued`,
`installRemoved`, `rebase` and `indexItems`, keep it, and so does everything built from them.
-/

namespace NatP2P.Billing

open List Queue ReplayState

variable {C : Crypto} {J : EnvelopeJson} {queue : Queue} {st st' : ReplayState}
  {log frame frames encoded : Bytes} {items : List Entry} {item : Entry}
  {previous frameHash lastHash : Digest} {index : Fin queue.items.length} {expectedID : Identifier}
  {frameSizes : List ℕ} {limits : Limits}

/-! ## The indexes -/

/-- The number of entries of a payer. -/
def payerItems (items : List Entry) (payer : Identifier) : ℕ :=
  (items.filter fun item => item.payer = payer).length

/-- The stored bytes of a payer's entries. -/
def payerBytes (items : List Entry) (payer : Identifier) : ℕ :=
  ((items.filter fun item => item.payer = payer).map fun item => item.encoded.length).sum

theorem payerItems_append (items : List Entry) (item : Entry) (payer : Identifier) :
    payerItems (items ++ [item]) payer =
      payerItems items payer + if item.payer = payer then 1 else 0 := by
  unfold payerItems
  split_ifs with h <;> simp [h]

theorem payerBytes_append (items : List Entry) (item : Entry) (payer : Identifier) :
    payerBytes (items ++ [item]) payer =
      payerBytes items payer + if item.payer = payer then item.encoded.length else 0 := by
  unfold payerBytes
  split_ifs with h <;> simp [h]

theorem payerBytes_le (items : List Entry) (payer : Identifier) :
    payerBytes items payer ≤ (items.map fun item => item.encoded.length).sum :=
  (filter_sublist.map _).sum_le_sum fun _ _ => Nat.zero_le _

/-- A payer without entries has no bytes. -/
theorem payerBytes_eq_zero {payer : Identifier}
    (h : payerItems items payer = 0) : payerBytes items payer = 0 := by
  rw [payerBytes, length_eq_zero_iff.mp h]
  rfl

/-- What the removal of an entry takes away from its payer's totals. -/
theorem payer_without (hnodup : (items.map Entry.id).Nodup)
    (hmem : item ∈ items) (payer : Identifier) :
    payerItems items payer = payerItems (without Entry.id items item.id) payer +
        (if item.payer = payer then 1 else 0) ∧
      payerBytes items payer = payerBytes (without Entry.id items item.id) payer +
        (if item.payer = payer then item.encoded.length else 0) := by
  have hperm := (perm_cons_without hnodup hmem).filter fun other => other.payer = payer
  unfold payerItems payerBytes
  rw [hperm.length_eq, (hperm.map fun other => other.encoded.length).sum_nat]
  split_ifs with h <;> simp [h, Nat.add_comm]

/-- The two maps of the queue are the indexes of `items`, within the payers' limits. -/
structure Queue.Indexed (queue : Queue) (items : List Entry) : Prop where
  liveIDs : ∀ voucherID, voucherID ∈ queue.liveIDs ↔ voucherID ∈ items.map Entry.id
  usage : ∀ payer, queue.payerUsage.get payer =
    if payerItems items payer = 0 then none
    else some ⟨payerItems items payer, payerBytes items payer⟩
  items_le : ∀ payer, payerItems items payer ≤ queue.maxItemsPerPayer
  bytes_le : ∀ payer, payerBytes items payer ≤ queue.maxBytesPerPayer

theorem Queue.Indexed.usage_eq (h : queue.Indexed items) (payer : Identifier) :
    queue.usage payer = ⟨payerItems items payer, payerBytes items payer⟩ := by
  unfold Queue.usage
  rw [h.usage]
  split_ifs with hzero
  · rw [hzero, payerBytes_eq_zero hzero]
    rfl
  · rfl

theorem Queue.maxItemsPerPayer_le (h : queue.limits.Valid) :
    queue.maxItemsPerPayer ≤ queue.limits.maxItems.toNat := by
  have hle := h.itemsPerPayer_le
  unfold maxItemsPerPayer
  split_ifs <;> omega

theorem Queue.maxBytesPerPayer_le (h : queue.limits.Valid) :
    queue.maxBytesPerPayer ≤ queue.limits.maxBytes.toNat := by
  have hle := h.bytesPerPayer_le
  unfold maxBytesPerPayer
  split_ifs <;> omega

theorem Queue.maxItemsPerPayer_lt (h : queue.limits.Valid) : queue.maxItemsPerPayer < 2 ^ 64 :=
  (queue.maxItemsPerPayer_le h).trans_lt queue.limits.maxItems.toNat_lt

theorem Queue.maxBytesPerPayer_lt (h : queue.limits.Valid) : queue.maxBytesPerPayer < 2 ^ 64 :=
  (queue.maxBytesPerPayer_le h).trans_lt queue.limits.maxBytes.toNat_lt

theorem Queue.Indexed.push (h : queue.Indexed items) (hvalid : queue.limits.Valid)
    (hitems : payerItems items item.payer < queue.maxItemsPerPayer)
    (hbytes : payerBytes items item.payer + item.encoded.length ≤ queue.maxBytesPerPayer) :
    ({ queue with
      liveIDs := insert item.id queue.liveIDs
      payerUsage := queue.payerUsage.set item.payer
        ⟨add64 (queue.usage item.payer).items 1,
          add64 (queue.usage item.payer).bytes item.encoded.length⟩ } : Queue).Indexed
      (items ++ [item]) := by
  have hmaxItems := queue.maxItemsPerPayer_lt hvalid
  have hmaxBytes := queue.maxBytesPerPayer_lt hvalid
  constructor
  · intro voucherID
    simp only [Finset.mem_insert, h.liveIDs, map_append, mem_append, map_cons,
      map_nil, mem_singleton, or_comm]
  · intro payer
    simp only [payerItems_append, payerBytes_append, h.usage_eq]
    rw [add64_eq (by omega), add64_eq (by omega)]
    by_cases hpayer : payer = item.payer
    · subst hpayer
      simp
    · rw [GoMap.get_set_ne hpayer, h.usage, if_neg (Ne.symm hpayer), if_neg (Ne.symm hpayer)]
      simp
  · intro payer
    have hold := h.items_le payer
    rw [payerItems_append]
    change _ ≤ queue.maxItemsPerPayer
    rcases eq_or_ne item.payer payer with rfl | hpayer
    · rwa [if_pos rfl]
    · rwa [if_neg hpayer]
  · intro payer
    have hold := h.bytes_le payer
    rw [payerBytes_append]
    change _ ≤ queue.maxBytesPerPayer
    rcases eq_or_ne item.payer payer with rfl | hpayer
    · rwa [if_pos rfl]
    · rwa [if_neg hpayer]

/-! ## The invariant -/

/-- The entries and counters in memory are those of the replayed log. -/
structure Queue.Mirrors (queue : Queue) (st : ReplayState) : Prop where
  items : queue.items = st.items
  bytes : queue.bytes = st.bytes
  lastHash : queue.lastHash = st.lastHash
  logBytes : queue.logBytes = st.logBytes
  garbageBytes : queue.garbageBytes = st.garbageBytes

/-- `log` is the part of the file behind its domain that memory knows of. -/
structure Queue.Inv (C : Crypto) (J : EnvelopeJson) (queue : Queue) (log : Bytes) : Prop where
  valid : queue.limits.Valid
  replays : ∃ st, Scans (replayFrame C J queue.limits) ReplayState.start log st ∧ queue.Mirrors st
  indexed : queue.Indexed queue.items

/-- The invariant does not depend on the file, nor on the two flags. -/
theorem Queue.Inv.reflag (h : queue.Inv C J log) (file : Bytes) (poisoned : Option QueueError)
    (closed : Bool) : ({ queue with file, poisoned, closed } : Queue).Inv C J log := by
  obtain ⟨hvalid, ⟨st, hscans, hmirror⟩, hindexed⟩ := h
  exact ⟨hvalid, ⟨st, hscans, { hmirror with }⟩, { hindexed with }⟩

theorem Queue.Inv.close (h : queue.Inv C J log) : queue.close.Inv C J log := h.reflag _ _ true

/-- What the replayed state says about the entries in memory. -/
structure Queue.Counted (C : Crypto) (J : EnvelopeJson) (queue : Queue) (log : Bytes) : Prop where
  nodup : (queue.items.map Entry.id).Nodup
  decoded : ∀ item ∈ queue.items, item.Decoded C J
  bytes : queue.bytes = (queue.items.map fun item => item.encoded.length).sum
  length_le : queue.items.length ≤ queue.limits.maxItems.toNat
  bytes_le : queue.bytes ≤ queue.limits.maxBytes.toNat
  log_ge : (queue.items.map Entry.frameBytes).sum ≤ log.length
  logBytes : queue.logBytes = (fileDomain.length + log.length) % 2 ^ 64
  garbageBytes : queue.garbageBytes =
    (log.length - (queue.items.map Entry.frameBytes).sum) % 2 ^ 64

theorem Queue.Inv.counted (h : queue.Inv C J log) : queue.Counted C J log := by
  obtain ⟨-, ⟨st, hscans, hmirror⟩, -⟩ := h
  have hst := consistent_of_scans hscans
  have hcursor : st.validBytes = fileDomain.length + log.length := validBytes_of_scans hscans .start
  have hge := hst.validBytes_ge
  have hgarbage := hst.garbageBytes
  rw [hcursor] at hgarbage
  rw [Nat.add_sub_add_left] at hgarbage
  constructor <;> simp only [hmirror.items, hmirror.bytes, hmirror.logBytes, hmirror.garbageBytes]
  · exact hst.nodup
  · exact hst.decoded
  · exact hst.bytes
  · exact hst.length_le
  · exact hst.bytes_le
  · omega
  · rw [hst.logBytes, hcursor]
  · exact hgarbage

/-! ## Enqueue -/

/-- What the checks of `enqueue` establish. -/
structure Queue.Admits (C : Crypto) (J : EnvelopeJson) (queue : Queue) (item : Entry) : Prop where
  operational : queue.operationalLocked = .ok ()
  decoded : item.Decoded C J
  fresh : item.id ∉ queue.items.map Entry.id
  items_lt : queue.items.length < queue.limits.maxItems.toNat
  bytes_le : queue.bytes + item.encoded.length ≤ queue.limits.maxBytes.toNat
  payerItems_lt : payerItems queue.items item.payer < queue.maxItemsPerPayer
  payerBytes_le : payerBytes queue.items item.payer + item.encoded.length ≤ queue.maxBytesPerPayer

theorem encodeFrame_ok_iff {frameType : UInt8} {payload : Bytes} :
    encodeFrame C frameType payload previous = .ok (frame, frameHash) ↔
      frameFixedBodySize + payload.length ≤ 2 ^ 32 - 1 ∧
        frameBytesOf C frameType payload previous = frame ∧
        frameDigest C frameType previous payload = frameHash := by
  simp only [encodeFrame, check_bind_ok_iff, pure_ok_iff, Prod.mk.injEq, gt_iff_lt, Nat.not_lt]

/-- An entry that passes the checks is new, fits and decodes to itself. -/
theorem Queue.Inv.enqueueFrame_ok (h : queue.Inv C J log) (hcodec : DecodeInvertsEncode C J)
    {envelope : Envelope} {required : Bool}
    (hframe : queue.enqueueFrame C J envelope required = .ok (item, frame, frameHash)) :
    item.envelope = envelope ∧ queue.Admits C J item ∧
      frame = frameBytesOf C frameEnqueue item.encoded queue.lastHash ∧
      frameHash = frameDigest C frameEnqueue queue.lastHash item.encoded := by
  have hcounted := h.counted
  have hsub := sub64_eq hcounted.bytes_le queue.limits.maxBytes.toNat_lt
  have hbytes := hcounted.bytes_le
  unfold enqueueFrame at hframe
  simp only [bind_ok_iff, exists_unit_iff, mapError_ok_iff, check_ok_iff, pure_ok_iff,
    Prod.exists, Prod.mk.injEq, h.indexed.usage_eq, h.indexed.liveIDs, hsub, encodeFrame_ok_iff]
    at hframe
  obtain ⟨encoded, canonical, hencode, voucherID, hid, hoperational, hfresh, hitems, hsize, hpayer,
    _, _, ⟨hfits, rfl, rfl⟩, rfl, rfl, rfl⟩ := hframe
  have hdecode := hcodec _ _ _ _ hencode
  obtain ⟨rfl, -⟩ := encodeEnvelope_ok hencode
  have hpayerBytes := h.indexed.bytes_le canonical.voucher.body.payerNatID
  have hpayerSub := sub64_eq hpayerBytes (queue.maxBytesPerPayer_lt h.valid)
  refine ⟨rfl, ⟨hoperational, ⟨hdecode, hid, length_frameBytesOf, hfits⟩, hfresh, by omega,
    by dsimp only; omega, ?_, ?_⟩, rfl, rfl⟩
  · change payerItems queue.items canonical.voucher.body.payerNatID < _
    omega
  · change payerBytes queue.items canonical.voucher.body.payerNatID + encoded.length ≤ _
    omega

/-- The frame of an admitted entry is taken off the log, and leads to the state with the entry. -/
theorem takes_enqueueFrame (hvalid : queue.limits.Valid) (hmirror : queue.Mirrors st)
    (hst : st.Consistent C J queue.limits) (hadmits : queue.Admits C J item) :
    Takes (replayFrame C J queue.limits) st
      (frameBytesOf C frameEnqueue item.encoded queue.lastHash)
      ((st.push item).advance (frameDigest C frameEnqueue queue.lastHash item.encoded)
        item.frameBytes) := by
  have hdecoded := hadmits.decoded
  have hbytes := hadmits.bytes_le
  have happly : st.apply C J queue.limits frameEnqueue item.encoded
      (frameOverhead + item.encoded.length) = .ok (st.push item) := by
    rw [apply, if_pos rfl, hst.enqueue_ok_iff, ← hmirror.items, ← hmirror.bytes]
    exact ⟨item.envelope, item.id, hdecoded.envelope, hdecoded.id, hadmits.fresh, hadmits.items_lt,
      hbytes, by rw [← hdecoded.frameBytes]⟩
  rw [hmirror.lastHash, hdecoded.frameBytes]
  exact takes_frameBytesOf (hvalid.frameBody_le (.inl (by omega)) hdecoded.fits) happly

theorem Queue.Inv.installEnqueued (h : queue.Inv C J log) (hadmits : queue.Admits C J item) :
    (queue.installEnqueued item (frameDigest C frameEnqueue queue.lastHash item.encoded)).Inv C J
      (log ++ frameBytesOf C frameEnqueue item.encoded queue.lastHash) := by
  obtain ⟨hvalid, ⟨st, hscans, hmirror⟩, hindexed⟩ := h
  have hst := consistent_of_scans hscans
  have hpush := hindexed.push hvalid hadmits.payerItems_lt hadmits.payerBytes_le
  refine ⟨hvalid, ⟨_, hscans.snoc (takes_enqueueFrame hvalid hmirror hst hadmits), ?_⟩,
    hpush.liveIDs, hpush.usage, hpush.items_le, hpush.bytes_le⟩
  constructor
  · change queue.items ++ [item] = (st.push item).items
    rw [items_push, hmirror.items]
  · change add64 queue.bytes _ = add64 st.bytes _
    rw [hmirror.bytes]
  · rfl
  · change add64 queue.logBytes _ = add64 st.logBytes _
    rw [hmirror.logBytes]
  · exact hmirror.garbageBytes

/-! ## Removal -/

/-- An entry before which none is of its channel is the head of the channel. -/
theorem isChannelHead_of_take {index : ℕ} (hitem : items[index]? = some item)
    (hearlier : ∀ earlier ∈ items.take index, earlier.channel ≠ item.channel) :
    IsChannelHead items item := by
  obtain ⟨hlt, hget⟩ := List.getElem?_eq_some_iff.mp hitem
  have hsplit : items = items.take index ++ item :: items.drop (index + 1) := by
    rw [← hget, cons_getElem_drop_succ, take_append_drop]
  have hnone : (items.take index).filter (fun other => other.channel = item.channel) = [] :=
    filter_eq_nil_iff.mpr fun earlier hmem => by simpa using hearlier earlier hmem
  unfold IsChannelHead
  rw [hsplit, filter_append, hnone, filter_cons_of_pos (by simp)]
  rfl

/-- `Remove` deletes the head of the queue, which is the head of its channel. -/
theorem Queue.removeTarget_ok (h : queue.removeTarget expectedID = .ok index) :
    queue.operationalLocked = .ok () ∧ (queue.items.get index).id = expectedID ∧
      IsChannelHead queue.items (queue.items.get index) := by
  unfold removeTarget at h
  simp only [bind_ok_iff, exists_unit_iff] at h
  obtain ⟨hoperational, h⟩ := h
  split_ifs at h with hpos
  simp only [check_bind_ok_iff, ne_eq, Decidable.not_not, pure_ok_iff] at h
  obtain ⟨hid, rfl⟩ := h
  exact ⟨hoperational, hid, isChannelHead_of_take (getElem?_eq_getElem hpos) (by simp)⟩

/-- `RemoveChannelHead` deletes the entry it names, which is the head of its channel. -/
theorem Queue.removeChannelHeadTarget_ok
    (h : queue.removeChannelHeadTarget expectedID = .ok index) :
    queue.operationalLocked = .ok () ∧ (queue.items.get index).id = expectedID ∧
      IsChannelHead queue.items (queue.items.get index) := by
  unfold removeChannelHeadTarget at h
  simp only [bind_ok_iff, exists_unit_iff] at h
  obtain ⟨hoperational, -, h⟩ := h
  cases hfind : queue.items.findFinIdx? fun item => item.id = expectedID with
  | none => simp [hfind] at h
  | some found =>
    rw [hfind] at h
    simp only [check_bind_ok_iff, pure_ok_iff] at h
    obtain ⟨hearlier, rfl⟩ := h
    have hid := (findFinIdx?_eq_some_iff.mp hfind).1
    refine ⟨hoperational, of_decide_eq_true hid, ?_⟩
    refine isChannelHead_of_take (getElem?_eq_getElem found.isLt) fun earlier hmem heq => ?_
    exact hearlier ⟨earlier, hmem, heq⟩

theorem Queue.Indexed.installRemoved (h : queue.Indexed queue.items)
    (hnodup : (queue.items.map Entry.id).Nodup) (hlength : queue.items.length < 2 ^ 64)
    (hsize : (queue.items.map fun item => item.encoded.length).sum < 2 ^ 64)
    (index : Fin queue.items.length) (frameBytes : ℕ) (frameHash : Digest) :
    (queue.installRemoved index frameBytes frameHash).Indexed (queue.items.eraseIdx index) := by
  have hmem : queue.items.get index ∈ queue.items := get_mem ..
  have herase : queue.items.eraseIdx index =
      without Entry.id queue.items (queue.items.get index).id :=
    eraseIdx_eq_without hnodup (getElem?_eq_getElem index.isLt)
  constructor
  · intro voucherID
    change voucherID ∈ queue.liveIDs.erase _ ↔ voucherID ∈ (queue.items.eraseIdx index).map Entry.id
    rw [herase, Finset.mem_erase, h.liveIDs, mem_map, mem_map]
    constructor
    · rintro ⟨hne, item, hitem, rfl⟩
      exact ⟨item, mem_without.mpr ⟨hitem, hne⟩, rfl⟩
    · rintro ⟨item, hitem, rfl⟩
      obtain ⟨hitem, hne⟩ := mem_without.mp hitem
      exact ⟨hne, item, hitem, rfl⟩
  · intro payer
    obtain ⟨hitems, hbytes⟩ := payer_without hnodup hmem payer
    have hltItems : payerItems queue.items payer < 2 ^ 64 :=
      (length_filter_le ..).trans_lt hlength
    have hltBytes := (payerBytes_le queue.items payer).trans_lt hsize
    simp only [Queue.installRemoved, h.usage_eq, herase]
    by_cases hpayer : payer = (queue.items.get index).payer
    · rw [if_pos hpayer.symm] at hitems hbytes
      rw [← hpayer, sub64_eq (by omega) (by omega), sub64_eq (by omega) (by omega), hitems, hbytes,
        Nat.add_sub_cancel, Nat.add_sub_cancel]
      split_ifs with hzero
      · rw [GoMap.get_delete_self]
      · rw [GoMap.get_set_self]
    · rw [if_neg (Ne.symm hpayer), Nat.add_zero] at hitems hbytes
      rw [← hitems, ← hbytes, ← h.usage]
      split_ifs
      · rw [GoMap.get_delete_ne hpayer]
      · rw [GoMap.get_set_ne hpayer]
  · intro payer
    have hold := h.items_le payer
    obtain ⟨hitems, -⟩ := payer_without hnodup hmem payer
    change payerItems (queue.items.eraseIdx index) payer ≤ queue.maxItemsPerPayer
    rw [herase]
    omega
  · intro payer
    have hold := h.bytes_le payer
    obtain ⟨-, hbytes⟩ := payer_without hnodup hmem payer
    change payerBytes (queue.items.eraseIdx index) payer ≤ queue.maxBytesPerPayer
    rw [herase]
    omega

/-- An installed remove frame for the head of a channel keeps the invariant. -/
theorem Queue.Inv.installRemoved (h : queue.Inv C J log)
    (hhead : IsChannelHead queue.items (queue.items.get index)) :
    (queue.installRemoved index (frameBytesOf C frameRemove (queue.items.get index).id.val
        queue.lastHash).length
      (frameDigest C frameRemove queue.lastHash (queue.items.get index).id.val)).Inv C J
      (log ++ frameBytesOf C frameRemove (queue.items.get index).id.val queue.lastHash) := by
  have hcounted := h.counted
  obtain ⟨hvalid, ⟨st, hscans, hmirror⟩, hindexed⟩ := h
  have hst := consistent_of_scans hscans
  set item := queue.items.get index with hitem
  have hmem : item ∈ st.items := hmirror.items ▸ get_mem ..
  obtain ⟨position, hstate⟩ := mem_iff_getElem?.mp (mem_items.mp hmem)
  have hheadSt : IsChannelHead st.items item := hmirror.items ▸ hhead
  have happly : st.apply C J queue.limits frameRemove item.id.val
      (frameOverhead + item.id.val.length) =
      .ok (st.drop position item (frameOverhead + item.id.val.length)) := by
    rw [apply, if_neg (by decide), if_pos rfl, hst.remove_ok_iff]
    exact ⟨position, item, rfl, hstate, hheadSt, rfl⟩
  have hfits : frameFixedBodySize + item.id.val.length ≤ maximumFrameBody queue.limits :=
    hvalid.frameBody_le (.inr (by rw [Bytes32.length_val])) (by rw [Bytes32.length_val]; decide)
  have htakes := takes_frameBytesOf hfits happly
  rw [← hmirror.lastHash] at htakes
  have hlength := hcounted.length_le.trans_lt queue.limits.maxItems.toNat_lt
  have hsize := hcounted.bytes_le.trans_lt queue.limits.maxBytes.toNat_lt
  rw [hcounted.bytes] at hsize
  refine ⟨hvalid, ⟨_, hscans.snoc htakes, ?_⟩,
    hindexed.installRemoved hcounted.nodup hlength hsize index _ _⟩
  constructor
  · change queue.items.eraseIdx index =
      (st.drop position item (frameOverhead + item.id.val.length)).items
    rw [hst.items_drop hstate, ← hmirror.items]
    exact eraseIdx_eq_without hcounted.nodup (getElem?_eq_getElem index.isLt)
  · change sub64 queue.bytes _ = sub64 st.bytes _
    rw [hmirror.bytes]
  · rfl
  · change add64 queue.logBytes _ = add64 st.logBytes _
    rw [hmirror.logBytes, length_frameBytesOf]
  · change add64 queue.garbageBytes (add64 item.frameBytes _) =
      add64 st.garbageBytes (add64 item.frameBytes _)
    rw [hmirror.garbageBytes, length_frameBytesOf]

/-! ## Compaction -/

/-- An entry with the size of its own enqueue frame. -/
def Entry.rebased (item : Entry) : Entry :=
  { item with frameBytes := frameOverhead + item.encoded.length }

/-- What `encodeCompactedFrom` returns: the sizes are those of the entries' frames. -/
theorem encodeCompactedFrom_sizes
    (h : encodeCompactedFrom C previous items = .ok (frames, frameSizes, lastHash)) :
    frameSizes = items.map (fun item => frameOverhead + item.encoded.length) ∧
      frames.length = frameSizes.sum ∧
      ∀ item ∈ items, frameFixedBodySize + item.encoded.length ≤ 2 ^ 32 - 1 := by
  induction items generalizing previous frames frameSizes with
  | nil =>
    obtain ⟨rfl, rfl, rfl⟩ := h
    exact ⟨rfl, rfl, by simp⟩
  | cons item items ih =>
    rw [encodeCompactedFrom] at h
    simp only [bind_ok_iff, Prod.exists, encodeFrame_ok_iff, pure_ok_iff, Prod.mk.injEq] at h
    obtain ⟨_, _, ⟨hfits, rfl, rfl⟩, rest, sizes, last, hrest, rfl, rfl, rfl⟩ := h
    obtain ⟨hsizes, hlength, hall⟩ := ih hrest
    refine ⟨?_, ?_, ?_⟩
    · rw [hsizes, map_cons, length_frameBytesOf]
    · rw [length_append, hlength, sum_cons]
    · exact forall_mem_cons.mpr ⟨hfits, hall⟩

/-- The frames that compaction writes replay to the entries they were written from. -/
theorem scans_encodeCompactedFrom (hvalid : limits.Valid)
    (hencode : encodeCompactedFrom C previous items = .ok (frames, frameSizes, lastHash))
    (hst : st.Consistent C J limits) (hprevious : st.lastHash = previous)
    (hnodup : ((st.items ++ items).map Entry.id).Nodup)
    (hdecoded : ∀ item ∈ items, item.rebased.Decoded C J)
    (hlength : st.items.length + items.length ≤ limits.maxItems.toNat)
    (hbytes : st.bytes + (items.map fun item => item.encoded.length).sum ≤ limits.maxBytes.toNat) :
    ∃ st', Scans (replayFrame C J limits) st frames st' ∧
      st'.items = st.items ++ items.map Entry.rebased ∧ st'.lastHash = lastHash := by
  induction items generalizing st previous frames frameSizes with
  | nil =>
    obtain ⟨rfl, rfl, rfl⟩ := hencode
    exact ⟨st, .nil st, by simp, hprevious⟩
  | cons item items ih =>
    rw [encodeCompactedFrom] at hencode
    simp only [bind_ok_iff, Prod.exists, encodeFrame_ok_iff, pure_ok_iff, Prod.mk.injEq] at hencode
    obtain ⟨_, _, ⟨hfits, rfl, rfl⟩, rest, sizes, last, hrest, rfl, rfl, rfl⟩ := hencode
    rw [map_cons, sum_cons] at hbytes
    rw [length_cons] at hlength
    have hitem := hdecoded item (by simp)
    -- the entry is new behind those already replayed
    have hnew : item.rebased.id ∉ st.items.map Entry.id := by
      rw [map_append, nodup_append] at hnodup
      intro hmem
      exact hnodup.2.2 _ hmem _ (mem_cons_self ..) rfl
    have happly : st.apply C J limits frameEnqueue item.encoded
        (frameOverhead + item.encoded.length) = .ok (st.push item.rebased) := by
      rw [apply, if_pos rfl, hst.enqueue_ok_iff]
      exact ⟨item.envelope, item.id, hitem.envelope, hitem.id, hnew, by omega, by omega, rfl⟩
    have hlimit : frameFixedBodySize + item.encoded.length ≤ maximumFrameBody limits :=
      hvalid.frameBody_le (.inl (by omega)) hfits
    have htakes := takes_frameBytesOf hlimit happly
    have hnext := hst.push hitem hnew (by omega) (by change st.bytes + item.encoded.length ≤ _; omega)
      (frameDigest C frameEnqueue st.lastHash item.encoded)
    have hitems : ((st.push item.rebased).advance
        (frameDigest C frameEnqueue st.lastHash item.encoded) item.rebased.frameBytes).items =
        st.items ++ [item.rebased] := items_push st item.rebased
    have hadd : ((st.push item.rebased).advance
        (frameDigest C frameEnqueue st.lastHash item.encoded) item.rebased.frameBytes).bytes =
        st.bytes + item.encoded.length :=
      add64_eq (by have := limits.maxBytes.toNat_lt; change st.bytes + item.encoded.length < _; omega)
    obtain ⟨st', hscans, hall, hlast⟩ := ih (hprevious ▸ hrest) hnext rfl
      (by rw [hitems]; simpa [Entry.rebased] using hnodup)
      (fun other hother => hdecoded other (mem_cons_of_mem _ hother))
      (by rw [hitems, length_append, length_singleton]; omega) (by omega)
    refine ⟨st', ?_, ?_, hlast⟩
    · rw [← hprevious]
      exact .cons htakes hscans
    · rw [hall, hitems, append_assoc]
      rfl

/-- The entries that a new log is written from: they decode to themselves, and the limits hold. -/
structure Compactable (C : Crypto) (J : EnvelopeJson) (limits : Limits) (items : List Entry) :
    Prop where
  nodup : (items.map Entry.id).Nodup
  decoded : ∀ item ∈ items, item.rebased.Decoded C J
  length_le : items.length ≤ limits.maxItems.toNat
  bytes_le : (items.map fun item => item.encoded.length).sum ≤ limits.maxBytes.toNat

/-- The live entries in their frames are never longer than the limits allow. -/
theorem sum_frameBytes_le (hlength : items.length ≤ limits.maxItems.toNat)
    (hbytes : (items.map fun item => item.encoded.length).sum ≤ limits.maxBytes.toNat) :
    fileDomain.length + (items.map fun item => frameOverhead + item.encoded.length).sum ≤
      limits.liveMaximum := by
  have hsum : (items.map fun item => frameOverhead + item.encoded.length).sum =
      items.length * frameOverhead + (items.map fun item => item.encoded.length).sum := by
    rw [sum_map_add, map_const', sum_replicate, nsmul_eq_mul, Nat.cast_id]
  have hframes := Nat.mul_le_mul_right frameOverhead hlength
  unfold Limits.liveMaximum
  omega

theorem encodeCompacted_ok (h : encodeCompacted C items = .ok (encoded, frameSizes, lastHash)) :
    ∃ frames, encodeCompactedFrom C Bytes32.zero items = .ok (frames, frameSizes, lastHash) ∧
      encoded = fileDomain ++ frames := by
  unfold encodeCompacted at h
  simp only [bind_ok_iff, Prod.exists, pure_ok_iff, Prod.mk.injEq] at h
  obtain ⟨frames, _, _, hframes, rfl, rfl, rfl⟩ := h
  exact ⟨frames, hframes, rfl⟩

theorem items_rebase (h : encodeCompacted C queue.items = .ok (encoded, frameSizes, lastHash)) :
    (queue.rebase encoded frameSizes lastHash).items = queue.items.map Entry.rebased := by
  obtain ⟨frames, hframes, rfl⟩ := encodeCompacted_ok h
  rw [(encodeCompactedFrom_sizes hframes).1]
  change queue.items.zipWith _ _ = _
  rw [zipWith_map_right, zipWith_self]
  rfl

/-- The log that compaction writes replays to the queue that it leaves in memory. -/
theorem replays_compacted (hvalid : queue.limits.Valid)
    (hbytes : queue.bytes = (queue.items.map fun item => item.encoded.length).sum)
    (hitems : Compactable C J queue.limits queue.items)
    (hencode : encodeCompacted C queue.items = .ok (encoded, frameSizes, lastHash)) :
    ∃ log, encoded = fileDomain ++ log ∧ ∃ st,
      Scans (replayFrame C J queue.limits) ReplayState.start log st ∧
        (queue.rebase encoded frameSizes lastHash).Mirrors st := by
  have hrebase := items_rebase hencode
  obtain ⟨frames, hframes, rfl⟩ := encodeCompacted_ok hencode
  have hstart : start.items = [] := rfl
  have hzero : start.bytes = 0 := rfl
  obtain ⟨rfl, hlength, -⟩ := encodeCompactedFrom_sizes hframes
  obtain ⟨st, hscans, hview, hlast⟩ := scans_encodeCompactedFrom hvalid hframes .start
    rfl (by exact hitems.nodup) hitems.decoded
    (by rw [hstart]; simpa using hitems.length_le) (by rw [hzero]; simpa using hitems.bytes_le)
  rw [hstart, nil_append] at hview
  have hst := consistent_of_scans hscans
  have hcursor : st.validBytes = fileDomain.length + frames.length :=
    validBytes_of_scans hscans .start
  have hsum : (st.items.map Entry.frameBytes).sum =
      (queue.items.map fun item => frameOverhead + item.encoded.length).sum := by
    rw [hview, map_map]
    rfl
  have hroom := sum_frameBytes_le hitems.length_le hitems.bytes_le
  have hmaximum := hvalid.maximumFileSize_le
  refine ⟨frames, rfl, st, hscans, ?_⟩
  constructor
  · rw [hview]
    exact hrebase
  · change queue.bytes = st.bytes
    rw [hbytes, hst.bytes, hview, map_map]
    rfl
  · exact hlast.symm
  · change (fileDomain ++ frames).length = st.logBytes
    rw [hst.logBytes, length_append]
    unfold Limits.maximumFileSize maximumAllowed at hmaximum
    omega
  · change 0 = st.garbageBytes
    rw [hst.garbageBytes, hcursor, hsum, ← hlength, Nat.sub_self, Nat.zero_mod]

/-- Rebasing the entries does not touch what the indexes depend on. -/
theorem Queue.Indexed.rebase (h : queue.Indexed queue.items)
    (hrebase : (queue.rebase encoded frameSizes lastHash).items = queue.items.map Entry.rebased) :
    (queue.rebase encoded frameSizes lastHash).Indexed
      (queue.rebase encoded frameSizes lastHash).items := by
  have hids : (queue.items.map Entry.rebased).map Entry.id = queue.items.map Entry.id := by
    rw [map_map]
    rfl
  have hfilter (payer : Identifier) :
      (queue.items.map Entry.rebased).filter (fun item => item.payer = payer) =
        (queue.items.filter fun item => item.payer = payer).map Entry.rebased := by
    rw [filter_map]
    rfl
  have hcount (payer : Identifier) : payerItems (queue.items.map Entry.rebased) payer =
      payerItems queue.items payer := by
    rw [payerItems, hfilter, length_map, payerItems]
  have hsize (payer : Identifier) : payerBytes (queue.items.map Entry.rebased) payer =
      payerBytes queue.items payer := by
    rw [payerBytes, hfilter, map_map]
    rfl
  constructor <;> simp only [hrebase, hids, hcount, hsize]
  · exact h.liveIDs
  · exact h.usage
  · exact h.items_le
  · exact h.bytes_le

/-- The entries of a queue in good order can be compacted. -/
theorem Queue.Counted.compactable (h : queue.Counted C J log) :
    Compactable C J queue.limits queue.items := by
  refine ⟨h.nodup, fun item hitem => ?_, h.length_le, h.bytes ▸ h.bytes_le⟩
  have hdecoded := h.decoded item hitem
  exact ⟨hdecoded.envelope, hdecoded.id, rfl, hdecoded.fits⟩

/-- Compaction of a queue in good order always finds an encoding. -/
theorem encodeCompactedFrom_ok
    (hfits : ∀ item ∈ items, frameFixedBodySize + item.encoded.length ≤ 2 ^ 32 - 1)
    (previous : Digest) : ∃ result, encodeCompactedFrom C previous items = .ok result := by
  induction items generalizing previous with
  | nil => exact ⟨_, rfl⟩
  | cons item items ih =>
    have hframe : encodeFrame C frameEnqueue item.encoded previous =
        .ok (frameBytesOf C frameEnqueue item.encoded previous,
          frameDigest C frameEnqueue previous item.encoded) :=
      encodeFrame_ok_iff.mpr ⟨hfits item (by simp), rfl, rfl⟩
    obtain ⟨⟨rest, sizes, last⟩, hrest⟩ := ih
      (fun other hother => hfits other (mem_cons_of_mem _ hother))
      (frameDigest C frameEnqueue previous item.encoded)
    refine ⟨(frameBytesOf C frameEnqueue item.encoded previous ++ rest,
      (frameBytesOf C frameEnqueue item.encoded previous).length :: sizes, last), ?_⟩
    rw [encodeCompactedFrom, hframe]
    simp only [bind, Except.bind, hrest]
    rfl

/-- The queue after the file was replaced by a log without garbage. -/
structure Queue.Compacted (C : Crypto) (J : EnvelopeJson) (queue queue' : Queue) : Prop where
  limits : queue'.limits = queue.limits
  closed : queue'.closed = queue.closed
  items : queue'.items = queue.items.map Entry.rebased
  garbageBytes : queue'.garbageBytes = 0
  inv : ∃ log, queue'.file = fileDomain ++ log ∧ queue'.Inv C J log ∧
    log.length = (queue'.items.map Entry.frameBytes).sum

/-- Compaction, whatever the disk does, leaves a queue in good order: either nothing changed, or the
file is the new log and no garbage is left. -/
theorem Queue.Inv.compactLocked (h : queue.Inv C J log) (outcome : WriteOutcome)
    {err : Option QueueError} {queue' : Queue}
    (hcompact : queue.compactLocked C outcome = (err, queue')) :
    (outcome = .failed ∧ err = some .disk ∧ queue' = queue) ∨
      (outcome = .unsynced ∧ err = some .disk ∧ queue.Compacted C J queue') ∨
      (outcome = .done ∧ err = none ∧ queue'.poisoned = queue.poisoned ∧
        queue.Compacted C J queue') := by
  have hcounted := h.counted
  obtain ⟨⟨frames, sizes, last⟩, hfrom⟩ := encodeCompactedFrom_ok
    (fun item hitem => (hcounted.decoded item hitem).fits) Bytes32.zero
  have hencode : encodeCompacted C queue.items = .ok (fileDomain ++ frames, sizes, last) := by
    unfold encodeCompacted
    rw [hfrom]
    rfl
  have hitems := items_rebase hencode
  obtain ⟨log', hlog', hreplays⟩ :=
    replays_compacted h.valid hcounted.bytes hcounted.compactable hencode
  have hlength : log'.length = ((queue.items.map Entry.rebased).map Entry.frameBytes).sum := by
    obtain ⟨hsizes, hframes, -⟩ := encodeCompactedFrom_sizes hfrom
    rw [← append_cancel_left hlog', hframes, hsizes, map_map]
    rfl
  have hinv (file : Bytes) : ({ queue with file := file }.rebase (fileDomain ++ frames) sizes
      last).Inv C J log' := by
    have hbase : (queue.rebase (fileDomain ++ frames) sizes last).Inv C J log' :=
      ⟨h.valid, hreplays, h.indexed.rebase hitems⟩
    exact hbase.reflag file queue.poisoned _
  unfold Queue.compactLocked at hcompact
  rw [hencode] at hcompact
  cases outcome
  all_goals
    obtain ⟨rfl, rfl⟩ := hcompact
  case failed => exact .inl ⟨rfl, rfl, rfl⟩
  case done =>
    right; right
    exact ⟨rfl, rfl, rfl, rfl, rfl, hitems, rfl, log', hlog', hinv _, hitems ▸ hlength⟩
  case unsynced =>
    right; left
    exact ⟨rfl, rfl, rfl, rfl, hitems, rfl, log', hlog', hinv _, hitems ▸ hlength⟩

end NatP2P.Billing
