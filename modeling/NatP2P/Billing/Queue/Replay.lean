import NatP2P.Billing.Queue.Frame
import NatP2P.Common.KeyedList
import NatP2P.Common.Slots

/-!
# The replayed log as a list of entries

`replayWAL` keeps every entry it ever saw, a map of the live ones and a list of identifiers for each
channel. `Consistent` says that these three are views of one list, `ReplayState.items`, and that the
counters are sums over it. Every frame keeps it. On consistent states the two frame types have a
simple meaning: `enqueue` appends an entry and `remove` takes out the head of its channel.
-/

namespace NatP2P.Billing

open List GoMap ReplayState

variable {C : Crypto} {J : EnvelopeJson} {limits : Limits} {st st' : ReplayState} {item : Entry}
  {index frameBytes : ℕ} {payload block bs : Bytes}

/-! ## Live entries of the state list -/

theorem mem_items : item ∈ st.items ↔ ⟨item, false⟩ ∈ st.states := by
  simp only [items, mem_map, mem_filter, Bool.not_eq_true']
  constructor
  · rintro ⟨⟨_, removed⟩, ⟨hmem, rfl⟩, rfl⟩
    exact hmem
  · intro hmem
    exact ⟨_, ⟨hmem, rfl⟩, rfl⟩

/-- Marking the state of a live entry takes the entry out of the list of live ones. -/
theorem liveEntries_set {states : List ReplayEntry} (hstate : states[index]? = some ⟨item, false⟩)
    (hnodup : (((states.filter fun state => !state.removed).map ReplayEntry.entry).map
      Entry.id).Nodup) :
    ((states.set index ⟨item, true⟩).filter fun state => !state.removed).map ReplayEntry.entry =
      without Entry.id ((states.filter fun state => !state.removed).map ReplayEntry.entry)
        item.id := by
  induction states generalizing index with
  | nil => simp at hstate
  | cons state states ih =>
    cases index with
    | zero =>
      obtain rfl : state = ⟨item, false⟩ := by simpa using hstate
      have hhead : ((⟨item, false⟩ :: states).filter fun state => !state.removed).map
          ReplayEntry.entry =
          item :: (states.filter fun state => !state.removed).map ReplayEntry.entry := by simp
      rw [hhead] at ⊢
      rw [without_cons_self hnodup]
      simp
    | succ index =>
      obtain ⟨entry, removed⟩ := state
      cases removed with
      | true => simpa using ih hstate (by simpa using hnodup)
      | false =>
        have hhead (rest : List ReplayEntry) :
            ((⟨entry, false⟩ :: rest).filter fun state => !state.removed).map ReplayEntry.entry =
            entry :: (rest.filter fun state => !state.removed).map ReplayEntry.entry := by simp
        rw [set_cons_succ, hhead, hhead]
        rw [hhead, map_cons, nodup_cons] at hnodup
        have hmem : item ∈ (states.filter fun state => !state.removed).map ReplayEntry.entry :=
          mem_map.mpr ⟨⟨item, false⟩, mem_filter.mpr
            ⟨mem_of_getElem? hstate, rfl⟩, rfl⟩
        have hne : entry.id ≠ item.id := fun heq =>
          hnodup.1 (heq ▸ mem_map_of_mem hmem)
        rw [without_cons_of_ne hne, ih hstate hnodup.2]

/-! ## Consistency -/

/-- The entry is what its stored bytes decode to, and a frame holds it. -/
structure Entry.Decoded (C : Crypto) (J : EnvelopeJson) (item : Entry) : Prop where
  envelope : decodeEnvelope C J item.encoded = .ok item.envelope
  id : item.envelope.voucher.id C = .ok item.id
  frameBytes : item.frameBytes = frameOverhead + item.encoded.length
  fits : frameFixedBodySize + item.encoded.length ≤ 2 ^ 32 - 1

/-- The live map, the channel lists and the counters of a replay agree with the list of live
entries. The two counters of log bytes are exact modulo the word size. -/
structure ReplayState.Consistent (C : Crypto) (J : EnvelopeJson) (limits : Limits)
    (st : ReplayState) : Prop where
  live : ∀ voucherID index, st.live.get voucherID = some index ↔
    ∃ item, st.states[index]? = some ⟨item, false⟩ ∧ item.id = voucherID
  nodup : (st.items.map Entry.id).Nodup
  channels : ∀ key, st.channel key = (st.items.filter fun item => item.channel = key).map Entry.id
  decoded : ∀ item ∈ st.items, item.Decoded C J
  bytes : st.bytes = (st.items.map fun item => item.encoded.length).sum
  length_le : st.items.length ≤ limits.maxItems.toNat
  bytes_le : st.bytes ≤ limits.maxBytes.toNat
  validBytes_ge : fileDomain.length + (st.items.map Entry.frameBytes).sum ≤ st.validBytes
  logBytes : st.logBytes = st.validBytes % 2 ^ 64
  garbageBytes : st.garbageBytes =
    (st.validBytes - (fileDomain.length + (st.items.map Entry.frameBytes).sum)) % 2 ^ 64

namespace ReplayState.Consistent

theorem start : (ReplayState.start).Consistent C J limits := by
  refine ⟨?_, ?_, ?_, ?_, ?_, ?_, ?_, ?_, ?_, ?_⟩ <;> simp [ReplayState.start, ReplayState.items,
    ReplayState.channel, fileDomain]
  decide

/-- The live map holds exactly the identifiers of the live entries. -/
theorem get_isSome (h : st.Consistent C J limits) (voucherID : Identifier) :
    (st.live.get voucherID).isSome ↔ voucherID ∈ st.items.map Entry.id := by
  rw [Option.isSome_iff_exists]
  constructor
  · rintro ⟨index, hget⟩
    obtain ⟨item, hstate, rfl⟩ := (h.live _ _).mp hget
    exact mem_map_of_mem (mem_items.mpr (mem_of_getElem? hstate))
  · intro hmem
    obtain ⟨item, hitem, rfl⟩ := mem_map.mp hmem
    obtain ⟨index, hstate⟩ := mem_iff_getElem?.mp (mem_items.mp hitem)
    exact ⟨index, (h.live _ _).mpr ⟨item, hstate, rfl⟩⟩

theorem len_live (h : st.Consistent C J limits) : st.live.len = st.items.length := by
  have hkeys : st.live.keys = (st.items.map Entry.id).toFinset := by
    ext voucherID
    rw [st.live.mem_keys, mem_toFinset, ← h.get_isSome]
  rw [len, hkeys, toFinset_card_of_nodup h.nodup, length_map]

end ReplayState.Consistent

/-! ## Enqueue frames -/

/-- The state after the enqueue case for `item`. -/
def ReplayState.push (st : ReplayState) (item : Entry) : ReplayState :=
  { st with
    states := st.states ++ [⟨item, false⟩]
    live := st.live.set item.id st.states.length
    channels := st.channels.set item.channel (st.channel item.channel ++ [item.id])
    bytes := add64 st.bytes item.encoded.length }

theorem items_push (st : ReplayState) (item : Entry) : (st.push item).items = st.items ++ [item] := by
  simp [items, push]

/-- When the enqueue case accepts a payload, and what it does then. -/
theorem ReplayState.Consistent.enqueue_ok_iff (h : st.Consistent C J limits) :
    st.enqueue C J limits payload frameBytes = .ok st' ↔
      ∃ envelope voucherID, decodeEnvelope C J payload = .ok envelope ∧
        envelope.voucher.id C = .ok voucherID ∧ voucherID ∉ st.items.map Entry.id ∧
        st.items.length < limits.maxItems.toNat ∧
        st.bytes + payload.length ≤ limits.maxBytes.toNat ∧
        st' = st.push ⟨envelope, voucherID, payload, frameBytes⟩ := by
  have hsub := sub64_eq h.bytes_le limits.maxBytes.toNat_lt
  have hle := h.bytes_le
  unfold enqueue
  simp only [bind_ok_iff, exists_unit_iff, mapError_ok_iff, check_ok_iff, pure_ok_iff,
    h.get_isSome, h.len_live, hsub]
  constructor
  · rintro ⟨envelope, henvelope, voucherID, hid, hlive, hlimits, rfl⟩
    exact ⟨envelope, voucherID, henvelope, hid, hlive, by omega, by omega, rfl⟩
  · rintro ⟨envelope, voucherID, henvelope, hid, hlive, hitems, hbytes, rfl⟩
    exact ⟨envelope, henvelope, voucherID, hid, hlive, by omega, rfl⟩

theorem ReplayState.Consistent.push (h : st.Consistent C J limits)
    (hdecoded : item.Decoded C J) (hnew : item.id ∉ st.items.map Entry.id)
    (hitems : st.items.length < limits.maxItems.toNat)
    (hbytes : st.bytes + item.encoded.length ≤ limits.maxBytes.toNat) (hash : Digest) :
    ((st.push item).advance hash item.frameBytes).Consistent C J limits := by
  have hmax := limits.maxBytes.toNat_lt
  have hview : ((st.push item).advance hash item.frameBytes).items = st.items ++ [item] :=
    items_push st item
  -- below the limit of the bytes the sum does not wrap
  have hsum : ((st.push item).advance hash item.frameBytes).bytes =
      st.bytes + item.encoded.length := add64_eq (by omega)
  have hvalid := h.validBytes_ge
  constructor
  case live =>
    intro voucherID index
    change (st.live.set item.id st.states.length).get voucherID = some index ↔
      ∃ item', (st.states ++ [⟨item, false⟩])[index]? = some ⟨item', false⟩ ∧ item'.id = voucherID
    by_cases hid : voucherID = item.id
    · subst hid
      rw [get_set_self, Option.some.injEq]
      constructor
      · rintro rfl
        exact ⟨item, by simp, rfl⟩
      · rintro ⟨item', hstate, heq⟩
        rcases getElem?_append_cases hstate with ⟨hlast, -⟩ | ⟨-, hold⟩
        · exact hlast.symm
        · -- an older state with this identifier would be live, which the caller excludes
          have hmem := mem_items.mpr (mem_of_getElem? hold)
          exact absurd (heq ▸ mem_map_of_mem hmem) hnew
    · rw [get_set_ne hid, h.live]
      constructor
      · rintro ⟨item', hstate, rfl⟩
        exact ⟨item', getElem?_append_of_some hstate _, rfl⟩
      · rintro ⟨item', hstate, rfl⟩
        rcases getElem?_append_cases hstate with ⟨-, hlast⟩ | ⟨-, hold⟩
        · cases hlast
          exact absurd rfl hid
        · exact ⟨item', hold, rfl⟩
  case nodup =>
    rw [hview, map_append]
    exact h.nodup.append (nodup_singleton _) (by simpa using hnew)
  case channels =>
    intro key
    change ((st.channels.set item.channel (st.channel item.channel ++ [item.id])).get key).getD [] = _
    rw [hview, filter_append, map_append, ← h.channels]
    by_cases hkey : key = item.channel
    · subst hkey
      simp
    · rw [get_set_ne hkey, filter_cons_of_neg (by simpa using Ne.symm hkey)]
      simp [ReplayState.channel]
  case decoded =>
    intro item' hitem'
    rw [hview, mem_append, mem_singleton] at hitem'
    rcases hitem' with hitem' | rfl
    · exact h.decoded item' hitem'
    · exact hdecoded
  case bytes =>
    rw [hview, map_append, sum_append, ← h.bytes]
    simpa using hsum
  case length_le =>
    rw [hview, length_append, length_singleton]
    omega
  case bytes_le => rwa [hsum]
  case validBytes_ge =>
    rw [hview]
    simp [ReplayState.advance, ReplayState.push]
    omega
  case logBytes =>
    change add64 st.logBytes item.frameBytes = (st.validBytes + item.frameBytes) % 2 ^ 64
    rw [h.logBytes, add64, Nat.mod_add_mod]
  case garbageBytes =>
    change st.garbageBytes = (st.validBytes + item.frameBytes - _) % 2 ^ 64
    rw [hview, h.garbageBytes]
    simp
    omega

/-! ## Remove frames -/

/-- The state after the remove case for the entry at `index`. -/
def ReplayState.drop (st : ReplayState) (index : ℕ) (item : Entry) (frameBytes : ℕ) : ReplayState :=
  { st with
    states := st.states.set index ⟨item, true⟩
    live := st.live.delete item.id
    channels := st.channels.set item.channel (st.channel item.channel).tail
    bytes := sub64 st.bytes item.encoded.length
    garbageBytes := add64 st.garbageBytes (add64 item.frameBytes frameBytes) }

/-- The entry is the oldest live one of its channel. -/
def IsChannelHead (items : List Entry) (item : Entry) : Prop :=
  ((items.filter fun other => other.channel = item.channel).map Entry.id).head? = some item.id

/-- When the remove case accepts a payload, and what it does then. -/
theorem ReplayState.Consistent.remove_ok_iff (h : st.Consistent C J limits) :
    st.remove payload frameBytes = .ok st' ↔
      ∃ index item, payload = item.id.val ∧ st.states[index]? = some ⟨item, false⟩ ∧
        IsChannelHead st.items item ∧ st' = st.drop index item frameBytes := by
  unfold remove IsChannelHead
  simp only [check_bind_ok_iff, ne_eq, Decidable.not_not]
  constructor
  · rintro ⟨hlength, hmatch⟩
    cases hget : st.live.get (Bytes32.copy payload) with
    | none => simp [hget] at hmatch
    | some index =>
      obtain ⟨item, hstate, hid⟩ := (h.live _ _).mp hget
      simp only [hget, Option.bind_some, hstate, Option.map_some, check_bind_ok_iff, Decidable.not_not, pure_ok_iff] at hmatch
      obtain ⟨hhead, rfl⟩ := hmatch
      refine ⟨index, item, ?_, hstate, ?_, ?_⟩
      · rw [hid]
        simp [Bytes32.copy, hlength, take_of_length_le]
      · rw [← h.channels, hhead, hid]
      · rw [drop, hid]
  · rintro ⟨index, item, rfl, hstate, hhead, rfl⟩
    have hget : st.live.get item.id = some index := (h.live _ _).mpr ⟨item, hstate, rfl⟩
    refine ⟨Bytes32.length_val _, ?_⟩
    simp only [Bytes32.copy_val, hget, Option.bind_some, hstate, Option.map_some,
      check_bind_ok_iff, Decidable.not_not, pure_ok_iff]
    exact ⟨by rw [h.channels, hhead], rfl⟩

theorem ReplayState.Consistent.items_drop (h : st.Consistent C J limits)
    (hstate : st.states[index]? = some ⟨item, false⟩) (frameBytes : ℕ) :
    (st.drop index item frameBytes).items = without Entry.id st.items item.id :=
  liveEntries_set hstate h.nodup

/-- Without the head of a channel, the channel is its tail and every other channel is the same. -/
theorem map_id_filter_without {items : List Entry} (hnodup : (items.map Entry.id).Nodup)
    (hmem : item ∈ items) (hhead : IsChannelHead items item) (key : ChannelKey) :
    ((without Entry.id items item.id).filter fun other => other.channel = key).map Entry.id =
      if key = item.channel then
        ((items.filter fun other => other.channel = item.channel).map Entry.id).tail
      else (items.filter fun other => other.channel = key).map Entry.id := by
  have hcomm : (without Entry.id items item.id).filter (fun other => other.channel = key) =
      without Entry.id (items.filter fun other => other.channel = key) item.id := by
    simp only [without, filter_filter, Bool.and_comm]
  rw [hcomm]
  have hsub : ((items.filter fun other => other.channel = key).map Entry.id).Nodup :=
    hnodup.sublist (filter_sublist.map _)
  split_ifs with hkey
  · subst hkey
    unfold IsChannelHead at hhead
    cases hchannel : items.filter fun other => other.channel = item.channel with
    | nil => simp [hchannel] at hhead
    | cons first rest =>
      rw [hchannel] at hhead hsub
      have hfirst : first.id = item.id := by simpa using hhead
      rw [← hfirst, without_cons_self hsub, map_cons, tail_cons]
  · -- the entry with this identifier belongs to another channel
    rw [without_eq_self]
    intro hin
    obtain ⟨other, hother, hid⟩ := mem_map.mp hin
    rw [mem_filter] at hother
    have heq : other = item := inj_on_of_nodup_map hnodup hother.1 hmem hid
    subst heq
    exact hkey (of_decide_eq_true hother.2).symm

theorem ReplayState.Consistent.drop (h : st.Consistent C J limits)
    (hstate : st.states[index]? = some ⟨item, false⟩) (hhead : IsChannelHead st.items item)
    (hash : Digest) (frameBytes : ℕ) :
    ((st.drop index item frameBytes).advance hash frameBytes).Consistent C J limits := by
  have hmem : item ∈ st.items := mem_items.mpr (mem_of_getElem? hstate)
  have hview : ((st.drop index item frameBytes).advance hash frameBytes).items =
      without Entry.id st.items item.id := h.items_drop hstate frameBytes
  have hget : st.live.get item.id = some index := (h.live _ _).mpr ⟨item, hstate, rfl⟩
  have hencoded := sum_map_eq_add_without h.nodup hmem fun item => item.encoded.length
  have hframes := sum_map_eq_add_without h.nodup hmem Entry.frameBytes
  have hlength := length_eq_add_without h.nodup hmem
  have hle := h.bytes_le
  have hmax := limits.maxBytes.toNat_lt
  have hcount := h.length_le
  have hvalid := h.validBytes_ge
  rw [← h.bytes] at hencoded
  have hbytes : ((st.drop index item frameBytes).advance hash frameBytes).bytes =
      st.bytes - item.encoded.length := sub64_eq (by omega) (by omega)
  constructor
  case live =>
    intro voucherID index'
    change (st.live.delete item.id).get voucherID = some index' ↔
      ∃ item', (st.states.set index ⟨item, true⟩)[index']? = some ⟨item', false⟩ ∧
        item'.id = voucherID
    have hset (item' : Entry) :
        (st.states.set index ⟨item, true⟩)[index']? = some ⟨item', false⟩ ↔
          index' ≠ index ∧ st.states[index']? = some ⟨item', false⟩ := by
      rw [getElem?_set]
      split_ifs with heq hlt <;> simp_all [eq_comm]
    simp only [hset]
    by_cases hid : voucherID = item.id
    · subst hid
      rw [get_delete_self]
      constructor
      · intro hnone
        cases hnone
      · rintro ⟨item', ⟨hne, hstate'⟩, heq⟩
        have := (h.live _ _).mpr ⟨item', hstate', heq⟩
        rw [hget, Option.some.injEq] at this
        exact absurd this.symm hne
    · rw [get_delete_ne hid, h.live]
      constructor
      · rintro ⟨item', hstate', rfl⟩
        refine ⟨item', ⟨?_, hstate'⟩, rfl⟩
        rintro rfl
        rw [hstate] at hstate'
        exact hid (by injection hstate' with hstate'; injection hstate' with hstate'; rw [hstate'])
      · rintro ⟨item', ⟨-, hstate'⟩, rfl⟩
        exact ⟨item', hstate', rfl⟩
  case nodup =>
    rw [hview]
    exact nodup_without h.nodup _
  case channels =>
    intro key
    change ((st.channels.set item.channel (st.channel item.channel).tail).get key).getD [] = _
    rw [hview, map_id_filter_without h.nodup hmem hhead]
    split_ifs with hkey
    · rw [hkey, get_set_self, Option.getD_some, h.channels]
    · rw [get_set_ne hkey, ← h.channels]
      rfl
  case decoded =>
    intro item' hitem'
    rw [hview, mem_without] at hitem'
    exact h.decoded item' hitem'.1
  case bytes =>
    rw [hview]
    omega
  case length_le =>
    rw [hview]
    omega
  case bytes_le =>
    omega
  case validBytes_ge =>
    rw [hview]
    change _ ≤ st.validBytes + frameBytes
    omega
  case logBytes =>
    change add64 st.logBytes frameBytes = (st.validBytes + frameBytes) % 2 ^ 64
    rw [h.logBytes, add64, Nat.mod_add_mod]
  case garbageBytes =>
    -- both the entry's own frame and the remove frame are dead from here on
    change add64 st.garbageBytes (add64 item.frameBytes frameBytes) =
      (st.validBytes + frameBytes - _) % 2 ^ 64
    rw [hview, h.garbageBytes, add64, add64]
    omega

/-! ## Every frame keeps the state consistent -/

theorem ReplayState.Consistent.takes (h : st.Consistent C J limits)
    (htakes : Takes (replayFrame C J limits) st block st') :
    st'.Consistent C J limits ∧ st'.validBytes = st.validBytes + block.length := by
  obtain ⟨frameType, payload, storedHash, applied, hlength, hlimit, happly, rfl⟩ :=
    takes_replayFrame htakes
  unfold apply at happly
  split_ifs at happly with henqueue hremove
  · obtain ⟨envelope, voucherID, hdecode, hid, hnew, hitems, hbytes, rfl⟩ :=
      h.enqueue_ok_iff.mp happly
    have hfits : frameFixedBodySize + payload.length ≤ 2 ^ 32 - 1 := by
      unfold maximumFrameBody at hlimit
      omega
    have hdecoded : Entry.Decoded C J ⟨envelope, voucherID, payload, block.length⟩ :=
      ⟨hdecode, hid, hlength, hfits⟩
    exact ⟨h.push hdecoded hnew hitems hbytes storedHash, rfl⟩
  · obtain ⟨index, item, -, hstate, hhead, rfl⟩ := h.remove_ok_iff.mp happly
    exact ⟨h.drop hstate hhead storedHash block.length, rfl⟩

/-- The state behind any stretch of whole frames is consistent. -/
theorem consistent_of_scans
    (h : Scans (replayFrame C J limits) ReplayState.start bs st) : st.Consistent C J limits :=
  h.invariant (fun _ _ _ hst htakes => (hst.takes htakes).1) .start

/-- The cursor is behind the last whole frame. -/
theorem validBytes_of_scans (h : Scans (replayFrame C J limits) st bs st')
    (hst : st.Consistent C J limits) : st'.validBytes = st.validBytes + bs.length := by
  induction h with
  | nil st => simp
  | cons head _ ih =>
    rw [ih (hst.takes head).1, (hst.takes head).2, length_append, Nat.add_assoc]

end NatP2P.Billing
