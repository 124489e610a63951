import NatP2P.Billing.Queue.Operations

/-!
# Opening a queue

Whatever file `Open` accepts, a log, a log with a torn tail or a legacy file, the queue it returns
satisfies the invariant with a file that is exactly its log.
-/

namespace NatP2P.Billing

open List Queue

variable {C : Crypto} {J : EnvelopeJson} {limits : Limits} {queue queue' : Queue}
  {items done front back : List Entry} {log encoded file : Bytes} {outcome : WriteOutcome}
  {result : Except QueueError Queue}

/-! ## The indexes are rebuilt -/

/-- What the last loop of `Open` does: it fills the indexes and changes nothing else. -/
theorem Queue.indexItems_ok (hindexed : queue.Indexed done)
    (hvalid : queue.limits.Valid) (hdone : (done.map Entry.id).Nodup)
    (hsize : ∀ item ∈ items, item.encoded.length ≤ queue.limits.maxBytes.toNat)
    (h : queue.indexItems items = .ok queue') :
    (∃ liveIDs payerUsage, queue' = { queue with liveIDs := liveIDs, payerUsage := payerUsage }) ∧
      queue'.Indexed (done ++ items) ∧ ((done ++ items).map Entry.id).Nodup := by
  induction items generalizing queue done with
  | nil =>
    obtain rfl : queue = queue' := by simpa [indexItems] using h
    rw [append_nil]
    exact ⟨⟨_, _, rfl⟩, hindexed, hdone⟩
  | cons item items ih =>
    have hlive := hvalid.maximumFileSize_le
    unfold Limits.maximumFileSize Limits.liveMaximum maximumAllowed at hlive
    have hitem := hsize item (by simp)
    have hitemsLe := hindexed.items_le item.payer
    have hbytesLe := hindexed.bytes_le item.payer
    have hmaxItems := queue.maxItemsPerPayer_le hvalid
    have hmaxBytes := queue.maxBytesPerPayer_le hvalid
    rw [indexItems] at h
    simp only [check_bind_ok_iff, not_or, gt_iff_lt, Nat.not_lt]
      at h
    obtain ⟨hfresh, ⟨hcount, hbytes⟩, hrest⟩ := h
    rw [hindexed.usage_eq] at hcount hbytes
    rw [hindexed.liveIDs] at hfresh
    dsimp only at hcount hbytes
    rw [frameOverhead_eq] at hlive
    rw [add64_eq (by omega)] at hcount hbytes
    have hnext := hindexed.push hvalid (Nat.lt_of_succ_le hcount) hbytes
    have hnodup : ((done ++ [item]).map Entry.id).Nodup := by
      rw [map_append]
      exact hdone.append (nodup_singleton _) (by simpa using hfresh)
    obtain ⟨hsame, hall, hids⟩ := ih hnext hvalid hnodup
      (fun other hother => hsize other (mem_cons_of_mem _ hother)) hrest
    rw [append_assoc] at hall hids
    exact ⟨hsame, hall, hids⟩

theorem Queue.indexed_blank (limits : Limits) (file : Bytes) : (Queue.blank limits file).Indexed [] := by
  constructor <;> simp [blank, payerItems, payerBytes]

theorem payerItems_mono (payer : Identifier) :
    payerItems front payer ≤ payerItems (front ++ back) payer := by
  rw [payerItems, payerItems, filter_append, length_append]
  omega

theorem payerBytes_mono (payer : Identifier) :
    payerBytes front payer ≤ payerBytes (front ++ back) payer := by
  rw [payerBytes, payerBytes, filter_append, map_append, sum_append]
  omega

/-- The last loop of `Open` accepts entries that are distinct and within the payers' limits. -/
theorem Queue.indexItems_exists (hindexed : queue.Indexed done)
    (hvalid : queue.limits.Valid) (hnodup : ((done ++ items).map Entry.id).Nodup)
    (hitems : ∀ payer, payerItems (done ++ items) payer ≤ queue.maxItemsPerPayer)
    (hbytes : ∀ payer, payerBytes (done ++ items) payer ≤ queue.maxBytesPerPayer) :
    ∃ queue', queue.indexItems items = .ok queue' := by
  induction items generalizing queue done with
  | nil => exact ⟨queue, rfl⟩
  | cons item items ih =>
    have hsplit : done ++ item :: items = done ++ [item] ++ items := by simp
    simp only [hsplit] at hnodup hitems hbytes
    have hcount := (payerItems_mono item.payer).trans (hitems item.payer)
    have hsize := (payerBytes_mono item.payer).trans (hbytes item.payer)
    rw [payerItems_append, if_pos rfl] at hcount
    rw [payerBytes_append, if_pos rfl] at hsize
    have hmaxItems := queue.maxItemsPerPayer_lt hvalid
    have hmaxBytes := queue.maxBytesPerPayer_lt hvalid
    have hfresh : item.id ∉ done.map Entry.id := by
      rw [map_append, nodup_append, map_append, nodup_append] at hnodup
      intro hmem
      exact hnodup.1.2.2 _ hmem _ (by simp) rfl
    obtain ⟨queue', hqueue'⟩ := ih (hindexed.push hvalid (Nat.lt_of_succ_le hcount) hsize) hvalid
      hnodup hitems hbytes
    refine ⟨queue', ?_⟩
    rw [indexItems]
    simp only [check_bind_ok_iff, hindexed.liveIDs]
    refine ⟨hfresh, ?_, hqueue'⟩
    rw [hindexed.usage_eq]
    dsimp only
    rw [add64_eq (by omega), add64_eq (by omega)]
    omega

/-- The indexes are determined by the entries. -/
theorem Queue.Indexed.unique (h : queue.Indexed items) (h' : queue'.Indexed items) :
    queue.liveIDs = queue'.liveIDs ∧ queue.payerUsage = queue'.payerUsage := by
  constructor
  · ext voucherID
    rw [h.liveIDs, h'.liveIDs]
  · apply GoMap.ext
    intro payer
    rw [h.usage, h'.usage]

/-! ## Legacy files -/

/-- The items of a legacy file decode to themselves and stay within the limits. -/
theorem decodeLegacyItems_ok {remaining index payloadBytes total : ℕ} {rest : Bytes}
    (hpayload : payloadBytes ≤ limits.maxBytes.toNat)
    (h : decodeLegacyItems C J limits remaining index payloadBytes rest = .ok (items, total)) :
    items.length = remaining ∧
      total = payloadBytes + (items.map fun item => item.encoded.length).sum ∧
      total ≤ limits.maxBytes.toNat ∧
      ∀ item ∈ items, decodeEnvelope C J item.encoded = .ok item.envelope ∧
        item.envelope.voucher.id C = .ok item.id := by
  induction remaining generalizing index payloadBytes rest items with
  | zero =>
    rw [decodeLegacyItems] at h
    simp only [bind_ok_iff, exists_unit_iff, pure_ok_iff, Prod.mk.injEq] at h
    obtain ⟨-, rfl, rfl⟩ := h
    exact ⟨rfl, by simp, hpayload, by simp⟩
  | succ remaining ih =>
    have hword := limits.maxBytes.toNat_lt
    rw [decodeLegacyItems] at h
    simp only [bind_ok_iff, exists_unit_iff, check_ok_iff, mapError_ok_iff, Prod.exists,
      pure_ok_iff, Prod.mk.injEq, sub64_eq hpayload hword] at h
    obtain ⟨-, hlength, envelope, hdecode, voucherID, hid, found, sum, hrest, rfl, rfl⟩ := h
    set length := getBE (rest.take 4) with hdef
    have htake : ((rest.drop 4).take length).length = length := by
      rw [length_take]
      omega
    rw [add64_eq (by omega)] at hrest
    obtain ⟨hcount, htotal, hle, hall⟩ := ih (by omega) hrest
    refine ⟨by rw [length_cons, hcount], ?_, hle, ?_⟩
    · rw [map_cons, sum_cons, htake]
      omega
    · exact forall_mem_cons.mpr ⟨⟨hdecode, hid⟩, hall⟩

/-! ## The switch on the domain -/

/-- A queue as the switch leaves it: its indexes are empty, and it mirrors its own file, provided
its identifiers are distinct. -/
structure Queue.Loaded (C : Crypto) (J : EnvelopeJson) (limits : Limits) (queue : Queue) : Prop where
  limits_eq : queue.limits = limits
  liveIDs : queue.liveIDs = ∅
  payerUsage : queue.payerUsage = .empty
  closed : queue.closed = false
  poisoned : queue.poisoned = none
  sizes : ∀ item ∈ queue.items, item.encoded.length ≤ limits.maxBytes.toNat
  file_le : queue.file.length ≤ limits.maximumFileSize
  mirrors : (queue.items.map Entry.id).Nodup → ∃ log, queue.file = fileDomain ++ log ∧
    ∃ st, Scans (replayFrame C J limits) ReplayState.start log st ∧ queue.Mirrors st

theorem encoded_length_le {item : Entry} (hmem : item ∈ items) {bound : ℕ}
    (hsum : (items.map fun item => item.encoded.length).sum ≤ bound) :
    item.encoded.length ≤ bound :=
  (le_sum_of_mem (mem_map.mpr ⟨item, hmem, rfl⟩)).trans hsum

theorem Queue.loaded_ofReplay {st : ReplayState}
    (hscans : Scans (replayFrame C J limits) ReplayState.start log st)
    (hsize : (fileDomain ++ log).length ≤ limits.maximumFileSize) :
    (Queue.ofReplay limits (fileDomain ++ log) st).Loaded C J limits := by
  have hst := consistent_of_scans hscans
  refine ⟨rfl, rfl, rfl, rfl, rfl, fun item hmem => ?_, hsize, fun _ => ⟨log, rfl, st, hscans, ?_⟩⟩
  · exact encoded_length_le hmem (hst.bytes ▸ hst.bytes_le)
  · exact ⟨rfl, rfl, rfl, rfl, rfl⟩

/-- A log is left as it is, or without its torn tail. -/
theorem Queue.loadLog_cases (h : Queue.loadLog C J limits outcome encoded = (result, file)) :
    (file = encoded ∧ ∀ queue, result ≠ .ok queue) ∨ ∃ st log tail,
      replayWAL C J limits encoded = .ok st ∧ encoded = fileDomain ++ (log ++ tail) ∧
        Scans (replayFrame C J limits) ReplayState.start log st ∧ file = fileDomain ++ log ∧
        ∀ queue, result = .ok queue → queue = Queue.ofReplay limits file st := by
  unfold loadLog at h
  split at h
  · cases h
    exact .inl ⟨rfl, nofun⟩
  · next st hreplay =>
    obtain ⟨log, tail, rfl, hscans, hcursor⟩ := scans_of_replayWAL hreplay
    have hcut : (fileDomain ++ (log ++ tail)).take st.validBytes = fileDomain ++ log := by
      rw [hcursor, ← append_assoc, take_left]
    rw [hcut] at h
    split_ifs at h with hwhole
    · have hnil : tail = [] := by
        simp only [hcursor, length_append] at hwhole
        exact length_eq_zero_iff.mp (by omega)
      cases h
      exact .inr ⟨st, log, tail, hreplay, rfl, hscans, by rw [hnil, append_nil],
        by rintro _ ⟨rfl⟩; rfl⟩
    · cases outcome with
      | done =>
        cases h
        exact .inr ⟨st, log, tail, hreplay, rfl, hscans, rfl, by rintro _ ⟨rfl⟩; rfl⟩
      | unsynced =>
        cases h
        exact .inr ⟨st, log, tail, hreplay, rfl, hscans, rfl, nofun⟩
      | failed =>
        cases h
        exact .inl ⟨rfl, nofun⟩

theorem Queue.loadLog_ok (hsize : encoded.length ≤ limits.maximumFileSize)
    (h : Queue.loadLog C J limits outcome encoded = (.ok queue, file)) :
    file = queue.file ∧ queue.Loaded C J limits ∧
      ∃ st, replayWAL C J limits encoded = .ok st ∧ queue = Queue.ofReplay limits queue.file st := by
  rcases loadLog_cases h with ⟨-, hnot⟩ | ⟨st, log, tail, hreplay, rfl, hscans, rfl, hqueue⟩
  · exact absurd rfl (hnot queue)
  · obtain rfl := hqueue queue rfl
    refine ⟨rfl, loaded_ofReplay hscans ?_, st, hreplay, rfl⟩
    rw [← append_assoc, length_append] at hsize
    omega

/-- A compaction leaves the file as it is, or replaces it. -/
theorem Queue.compactLocked_cases {err : Option QueueError}
    (h : queue.compactLocked C outcome = (err, queue')) :
    (queue'.file = queue.file ∧ err ≠ none) ∨ ∃ encoded frameSizes lastHash,
      encodeCompacted C queue.items = .ok (encoded, frameSizes, lastHash) ∧
        queue' = { queue.rebase encoded frameSizes lastHash with file := encoded } := by
  unfold compactLocked at h
  split at h
  · cases h
    exact .inl ⟨rfl, nofun⟩
  · next encoded frameSizes lastHash hencode =>
    cases outcome with
    | done | unsynced =>
      cases h
      exact .inr ⟨encoded, frameSizes, lastHash, hencode, rfl⟩
    | failed =>
      cases h
      exact .inl ⟨rfl, nofun⟩

/-- A legacy file is left as it is, or replaced by a log of its items. -/
theorem Queue.loadLegacy_cases (h : Queue.loadLegacy C J limits outcome encoded = (result, file)) :
    (file = encoded ∧ ∀ queue, result ≠ .ok queue) ∨ ∃ items payloadBytes frameSizes lastHash,
      encodeCompacted C items = .ok (file, frameSizes, lastHash) ∧
        items.length ≤ limits.maxItems.toNat ∧
        payloadBytes = (items.map fun item => item.encoded.length).sum ∧
        payloadBytes ≤ limits.maxBytes.toNat ∧
        (∀ item ∈ items, decodeEnvelope C J item.encoded = .ok item.envelope ∧
          item.envelope.voucher.id C = .ok item.id) ∧
        ∀ queue, result = .ok queue → queue =
          { ({ blank limits encoded with items := items, bytes := payloadBytes } : Queue).rebase file
              frameSizes lastHash with file := file } := by
  unfold loadLegacy at h
  split at h
  · cases h
    exact .inl ⟨rfl, by rintro _ ⟨⟩⟩
  · next items payloadBytes hdecode =>
    unfold decodeLegacyFile at hdecode
    simp only [check_bind_ok_iff, not_or, gt_iff_lt, Nat.not_lt]
      at hdecode
    obtain ⟨-, -, -, ⟨hcount, -⟩, hitems⟩ := hdecode
    obtain ⟨hlength, htotal, hle, hdecoded⟩ := decodeLegacyItems_ok (Nat.zero_le _) hitems
    rw [Nat.zero_add] at htotal
    split at h
    · next compacted hcompact =>
      cases h
      rcases compactLocked_cases hcompact with ⟨-, hnot⟩ | ⟨_, sizes, last, hencode, rfl⟩
      · exact absurd rfl hnot
      · exact .inr ⟨items, payloadBytes, sizes, last, hencode, hlength ▸ hcount, htotal, hle,
          hdecoded, by rintro _ ⟨rfl⟩; rfl⟩
    · next compacted hcompact =>
      cases h
      rcases compactLocked_cases hcompact with ⟨hfile, -⟩ | ⟨_, sizes, last, hencode, rfl⟩
      · exact .inl ⟨hfile, by rintro _ ⟨⟩⟩
      · exact .inr ⟨items, payloadBytes, sizes, last, hencode, hlength ▸ hcount, htotal, hle,
          hdecoded, by rintro _ ⟨⟩⟩

/-- A legacy file is replaced by a log of its items. -/
theorem Queue.loadLegacy_ok (hvalid : limits.Valid)
    (h : Queue.loadLegacy C J limits outcome encoded = (.ok queue, file)) :
    file = queue.file ∧ queue.Loaded C J limits ∧ queue.garbageBytes = 0 := by
  rcases loadLegacy_cases h with ⟨-, hnot⟩ |
    ⟨items, total, sizes, last, hencode, hcount, htotal, hle, hdecoded, hqueue⟩
  · exact absurd rfl (hnot queue)
  obtain rfl := hqueue queue rfl
  obtain ⟨frames, hframes, hbytes⟩ := encodeCompacted_ok hencode
  obtain ⟨hsizes, hframesLength, hfits⟩ := encodeCompactedFrom_sizes hframes
  change encodeCompacted C { blank limits encoded with items := items, bytes := total }.items = _
    at hencode
  have hview := items_rebase hencode
  rw [htotal] at hle
  refine ⟨rfl, ⟨rfl, rfl, rfl, rfl, rfl, ?_, ?_, fun hnodup => ?_⟩, rfl⟩
  · intro item hmem
    rw [hview, mem_map] at hmem
    obtain ⟨original, hmem, rfl⟩ := hmem
    exact encoded_length_le hmem hle
  · have hlive := sum_frameBytes_le hcount hle
    rw [hbytes, length_append, hframesLength, hsizes]
    unfold Limits.maximumFileSize
    omega
  · rw [hview, map_map] at hnodup
    have hitems : Compactable C J limits items := by
      refine ⟨hnodup, fun item hmem => ?_, hcount, hle⟩
      obtain ⟨henvelope, hid⟩ := hdecoded item hmem
      exact ⟨henvelope, hid, rfl, hfits item hmem⟩
    obtain ⟨log, hlog, st, hscans, hmirror⟩ := replays_compacted hvalid htotal hitems hencode
    exact ⟨log, hlog, st, hscans, { hmirror with }⟩

/-! ## Open -/

/-- `Open` fails and leaves what it finds, makes a new file or loads the one that it finds. -/
theorem Queue.openFile_cases {file file' : Option Bytes}
    (h : Queue.openFile C J limits outcome file = (result, file')) :
    (file' = file ∧ ∀ queue, result ≠ .ok queue) ∨ limits.Valid ∧
      ((file = none ∧ file' = some fileDomain ∧ ∀ queue, result = .ok queue →
          queue = { blank limits fileDomain with logBytes := fileDomain.length }) ∨
        ∃ encoded loaded left, file = some encoded ∧ encoded.length ≤ limits.maximumFileSize ∧
          Queue.load C J limits outcome encoded = (loaded, left) ∧ file' = some left ∧
          ∀ queue, result = .ok queue → ∃ found, loaded = .ok found ∧
            found.indexItems found.items = .ok queue) := by
  unfold openFile at h
  split at h
  · cases h
    exact .inl ⟨rfl, nofun⟩
  next maximum hlimits =>
  obtain ⟨hvalid, rfl⟩ := validateLimits_ok_iff.mp hlimits
  split at h
  · cases outcome with
    | done =>
      cases h
      exact .inr ⟨hvalid, .inl ⟨rfl, rfl, by rintro _ ⟨rfl⟩; rfl⟩⟩
    | unsynced =>
      cases h
      exact .inr ⟨hvalid, .inl ⟨rfl, rfl, nofun⟩⟩
    | failed =>
      cases h
      exact .inl ⟨rfl, nofun⟩
  · split_ifs at h with hsize
    · cases h
      exact .inl ⟨rfl, nofun⟩
    · have hsize := Nat.not_lt.mp hsize
      split at h
      · next hload =>
        cases h
        exact .inr ⟨hvalid, .inr ⟨_, _, _, rfl, hsize, hload, rfl, nofun⟩⟩
      · next found left hload =>
        cases h
        exact .inr ⟨hvalid, .inr ⟨_, _, _, rfl, hsize, hload, rfl, fun _ hq => ⟨found, rfl, hq⟩⟩⟩

/-- `Open` establishes the invariant, with the file that it leaves behind. -/
theorem Queue.openFile_ok {file file' : Option Bytes}
    (h : Queue.openFile C J limits outcome file = (.ok queue, file')) :
    file' = some queue.file ∧ queue.limits = limits ∧ queue.closed = false ∧
      queue.poisoned = none ∧ (∃ log, queue.file = fileDomain ++ log ∧ queue.Inv C J log) ∧
      queue.file.length ≤ limits.maximumFileSize ∧
      (queue.garbageBytes = 0 ∨ ∃ encoded st, file = some encoded ∧
        replayWAL C J limits encoded = .ok st ∧ queue.garbageBytes = st.garbageBytes) := by
  rcases openFile_cases h with ⟨-, hnot⟩ | ⟨hvalid, ⟨rfl, rfl, hqueue⟩ |
    ⟨encoded, _, left, rfl, hsize, hload, rfl, hqueue⟩⟩
  · exact absurd rfl (hnot queue)
  · obtain rfl := hqueue queue rfl
    refine ⟨rfl, rfl, rfl, rfl, ⟨[], by simp [blank], hvalid, ⟨_, .nil _, ?_⟩, ?_⟩, ?_, .inl rfl⟩
    · exact ⟨rfl, rfl, rfl, rfl, rfl⟩
    · exact { indexed_blank limits fileDomain with }
    · change fileDomain.length ≤ _
      unfold Limits.maximumFileSize Limits.liveMaximum
      omega
  · obtain ⟨loaded, rfl, hindex⟩ := hqueue queue rfl
    have hloaded : left = loaded.file ∧ loaded.Loaded C J limits ∧
        (loaded.garbageBytes = 0 ∨ ∃ st, replayWAL C J limits encoded = .ok st ∧
          loaded.garbageBytes = st.garbageBytes) := by
      unfold load at hload
      split_ifs at hload
      · obtain ⟨hleft, hl, st, hreplay, heq⟩ := loadLog_ok hsize hload
        exact ⟨hleft, hl, .inr ⟨st, hreplay, by rw [heq]; rfl⟩⟩
      · obtain ⟨hleft, hl, hzero⟩ := loadLegacy_ok hvalid hload
        exact ⟨hleft, hl, .inl hzero⟩
      · simp at hload
    obtain ⟨rfl, hl, horigin⟩ := hloaded
    have hvalid' : loaded.limits.Valid := hl.limits_eq ▸ hvalid
    have hempty : loaded.Indexed [] := by
      constructor <;> simp [hl.liveIDs, hl.payerUsage, payerItems, payerBytes]
    obtain ⟨⟨liveIDs, payerUsage, rfl⟩, hindexed, hnodup⟩ :=
      indexItems_ok hempty hvalid' (by simp) (hl.limits_eq ▸ hl.sizes) hindex
    obtain ⟨log, hfile, st, hscans, hmirror⟩ := hl.mirrors hnodup
    refine ⟨rfl, hl.limits_eq, hl.closed, hl.poisoned, ⟨log, hfile, hvalid', ⟨st, ?_, ?_⟩,
      hindexed⟩, hl.file_le, ?_⟩
    · rw [hl.limits_eq]
      exact hscans
    · exact { hmirror with }
    · rcases horigin with hzero | ⟨st', hreplay, hgarbage⟩
      · exact .inl hzero
      · exact .inr ⟨encoded, st', rfl, hreplay, hgarbage⟩

/-- Opening the file of a queue, torn or not, gives the queue back. -/
theorem Queue.Inv.reopen (h : queue.Inv C J log) {tail : Bytes} (htail : Torn C J queue.limits tail)
    (hsize : (fileDomain ++ (log ++ tail)).length ≤ queue.limits.maximumFileSize) :
    Queue.openFile C J queue.limits .done (some (fileDomain ++ (log ++ tail))) =
      (.ok { queue with file := fileDomain ++ log, closed := false, poisoned := none },
        some (fileDomain ++ log)) := by
  have hcounted := h.counted
  obtain ⟨hvalid, ⟨st, hscans, hmirror⟩, hindexed⟩ := h
  have hreplay := replayWAL_of_scans hscans htail
  have hcursor : st.validBytes = (fileDomain ++ log).length := by
    rw [length_append]
    exact validBytes_of_scans hscans .start
  -- the log is read back without its torn tail
  have hload : load C J queue.limits .done (fileDomain ++ (log ++ tail)) =
      (.ok (ofReplay queue.limits (fileDomain ++ log) st), fileDomain ++ log) := by
    rw [load, if_pos take_left, loadLog, hreplay]
    dsimp only
    split_ifs with hwhole
    · have hnil : tail = [] := by
        rw [hcursor] at hwhole
        simp only [length_append] at hwhole
        exact length_eq_zero_iff.mp (by omega)
      rw [hnil, append_nil]
    · rw [hcursor, ← append_assoc, take_left]
      rfl
  have hempty : (ofReplay queue.limits (fileDomain ++ log) st).Indexed [] :=
    { indexed_blank queue.limits (fileDomain ++ log) with }
  have hitems : (ofReplay queue.limits (fileDomain ++ log) st).items = queue.items :=
    hmirror.items.symm
  obtain ⟨opened, hopened⟩ : ∃ opened,
      (ofReplay queue.limits (fileDomain ++ log) st).indexItems queue.items = .ok opened := by
    refine indexItems_exists hempty hvalid ?_ ?_ ?_ <;> rw [nil_append]
    · exact hcounted.nodup
    · exact hindexed.items_le
    · exact hindexed.bytes_le
  obtain ⟨⟨liveIDs, payerUsage, rfl⟩, hopenedIndexed, -⟩ := indexItems_ok hempty hvalid
    (by simp) (fun item hmem => encoded_length_le hmem (hcounted.bytes ▸ hcounted.bytes_le)) hopened
  -- the indexes that are built anew are those the queue had
  obtain ⟨hlive, husage⟩ := hopenedIndexed.unique hindexed
  have hmaximum : validateLimits queue.limits = .ok queue.limits.maximumFileSize :=
    validateLimits_ok_iff.mpr ⟨hvalid, rfl⟩
  unfold openFile
  rw [hmaximum]
  dsimp only
  rw [if_neg (by omega), hload]
  dsimp only
  rw [hitems, hopened]
  dsimp only at hlive husage
  rw [hlive, husage]
  simp only [ofReplay, blank, ← hmirror.items, ← hmirror.bytes, ← hmirror.lastHash,
    ← hmirror.logBytes, ← hmirror.garbageBytes]

end NatP2P.Billing
