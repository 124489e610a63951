import NatP2P.Network.Wire
import Mathlib.Order.Interval.Finset.Nat

/-!
# Acknowledgements

Reference: `network/Frame.go` and `networkFrameWork/AckTracker.go`.

A receiver acknowledges the frames of a message as a list of closed ranges of their numbers, in the
payload of an ACK frame. The sender collects the numbers of all ranges it is told.
-/

namespace NatP2P.Network

open List

/-- `AckRange`: the numbers from `start` to `stop`. -/
structure AckRange where
  start : ℕ
  stop : ℕ
deriving DecidableEq

/-- The numbers in a list of ranges. -/
def covered (ranges : List AckRange) : Finset ℕ :=
  ranges.foldr (fun r seqs => Finset.Icc r.start r.stop ∪ seqs) ∅

variable {ranges : List AckRange} {seq start stop total : ℕ} {seqs : List ℕ} {r : AckRange}

@[simp]
theorem mem_covered : seq ∈ covered ranges ↔ ∃ r ∈ ranges, r.start ≤ seq ∧ seq ≤ r.stop := by
  induction ranges with
  | nil => simp [covered]
  | cons r ranges ih =>
    have hcons : covered (r :: ranges) = Finset.Icc r.start r.stop ∪ covered ranges := rfl
    rw [hcons, Finset.mem_union, Finset.mem_Icc, ih, exists_mem_cons_iff]

/-! ## The ranges of a set of numbers -/

/-- The loop of `seqsToRanges` behind the first number; `start` and `stop` are the open range. -/
def collectRanges (start stop : ℕ) : List ℕ → List AckRange
  | [] => [⟨start, stop⟩]
  | seq :: seqs =>
    if seq = (stop + 1) % 2 ^ 32 then collectRanges start seq seqs
    else ⟨start, stop⟩ :: collectRanges seq seq seqs

/-- `seqsToRanges`. -/
def seqsToRanges : List ℕ → List AckRange
  | [] => []
  | seq :: seqs => collectRanges seq seq seqs

/-- `FullAckRange`. -/
def fullAckRange (total : ℕ) : List AckRange := if total = 0 then [] else [⟨0, total - 1⟩]

/-- `FrameAssembler.Snapshot`. -/
def FrameAssembler.snapshot (a : FrameAssembler) (messageId : ℕ) : Option (List AckRange × ℕ) :=
  (a.buffers.get messageId).map fun buf =>
    (seqsToRanges (buf.frames.keys.sort (· ≤ ·)), buf.total)

/-- The ranges hold only numbers of the list and of the open range. -/
theorem covered_collectRanges (h : seq ∈ covered (collectRanges start stop seqs)) :
    seq ∈ seqs ∨ start ≤ seq ∧ seq ≤ stop := by
  induction seqs generalizing start stop with
  | nil => simpa [collectRanges] using h
  | cons next seqs ih =>
    rw [collectRanges] at h
    split_ifs at h with hnext
    · rcases ih h with hmem | ⟨hstart, hstop⟩
      · exact .inl (mem_cons_of_mem _ hmem)
      · rcases Nat.lt_or_ge stop seq with hlt | hle
        · exact .inl (mem_cons.mpr (.inl (by omega)))
        · exact .inr ⟨hstart, hle⟩
    · rw [mem_covered, exists_mem_cons_iff, ← mem_covered] at h
      rcases h with hopen | hrest
      · exact .inr hopen
      · rcases ih hrest with hmem | ⟨hstart, hstop⟩
        · exact .inl (mem_cons_of_mem _ hmem)
        · exact .inl (mem_cons.mpr (.inl (by omega)))

/-- The ranges of a list hold only numbers of the list. -/
theorem covered_seqsToRanges (h : seq ∈ covered (seqsToRanges seqs)) : seq ∈ seqs := by
  cases seqs with
  | nil => simp [seqsToRanges] at h
  | cons first seqs =>
    rcases covered_collectRanges h with hmem | ⟨hstart, hstop⟩
    · exact mem_cons_of_mem _ hmem
    · exact mem_cons.mpr (.inl (by omega))

/-- The bounds of the ranges are numbers of the list, or those of the open range. -/
theorem bounds_collectRanges (h : r ∈ collectRanges start stop seqs) :
    (r.start = start ∨ r.start ∈ seqs) ∧ (r.stop = stop ∨ r.stop ∈ seqs) := by
  induction seqs generalizing start stop with
  | nil =>
    obtain rfl := mem_singleton.mp h
    exact ⟨.inl rfl, .inl rfl⟩
  | cons next seqs ih =>
    rw [collectRanges] at h
    split_ifs at h with hnext
    · obtain ⟨hstart, hstop⟩ := ih h
      exact ⟨hstart.imp_right (mem_cons_of_mem _), .inr (mem_cons.mpr hstop)⟩
    · rcases mem_cons.mp h with rfl | h
      · exact ⟨.inl rfl, .inl rfl⟩
      · obtain ⟨hstart, hstop⟩ := ih h
        exact ⟨.inr (mem_cons.mpr hstart), .inr (mem_cons.mpr hstop)⟩

theorem bounds_seqsToRanges (h : r ∈ seqsToRanges seqs) : r.start ∈ seqs ∧ r.stop ∈ seqs := by
  cases seqs with
  | nil => simp [seqsToRanges] at h
  | cons first seqs =>
    obtain ⟨hstart, hstop⟩ := bounds_collectRanges h
    exact ⟨mem_cons.mpr hstart, mem_cons.mpr hstop⟩

/-- The full range holds the numbers of all frames. -/
theorem mem_covered_fullAckRange : seq ∈ covered (fullAckRange total) ↔ seq < total := by
  unfold fullAckRange
  split_ifs with hzero
  · simp [hzero]
  · simp
    omega

/-! ## On the wire -/

/-- `EncodeAckRanges`. -/
def encodeAckRanges (ranges : List AckRange) : Except FrameError Bytes := do
  check (ranges.length > 2 ^ 16 - 1) .tooManyAckRanges
  return putLE 2 ranges.length ++ ranges.flatMap fun r => putLE 4 r.start ++ putLE 4 r.stop

/-- `DecodeAckRanges`. -/
def decodeAckRanges (data : Bytes) : Except FrameError (List AckRange) := do
  check (data.length < 2) .ackTooShort
  let count := getLE (field data 0 2)
  check (data.length < 2 + count * 8) .ackTruncated
  return (List.range count).map fun i =>
    ⟨getLE (field data (2 + i * 8) 4), getLE (field data (2 + i * 8 + 4) 4)⟩

/-- `BuildAckFrame`, with the connection id that `sendAck` puts on it. -/
def buildAckFrame (messageId totalFrames : ℕ) (ranges : List AckRange) (connectionId : Bytes) :
    Except FrameError Frame := do
  let payload ← encodeAckRanges ranges
  return { messageId, seqId := 0, totalFrames, ackId := 0, frameType := frameTypeAck,
           connectionId, payload }

/-- The loop of `isFullFrameAck`. -/
def fullCursor (total cursor : ℕ) : List AckRange → Option ℕ
  | [] => some cursor
  | r :: ranges =>
    if r.start > r.stop ∨ r.stop ≥ total ∨ r.start > cursor then none
    else fullCursor total (if r.stop ≥ cursor then r.stop + 1 else cursor) ranges

/-- `isFullFrameAck` (`networkFrameWork/frame_adapter.go`). -/
def isFullFrameAck (frame : Frame) (expectedTotal : ℕ) : Bool :=
  if frame.frameType ≠ frameTypeAck ∨ expectedTotal = 0 ∨ frame.totalFrames ≠ expectedTotal then
    false
  else
    match decodeAckRanges frame.payload with
    | .error _ => false
    | .ok ranges => ranges ≠ [] ∧ fullCursor expectedTotal 0 ranges = some expectedTotal

/-- The bounds of a range have the width of their Go type. -/
def AckRange.InRange (r : AckRange) : Prop := r.start < 2 ^ 32 ∧ r.stop < 2 ^ 32

theorem inRange_fullAckRange (h : total < 2 ^ 32) : ∀ r ∈ fullAckRange total, r.InRange := by
  unfold fullAckRange
  split_ifs
  · exact nofun
  · intro r hr
    obtain rfl := mem_singleton.mp hr
    show 0 < 2 ^ 32 ∧ total - 1 < 2 ^ 32
    omega

/-- The entry of a range. -/
def AckRange.entry (r : AckRange) : Bytes := putLE 4 r.start ++ putLE 4 r.stop

theorem AckRange.length_entry (r : AckRange) : r.entry.length = 8 := by simp [AckRange.entry]

/-- Entry `i` of a list of entries behind `front`. -/
theorem field_entry {front : Bytes} {i : ℕ} (h : ranges[i]? = some r) :
    field (front ++ ranges.flatMap AckRange.entry) (front.length + i * 8) 4 = putLE 4 r.start ∧
      field (front ++ ranges.flatMap AckRange.entry) (front.length + i * 8 + 4) 4 =
        putLE 4 r.stop := by
  induction ranges generalizing front i with
  | nil => simp at h
  | cons first ranges ih =>
    rw [flatMap_cons, ← append_assoc]
    cases i with
    | zero =>
      obtain rfl : first = r := Option.some.inj h
      rw [AckRange.entry]
      constructor
      · rw [append_assoc, append_assoc]
        exact field_append rfl (length_putLE ..)
      · rw [← append_assoc, append_assoc _ (putLE 4 first.stop)]
        exact field_append (by simp) (length_putLE ..)
    | succ i =>
      have hlength : front.length + (i + 1) * 8 = (front ++ first.entry).length + i * 8 := by
        rw [length_append, AckRange.length_entry]
        omega
      rw [hlength]
      exact ih h

theorem decodeAckRanges_encode (hrange : ∀ r ∈ ranges, r.InRange)
    {payload : Bytes} (h : encodeAckRanges ranges = .ok payload) :
    decodeAckRanges payload = .ok ranges := by
  unfold encodeAckRanges at h
  simp only [check_bind_ok_iff, pure_ok_iff] at h
  obtain ⟨hcount, rfl⟩ := h
  have hentries : (ranges.flatMap fun r => putLE 4 r.start ++ putLE 4 r.stop) =
      ranges.flatMap AckRange.entry := rfl
  rw [hentries]
  have hfield : getLE (field (putLE 2 ranges.length ++ ranges.flatMap AckRange.entry) 0 2) =
      ranges.length := by
    rw [field_left (length_putLE ..)]
    exact getLE_putLE_of_lt (by omega)
  have hlength : (putLE 2 ranges.length ++ ranges.flatMap AckRange.entry).length =
      2 + ranges.length * 8 := by
    simp [length_flatMap, AckRange.length_entry]
  unfold decodeAckRanges
  simp only [check_bind_ok_iff, pure_ok_iff, hfield, hlength]
  refine ⟨by omega, by omega, ?_⟩
  refine ext_getElem? fun i => ?_
  rcases hget : ranges[i]? with _ | r
  · simpa using hget
  · have hi := (List.getElem?_eq_some_iff.mp hget).1
    obtain ⟨hstart, hstop⟩ := @field_entry ranges r (putLE 2 ranges.length) i hget
    obtain ⟨hstartLt, hstopLt⟩ := hrange r (mem_of_getElem? hget)
    rw [length_putLE] at hstart hstop
    rw [getElem?_map, getElem?_range hi, Option.map_some, hstart, hstop,
      getLE_putLE_of_lt hstartLt, getLE_putLE_of_lt hstopLt]

end NatP2P.Network
