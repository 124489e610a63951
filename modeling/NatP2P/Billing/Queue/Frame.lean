import NatP2P.Billing.Queue.Defs

/-!
# Reading frames back

`replayFrame` is shown to be a step in the sense of `Common/Scan.lean`: it never looks behind the
frame it takes, a frame that `encodeFrame` wrote is parsed into its type and payload, and a frame
that is cut short stops the loop.
-/

namespace NatP2P.Billing

open List

variable {C : Crypto} {J : EnvelopeJson} {limits : Limits} {st st' : ReplayState}
  {frameType : UInt8} {payload rest : Bytes} {previous storedHash : Digest} {frameBytes : ℕ}

theorem length_frameBytesOf :
    (frameBytesOf C frameType payload previous).length = frameOverhead + payload.length := by
  simp [frameBytesOf, frameOverhead, framePrefixSize, frameFixedBodySize]
  omega

/-- A slice that ends inside the front does not see what follows it. -/
theorem slice_append_left {front back : Bytes} {offset size : ℕ} (h : offset + size ≤ front.length) :
    slice (front ++ back) offset size = slice front offset size := by
  unfold slice
  rw [drop_append_of_le_length (by omega), take_append_of_le_length (by rw [length_drop]; omega)]

/-! ## The step takes whole frames -/

/-- The parts of the frame at the front of `rest`, as a round of the loop reads them. -/
structure Parses (rest : Bytes) (frameType : UInt8) (previous : Digest) (payload : Bytes)
    (storedHash : Digest) (frameBytes : ℕ) : Prop where
  frameBytes_eq : frameBytes = framePrefixSize + getBE (rest.take framePrefixSize)
  length_payload : frameBytes = frameOverhead + payload.length
  length_le : frameBytes ≤ rest.length
  frameType_eq : (rest.drop framePrefixSize).headD 0 = frameType
  previous_eq : Bytes32.copy (slice rest 5 32) = previous
  payload_eq : slice rest 37 payload.length = payload
  storedHash_eq : Bytes32.copy (slice rest (frameBytes - 32) 32) = storedHash

/-- What a round of the loop does with a frame that is there in full. -/
theorem replayFrame_of_parses (h : Parses rest frameType previous payload storedHash frameBytes)
    (hlimit : frameFixedBodySize + payload.length ≤ maximumFrameBody limits) :
    replayFrame C J limits st rest = (do
      check (previous ≠ st.lastHash ∨ storedHash ≠ frameDigest C frameType previous payload)
        (.corrupt (.hashChain st.validBytes))
      let applied ← st.apply C J limits frameType payload frameBytes
      return some (applied.advance storedHash frameBytes, rest.drop frameBytes)) := by
  obtain ⟨hframe, hpayload, hle, htype, hprevious, hslice, hstored⟩ := h
  have hbody : getBE (rest.take framePrefixSize) = frameFixedBodySize + payload.length := by
    unfold frameOverhead at hpayload
    omega
  have hlong : ¬ rest.length < framePrefixSize := by omega
  have hlength : ¬ (frameFixedBodySize + payload.length < frameFixedBodySize ∨
      frameFixedBodySize + payload.length > maximumFrameBody limits) := by omega
  unfold replayFrame
  dsimp only
  rw [← hframe, hbody, if_neg hlong, if_neg hlength, if_neg (by omega), Nat.add_sub_cancel_left,
    htype, hprevious, hslice, hstored]

/-- A round of the loop that goes on has read a frame. -/
theorem parses_of_replayFrame {rest' : Bytes}
    (h : replayFrame C J limits st rest = .ok (some (st', rest'))) :
    ∃ frameType previous payload storedHash frameBytes,
      Parses rest frameType previous payload storedHash frameBytes ∧
        frameFixedBodySize + payload.length ≤ maximumFrameBody limits := by
  unfold replayFrame at h
  dsimp only at h
  split_ifs at h with hshort hlength hrest
  · simp at h
  · simp at h
  have hpayload : (slice rest 37 (getBE (rest.take framePrefixSize) - frameFixedBodySize)).length =
      getBE (rest.take framePrefixSize) - frameFixedBodySize := by
    unfold slice
    rw [length_take, length_drop]
    unfold framePrefixSize frameFixedBodySize at *
    omega
  refine ⟨_, _, slice rest 37 (getBE (rest.take framePrefixSize) - frameFixedBodySize), _, _,
    ⟨rfl, ?_, by omega, rfl, rfl, ?_, rfl⟩, ?_⟩
  · unfold frameOverhead
    omega
  · rw [hpayload]
  · omega

/-- The parts of a frame do not depend on what follows it. -/
theorem Parses.append
    (h : Parses rest frameType previous payload storedHash frameBytes) (tail : Bytes) :
    Parses (rest.take frameBytes ++ tail) frameType previous payload storedHash frameBytes := by
  obtain ⟨hframe, hpayload, hle, htype, hprevious, hslice, hstored⟩ := h
  have hsplit : rest = rest.take frameBytes ++ rest.drop frameBytes := (take_append_drop ..).symm
  have hlength : (rest.take frameBytes).length = frameBytes := by
    rw [length_take]
    omega
  have h69 : frameOverhead = 69 := rfl
  -- all reads stay inside the first `frameBytes` bytes
  have hread (offset size : ℕ) (hin : offset + size ≤ frameBytes) :
      slice (rest.take frameBytes ++ tail) offset size = slice rest offset size := by
    conv_rhs => rw [hsplit]
    rw [slice_append_left (by omega), slice_append_left (by omega)]
  have hfirst : (rest.take frameBytes ++ tail).take framePrefixSize = rest.take framePrefixSize := by
    have := hread 0 framePrefixSize (by omega)
    simpa [slice] using this
  have hhead : ((rest.take frameBytes ++ tail).drop framePrefixSize).headD 0 =
      (rest.drop framePrefixSize).headD 0 := by
    conv_rhs => rw [hsplit]
    rw [drop_append_of_le_length (by omega),
      drop_append_of_le_length (by omega)]
    have hne : (rest.take frameBytes).drop framePrefixSize ≠ [] := by
      rw [← length_pos_iff, length_drop]
      unfold framePrefixSize
      omega
    obtain ⟨x, xs, hx⟩ := exists_cons_of_ne_nil hne
    rw [hx]
    rfl
  refine ⟨by rw [hfirst, hframe], hpayload, ?_, by rw [hhead, htype], ?_, ?_, ?_⟩
  · rw [length_append]
    omega
  · rw [hread 5 32 (by omega), hprevious]
  · rw [hread 37 payload.length (by omega), hslice]
  · rw [hread (frameBytes - 32) 32 (by omega), hstored]

/-- A round of the loop does not look behind the frame it takes. -/
theorem consumes_replayFrame : Consumes (replayFrame C J limits) := by
  intro st rest st' rest' h
  obtain ⟨frameType, previous, payload, storedHash, frameBytes, hparses, hlimit⟩ :=
    parses_of_replayFrame h
  have hle := hparses.length_le
  have hlength : (rest.take frameBytes).length = frameBytes := by
    rw [length_take]
    omega
  rw [replayFrame_of_parses hparses hlimit] at h
  simp only [bind_ok_iff, exists_unit_iff, pure_ok_iff, Option.some.injEq, Prod.mk.injEq] at h
  obtain ⟨hcheck, applied, happly, rfl, rfl⟩ := h
  refine ⟨rest.take frameBytes, (take_append_drop ..).symm, ?_, fun tail => ?_⟩
  · rw [← length_pos_iff, hlength, hparses.length_payload]
    unfold frameOverhead framePrefixSize
    omega
  · rw [replayFrame_of_parses (hparses.append tail) hlimit]
    simp only [bind_ok_iff, exists_unit_iff, pure_ok_iff, Option.some.injEq, Prod.mk.injEq]
    exact ⟨hcheck, applied, happly, rfl, drop_left' hlength⟩

/-- A round of the loop that goes on: the frame's length, its effect and the state it leaves. -/
theorem takes_replayFrame {block : Bytes} (h : Takes (replayFrame C J limits) st block st') :
    ∃ frameType payload storedHash applied, block.length = frameOverhead + payload.length ∧
        frameFixedBodySize + payload.length ≤ maximumFrameBody limits ∧
        st.apply C J limits frameType payload block.length = .ok applied ∧
        st' = applied.advance storedHash block.length := by
  have htake := h.2 []
  rw [append_nil] at htake
  obtain ⟨frameType, previous, payload, storedHash, frameBytes, hparses, hlimit⟩ :=
    parses_of_replayFrame htake
  rw [replayFrame_of_parses hparses hlimit] at htake
  simp only [bind_ok_iff, exists_unit_iff, pure_ok_iff, Option.some.injEq, Prod.mk.injEq] at htake
  obtain ⟨-, applied, happly, rfl, hrest⟩ := htake
  obtain rfl : frameBytes = block.length := by
    have hle := hparses.length_le
    have := drop_eq_nil_iff.mp hrest
    omega
  exact ⟨frameType, payload, storedHash, applied, hparses.length_payload, hlimit, happly, rfl⟩

/-! ## Frames that were written -/

theorem parses_frameBytesOf
    (hlength : frameFixedBodySize + payload.length < 2 ^ 32) (tail : Bytes) :
    Parses (frameBytesOf C frameType payload previous ++ tail) frameType previous payload
      (frameDigest C frameType previous payload) (frameOverhead + payload.length) := by
  have hheader : getBE (putBE 4 (frameFixedBodySize + payload.length)) =
      frameFixedBodySize + payload.length := getBE_putBE_of_lt (by omega)
  have hbytes : frameBytesOf C frameType payload previous ++ tail =
      putBE 4 (frameFixedBodySize + payload.length) ++ (frameType :: (previous.val ++ (payload ++
        ((frameDigest C frameType previous payload).val ++ tail)))) := by
    simp [frameBytesOf]
  have hfour : (putBE 4 (frameFixedBodySize + payload.length)).length = framePrefixSize :=
    length_putBE ..
  have hover : frameOverhead + payload.length - 32 = payload.length + 37 := by
    unfold frameOverhead framePrefixSize frameFixedBodySize
    omega
  refine ⟨?_, rfl, ?_, ?_, ?_, ?_, ?_⟩
  · rw [hbytes, ← hfour, take_left]
    unfold frameOverhead
    omega
  · rw [length_append, length_frameBytesOf]
    omega
  · rfl
  · rw [hbytes, slice_append (by simp), length_putBE, slice_cons_succ, slice_block (by simp),
      Bytes32.copy_val]
  · rw [hbytes, slice_append (by simp), length_putBE, slice_cons_succ, slice_append (by simp),
      Bytes32.length_val, slice_block rfl]
  · rw [hbytes, hover, slice_append (by rw [length_putBE]; omega), length_putBE,
      show payload.length + 37 - 4 = (payload.length + 32) + 1 by omega, slice_cons_succ,
      slice_append (by omega), Bytes32.length_val, Nat.add_sub_cancel,
      slice_append le_rfl, Nat.sub_self, slice_block (by simp), Bytes32.copy_val]

/-- A written frame that continues the hash chain is taken off the front. -/
theorem takes_frameBytesOf {applied : ReplayState}
    (hlimit : frameFixedBodySize + payload.length ≤ maximumFrameBody limits)
    (happly : st.apply C J limits frameType payload (frameOverhead + payload.length) = .ok applied) :
    Takes (replayFrame C J limits) st (frameBytesOf C frameType payload st.lastHash)
      (applied.advance (frameDigest C frameType st.lastHash payload)
        (frameOverhead + payload.length)) := by
  have hshort : frameFixedBodySize + payload.length < 2 ^ 32 := by
    unfold maximumFrameBody at hlimit
    omega
  refine ⟨?_, fun tail => ?_⟩
  · rw [← length_pos_iff, length_frameBytesOf]
    unfold frameOverhead framePrefixSize
    omega
  · rw [replayFrame_of_parses (parses_frameBytesOf hshort tail) hlimit]
    simp only [bind_ok_iff, exists_unit_iff, check_ok_iff, pure_ok_iff,
      Option.some.injEq, Prod.mk.injEq]
    exact ⟨by simp, applied, happly, rfl, drop_left' length_frameBytesOf⟩

/-- A frame that is cut short ends the loop without an error. -/
theorem replayFrame_torn {cut : ℕ}
    (hlimit : frameFixedBodySize + payload.length ≤ maximumFrameBody limits)
    (hcut : cut < frameOverhead + payload.length) :
    replayFrame C J limits st ((frameBytesOf C frameType payload previous).take cut) =
      .ok none := by
  have hshort : frameFixedBodySize + payload.length < 2 ^ 32 := by
    unfold maximumFrameBody at hlimit
    omega
  have hlength : ((frameBytesOf C frameType payload previous).take cut).length = cut := by
    rw [length_take, length_frameBytesOf]
    omega
  by_cases hfour : cut < framePrefixSize
  · -- not even the length prefix is there
    unfold replayFrame
    rw [if_pos (by omega)]
  · -- the prefix announces more than the rest of the file holds
    have hheader : getBE (((frameBytesOf C frameType payload previous).take cut).take
        framePrefixSize) = frameFixedBodySize + payload.length := by
      have hparses := (@parses_frameBytesOf C frameType payload previous hshort []).frameBytes_eq
      rw [append_nil] at hparses
      rw [take_take, min_eq_left (by omega)]
      unfold frameOverhead at hparses
      omega
    unfold replayFrame
    rw [if_neg (by omega), if_neg (by omega), if_pos]
    unfold frameOverhead at hcut
    omega

end NatP2P.Billing
