import NatP2P.Network.Frame

/-!
# Frames on the wire

Reference: `network/Frame.go`.

A frame is a header of 39 bytes, the connection id and the payload; the header holds the two
lengths, so the reader knows where a frame ends. A stream that is a row of whole frames is read back
frame by frame.
-/

namespace NatP2P.Network

open List

/-- `FrameMagic`. -/
def frameMagic : Bytes := utf8 "bnfs-frm"

/-- `FrameHeaderLength`. -/
def frameHeaderLength : ℕ := 39

/-- `maxFramePayloadLength`. -/
def maxFramePayloadLength : ℕ := 2 ^ 20

/-! ## Writing -/

namespace Frame

/-- The header without the two lengths. -/
def front (f : Frame) : Bytes :=
  frameMagic ++ (putLE 8 f.messageId ++ (putLE 4 f.seqId ++ (putLE 4 f.totalFrames ++
    (putLE 8 f.ackId ++ [f.frameType]))))

/-- The header. -/
def header (f : Frame) : Bytes :=
  f.front ++ (putLE 2 f.connectionId.length ++ putLE 4 f.payload.length)

/-- The bytes `AppendTo` appends. -/
def encoding (f : Frame) : Bytes := f.header ++ (f.connectionId ++ f.payload)

/-- `WireSize`. -/
def wireSize (f : Frame) : Except FrameError ℕ := do
  check (f.payload.length > maxFramePayloadLength) .payloadTooLarge
  check (f.connectionId.length > 2 ^ 16 - 1) .connectionIdTooLong
  return frameHeaderLength + f.connectionId.length + f.payload.length

/-- `AppendTo`. -/
def appendTo (f : Frame) (dst : Bytes) : Except FrameError Bytes := do
  let _ ← f.wireSize
  return dst ++ f.encoding

end Frame

/-! ## Reading -/

/-- `ParseFrame`. -/
def parseFrame (data : Bytes) : Except FrameError Frame := do
  check (data.length < frameHeaderLength) .tooShort
  check (data.take 8 ≠ frameMagic) .invalidMagic
  let connIdLen := getLE (field data 33 2)
  let payloadLen := getLE (field data 35 4)
  check (payloadLen > maxFramePayloadLength) .payloadTooLarge
  check (data.length - frameHeaderLength < connIdLen + payloadLen) .payloadTruncated
  return {
    messageId := getLE (field data 8 8)
    seqId := getLE (field data 16 4)
    totalFrames := getLE (field data 20 4)
    ackId := getLE (field data 24 8)
    frameType := (data.drop 32).headD 0
    connectionId := field data 39 connIdLen
    payload := field data (39 + connIdLen) payloadLen }

/-- `io.ReadFull` of `size` bytes, with what is left of the stream. -/
def readFull (stream : Bytes) (size : ℕ) : Except FrameError (Bytes × Bytes) :=
  if stream.length ≥ size then .ok (stream.take size, stream.drop size)
  else if stream = [] then .error .endOfStream
  else .error .unexpectedEndOfStream

/-- `ReadFrame`, with what is left of the stream. -/
def readFrame (stream : Bytes) : Except FrameError (Frame × Bytes) := do
  let (header, rest) ← readFull stream frameHeaderLength
  check (header.take 8 ≠ frameMagic) .invalidMagic
  let connIdLen := getLE (field header 33 2)
  let payloadLen := getLE (field header 35 4)
  check (payloadLen > maxFramePayloadLength) .payloadTooLarge
  if connIdLen + payloadLen = 0 then
    let frame ← parseFrame header
    return (frame, rest)
  else
    let (body, rest) ← readFull rest (connIdLen + payloadLen)
    let frame ← parseFrame (header ++ body)
    return (frame, rest)

/-- What a loop of `ReadFrame` returns on a stream that ends: the frames, and the last error. -/
inductive Reads : Bytes → List Frame → FrameError → Prop
  | stop {stream : Bytes} {err : FrameError} (h : readFrame stream = .error err) :
      Reads stream [] err
  | next {stream rest : Bytes} {f : Frame} {frames : List Frame} {err : FrameError}
      (h : readFrame stream = .ok (f, rest)) (hrest : Reads rest frames err) :
      Reads stream (f :: frames) err

/-! ## Round trip -/

/-- The fields have the widths of their Go types. -/
structure Frame.InRange (f : Frame) : Prop where
  messageId : f.messageId < 2 ^ 64
  seqId : f.seqId < 2 ^ 32
  totalFrames : f.totalFrames < 2 ^ 32
  ackId : f.ackId < 2 ^ 64

/-- A `Frame` of the source. -/
abbrev GoFrame := { f : Frame // f.InRange }

/-- The frame can be written: its variable parts fit into their length fields. -/
structure Frame.OnWire (f : Frame) : Prop extends f.InRange where
  payload_le : f.payload.length ≤ maxFramePayloadLength
  connectionId_lt : f.connectionId.length < 2 ^ 16

variable {dst b rest data stream : Bytes} {size offset : ℕ}

namespace Frame

variable {f : Frame}

theorem appendTo_ok {encoded : Bytes} (hrange : f.InRange)
    (h : f.appendTo dst = .ok encoded) : encoded = dst ++ f.encoding ∧ f.OnWire := by
  unfold appendTo wireSize at h
  simp only [bind_ok_iff, exists_unit_iff, check_ok_iff, pure_ok_iff] at h
  obtain ⟨-, ⟨hpayload, hconnection, -⟩, rfl⟩ := h
  exact ⟨rfl, hrange, Nat.not_lt.mp hpayload, by omega⟩

theorem length_frameMagic : frameMagic.length = 8 := by decide

@[simp]
theorem length_front : f.front.length = 33 := by simp [front, length_frameMagic]

@[simp]
theorem length_header : f.header.length = frameHeaderLength := by simp [header, frameHeaderLength]

@[simp]
theorem length_encoding :
    f.encoding.length = frameHeaderLength + f.connectionId.length + f.payload.length := by
  simp only [encoding, length_append, length_header]
  omega

end Frame

namespace Frame

variable {f : Frame}

theorem take_header (f : Frame) (body : Bytes) : (f.header ++ body).take 8 = frameMagic := by
  rw [header, front, append_assoc, append_assoc]
  exact take_left' length_frameMagic

/-- The two lengths of a header are those of the parts behind it. -/
theorem OnWire.lengths (h : f.OnWire) (body : Bytes) :
    getLE (field (f.header ++ body) 33 2) = f.connectionId.length ∧
      getLE (field (f.header ++ body) 35 4) = f.payload.length := by
  have hconnection : getLE (putLE 2 f.connectionId.length) = f.connectionId.length :=
    getLE_putLE_of_lt h.connectionId_lt
  have hpayload : getLE (putLE 4 f.payload.length) = f.payload.length :=
    getLE_putLE_of_lt (lt_of_le_of_lt h.payload_le (by decide))
  constructor <;> simp [header, field_right, field_left, hconnection, hpayload]

theorem parseFrame_encoding (h : f.OnWire) : parseFrame f.encoding = .ok f := by
  obtain ⟨hconnIdLen, hpayloadLen⟩ := h.lengths (f.connectionId ++ f.payload)
  have hmessageId : getLE (putLE 8 f.messageId) = f.messageId := getLE_putLE_of_lt h.messageId
  have hseqId : getLE (putLE 4 f.seqId) = f.seqId := getLE_putLE_of_lt h.seqId
  have htotal : getLE (putLE 4 f.totalFrames) = f.totalFrames := getLE_putLE_of_lt h.totalFrames
  have hackId : getLE (putLE 8 f.ackId) = f.ackId := getLE_putLE_of_lt h.ackId
  have hconnectionId : field (f.header ++ (f.connectionId ++ f.payload)) 39 f.connectionId.length =
      f.connectionId := field_append length_header rfl
  have hpayload : field (f.header ++ (f.connectionId ++ f.payload)) (39 + f.connectionId.length)
      f.payload.length = f.payload := by
    simp [field_right, field_whole, frameHeaderLength]
  rw [encoding]
  unfold parseFrame
  simp only [check_bind_ok_iff, pure_ok_iff, hconnIdLen,
    hpayloadLen, hconnectionId, hpayload, length_append, length_header]
  refine ⟨by omega, not_not.mpr (take_header ..), Nat.not_lt.mpr h.payload_le, by omega, ?_⟩
  -- every field sits behind blocks whose lengths add up to its offset
  simp [header, front, field_right, field_left, length_frameMagic, drop_append, hmessageId,
    hseqId, htotal, hackId]

end Frame

theorem readFull_append (h : b.length = size) : readFull (b ++ rest) size = .ok (b, rest) := by
  rw [readFull, if_pos (by simp; omega), take_left' h, drop_left' h]

/-- `ReadFrame` takes exactly one frame off the stream. -/
theorem readFrame_encoding {f : Frame} (h : f.OnWire) (rest : Bytes) :
    readFrame (f.encoding ++ rest) = .ok (f, rest) := by
  have hlengths := h.lengths []
  have hmagic := f.take_header []
  rw [append_nil] at hlengths hmagic
  have hparse := Frame.parseFrame_encoding h
  rw [Frame.encoding] at hparse ⊢
  rw [append_assoc]
  unfold readFrame
  simp only [bind_ok_iff, exists_unit_iff, check_ok_iff]
  refine ⟨_, readFull_append Frame.length_header, not_not.mpr hmagic, ?_⟩
  simp only [hlengths]
  refine ⟨Nat.not_lt.mpr h.payload_le, ?_⟩
  split_ifs with hempty
  · -- without a body the header is the whole frame
    have hbody : f.connectionId ++ f.payload = [] :=
      eq_nil_of_length_eq_zero (by rw [length_append, hempty])
    rw [hbody, append_nil] at hparse
    simp only [bind_ok_iff, pure_ok_iff, hbody]
    exact ⟨f, hparse, rfl⟩
  · simp only [bind_ok_iff, pure_ok_iff]
    exact ⟨_, readFull_append (length_append ..), f, hparse, rfl⟩

theorem reads_encodings {frames : List Frame} (h : ∀ f ∈ frames, f.OnWire) :
    Reads (frames.flatMap Frame.encoding) frames .endOfStream := by
  induction frames with
  | nil => exact .stop rfl
  | cons f frames ih =>
    obtain ⟨hf, hframes⟩ := forall_mem_cons.mp h
    exact .next (readFrame_encoding hf _) (ih hframes)

/-! ## Nothing else is accepted -/

theorem length_field (h : offset + size ≤ b.length) : (field b offset size).length = size := by
  simp only [field, length_take, length_drop]
  omega

theorem take_append_field (b : Bytes) (offset size : ℕ) :
    b.take offset ++ field b offset size = b.take (offset + size) := List.take_add.symm

theorem putLE_getLE_field (h : offset + size ≤ b.length) :
    putLE size (getLE (field b offset size)) = field b offset size := by
  have hput := putBE_getBE (field b offset size).reverse
  rw [length_reverse, length_field h] at hput
  rw [putLE, getLE, hput, reverse_reverse]

theorem getLE_field_lt (h : offset + size ≤ b.length) :
    getLE (field b offset size) < 256 ^ size := by
  have hlt := getBE_lt (field b offset size).reverse
  rwa [length_reverse, length_field h] at hlt

/-- A frame that is parsed can be written, and its bytes are those it was parsed from. -/
theorem encoding_of_parseFrame {f : Frame} (h : parseFrame data = .ok f) :
    f.OnWire ∧ f.encoding = data.take f.encoding.length := by
  unfold parseFrame at h
  simp only [check_bind_ok_iff, pure_ok_iff, not_not] at h
  obtain ⟨hlength, hmagic, hpayload, hbody, rfl⟩ := h
  have hlength : 39 ≤ data.length := Nat.not_lt.mp hlength
  have hbody : getLE (field data 33 2) + getLE (field data 35 4) ≤ data.length - 39 :=
    Nat.not_lt.mp hbody
  have hconnectionId : (field data 39 (getLE (field data 33 2))).length = getLE (field data 33 2) :=
    length_field (by omega)
  have hpayloadLen : (field data (39 + getLE (field data 33 2)) (getLE (field data 35 4))).length =
      getLE (field data 35 4) := length_field (by omega)
  refine ⟨⟨⟨getLE_field_lt (by omega), getLE_field_lt (by omega), getLE_field_lt (by omega),
    getLE_field_lt (by omega)⟩, ?_, ?_⟩, ?_⟩
  · rw [hpayloadLen]
    exact Nat.not_lt.mp hpayload
  · rw [hconnectionId]
    exact getLE_field_lt (by omega)
  · have htype : [(data.drop 32).headD 0] = field data 32 1 := by
      rw [field, drop_eq_getElem_cons (by omega)]
      rfl
    rw [Frame.length_encoding]
    -- every field is the part it was read from, and the parts lie side by side
    simp (disch := omega) only [Frame.encoding, Frame.header, Frame.front, hconnectionId,
      hpayloadLen, putLE_getLE_field, htype, ← hmagic, ← append_assoc, take_append_field,
      Nat.reduceAdd, frameHeaderLength]

/-- `ReadFrame` reads the same frame from bytes that `ParseFrame` accepts, and leaves what
follows. -/
theorem readFrame_of_parseFrame {f : Frame} (h : parseFrame data = .ok f) :
    readFrame data = .ok (f, data.drop f.encoding.length) := by
  obtain ⟨hwire, hencoding⟩ := encoding_of_parseFrame h
  have hsplit := take_append_drop f.encoding.length data
  rw [← hencoding] at hsplit
  have hread := readFrame_encoding hwire (data.drop f.encoding.length)
  rwa [hsplit] at hread

/-- Where the last part of `data` ends that `ParseFrame` looks at. -/
def parseFrameReach (data : Bytes) : ℕ :=
  let connIdLen := getLE (field data 33 2)
  let payloadLen := getLE (field data 35 4)
  if data.length < frameHeaderLength then 0
  else if data.take 8 ≠ frameMagic then 8
  else if payloadLen > maxFramePayloadLength then 39
  else if data.length - frameHeaderLength < connIdLen + payloadLen then 39
  else 39 + connIdLen + payloadLen

theorem parseFrameReach_le (data : Bytes) : parseFrameReach data ≤ data.length := by
  unfold parseFrameReach frameHeaderLength
  dsimp only
  split_ifs <;> omega

/-- Inputs that agree up to a place have the same fields before it. -/
theorem field_congr {data' : Bytes} {n : ℕ} (h : data'.take n = data.take n)
    (hle : offset + size ≤ n) : field data' offset size = field data offset size := by
  have htake : data'.take (offset + size) = data.take (offset + size) := by
    rw [← Nat.min_eq_left hle, ← take_take, h, take_take]
  rw [field, field, take_drop, take_drop, htake]

/-- `ParseFrame` looks at nothing else: inputs of one length that agree up to there have one
result. -/
theorem parseFrame_congr {data' : Bytes} (hlength : data'.length = data.length)
    (htake : data'.take (parseFrameReach data) = data.take (parseFrameReach data)) :
    parseFrame data' = parseFrame data := by
  have hfield : ∀ offset size, offset + size ≤ parseFrameReach data →
      field data' offset size = field data offset size := fun _ _ => field_congr htake
  unfold parseFrameReach at hfield
  unfold parseFrame check
  rw [hlength]
  dsimp only at hfield
  -- the same checks decide how far it looks and what it returns
  split_ifs at hfield with hshort hmagic hlarge htruncated
  · simp only [if_pos hshort]
    rfl
  · have hstart : data'.take 8 = data.take 8 := hfield 0 8 le_rfl
    simp only [if_neg hshort, hstart, if_pos hmagic]
    rfl
  all_goals
    have hstart : data'.take 8 = data.take 8 := hfield 0 8 (by omega)
    have hconnIdLen := hfield 33 2 (by omega)
    have hpayloadLen := hfield 35 4 (by omega)
  · simp only [if_neg hshort, hstart, if_neg hmagic, hpayloadLen, if_pos hlarge]
    rfl
  · simp only [if_neg hshort, hstart, if_neg hmagic, hpayloadLen, if_neg hlarge, hconnIdLen,
      if_pos htruncated]
    rfl
  · have htype : ∀ b : Bytes, (b.drop 32).headD 0 = (field b 32 1).headD 0 := fun b => by
      rw [field]
      cases b.drop 32 <;> rfl
    simp only [hstart, hpayloadLen, hconnIdLen, htype, hfield 32 1 (by omega), hfield 8 8 (by omega),
      hfield 16 4 (by omega), hfield 20 4 (by omega), hfield 24 8 (by omega),
      hfield 39 (getLE (field data 33 2)) (by omega),
      hfield (39 + getLE (field data 33 2)) (getLE (field data 35 4)) (by omega)]

theorem length_of_readFull {part : Bytes}
    (h : readFull stream size = .ok (part, rest)) : part.length = size := by
  unfold readFull at h
  split_ifs at h with hlength
  cases h
  exact length_take_of_le hlength

/-- Frames that are appended one after the other. -/
theorem of_foldlM_appendTo {frames : List GoFrame}
    (h : frames.foldlM (fun dst f => f.val.appendTo dst) dst = .ok stream) :
    stream = dst ++ (frames.map Subtype.val).flatMap Frame.encoding ∧ ∀ f ∈ frames, f.val.OnWire := by
  induction frames generalizing dst with
  | nil =>
    cases h
    simp
  | cons f frames ih =>
    rw [foldlM_cons, bind_ok_iff] at h
    obtain ⟨next, hnext, h⟩ := h
    obtain ⟨rfl, hwire⟩ := Frame.appendTo_ok f.property hnext
    obtain ⟨rfl, hframes⟩ := ih h
    exact ⟨by simp, forall_mem_cons.mpr ⟨hwire, hframes⟩⟩

/-- The wire format: a row of frames that were appended is read back and then the input ends; what
`ParseFrame` accepts begins with the encoding of the frame, which `ReadFrame` takes off; and neither
of them looks beyond the end of its bytes: what `ParseFrame` returns depends on the bytes up to
`parseFrameReach` and on how many there are. -/
theorem frame_wire_format :
    (∀ (frames : List GoFrame) (stream : Bytes),
      frames.foldlM (fun dst f => f.val.appendTo dst) [] = .ok stream →
        Reads stream (frames.map Subtype.val) .endOfStream) ∧
    (∀ (f : GoFrame) (encoded : Bytes), f.val.appendTo [] = .ok encoded →
      parseFrame encoded = .ok f ∧ readFrame encoded = .ok (f, [])) ∧
    (∀ (data : Bytes) (f : Frame), parseFrame data = .ok f →
      ∃ size ≤ data.length, f.wireSize = .ok size ∧ f.appendTo [] = .ok (data.take size) ∧
        readFrame data = .ok (f, data.drop size)) ∧
    (∀ data, parseFrameReach data ≤ data.length ∧
      ∀ data', data'.length = data.length →
        data'.take (parseFrameReach data) = data.take (parseFrameReach data) →
          parseFrame data' = parseFrame data) ∧
    ∀ stream header rest, readFull stream frameHeaderLength = .ok (header, rest) →
      header.length = frameHeaderLength := by
  refine ⟨fun frames stream h => ?_, fun f encoded h => ?_, fun data f h => ?_,
    fun data => ⟨parseFrameReach_le data, fun _ => parseFrame_congr⟩, fun _ _ _ => length_of_readFull⟩
  · obtain ⟨rfl, hwire⟩ := of_foldlM_appendTo h
    exact reads_encodings (forall_mem_map.mpr hwire)
  · obtain ⟨rfl, hwire⟩ := Frame.appendTo_ok f.property h
    have hread := readFrame_encoding hwire []
    rw [append_nil] at hread
    exact ⟨Frame.parseFrame_encoding hwire, hread⟩
  · obtain ⟨hwire, hencoding⟩ := encoding_of_parseFrame h
    have hsize : f.wireSize = .ok f.encoding.length := by
      simp only [Frame.wireSize, check_bind_ok_iff, pure_ok_iff, Frame.length_encoding]
      exact ⟨Nat.not_lt.mpr hwire.payload_le, by have := hwire.connectionId_lt; omega, trivial⟩
    have hle : f.encoding.length ≤ data.length := by
      rw [hencoding, length_take]
      exact Nat.min_le_right _ _
    refine ⟨_, hle, hsize, ?_, readFrame_of_parseFrame h⟩
    rw [Frame.appendTo, hsize, ← hencoding]
    rfl

end NatP2P.Network
