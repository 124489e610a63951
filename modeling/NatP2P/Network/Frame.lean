import NatP2P.Common.GoMap
import NatP2P.Common.Word
import NatP2P.Network.Message
import Mathlib.Data.Finset.Sort

/-!
# Frames

Reference: `network/Frame.go` and `network/Message.go`.

A message travels as a list of frames. `splitToFrames` cuts its bytes, `FrameAssembler` collects the
frames of each message id and gives the message back when all of them have arrived. On a connection
a frame is a header of fixed length, the connection id and the payload.
-/

namespace NatP2P.Network

/-- `Frame`. -/
structure Frame where
  messageId : ℕ
  seqId : ℕ
  totalFrames : ℕ
  ackId : ℕ
  frameType : UInt8
  connectionId : Bytes
  payload : Bytes
deriving DecidableEq

/-- `FrameTypeData`. -/
def frameTypeData : UInt8 := 0

/-- `FrameTypeAck`. -/
def frameTypeAck : UInt8 := 1

/-- `FrameTypeRetransmit`. -/
def frameTypeRetransmit : UInt8 := 2

/-- The frame carries a piece of a message. -/
def Frame.carries (f : Frame) : Bool :=
  f.frameType = frameTypeData || f.frameType = frameTypeRetransmit

/-- `FrameTypeConnectionClose`. -/
def frameTypeConnectionClose : UInt8 := 4

/-- `isRelayBatchDataFrame` (`networkFrameWork/frame_adapter.go`). -/
def isRelayBatchDataFrame (frame : Frame) : Bool :=
  frame.frameType = frameTypeData ∨ frame.frameType = frameTypeRetransmit

/-- `orderedFrames` (`networkFrameWork/frame_adapter.go`). -/
def orderedFrames (frames : GoMap ℕ Frame) : List Frame :=
  (frames.keys.sort (· ≤ ·)).filterMap frames.get

/-- `time.Second`. -/
def second : ℤ := 1000000000

/-- The errors of `Frame.go`. -/
inductive FrameError where
  | payloadTooLarge
  | connectionIdTooLong
  | tooShort
  | invalidMagic
  | payloadTruncated
  | endOfStream
  | unexpectedEndOfStream
  | noFrames
  | countMismatch
  | differentMessages
  | totalsDisagree
  | missingOrDuplicate
  | notData
  | smallerThanHeader
  | message (reason : MessageError)
  | zeroTotal
  | sequenceRange
  | bufferTotal
  | tooManyAckRanges
  | ackTooShort
  | ackTruncated
deriving DecidableEq

/-! ## Cutting a message -/

/-- `DefaultMaxFramePayload`. -/
def defaultMaxFramePayload : ℤ := 1400

/-- The number of frames `SplitToFrames` cuts, in Go's `int`. -/
def frameCount (length : ℕ) (maxPayload : ℤ) : ℤ :=
  (wrapInt (length + maxPayload - 1)).tdiv maxPayload

/-- One turn of the loop of `SplitToFrames`. The end of a chunk is cut off at the end of the
body. -/
def frameAt (body : Bytes) (messageId : ℕ) (maxPayload total i : ℕ) : Frame where
  messageId
  seqId := i % 2 ^ 32
  totalFrames := total % 2 ^ 32
  ackId := 0
  frameType := frameTypeData
  connectionId := []
  payload := (body.drop (i * maxPayload)).take maxPayload

/-- `maxPayload` with its default. -/
def effectivePayload (maxPayload : ℤ) : ℤ :=
  if maxPayload ≤ 0 then defaultMaxFramePayload else maxPayload

/-- `Message.SplitToFrames`. -/
def Message.splitToFrames (m : Message) (messageId : ℕ) (maxPayload : ℤ) :
    Except MessageError (List Frame) := do
  let maxPayload := effectivePayload maxPayload
  let body ← m.parseToBytes
  if body.length = 0 then
    return [{ messageId, seqId := 0, totalFrames := 1, ackId := 0, frameType := frameTypeData,
              connectionId := [], payload := [] }]
  else do
    let totalFrames := frameCount body.length maxPayload
    check (totalFrames % 2 ^ 64 > 2 ^ 32 - 1) .tooLargeForFrames
    return (List.range totalFrames.toNat).map
      (frameAt body messageId maxPayload.toNat totalFrames.toNat)

/-! ## Putting a message together -/

/-- The checks of `AssembleFrames` on the sorted frames, from index `i` on. -/
def checkSorted (messageId total : ℕ) : ℕ → List Frame → Except FrameError Unit
  | _, [] => .ok ()
  | i, f :: rest => do
    check (f.messageId ≠ messageId) .differentMessages
    check (f.totalFrames ≠ total) .totalsDisagree
    check (f.seqId ≠ i % 2 ^ 32) .missingOrDuplicate
    check (¬ f.carries) .notData
    checkSorted messageId total (i + 1) rest

/-- `AssembleFrames`. -/
def assembleFrames (frames : List Frame) : Except FrameError Message :=
  match frames with
  | [] => .error .noFrames
  | first :: _ => do
    check (first.totalFrames ≠ frames.length) .countMismatch
    let sorted := frames.insertionSort fun f g => f.seqId ≤ g.seqId
    checkSorted first.messageId first.totalFrames 0 sorted
    let body := sorted.flatMap Frame.payload
    check (body.length < headerLength) .smallerThanHeader
    (parseMessage body).mapError .message

/-- `frameBuffer`. -/
structure FrameBuffer where
  total : ℕ
  frames : GoMap ℕ Frame

/-- `FrameAssembler`. -/
structure FrameAssembler where
  buffers : GoMap ℕ FrameBuffer

namespace FrameAssembler

/-- `NewFrameAssembler`. -/
def new : FrameAssembler := ⟨.empty⟩

/-- The buffer of a frame, made when it is the first one of its message. -/
def bufferOf (a : FrameAssembler) (f : Frame) : FrameBuffer :=
  (a.buffers.get f.messageId).getD ⟨f.totalFrames, .empty⟩

/-- `FrameAssembler.Add`. The frames of a complete buffer are taken out of its map in some order. -/
def add (a : FrameAssembler) (order : GoMap.Order ℕ) (f : Frame) :
    Except FrameError (Option Message) × FrameAssembler :=
  if ¬ f.carries then (.ok none, a)
  else if f.totalFrames = 0 then (.error .zeroTotal, a)
  else if f.seqId ≥ f.totalFrames then (.error .sequenceRange, a)
  else
    let buf := a.bufferOf f
    if buf.total ≠ f.totalFrames then (.error .bufferTotal, a)
    else if (buf.frames.get f.seqId).isSome then (.ok none, a)
    else
      let buf := { buf with frames := buf.frames.set f.seqId f }
      if buf.frames.len % 2 ^ 32 ≠ buf.total then
        (.ok none, ⟨a.buffers.set f.messageId buf⟩)
      else
        ((assembleFrames (buf.frames.values order)).map some, ⟨a.buffers.delete f.messageId⟩)

end FrameAssembler

end NatP2P.Network
