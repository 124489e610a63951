import NatP2P.Common.Run
import NatP2P.Network.Striping.Reassembler
import Mathlib

/-!
# A striped connection

A `LogicalConn` of several legs writes the chunks of its byte stream to the legs in turn and numbers
them. Each leg is a stream of its own mux session: its frames arrive in order, but the legs are
independent. At the reader the read loop of each session hands a chunk to the leg's `deliverHook`,
once the connection has one, and the hooks push it into the one reassembler.

The machine is one direction of a connection: the writer of one end, the frames on their way, and
the other end's legs, hooks and reassembler. A step is what a goroutine does while it holds a lock.
`deliverSeq` takes the lock of its stream twice, so it is two steps.

Reference: `networkFrameWork/logical_conn.go`, `networkFrameWork/bridge_mux.go`.
-/

namespace NatP2P.Network

/-- `stripeChunkSize`. -/
def stripeChunkSize : ℕ := 32 * 1024

/-- A frame of a leg: `muxFrameData` with its number, or `muxFrameClose`. -/
inductive LegFrame where
  | data (seq : ℕ) (payload : Bytes)
  | close
deriving DecidableEq

/-- The read loop of a leg's session, between the two critical sections of `deliverSeq`. -/
inductive ReadLoop where
  | reading
  /-- it found a hook -/
  | hooked (seq : ℕ) (data : Bytes)
  /-- it found none, and the stream is not striped -/
  | plain (data : Bytes)
deriving DecidableEq

/-- A leg: the frames on their way to the reader, and the reader's `MuxStream`. -/
structure StripeLeg where
  wire : List LegFrame
  loop : ReadLoop
  /-- `deliverHook` is set. -/
  hook : Bool
  hookPending : List (ℕ × Bytes)
  buf : Bytes
  closed : Bool
deriving DecidableEq

/-- A leg on which nothing was sent yet. -/
def StripeLeg.new : StripeLeg where
  wire := []
  loop := .reading
  hook := false
  hookPending := []
  buf := []
  closed := false

/-- Where `attachReasmHooks` is. -/
inductive Attaching where
  /-- before it sets the hook of a leg -/
  | hooking (leg : ℕ)
  /-- `setDeliverHook` of a leg, with the early chunks it has still to replay -/
  | replaying (leg : ℕ) (early : List (ℕ × Bytes))
  | attached
deriving DecidableEq

/-- Where the writer is. -/
inductive StripeWriter where
  | idle
  /-- `writeStriped`, with the rest of its bytes and `total` -/
  | writing (p rest : Bytes) (total : ℕ)
  /-- `LogicalConn.Close`, before it closes a leg -/
  | closing (leg : ℕ)
  | closed
deriving DecidableEq

/-- A `Write` that has returned: its bytes, the number it reported, and whether it succeeded. -/
structure StripeCall where
  bytes : Bytes
  total : ℕ
  ok : Bool
deriving DecidableEq

/-- The bytes a call reported as written. -/
def StripeCall.reported (call : StripeCall) : Bytes := call.bytes.take call.total

/-- One direction of a striped connection. `calls`, `chunks` and `received` remember the calls of
`Write`, the chunks that got a number and what `Read` returned; nothing reads them. -/
structure Striped where
  /-- The reader's streams know that they are legs: `openInfo.legCount > 1`. `handleOpen` sets
  `openInfo` at the end that accepts; `OpenStreamLeg` does not at the end that opens. -/
  accepts : Bool
  legs : List StripeLeg
  attaching : Attaching
  reasm : Reassembler
  writer : StripeWriter
  writeSeq : ℕ
  calls : List StripeCall
  chunks : List Chunk
  received : Bytes

/-- What happens on a connection. -/
inductive StripeEvent where
  /-- `Write` is called -/
  | write (p : Bytes)
  /-- a turn of `writeStriped`; `writeChunkSeq` succeeds, or fails before the frame is written -/
  | writeChunk (ok : Bool)
  /-- `Close` is called -/
  | close
  /-- a turn of `Close`; the CLOSE frame is written, or its deadline passes before -/
  | closeLeg (sent : Bool)
  /-- the read loop of a leg reads a frame -/
  | readFrame (leg : ℕ)
  /-- the second half of `deliverSeq` -/
  | deliver (leg : ℕ)
  /-- a turn of `attachReasmHooks` -/
  | attach
  /-- the watchdog of a leg -/
  | watch (leg : ℕ)
  /-- `Read` with room for some bytes -/
  | read (size : ℕ)
deriving DecidableEq

namespace Striped

/-- `roundRobinLeg`. -/
def roundRobinLeg (legCount seq : ℕ) : ℕ := seq % legCount

/-- A new connection of some legs. -/
def new (accepts : Bool) (legCount : ℕ) : Striped where
  accepts
  legs := List.replicate legCount .new
  attaching := .hooking 0
  reasm := .new
  writer := .idle
  writeSeq := 0
  calls := []
  chunks := []
  received := []

/-- A frame is written to a leg. -/
def send (s : Striped) (leg : ℕ) (frame : LegFrame) : Striped :=
  { s with legs := s.legs.modify leg fun l => { l with wire := l.wire ++ [frame] } }

/-- A turn of `writeStriped`. The scheduler picks a leg for a number; `writeChunkSeq` writes the
frame or fails. -/
def writeChunk (pick : ℕ → ℕ) (s : Striped) (ok : Bool) : Striped :=
  match s.writer with
  | .writing p [] total => { s with writer := .idle, calls := s.calls ++ [⟨p, total, true⟩] }
  | .writing p rest total =>
    let chunk := rest.take stripeChunkSize
    let seq := s.writeSeq
    let s := { s with writeSeq := add64 s.writeSeq 1 }
    if pick seq < s.legs.length ∧ ok = true then
      { s.send (pick seq) (.data seq chunk) with
        writer := .writing p (rest.drop chunk.length) (total + chunk.length)
        chunks := s.chunks ++ [⟨chunk, true⟩] }
    else
      { s with
        writer := .idle
        calls := s.calls ++ [⟨p, total, false⟩]
        chunks := s.chunks ++ [⟨chunk, false⟩] }
  | _ => s

/-- The read loop reads a frame: the first half of `deliverSeq`, or `dropStream`. -/
def readFrame (accepts : Bool) (l : StripeLeg) : StripeLeg :=
  match l.loop, l.wire with
  | .reading, .data seq payload :: wire =>
    let l := { l with wire }
    if payload = [] ∨ l.closed = true then l
    else if l.hook then { l with loop := .hooked seq payload }
    else if accepts then { l with hookPending := l.hookPending ++ [(seq, payload)] }
    else { l with loop := .plain payload }
  | .reading, .close :: wire => { l with wire, closed := true }
  | _, _ => l

/-- The second half of `deliverSeq`. -/
def deliver (s : Striped) (leg : ℕ) : Striped :=
  match s.legs[leg]? with
  | some l =>
    match l.loop with
    | .reading => s
    | .hooked seq data =>
      { s with
        legs := s.legs.modify leg fun l => { l with loop := .reading }
        reasm := s.reasm.push seq data }
    | .plain data =>
      { s with
        legs := s.legs.modify leg fun l =>
          { l with loop := .reading, buf := if l.closed then l.buf else l.buf ++ data } }
  | none => s

/-- A turn of `attachReasmHooks`. -/
def attach (s : Striped) : Striped :=
  match s.attaching with
  | .hooking leg =>
    match s.legs[leg]? with
    | none => { s with attaching := .attached }
    | some l =>
      { s with
        legs := s.legs.modify leg fun l => { l with hook := true, hookPending := [] }
        attaching := .replaying leg l.hookPending }
  | .replaying leg [] => { s with attaching := .hooking (leg + 1) }
  | .replaying leg ((seq, data) :: early) =>
    { s with attaching := .replaying leg early, reasm := s.reasm.push seq data }
  | .attached => s

/-- One step; the output is what `Read` returns. -/
def step (pick : ℕ → ℕ) (s : Striped) : StripeEvent → Striped × Option ReadResult
  | .write p =>
    match s.writer with
    | .idle => ({ s with writer := .writing p p 0 }, none)
    | _ => (s, none)
  | .writeChunk ok => (s.writeChunk pick ok, none)
  | .close =>
    match s.writer with
    | .idle => ({ s with writer := .closing 0 }, none)
    | _ => (s, none)
  | .closeLeg sent =>
    match s.writer with
    | .closing leg =>
      if leg < s.legs.length then
        ({ (if sent then s.send leg .close else s) with writer := .closing (leg + 1) }, none)
      else ({ s with writer := .closed }, none)
    | _ => (s, none)
  | .readFrame leg => ({ s with legs := s.legs.modify leg (readFrame s.accepts) }, none)
  | .deliver leg => (s.deliver leg, none)
  | .attach => (s.attach, none)
  | .watch leg =>
    match s.attaching, s.legs[leg]? with
    | .attached, some l => if l.closed then ({ s with reasm := s.reasm.close }, none) else (s, none)
    | _, _ => (s, none)
  | .read size =>
    let (reasm, result) := s.reasm.read size
    match result with
    | .bytes data => ({ s with reasm, received := s.received ++ data }, some result)
    | _ => ({ s with reasm }, some result)

/-- A read is one of the reassembler; what came back is remembered. -/
theorem step_read (pick : ℕ → ℕ) (s : Striped) (size : ℕ) : s.step pick (.read size) =
    ({ s with
        reasm := (s.reasm.read size).1
        received := s.received ++ (s.reasm.read size).2.data },
      some (s.reasm.read size).2) := by
  rw [step]
  obtain ⟨reasm, result⟩ := s.reasm.read size
  cases result <;> simp [ReadResult.data]

/-- The connection behind a run. -/
def run (pick : ℕ → ℕ) (accepts : Bool) (legCount : ℕ) (events : List StripeEvent) : Striped :=
  (runSteps (step pick) (new accepts legCount) events).1

end Striped

end NatP2P.Network
