import NatP2P.Common.GoMap
import NatP2P.Common.Lifecycle
import NatP2P.Common.Run
import NatP2P.Network.Mux.OpenInfo

/-!
# Two ends of a mux session

A physical connection between two relays carries many streams. Each end keeps its streams in a table
by id. `OpenStreamLeg` adds a stream and tells the other end with an OPEN frame, which adds its own;
DATA frames carry the bytes; `Close` drops the stream and tells the other end with a CLOSE frame,
which drops its own. Frames name a stream by its id.

The machine is a pair of sessions with the frames on their way in both directions. A goroutine is
the list of what it has still to do, one entry for each critical section, write and wait; the first
goroutine of a session is its read loop. Any goroutine may take the next step.

An id may be used again after its stream was closed. The model numbers the lives of the ids: frames
and goroutines remember the life they belong to, and it stands for the address of a stream. The
program does not see the number.

Reference: `networkFrameWork/bridge_mux.go`.
-/

namespace NatP2P.Network

/-- One life of a stream id. The program sees the id only. -/
structure Incarnation where
  id : Bytes
  number : ℕ
deriving DecidableEq

/-- The mux frame types. -/
inductive MuxFrameType where
  | muxFrameOpen
  | muxFrameData
  | muxFrameClose
deriving DecidableEq

/-- A mux frame: type, `ConnectionId`, `MessageId` and payload. -/
structure MuxFrame where
  typ : MuxFrameType
  stream : Incarnation
  seq : ℕ
  payload : Bytes
deriving DecidableEq

/-- `MuxStream`. Its `dataCh` and `closedCh` only wake up who waits. -/
structure MuxStream where
  /-- How far it got. `OpenStreamLeg` returns it when its OPEN frame is written. -/
  stage : Lifecycle.Stage
  openInfo : MuxOpenInfo
  buf : Bytes
  closed : Bool
  /-- `deliverHook` is set. -/
  hook : Bool
  hookPending : List (ℕ × Bytes)
deriving DecidableEq

/-- Somebody has the stream to call its methods, and it is not closed. -/
def MuxStream.usable (o : MuxStream) : Bool :=
  (o.stage = .established ∨ o.stage = .accepted) ∧ ¬ o.closed

/-- Why `dropStream` is called. -/
inductive DropCause where
  | openFailed
  /-- by `Close` of a stream, which writes its CLOSE frame afterwards -/
  | closing
  | closedByPeer
deriving DecidableEq

/-- What a goroutine does next. -/
inductive MuxAction where
  /-- `writeFrameForStream`, before it gets the write gate -/
  | write (frame : MuxFrame)
  /-- `conn.Write`, with the write gate -/
  | physicalWrite (frame : MuxFrame)
  | dropStream (stream : Incarnation) (cause : DropCause)
  | closeLocal (stream : Incarnation)
  /-- `handleOpen`, before the new stream is in the accept channel -/
  | offer (stream : Incarnation)
  | deliverSeq (stream : Incarnation) (frame : MuxFrame)
  /-- the second critical section of `deliverSeq` -/
  | appendBuf (stream : Incarnation) (frame : MuxFrame)
  /-- the critical section of `MuxSession.Close` -/
  | closeSession
deriving DecidableEq

/-- A chunk of a `Write`. -/
def MuxAction.writesData : MuxAction → Bool
  | .write frame => frame.typ = .muxFrameData
  | _ => false

/-- `MuxSession`: the table `streams`, all streams that were ever made, the `accept` channel, and
the goroutines. -/
structure MuxSession where
  streams : GoMap Bytes Incarnation
  objects : GoMap Incarnation MuxStream
  accept : List Incarnation
  closed : Bool
  /-- Somebody holds the write gate. -/
  writeGate : Bool
  tasks : List (List MuxAction)

/-- A frame, or the `Close` of a stream, has changed a stream of the same id. -/
structure MuxEffect where
  cause : Incarnation
  target : Incarnation
deriving DecidableEq

/-- Two ends of a physical connection. `sent` of an end are the frames the other one has not read.
`opened` numbers the incarnations and `effects` remembers who changed whom; nothing reads them. -/
structure MuxPair where
  session : Bool → MuxSession
  sent : Bool → List MuxFrame
  opened : ℕ
  effects : List MuxEffect

/-- What happens at the two ends. -/
inductive MuxEvent where
  | openStreamLeg (e : Bool) (streamID targetNodeID originPubKey : Bytes) (legIndex legCount : ℤ)
      (legFlags : List UInt8)
  | accept (e : Bool)
  | write (e : Bool) (x : Incarnation) (p : Bytes)
  | writeChunkSeq (e : Bool) (x : Incarnation) (seq : ℕ) (chunk : Bytes)
  | close (e : Bool) (x : Incarnation)
  | setDeliverHook (e : Bool) (x : Incarnation)
  | read (e : Bool) (x : Incarnation) (size : ℕ)
  /-- `MuxSession.Close` is called, or the context of the session is done -/
  | closeSession (e : Bool)
  /-- the read loop reads a frame, or the end of the input -/
  | readFrame (e : Bool)
  /-- a goroutine takes its next step; a write gives up or fails if not `ok` -/
  | advance (e : Bool) (task : ℕ) (ok : Bool)
deriving DecidableEq

/-! ## One session -/

/-- `newMuxStream`. -/
def newMuxStream (stage : Lifecycle.Stage) (openInfo : MuxOpenInfo) : MuxStream where
  stage
  openInfo
  buf := []
  closed := false
  hook := false
  hookPending := []

namespace MuxSession

/-- The capacity of `accept`. -/
def acceptCapacity : ℕ := 32

/-- `maxChunk`. -/
def maxChunk : ℕ := 32 * 1024

/-- `NewMuxSession`. -/
def new : MuxSession where
  streams := .empty
  objects := .empty
  accept := []
  closed := false
  writeGate := false
  tasks := [[]]

def modifyStream (m : MuxSession) (x : Incarnation) (f : MuxStream → MuxStream) : MuxSession :=
  match m.objects.get x with
  | none => m
  | some o => { m with objects := m.objects.set x (f o) }

/-- A goroutine calls something. -/
def spawn (m : MuxSession) (task : List MuxAction) : MuxSession :=
  { m with tasks := m.tasks ++ [task] }

/-- What a goroutine has still to do. -/
def setTask (m : MuxSession) (task : ℕ) (todo : List MuxAction) : MuxSession :=
  { m with tasks := m.tasks.set task todo }

/-- The effect of `closeLocal`: only its first call does something. -/
def closeLocal (m : MuxSession) (x : Incarnation) : MuxSession :=
  m.modifyStream x fun o => { o with closed := true }

/-- A new stream in the table. -/
def addStream (m : MuxSession) (x : Incarnation) (stage : Lifecycle.Stage) (openInfo : MuxOpenInfo) :
    MuxSession :=
  { m with
    streams := m.streams.set x.id x
    objects := m.objects.set x (newMuxStream stage openInfo) }

/-- The critical section of `OpenStreamLeg`, when the id is free. -/
def openStreamLeg (m : MuxSession) (x : Incarnation) (payload : Bytes) : MuxSession :=
  (m.addStream x .opening .unset).spawn [.write ⟨.muxFrameOpen, x, 0, payload⟩]

/-- `handleOpen`. -/
def handleOpen (m : MuxSession) (frame : MuxFrame) : MuxSession :=
  if m.closed ∨ (m.streams.get frame.stream.id).isSome then m
  else
    (m.addStream frame.stream .accepted (.decodeMuxOpen frame.payload)).setTask 0
      [.offer frame.stream]

/-- What the read loop does with a frame. -/
def receive (m : MuxSession) (frame : MuxFrame) : MuxSession :=
  match frame.typ with
  | .muxFrameOpen => m.handleOpen frame
  | .muxFrameData =>
    match m.streams.get frame.stream.id with
    | none => m
    | some x => m.setTask 0 [.deliverSeq x frame]
  | .muxFrameClose => m.setTask 0 [.dropStream frame.stream .closedByPeer]

/-- `Accept` takes a stream out of its channel. -/
def acceptStream (m : MuxSession) : MuxSession := { m with accept := m.accept.tail }

/-- The chunks of `Write`. -/
def chunks : ℕ → Bytes → List Bytes
  | 0, _ => []
  | fuel + 1, p => if p = [] then [] else p.take maxChunk :: chunks fuel (p.drop maxChunk)

/-- `Write` and `writeChunkSeq`: the stream is not closed, and the DATA frames are to be written one
after the other. -/
def writeData (m : MuxSession) (x : Incarnation) (data : List (ℕ × Bytes)) : MuxSession :=
  if (m.objects.get x).any MuxStream.usable then
    m.spawn (data.map fun (seq, chunk) => .write ⟨.muxFrameData, x, seq, chunk⟩)
  else m

/-- `MuxStream.Close` up to the end of `closeLocal`. -/
def closeStream (m : MuxSession) (x : Incarnation) : MuxSession :=
  if (m.objects.get x).any MuxStream.usable then (m.closeLocal x).spawn [.dropStream x .closing] else m

/-- What a goroutine does when a write has failed: `OpenStreamLeg` drops its stream, `Write` returns
without its other chunks, and `Close` ignores it. -/
def afterError (frame : MuxFrame) (rest : List MuxAction) : List MuxAction :=
  match frame.typ with
  | .muxFrameOpen => .dropStream frame.stream .openFailed :: rest
  | .muxFrameData => rest.dropWhile MuxAction.writesData
  | .muxFrameClose => rest

/-- What became of the OPEN frame of a stream. -/
def note (m : MuxSession) (frame : MuxFrame) (stage : Lifecycle.Stage) : MuxSession :=
  if frame.typ = .muxFrameOpen then m.modifyStream frame.stream fun o => { o with stage } else m

def releaseGate (m : MuxSession) : MuxSession := { m with writeGate := false }

/-- A step of a goroutine: the session, what is left to do, the frame it writes and what it
changes. -/
structure Outcome where
  session : MuxSession
  todo : List MuxAction
  sent : List MuxFrame
  effects : List MuxEffect

/-- A step that writes no frame and changes no stream of another one. -/
def Outcome.quiet (m : MuxSession) (todo : List MuxAction) : Outcome := ⟨m, todo, [], []⟩

/-- A DATA frame is not written once its stream is closed. -/
def streamGone (m : MuxSession) (frame : MuxFrame) : Bool :=
  frame.typ = .muxFrameData ∧ (m.objects.get frame.stream).any MuxStream.closed

/-- `acquireWriteGate` and `beginPhysicalWrite`. -/
def beginWrite (m : MuxSession) (frame : MuxFrame) (ok : Bool) (rest : List MuxAction) : Outcome :=
  if ¬ ok then .quiet (m.note frame .failed) (afterError frame rest)
  else if m.writeGate ∨ m.closed ∨ m.streamGone frame then .quiet m (.write frame :: rest)
  else .quiet { m with writeGate := true } (.physicalWrite frame :: rest)

/-- `conn.Write`, and what follows it. It may still succeed when the session was just closed. A
failure closes the session; `closeLocal` of a stream makes its write in progress fail. -/
def finishWrite (m : MuxSession) (frame : MuxFrame) (ok : Bool) (rest : List MuxAction) : Outcome :=
  if ok then ⟨(m.note frame .established).releaseGate, rest, [frame], []⟩
  else .quiet (m.note frame .failed).releaseGate (.closeSession :: afterError frame rest)

/-- What `Close` does after `dropStream`. -/
def afterDrop (x : Incarnation) : DropCause → List MuxAction
  | .closing => [.write ⟨.muxFrameClose, x, 0, []⟩]
  | .openFailed => []
  | .closedByPeer => []

/-- `dropStream` up to the end of its critical section: whatever stream has the id goes. -/
def dropStream (m : MuxSession) (x : Incarnation) (cause : DropCause) (rest : List MuxAction) : Outcome :=
  match m.streams.get x.id with
  | none => .quiet m (afterDrop x cause ++ rest)
  | some y =>
    ⟨{ m with streams := m.streams.delete x.id }, .closeLocal y :: (afterDrop x cause ++ rest), [],
      [⟨x, y⟩]⟩

/-- `deliverSeq`, first critical section. -/
def deliverSeq (m : MuxSession) (x : Incarnation) (frame : MuxFrame) (rest : List MuxAction) : Outcome :=
  match m.objects.get x with
  | none => .quiet m rest
  | some o =>
    if frame.payload = [] ∨ o.closed then .quiet m rest
    else if ¬ o.hook ∧ 1 < o.openInfo.legCount then
      ⟨m.modifyStream x fun o => { o with hookPending := o.hookPending ++ [(frame.seq, frame.payload)] },
        rest, [], [⟨frame.stream, x⟩]⟩
    else if o.hook then ⟨m, rest, [], [⟨frame.stream, x⟩]⟩
    else .quiet m (.appendBuf x frame :: rest)

/-- `deliverSeq`, second critical section. -/
def appendBuf (m : MuxSession) (x : Incarnation) (frame : MuxFrame) (rest : List MuxAction) : Outcome :=
  if (m.objects.get x).all MuxStream.closed then .quiet m rest
  else
    ⟨m.modifyStream x fun o => { o with buf := o.buf ++ frame.payload }, rest, [], [⟨frame.stream, x⟩]⟩

/-- The critical section of `MuxSession.Close`. It leaves the streams it has found to be closed; the
connection is closed soon after it. -/
def close (m : MuxSession) (order : GoMap.Order Bytes) (rest : List MuxAction) : Outcome :=
  if m.closed then .quiet m rest
  else .quiet { m with closed := true, streams := .empty }
    ((m.streams.values order).map .closeLocal ++ rest)

/-- A step of a goroutine. -/
def perform (m : MuxSession) (order : GoMap.Order Bytes) (ok : Bool) (rest : List MuxAction) :
    MuxAction → Outcome
  | .write frame => m.beginWrite frame ok rest
  | .physicalWrite frame => m.finishWrite frame ok rest
  | .dropStream x cause => m.dropStream x cause rest
  | .closeLocal x => .quiet (m.closeLocal x) rest
  | .offer x =>
    if ok ∧ m.accept.length < acceptCapacity then .quiet { m with accept := m.accept ++ [x] } rest
    else if m.closed then .quiet m rest
    else .quiet m (.offer x :: rest)
  | .deliverSeq x frame => m.deliverSeq x frame rest
  | .appendBuf x frame => m.appendBuf x frame rest
  | .closeSession => m.close order rest

end MuxSession

/-! ## The pair -/

namespace MuxPair

def new : MuxPair where
  session _ := .new
  sent _ := []
  opened := 0
  effects := []

/-- One end changes. -/
def modify (s : MuxPair) (e : Bool) (f : MuxSession → MuxSession) : MuxPair :=
  { s with session := Function.update s.session e (f (s.session e)) }

/-- `OpenStreamLeg` up to the end of its critical section. -/
def openStreamLeg (s : MuxPair) (e : Bool) (streamID payload : Bytes) : MuxPair :=
  if (s.session e).closed ∨ ((s.session e).streams.get streamID).isSome then s
  else
    { s with
      session := Function.update s.session e
        ((s.session e).openStreamLeg ⟨streamID, s.opened + 1⟩ payload)
      opened := s.opened + 1 }

/-- A turn of the read loop. At the end of the input it closes the session. -/
def readFrame (s : MuxPair) (e : Bool) : MuxPair :=
  if (s.session e).tasks[0]? ≠ some [] ∨ (s.session e).closed then s
  else
    match s.sent (!e) with
    | [] => if (s.session (!e)).closed then s.modify e (·.setTask 0 [.closeSession]) else s
    | frame :: rest =>
      { s with
        session := Function.update s.session e ((s.session e).receive frame)
        sent := Function.update s.sent (!e) rest }

/-- The frames on their way after a step. What comes to a closed session has no effect and is left
out. -/
def transmit (s : MuxPair) (e : Bool) (closed : Bool) (frames : List MuxFrame) (e' : Bool) :
    List MuxFrame :=
  if e' = e then if (s.session (!e)).closed then [] else s.sent e ++ frames
  else if closed then [] else s.sent e'

/-- A step of a goroutine. -/
def advance (s : MuxPair) (order : Bool → GoMap.Order Bytes) (e : Bool) (task : ℕ) (ok : Bool) :
    MuxPair :=
  match (s.session e).tasks[task]? with
  | some (action :: rest) =>
    let out := (s.session e).perform (order e) ok rest action
    { s with
      session := Function.update s.session e (out.session.setTask task out.todo)
      sent := s.transmit e out.session.closed out.sent
      effects := s.effects ++ out.effects }
  | _ => s

/-- A step of the pair. The order is the one in which the `Close` of a session meets the streams of
its table. -/
def step (order : Bool → GoMap.Order Bytes) (s : MuxPair) : MuxEvent → MuxPair × Unit
  | .openStreamLeg e streamID targetNodeID originPubKey legIndex legCount legFlags =>
    (s.openStreamLeg e streamID
      (MuxOpenInfo.encodeMuxOpenLeg targetNodeID originPubKey legIndex legCount legFlags), ())
  | .accept e => (s.modify e MuxSession.acceptStream, ())
  | .write e x p =>
    (s.modify e (·.writeData x ((MuxSession.chunks p.length p).map fun chunk => (0, chunk))), ())
  | .writeChunkSeq e x seq chunk => (s.modify e (·.writeData x [(seq, chunk)]), ())
  | .close e x => (s.modify e (·.closeStream x), ())
  | .setDeliverHook e x =>
    (s.modify e (·.modifyStream x fun o => { o with hook := true, hookPending := [] }), ())
  | .read e x size => (s.modify e (·.modifyStream x fun o => { o with buf := o.buf.drop size }), ())
  | .closeSession e => (s.modify e (·.spawn [.closeSession]), ())
  | .readFrame e => (s.readFrame e, ())
  | .advance e task ok => (s.advance order e task ok, ())

/-- The pair behind a run. -/
def run (order : Bool → GoMap.Order Bytes) (events : List MuxEvent) : MuxPair :=
  (runSteps (step order) new events).1

end MuxPair

end NatP2P.Network
