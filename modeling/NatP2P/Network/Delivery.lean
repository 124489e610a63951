import NatP2P.Network.Ack
import NatP2P.Network.Fragmentation

/-!
# Delivery of messages

Reference: `networkFrameWork/TcpStream.go` and `networkFrameWork/AckTracker.go`.

One direction between two streams in normal mode, without a crypto suite. Any number of goroutines
send messages, each through `sendMessageWithAckMode`: it writes the frames, waits for
acknowledgements and writes the missing frames again. At the receiver the read loop takes one frame
after the other through `handleData`, and a timer acknowledges what has arrived of messages that
make no progress. A step is what a goroutine does between two points at which another one can see
it: a critical section, a write, an operation on the inbox.

The network may lose, repeat and reorder frames: any data frame that was ever written may arrive at
any time, and so may any ACK frame.

A receiver may have been made by `AcceptTcpStreamSync`. It reads its first message before its loops
are started and returns it to the caller; `AckFirstMessage` acknowledges it.
-/

namespace NatP2P.Network

/-- `maxRetransmitAttempts`. -/
def maxRetransmitAttempts : ℕ := 6

/-- `ackBatchThreshold`. -/
def ackBatchThreshold : ℕ := 100

/-- `recvAckIdleTimeout`, in nanoseconds. -/
def recvAckIdleTimeout : ℤ := 10 ^ 9

/-- `inboxBufferSize`. -/
def inboxBufferSize : ℕ := 64

/-- A frame size of a `FrameSizeAdaptor`: it starts between 800 and 32768, adjusts itself to values
between 800 and 8192, and takes over a peer's request between 500 and 2800. -/
abbrev FrameSize := { size : ℤ // 500 ≤ size ∧ size ≤ 32768 }

/-- A message whose bytes are a slice. -/
abbrev GoMessage := { m : Message // (headerLength + m.payload.length : ℤ) ≤ maxInt }

/-! ## The sender -/

/-- `ackTracker`. The map has only `true` values. -/
structure AckTracker where
  total : ℕ
  acked : Finset ℕ
  /-- There is a signal in `ch`. -/
  signalled : Bool

namespace AckTracker

/-- `newAckTracker`. -/
def new (total : ℕ) : AckTracker := ⟨total, ∅, false⟩

/-- `update`. -/
def update (a : AckTracker) (ranges : List AckRange) : AckTracker :=
  { a with acked := a.acked ∪ covered ranges, signalled := true }

/-- `complete`. -/
def complete (a : AckTracker) : Bool := a.acked.card % 2 ^ 32 ≥ a.total

/-- `missing`. -/
def missing (a : AckTracker) : List ℕ := (List.range a.total).filter fun seq => seq ∉ a.acked

end AckTracker

/-- The errors of `sendMessageWithAckMode` behind the allocation of the id. -/
inductive SendError where
  | split (reason : MessageError)
  | write
  | context
  | streamClosed
  | maxRetransmits
deriving DecidableEq

/-- Where a call of `sendMessageWithAckMode` is. -/
inductive SendPhase where
  /-- In front of `t.pending[messageId] = tracker`. -/
  | registering
  /-- In front of a write; `attempt` is that of the wait behind it. -/
  | writing (attempt : ℕ) (frames : List Frame)
  /-- In `waitAck`. -/
  | waiting (attempt : ℕ)
  | returned (result : Except SendError Unit)
deriving DecidableEq

/-- A call of `sendMessageWithAckMode` with the id it was given. -/
structure Send where
  messageId : ℕ
  message : GoMessage
  frames : List Frame
  tracker : AckTracker
  phase : SendPhase

/-- `<-tracker.ch`. -/
def Send.receive (s : Send) : Send := { s with tracker := { s.tracker with signalled := false } }

/-- The sending side of a stream. `pending` maps an id to the number of a call, whose tracker it
is. -/
structure Sender where
  connectionId : Bytes
  closed : Bool
  sends : List Send
  pending : GoMap ℕ ℕ

namespace Sender

/-- A new stream. -/
def new (connectionId : Bytes) : Sender := ⟨connectionId, false, [], .empty⟩

/-- The connection id on the frames of a message. -/
def stamp (t : Sender) (m : Message) (f : Frame) : Frame :=
  { f with connectionId := if m.header.connectionId ≠ [] then m.header.connectionId
                           else t.connectionId }

/-- `sendMessageWithAckMode` up to the tracker. The id is the next value of a 64-bit counter. -/
def start (t : Sender) (m : GoMessage) (size : FrameSize) : Sender :=
  if t.closed ∨ m.val.header.billingSequence ≠ 0 then t
  else
    let messageId := (t.sends.length + 1) % 2 ^ 64
    match m.val.splitToFrames messageId size with
    | .error reason =>
      { t with sends := t.sends ++ [⟨messageId, m, [], .new 0, .returned (.error (.split reason))⟩] }
    | .ok frames =>
      { t with
        sends := t.sends ++ [⟨messageId, m, frames.map (t.stamp m),
          .new (frames.length % 2 ^ 32), .registering⟩] }

/-- Call `n` changes itself. -/
def put (t : Sender) (n : ℕ) (s : Send) : Sender := { t with sends := t.sends.set n s }

/-- Call `n` returns; the deferred function removes the tracker. -/
def finish (t : Sender) (n : ℕ) (s : Send) (result : Except SendError Unit) : Sender :=
  { t.put n { s with phase := .returned result } with pending := t.pending.delete s.messageId }

/-- The frames of a retransmission. -/
def retransmission (s : Send) : List Frame :=
  (s.tracker.missing.filterMap fun seq => s.frames[seq]?).map fun f =>
    { f with frameType := frameTypeRetransmit }

/-- What happens to a call. -/
inductive SendEvent where
  | register
  /-- `writeFramesContext`; if it fails, that many frames are already written. -/
  | write (failedAfter : Option ℕ)
  /-- `waitAck` receives from `tracker.ch`. -/
  | signal
  /-- The timer of `waitAck` expires. -/
  | timeout
  /-- `ctx.Done()`. -/
  | cancel
  /-- `t.streamCtx.Done()`. -/
  | streamDone

/-- A step of call `n`; also returns the frames it writes. -/
def sendStep (t : Sender) (n : ℕ) (s : Send) (event : SendEvent) : Sender × List Frame :=
  match s.phase, event with
  | .registering, .register =>
    ({ t.put n { s with phase := .writing 0 s.frames } with
        pending := t.pending.set s.messageId n }, [])
  | .writing attempt frames, .write none => (t.put n { s with phase := .waiting attempt }, frames)
  | .writing _ frames, .write (some accepted) =>
    (t.finish n s (.error .write), frames.take accepted)
  | .waiting _, .signal =>
    if s.tracker.signalled then
      if s.tracker.complete then (t.finish n s.receive (.ok ()), []) else (t.put n s.receive, [])
    else (t, [])
  | .waiting attempt, .timeout =>
    if s.tracker.complete then (t.finish n s (.ok ()), [])
    else if attempt ≥ maxRetransmitAttempts then (t.finish n s (.error .maxRetransmits), [])
    else (t.put n { s with phase := .writing (attempt + 1) (retransmission s) }, [])
  | .waiting _, .cancel => (t.finish n s (.error .context), [])
  | .waiting _, .streamDone =>
    if t.closed then (t.finish n s (.error .streamClosed), []) else (t, [])
  | _, _ => (t, [])

/-- `failAndClose`: the pending trackers are signalled. -/
def failAndClose (t : Sender) : Sender :=
  { t with
    closed := true
    sends := t.sends.mapIdx fun n s =>
      if t.pending.get s.messageId = some n then
        { s with tracker := { s.tracker with signalled := true } }
      else s }

/-- `handleAck`. -/
def handleAck (t : Sender) (f : Frame) : Sender :=
  match t.pending.get f.messageId with
  | none => t
  | some n =>
    match decodeAckRanges f.payload with
    | .error _ => t.failAndClose
    | .ok ranges =>
      { t with sends := t.sends.modify n fun s => { s with tracker := s.tracker.update ranges } }

end Sender

/-! ## The receiver -/

/-- `recvTracker`; nothing reads its total. -/
structure RecvTracker where
  framesSinceAck : ℕ
  lastFrameTime : ℤ

/-- Where the goroutine is that reads frames. -/
inductive ReadPhase where
  /-- In `readFirstMessageSync`. -/
  | accepting
  /-- `AcceptTcpStreamSync` has returned. -/
  | accepted
  /-- In `ReadFrame`. -/
  | reading
  /-- In `handleData`: the message of the frame is not delivered. -/
  | checked (f : Frame)
  /-- Behind `Add`. -/
  | added (f : Frame) (message : Option Message)
  /-- Behind the update of the tracker. -/
  | tracked (f : Frame) (message : Option Message) (framesSinceAck : ℕ)
  /-- Behind the removal of the tracker. -/
  | untracked (f : Frame) (message : Message)
  /-- The message is marked as delivered and waits for room in the inbox. -/
  | marked (f : Frame) (message : Message)
  /-- Behind the `Snapshot` of a batch. -/
  | resetting (messageId total : ℕ) (ranges : List AckRange)
  /-- In front of `sendAck`. -/
  | acking (messageId total : ℕ) (ranges : List AckRange)
  | stopped
deriving DecidableEq

/-- Where `recvAckTimer` is. -/
inductive TimerPhase where
  | waiting
  /-- The ids that are due. -/
  | due (ids : List ℕ)
  /-- In front of `sendAck`. -/
  | acking (messageId total : ℕ) (ranges : List AckRange) (rest : List ℕ)
  | stopped

/-- What `AcceptTcpStreamSync` returned. -/
structure FirstMessage where
  messageId : ℕ
  totalFrames : ℕ
  message : Message

/-- The receiving side of a stream. `puts` is everything that was ever put into the inbox, with the
ids. -/
structure Receiver where
  connectionId : Bytes
  closed : Bool
  assembler : FrameAssembler
  recvTrackers : GoMap ℕ RecvTracker
  delivered : Finset ℕ
  inbox : List Message
  puts : List (ℕ × Message)
  first : Option FirstMessage
  read : ReadPhase
  timer : TimerPhase

/-- What is left to the environment in a step. -/
structure Turn where
  order : GoMap.Order ℕ
  now : ℤ
  /-- The `select` takes `streamCtx.Done()`. -/
  giveUp : Bool
  /-- The ACK frame is written. -/
  written : Bool

namespace Receiver

/-- A new stream, with its loops running or accepting its first message. -/
def new (connectionId : Bytes) (sync : Bool) : Receiver where
  connectionId
  closed := false
  assembler := .new
  recvTrackers := .empty
  delivered := ∅
  inbox := []
  puts := []
  first := none
  read := if sync then .accepting else .reading
  timer := if sync then .stopped else .waiting

/-- `failAndClose`, by the goroutine that reads. -/
def stop (r : Receiver) : Receiver := { r with closed := true, read := .stopped }

/-- A frame arrives. -/
def handleFrame (r : Receiver) (order : GoMap.Order ℕ) (f : Frame) : Receiver :=
  if r.closed then r
  else
    match r.read with
    | .accepting =>
      match r.assembler.add order f with
      | (.error _, assembler) => { r with assembler }.stop
      | (.ok none, assembler) => { r with assembler }
      | (.ok (some message), assembler) =>
        { r with
          assembler
          delivered := insert f.messageId r.delivered
          first := some ⟨f.messageId, f.totalFrames, message⟩
          read := .accepted }
    | .reading =>
      if f.messageId ∈ r.delivered then
        { r with read := .acking f.messageId f.totalFrames (fullAckRange f.totalFrames) }
      else { r with read := .checked f }
    | _ => r

/-- `sendAck`: the frame, unless the write fails. -/
def sendAck (r : Receiver) (turn : Turn) (messageId total : ℕ) (ranges : List AckRange) :
    Option Frame :=
  if r.closed ∨ ¬ turn.written then none
  else (buildAckFrame messageId total ranges r.connectionId).toOption

/-- The tracker of a message behind one more frame. -/
def nextTracker (r : Receiver) (messageId : ℕ) (now : ℤ) : RecvTracker :=
  ⟨((r.recvTrackers.get messageId).elim 0 RecvTracker.framesSinceAck) + 1, now⟩

/-- A step of `handleData`; also returns the ACK frame it writes. -/
def readStep (r : Receiver) (turn : Turn) : Receiver × Option Frame :=
  match r.read with
  | .checked f =>
    match r.assembler.add turn.order f with
    | (.error _, assembler) => ({ r with assembler }.stop, none)
    | (.ok message, assembler) => ({ r with assembler, read := .added f message }, none)
  | .added f message =>
    let tracker := r.nextTracker f.messageId turn.now
    ({ r with
        recvTrackers := r.recvTrackers.set f.messageId tracker
        read := .tracked f message tracker.framesSinceAck }, none)
  | .tracked f (some message) _ =>
    ({ r with
        recvTrackers := r.recvTrackers.delete f.messageId
        read := .untracked f message }, none)
  | .untracked f message =>
    ({ r with delivered := insert f.messageId r.delivered, read := .marked f message }, none)
  | .marked f message =>
    if r.closed ∧ turn.giveUp then (r.stop, none)
    else if r.inbox.length < inboxBufferSize then
      ({ r with
          inbox := r.inbox ++ [message]
          puts := r.puts ++ [(f.messageId, message)]
          read := .acking f.messageId f.totalFrames (fullAckRange f.totalFrames) }, none)
    else (r, none)
  | .tracked f none framesSinceAck =>
    if framesSinceAck ≥ ackBatchThreshold then
      match r.assembler.snapshot f.messageId with
      | none => ({ r with read := .reading }, none)
      | some (ranges, total) => ({ r with read := .resetting f.messageId total ranges }, none)
    else ({ r with read := .reading }, none)
  | .resetting messageId total ranges =>
    let recvTrackers :=
      match r.recvTrackers.get messageId with
      | none => r.recvTrackers
      | some tracker => r.recvTrackers.set messageId { tracker with framesSinceAck := 0 }
    ({ r with recvTrackers, read := .acking messageId total ranges }, none)
  | .acking messageId total ranges =>
    match r.sendAck turn messageId total ranges with
    | none => (r.stop, none)
    | some ack => ({ r with read := .reading }, some ack)
  | _ => (r, none)

/-- The tracker has been idle for long enough. -/
def idle (now : ℤ) (tracker : RecvTracker) : Bool :=
  now - tracker.lastFrameTime ≥ recvAckIdleTimeout

/-- The ids that are due. -/
def dueIDs (r : Receiver) (turn : Turn) : List ℕ :=
  (turn.order.visit r.recvTrackers.keys).filter fun id =>
    ((r.recvTrackers.get id).map (idle turn.now)).getD false

/-- A step of `recvAckTimer`; also returns the ACK frame it writes. -/
def timerStep (r : Receiver) (turn : Turn) : Receiver × Option Frame :=
  match r.timer with
  | .waiting =>
    if r.closed then ({ r with timer := .stopped }, none)
    else
      let ids := r.dueIDs turn
      ({ r with
          recvTrackers := ids.foldl (fun trackers id => trackers.set id ⟨0, turn.now⟩) r.recvTrackers
          timer := .due ids }, none)
  | .due [] => ({ r with timer := .waiting }, none)
  | .due (id :: rest) =>
    match r.assembler.snapshot id with
    | none => ({ r with timer := .due rest }, none)
    | some (ranges, total) => ({ r with timer := .acking id total ranges rest }, none)
  | .acking messageId total ranges rest =>
    match r.sendAck turn messageId total ranges with
    | none => ({ r with closed := true, timer := .stopped }, none)
    | some ack => ({ r with timer := .due rest }, some ack)
  | .stopped => (r, none)

/-- `AckFirstMessage`; also returns the ACK frame it writes. -/
def ackFirstMessage (r : Receiver) (turn : Turn) : Receiver × Option Frame :=
  match r.first with
  | none => (r, none)
  | some first =>
    if first.totalFrames = 0 then (r, none)
    else
      match r.sendAck turn first.messageId first.totalFrames (fullAckRange first.totalFrames) with
      | none => ({ r with closed := true }, none)
      | some ack => (r, some ack)

/-- `StartLoops`. -/
def startLoops (r : Receiver) : Receiver :=
  match r.read with
  | .accepted => { r with read := .reading, timer := .waiting }
  | _ => r

end Receiver

/-! ## The system -/

/-- Two streams and the frames that were written between them. -/
structure Link where
  sender : Sender
  receiver : Receiver
  data : List Frame
  acks : List Frame

namespace Link

/-- What happens. -/
inductive Event where
  /-- A call of `sendMessageWithAckMode`. -/
  | send (m : GoMessage) (size : FrameSize)
  | call (n : ℕ) (event : Sender.SendEvent)
  | closeSender
  | ackArrives (f : Frame)
  | dataArrives (order : GoMap.Order ℕ) (f : Frame)
  | read (turn : Turn)
  | timer (turn : Turn)
  /-- `NextMessage` takes a message out of the inbox. -/
  | nextMessage
  | ackFirstMessage (turn : Turn)
  | startLoops
  | closeReceiver

/-- Two new streams. -/
def new (senderID receiverID : Bytes) (sync : Bool) : Link :=
  ⟨.new senderID, .new receiverID sync, [], []⟩

/-- A step of the receiver that may write an ACK frame. -/
def received (l : Link) (result : Receiver × Option Frame) : Link :=
  { l with receiver := result.1, acks := l.acks ++ result.2.toList }

/-- One step. -/
def step (l : Link) : Event → Link
  | .send m size => { l with sender := l.sender.start m size }
  | .call n event =>
    match l.sender.sends[n]? with
    | none => l
    | some s =>
      { l with
        sender := (l.sender.sendStep n s event).1
        data := l.data ++ (l.sender.sendStep n s event).2 }
  | .closeSender => { l with sender := l.sender.failAndClose }
  | .ackArrives f => if f ∈ l.acks then { l with sender := l.sender.handleAck f } else l
  | .dataArrives order f =>
    if f ∈ l.data then { l with receiver := l.receiver.handleFrame order f } else l
  | .read turn => l.received (l.receiver.readStep turn)
  | .timer turn => l.received (l.receiver.timerStep turn)
  | .nextMessage => { l with receiver := { l.receiver with inbox := l.receiver.inbox.tail } }
  | .ackFirstMessage turn => l.received (l.receiver.ackFirstMessage turn)
  | .startLoops => { l with receiver := l.receiver.startLoops }
  | .closeReceiver => { l with receiver := { l.receiver with closed := true } }

/-- The state behind a list of events. -/
def run (l : Link) (events : List Event) : Link :=
  (runSteps (fun l event => (l.step event, ())) l events).1

end Link

end NatP2P.Network
