import NatP2P.Common.Run
import NatP2P.Network.Failover.Endpoint

/-!
# The threads of a relay endpoint

Reference: `networkFrameWork/frame_adapter.go` (`DualFrameRelayEndpoint`) and
`networkFrameWork/DualStream.go` (`handleLegFailure`, `detach`).

The calls of the endpoint run at the same time. A call is what is left of it: `Stage` has a case for
every place at which a call may be interrupted, which is before it takes a lock and before it writes
to a leg, and the stages that follow are its arguments. A function that calls another one and goes
on behind it hands over what comes next.

The table of legs belongs to `DualStream` and changes without the endpoint: `DualStream` enters a
new leg before it tells the endpoint, and takes a leg out before it tells the endpoint.

`written` and `collected` remember which frame was written to which leg for which message, and which
frame was read from which leg for which message. Nothing reads them. A close notice belongs to no
message.
-/

namespace NatP2P.Network

/-- `sameRelayFrameRun`. -/
def sameRelayFrameRun (first next : Frame) : Bool :=
  isRelayBatchDataFrame next ∧ first.messageId = next.messageId ∧
    first.connectionId = next.connectionId ∧ first.totalFrames = next.totalFrames

/-- Where a call is. -/
inductive FailoverStage where
  /-- behind the return -/
  | done
  /-- `HandleFrameBatch`, before the run at the front of the frames -/
  | handing (frames : List Frame)
  /-- `handleFrameRun`, before the write of a close notice -/
  | noticing (rest : List Frame)
  /-- `handleFrameRun`, before the write -/
  | writing (t : Ticket) (frames : List Frame) (next failed : FailoverStage)
  /-- `handleFrameRun`, behind the write of an ACK for the whole message -/
  | completing (t : Ticket) (next : FailoverStage)
  /-- `replayRoute`, at its beginning; `failed` is behind an error -/
  | replaying (t : Ticket) (next failed : FailoverStage)
  /-- `replayRoute`, before its lock -/
  | rebinding (t : Ticket) (next failed : FailoverStage)
  /-- a loop that writes frames again -/
  | sending (t : Ticket) (frames : List Frame) (next failed : FailoverStage)
  /-- such a loop that looks before every frame whether the route is still valid -/
  | checking (t : Ticket) (frames : List Frame) (next failed : FailoverStage)
  /-- that loop behind the look -/
  | checked (t : Ticket) (frame : Frame) (frames : List Frame) (next failed : FailoverStage)
  /-- `handleLegFailure`, before `detach` -/
  | leaving (id : LegID) (stream : ℕ) (next : FailoverStage)
  /-- `onLegDetached` -/
  | detached (id : LegID) (stream : ℕ) (next : FailoverStage)
  /-- `AttachStream`, at its beginning -/
  | attaching (kind : LegID) (stream : ℕ)
  /-- `AttachStream`, before its first lock -/
  | looking (kind : LegID) (stream : ℕ)
  /-- `AttachStream`, before its second lock -/
  | installing (kind : LegID) (stream : ℕ)
  /-- `AttachStream`, before its last look at the legs -/
  | attached (kind : LegID) (stream : ℕ)
  /-- `AttachStream`, behind a failed write -/
  | abandoning (kind : LegID) (adapter : TcpFrameAdapter)
  /-- `collect`, before it reads -/
  | collecting (kind : LegID) (adapter : TcpFrameAdapter)
  /-- `collect`, before it hands a frame to the relay -/
  | delivering (frame : Frame) (kind : LegID) (adapter : TcpFrameAdapter)
  /-- `maintainRoutes` -/
  | maintaining

/-- What the surroundings decide in a step. -/
structure FailoverMoment where
  /-- the clock -/
  now : ℤ
  /-- what `NextFrame` of an adapter returns; nothing when it fails -/
  read : Option Frame
  /-- whether the context of the stream is done -/
  cancelled : Bool
  /-- whether a write succeeds -/
  ok : Bool
  /-- how many frames a failed write has written -/
  written : ℕ
  /-- what `DualStream` says about its legs when it is asked for a message -/
  views : ℕ → LegView
  /-- the order in which loops meet the routes -/
  order : GoMap.Order ℕ
  /-- the order in which loops meet the legs -/
  legs : GoMap.Order LegID
  /-- bytes for each second, in floating point -/
  rate : ℤ → ℤ → ℤ
  /-- the time for some bytes, in floating point -/
  fraction : ℤ → ℤ

/-- A frame that was written to a leg, with the message and the route it belongs to. -/
structure SentFrame where
  adapter : TcpFrameAdapter
  frame : Frame
  logicalID : ℕ
  route : ℕ
deriving DecidableEq

/-- A frame that was read from a leg, with its message. -/
structure CollectedFrame where
  adapter : TcpFrameAdapter
  frame : Frame
  logicalID : ℕ
deriving DecidableEq

/-- An endpoint with the legs of its `DualStream` and its calls. -/
structure LegSystem where
  endpoint : DualFrameRelayEndpoint
  /-- `DualStream.legs` -/
  legs : GoMap LegID ℕ
  calls : List FailoverStage
  /-- what went into the channel `incoming` -/
  delivered : List Frame
  written : List SentFrame
  collected : List CollectedFrame
  /-- the ids that `AllocMessageId` returned -/
  allocated : List ℕ

namespace LegSystem

/-- A new endpoint. -/
def new (limits : RouteLimits) (frameIdGen : ℕ → ℕ) : LegSystem where
  endpoint := .new limits frameIdGen
  legs := .empty
  calls := []
  delivered := []
  written := []
  collected := []
  allocated := []

/-- Frames of a message are written to the leg of its route. -/
def write (s : LegSystem) (t : Ticket) (frames : List Frame) : LegSystem :=
  { s with written := s.written ++ frames.map fun frame =>
      ⟨t.endpoint, { frame with messageId := t.dstID }, t.logicalID, t.serial⟩ }

/-- The loop over the jobs that `onLegDetached` and `replayRoute` end with. A failed write is a
failure of the leg; `failed` says how the loop goes on behind that. -/
def sendAll (jobs : List ReplayJob) (failed : FailoverStage → FailoverStage)
    (next : FailoverStage) : FailoverStage :=
  jobs.foldr (fun job next => .sending job.ticket job.frames next
    (.leaving job.ticket.kind job.ticket.endpoint.stream (failed next))) next

/-- The loop over the jobs that `AttachStream` and `maintainRoutes` end with. -/
def checkAll (jobs : List ReplayJob) (failed : Ticket → FailoverStage → FailoverStage)
    (next : FailoverStage) : FailoverStage :=
  jobs.foldr (fun job next => .checking job.ticket job.frames next (failed job.ticket next)) next

/-- The run at the front of the frames of `HandleFrameBatch`, behind its first frame. -/
def frontRun (first : Frame) (rest : List Frame) : List Frame :=
  if isRelayBatchDataFrame first then rest.takeWhile (sameRelayFrameRun first) else []

/-- How `handleFrameRun` goes on with the route of its frames. -/
def writeRun (first : Frame) (run rest : List Frame) (t : Ticket) : FailoverStage :=
  .writing t (first :: run)
    (if isFullFrameAck first t.totalFrames then .completing t (.handing rest) else .handing rest)
    (.replaying t (.handing rest) .done)

/-- The leg of an adapter that is already there. -/
def attachedAlready (s : LegSystem) (kind : LegID) (stream : ℕ) : Bool :=
  (s.endpoint.adapters.get kind).elim false fun adapter => adapter.stream = stream

/-- `collect` with a frame. -/
def collect (s : LegSystem) (m : FailoverMoment) (kind : LegID) (adapter : TcpFrameAdapter)
    (frame : Frame) : LegSystem × FailoverStage :=
  let collected := s.endpoint.collectLocked kind adapter frame m.fraction
    (m.views frame.messageId) m.order m.now
  let s := { s with endpoint := collected.2 }
  match collected.1 with
  | .detached => (s, .done)
  | .refused _ => (s, .done)
  | .dropped => (s, .collecting kind adapter)
  | .passed out =>
    ({ s with collected :=
        if frame.frameType = frameTypeConnectionClose then s.collected
        else s.collected ++ [⟨adapter, frame, out.messageId⟩] },
      .delivering out kind adapter)

/-- `AttachStream` when it has the lock for the second time. -/
def install (s : LegSystem) (m : FailoverMoment) (kind : LegID) (stream : ℕ) :
    LegSystem × FailoverStage :=
  if s.endpoint.closed then (s, .done)
  else if s.attachedAlready kind stream then (s, .attached kind stream)
  else
    let adapter := s.endpoint.nextAdapter kind stream
    let installed := s.endpoint.installLocked kind stream m.order m.now
    ({ s with endpoint := installed.1, calls := s.calls ++ [.collecting kind adapter] },
      checkAll installed.2 (fun _ _ => .abandoning kind adapter) (.attached kind stream))

/-- A call goes on. -/
def resume (s : LegSystem) (m : FailoverMoment) : FailoverStage → LegSystem × FailoverStage
  | .done => (s, .done)
  | .handing [] => (s, .done)
  | .handing (first :: rest) =>
    if first.frameType = frameTypeConnectionClose then
      let handled := s.endpoint.handleCloseLocked first (m.views first.messageId)
      ({ s with endpoint := handled.2 },
        match handled.1 with
        | .error _ => .done
        | .ok _ => .noticing rest)
    else
      let run := frontRun first rest
      let rest := rest.drop run.length
      let handled := s.endpoint.handleFrameRunLocked first run (m.views first.messageId) m.order
        m.now
      ({ s with endpoint := handled.2 },
        match handled.1 with
        | .error _ => .done
        | .ok none => .handing rest
        | .ok (some t) => writeRun first run rest t)
  | .noticing rest => (s, if m.ok then .handing rest else .done)
  | .writing t frames next failed =>
    if m.ok then (s.write t frames, next) else (s.write t (frames.take m.written), failed)
  | .completing t next =>
    ({ s with endpoint :=
        s.endpoint.completeWritten t m.fraction (m.views t.logicalID) m.now }, next)
  | .replaying t next failed =>
    (s, if s.endpoint.isCurrent t.kind t.endpoint then
        .leaving t.kind t.endpoint.stream (.rebinding t next failed)
      else .rebinding t next failed)
  | .rebinding t next failed =>
    let replayed := s.endpoint.replayRouteLocked t (m.views t.logicalID)
    ({ s with endpoint := replayed.2 },
      match replayed.1 with
      | .failed _ => failed
      | .settled => next
      | .moved jobs => sendAll jobs (fun _ => failed) next)
  | .sending _ [] next _ => (s, next)
  | .sending t (frame :: frames) next failed =>
    if m.ok then (s.write t [frame], .sending t frames next failed)
    else (s.write t ([frame].take m.written), failed)
  | .checking _ [] next _ => (s, next)
  | .checking t (frame :: frames) next failed =>
    (s, if s.endpoint.stillValid t then .checked t frame frames next failed else next)
  | .checked t frame frames next failed =>
    if m.ok then (s.write t [frame], .checking t frames next failed)
    else (s.write t ([frame].take m.written), failed)
  | .leaving id stream next =>
    if s.legs.get id = some stream then
      ({ s with legs := s.legs.delete id }, .detached id stream next)
    else (s, next)
  | .detached id stream next =>
    let detached := s.endpoint.onLegDetachedLocked id stream m.views m.order
    ({ s with endpoint := detached.1 }, sendAll detached.2 (fun next => next) next)
  | .attaching kind stream =>
    (s, if s.legs.get kind = some stream then .looking kind stream else .done)
  | .looking kind stream =>
    (s, if s.endpoint.closed then .done
      else if s.attachedAlready kind stream then .attached kind stream
      else .installing kind stream)
  | .installing kind stream => s.install m kind stream
  | .attached kind stream =>
    (s, if s.legs.get kind = some stream then .done else .detached kind stream .done)
  | .abandoning kind adapter =>
    (s, if s.endpoint.isCurrent kind adapter then .leaving kind adapter.stream .done else .done)
  | .collecting kind adapter =>
    match m.read with
    | none =>
      (s, if !m.cancelled ∧ s.endpoint.isCurrent kind adapter then
          .leaving kind adapter.stream .done
        else .done)
    | some frame => s.collect m kind adapter frame
  | .delivering frame kind adapter =>
    if m.cancelled then (s, .done)
    else ({ s with delivered := s.delivered ++ [frame] }, .collecting kind adapter)
  | .maintaining =>
    let maintained := s.endpoint.maintainRoutesLocked m.rate m.fraction m.legs m.order (m.views 0)
      m.now
    ({ s with endpoint := maintained.1 },
      checkAll maintained.2 (fun t next => .replaying t next next) .done)

/-- The route that `replayRoute` moves when a call goes on. -/
def reboundRoute (s : LegSystem) (m : FailoverMoment) : FailoverStage → Option DualFrameRoute
  | .rebinding t _ _ =>
    match (s.endpoint.replayRouteLocked t (m.views t.logicalID)).1 with
    | .moved _ => s.endpoint.routes.get t.logicalID
    | _ => none
  | _ => none

/-- A call goes on, a call begins, or something happens around the endpoint. -/
inductive Event where
  | step (call : ℕ) (moment : FailoverMoment)
  /-- `HandleFrame` or `HandleFrameBatch` -/
  | handle (frames : List Frame)
  /-- `AttachStream` -/
  | attach (kind : LegID) (stream : ℕ)
  /-- `onLegDetached` -/
  | detach (kind : LegID) (stream : ℕ)
  /-- `handleLegFailure` -/
  | fail (kind : LegID) (stream : ℕ)
  /-- the ticker of `reapRoutes` -/
  | maintain
  /-- `Close`, or the end of `reapRoutes` -/
  | close (order : GoMap.Order ℕ)
  /-- `AllocMessageId` -/
  | allocMessageId
  /-- someone else takes an id from a stream -/
  | takeFrameId (stream : ℕ)
  /-- `DualStream` changes the leg under an id -/
  | leg (id : LegID) (stream : Option ℕ)

/-- A new call. -/
def begin (s : LegSystem) (stage : FailoverStage) : LegSystem :=
  { s with calls := s.calls ++ [stage] }

/-- The state behind an event. -/
def step (s : LegSystem) : Event → LegSystem
  | .step i moment =>
    match s.calls[i]? with
    | none => s
    | some stage =>
      let resumed := s.resume moment stage
      { resumed.1 with calls := resumed.1.calls.set i resumed.2 }
  | .handle frames => s.begin (.handing frames)
  | .attach kind stream => s.begin (.attaching kind stream)
  | .detach kind stream => s.begin (.detached kind stream .done)
  | .fail kind stream => s.begin (.leaving kind stream .done)
  | .maintain => s.begin .maintaining
  | .close order => { s with endpoint := s.endpoint.close order }
  | .allocMessageId =>
    { s with
      endpoint := { s.endpoint with logicalGen := s.endpoint.logicalGen + 1 }
      allocated := s.allocated ++ [FrameIdGenerator.next s.endpoint.logicalGen] }
  | .takeFrameId stream => { s with endpoint := s.endpoint.takeFrameId stream }
  | .leg id stream =>
    { s with legs := stream.elim (s.legs.delete id) (s.legs.set id) }

/-- The step as a machine without output. -/
def stepOutput (s : LegSystem) (event : Event) : LegSystem × Unit := (s.step event, ())

/-- The state behind a list of events. -/
def run (limits : RouteLimits) (frameIdGen : ℕ → ℕ) (events : List Event) : LegSystem :=
  (runSteps stepOutput (new limits frameIdGen) events).1

end LegSystem

end NatP2P.Network
