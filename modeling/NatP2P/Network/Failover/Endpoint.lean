import NatP2P.Common.Totals
import NatP2P.Common.Word
import NatP2P.Network.Failover.Quality

/-!
# A relay endpoint with several legs

Reference: `networkFrameWork/frame_adapter.go` (`DualFrameRelayEndpoint`).

A relay reaches a peer over several legs, each with its own numbers for messages. The endpoint gives
every message a logical id. A message that came in over a leg keeps a route back to that leg, under
the id that the peer gave it; a message that goes out gets a route to some leg, under an id of that
leg. When a leg fails, its outgoing routes move to other legs and get new ids there.

This module has the functions that run under the lock of the endpoint. What the other threads do
between them is in `Machine`. A pointer is a structure with a serial number: `adapterCount` and
`routeCount` are how many adapters and routes there were. The legs and their order belong to
`DualStream`, which has a lock of its own; what a function reads of them is its argument `LegView`.
A `FrameIdGenerator` is known by the number of ids that were taken from it, and hands out the next
one as a `uint64`.
-/

namespace NatP2P.Network

/-- `Next` of a `FrameIdGenerator` from which `taken` ids were taken before. -/
def FrameIdGenerator.next (taken : ℕ) : ℕ := add64 taken 1

/-- `TcpFrameAdapter`, with the `TcpStream` below it. `kind` is the leg that it was made for, which
the source does not keep in it. -/
structure TcpFrameAdapter where
  serial : ℕ
  stream : ℕ
  kind : LegID
deriving DecidableEq

/-- `frameEndpointKey`. -/
structure FrameEndpointKey where
  kind : LegID
  adapter : TcpFrameAdapter
  connId : Bytes
  messageID : ℕ
deriving DecidableEq

/-- `dualFrameRoute`. `time.Time{}` is 0. -/
structure DualFrameRoute where
  serial : ℕ
  kind : LegID
  endpoint : TcpFrameAdapter
  dstID : ℕ
  totalFrames : ℕ
  framesBySeq : GoMap ℕ Frame
  sourceKey : Option FrameEndpointKey
  ackKeys : Finset FrameEndpointKey
  cachedBytes : ℤ
  createdAt : ℤ
  lastActive : ℤ
  completedAt : ℤ
  generation : ℕ
  replayOff : Bool
  quality : RouteQuality

/-- The limits of an endpoint. -/
structure RouteLimits where
  maxBytes : ℕ
  maxRouteBytes : ℕ
  maxRoutes : ℕ

/-- The limits that `NewDualFrameRelayEndpoint` sets. -/
def RouteLimits.default : RouteLimits where
  maxBytes := 64 * 2 ^ 20
  maxRouteBytes := 16 * 2 ^ 20
  maxRoutes := 8192

/-- `frameRelayRouteTTL`. -/
def frameRelayRouteTTL : ℤ := 120 * second

/-- `frameRelayCompletedRouteTTL`. -/
def frameRelayCompletedRouteTTL : ℤ := 90 * second

/-- `DualFrameRelayEndpoint`. `logicalGen` counts the logical ids that were taken, and `frameIdGen`
the ids that were taken from each `TcpStream`. The id that was taken from a stream for a message
stays in `owners`, which no function reads. -/
structure DualFrameRelayEndpoint where
  adapters : GoMap LegID TcpFrameAdapter
  incomingIDs : GoMap FrameEndpointKey ℕ
  ackIDs : GoMap FrameEndpointKey ℕ
  logicalGen : ℕ
  routes : GoMap ℕ DualFrameRoute
  quality : LegQuality
  cachedBytes : ℤ
  limits : RouteLimits
  closed : Bool
  frameIdGen : ℕ → ℕ
  adapterCount : ℕ
  routeCount : ℕ
  owners : GoMap (ℕ × ℕ) ℕ

/-- What `DualStream` says about its legs: the preferred leg and the order of the legs. `now` is the
time at which it is asked. -/
structure LegView where
  preferred : Option LegID
  order : List LegID
  now : ℤ

/-- What a call keeps of a route when it lets go of the lock. -/
structure Ticket where
  logicalID : ℕ
  serial : ℕ
  kind : LegID
  endpoint : TcpFrameAdapter
  dstID : ℕ
  generation : ℕ
  totalFrames : ℕ
deriving DecidableEq

/-- A route as a ticket. -/
def DualFrameRoute.ticket (route : DualFrameRoute) (logicalID : ℕ) : Ticket :=
  ⟨logicalID, route.serial, route.kind, route.endpoint, route.dstID, route.generation,
    route.totalFrames⟩

/-- Frames to write again, with the route they go. -/
structure ReplayJob where
  ticket : Ticket
  frames : List Frame

/-- The errors of the endpoint. -/
inductive FrameRelayError where
  | endpointClosed
  | streamClosed
  | invalidCloseFrame
  | mixedBatch
  | controlInBatch
  | invalidSequence
  | unsupportedType
  | routeLimitExceeded
  | totalFramesChanged
  | framesDisagree
  | replayCacheUnavailable
deriving DecidableEq

/-- `cachedFrameBytes`. -/
def cachedFrameBytes (frame : Frame) : ℤ :=
  frameHeaderLength + frame.connectionId.length + frame.payload.length + 128

namespace DualFrameRelayEndpoint

/-- `NewDualFrameRelayEndpoint`, over streams whose counters are somewhere. -/
def new (limits : RouteLimits) (frameIdGen : ℕ → ℕ) : DualFrameRelayEndpoint where
  adapters := .empty
  incomingIDs := .empty
  ackIDs := .empty
  logicalGen := 0
  routes := .empty
  quality := .new
  cachedBytes := 0
  limits
  closed := false
  frameIdGen
  adapterCount := 0
  routeCount := 0
  owners := .empty

/-- A route in the table changes. -/
def put (e : DualFrameRelayEndpoint) (logicalID : ℕ) (route : DualFrameRoute) :
    DualFrameRelayEndpoint :=
  { e with routes := e.routes.set logicalID route }

/-! ## Legs -/

/-- The first leg of a list that meets a condition and has an adapter. -/
def firstAttached (e : DualFrameRelayEndpoint) (order : List LegID) (p : LegID → Bool) :
    Option (LegID × TcpFrameAdapter) :=
  order.findSome? fun id => if p id then (e.adapters.get id).map fun adapter => (id, adapter)
    else none

/-- The preferred leg, if it has an adapter and is not excluded. -/
def preferredAdapter (e : DualFrameRelayEndpoint) (view : LegView) (exclude : Option LegID) :
    Option (LegID × TcpFrameAdapter) :=
  if view.preferred = exclude then none
  else view.preferred.bind fun id => (e.adapters.get id).map fun adapter => (id, adapter)

/-- `chooseAdapterLocked`. -/
def chooseAdapterLocked (e : DualFrameRelayEndpoint) (view : LegView) (exclude : Option LegID) :
    Option (LegID × TcpFrameAdapter) :=
  (if (∃ id ∈ view.preferred, id.family = .kcp) ∧ view.now < e.quality.kcpCooldown then
      e.firstAttached view.order fun id => some id ≠ exclude ∧ id.family = .tcp
    else none) <|>
  e.preferredAdapter view exclude <|>
  e.firstAttached view.order fun id => some id ≠ exclude ∧ some id ≠ view.preferred

/-- `isCurrent`. -/
def isCurrent (e : DualFrameRelayEndpoint) (kind : LegID) (adapter : TcpFrameAdapter) : Bool :=
  !e.closed ∧ e.adapters.get kind = some adapter

/-! ## Routes -/

/-- `bindAckKeyLocked`: ACKs under `dstID` belong to the message. -/
def bindAckKeyLocked (e : DualFrameRelayEndpoint) (logicalID : ℕ) (route : DualFrameRoute)
    (kind : LegID) (adapter : TcpFrameAdapter) (dstID : ℕ) : DualFrameRelayEndpoint :=
  let key : FrameEndpointKey := ⟨kind, adapter, [], dstID⟩
  { e with
    ackIDs := e.ackIDs.set key logicalID
    routes := e.routes.set logicalID { route with ackKeys := insert key route.ackKeys }
    owners := e.owners.set (adapter.stream, dstID) logicalID }

/-- `AllocMessageId` of an adapter. -/
def takeFrameId (e : DualFrameRelayEndpoint) (stream : ℕ) : DualFrameRelayEndpoint :=
  { e with frameIdGen := Function.update e.frameIdGen stream (e.frameIdGen stream + 1) }

/-- A route moves to another adapter, under a new id. The four ways of failover have these lines in
common. -/
def moveRoute (e : DualFrameRelayEndpoint) (logicalID : ℕ) (route : DualFrameRoute) (kind : LegID)
    (adapter : TcpFrameAdapter) (now : ℤ) : DualFrameRelayEndpoint :=
  let dstID := FrameIdGenerator.next (e.frameIdGen adapter.stream)
  (e.takeFrameId adapter.stream).bindAckKeyLocked logicalID
    { route with
      kind, endpoint := adapter, dstID
      generation := route.generation + 1
      lastActive := now } kind adapter dstID

/-- `releaseRouteFramesLocked`. -/
def releaseRouteFramesLocked (e : DualFrameRelayEndpoint) (logicalID : ℕ) (route : DualFrameRoute) :
    DualFrameRelayEndpoint :=
  { e with
    quality := e.quality.release route.quality
    cachedBytes := max 0 (e.cachedBytes - route.cachedBytes)
    routes := e.routes.set logicalID
      { route with
        cachedBytes := 0
        framesBySeq := .empty
        quality := { route.quality with payloadBytes := 0, qualitySent := 0, qualityAcked := 0 } } }

/-- `removeRouteLocked`. -/
def removeRouteLocked (e : DualFrameRelayEndpoint) (logicalID : ℕ) : DualFrameRelayEndpoint :=
  match e.routes.get logicalID with
  | none => e
  | some route =>
    let e := e.releaseRouteFramesLocked logicalID route
    { e with
      incomingIDs :=
        match route.sourceKey with
        | none => e.incomingIDs
        | some key =>
          if e.incomingIDs.get key = some logicalID then e.incomingIDs.delete key
          else e.incomingIDs
      ackIDs := e.ackIDs.retain fun key =>
        ¬ (key ∈ route.ackKeys ∧ e.ackIDs.get key = some logicalID)
      routes := e.routes.delete logicalID }

/-- The route is too old for `sweepExpiredLocked`. -/
def expired (route : DualFrameRoute) (now : ℤ) : Bool :=
  if route.completedAt ≠ 0 then now - route.lastActive ≥ frameRelayCompletedRouteTTL
  else
    let lastActive := if route.lastActive = 0 then route.createdAt else route.lastActive
    lastActive ≠ 0 ∧ now - lastActive ≥ frameRelayRouteTTL

/-- One round of `sweepExpiredLocked`. -/
def sweepRoute (now : ℤ) (e : DualFrameRelayEndpoint) (logicalID : ℕ) : DualFrameRelayEndpoint :=
  match e.routes.get logicalID with
  | none => e
  | some route => if expired route now then e.removeRouteLocked logicalID else e

/-- `sweepExpiredLocked`. -/
def sweepExpiredLocked (e : DualFrameRelayEndpoint) (order : GoMap.Order ℕ) (now : ℤ) :
    DualFrameRelayEndpoint :=
  (order.visit e.routes.keys).foldl (sweepRoute now) e

/-- One round of the search for the route that was completed first. An id of 0 means that none was
found yet. -/
def olderRoute (e : DualFrameRelayEndpoint) (oldest : ℕ × ℤ) (logicalID : ℕ) : ℕ × ℤ :=
  match e.routes.get logicalID with
  | none => oldest
  | some route =>
    if route.completedAt = 0 then oldest
    else if oldest.1 = 0 ∨ route.completedAt < oldest.2 then (logicalID, route.completedAt)
    else oldest

/-- The loop of `ensureRouteSlotLocked`. Every round takes a route out of the table. -/
def freeSlot (order : GoMap.Order ℕ) : ℕ → DualFrameRelayEndpoint → Bool × DualFrameRelayEndpoint
  | 0, e => (e.routes.len < e.limits.maxRoutes, e)
  | fuel + 1, e =>
    if e.routes.len < e.limits.maxRoutes then (true, e)
    else
      let oldest := (order.visit e.routes.keys).foldl e.olderRoute (0, 0)
      if oldest.1 = 0 then (false, e) else freeSlot order fuel (e.removeRouteLocked oldest.1)

/-- `ensureRouteSlotLocked`. -/
def ensureRouteSlotLocked (e : DualFrameRelayEndpoint) (order : GoMap.Order ℕ) (now : ℤ) :
    Bool × DualFrameRelayEndpoint :=
  if e.limits.maxRoutes = 0 then (false, e)
  else if e.routes.len < e.limits.maxRoutes then (true, e)
  else
    let e := e.sweepExpiredLocked order now
    freeSlot order e.routes.len e

/-! ## Frames in -/

/-- `observeAckProgressLocked`. -/
def observeAckProgressLocked (e : DualFrameRelayEndpoint) (logicalID : ℕ) (route : DualFrameRoute)
    (frame : Frame) (now : ℤ) : DualFrameRelayEndpoint :=
  let counted := acknowledgeFramePayload frame route.totalFrames route.quality.ackProgress
    fun sequence => (route.framesBySeq.get sequence).map fun cached => cached.payload.length
  let quality := { route.quality with ackProgress := counted.2 }
  match counted.1 with
  | none => e.put logicalID route
  | some (ackedBytes, ackedFrames) =>
    if ackedFrames = 0 then e.put logicalID { route with quality }
    else
      let observed := e.quality.observeKCPDataAckedLocked quality route.sourceKey.isNone route.kind
        ackedBytes now
      { e with quality := observed.1 }.put logicalID
        { route with
          quality := { observed.2 with
            ackedBytes := observed.2.ackedBytes + ackedBytes
            lastAckAt := now } }

/-- A message that came in gets a logical id and a route back. -/
def admitRoute (e : DualFrameRelayEndpoint) (key : FrameEndpointKey) (totalFrames : ℕ) (now : ℤ) :
    DualFrameRelayEndpoint :=
  { e with
    logicalGen := e.logicalGen + 1
    routeCount := e.routeCount + 1
    incomingIDs := e.incomingIDs.set key (FrameIdGenerator.next e.logicalGen)
    routes := e.routes.set (FrameIdGenerator.next e.logicalGen)
      { serial := e.routeCount
        kind := key.kind
        endpoint := key.adapter
        dstID := key.messageID
        totalFrames
        framesBySeq := .empty
        sourceKey := some key
        ackKeys := ∅
        cachedBytes := 0
        createdAt := now
        lastActive := now
        completedAt := 0
        generation := 0
        replayOff := false
        quality := .new } }

/-- `resolveIncomingFrameLocked`: the logical id of a frame, or nothing when the frame belongs to no
message. -/
def resolveIncomingFrameLocked (e : DualFrameRelayEndpoint) (kind : LegID)
    (adapter : TcpFrameAdapter) (frame : Frame) (order : GoMap.Order ℕ) (now : ℤ) :
    Except FrameRelayError (Option ℕ) × DualFrameRelayEndpoint :=
  if frame.frameType = frameTypeAck then
    let key : FrameEndpointKey := ⟨kind, adapter, [], frame.messageId⟩
    match e.ackIDs.get key with
    | none => (.ok none, e)
    | some logicalID =>
      match e.routes.get logicalID with
      | none => (.ok none, { e with ackIDs := e.ackIDs.delete key })
      | some route =>
        (.ok (some logicalID),
          e.observeAckProgressLocked logicalID { route with lastActive := now } frame now)
  else if ¬ isRelayBatchDataFrame frame then (.ok none, e)
  else if frame.totalFrames = 0 ∨ frame.seqId ≥ frame.totalFrames then (.error .invalidSequence, e)
  else
    let key : FrameEndpointKey := ⟨kind, adapter, frame.connectionId, frame.messageId⟩
    let known := (e.incomingIDs.get key).bind fun logicalID =>
      (e.routes.get logicalID).map fun route => (logicalID, route)
    match known with
    | some (logicalID, route) =>
      if route.totalFrames ≠ frame.totalFrames then (.error .framesDisagree, e)
      else (.ok (some logicalID), e.put logicalID { route with lastActive := now })
    | none =>
      -- an id without a route is forgotten
      let slot := { e with incomingIDs := e.incomingIDs.delete key }.ensureRouteSlotLocked order now
      if !slot.1 then (.error .routeLimitExceeded, slot.2)
      else
        (.ok (some (FrameIdGenerator.next slot.2.logicalGen)),
          slot.2.admitRoute key frame.totalFrames now)

/-- `completeRouteLocked` with `observeCompletedRouteLocked`. The leg that they recommend is left to
`DualStream`. -/
def completeRouteLocked (e : DualFrameRelayEndpoint) (logicalID : ℕ) (fraction : ℤ → ℤ)
    (view : LegView) (now : ℤ) : DualFrameRelayEndpoint :=
  match e.routes.get logicalID with
  | none => e
  | some route =>
    let observed :=
      if route.completedAt ≠ 0 ∨ route.sourceKey.isSome ∨ route.kind.family ≠ .kcp ∨
          !route.quality.sourceDone ∨ route.quality.submittedAt = 0 ∨
          now < route.quality.submittedAt then
        e.quality
      else
        (e.quality.observeCompleted fraction route.quality route.kind
          ((e.firstAttached view.order fun id => id.family = .tcp).map Prod.fst) now).1
    { e with quality := observed }.releaseRouteFramesLocked logicalID
      { route with
        completedAt := if route.completedAt = 0 then now else route.completedAt
        lastActive := now }

/-- What `collect` does with a frame. -/
inductive CollectOutcome where
  /-- the adapter is not the one of its leg any more -/
  | detached
  /-- the state does not allow the frame, and the stream is closed -/
  | refused (error : FrameRelayError)
  /-- the frame belongs to no message -/
  | dropped
  /-- the frame goes to the relay -/
  | passed (frame : Frame)
deriving DecidableEq

/-- What `collect` does under the lock with a frame of an adapter. -/
def collectLocked (e : DualFrameRelayEndpoint) (kind : LegID) (adapter : TcpFrameAdapter)
    (frame : Frame) (fraction : ℤ → ℤ) (view : LegView) (order : GoMap.Order ℕ) (now : ℤ) :
    CollectOutcome × DualFrameRelayEndpoint :=
  if e.closed ∨ e.adapters.get kind ≠ some adapter then (.detached, e)
  else if frame.frameType = frameTypeConnectionClose then (.passed frame, e)
  else
    let resolved := e.resolveIncomingFrameLocked kind adapter frame order now
    match resolved.1 with
    | .error error => (.refused error, resolved.2)
    | .ok none => (.dropped, resolved.2)
    | .ok (some logicalID) =>
      let full := (resolved.2.routes.get logicalID).elim false fun route =>
        isFullFrameAck frame route.totalFrames
      (.passed { frame with messageId := logicalID },
        if full then resolved.2.completeRouteLocked logicalID fraction view now else resolved.2)

/-! ## Frames out -/

/-- `markRouteFrameSubmittedLocked`. -/
def markRouteFrameSubmittedLocked (route : DualFrameRoute) (frame : Frame) (now : ℤ) :
    DualFrameRoute :=
  if route.quality.sourceDone ∨ ¬ isRelayBatchDataFrame frame ∨ frame.totalFrames = 0 ∨
      frame.totalFrames ≠ route.totalFrames ∨ (frame.seqId + 1) % 2 ^ 32 ≠ frame.totalFrames then
    route
  else { route with quality := { route.quality with sourceDone := true, submittedAt := now } }

/-- `cacheFrameLocked` behind its first checks: the frame that the new one replaces is taken out. -/
def dropCached (e : DualFrameRelayEndpoint) (route : DualFrameRoute) (seqId : ℕ) :
    DualFrameRelayEndpoint × DualFrameRoute :=
  match route.framesBySeq.get seqId with
  | none => (e, route)
  | some existing =>
    ({ e with cachedBytes := e.cachedBytes - cachedFrameBytes existing },
      { route with
        cachedBytes := route.cachedBytes - cachedFrameBytes existing
        framesBySeq := route.framesBySeq.delete seqId })

/-- `cacheFrameLocked`. A route whose frames do not fit gives up all of them. -/
def cacheFrameLocked (e : DualFrameRelayEndpoint) (logicalID : ℕ) (route : DualFrameRoute)
    (frame : Frame) : DualFrameRelayEndpoint :=
  if route.replayOff ∨
      ((route.framesBySeq.get frame.seqId).isSome ∧ frame.frameType ≠ frameTypeAck) then
    e.put logicalID route
  else
    let dropped := e.dropCached route frame.seqId
    let e := dropped.1
    let route := dropped.2
    let size := cachedFrameBytes frame
    let quality := { route.quality with
      payloadBytes := route.quality.payloadBytes +
        if isRelayBatchDataFrame frame then (frame.payload.length : ℤ) else 0 }
    if route.cachedBytes + size > e.limits.maxRouteBytes ∨
        e.cachedBytes + size > e.limits.maxBytes then
      { e with
        quality := e.quality.release route.quality
        cachedBytes := max 0 (e.cachedBytes - route.cachedBytes) }.put logicalID
        { route with
          cachedBytes := 0
          framesBySeq := .empty
          replayOff := true
          quality := { route.quality with qualitySent := 0, qualityAcked := 0 } }
    else
      { e with cachedBytes := e.cachedBytes + size }.put logicalID
        { route with
          framesBySeq := route.framesBySeq.set frame.seqId frame
          cachedBytes := route.cachedBytes + size
          quality }

/-- One round of the loop of `handleFrameRun` over its frames. -/
def submitFrame (logicalID : ℕ) (now : ℤ) (e : DualFrameRelayEndpoint) (frame : Frame) :
    DualFrameRelayEndpoint :=
  match e.routes.get logicalID with
  | none => e
  | some route =>
    e.cacheFrameLocked logicalID (markRouteFrameSubmittedLocked route frame now) frame

/-- The end of that part of `handleFrameRun`: a message that is complete counts as sent. -/
def observeSubmitted (e : DualFrameRelayEndpoint) (logicalID : ℕ) (now : ℤ) :
    DualFrameRelayEndpoint :=
  match e.routes.get logicalID with
  | none => e
  | some route =>
    if route.quality.sourceDone ∧ route.quality.qualitySent = 0 then
      let sent := e.quality.observeKCPDataSentLocked route.quality route.sourceKey.isNone route.kind
        route.quality.payloadBytes now
      let acked :=
        if sent.2.ackedBytes > 0 then
          sent.1.observeKCPDataAckedLocked sent.2 route.sourceKey.isNone route.kind
            (min sent.2.ackedBytes sent.2.qualitySent) now
        else sent
      { e with quality := acked.1 }.put logicalID { route with quality := acked.2 }
    else e

/-- The frames of a run go into the cache of their route. -/
def submitFrames (e : DualFrameRelayEndpoint) (logicalID : ℕ) (frames : List Frame) (now : ℤ) :
    DualFrameRelayEndpoint :=
  match e.routes.get logicalID with
  | none => e
  | some route =>
    let e := e.put logicalID { route with lastActive := now }
    if route.completedAt = 0 then
      (frames.foldl (submitFrame logicalID now) e).observeSubmitted logicalID now
    else e

/-- A message that goes out gets a route. -/
def openRoute (e : DualFrameRelayEndpoint) (frame : Frame) (kind : LegID)
    (adapter : TcpFrameAdapter) (now : ℤ) : DualFrameRelayEndpoint :=
  let dstID := FrameIdGenerator.next (e.frameIdGen adapter.stream)
  { e.takeFrameId adapter.stream with routeCount := e.routeCount + 1 }.bindAckKeyLocked
    frame.messageId
    { serial := e.routeCount
      kind, endpoint := adapter, dstID
      totalFrames := frame.totalFrames
      framesBySeq := .empty
      sourceKey := none
      ackKeys := ∅
      cachedBytes := 0
      createdAt := now
      lastActive := now
      completedAt := 0
      generation := 1
      replayOff := false
      quality := .new } kind adapter dstID

/-- `handleFrameRun` looks for the route of its first frame. The answer `false` is an ACK without a
route, which is given up silently. -/
def findRoute (e : DualFrameRelayEndpoint) (frame : Frame) (view : LegView)
    (order : GoMap.Order ℕ) (now : ℤ) : Except FrameRelayError Bool × DualFrameRelayEndpoint :=
  match e.routes.get frame.messageId with
  | some route =>
    if route.totalFrames ≠ frame.totalFrames ∧ frame.totalFrames ≠ 0 then
      (.error .totalFramesChanged, e)
    else (.ok true, e)
  | none =>
    if frame.frameType = frameTypeAck then (.ok false, e)
    else if ¬ isRelayBatchDataFrame frame then (.error .unsupportedType, e)
    else if frame.totalFrames = 0 ∨ frame.seqId ≥ frame.totalFrames then
      (.error .invalidSequence, e)
    else
      let slot := e.ensureRouteSlotLocked order now
      if !slot.1 then (.error .routeLimitExceeded, slot.2)
      else
        match slot.2.chooseAdapterLocked view none with
        | none => (.error .streamClosed, slot.2)
        | some (kind, adapter) => (.ok true, slot.2.openRoute frame kind adapter now)

/-- The checks of `handleFrameRun` on one frame of a run. -/
def checkCandidate (first : Frame) (several : Bool) (candidate : Frame) :
    Except FrameRelayError Unit := do
  check (candidate.messageId ≠ first.messageId ∨ candidate.connectionId ≠ first.connectionId ∨
    candidate.totalFrames ≠ first.totalFrames) .mixedBatch
  check (several ∧ ¬ isRelayBatchDataFrame candidate) .controlInBatch
  check (isRelayBatchDataFrame candidate ∧
    (candidate.totalFrames = 0 ∨ candidate.seqId ≥ candidate.totalFrames)) .invalidSequence

/-- `handleFrameRun` up to the write, for frames that are not a close notice. -/
def handleFrameRunLocked (e : DualFrameRelayEndpoint) (first : Frame) (rest : List Frame)
    (view : LegView) (order : GoMap.Order ℕ) (now : ℤ) :
    Except FrameRelayError (Option Ticket) × DualFrameRelayEndpoint :=
  match (first :: rest).forM (checkCandidate first (rest ≠ [])) with
  | .error error => (.error error, e)
  | .ok () =>
    if e.closed then (.error .endpointClosed, e)
    else
      let found := e.findRoute first view order now
      match found.1 with
      | .error error => (.error error, found.2)
      | .ok false => (.ok none, found.2)
      | .ok true =>
        let e := found.2.submitFrames first.messageId (first :: rest) now
        (.ok ((e.routes.get first.messageId).map fun route => route.ticket first.messageId), e)

/-- `handleFrameRun` up to the write, for a close notice. -/
def handleCloseLocked (e : DualFrameRelayEndpoint) (frame : Frame) (view : LegView) :
    Except FrameRelayError (TcpFrameAdapter × Frame) × DualFrameRelayEndpoint :=
  if frame.connectionId = [] then (.error .invalidCloseFrame, e)
  else if e.closed then (.error .endpointClosed, e)
  else
    match e.chooseAdapterLocked view none with
    | none => (.error .streamClosed, e)
    | some (_, adapter) =>
      let messageId := FrameIdGenerator.next (e.frameIdGen adapter.stream)
      (.ok (adapter, { frame with messageId }), e.takeFrameId adapter.stream)

/-- `handleFrameRun` behind the write of an ACK for the whole message. -/
def completeWritten (e : DualFrameRelayEndpoint) (t : Ticket) (fraction : ℤ → ℤ) (view : LegView)
    (now : ℤ) : DualFrameRelayEndpoint :=
  match e.routes.get t.logicalID with
  | none => e
  | some route =>
    if route.serial = t.serial ∧ route.generation = t.generation then
      e.completeRouteLocked t.logicalID fraction view now
    else e

/-! ## Failover -/

/-- `dropAdapterAckKeysLocked`. -/
def dropAdapterAckKeysLocked (e : DualFrameRelayEndpoint) (logicalID : ℕ) (route : DualFrameRoute)
    (adapter : TcpFrameAdapter) : DualFrameRelayEndpoint :=
  { e with
    ackIDs := e.ackIDs.retain fun key => ¬ (key ∈ route.ackKeys ∧ key.adapter = adapter)
    routes := e.routes.set logicalID
      { route with ackKeys := route.ackKeys.filter fun key => key.adapter ≠ adapter } }

/-- `dropAdapterIndexesLocked`. -/
def dropAdapterIndexesLocked (e : DualFrameRelayEndpoint) (adapter : TcpFrameAdapter) :
    DualFrameRelayEndpoint :=
  { e with
    incomingIDs := e.incomingIDs.retain fun key => key.adapter ≠ adapter
    ackIDs := e.ackIDs.retain fun key => key.adapter ≠ adapter }

/-- A route and its frames, to be written again. -/
def replayJob (e : DualFrameRelayEndpoint) (logicalID : ℕ) : List ReplayJob :=
  match e.routes.get logicalID with
  | none => []
  | some route => [⟨route.ticket logicalID, orderedFrames route.framesBySeq⟩]

/-- One round of the loop of `replaceAdapterLocked`. -/
def replaceRoute (kind : LegID) (previous replacement : TcpFrameAdapter) (now : ℤ)
    (done : DualFrameRelayEndpoint × List ReplayJob) (logicalID : ℕ) :
    DualFrameRelayEndpoint × List ReplayJob :=
  match done.1.routes.get logicalID with
  | none => done
  | some route =>
    let e := done.1.dropAdapterAckKeysLocked logicalID route previous
    let route := { route with ackKeys := route.ackKeys.filter fun key => key.adapter ≠ previous }
    if (∃ key ∈ route.sourceKey, key.adapter = previous) ∨
        (route.endpoint = previous ∧ route.completedAt ≠ 0) then
      (e.removeRouteLocked logicalID, done.2)
    else if route.endpoint ≠ previous then (e, done.2)
    else
      let e := e.moveRoute logicalID route kind replacement now
      (e, if route.replayOff then done.2 else done.2 ++ e.replayJob logicalID)

/-- `replaceAdapterLocked`. -/
def replaceAdapterLocked (e : DualFrameRelayEndpoint) (kind : LegID)
    (previous replacement : TcpFrameAdapter) (order : GoMap.Order ℕ) (now : ℤ) :
    DualFrameRelayEndpoint × List ReplayJob :=
  if previous = replacement then (e, [])
  else
    let done := (order.visit e.routes.keys).foldl (replaceRoute kind previous replacement now)
      (e, [])
    (done.1.dropAdapterIndexesLocked previous, done.2)

/-- The adapters whose routes a new adapter takes over: the one before it, or those that routes of
the leg still name. -/
def previousAdapters (e : DualFrameRelayEndpoint) (kind : LegID) (order : GoMap.Order ℕ) :
    List TcpFrameAdapter :=
  match e.adapters.get kind with
  | some previous => [previous]
  | none =>
    ((order.visit e.routes.keys).filterMap fun logicalID =>
      (e.routes.get logicalID).bind fun route =>
        if route.kind = kind then some route.endpoint else none).eraseDups

/-- `NewTcpFrameAdapter`: the adapter that the next `AttachStream` makes. -/
def nextAdapter (e : DualFrameRelayEndpoint) (kind : LegID) (stream : ℕ) : TcpFrameAdapter :=
  ⟨e.adapterCount, stream, kind⟩

/-- A new adapter becomes the adapter of its leg. -/
def enterAdapter (e : DualFrameRelayEndpoint) (kind : LegID) (stream : ℕ) : DualFrameRelayEndpoint :=
  { e with
    adapters := e.adapters.set kind (e.nextAdapter kind stream)
    adapterCount := e.adapterCount + 1 }

/-- What `AttachStream` does when it has the lock for the second time and the leg is new. -/
def installLocked (e : DualFrameRelayEndpoint) (kind : LegID) (stream : ℕ)
    (order : GoMap.Order ℕ) (now : ℤ) : DualFrameRelayEndpoint × List ReplayJob :=
  (e.previousAdapters kind order).foldl
    (fun done previous =>
      let replaced := done.1.replaceAdapterLocked kind previous (e.nextAdapter kind stream) order now
      (replaced.1, done.2 ++ replaced.2)) (e.enterAdapter kind stream, [])

/-- One round of the loop of `onLegDetached`. -/
def detachRoute (id : LegID) (failed : TcpFrameAdapter) (views : ℕ → LegView)
    (done : DualFrameRelayEndpoint × List ReplayJob) (logicalID : ℕ) :
    DualFrameRelayEndpoint × List ReplayJob :=
  match done.1.routes.get logicalID with
  | none => done
  | some route =>
    let e := done.1.dropAdapterAckKeysLocked logicalID route failed
    let route := { route with ackKeys := route.ackKeys.filter fun key => key.adapter ≠ failed }
    if route.kind ≠ id ∨ route.endpoint ≠ failed then (e, done.2)
    else if route.sourceKey.isSome ∨ route.completedAt ≠ 0 ∨ route.replayOff then
      (e.removeRouteLocked logicalID, done.2)
    else
      match e.chooseAdapterLocked (views logicalID) (some id) with
      | none => (e, done.2)
      | some (kind, adapter) =>
        let e := e.moveRoute logicalID route kind adapter (views logicalID).now
        (e, done.2 ++ e.replayJob logicalID)

/-- What `onLegDetached` does under the lock. -/
def onLegDetachedLocked (e : DualFrameRelayEndpoint) (id : LegID) (stream : ℕ)
    (views : ℕ → LegView) (order : GoMap.Order ℕ) : DualFrameRelayEndpoint × List ReplayJob :=
  if e.closed then (e, [])
  else
    match e.adapters.get id with
    | none => (e, [])
    | some failed =>
      if failed.stream ≠ stream then (e, [])
      else
        let e := { e with adapters := e.adapters.delete id }
        let done := (order.visit e.routes.keys).foldl (detachRoute id failed views) (e, [])
        (done.1.dropAdapterIndexesLocked failed, done.2)

/-- How `replayRoute` goes on behind its lock. -/
inductive ReplayOutcome where
  | failed (error : FrameRelayError)
  /-- there is nothing to do any more -/
  | settled
  | moved (jobs : List ReplayJob)

/-- Where `replayRoute` moves a route. -/
def replayTarget (e : DualFrameRelayEndpoint) (t : Ticket) (view : LegView) :
    Option (LegID × TcpFrameAdapter) :=
  match e.adapters.get t.kind with
  | some adapter =>
    if adapter ≠ t.endpoint then some (t.kind, adapter)
    else e.chooseAdapterLocked view (some t.kind)
  | none => e.chooseAdapterLocked view (some t.kind)

/-- The failed adapter leaves the table. -/
def forgetAdapter (e : DualFrameRelayEndpoint) (kind : LegID) (adapter : TcpFrameAdapter) :
    DualFrameRelayEndpoint :=
  if e.adapters.get kind = some adapter then { e with adapters := e.adapters.delete kind } else e

/-- What `replayRoute` does under the lock. -/
def replayRouteLocked (e : DualFrameRelayEndpoint) (t : Ticket) (view : LegView) :
    ReplayOutcome × DualFrameRelayEndpoint :=
  let e := e.forgetAdapter t.kind t.endpoint
  match e.routes.get t.logicalID with
  | none => (.failed .streamClosed, e)
  | some route =>
    if route.generation ≠ t.generation ∨ route.endpoint ≠ t.endpoint then (.settled, e)
    else if route.replayOff then (.failed .replayCacheUnavailable, e)
    else if route.completedAt ≠ 0 then (.settled, e)
    else
      match e.replayTarget t view with
      | none => (.failed .streamClosed, e)
      | some (kind, adapter) =>
        let e := e.moveRoute t.logicalID route kind adapter view.now
        (.moved (e.replayJob t.logicalID), e)

/-- The loops that write frames again look whether the route is still the one they know. -/
def stillValid (e : DualFrameRelayEndpoint) (t : Ticket) : Bool :=
  !e.closed ∧ e.adapters.get t.kind = some t.endpoint ∧
    (e.routes.get t.logicalID).elim false fun route =>
      route.endpoint = t.endpoint ∧ route.generation = t.generation ∧ route.completedAt = 0

/-! ## Maintenance -/

/-- `clearRoutesLocked`. -/
def clearRoutesLocked (e : DualFrameRelayEndpoint) (order : GoMap.Order ℕ) :
    DualFrameRelayEndpoint :=
  { (order.visit e.routes.keys).foldl removeRouteLocked e with
    incomingIDs := .empty
    ackIDs := .empty
    quality := { e.quality with slowKCPRoutes := .empty, kcpGoodput := .empty }
    cachedBytes := 0 }

/-- What `Close`, the end of `reapRoutes` and a fail-closed `maintainRoutes` do. -/
def close (e : DualFrameRelayEndpoint) (order : GoMap.Order ℕ) : DualFrameRelayEndpoint :=
  { e with closed := true, adapters := .empty }.clearRoutesLocked order

/-- The message on a KCP leg is too slow: its leg has too little goodput, or no acknowledgement came
in time. -/
def isSlow (route : DualFrameRoute) (low : List LegID) (fraction : ℤ → ℤ) (now : ℤ) : Bool :=
  if route.sourceKey.isSome ∨ route.completedAt ≠ 0 ∨ route.kind.family ≠ .kcp ∨
      !route.quality.sourceDone ∨ route.quality.submittedAt = 0 ∨
      now < route.quality.submittedAt then
    false
  else if route.kind ∈ low then true
  else
    match frameRelayRouteQualityBudget fraction route.quality.payloadBytes with
    | none => false
    | some budget => now - max route.quality.submittedAt route.quality.lastAckAt ≥ budget

/-- The loop of `prepareQualityReplayLocked`. It stops at a slow route without frames to write
again, whose id it gives. -/
def prepareLoop (low : List LegID) (fraction : ℤ → ℤ) (tcpKind : LegID)
    (tcpAdapter : TcpFrameAdapter) (now : ℤ) :
    List ℕ → DualFrameRelayEndpoint × List ReplayJob →
      (DualFrameRelayEndpoint × List ReplayJob) × ℕ
  | [], done => (done, 0)
  | logicalID :: rest, done =>
    match done.1.routes.get logicalID with
    | none => prepareLoop low fraction tcpKind tcpAdapter now rest done
    | some route =>
      if !isSlow route low fraction now then
        prepareLoop low fraction tcpKind tcpAdapter now rest done
      else if route.replayOff ∨ route.framesBySeq.len = 0 then ((done.1, []), logicalID)
      else
        let e := done.1.moveRoute logicalID route tcpKind tcpAdapter now
        let e := { e with quality :=
          { e.quality with slowKCPRoutes := e.quality.slowKCPRoutes.delete route.kind } }
        prepareLoop low fraction tcpKind tcpAdapter now rest (e, done.2 ++ e.replayJob logicalID)

/-- `prepareQualityReplayLocked`. -/
def prepareQualityReplayLocked (e : DualFrameRelayEndpoint) (rate : ℤ → ℤ → ℤ)
    (fraction : ℤ → ℤ) (legs : GoMap.Order LegID) (order : GoMap.Order ℕ) (view : LegView)
    (now : ℤ) : (DualFrameRelayEndpoint × List ReplayJob) × ℕ :=
  if e.closed then ((e, []), 0)
  else
    match e.firstAttached view.order fun id => id.family = .tcp with
    | none => ((e, []), 0)
    | some (tcpKind, tcpAdapter) =>
      let observed := e.quality.observeKCPGoodputWindowsLocked rate legs now
      let prepared := prepareLoop observed.2 fraction tcpKind tcpAdapter now
        (order.visit e.routes.keys) ({ e with quality := observed.1 }, [])
      if prepared.2 = 0 ∧ observed.2 ≠ [] then
        (({ prepared.1.1 with quality :=
            { prepared.1.1.quality with kcpCooldown := now + frameRelayGoodputCooldown } },
          prepared.1.2), 0)
      else prepared

/-- What `maintainRoutes` does under the lock. -/
def maintainRoutesLocked (e : DualFrameRelayEndpoint) (rate : ℤ → ℤ → ℤ) (fraction : ℤ → ℤ)
    (legs : GoMap.Order LegID) (order : GoMap.Order ℕ) (view : LegView) (now : ℤ) :
    DualFrameRelayEndpoint × List ReplayJob :=
  let prepared := e.prepareQualityReplayLocked rate fraction legs order view now
  if prepared.2 ≠ 0 then (prepared.1.1.close order, [])
  else (prepared.1.1.sweepExpiredLocked order now, prepared.1.2)

end DualFrameRelayEndpoint

end NatP2P.Network
