import NatP2P.Network.Ack
import NatP2P.Network.Routes.Runs

/-!
# The pumps of a relay

Reference: `networkFrameWork/FrameRouteRegistry.go` (`pumpRelayToClients`, `pumpClientToRelay`).

A relay has one leg to the node that registered with it and one leg to each client. For every leg a
loop reads frames, looks up or makes their routes in the registry that all loops share, and writes
them to the other side under another `MessageId`. A loop is a thread: what it does between two calls
of the registry or of a leg is one step, and the steps of the loops interleave in any way. Between
them clients attach and detach and connections are purged.

Every frame that was written stays in `log`, with the frame that it was made from. An ACK frame
acknowledges a frame that its sender got; `of` is the place of that frame in the log. It is not part
of the frame, and no loop looks at it.
-/

namespace NatP2P.Network

/-- `canBatchRelayFrames`. -/
def canBatchRelayFrames (first next : Frame) : Bool :=
  isRelayBatchDataFrame first ∧ isRelayBatchDataFrame next ∧ first.messageId = next.messageId ∧
    first.connectionId = next.connectionId ∧ first.totalFrames = next.totalFrames

/-- The leg to the registered node, and the legs of the clients in the order in which they came. -/
inductive Leg where
  | relay
  | client (n : ℕ)
deriving DecidableEq

/-- A frame that was read from a leg. For an ACK, `of` says which written frame it acknowledges. -/
structure Incoming where
  frame : Frame
  of : Option ℕ
deriving DecidableEq

/-- A frame of a batch: what was read, what is to be written, and whether the route was there
before. -/
structure BatchItem where
  source : Incoming
  forwarded : Frame
  found : Bool
deriving DecidableEq

/-- `relayFrameWriteBatch`, without its accounting. -/
structure RelayFrameWriteBatch where
  entry : Option (FrameRouteEntry Leg)
  items : List BatchItem
deriving DecidableEq

/-- The batch is written before a frame that does not belong to it or that may reach the hook. -/
def RelayFrameWriteBatch.endsBefore (batch : RelayFrameWriteBatch) (f : Frame) (boundary : Bool) :
    Bool :=
  match batch.items with
  | [] => false
  | first :: _ => !canBatchRelayFrames first.source.frame f || boundary

/-- A frame that was written to a leg. A close notice has no route. -/
structure Written where
  dst : Leg
  frame : Frame
  src : Leg
  source : Incoming
  found : Bool
  pair : Option ℕ
deriving DecidableEq

/-- Where a loop is. -/
inductive PumpStage where
  /-- before `nextEndpointFrameBatch` -/
  | reading
  /-- at the top of the loop over the frames that were read -/
  | taking
  /-- behind the `flush` for a close notice -/
  | closing (f : Incoming)
  /-- behind `purgeConnection` (to a client), or behind `HandleFrame` (to the relay) -/
  | closed (f : Incoming) (destination : Option Leg)
  /-- at the top of the loop over the frames to forward -/
  | forwarding
  /-- before `onFrame` -/
  | hook (f : Incoming) (boundary : Bool)
  /-- before `relayGet` or `clientGet` -/
  | looking (f : Incoming) (boundary : Bool)
  /-- behind a lookup that found nothing -/
  | missing (f : Incoming) (boundary : Bool)
  /-- before `bindPair` -/
  | binding (f : Incoming) (boundary : Bool) (b : FrameRouteRegistry.Binding Leg)
  /-- with the route of the frame -/
  | routed (f : Incoming) (boundary : Bool) (entry : FrameRouteEntry Leg) (found : Bool)
  /-- before the frame joins the batch -/
  | adding (f : Incoming) (boundary : Bool) (entry : FrameRouteEntry Leg) (found : Bool)
  /-- in `flush` -/
  | flushing (after : PumpStage)
  /-- in `flush`, behind the write -/
  | completing (after : PumpStage)
  /-- behind the `flush` of `rejectConnection` -/
  | rejecting (f : Frame)
  /-- behind the return -/
  | stopped

/-- A loop. `received` is everything that it ever read, which is what a holdback may give back. -/
structure Pump where
  leg : Leg
  stage : PumpStage
  frames : List Incoming
  authorized : List Incoming
  rejected : Option Frame
  received : List Incoming
  batch : RelayFrameWriteBatch

/-- A new loop. -/
def Pump.new (leg : Leg) : Pump := ⟨leg, .reading, [], [], none, [], ⟨none, []⟩⟩

/-- What the surroundings decide in a step. -/
structure PumpMoment where
  /-- the clock -/
  now : ℤ
  /-- what `nextEndpointFrameBatch` returns; nothing when it fails -/
  read : Option (List Incoming)
  /-- what `framesForForward` returns, as places in what the loop received -/
  authorized : List ℕ
  /-- whether `framesForForward` returns an error -/
  rejected : Bool
  /-- `wouldInvokeHook` -/
  boundary : Bool
  /-- `onFrame` -/
  allowed : Bool
  /-- `AllocMessageId` -/
  id : ℕ
  /-- whether a write succeeds -/
  ok : Bool
  /-- how many frames a failed write has written -/
  written : ℕ
  /-- whether a failed write to a client makes the loop purge the connection -/
  purge : Bool
  /-- the order in which `purgeConnection` meets the pairs -/
  order : GoMap.Order ℕ

/-- A relay with its legs. -/
structure RelayLegs where
  registry : FrameRouteRegistry Leg
  /-- `ConnectionId` of each client leg -/
  clients : List Bytes
  /-- the client leg of a connection (`lookup`) -/
  lookup : GoMap Bytes ℕ
  pumps : List Pump
  log : List Written

namespace RelayLegs

/-- A relay without clients. -/
def new (ttl maxPairs : ℤ) : RelayLegs where
  registry := .newWithLimits Leg ttl maxPairs
  clients := []
  lookup := .empty
  pumps := [.new .relay]
  log := []

/-- Loop `k` changes. -/
def put (s : RelayLegs) (k : ℕ) (pump : Pump) : RelayLegs := { s with pumps := s.pumps.set k pump }

/-- `ConnectionId` of a leg. -/
def connectionId (s : RelayLegs) : Leg → Bytes
  | .relay => []
  | .client n => s.clients.getD n []

/-- `relayGet` or `clientGet`. -/
def get (s : RelayLegs) (leg : Leg) (f : Incoming) (now : ℤ) :
    Option (FrameRouteEntry Leg) × FrameRouteRegistry Leg :=
  match leg with
  | .relay => s.registry.relayGet f.frame.messageId now
  | .client _ => s.registry.clientGet ⟨s.connectionId leg, f.frame.messageId⟩ now

/-- What a loop does with a frame without a route: nothing, or it makes a route with the id that the
other side allocates. -/
def bindingOf (s : RelayLegs) (leg : Leg) (f : Incoming) (id : ℕ) :
    Option (FrameRouteRegistry.Binding Leg) :=
  match leg with
  | .relay =>
    if f.frame.connectionId = [] then none
    else
      (s.lookup.get f.frame.connectionId).map fun n =>
        { relayID := f.frame.messageId
          relayDest := .client n
          relayDstID := id
          clientKey := ⟨s.connectionId (.client n), id⟩
          clientDest := .relay
          clientDstID := f.frame.messageId
          totalFrames := f.frame.totalFrames }
  | .client n =>
    if f.frame.frameType = frameTypeAck ∨ f.frame.seqId ≠ 0 then none
    else
      some
        { relayID := id
          relayDest := .client n
          relayDstID := f.frame.messageId
          clientKey := ⟨s.connectionId (.client n), f.frame.messageId⟩
          clientDest := .relay
          clientDstID := id
          totalFrames := f.frame.totalFrames }

/-- The entry of a pair that a loop uses: `pair.relayEntry` or `pair.clientEntry`. -/
def entryOf (leg : Leg) (p : FrameRoutePair Leg) : FrameRouteEntry Leg :=
  match leg with
  | .relay => p.relayEntry
  | .client _ => p.clientEntry

/-- The items of a batch as they go to the log. -/
def records (leg : Leg) (entry : FrameRouteEntry Leg) (items : List BatchItem) : List Written :=
  items.map fun item =>
    ⟨entry.dest, item.forwarded, leg, item.source, item.found, some entry.pair⟩

/-- `purgeConnection` behind a failed write to a client, if the loop does that itself. -/
def purgeFailed (s : RelayLegs) (entry : FrameRouteEntry Leg) (m : PumpMoment) :
    FrameRouteRegistry Leg :=
  match s.registry.pairs[entry.pair]? with
  | none => s.registry
  | some p =>
    if m.purge then s.registry.purgeConnection p.clientKey.connectionID m.order else s.registry

/-- The write of `flush`. A failed write to the relay ends the loop. -/
def flush (s : RelayLegs) (k : ℕ) (pump : Pump) (after : PumpStage) (m : PumpMoment) : RelayLegs :=
  match pump.batch.entry with
  | none => s.put k { pump with stage := after }
  | some entry =>
    if pump.batch.items = [] then s.put k { pump with stage := after }
    else if m.ok then
      { s with log := s.log ++ records pump.leg entry pump.batch.items }.put k
        { pump with stage := .completing after }
    else
      let s := { s with log := s.log ++ records pump.leg entry (pump.batch.items.take m.written) }
      match pump.leg with
      | .relay =>
        { s with registry := s.purgeFailed entry m }.put k
          { pump with batch := ⟨none, []⟩, stage := after }
      | .client _ => s.put k { pump with batch := ⟨none, []⟩, stage := .stopped }

/-- The `complete` calls of `flush`. -/
def completeAcks (s : RelayLegs) (batch : RelayFrameWriteBatch) (now : ℤ) :
    FrameRouteRegistry Leg :=
  match batch.entry with
  | none => s.registry
  | some entry =>
    batch.items.foldl (fun registry item =>
      match registry.pairs[entry.pair]? with
      | none => registry
      | some p =>
        if isFullFrameAck item.source.frame p.totalFrames then registry.complete entry.pair now
        else registry) s.registry

/-- `HandleFrame` with a close notice. -/
def sendClose (s : RelayLegs) (leg destination : Leg) (f : Incoming) (m : PumpMoment) : RelayLegs :=
  if m.ok then
    { s with log := s.log ++
      [⟨destination, { f.frame with messageId := m.id }, leg, f, false, none⟩] }
  else s

/-- A step of loop `k`. -/
def pumpStep (s : RelayLegs) (k : ℕ) (pump : Pump) (m : PumpMoment) : RelayLegs :=
  match pump.stage with
  | .reading =>
    match m.read with
    | none => s.put k { pump with stage := .flushing .stopped }
    | some frames =>
      s.put k { pump with frames, received := pump.received ++ frames, stage := .taking }
  | .taking =>
    match pump.frames with
    | [] => s.put k { pump with stage := .flushing .reading }
    | f :: rest =>
      if f.frame.frameType = frameTypeConnectionClose then
        s.put k { pump with frames := rest, stage := .flushing (.closing f) }
      else
        match pump.leg with
        | .relay =>
          s.put k { pump with
            frames := rest
            authorized := m.authorized.filterMap fun i => pump.received[i]?
            rejected := if m.rejected then some f.frame else none
            stage := .forwarding }
        | .client _ =>
          s.put k { pump with
            frames := rest, authorized := [f], rejected := none, stage := .forwarding }
  | .closing f =>
    match pump.leg with
    | .relay =>
      let destination := (s.lookup.get f.frame.connectionId).map Leg.client
      { s with registry := s.registry.purgeConnection f.frame.connectionId m.order }.put k
        { pump with stage := .closed f destination }
    | .client _ =>
      (s.sendClose pump.leg .relay f m).put k
        { pump with stage := if m.ok then .closed f none else .stopped }
  | .closed f destination =>
    match pump.leg, destination with
    | .relay, none => s.put k { pump with stage := .taking }
    | .relay, some destination =>
      (s.sendClose pump.leg destination f m).put k { pump with stage := .taking }
    | .client _, _ =>
      { s with registry := s.registry.purgeConnection (s.connectionId pump.leg) m.order }.put k
        { pump with stage := .taking }
  | .forwarding =>
    match pump.authorized with
    | [] =>
      match pump.rejected with
      | none => s.put k { pump with stage := .taking }
      | some f => s.put k { pump with rejected := none, stage := .flushing (.rejecting f) }
    | f :: rest =>
      s.put k { pump with
        authorized := rest
        stage := if pump.batch.endsBefore f.frame m.boundary then .flushing (.hook f m.boundary)
          else .hook f m.boundary }
  | .hook f boundary =>
    s.put k { pump with stage := if m.allowed then .looking f boundary else .flushing .stopped }
  | .looking f boundary =>
    { s with registry := (s.get pump.leg f m.now).2 }.put k
      { pump with
        stage := match (s.get pump.leg f m.now).1 with
          | none => .missing f boundary
          | some entry => .routed f boundary entry true }
  | .missing f boundary =>
    s.put k { pump with
      stage := match s.bindingOf pump.leg f m.id with
        | none => .forwarding
        | some b => .binding f boundary b }
  | .binding f boundary b =>
    { s with registry := (s.registry.bindPair b m.now).2 }.put k
      { pump with
        stage :=
          match (s.registry.bindPair b m.now).1.bind fun i =>
              (s.registry.bindPair b m.now).2.pairs[i]? with
          | none => .forwarding
          | some p => .routed f boundary (entryOf pump.leg p) false }
  | .routed f boundary entry found =>
    s.put k { pump with
      stage := if pump.batch.items ≠ [] ∧ pump.batch.entry ≠ some entry then
          .flushing (.adding f boundary entry found)
        else .adding f boundary entry found }
  | .adding f boundary entry found =>
    s.put k { pump with
      batch := ⟨some entry,
        pump.batch.items ++ [⟨f, { f.frame with messageId := entry.dstID }, found⟩]⟩
      stage := if !isRelayBatchDataFrame f.frame || boundary then .flushing .forwarding
        else .forwarding }
  | .flushing after => s.flush k pump after m
  | .completing after =>
    { s with registry := s.completeAcks pump.batch m.now }.put k
      { pump with batch := ⟨none, []⟩, stage := after }
  | .rejecting f =>
    if f.connectionId = [] then s.put k { pump with stage := .taking }
    else
      { s with registry := s.registry.purgeConnection f.connectionId m.order }.put k
        { pump with stage := .taking }
  | .stopped => s

/-- A step of a loop, or something that happens around the loops. -/
inductive Event where
  | step (k : ℕ) (moment : PumpMoment)
  /-- a client leg appears under a connection id, with its loop -/
  | attach (connectionID : Bytes)
  /-- a connection id has no leg any more -/
  | detach (connectionID : Bytes)
  /-- the surroundings purge a connection -/
  | purge (connectionID : Bytes) (order : GoMap.Order ℕ)

/-- The state behind an event. -/
def step (s : RelayLegs) : Event → RelayLegs
  | .step k moment =>
    match s.pumps[k]? with
    | none => s
    | some pump => s.pumpStep k pump moment
  | .attach connectionID =>
    { s with
      clients := s.clients ++ [connectionID]
      lookup := s.lookup.set connectionID s.clients.length
      pumps := s.pumps ++ [.new (.client s.clients.length)] }
  | .detach connectionID => { s with lookup := s.lookup.delete connectionID }
  | .purge connectionID order =>
    { s with registry := s.registry.purgeConnection connectionID order }

/-- The state behind a list of events. -/
def run (ttl maxPairs : ℤ) (events : List Event) : RelayLegs :=
  (runSteps (fun s event => (step s event, ())) (new ttl maxPairs) events).1

end RelayLegs

end NatP2P.Network
