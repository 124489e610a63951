import NatP2P.RelayNode.HostRoutes.Table

/-!
# A relay that announces, receives and passes on host routes

The functions of a relay that handle host routes run in several goroutines: one for every control
link, one for every registration, the maintenance loop, and one worker that sends the broadcasts.
They meet in the table, behind `n.mu`, and in the queue of the worker. A step of the machine is what
one goroutine does while it holds the lock or handles the queue once, so that a run is any
interleaving of them. What a goroutine has still to do is a `Task`.

Only announcements and withdrawals go through the queue. The queue drops an event when it is full.

Reference: `p2pnode/impl/relaynode/host_routes.go`.
-/

namespace NatP2P.RelayNode

/-- `hostRouteBroadcastQueueCapacity`. -/
def hostRouteBroadcastQueueCapacity : ℕ := 256

/-- A `controlMessage` of type `ctrlHostRoutes` or `ctrlHostWithdraw`. -/
inductive ControlMessage
  | hostRoutes (routes : List HostRouteWire)
  | hostWithdraw (withdrawals : List HostRouteKey)
  deriving DecidableEq

/-- `hostRouteBroadcastEvent`. -/
structure BroadcastEvent where
  message : ControlMessage
  exceptPeerID : Bytes
  deriving DecidableEq

/-- `broadcastControlItemCount`. -/
def broadcastControlItemCount : ControlMessage → ℕ
  | .hostRoutes routes => routes.length
  | .hostWithdraw withdrawals => withdrawals.length

/-- `mergeBroadcastControlMessage`: the destination with the items of the source, or `none` when the
two are not merged. -/
def mergeBroadcastControlMessage (destination source : BroadcastEvent) : Option BroadcastEvent :=
  if destination.exceptPeerID ≠ source.exceptPeerID then none
  else
    match destination.message, source.message with
    | .hostRoutes routes, .hostRoutes more =>
      if maximumHostRouteBatch < routes.length + more.length then none
      else some { destination with message := .hostRoutes (routes ++ more) }
    | .hostWithdraw withdrawals, .hostWithdraw more =>
      if maximumHostRouteBatch < withdrawals.length + more.length then none
      else some { destination with message := .hostWithdraw (withdrawals ++ more) }
    | _, _ => none

/-- The goroutine of `runHostRouteBroadcasts`: at the top of its loop, with the event that its last
turn left, or in the loop of `mergeQueuedHostRouteBroadcasts`. -/
inductive Worker
  | waiting (pending : Option BroadcastEvent)
  | merging (first : BroadcastEvent)
  deriving DecidableEq

/-- What a goroutine has still to do. -/
inductive Task
  /-- `receiveHostRoutes` at the top of its loop. -/
  | receiving (via : Bytes) (routes forward : List HostRouteWire)
  /-- `receiveHostRoutes` after it accepted a route. -/
  | forwarding (via : Bytes) (route : HostRouteWire) (becameMultipath : Bool)
      (routes forward : List HostRouteWire)
  /-- `publishLocalHostRoute` with a signed route. -/
  | publishing (route : HostRouteWire)
  /-- `publishLocalHostRoute` after it offered the route to its own table. -/
  | announcing (route : HostRouteWire)
  /-- The loop of `broadcastHostWithdrawals`. -/
  | withdrawing (withdrawals : List HostRouteKey) (exceptPeerID : Bytes)
  /-- The loop of `syncHostRoutes`. -/
  | syncing (link : PeerLink) (routes : List HostRouteWire)
  | done
  deriving DecidableEq

/-- What is fixed of a relay. -/
structure Self where
  idStr : Bytes
  pubKeyHex : Bytes
  hostRouteIncarnation : Bytes

/-- The host routes of a `RelayNode`. -/
structure Node where
  table : Table
  hostRouteSequence : GoMap Bytes ℕ
  queue : List BroadcastEvent
  worker : Worker
  tasks : List Task
  closed : Bool

/-- What `publishLocalHostRoute` reads: the clock, the relay's address and certificate, and the
signature, if signing succeeds. -/
structure Publication where
  now : ℤ
  addr : Bytes
  indexSign : Bytes
  signature : Option Bytes

/-- What a turn of a task reads. -/
structure Moment where
  /-- The readings of `acceptHostRoute`. -/
  reading : Reading
  /-- The clock of `transitHostRouteSnapshot`. -/
  now : ℤ
  /-- The order in which that meets the records. -/
  order : GoMap.Order Bytes
  /-- `link.send` succeeds. -/
  sent : Bool

/-- What happens at a relay. -/
inductive NodeEvent
  | publishLocalHostRoute (target : Bytes) (active : Bool) (publication : Publication)
  | receiveHostRoutes (via : Bytes) (routes : List HostRouteWire)
  | receiveHostWithdrawals (via : Bytes) (withdrawals : List HostRouteKey)
  | removeHostRoutesVia (peerID : Bytes) (order : RangeOrder)
  | expireHostRoutes (now : ℤ)
  | syncHostRoutes (link : PeerLink) (now : ℤ) (order : RangeOrder)
  /-- A task makes a turn. -/
  | advance (task : ℕ) (moment : Moment)
  /-- The worker takes an event at the top of its loop. -/
  | takeBroadcast
  /-- The worker makes a turn of the loop that merges. -/
  | mergeBroadcast
  /-- `n.ctx` is cancelled. -/
  | close

/-- What a step shows: a record that is stored, an event that is put into the queue, an event that
is handed to `deliverBroadcastControl`, or a message that is handed to `link.send`. -/
inductive Output
  | accepted (record : HostRouteRecord)
  | queued (event : BroadcastEvent)
  | delivered (event : BroadcastEvent)
  | sent (link : PeerLink) (message : ControlMessage)
  deriving DecidableEq

namespace Node

/-- A relay that does nothing yet. -/
def start (table : Table) (hostRouteSequence : GoMap Bytes ℕ) : Node where
  table
  hostRouteSequence
  queue := []
  worker := .waiting none
  tasks := []
  closed := false

/-- `broadcastControl`. -/
def broadcastControl (node : Node) (message : ControlMessage) (exceptPeerID : Bytes) :
    Node × Option Output :=
  if node.closed = true ∨ hostRouteBroadcastQueueCapacity ≤ node.queue.length then (node, none)
  else
    ({ node with queue := node.queue ++ [⟨message, exceptPeerID⟩] },
      some (.queued ⟨message, exceptPeerID⟩))

/-- A turn of the worker at the top of its loop. -/
def takeBroadcast (node : Node) : Node :=
  match node.closed, node.worker with
  | false, .waiting (some event) => { node with worker := .merging event }
  | false, .waiting none =>
    match node.queue with
    | [] => node
    | event :: queue => { node with worker := .merging event, queue }
  | _, _ => node

/-- A turn of the loop of `mergeQueuedHostRouteBroadcasts`, and the call of
`deliverBroadcastControl` when it returns. -/
def mergeBroadcast (node : Node) : Node × Option Output :=
  match node.worker with
  | .waiting _ => (node, none)
  | .merging first =>
    if broadcastControlItemCount first.message < maximumHostRouteBatch then
      match node.queue with
      | [] => ({ node with worker := .waiting none }, some (.delivered first))
      | next :: queue =>
        match mergeBroadcastControlMessage first next with
        | some merged => ({ node with worker := .merging merged, queue }, none)
        | none => ({ node with worker := .waiting (some next), queue }, some (.delivered first))
    else ({ node with worker := .waiting none }, some (.delivered first))

variable (P : Packages) (self : Self)

/-- `publishLocalHostRoute` up to the signature. -/
def publishLocalHostRoute (node : Node) (target : Bytes) (active : Bool)
    (publication : Publication) : Node :=
  if target = [] then node
  else
    let sequence := add64 ((node.hostRouteSequence.get target).getD 0) 1
    let node := { node with hostRouteSequence := node.hostRouteSequence.set target sequence }
    match publication.signature with
    | none => node
    | some signature =>
      { node with
        tasks := node.tasks ++ [.publishing
          { target
            relayID := self.idStr
            relayPublicKey := self.pubKeyHex
            addr := publication.addr
            incarnation := self.hostRouteIncarnation
            sequence
            issuedAt := publication.now
            leaseUntil := publication.now + hostRouteLease
            active
            indexSign := publication.indexSign
            path := [self.idStr]
            signature }] }

/-- One turn of a task: the relay, what the task has still to do, and what it shows. -/
def turn (node : Node) (moment : Moment) : Task → Node × Task × Option Output
  | .receiving via [] forward =>
    if forward = [] then (node, .done, none)
    else
      let (node, output) := node.broadcastControl (.hostRoutes forward) via
      (node, .done, output)
  | .receiving via (route :: routes) forward =>
    if self.idStr ∈ route.path ∨ maximumHostRoutePath ≤ route.path.length then
      (node, .receiving via routes forward, none)
    else
      let route := { route with path := route.path ++ [self.idStr] }
      match node.table.acceptHostRoute P via route moment.reading with
      | none => (node, .receiving via routes forward, none)
      | some (table, becameMultipath) =>
        ({ node with table }, .forwarding via route becameMultipath routes forward,
          some (.accepted ⟨route, via⟩))
  | .forwarding via route becameMultipath routes forward =>
    let more :=
      if becameMultipath then
        node.table.transitHostRouteSnapshot route.target moment.now moment.order
      else if node.table.multipath route.target then [route]
      else []
    (node, .receiving via routes (forward ++ more), none)
  | .publishing route =>
    match node.table.acceptHostRoute P [] route moment.reading with
    | none => (node, .announcing route, none)
    | some (table, _) => ({ node with table }, .announcing route, some (.accepted ⟨route, []⟩))
  | .announcing route =>
    let (node, output) := node.broadcastControl (.hostRoutes [route]) []
    (node, .done, output)
  | .withdrawing [] _ => (node, .done, none)
  | .withdrawing (first :: more) exceptPeerID =>
    let (node, output) := node.broadcastControl
      (.hostWithdraw ((first :: more).take maximumHostRouteBatch)) exceptPeerID
    (node, .withdrawing ((first :: more).drop maximumHostRouteBatch) exceptPeerID, output)
  | .syncing _ [] => (node, .done, none)
  | .syncing link (first :: more) =>
    let output := some
      (.sent link (.hostRoutes ((first :: more).take maximumHostRouteBatch)))
    if moment.sent then
      (node, .syncing link ((first :: more).drop maximumHostRouteBatch), output)
    else (node, .done, output)
  | .done => (node, .done, none)

/-- One step of a relay. -/
def step (node : Node) : NodeEvent → Node × Option Output
  | .publishLocalHostRoute target active publication =>
    (node.publishLocalHostRoute self target active publication, none)
  | .receiveHostRoutes via routes =>
    if routes = [] ∨ maximumHostRouteBatch < routes.length ∨ via = [] then (node, none)
    else ({ node with tasks := node.tasks ++ [.receiving via routes []] }, none)
  | .receiveHostWithdrawals via withdrawals =>
    let (table, removed) := node.table.receiveHostWithdrawals via withdrawals
    ({ node with table, tasks := node.tasks ++ [.withdrawing removed via] }, none)
  | .removeHostRoutesVia peerID order =>
    let (table, withdrawals) := node.table.removeHostRoutesVia peerID order
    ({ node with table, tasks := node.tasks ++ [.withdrawing withdrawals peerID] }, none)
  | .expireHostRoutes now => ({ node with table := node.table.expireHostRoutes now }, none)
  | .syncHostRoutes link now order =>
    ({ node with tasks := node.tasks ++ [.syncing link (node.table.hostRouteSnapshot now order)] },
      none)
  | .advance task moment =>
    match node.tasks[task]? with
    | none => (node, none)
    | some current =>
      let (node, next, output) := node.turn P self moment current
      ({ node with tasks := node.tasks.set task next }, output)
  | .takeBroadcast => (node.takeBroadcast, none)
  | .mergeBroadcast => node.mergeBroadcast
  | .close => ({ node with closed := true }, none)

end Node

/-! ## What a step does to the table and to the waiting events -/

/-- The worker's event. -/
def Worker.held : Worker → List BroadcastEvent
  | .waiting pending => pending.toList
  | .merging first => [first]

/-- The events that wait to be delivered, in their order. -/
def Node.held (node : Node) : List BroadcastEvent := node.worker.held ++ node.queue

/-- The event a step puts into the queue. -/
def queuedEvent : Option Output → Option BroadcastEvent
  | some (.queued event) => some event
  | _ => none

/-- The event a step hands to `deliverBroadcastControl`. -/
def deliveredEvent : Option Output → Option BroadcastEvent
  | some (.delivered event) => some event
  | _ => none

/-- The message a step of `syncHostRoutes` hands to `link.send`. -/
def sentMessage : Option Output → Option ControlMessage
  | some (.sent _ message) => some message
  | _ => none

/-- What a step does to the events that wait, and what it shows of that. Every message that is put
into the queue or handed to `link.send` fits. -/
inductive HeldStep (fits : ControlMessage → Prop) (held : List BroadcastEvent) :
    Option Output → List BroadcastEvent → Prop
  | same (output : Option Output) (hqueued : queuedEvent output = none)
      (hdelivered : deliveredEvent output = none) (hsent : ∀ message ∈ sentMessage output, fits message) :
      HeldStep fits held output held
  | push (event : BroadcastEvent) (hevent : fits event.message) :
      HeldStep fits held (some (.queued event)) (held ++ [event])
  | pop (event : BroadcastEvent) (rest : List BroadcastEvent) (hheld : held = event :: rest) :
      HeldStep fits held (some (.delivered event)) rest
  | merge (first next merged : BroadcastEvent) (rest : List BroadcastEvent)
      (hheld : held = first :: next :: rest)
      (hmerged : mergeBroadcastControlMessage first next = some merged) :
      HeldStep fits held none (merged :: rest)

/-- The message a turn of a task hands to `broadcastControl` or to `link.send`. -/
def Task.message : Task → Option ControlMessage
  | .receiving _ [] forward => if forward = [] then none else some (.hostRoutes forward)
  | .announcing route => some (.hostRoutes [route])
  | .withdrawing (first :: more) _ =>
    some (.hostWithdraw ((first :: more).take maximumHostRouteBatch))
  | .syncing _ (first :: more) => some (.hostRoutes ((first :: more).take maximumHostRouteBatch))
  | _ => none

/-- The task hands its messages to `link.send`. -/
def Task.sends : Task → Bool
  | .syncing _ _ => true
  | _ => false

namespace Node

/-- `broadcastControl` drops what it gets. -/
abbrev Drops (node : Node) : Prop :=
  node.closed = true ∨ hostRouteBroadcastQueueCapacity ≤ node.queue.length

/-- The message a step puts into the queue or hands to `link.send`. -/
def handsOn (node : Node) : NodeEvent → Option ControlMessage
  | .advance task _ =>
    match node.tasks[task]? with
    | some current => if current.sends = true ∨ ¬ node.Drops then current.message else none
    | none => none
  | _ => none

variable {P} {self} {node : Node} {fits : ControlMessage → Prop}

theorem heldStep_broadcastControl {message : ControlMessage} {except : Bytes}
    (hmessage : ¬ node.Drops → fits message) :
    HeldStep fits node.held (node.broadcastControl message except).2
      (node.broadcastControl message except).1.held := by
  rw [Node.broadcastControl]
  split_ifs with hdrops
  · exact .same _ rfl rfl nofun
  · have hheld : ({ node with queue := node.queue ++ [⟨message, except⟩] } : Node).held =
        node.held ++ [⟨message, except⟩] := (List.append_assoc ..).symm
    rw [hheld]
    exact .push _ (hmessage hdrops)

theorem heldStep_turn {moment : Moment} {task : Task}
    (hfits : ∀ message ∈ task.message, task.sends = true ∨ ¬ node.Drops → fits message) :
    HeldStep fits node.held (node.turn P self moment task).2.2
      (node.turn P self moment task).1.held := by
  cases task with
  | receiving via routes forward =>
    cases routes with
    | nil =>
      rw [Node.turn]
      split_ifs with hforward
      · exact .same _ rfl rfl nofun
      · exact heldStep_broadcastControl fun hqueued => hfits _ (if_neg hforward) (.inr hqueued)
    | cons route routes =>
      rw [Node.turn]
      split_ifs
      · exact .same _ rfl rfl nofun
      · dsimp only
        split <;> exact .same _ rfl rfl nofun
  | forwarding | done => exact .same _ rfl rfl nofun
  | publishing route =>
    rw [Node.turn]
    split <;> exact .same _ rfl rfl nofun
  | announcing route => exact heldStep_broadcastControl fun hqueued => hfits _ rfl (.inr hqueued)
  | withdrawing withdrawals except =>
    cases withdrawals with
    | nil => exact .same _ rfl rfl nofun
    | cons first more =>
      exact heldStep_broadcastControl fun hqueued => hfits _ rfl (.inr hqueued)
  | syncing link routes =>
    cases routes with
    | nil => exact .same _ rfl rfl nofun
    | cons first more =>
      rw [Node.turn]
      have hsent (message : ControlMessage) (hmessage : message ∈ Task.message _) :=
        hfits message hmessage (.inl rfl)
      split_ifs <;> exact .same _ rfl rfl hsent

theorem heldStep_mergeBroadcast :
    HeldStep fits node.held node.mergeBroadcast.2 node.mergeBroadcast.1.held := by
  rw [Node.mergeBroadcast]
  split
  · exact .same _ rfl rfl nofun
  next first hworker =>
    have hheld : node.held = first :: node.queue := by rw [Node.held, hworker]; rfl
    split_ifs
    · split
      next hqueue => exact .pop first _ (by rw [hheld]; rfl)
      next next queue hqueue =>
        split
        next merged hmerged => exact .merge first next merged queue (by rw [hheld, hqueue]) hmerged
        next => exact .pop first _ (by rw [hheld, hqueue]; rfl)
    · exact .pop first _ (by rw [hheld]; rfl)

theorem held_takeBroadcast : node.takeBroadcast.held = node.held := by
  rw [Node.takeBroadcast]
  split
  next hclosed hworker => rw [Node.held, Node.held, hworker]; rfl
  next hclosed hworker =>
    split
    next => rfl
    next hqueue => rw [Node.held, Node.held, hworker, hqueue]; rfl
  next => rfl

theorem held_publishLocalHostRoute {target : Bytes} {active : Bool} {publication : Publication} :
    (node.publishLocalHostRoute self target active publication).held = node.held := by
  rw [Node.publishLocalHostRoute]
  split_ifs
  · rfl
  · split <;> rfl

theorem heldStep_step (P : Packages) (self : Self) (node : Node) (event : NodeEvent)
    (hfits : ∀ message ∈ node.handsOn event, fits message) :
    HeldStep fits node.held (node.step P self event).2 (node.step P self event).1.held := by
  cases event with
  | publishLocalHostRoute target active publication =>
    rw [Node.step, held_publishLocalHostRoute]
    exact .same _ rfl rfl nofun
  | receiveHostRoutes via routes =>
    rw [Node.step]
    split_ifs <;> exact .same _ rfl rfl nofun
  | advance task moment =>
    rw [Node.step]
    cases htask : node.tasks[task]? with
    | none => exact .same _ rfl rfl nofun
    | some current =>
      rw [handsOn, htask] at hfits
      dsimp only at hfits
      refine heldStep_turn fun message hmessage hhanded => hfits message ?_
      rwa [if_pos hhanded]
  | takeBroadcast =>
    rw [Node.step, held_takeBroadcast]
    exact .same _ rfl rfl nofun
  | mergeBroadcast => exact heldStep_mergeBroadcast
  | receiveHostWithdrawals | removeHostRoutesVia | expireHostRoutes | syncHostRoutes | close =>
    exact .same _ rfl rfl nofun

end Node

end NatP2P.RelayNode
