import NatP2P.Common.Run
import NatP2P.RelayNode.HostRoutes.Node

/-!
# The size of the messages about host routes

A relay ignores a message with more than `maximumHostRouteBatch` announcements or withdrawals, so no
relay should send one. The senders split what they have, and the worker merges events only as long
as the result stays within the bound. But `receiveHostRoutes` hands on in one message all that it
has to pass on for a batch, and a route that makes its target multipath adds all active records of
the target. A batch of 65 routes can therefore lead to a message of 130 (`oversize_message`). All
messages are within the bound just when the routes of each batch that were accepted, with the usable
records of the targets that they made multipath, are (`run_messages_within_batch`). What the worker
delivers is what was queued, in the same order.

Reference: `p2pnode/impl/relaynode/host_routes.go`.
-/

namespace NatP2P.RelayNode

open List Option

/-- An announcement or a withdrawal. -/
inductive Item
  | route (route : HostRouteWire)
  | withdrawal (withdrawal : HostRouteKey)
  deriving DecidableEq

/-- What a message holds. -/
def ControlMessage.items : ControlMessage → List Item
  | .hostRoutes routes => routes.map .route
  | .hostWithdraw withdrawals => withdrawals.map .withdrawal

/-- What an event holds, each item with the peer that is left out. -/
def BroadcastEvent.items (event : BroadcastEvent) : List (Item × Bytes) :=
  event.message.items.map fun item => (item, event.exceptPeerID)

/-- A message that a neighbour does not ignore for its size. -/
def ControlMessage.WithinBatch (message : ControlMessage) : Prop :=
  1 ≤ broadcastControlItemCount message ∧ broadcastControlItemCount message ≤ maximumHostRouteBatch

/-- The announcements that a turn of `receiveHostRoutes` adds for a route that it has accepted: the
usable records of a target that the route has made multipath, or the route alone if the target is
multipath already. -/
def Node.announces (node : Node) (moment : Moment) : Task → ℕ
  | .forwarding _ route becameMultipath _ _ =>
    if node.table.multipath route.target = false then 0
    else if becameMultipath then
      (node.table.usableRecords route.target moment.now moment.order).length
    else 1
  | _ => 0

/-- The step ends this call of `receiveHostRoutes`, and the queue takes what it passes on. -/
def Node.endsCall (node : Node) : NodeEvent → Option ℕ
  | .advance task _ =>
    match node.tasks[task]? with
    | some (.receiving _ [] _) => if node.Drops then none else some task
    | _ => none
  | _ => none

/-- A relay, and for each of its tasks the announcements that its turns have added. The program does
not count them. -/
structure Tally where
  node : Node
  announced : ℕ → ℕ

namespace Tally

/-- A relay that does nothing yet. -/
def start (table : Table) (hostRouteSequence : GoMap Bytes ℕ) : Tally :=
  ⟨.start table hostRouteSequence, fun _ => 0⟩

/-- One step of the relay. -/
def step (P : Packages) (self : Self) (t : Tally) (event : NodeEvent) : Tally × Option Output :=
  let (node, output) := t.node.step P self event
  (⟨node, match event with
    | .advance task moment => Function.update t.announced task
        (t.announced task + (t.node.tasks[task]?).elim 0 (t.node.announces moment))
    | _ => t.announced⟩, output)

/-- If the step ends a call of `receiveHostRoutes`, what was added for the routes of its batch fits
into one message. -/
def FitsBatch (t : Tally) (event : NodeEvent) : Prop :=
  ∀ task ∈ t.node.endsCall event, t.announced task ≤ maximumHostRouteBatch

instance (t : Tally) (event : NodeEvent) : Decidable (t.FitsBatch event) :=
  inferInstanceAs (Decidable (∀ _ ∈ _, _))

end Tally

/-! ## The messages of a step -/

section

/-- Merged events hold the items of both, in order, and stay within the bound. -/
theorem mergeBroadcastControlMessage_spec {first next merged : BroadcastEvent}
    (h : mergeBroadcastControlMessage first next = some merged) :
    merged.items = first.items ++ next.items ∧
      broadcastControlItemCount merged.message = broadcastControlItemCount first.message +
        broadcastControlItemCount next.message ∧
      broadcastControlItemCount merged.message ≤ maximumHostRouteBatch := by
  obtain ⟨first, except⟩ := first
  obtain ⟨next, except'⟩ := next
  obtain ⟨hexcept, h⟩ := ite_none_left_eq_some.mp h
  obtain rfl : except = except' := not_not.mp hexcept
  cases first <;> cases next
  case hostRoutes.hostRoutes items more | hostWithdraw.hostWithdraw items more =>
    obtain ⟨hlength, h⟩ := ite_none_left_eq_some.mp h
    obtain rfl := some.inj h
    simp only [BroadcastEvent.items, ControlMessage.items, broadcastControlItemCount,
      map_append, length_append, true_and]
    omega
  case hostRoutes.hostWithdraw | hostWithdraw.hostRoutes => cases h

/-- The first items of a list that is not empty fill a message. -/
theorem withinBatch_take {α : Type*} (first : α) (more : List α) :
    1 ≤ ((first :: more).take maximumHostRouteBatch).length ∧
      ((first :: more).take maximumHostRouteBatch).length ≤ maximumHostRouteBatch := by
  simp only [length_take, length_cons, maximumHostRouteBatch]
  omega

/-- What a call of `receiveHostRoutes` has to pass on. -/
def Task.forward : Task → Option (List HostRouteWire)
  | .receiving _ _ forward => some forward
  | .forwarding _ _ _ _ forward => some forward
  | _ => none

/-- The count is what the calls have to pass on. -/
structure Tally.Inv (t : Tally) : Prop where
  counted : ∀ task current, t.node.tasks[task]? = some current → ∀ forward ∈ current.forward,
    forward.length = t.announced task
  fresh : ∀ task, t.node.tasks.length ≤ task → t.announced task = 0

/-- A task that begins has nothing to pass on yet. -/
theorem Tally.Inv.append {t : Tally} (h : t.Inv) {node : Node} (more : List Task)
    (htasks : node.tasks = t.node.tasks ++ more)
    (hmore : ∀ current ∈ more, ∀ forward ∈ current.forward, forward = []) :
    Inv ⟨node, t.announced⟩ := by
  refine ⟨fun task current hcurrent forward hforward => ?_, fun task hlength => h.fresh task ?_⟩
  · rw [htasks, getElem?_append] at hcurrent
    split_ifs at hcurrent with hold
    · exact h.counted task current hcurrent forward hforward
    · rw [hmore current (mem_of_getElem? hcurrent) forward hforward, h.fresh task (by omega)]
      rfl
  · rw [htasks, length_append] at hlength
    omega

/-- A turn adds what is counted to what the task has to pass on. -/
theorem forward_turn {P : Packages} {self : Self} {node : Node} {moment : Moment} {task : Task}
    {forward' : List HostRouteWire}
    (h : forward' ∈ (node.turn P self moment task).2.1.forward) :
    ∃ forward ∈ task.forward, forward'.length = forward.length + node.announces moment task := by
  cases task with
  | receiving via routes forward =>
    refine ⟨forward, rfl, ?_⟩
    cases routes with
    | nil =>
      rw [Node.turn] at h
      split_ifs at h <;> cases h
    | cons route routes =>
      rw [Node.turn] at h
      split_ifs at h
      · cases h
        rfl
      · dsimp only at h
        split at h
        all_goals
          cases h
          rfl
  | forwarding via route becameMultipath routes forward =>
    refine ⟨forward, rfl, ?_⟩
    cases h
    rw [length_append, Node.announces, Table.transitHostRouteSnapshot]
    cases node.table.multipath route.target <;> cases becameMultipath <;> simp
  | publishing route =>
    rw [Node.turn] at h
    split at h <;> cases h
  | announcing route => cases h
  | withdrawing withdrawals except =>
    cases withdrawals <;> cases h
  | syncing link routes =>
    cases routes with
    | nil => cases h
    | cons first more =>
      rw [Node.turn] at h
      split_ifs at h <;> cases h
  | done => cases h

/-- Only the step that makes a turn changes a task. -/
theorem tasks_turn {P : Packages} {self : Self} {node : Node} {moment : Moment} {task : Task} :
    (node.turn P self moment task).1.tasks = node.tasks := by
  have hbroadcast (message : ControlMessage) (except : Bytes) :
      (node.broadcastControl message except).1.tasks = node.tasks := by
    rw [Node.broadcastControl]
    split_ifs <;> rfl
  cases task with
  | receiving via routes forward =>
    cases routes with
    | nil =>
      rw [Node.turn]
      split_ifs
      · rfl
      · exact hbroadcast _ _
    | cons route routes =>
      rw [Node.turn]
      split_ifs
      · rfl
      · dsimp only
        split <;> rfl
  | publishing route =>
    rw [Node.turn]
    split <;> rfl
  | announcing route => exact hbroadcast _ _
  | withdrawing withdrawals except =>
    cases withdrawals with
    | nil => rfl
    | cons first more => exact hbroadcast _ _
  | syncing link routes =>
    cases routes with
    | nil => rfl
    | cons first more =>
      rw [Node.turn]
      split_ifs <;> rfl
  | forwarding | done => rfl

theorem Tally.Inv.step {t : Tally} (h : t.Inv) (P : Packages) (self : Self) (event : NodeEvent) :
    (t.step P self event).1.Inv := by
  cases event with
  | advance task moment =>
    cases htask : t.node.tasks[task]? with
    | none => simpa [Tally.step, Node.step, htask] using h
    | some current =>
      have hlt := (List.getElem?_eq_some_iff.mp htask).1
      simp only [Tally.step, Node.step, htask, Option.elim_some]
      refine ⟨fun other changed hchanged forward' hforward' => ?_, fun other hlength => ?_⟩
      · dsimp only at hchanged ⊢
        rw [tasks_turn, getElem?_set] at hchanged
        split_ifs at hchanged with hsame
        · subst hsame
          obtain rfl := some.inj hchanged
          -- the turn adds as many announcements as are counted
          obtain ⟨forward, hforward, hlength⟩ := forward_turn hforward'
          rw [Function.update_self, hlength, h.counted _ current htask forward hforward]
        · rw [Function.update_of_ne (Ne.symm hsame)]
          exact h.counted other changed hchanged forward' hforward'
      · dsimp only at hlength ⊢
        rw [tasks_turn, length_set] at hlength
        rw [Function.update_of_ne (by omega)]
        exact h.fresh other hlength
  | publishLocalHostRoute target active publication =>
    simp only [Tally.step, Node.step, Node.publishLocalHostRoute]
    split_ifs
    · exact h
    · split
      · exact h.append [] (append_nil _).symm (by simp)
      · exact h.append [.publishing _] rfl (by simp [Task.forward])
  | receiveHostRoutes via routes =>
    simp only [Tally.step, Node.step]
    split_ifs
    · exact h
    · exact h.append [.receiving via routes []] rfl (by simp [Task.forward])
  | receiveHostWithdrawals via withdrawals =>
    exact h.append [.withdrawing _ via] rfl (by simp [Task.forward])
  | removeHostRoutesVia peerID order =>
    exact h.append [.withdrawing _ peerID] rfl (by simp [Task.forward])
  | syncHostRoutes link now order => exact h.append [.syncing link _] rfl (by simp [Task.forward])
  | expireHostRoutes | close => exact h.append [] (append_nil _).symm (by simp)
  | takeBroadcast =>
    refine h.append [] ?_ (by simp)
    simp only [Node.takeBroadcast, append_nil]
    repeat' split
    all_goals rfl
  | mergeBroadcast =>
    refine h.append [] ?_ (by simp)
    show t.node.mergeBroadcast.1.tasks = t.node.tasks ++ []
    rw [append_nil, Node.mergeBroadcast]
    repeat' split
    all_goals rfl

/-- What a task that turns within the bound hands on is within it. -/
theorem withinBatch_handsOn {t : Tally} {event : NodeEvent} (hinv : t.Inv) (h : t.FitsBatch event) :
    ∀ message ∈ t.node.handsOn event, message.WithinBatch := by
  intro message hmessage
  cases event with
  | advance task moment =>
    rw [Node.handsOn] at hmessage
    rw [Tally.FitsBatch, Node.endsCall] at h
    cases htask : t.node.tasks[task]? with
    | none =>
      rw [htask] at hmessage
      cases hmessage
    | some current =>
      rw [htask] at hmessage h
      obtain ⟨hhanded, hmessage⟩ := ite_none_right_eq_some.mp hmessage
      cases current with
      | receiving via routes forward =>
        cases routes with
        | nil =>
          obtain ⟨hforward, hmessage⟩ := ite_none_left_eq_some.mp hmessage
          obtain rfl := some.inj hmessage
          have hfits := h task (if_neg (hhanded.resolve_left Bool.false_ne_true))
          rw [← hinv.counted task _ htask forward rfl] at hfits
          exact ⟨length_pos_of_ne_nil hforward, hfits⟩
        | cons => cases hmessage
      | announcing route =>
        obtain rfl := some.inj hmessage
        exact withinBatch_take route []
      | withdrawing routes _ | syncing _ routes =>
        cases routes with
        | nil => cases hmessage
        | cons first more =>
          obtain rfl := some.inj hmessage
          exact withinBatch_take first more
      | forwarding | publishing | done => cases hmessage
  | _ => cases hmessage

/-- A message that a neighbour ignores, because it is too large. -/
def BroadcastEvent.Oversize (event : BroadcastEvent) : Prop :=
  maximumHostRouteBatch < broadcastControlItemCount event.message

/-- A call that ends with more than fits puts such a message into the queue. -/
theorem exists_oversize {t : Tally} {event : NodeEvent} (hinv : t.Inv) (h : ¬ t.FitsBatch event)
    (P : Packages) (self : Self) : ∃ large ∈ (t.step P self event).1.node.held, large.Oversize := by
  simp only [Tally.FitsBatch, not_forall, Nat.not_le] at h
  obtain ⟨task, hends, hlarge⟩ := h
  cases event with
  | advance ended moment =>
    rw [Node.endsCall] at hends
    split at hends
    next via forward htask =>
      obtain ⟨hqueued, hends⟩ := ite_none_left_eq_some.mp hends
      obtain rfl := some.inj hends
      rw [← hinv.counted ended _ htask forward rfl] at hlarge
      have hforward : forward ≠ [] := by
        rintro rfl
        cases hlarge
      refine ⟨⟨.hostRoutes forward, via⟩, ?_, hlarge⟩
      simp only [Tally.step, Node.step, htask, Node.turn, if_neg hforward, Node.broadcastControl,
        if_neg hqueued, Node.held]
      simp
    next => cases hends
  | _ => cases hends

end

/-! ## Every message of a run -/

/-- What is delivered and what waits is what was queued, in the same order and for the same
peers. -/
def Conserved (held : List BroadcastEvent) (outputs : List (Option Output)) : Prop :=
  (outputs.filterMap deliveredEvent).flatMap BroadcastEvent.items ++
      held.flatMap BroadcastEvent.items =
    (outputs.filterMap queuedEvent).flatMap BroadcastEvent.items

/-- All messages that wait or were handed on are within the bound. -/
structure AllWithinBatch (held : List BroadcastEvent) (outputs : List (Option Output)) : Prop where
  held : ∀ event ∈ held, event.message.WithinBatch
  delivered : ∀ event ∈ outputs.filterMap deliveredEvent, event.message.WithinBatch
  sent : ∀ message ∈ outputs.filterMap sentMessage, message.WithinBatch

section

variable {fits : ControlMessage → Prop} {held held' : List BroadcastEvent} {output : Option Output}
  {outputs : List (Option Output)}

theorem HeldStep.conserved (h : HeldStep fits held output held')
    (hconserved : Conserved held outputs) : Conserved held' (outputs ++ [output]) := by
  rw [Conserved] at *
  cases h with
  | same _ hqueued hdelivered _ => simpa [hqueued, hdelivered] using hconserved
  | push event _ => simp [← hconserved, queuedEvent, deliveredEvent]
  | pop event rest hheld =>
    subst hheld
    have hqueued : queuedEvent (some (.delivered event)) = none := rfl
    simpa [hqueued, deliveredEvent] using hconserved
  | merge first next merged rest hheld hmerged =>
    subst hheld
    have hqueued : queuedEvent none = none := rfl
    have hdelivered : deliveredEvent none = none := rfl
    simpa [hqueued, hdelivered, (mergeBroadcastControlMessage_spec hmerged).1] using hconserved

theorem HeldStep.allWithinBatch (h : HeldStep ControlMessage.WithinBatch held output held')
    (hall : AllWithinBatch held outputs) : AllWithinBatch held' (outputs ++ [output]) := by
  have hdelivered : (∀ event ∈ deliveredEvent output, event.message.WithinBatch) →
      ∀ event ∈ (outputs ++ [output]).filterMap deliveredEvent, event.message.WithinBatch := by
    intro hnew event hmem
    rw [filterMap_append, mem_append] at hmem
    exact hmem.elim (hall.delivered event) fun h => hnew event (by simpa using h)
  have hsent : (∀ message ∈ sentMessage output, message.WithinBatch) →
      ∀ message ∈ (outputs ++ [output]).filterMap sentMessage, message.WithinBatch := by
    intro hnew message hmem
    rw [filterMap_append, mem_append] at hmem
    exact hmem.elim (hall.sent message) fun h => hnew message (by simpa using h)
  cases h with
  | same _ _ hnone hnew => exact ⟨hall.held, hdelivered (by simp [hnone]), hsent hnew⟩
  | push event hevent =>
    refine ⟨?_, hdelivered nofun, hsent nofun⟩
    exact forall_mem_append.mpr ⟨hall.held, forall_mem_singleton.mpr hevent⟩
  | pop event rest hheld =>
    subst hheld
    refine ⟨fun other hother => hall.held other (mem_cons_of_mem _ hother), hdelivered ?_,
      hsent nofun⟩
    rintro other ⟨⟩
    exact hall.held event mem_cons_self
  | merge first next merged rest hheld hmerged =>
    subst hheld
    refine ⟨?_, hdelivered nofun, hsent nofun⟩
    intro other hother
    rcases mem_cons.mp hother with rfl | hrest
    · obtain ⟨-, hcount, hle⟩ := mergeBroadcastControlMessage_spec hmerged
      have hfirst := (hall.held first mem_cons_self).1
      exact ⟨by omega, hle⟩
    · exact hall.held other (mem_cons_of_mem _ (mem_cons_of_mem _ hrest))

/-- A message that is too large waits or was delivered. -/
def HasOversize (held : List BroadcastEvent) (outputs : List (Option Output)) : Prop :=
  ∃ large ∈ held ++ outputs.filterMap deliveredEvent, large.Oversize

/-- Such a message is not merged. -/
theorem HeldStep.hasOversize (h : HeldStep fits held output held')
    (hlarge : HasOversize held outputs) : HasOversize held' (outputs ++ [output]) := by
  obtain ⟨large, hmem, hlarge⟩ := hlarge
  refine ⟨large, ?_, hlarge⟩
  rw [filterMap_append, mem_append, mem_append]
  rcases mem_append.mp hmem with hheld | hdelivered
  · cases h with
    | same => exact .inl hheld
    | push event => exact .inl (mem_append_left _ hheld)
    | pop event rest heq =>
      rw [heq] at hheld
      rcases mem_cons.mp hheld with rfl | hrest
      · exact .inr (.inr (by simp [deliveredEvent]))
      · exact .inl hrest
    | merge first next merged rest heq hmerged =>
      obtain ⟨-, hcount, hle⟩ := mergeBroadcastControlMessage_spec hmerged
      rw [BroadcastEvent.Oversize] at hlarge
      rw [heq, mem_cons, mem_cons] at hheld
      rcases hheld with rfl | rfl | hrest
      · omega
      · omega
      · exact .inl (mem_cons_of_mem _ hrest)
  · exact .inr (.inl hdelivered)

end

section

variable {P : Packages} {self : Self}

/-- What every step does to the events that wait, in a run. -/
theorem runSteps_held {motive : List BroadcastEvent → List (Option Output) → Prop} {t : Tally}
    {outputs : List (Option Output)} (hstart : motive t.node.held outputs)
    (hstep : ∀ {held output held' outputs}, HeldStep (fun _ => True) held output held' →
      motive held outputs → motive held' (outputs ++ [output])) (events : List NodeEvent) :
    motive (runSteps (Tally.step P self) t events).1.node.held
      (outputs ++ (runSteps (Tally.step P self) t events).2) := by
  have hevery : Along (Tally.step P self) (fun _ _ => True) t events :=
    along_of_forall fun _ _ _ => trivial
  refine runSteps_induction (motive := fun t outputs => motive t.node.held outputs)
    (fun t outputs event _ hheld => ?_) hevery hstart
  exact hstep (t.node.heldStep_step P self event fun _ _ => trivial) hheld

/-- A run in which a call ends with more than fits leads to a message that is too large. -/
theorem hasOversize_of_run {t : Tally} {events : List NodeEvent} (hinv : t.Inv)
    (h : ¬ Along (Tally.step P self) Tally.FitsBatch t events) :
    HasOversize (runSteps (Tally.step P self) t events).1.node.held
      (runSteps (Tally.step P self) t events).2 := by
  induction events generalizing t with
  | nil => exact absurd trivial h
  | cons event events ih =>
    rw [runSteps_cons]
    by_cases hfits : t.FitsBatch event
    · obtain ⟨large, hmem, hlarge⟩ := ih (hinv.step P self event) fun hrest => h ⟨hfits, hrest⟩
      refine ⟨large, ?_, hlarge⟩
      rw [← singleton_append, filterMap_append]
      simp only [mem_append] at hmem ⊢
      exact hmem.imp_right .inr
    · -- the message is in the queue behind this step, and from there on it stays
      obtain ⟨large, hheld, hlarge⟩ := exists_oversize hinv hfits P self
      have hqueued : HasOversize (t.step P self event).1.node.held [(t.step P self event).2] :=
        ⟨large, mem_append_left _ hheld, hlarge⟩
      exact runSteps_held hqueued (fun hstep => hstep.hasOversize) events

end

/-- In every run from any table, all messages are within the bound if and only if, whenever a call
of `receiveHostRoutes` ends and the queue takes a message, the routes of its batch that were
accepted for multipath targets, with the usable records of those that became multipath, are at most
`maximumHostRouteBatch`. In any case the worker delivers what was queued, in order and for the same
peers. -/
theorem run_messages_within_batch (P : Packages) (self : Self) (table : Table)
    (hostRouteSequence : GoMap Bytes ℕ) (events : List NodeEvent) :
    let result := runSteps (Tally.step P self) (.start table hostRouteSequence) events
    (AllWithinBatch result.1.node.held result.2 ↔
      Along (Tally.step P self) Tally.FitsBatch (.start table hostRouteSequence) events) ∧
    Conserved result.1.node.held result.2 := by
  have hinv : (Tally.start table hostRouteSequence).Inv := ⟨nofun, fun _ _ => rfl⟩
  have hnone : AllWithinBatch (Tally.start table hostRouteSequence).node.held [] :=
    ⟨nofun, nofun, nofun⟩
  refine ⟨⟨fun hall => ?_, fun hfits => ?_⟩, ?_⟩
  · by_contra hfits
    obtain ⟨large, hmem, hlarge⟩ := hasOversize_of_run hinv hfits
    have hwithin : large.message.WithinBatch :=
      (mem_append.mp hmem).elim (hall.held large) (hall.delivered large)
    exact Nat.not_lt.mpr hwithin.2 hlarge
  · have hrun := runSteps_induction
      (motive := fun t outputs => t.Inv ∧ AllWithinBatch t.node.held outputs)
      (fun t outputs event hfits ⟨hinv, hall⟩ => ⟨hinv.step P self event,
        (t.node.heldStep_step P self event (withinBatch_handsOn hinv hfits)).allWithinBatch hall⟩)
      hfits ⟨hinv, hnone⟩
    rw [nil_append] at hrun
    exact hrun.2
  · have hstart : Conserved (Tally.start table hostRouteSequence).node.held [] := rfl
    have hrun := @runSteps_held P self _ _ _ hstart (fun hstep => hstep.conserved) events
    rwa [nil_append] at hrun

/-! ## A batch that makes many targets multipath -/

/-- A turn of the first or second task of a sample run, at second 100. -/
def sampleTurn (task : ℕ) : NodeEvent :=
  .advance task ⟨⟨100000000000, 100000000000, true⟩, 100000000000, sampleOrder, true⟩

/-- Relay 3. -/
def sampleSelf : Self := ⟨sampleRelay 3, sampleKey 3, [1]⟩

/-- Relay 1 and then relay 2 announce that they host the first targets. -/
def sampleBatches (targets : ℕ) : List NodeEvent :=
  [.receiveHostRoutes (sampleRelay 1)
      ((List.range targets).map fun n => sampleRoute n 1 1 100 true)] ++
    List.replicate (2 * targets + 1) (sampleTurn 0) ++
  [.receiveHostRoutes (sampleRelay 2)
      ((List.range targets).map fun n => sampleRoute n 2 1 100 true)] ++
    List.replicate (2 * targets + 1) (sampleTurn 1) ++ [.takeBroadcast, .mergeBroadcast]

/-- Batches of 65 announcements are accepted, and the relay sends one message of 130. -/
theorem oversize_message :
    ((runSteps (Node.step .sample sampleSelf) (.start .empty .empty)
      (sampleBatches 65)).2.filterMap deliveredEvent).map
        (fun event => broadcastControlItemCount event.message) = [130] := by
  decide +kernel

theorem run_messages_within_batch_pair :
    let result := runSteps (Tally.step .sample sampleSelf) (.start .empty .empty) (sampleBatches 2)
    AllWithinBatch result.1.node.held result.2 :=
  (run_messages_within_batch .sample sampleSelf .empty .empty (sampleBatches 2)).1.mpr
    (by decide +kernel)

end NatP2P.RelayNode
