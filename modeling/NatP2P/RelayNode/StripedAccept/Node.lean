import NatP2P.Common.Bytes
import NatP2P.Common.GoMap
import NatP2P.Common.Run
import NatP2P.Common.Word

/-!
# Collecting the legs of a striped connection

A relay opens a striped connection with one stream on each of several physical connections. At the
accepting relay the streams arrive one by one, each on its own session. `collectStripedLeg` collects
them under the id of the connection; once they are complete it takes them out and makes one
connection of them. The opening side numbers its attempts, in the high part of the index of a leg,
so that the late legs of a failed attempt do not mix with those of the next.

Each leg is handled by a call of its own. A waiting set has a goroutine with a timer, and one for
each of its legs that waits for the end of the leg. All of them change `stripedLegs` only under the
lock of the node, and close legs after they have left it; a step of the machine is one critical
section, or closing one leg. The `stripedAccept` values are shared by pointers: a pointer is a place
in `accepts`.

Reference: `p2pnode/impl/relaynode/relay_node.go`, `p2pnode/impl/relaynode/bridge_pool.go`.
-/

namespace NatP2P.RelayNode

/-- `poolMaxConns`. -/
def poolMaxConns : ℕ := 8

/-! ## The index of a leg -/

/-- `nextStripedAttempt`: the attempt, and the counter behind it. -/
def nextStripedAttempt (stripedAttempt : ℕ) : ℕ × ℕ :=
  let maxAttempt := (2 ^ 63 - 1) / poolMaxConns
  let stripedAttempt := if maxAttempt < stripedAttempt then 0 else stripedAttempt
  (stripedAttempt, add64 stripedAttempt 1)

/-- The index `OpenLogicalConn` gives to a leg: `int(attempt*poolMaxConns) + idx`. -/
def encodedIndex (attempt idx : ℕ) : ℤ := wrapInt (wrapInt (mul64 attempt poolMaxConns) + idx)

/-- `decodeStripedLegIndex`: the attempt, the index, and whether they are valid. -/
def decodeStripedLegIndex (encodedIndex legCount : ℤ) : ℕ × ℕ × Bool :=
  if legCount ≤ 1 ∨ poolMaxConns < legCount ∨ encodedIndex < 0 then (0, 0, false)
  else
    let attempt := encodedIndex.toNat / poolMaxConns
    let legIndex := encodedIndex.toNat % poolMaxConns
    (attempt, legIndex, legIndex < legCount)

/-! ## Legs and sets of legs -/

/-- What a `MuxStream` that was accepted knows of its leg. -/
structure LegInfo where
  streamID : Bytes
  legIndex : ℤ
  legCount : ℤ
  targetNodeID : Bytes
  originPubKey : Bytes
  legFlags : ℕ
deriving DecidableEq

/-- `stripedAccept`. `streamID` is the id under which it was put into `stripedLegs`; nothing reads
it. -/
structure StripedAccept where
  streamID : Bytes
  want : ℤ
  attempt : ℕ
  /-- index to leg -/
  legs : GoMap ℕ ℕ
  target : Bytes
  pubKey : Bytes
  flags : ℕ
  done : Bool

/-- `newStripedAccept`. -/
def newStripedAccept (st : LegInfo) (attempt : ℕ) (want : ℤ) : StripedAccept where
  streamID := st.streamID
  want
  attempt
  legs := .empty
  target := st.targetNodeID
  pubKey := st.originPubKey
  flags := st.legFlags
  done := false

/-- `matches`. -/
def StripedAccept.matches (sa : StripedAccept) (st : LegInfo) (want : ℤ) : Prop :=
  sa.want = want ∧ sa.target = st.targetNodeID ∧ sa.pubKey = st.originPubKey ∧ sa.flags = st.legFlags

instance (sa : StripedAccept) (st : LegInfo) (want : ℤ) : Decidable (sa.matches st want) :=
  inferInstanceAs (Decidable (_ ∧ _))

/-- The legs `closeLegs` closes. The order is that of the map, so a step may close any of them
first. -/
def StripedAccept.members (sa : StripedAccept) : List ℕ := sa.legs.values (.ascending (· ≤ ·))

/-- What a call of `collectStripedLeg` does after it has closed a stale set. -/
inductive Verdict where
  | reject
  /-- the leg waits in a set, which was created for it or not -/
  | wait (sa : ℕ) (created : Bool)
  /-- the legs are complete -/
  | assemble (legs : List (Option ℕ))
deriving DecidableEq

/-- Where a call of `collectStripedLeg` is. -/
inductive CollectCall where
  | arrived
  /-- before it takes the lock -/
  | checked (attempt legIndex : ℕ)
  /-- it left the lock; the legs of the stale set that are still to be closed -/
  | left (stale : List ℕ) (verdict : Verdict)
  /-- `lc.Close()`, after the hello could not be made -/
  | failed (rest : List ℕ)
  | returned
deriving DecidableEq

/-- A leg that was accepted, with its call of `collectStripedLeg`. -/
structure AcceptedLeg where
  info : LegInfo
  closed : Bool
  call : CollectCall
deriving DecidableEq

/-- A goroutine that watches over a set. -/
inductive Guard where
  /-- `watchStripedLeg` -/
  | watching (connID : Bytes) (sa leg : ℕ)
  /-- `expireStripedAccept` -/
  | expiring (connID : Bytes) (sa : ℕ)
  /-- `discardStripedAccept`, before it takes the lock -/
  | discarding (connID : Bytes) (sa : ℕ)
  /-- `closeLegs` -/
  | closing (rest : List ℕ)
  | returned
deriving DecidableEq

/-- A connection that was made of legs. -/
structure Assembly where
  connID : Bytes
  /-- the set it was made of -/
  sa : ℕ
  legs : List (Option ℕ)
deriving DecidableEq

/-- The part of a relay that collects legs. `assembled` remembers the connections; nothing reads
it. -/
structure StripedNode where
  legs : List AcceptedLeg
  accepts : List StripedAccept
  stripedLegs : GoMap Bytes ℕ
  guards : List Guard
  /-- `n.ctx` is done. -/
  stopped : Bool
  assembled : List Assembly

/-- Which of the events a goroutine waits for has happened. -/
inductive Wakeup where
  /-- the leg is closed, or the timer has fired -/
  | ended
  | nodeDone
  | done
deriving DecidableEq

/-- What happens at the relay. -/
inductive StripedEvent where
  /-- a session accepts a leg -/
  | arrive (info : LegInfo)
  /-- a step of the call of a leg; `pick` is the leg it closes, `ok` whether the hello is made -/
  | collect (leg pick : ℕ) (ok : Bool)
  /-- a goroutine wakes up, or takes its next step -/
  | wake (guard : ℕ) (wakeup : Wakeup) (pick : ℕ)
  /-- a leg is closed by the other end, or its session ends -/
  | close (leg : ℕ)
  | shutdown
deriving DecidableEq

namespace StripedNode

def new : StripedNode where
  legs := []
  accepts := []
  stripedLegs := .empty
  guards := []
  stopped := false
  assembled := []

/-- `MuxStream.Close`. -/
def closeLeg (n : StripedNode) (leg : ℕ) : StripedNode :=
  { n with legs := n.legs.modify leg fun l => { l with closed := true } }

def setCall (n : StripedNode) (leg : ℕ) (call : CollectCall) : StripedNode :=
  { n with legs := n.legs.modify leg fun l => { l with call } }

def setGuard (n : StripedNode) (guard : ℕ) (g : Guard) : StripedNode :=
  { n with guards := n.guards.set guard g }

/-- `delete(n.stripedLegs, connID)` and `sa.stop()`. -/
def drop (n : StripedNode) (connID : Bytes) (sa : ℕ) : StripedNode :=
  { n with
    stripedLegs := n.stripedLegs.delete connID
    accepts := n.accepts.modify sa fun a => { a with done := true } }

/-- A new set in `stripedLegs`. -/
def create (n : StripedNode) (st : LegInfo) (attempt : ℕ) : StripedNode :=
  { n with
    stripedLegs := n.stripedLegs.set st.streamID n.accepts.length
    accepts := n.accepts ++ [newStripedAccept st attempt st.legCount] }

/-- `sa.legs[legIndex] = st`; a set that is complete is taken out. -/
def keep (n : StripedNode) (leg : ℕ) (st : LegInfo) (legIndex sa : ℕ) (created : Bool)
    (stale : List ℕ) : StripedNode :=
  let n := { n with
    accepts := n.accepts.modify sa fun a => { a with legs := a.legs.set legIndex leg } }
  match n.accepts[sa]? with
  | none => n
  | some a =>
    if (a.legs.len : ℤ) = a.want then
      let readyLegs := (List.range a.want.toNat).map a.legs.get
      { (n.drop st.streamID sa).setCall leg (.left stale (.assemble readyLegs)) with
        assembled := n.assembled ++ [⟨st.streamID, sa, readyLegs⟩] }
    else n.setCall leg (.left stale (.wait sa created))

/-- The critical section of `collectStripedLeg`. -/
def collectLocked (n : StripedNode) (leg : ℕ) (st : LegInfo) (attempt legIndex : ℕ) : StripedNode :=
  match n.stripedLegs.get st.streamID with
  | none => (n.create st attempt).keep leg st legIndex n.accepts.length true []
  | some sa =>
    match n.accepts[sa]? with
    | none => n
    | some a =>
      if attempt < a.attempt then n.setCall leg (.left [] .reject)
      else if a.attempt < attempt then
        ((n.drop st.streamID sa).create st attempt).keep leg st legIndex n.accepts.length true a.members
      else if ¬ a.matches st st.legCount then
        (n.drop st.streamID sa).setCall leg (.left a.members .reject)
      else if (a.legs.get legIndex).isSome then n.setCall leg (.left [] .reject)
      else n.keep leg st legIndex sa false []

/-- A step of `collectStripedLeg`. -/
def collect (n : StripedNode) (leg : ℕ) (l : AcceptedLeg) (pick : ℕ) (ok : Bool) : StripedNode :=
  match l.call with
  | .arrived =>
    let (attempt, legIndex, valid) := decodeStripedLegIndex l.info.legIndex l.info.legCount
    if l.info.streamID = [] ∨ valid = false then (n.closeLeg leg).setCall leg .returned
    else if l.closed then n.setCall leg .returned
    else n.setCall leg (.checked attempt legIndex)
  | .checked attempt legIndex => n.collectLocked leg l.info attempt legIndex
  | .left [] .reject => (n.closeLeg leg).setCall leg .returned
  | .left [] (.wait sa created) =>
    let expiring := if created then [Guard.expiring l.info.streamID sa] else []
    { n.setCall leg .returned with
      guards := n.guards ++ expiring ++ [.watching l.info.streamID sa leg] }
  | .left [] (.assemble readyLegs) =>
    n.setCall leg (if ok then .returned else .failed (readyLegs.filterMap id))
  | .left stale verdict =>
    match stale[pick]? with
    | none => n
    | some other => (n.closeLeg other).setCall leg (.left (stale.eraseIdx pick) verdict)
  | .failed [] => n.setCall leg .returned
  | .failed (other :: rest) => (n.closeLeg other).setCall leg (.failed rest)
  | .returned => n

/-- A goroutine that watches over a set goes on when something it waits for has happened. -/
def wakes (n : StripedNode) (sa : ℕ) (ended : Bool) (discard : Guard) : Wakeup → Option Guard
  | .ended => if ended then some discard else none
  | .nodeDone => if n.stopped then some discard else none
  | .done => if (n.accepts[sa]?.map StripedAccept.done).getD false then some .returned else none

/-- A step of a goroutine that watches over a set. -/
def wake (n : StripedNode) (guard : ℕ) (g : Guard) (wakeup : Wakeup) (pick : ℕ) : StripedNode :=
  match g with
  | .watching connID sa leg =>
    match n.wakes sa ((n.legs[leg]?.map AcceptedLeg.closed).getD false) (.discarding connID sa)
      wakeup with
    | some g => n.setGuard guard g
    | none => n
  | .expiring connID sa =>
    match n.wakes sa true (.discarding connID sa) wakeup with
    | some g => n.setGuard guard g
    | none => n
  | .discarding connID sa =>
    if n.stripedLegs.get connID = some sa then
      match n.accepts[sa]? with
      | none => n
      | some a => (n.drop connID sa).setGuard guard (.closing a.members)
    else n.setGuard guard .returned
  | .closing [] => n.setGuard guard .returned
  | .closing rest =>
    match rest[pick]? with
    | none => n
    | some leg => (n.closeLeg leg).setGuard guard (.closing (rest.eraseIdx pick))
  | .returned => n

/-- One step. -/
def step (n : StripedNode) : StripedEvent → StripedNode × Unit
  | .arrive info => ({ n with legs := n.legs ++ [⟨info, false, .arrived⟩] }, ())
  | .collect leg pick ok =>
    match n.legs[leg]? with
    | none => (n, ())
    | some l => (n.collect leg l pick ok, ())
  | .wake guard wakeup pick =>
    match n.guards[guard]? with
    | none => (n, ())
    | some g => (n.wake guard g wakeup pick, ())
  | .close leg => (n.closeLeg leg, ())
  | .shutdown => ({ n with stopped := true }, ())

/-- The relay behind a run. -/
def run (events : List StripedEvent) : StripedNode := (runSteps step new events).1

end StripedNode

end NatP2P.RelayNode
