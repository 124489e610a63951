import NatP2P.Common.Run
import NatP2P.Common.Slots
import NatP2P.Network.Frame

/-!
# The routes of a relay

Reference: `networkFrameWork/FrameRouteRegistry.go` (`frameRouteRegistry`).

A relay gives a message another `MessageId` when it passes it on, and the registry remembers the two
ids as a pair. Two maps, the pairs of each connection and a list of the completed pairs describe one
set of pairs.

A pair is a pointer in the source. Here it is an index into `pairs`, the list of all pairs that were
ever made, so a pointer that someone kept stays meaningful after the pair left the maps.
-/

namespace NatP2P.Network

/-- `clientRouteKey`. -/
structure ClientRouteKey where
  connectionID : Bytes
  messageID : ℕ
deriving DecidableEq

/-- `frameRouteEntry` of a pair. -/
structure FrameRouteEntry (D : Type*) where
  dest : D
  dstID : ℕ
  pair : ℕ
deriving DecidableEq

/-- `frameRoutePair`. Its `expiryItem` is not nil exactly as long as the pair is in the expiry list:
the source sets it together with `PushBack` and clears it together with `Remove` and `Init`.
`time.Time{}` is 0. -/
structure FrameRoutePair (D : Type*) where
  relayID : ℕ
  clientKey : ClientRouteKey
  relayEntry : FrameRouteEntry D
  clientEntry : FrameRouteEntry D
  totalFrames : ℕ
  completed : Bool
  expiresAt : ℤ
  removed : Bool
deriving DecidableEq

/-- `frameRouteRegistry`. -/
structure FrameRouteRegistry (D : Type*) where
  relaySide : GoMap ℕ (FrameRouteEntry D)
  clientSide : GoMap ClientRouteKey (FrameRouteEntry D)
  connectionPairs : GoMap Bytes (Finset ℕ)
  expiry : List ℕ
  pairCount : ℕ
  tombstoneTTL : ℤ
  maxPairs : ℕ
  pairs : List (FrameRoutePair D)

/-- `frameRouteTombstoneTTL`, in nanoseconds. -/
def frameRouteTombstoneTTL : ℤ := 90 * 1000000000

/-- `frameRouteMaxPairs`. -/
def frameRouteMaxPairs : ℕ := 131072

namespace FrameRouteRegistry

variable {D : Type*}

/-- `newFrameRouteRegistryWithLimits`. -/
def newWithLimits (D : Type*) (ttl maxPairs : ℤ) : FrameRouteRegistry D where
  relaySide := .empty
  clientSide := .empty
  connectionPairs := .empty
  expiry := []
  pairCount := 0
  tombstoneTTL := if ttl ≤ 0 then frameRouteTombstoneTTL else ttl
  maxPairs := if maxPairs ≤ 0 then frameRouteMaxPairs else maxPairs.toNat
  pairs := []

/-- `touchLocked`. -/
def touchLocked (r : FrameRouteRegistry D) (i : ℕ) (now : ℤ) : FrameRouteRegistry D :=
  match r.pairs[i]? with
  | none => r
  | some p =>
    if p.removed then r
    else if p.completed then
      { r with
        expiry := r.expiry.erase i ++ [i]
        pairs := r.pairs.set i { p with expiresAt := now + r.tombstoneTTL } }
    else
      { r with
        expiry := r.expiry.erase i
        pairs := r.pairs.set i { p with expiresAt := 0 } }

/-- A pair leaves the pairs of its connection. -/
def leaveConnection (r : FrameRouteRegistry D) (connectionID : Bytes) (i : ℕ) :
    GoMap Bytes (Finset ℕ) :=
  match r.connectionPairs.get connectionID with
  | none => r.connectionPairs
  | some connectionSet =>
    if connectionSet.erase i = ∅ then r.connectionPairs.delete connectionID
    else r.connectionPairs.set connectionID (connectionSet.erase i)

/-- `removePairLocked`. -/
def removePairLocked (r : FrameRouteRegistry D) (i : ℕ) : FrameRouteRegistry D :=
  match r.pairs[i]? with
  | none => r
  | some p =>
    if p.removed then r
    else
      { r with
        relaySide :=
          if (r.relaySide.get p.relayID).map FrameRouteEntry.pair = some i then
            r.relaySide.delete p.relayID
          else r.relaySide
        clientSide :=
          if (r.clientSide.get p.clientKey).map FrameRouteEntry.pair = some i then
            r.clientSide.delete p.clientKey
          else r.clientSide
        expiry := r.expiry.erase i
        connectionPairs := r.leaveConnection p.clientKey.connectionID i
        pairs := r.pairs.set i { p with removed := true }
        pairCount := r.pairCount - 1 }

/-- The loop of `expireLocked`. Every round takes the front out of the list. -/
def expireLoop (now : ℤ) : ℕ → FrameRouteRegistry D → FrameRouteRegistry D
  | 0, r => r
  | fuel + 1, r =>
    match r.expiry with
    | [] => r
    | i :: rest =>
      match r.pairs[i]? with
      | none => r
      | some p =>
        if p.completed = false then
          expireLoop now fuel
            { r with expiry := rest, pairs := r.pairs.set i { p with expiresAt := 0 } }
        else if p.expiresAt > now then r
        else expireLoop now fuel (r.removePairLocked i)

/-- `expireLocked`. -/
def expireLocked (r : FrameRouteRegistry D) (now : ℤ) : FrameRouteRegistry D :=
  expireLoop now r.expiry.length r

/-- `evictOldestCompletedLocked`. -/
def evictOldestCompletedLocked (r : FrameRouteRegistry D) : Bool × FrameRouteRegistry D :=
  match r.expiry.find? fun i => (r.pairs[i]?.map FrameRoutePair.completed).getD false with
  | none => (false, r)
  | some i => (true, r.removePairLocked i)

/-- The loop of `bindPair` in front of a full registry. Every eviction lowers `pairCount`. -/
def makeRoom : ℕ → FrameRouteRegistry D → Bool × FrameRouteRegistry D
  | 0, r => (r.pairCount < r.maxPairs, r)
  | fuel + 1, r =>
    if r.pairCount < r.maxPairs then (true, r)
    else
      match r.evictOldestCompletedLocked with
      | (false, r) => (false, r)
      | (true, r) => makeRoom fuel r

/-- `relayGet`. -/
def relayGet (r : FrameRouteRegistry D) (messageID : ℕ) (now : ℤ) :
    Option (FrameRouteEntry D) × FrameRouteRegistry D :=
  let r := r.expireLocked now
  match r.relaySide.get messageID with
  | none => (none, r)
  | some entry => (some entry, r.touchLocked entry.pair now)

/-- `clientGet`. -/
def clientGet (r : FrameRouteRegistry D) (key : ClientRouteKey) (now : ℤ) :
    Option (FrameRouteEntry D) × FrameRouteRegistry D :=
  let r := r.expireLocked now
  match r.clientSide.get key with
  | none => (none, r)
  | some entry => (some entry, r.touchLocked entry.pair now)

/-- The arguments of `bindPair`. Every caller makes the two entries for the call, so they are given
by their fields. -/
structure Binding (D : Type*) where
  relayID : ℕ
  relayDest : D
  relayDstID : ℕ
  clientKey : ClientRouteKey
  clientDest : D
  clientDstID : ℕ
  totalFrames : ℕ

/-- The pair that `bindPair` makes. -/
def Binding.pair (b : Binding D) (i : ℕ) : FrameRoutePair D where
  relayID := b.relayID
  clientKey := b.clientKey
  relayEntry := ⟨b.relayDest, b.relayDstID, i⟩
  clientEntry := ⟨b.clientDest, b.clientDstID, i⟩
  totalFrames := b.totalFrames
  completed := false
  expiresAt := 0
  removed := false

/-- The end of `bindPair`: a new pair goes into the maps. -/
def addPair (r : FrameRouteRegistry D) (b : Binding D) : FrameRouteRegistry D :=
  let i := r.pairs.length
  let connectionSet := (r.connectionPairs.get b.clientKey.connectionID).getD ∅
  { r with
    relaySide := r.relaySide.set b.relayID (b.pair i).relayEntry
    clientSide := r.clientSide.set b.clientKey (b.pair i).clientEntry
    connectionPairs := r.connectionPairs.set b.clientKey.connectionID (insert i connectionSet)
    pairs := r.pairs ++ [b.pair i]
    pairCount := r.pairCount + 1 }

/-- `bindPair`. -/
def bindPair (r : FrameRouteRegistry D) (b : Binding D) (now : ℤ) :
    Option ℕ × FrameRouteRegistry D :=
  let r := r.expireLocked now
  match r.relaySide.get b.relayID, r.clientSide.get b.clientKey with
  | none, none =>
    match r.makeRoom r.pairCount with
    | (false, r) => (none, r)
    | (true, r) => (some r.pairs.length, (r.addPair b).touchLocked r.pairs.length now)
  | some relayMatch, some clientMatch =>
    match r.pairs[relayMatch.pair]? with
    | none => (none, r)
    | some p =>
      if relayMatch.pair = clientMatch.pair ∧ p.relayID = b.relayID ∧ p.clientKey = b.clientKey ∧
          p.totalFrames = b.totalFrames then
        (some relayMatch.pair, r.touchLocked relayMatch.pair now)
      else (none, r)
  | _, _ => (none, r)

/-- `complete` for an entry of pair `i`. -/
def complete (r : FrameRouteRegistry D) (i : ℕ) (now : ℤ) : FrameRouteRegistry D :=
  match r.pairs[i]? with
  | none => r
  | some p =>
    if p.removed then r
    else
      let r := { r with pairs := r.pairs.set i { p with completed := true } }
      (r.touchLocked i now).expireLocked now

/-- `purgeConnection`. The pairs of the connection come in some order. -/
def purgeConnection (r : FrameRouteRegistry D) (connectionID : Bytes) (order : GoMap.Order ℕ) :
    FrameRouteRegistry D :=
  if connectionID = [] then r
  else
    let connectionSet := (r.connectionPairs.get connectionID).getD ∅
    let r := (order.visit connectionSet).foldl removePairLocked r
    { r with connectionPairs := r.connectionPairs.delete connectionID }

/-- `clear`. It marks the pairs of the expiry list as removed, and only these. -/
def clear (r : FrameRouteRegistry D) : FrameRouteRegistry D :=
  { r with
    relaySide := .empty
    clientSide := .empty
    connectionPairs := .empty
    expiry := []
    pairCount := 0
    pairs := r.pairs.mapIdx fun i p => if i ∈ r.expiry then { p with removed := true } else p }

/-- A call of a method. The clock may show anything. -/
inductive Event (D : Type*) where
  | relayGet (messageID : ℕ) (now : ℤ)
  | clientGet (key : ClientRouteKey) (now : ℤ)
  | bindPair (binding : Binding D) (now : ℤ)
  | complete (pair : ℕ) (now : ℤ)
  | purgeConnection (connectionID : Bytes) (order : GoMap.Order ℕ)
  | clear

/-- The state behind a call, and the pair that it returns. -/
def step (r : FrameRouteRegistry D) : Event D → FrameRouteRegistry D × Option ℕ
  | .relayGet messageID now =>
    ((r.relayGet messageID now).2, (r.relayGet messageID now).1.map FrameRouteEntry.pair)
  | .clientGet key now => ((r.clientGet key now).2, (r.clientGet key now).1.map FrameRouteEntry.pair)
  | .bindPair binding now => ((r.bindPair binding now).2, (r.bindPair binding now).1)
  | .complete pair now => (r.complete pair now, none)
  | .purgeConnection connectionID order => (r.purgeConnection connectionID order, none)
  | .clear => (r.clear, none)

/-- The state behind a list of calls. -/
def run (ttl maxPairs : ℤ) (events : List (Event D)) : FrameRouteRegistry D :=
  (runSteps step (newWithLimits D ttl maxPairs) events).1

end FrameRouteRegistry

end NatP2P.Network
