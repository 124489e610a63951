import NatP2P.Billing.Record
import NatP2P.Common.Totals
import NatP2P.Network.Frame

/-!
# The holdback

Reference: `networkFrameWork/billing_holdback.go` (`messageHoldback`).

The Relay does not forward a frame of a billable direction before the message it belongs to is
complete, validated and paid for. `messageHoldback` keeps the frames of the messages that are not
there yet, and behind the approval of a message the digests of its frames, so that retransmissions
can be let through. An entry is one message; the entries of a connection share a record with the
phase the connection is in. The same five counters are kept for the holdback and for each
connection.

Go pointers are compared by the program. An object has a number `ref` that no other object gets; a
pointer to an entry is its key and its number. Nothing reads an entry that has left the map, so the
map holds the objects themselves. A timer is the time at which it goes off. A callback that was
started waits for the mutex, and `Stop` no longer reaches it: the waiting callbacks are part of the
state.
-/

namespace NatP2P.Network

/-- `messageHoldbackLimits`. -/
structure Limits where
  maxMessageBytes : ℕ
  maxMessageFrames : ℕ
  maxConnectionBytes : ℕ
  maxConnectionMessages : ℕ
  maxConnectionFrames : ℕ
  maxGlobalBytes : ℕ
  maxGlobalMessages : ℕ
  maxGlobalFrames : ℕ
  maxConnections : ℕ
  pendingTTL : ℤ
  approvedTTL : ℤ
  maxApprovedFingerprintBytes : ℕ
  maxConnectionApprovedFingerprintBytes : ℕ
  maxApprovedMessages : ℕ
  maxConnectionApprovedMessages : ℕ
  recoveryTTL : ℤ

/-- `messageHoldbackConnectionKey`. -/
structure ConnectionKey where
  nodeID : Bytes
  connectionID : Bytes
deriving DecidableEq

/-- `messageHoldbackKey`. -/
structure HoldbackKey where
  nodeID : Bytes
  connectionID : Bytes
  messageID : ℕ
deriving DecidableEq

/-- The connection of a message. -/
def HoldbackKey.connection (key : HoldbackKey) : ConnectionKey := ⟨key.nodeID, key.connectionID⟩

/-! ## Counters -/

/-- The counters of `messageHoldback`. A `messageHoldbackConnection` has the same five; its
`approvedFingerprintBytes` is `approvedBytes` here. -/
@[ext]
structure Usage where
  pendingBytes : ℤ
  pendingMessages : ℤ
  pendingFrames : ℤ
  approvedBytes : ℤ
  approvedMessages : ℤ
deriving DecidableEq

namespace Usage

instance : Zero Usage := ⟨⟨0, 0, 0, 0, 0⟩⟩

instance : Add Usage :=
  ⟨fun u v => ⟨u.pendingBytes + v.pendingBytes, u.pendingMessages + v.pendingMessages,
    u.pendingFrames + v.pendingFrames, u.approvedBytes + v.approvedBytes,
    u.approvedMessages + v.approvedMessages⟩⟩

instance : Neg Usage :=
  ⟨fun u => ⟨-u.pendingBytes, -u.pendingMessages, -u.pendingFrames, -u.approvedBytes,
    -u.approvedMessages⟩⟩

section Fields

variable (u v : Usage)

@[simp] theorem zero_pendingBytes : (0 : Usage).pendingBytes = 0 := rfl
@[simp] theorem zero_pendingMessages : (0 : Usage).pendingMessages = 0 := rfl
@[simp] theorem zero_pendingFrames : (0 : Usage).pendingFrames = 0 := rfl
@[simp] theorem zero_approvedBytes : (0 : Usage).approvedBytes = 0 := rfl
@[simp] theorem zero_approvedMessages : (0 : Usage).approvedMessages = 0 := rfl

@[simp] theorem add_pendingBytes : (u + v).pendingBytes = u.pendingBytes + v.pendingBytes := rfl
@[simp] theorem add_pendingMessages :
    (u + v).pendingMessages = u.pendingMessages + v.pendingMessages := rfl
@[simp] theorem add_pendingFrames : (u + v).pendingFrames = u.pendingFrames + v.pendingFrames := rfl
@[simp] theorem add_approvedBytes : (u + v).approvedBytes = u.approvedBytes + v.approvedBytes := rfl
@[simp] theorem add_approvedMessages :
    (u + v).approvedMessages = u.approvedMessages + v.approvedMessages := rfl

@[simp] theorem neg_pendingBytes : (-u).pendingBytes = -u.pendingBytes := rfl
@[simp] theorem neg_pendingMessages : (-u).pendingMessages = -u.pendingMessages := rfl
@[simp] theorem neg_pendingFrames : (-u).pendingFrames = -u.pendingFrames := rfl
@[simp] theorem neg_approvedBytes : (-u).approvedBytes = -u.approvedBytes := rfl
@[simp] theorem neg_approvedMessages : (-u).approvedMessages = -u.approvedMessages := rfl

end Fields

/-- Counters are added and taken away field by field. -/
instance : AddCommGroup Usage where
  add_assoc u v w := by ext <;> simp [add_assoc]
  zero_add u := by ext <;> simp
  add_zero u := by ext <;> simp
  add_comm u v := by ext <;> simp [add_comm]
  neg_add_cancel u := by ext <;> simp
  nsmul := nsmulRec
  zsmul := zsmulRec

end Usage

/-! ## Entries and connections -/

/-- A pointer to an entry. -/
structure EntryRef where
  key : HoldbackKey
  ref : ℕ
deriving DecidableEq

/-- `messageHoldbackEntry`. `deferredSince` is `none` for the zero time, `approvedItem` says whether
it is set, and `timer` is `none` when there is no timer that can still be stopped. -/
structure Entry where
  ref : ℕ
  key : HoldbackKey
  totalFrames : ℕ
  frames : GoMap ℕ Frame
  digests : GoMap ℕ Bytes32
  bytes : ℤ
  pending : Bool
  validating : Bool
  approved : Bool
  deferred : Bool
  deferredSince : Option ℤ
  retryAfter : ℤ
  deferCount : ℕ
  message : Option Message
  fingerprintBytes : ℤ
  timer : Option ℤ
  timerGeneration : ℕ
  approvedItem : Bool

/-- `messageHoldbackPhase`. -/
structure HoldbackPhase where
  noiseMask : BitVec 8
  noiseMessages : ℕ
  handshakeInfoSeen : Bool
  billingEstablished : Bool
  e2eSessionID : Bytes32
  e2eSessionSeen : Bool
deriving DecidableEq

/-- `messageHoldbackConnection`. The fields that `phase` copies are kept together. -/
structure HoldbackConnection where
  ref : ℕ
  usage : Usage
  phase : HoldbackPhase
  recoveryTimer : Option ℤ
  recoveryGeneration : ℕ
deriving DecidableEq

/-- `sha256.Size`. -/
def digestSize : ℕ := 32

/-- `holdbackRetryInitialDelay`. -/
def holdbackRetryInitialDelay : ℤ := 100000000

/-- `holdbackRetryMaximumDelay`. -/
def holdbackRetryMaximumDelay : ℤ := 2 * second

/-- The loop of `deferCompletion` that doubles the delay. -/
def doubled : ℕ → ℤ → ℤ
  | 0, delay => delay
  | count + 1, delay =>
    if delay < holdbackRetryMaximumDelay then doubled count (delay * 2) else delay

namespace Entry

/-- The entry `add` makes for the first frame of a message. -/
def new (ref : ℕ) (key : HoldbackKey) (totalFrames : ℕ) : Entry where
  ref
  key
  totalFrames
  frames := .empty
  digests := .empty
  bytes := 0
  pending := true
  validating := false
  approved := false
  deferred := false
  deferredSince := none
  retryAfter := 0
  deferCount := 0
  message := none
  fingerprintBytes := 0
  timer := none
  timerGeneration := 0
  approvedItem := false

/-- The pointer to the entry. -/
def pointer (e : Entry) : EntryRef := ⟨e.key, e.ref⟩

/-- What an entry that is pending is counted with. -/
def pendingUsage (e : Entry) : Usage := ⟨e.bytes, 1, e.digests.len, 0, 0⟩

/-- What an entry that is approved is counted with. -/
def approvedUsage (e : Entry) : Usage := ⟨0, 0, 0, e.fingerprintBytes, 1⟩

/-- What `removeEntryLocked` takes off the counters. -/
def usage (e : Entry) : Usage :=
  (if e.pending then e.pendingUsage else 0) + (if e.approved then e.approvedUsage else 0)

/-- `stopTimerLocked`. -/
def stopTimer (e : Entry) : Entry := { e with timer := none }

/-- `scheduleLocked`. -/
def schedule (e : Entry) (now timeout : ℤ) : Entry :=
  { e with
    timer := some (now + if timeout ≤ 0 then 1 else timeout)
    timerGeneration := (e.timerGeneration + 1) % 2 ^ 64 }

/-- `add` stores a frame and its digest. -/
def take (e : Entry) (C : Crypto) (frame : Frame) : Entry :=
  { e with
    frames := e.frames.set frame.seqId frame
    digests := e.digests.set frame.seqId (C.sha256 frame.payload)
    bytes := e.bytes + frame.payload.length }

/-- `deferCompletion` keeps the message for the next try. The delay before it doubles each time. -/
def defer (e : Entry) (message : Message) (now pendingTTL : ℤ) : Entry :=
  let since := e.deferredSince.getD now
  let delay := min (doubled e.deferCount holdbackRetryInitialDelay) holdbackRetryMaximumDelay
  { e with
    deferred := true
    message := some message
    deferredSince := some since
    deferCount := if e.deferCount < 31 then e.deferCount + 1 else e.deferCount
    retryAfter := now + delay }.schedule now (pendingTTL - (now - since))

/-- `approve` drops the frames and keeps the digests. -/
def approve (e : Entry) : Entry :=
  { e with
    frames := .empty
    bytes := 0
    pending := false
    validating := false
    approved := true
    deferred := false
    message := none
    fingerprintBytes := e.digests.len * digestSize
    approvedItem := true }

end Entry

/-- `messageHoldbackCompletion` of a held message. -/
structure Completion where
  entry : EntryRef
  frames : List Frame
  message : Message
deriving DecidableEq

/-- `messageHoldbackApproval.kind`. -/
inductive ApprovalKind where
  | noise
  | handshakeInfo
  | keepAlive
  | billing
deriving DecidableEq

/-- `messageHoldbackApproval`. -/
structure Approval where
  kind : ApprovalKind
  noiseBit : BitVec 8
  e2eSessionID : Bytes32
  bindE2ESession : Bool
deriving DecidableEq

namespace HoldbackPhase

/-- The phase of a new connection. -/
def new : HoldbackPhase := ⟨0, 0, false, false, Bytes32.zero, false⟩

/-- `connectionHasPhaseLocked`. -/
def nonempty (p : HoldbackPhase) : Bool :=
  p.noiseMessages ≠ 0 || p.handshakeInfoSeen || p.billingEstablished || p.e2eSessionSeen

/-- The switch of `approve`. `noiseMessages` is a `uint8`. -/
def advance (p : HoldbackPhase) (kind : ApprovalKind) (noiseBit : BitVec 8) : HoldbackPhase :=
  match kind with
  | .noise =>
    { p with noiseMask := p.noiseMask ||| noiseBit, noiseMessages := (p.noiseMessages + 1) % 2 ^ 8 }
  | .handshakeInfo => { p with handshakeInfoSeen := true }
  | .keepAlive => p
  | .billing => { p with billingEstablished := true }

/-- What `approve` writes into the phase. -/
def approve (p : HoldbackPhase) (a : Approval) : HoldbackPhase :=
  let p := p.advance a.kind a.noiseBit
  if a.bindE2ESession then { p with e2eSessionID := a.e2eSessionID, e2eSessionSeen := true } else p

end HoldbackPhase

namespace HoldbackConnection

/-- The connection `add` makes. -/
def new (ref : ℕ) : HoldbackConnection := ⟨ref, 0, .new, none, 0⟩

/-- `stopConnectionRecoveryLocked`. -/
def stopRecovery (c : HoldbackConnection) : HoldbackConnection := { c with recoveryTimer := none }

/-- `removeIdleConnectionLocked` leaves the connection alone. -/
def busy (c : HoldbackConnection) : Bool :=
  c.usage.pendingMessages ≠ 0 || c.usage.pendingFrames ≠ 0 || c.usage.approvedMessages ≠ 0 ||
    c.phase.nonempty

end HoldbackConnection

/-- `messageHoldbackValidationLock`. -/
structure ValidationLock where
  locked : Bool
  users : ℤ
deriving DecidableEq

/-! ## The state -/

/-- `messageHoldback`. `created` numbers the objects that were made, `locks` holds the lock objects
that `validationLocks` points to, and `expiring` and `recovering` are the callbacks of timers that
have gone off and not run yet. -/
structure Holdback where
  limits : Limits
  entries : GoMap HoldbackKey Entry
  connections : GoMap ConnectionKey HoldbackConnection
  validationLocks : GoMap Bytes ℕ
  entriesByNode : GoMap Bytes ℤ
  approved : List EntryRef
  usage : Usage
  created : ℕ
  locks : ℕ → ValidationLock
  expiring : List (EntryRef × ℕ)
  recovering : List (ConnectionKey × ℕ × ℕ)

/-- The errors of `billing_holdback.go`. -/
inductive HoldbackError where
  | noConnection
  | coordinates
  | frameCount
  | totalFramesChanged
  | conflictingContent
  | unknownSequence
  | connectionLimit
  | connectionMessageLimit
  | globalMessageLimit
  | messageByteLimit
  | connectionByteLimit
  | connectionFrameLimit
  | globalByteLimit
  | globalFrameLimit
  | assemble (reason : FrameError)
deriving DecidableEq

/-- What the locked part of `add` decides: nothing is to be done, frames can be forwarded at once, a
deferred message is tried again, or all frames of a message are there and have to be assembled. -/
inductive Added where
  | nothing
  | forward (frames : List Frame)
  | resume (completion : Completion)
  | full (entry : EntryRef) (frames : List Frame)

namespace Holdback

/-- `newMessageHoldback`. -/
def new (limits : Limits) : Holdback where
  limits
  entries := .empty
  connections := .empty
  validationLocks := .empty
  entriesByNode := .empty
  approved := []
  usage := 0
  created := 0
  locks := fun _ => ⟨false, 0⟩
  expiring := []
  recovering := []

/-- The entry behind a pointer, if `entries[entry.key] == entry`. -/
def entry (h : Holdback) (p : EntryRef) : Option Entry :=
  (h.entries.get p.key).filter fun e => e.ref = p.ref

/-- An entry is changed in place. -/
def put (h : Holdback) (e : Entry) : Holdback := { h with entries := h.entries.set e.key e }

/-- The phase of a connection, its timer or its counters are changed in place. -/
def putConnection (h : Holdback) (ck : ConnectionKey) (c : HoldbackConnection) : Holdback :=
  { h with connections := h.connections.set ck c }

/-- The same change to the counters of the holdback and to those of a connection. -/
def count (h : Holdback) (ck : ConnectionKey) (delta : Usage) : Holdback :=
  { h with
    usage := h.usage + delta
    connections :=
      match h.connections.get ck with
      | some c => h.connections.set ck { c with usage := c.usage + delta }
      | none => h.connections }

/-- `entriesByNode[nodeID]`. -/
def nodeEntries (h : Holdback) (nodeID : Bytes) : ℤ := (h.entriesByNode.get nodeID).getD 0

/-! ## Removal -/

/-- `removeIdleConnectionLocked`. -/
def removeIdleConnection (h : Holdback) (ck : ConnectionKey) : Holdback :=
  match h.connections.get ck with
  | none => h
  | some c => if c.busy then h else { h with connections := h.connections.delete ck }

/-- The validation lock of a node is dropped if nobody uses it. -/
def dropUnusedLock (h : Holdback) (nodeID : Bytes) : Holdback :=
  match h.validationLocks.get nodeID with
  | none => h
  | some lock =>
    if (h.locks lock).users = 0 then
      { h with validationLocks := h.validationLocks.delete nodeID }
    else h

/-- `removeEntryLocked` takes the entry out of `entriesByNode`. -/
def uncountNode (h : Holdback) (nodeID : Bytes) : Holdback :=
  let remaining := h.nodeEntries nodeID - 1
  if remaining > 0 then { h with entriesByNode := h.entriesByNode.set nodeID remaining }
  else { h with entriesByNode := h.entriesByNode.delete nodeID }.dropUnusedLock nodeID

/-- `approved.Remove(entry.approvedItem)`. -/
def unlist (h : Holdback) (e : Entry) : Holdback :=
  if e.approved ∧ e.approvedItem then { h with approved := h.approved.erase e.pointer } else h

/-- `removeEntryLocked` of an entry that is there, up to its last line. -/
def discharge (h : Holdback) (p : EntryRef) (e : Entry) : Holdback :=
  let h := { h with entries := h.entries.delete p.key }.uncountNode p.key.nodeID
  (h.count p.key.connection (-e.usage)).unlist e

/-- `removeEntryLocked`. -/
def removeEntry (h : Holdback) (p : EntryRef) : Holdback :=
  match h.entry p with
  | none => h
  | some e => (h.discharge p e).removeIdleConnection p.key.connection

/-- The first loop of `evictApprovedLocked`. Each turn removes the first approved entry, so the
length of the list is enough. -/
def evictGlobal : ℕ → Holdback → Holdback
  | 0, h => h
  | turns + 1, h =>
    if h.usage.approvedMessages > h.limits.maxApprovedMessages ∨
        h.usage.approvedBytes > h.limits.maxApprovedFingerprintBytes then
      match h.approved with
      | [] => h
      | front :: _ => evictGlobal turns (h.removeEntry front)
    else h

/-- The second loop of `evictApprovedLocked`. -/
def evictConnection (ck : ConnectionKey) : ℕ → Holdback → Holdback
  | 0, h => h
  | turns + 1, h =>
    match h.connections.get ck with
    | none => h
    | some c =>
      if c.usage.approvedMessages ≤ h.limits.maxConnectionApprovedMessages ∧
          c.usage.approvedBytes ≤ h.limits.maxConnectionApprovedFingerprintBytes then h
      else
        match h.approved.find? fun p => p.key.connection = ck with
        | none => h
        | some candidate => evictConnection ck turns (h.removeEntry candidate)

/-- `evictApprovedLocked`. -/
def evictApproved (h : Holdback) (ck : ConnectionKey) : Holdback :=
  let h := evictGlobal h.approved.length h
  evictConnection ck h.approved.length h

/-! ## Frames come in -/

/-- `add` finds the connection of a frame or makes it, and stops its recovery timer. -/
def connect (h : Holdback) (ck : ConnectionKey) :
    Except HoldbackError (HoldbackConnection × Holdback) :=
  match h.connections.get ck with
  | some c => .ok (c.stopRecovery, h.putConnection ck c.stopRecovery)
  | none =>
    if h.connections.len ≥ h.limits.maxConnections then .error .connectionLimit
    else .ok (.new h.created, { h.putConnection ck (.new h.created) with created := h.created + 1 })

/-- The limits `add` checks before it stores a frame. -/
def checkLimits (h : Holdback) (c : HoldbackConnection) (newMessage : Bool) (bytes : ℤ)
    (payloadBytes : ℕ) : Except HoldbackError Unit := do
  check (newMessage ∧ c.usage.pendingMessages ≥ h.limits.maxConnectionMessages)
    .connectionMessageLimit
  check (newMessage ∧ h.usage.pendingMessages ≥ h.limits.maxGlobalMessages) .globalMessageLimit
  check (bytes > h.limits.maxMessageBytes - payloadBytes) .messageByteLimit
  check (c.usage.pendingBytes > h.limits.maxConnectionBytes - payloadBytes) .connectionByteLimit
  check (c.usage.pendingFrames ≥ h.limits.maxConnectionFrames) .connectionFrameLimit
  check (h.usage.pendingBytes > h.limits.maxGlobalBytes - payloadBytes) .globalByteLimit
  check (h.usage.pendingFrames ≥ h.limits.maxGlobalFrames) .globalFrameLimit

/-- A new entry goes into the map. -/
def insert (h : Holdback) (e : Entry) : Holdback :=
  { h.put e with
    entriesByNode := h.entriesByNode.set e.key.nodeID (h.nodeEntries e.key.nodeID + 1)
    created := h.created + 1 }

/-- `add` stores a frame in its entry. When it was the last one, validation begins. -/
def store (h : Holdback) (C : Crypto) (e : Entry) (frame : Frame) (now : ℤ) : Added × Holdback :=
  let h := h.count e.key.connection ⟨frame.payload.length, 0, 1, 0, 0⟩
  let e := (e.take C frame).schedule now h.limits.pendingTTL
  if e.frames.len % 2 ^ 32 ≠ e.totalFrames then (.nothing, h.put e)
  else (.full e.pointer (orderedFrames e.frames), h.put { e.stopTimer with validating := true })

/-- `add` for a frame that is not known yet, behind the lookup of its entry. -/
def addFrame (h : Holdback) (C : Crypto) (key : HoldbackKey) (existing : Option Entry)
    (frame : Frame) (now : ℤ) : Except HoldbackError Added × Holdback :=
  match h.connect key.connection with
  | .error reason => (.error reason, h)
  | .ok (c, h) =>
    match h.checkLimits c existing.isNone (existing.elim 0 Entry.bytes) frame.payload.length with
    | .error reason => (.error reason, h.removeIdleConnection key.connection)
    | .ok () =>
      match existing with
      | some e => (h.store C e frame now).map .ok id
      | none =>
        let e := Entry.new h.created key frame.totalFrames
        let h := (h.insert e).count key.connection ⟨0, 1, 0, 0, 0⟩
        (h.store C e frame now).map .ok id

/-- The checks of `add` on the frame alone. -/
def checkFrame (h : Holdback) (frame : Frame) : Except HoldbackError Unit := do
  check (frame.connectionId = []) .noConnection
  check (frame.messageId = 0 ∨ frame.totalFrames = 0 ∨ frame.seqId ≥ frame.totalFrames) .coordinates
  check (frame.totalFrames > h.limits.maxMessageFrames) .frameCount

/-- `add` for a frame whose digest is known. -/
def addKnown (h : Holdback) (e : Entry) (frame : Frame) (now : ℤ) : Added × Holdback :=
  if e.approved then (.forward [frame], h)
  else
    match e.message with
    | some message =>
      if e.deferred ∧ frame.seqId + 1 = e.totalFrames ∧ e.retryAfter ≤ now then
        (.resume ⟨e.pointer, orderedFrames e.frames, message⟩,
          h.put { e.stopTimer with deferred := false })
      else (.nothing, h)
    | none => (.nothing, h)

/-- `add`, up to the second `mu.Unlock`. -/
def add (h : Holdback) (C : Crypto) (nodeID : Bytes) (frame : Frame) (now : ℤ) :
    Except HoldbackError Added × Holdback :=
  if ¬ frame.carries then (.ok (.forward [frame]), h)
  else
    match h.checkFrame frame with
    | .error reason => (.error reason, h)
    | .ok () =>
      let key : HoldbackKey := ⟨nodeID, frame.connectionId, frame.messageId⟩
      match h.entries.get key with
      | none => h.addFrame C key none frame now
      | some e =>
        if e.totalFrames ≠ frame.totalFrames then (.error .totalFramesChanged, h)
        else
          match e.digests.get frame.seqId with
          | some expected =>
            if expected ≠ C.sha256 frame.payload then (.error .conflictingContent, h)
            else (h.addKnown e frame now).map .ok id
          | none =>
            if e.approved ∨ e.validating then (.error .unknownSequence, h)
            else h.addFrame C key (some e) frame now

/-! ## Validation -/

/-- `validationGuard` registers as a user of the lock of the node and returns the lock. -/
def validationGuard (h : Holdback) (p : EntryRef) : Option (ℕ × Holdback) :=
  match h.entry p with
  | none => none
  | some e =>
    if ¬ e.validating then none
    else
      match h.validationLocks.get p.key.nodeID with
      | some lock =>
        some (lock, { h with
          locks := Function.update h.locks lock
            { h.locks lock with users := (h.locks lock).users + 1 } })
      | none =>
        some (h.created, { h with
          validationLocks := h.validationLocks.set p.key.nodeID h.created
          locks := Function.update h.locks h.created ⟨false, 1⟩
          created := h.created + 1 })

/-- `validationLock.mu.Lock()` when the lock is free, `validationLock.mu.Unlock()`. -/
def setLocked (h : Holdback) (lock : ℕ) (locked : Bool) : Holdback :=
  { h with locks := Function.update h.locks lock { h.locks lock with locked } }

/-- The end of the function that `validationGuard` returns: the user leaves. -/
def leaveValidation (h : Holdback) (nodeID : Bytes) (lock : ℕ) : Holdback :=
  let h := { h with
    locks := Function.update h.locks lock { h.locks lock with users := (h.locks lock).users - 1 } }
  if (h.locks lock).users = 0 ∧ h.validationLocks.get nodeID = some lock ∧
      h.nodeEntries nodeID = 0 then
    { h with validationLocks := h.validationLocks.delete nodeID }
  else h

/-- `deferCompletion`. -/
def deferCompletion (h : Holdback) (completion : Completion) (now : ℤ) : Bool × Holdback :=
  match h.entry completion.entry with
  | none => (false, h)
  | some e =>
    if ¬ e.validating ∨ ¬ e.pending then (false, h)
    else (true, h.put (e.defer completion.message now h.limits.pendingTTL))

/-- An entry `nextDeferred` may select, with its message. -/
def deferredMessage (e : Entry) (nodeID : Bytes) (sessionID : Bytes32) : Option Message :=
  e.message.filter fun m =>
    e.deferred ∧ e.validating ∧ e.pending ∧ e.key.nodeID = nodeID ∧
      m.header.billingSessionID = sessionID

/-- One turn of the loop of `nextDeferred`. -/
def prefer (nodeID : Bytes) (sessionID : Bytes32) (selected : Option (Entry × Message)) (e : Entry) :
    Option (Entry × Message) :=
  match deferredMessage e nodeID sessionID, selected with
  | none, _ => selected
  | some m, none => some (e, m)
  | some m, some (s, sm) =>
    if m.header.billingSequence < sm.header.billingSequence ∨
        m.header.billingSequence = sm.header.billingSequence ∧ e.key.messageID < s.key.messageID then
      some (e, m)
    else selected

/-- `nextDeferred`. -/
def nextDeferred (h : Holdback) (order : GoMap.Order HoldbackKey) (nodeID : Bytes)
    (sessionID : Bytes32) : Option Completion × Holdback :=
  match (h.entries.values order).foldl (prefer nodeID sessionID) none with
  | none => (none, h)
  | some (e, message) =>
    (some ⟨e.pointer, orderedFrames e.frames, message⟩, h.put { e.stopTimer with deferred := false })

/-- `approve` schedules the removal of an entry that was not evicted at once. -/
def scheduleHeld (h : Holdback) (p : EntryRef) (now timeout : ℤ) : Holdback :=
  match h.entry p with
  | none => h
  | some e => h.put (e.schedule now timeout)

/-- `approve` of an entry that is there, up to the eviction. -/
def approveEntry (h : Holdback) (p : EntryRef) (e : Entry) (c : HoldbackConnection) (a : Approval) :
    Holdback :=
  let h := h.putConnection p.key.connection { c with phase := c.phase.approve a }
  let h := h.count p.key.connection (e.approve.approvedUsage - e.pendingUsage)
  { h.put e.approve with approved := h.approved ++ [p] }

/-- `approve`. -/
def approve (h : Holdback) (p : EntryRef) (a : Approval) (now : ℤ) : Bool × Holdback :=
  match h.entry p with
  | none => (false, h)
  | some e =>
    if ¬ e.validating ∨ ¬ e.pending then (false, h)
    else
      match h.connections.get p.key.connection with
      | none => (false, h)
      | some c =>
        if a.bindE2ESession ∧ c.phase.e2eSessionSeen ∧ c.phase.e2eSessionID ≠ a.e2eSessionID then
          (false, h)
        else
          let h := (h.approveEntry p e c a).evictApproved p.key.connection
          (true, h.scheduleHeld p now h.limits.approvedTTL)

/-- `acknowledge`. -/
def acknowledge (h : Holdback) (nodeID connectionID : Bytes) (messageID : ℕ) : Holdback :=
  if connectionID = [] ∨ messageID = 0 then h
  else
    match h.entries.get ⟨nodeID, connectionID, messageID⟩ with
    | none => h
    | some e => if e.approved then h.removeEntry e.pointer else h

/-! ## Connections go away -/

/-- The loop of `forgetConnection` and `resetConnection`. -/
def removeEntries (h : Holdback) (order : GoMap.Order HoldbackKey) (ck : ConnectionKey) : Holdback :=
  (h.entries.values order).foldl
    (fun h e => if e.key.connection = ck then h.removeEntry e.pointer else h) h

/-- `forgetConnection`. -/
def forgetConnection (h : Holdback) (order : GoMap.Order HoldbackKey)
    (nodeID connectionID : Bytes) : Holdback :=
  if connectionID = [] then h
  else
    let h := h.removeEntries order ⟨nodeID, connectionID⟩
    { h with connections := h.connections.delete ⟨nodeID, connectionID⟩ }

/-- `scheduleConnectionRecoveryLocked`. -/
def scheduleRecovery (c : HoldbackConnection) (now timeout : ℤ) : HoldbackConnection :=
  { c with
    recoveryTimer := some (now + if timeout ≤ 0 then 1 else timeout)
    recoveryGeneration := (c.recoveryGeneration + 1) % 2 ^ 64 }

/-- `resetConnection`. -/
def resetConnection (h : Holdback) (order : GoMap.Order HoldbackKey) (nodeID connectionID : Bytes)
    (now : ℤ) : Holdback :=
  if connectionID = [] then h
  else
    let ck : ConnectionKey := ⟨nodeID, connectionID⟩
    let h := h.removeEntries order ck
    match h.connections.get ck with
    | none => h
    | some c =>
      if c.phase.nonempty then h.putConnection ck (scheduleRecovery c now h.limits.recoveryTTL)
      else { h with connections := h.connections.delete ck }

/-! ## Timers -/

/-- The timer of an entry goes off: its callback is started. -/
def timerFires (h : Holdback) (key : HoldbackKey) (now : ℤ) : Holdback :=
  match h.entries.get key with
  | none => h
  | some e =>
    match e.timer with
    | none => h
    | some due =>
      if due ≤ now then
        { h.put e.stopTimer with expiring := (e.pointer, e.timerGeneration) :: h.expiring }
      else h

/-- A callback of `scheduleLocked` gets the mutex. -/
def timerExpires (h : Holdback) (i : ℕ) : Holdback :=
  match h.expiring[i]? with
  | none => h
  | some (p, generation) =>
    let h := { h with expiring := h.expiring.eraseIdx i }
    match h.entry p with
    | none => h
    | some e => if e.timerGeneration = generation then h.removeEntry p else h

/-- The recovery timer of a connection goes off: its callback is started. -/
def recoveryFires (h : Holdback) (ck : ConnectionKey) (now : ℤ) : Holdback :=
  match h.connections.get ck with
  | none => h
  | some c =>
    match c.recoveryTimer with
    | none => h
    | some due =>
      if due ≤ now then
        { h.putConnection ck c.stopRecovery with
          recovering := (ck, c.ref, c.recoveryGeneration) :: h.recovering }
      else h

/-- A callback of `scheduleConnectionRecoveryLocked` gets the mutex. -/
def recoveryExpires (h : Holdback) (i : ℕ) : Holdback :=
  match h.recovering[i]? with
  | none => h
  | some (ck, ref, generation) =>
    let h := { h with recovering := h.recovering.eraseIdx i }
    match h.connections.get ck with
    | none => h
    | some c =>
      if c.ref = ref ∧ c.recoveryGeneration = generation then
        if c.usage.pendingMessages = 0 ∧ c.usage.approvedMessages = 0 then
          { h with connections := h.connections.delete ck }
        else h.putConnection ck c.stopRecovery
      else h

/-! ## Runs -/

/-- What can happen to a holdback: its methods are called with any arguments, and its timers go off.
The part of `add` behind the mutex only calls `reject`. -/
inductive Event where
  | add (nodeID : Bytes) (frame : Frame) (now : ℤ)
  | validationGuard (entry : EntryRef)
  | setLocked (lock : ℕ) (locked : Bool)
  | leaveValidation (nodeID : Bytes) (lock : ℕ)
  | deferCompletion (completion : Completion) (now : ℤ)
  | nextDeferred (order : GoMap.Order HoldbackKey) (nodeID : Bytes) (sessionID : Bytes32)
  | approve (entry : EntryRef) (approval : Approval) (now : ℤ)
  | reject (entry : EntryRef)
  | acknowledge (nodeID connectionID : Bytes) (messageID : ℕ)
  | forgetConnection (order : GoMap.Order HoldbackKey) (nodeID connectionID : Bytes)
  | resetConnection (order : GoMap.Order HoldbackKey) (nodeID connectionID : Bytes) (now : ℤ)
  | timerFires (key : HoldbackKey) (now : ℤ)
  | timerExpires (i : ℕ)
  | recoveryFires (connection : ConnectionKey) (now : ℤ)
  | recoveryExpires (i : ℕ)

/-- The state behind an event. -/
def step (C : Crypto) (h : Holdback) : Event → Holdback
  | .add nodeID frame now => (h.add C nodeID frame now).2
  | .validationGuard entry => ((h.validationGuard entry).map Prod.snd).getD h
  | .setLocked lock locked => h.setLocked lock locked
  | .leaveValidation nodeID lock => h.leaveValidation nodeID lock
  | .deferCompletion completion now => (h.deferCompletion completion now).2
  | .nextDeferred order nodeID sessionID => (h.nextDeferred order nodeID sessionID).2
  | .approve entry approval now => (h.approve entry approval now).2
  | .reject entry => h.removeEntry entry
  | .acknowledge nodeID connectionID messageID => h.acknowledge nodeID connectionID messageID
  | .forgetConnection order nodeID connectionID => h.forgetConnection order nodeID connectionID
  | .resetConnection order nodeID connectionID now =>
    h.resetConnection order nodeID connectionID now
  | .timerFires key now => h.timerFires key now
  | .timerExpires i => h.timerExpires i
  | .recoveryFires connection now => h.recoveryFires connection now
  | .recoveryExpires i => h.recoveryExpires i

/-- The state behind a list of events. -/
def run (C : Crypto) (limits : Limits) (events : List Event) : Holdback :=
  events.foldl (step C) (new limits)

end Holdback

end NatP2P.Network
