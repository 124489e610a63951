import NatP2P.Billing.Queue.Envelope
import NatP2P.Common.GoMap
import NatP2P.Common.Scan

/-!
# The settlement queue

Reference: `billingqueue/queue.go`.

Mutual vouchers wait in a persistent queue until the CA has settled them. In memory the queue is a
list of entries with a few counters; on disk it is a write-ahead log of hash-chained frames, one for
each enqueue and one for each removal, that is rewritten now and then without its dead frames.

The file at `queue.path` is the field `file` of the model. What the operating system does with a
write is an argument: an append may be complete, complete but unsynced, or torn after some bytes; a
replacement of the file and a truncation may be done, done but unsynced, or not done at all.
-/

namespace NatP2P.Billing

/-! ## Data (`queue.go:22-113`) -/

def fileDomain : Bytes := utf8 "BNFS/BILLING-WAIT-SUBMIT/WAL/V3\n"

def legacyFileDomain : Bytes := utf8 "BNFS/BILLING-WAIT-SUBMIT/V2"

def frameEnqueue : UInt8 := 1

def frameRemove : UInt8 := 2

def framePrefixSize : ℕ := 4

def frameFixedBodySize : ℕ := 1 + 32 + 32

def compactionFloor : ℕ := 2 ^ 20

def compactionCeiling : ℕ := 8 * 2 ^ 20

/-- `Limits`. -/
structure Limits where
  maxItems : UInt64
  maxBytes : UInt64
  maxItemsPerPayer : UInt64
  maxBytesPerPayer : UInt64
deriving DecidableEq

/-- `payerUsage`. -/
structure PayerUsage where
  items : ℕ
  bytes : ℕ
deriving DecidableEq

/-- `entry`. -/
structure Entry where
  envelope : Envelope
  id : Identifier
  encoded : Bytes
  frameBytes : ℕ
deriving DecidableEq

/-- `channelKey`. -/
structure ChannelKey where
  session : Identifier
  payer : Identifier
  relay : Identifier
  direction : Direction
deriving DecidableEq

/-- `voucherChannel`. -/
def voucherChannel (voucher : MutualVoucher) : ChannelKey :=
  { session := voucher.body.sessionID
    payer := voucher.body.payerNatID
    relay := voucher.body.payeeRelayID
    direction := voucher.body.direction }

/-- The payer whose usage an entry counts against. -/
def Entry.payer (item : Entry) : Identifier := item.envelope.voucher.body.payerNatID

/-- The channel of an entry. -/
def Entry.channel (item : Entry) : ChannelKey := voucherChannel item.envelope.voucher

/-- What is wrong with a persistent queue (`ErrCorrupt`), with the offset or item it is found at. -/
inductive Corruption where
  | fileExceedsLimits
  | invalidFileDomain
  | invalidWALDomain
  | frameLength (offset : ℕ)
  | hashChain (offset : ℕ)
  | enqueueFrame (offset : ℕ) (reason : EnvelopeError)
  | voucherID (offset : ℕ) (reason : VoucherError)
  | duplicateAt (offset : ℕ)
  | duplicateLive
  | liveExceedsLimits
  | removeFrame (offset : ℕ)
  | removeNotLive (offset : ℕ)
  | removeOrder (offset : ℕ)
  | frameType (offset : ℕ)
  | legacyTruncated
  | legacyChecksum
  | legacyDomain
  | legacyCount
  | legacyLengthMissing (item : ℕ)
  | legacyLength (item : ℕ)
  | legacyEnvelope (item : ℕ) (reason : EnvelopeError)
  | legacyVoucherID (item : ℕ) (reason : VoucherError)
  | legacyTrailing
deriving DecidableEq

/-- The errors of package `billingqueue`. -/
inductive QueueError where
  | closed
  | empty
  | full
  | headMismatch
  | duplicate
  | payerFull
  | corrupt (reason : Corruption)
  | poisoned (cause : QueueError)
  | maxItemsZero
  | maxBytesZero
  | itemsPerPayer
  | bytesPerPayer
  | itemsPlatform
  | itemsFileCapacity
  | bytesFileCapacity
  | walCapacity
  | payerBacklog
  | envelope (reason : EnvelopeError)
  | voucherID (reason : VoucherError)
  | frameTooLarge
  | disk
  | persistEnqueue (reason : QueueError)
  | persistRemoval (reason : QueueError)
  | compactWAL (reason : QueueError)
  | createFile (reason : QueueError)
  | truncateTail (reason : QueueError)
  | migrateLegacy (reason : QueueError)
deriving DecidableEq

/-- `Queue`, with the content of its file in the place of `path`. -/
structure Queue where
  file : Bytes
  limits : Limits
  items : List Entry
  liveIDs : Finset Identifier
  payerUsage : GoMap Identifier PayerUsage
  bytes : ℕ
  lastHash : Digest
  logBytes : ℕ
  garbageBytes : ℕ
  closed : Bool
  poisoned : Option QueueError

/-! ## Limits (`queue.go:412-424, 483-514`) -/

def Queue.maxItemsPerPayer (queue : Queue) : ℕ :=
  if queue.limits.maxItemsPerPayer = 0 then queue.limits.maxItems.toNat
  else queue.limits.maxItemsPerPayer.toNat

def Queue.maxBytesPerPayer (queue : Queue) : ℕ :=
  if queue.limits.maxBytesPerPayer = 0 then queue.limits.maxBytes.toNat
  else queue.limits.maxBytesPerPayer.toNat

/-- `maximumAllowed`: `math.MaxInt64 - 1`. -/
def maximumAllowed : ℕ := 2 ^ 63 - 2

def frameOverhead : ℕ := framePrefixSize + frameFixedBodySize

/-- `validateLimits`: the largest file that `readFile` accepts. The arithmetic is that of
`uint64`. -/
def validateLimits (limits : Limits) : Except QueueError ℕ := do
  check (limits.maxItems = 0) .maxItemsZero
  check (limits.maxBytes = 0) .maxBytesZero
  check (limits.maxItemsPerPayer > limits.maxItems) .itemsPerPayer
  check (limits.maxBytesPerPayer > limits.maxBytes) .bytesPerPayer
  check (limits.maxItems.toNat > 2 ^ 63 - 1) .itemsPlatform
  check (limits.maxItems.toNat > sub64 maximumAllowed fileDomain.length / frameOverhead)
    .itemsFileCapacity
  let liveMaximum := add64 fileDomain.length (mul64 limits.maxItems.toNat frameOverhead)
  check (limits.maxBytes.toNat > sub64 maximumAllowed liveMaximum) .bytesFileCapacity
  let liveMaximum := add64 liveMaximum limits.maxBytes.toNat
  check (liveMaximum > sub64 maximumAllowed (16 * 2 ^ 20) / 4) .walCapacity
  return add64 (mul64 liveMaximum 4) (16 * 2 ^ 20)

/-! ## Frames (`queue.go:552-580`) -/

/-- `frameDigest`. -/
def frameDigest (C : Crypto) (frameType : UInt8) (previous : Digest) (payload : Bytes) : Digest :=
  C.sha256 (fileDomain ++ [frameType] ++ previous.val ++ payload)

/-- The bytes of a frame. -/
def frameBytesOf (C : Crypto) (frameType : UInt8) (payload : Bytes) (previous : Digest) : Bytes :=
  putBE 4 (frameFixedBodySize + payload.length) ++ [frameType] ++ previous.val ++ payload ++
    (frameDigest C frameType previous payload).val

/-- `encodeFrame`: the frame and its hash. -/
def encodeFrame (C : Crypto) (frameType : UInt8) (payload : Bytes) (previous : Digest) :
    Except QueueError (Bytes × Digest) := do
  check (frameFixedBodySize + payload.length > 2 ^ 32 - 1) .frameTooLarge
  return (frameBytesOf C frameType payload previous, frameDigest C frameType previous payload)

/-! ## Replay (`queue.go:582-686`) -/

/-- `replayEntry`. -/
structure ReplayEntry where
  entry : Entry
  removed : Bool
deriving DecidableEq

/-- The variables of the loop of `replayWAL`. The pointers that the map `live` holds are positions
in `states`; `validBytes` is also the cursor at the head of the loop. -/
structure ReplayState where
  states : List ReplayEntry
  live : GoMap Identifier ℕ
  channels : GoMap ChannelKey (List Identifier)
  bytes : ℕ
  lastHash : Digest
  logBytes : ℕ
  garbageBytes : ℕ
  validBytes : ℕ

namespace ReplayState

/-- The state before the first frame. -/
def start : ReplayState :=
  { states := []
    live := .empty
    channels := .empty
    bytes := 0
    lastHash := Bytes32.zero
    logBytes := fileDomain.length
    garbageBytes := 0
    validBytes := fileDomain.length }

/-- The entries that were not removed. -/
def items (st : ReplayState) : List Entry :=
  (st.states.filter fun state => !state.removed).map ReplayEntry.entry

/-- `channels[key]`. -/
def channel (st : ReplayState) (key : ChannelKey) : List Identifier := (st.channels.get key).getD []

/-- The enqueue case of the loop (`queue.go:628-650`). -/
def enqueue (C : Crypto) (J : EnvelopeJson) (limits : Limits) (st : ReplayState) (payload : Bytes)
    (frameBytes : ℕ) : Except QueueError ReplayState := do
  let envelope ← (decodeEnvelope C J payload).mapError (.corrupt <| .enqueueFrame st.validBytes ·)
  let voucherID ← (envelope.voucher.id C).mapError (.corrupt <| .voucherID st.validBytes ·)
  check ((st.live.get voucherID).isSome) (.corrupt (.duplicateAt st.validBytes))
  check (st.live.len ≥ limits.maxItems.toNat ∨
    payload.length > sub64 limits.maxBytes.toNat st.bytes) (.corrupt .liveExceedsLimits)
  let state : ReplayEntry := ⟨⟨envelope, voucherID, payload, frameBytes⟩, false⟩
  let key := voucherChannel envelope.voucher
  return { st with
    states := st.states ++ [state]
    live := st.live.set voucherID st.states.length
    channels := st.channels.set key (st.channel key ++ [voucherID])
    bytes := add64 st.bytes payload.length }

/-- The remove case of the loop (`queue.go:651-670`). -/
def remove (st : ReplayState) (payload : Bytes) (frameBytes : ℕ) :
    Except QueueError ReplayState := do
  check (payload.length ≠ 32) (.corrupt (.removeFrame st.validBytes))
  let voucherID := Bytes32.copy payload
  match (st.live.get voucherID).bind fun index => (st.states[index]?).map (index, ·) with
  | none => .error (.corrupt (.removeNotLive st.validBytes))
  | some (index, state) =>
    let key := state.entry.channel
    check ((st.channel key).head? ≠ some voucherID) (.corrupt (.removeOrder st.validBytes))
    return { st with
      states := st.states.set index { state with removed := true }
      live := st.live.delete voucherID
      channels := st.channels.set key (st.channel key).tail
      bytes := sub64 st.bytes state.entry.encoded.length
      garbageBytes := add64 st.garbageBytes (add64 state.entry.frameBytes frameBytes) }

/-- The switch on the frame type (`queue.go:627-673`). -/
def apply (C : Crypto) (J : EnvelopeJson) (limits : Limits) (st : ReplayState) (frameType : UInt8)
    (payload : Bytes) (frameBytes : ℕ) : Except QueueError ReplayState :=
  if frameType = frameEnqueue then st.enqueue C J limits payload frameBytes
  else if frameType = frameRemove then st.remove payload frameBytes
  else .error (.corrupt (.frameType st.validBytes))

/-- The end of the loop body (`queue.go:674-677`). -/
def advance (st : ReplayState) (storedHash : Digest) (frameBytes : ℕ) : ReplayState :=
  { st with
    lastHash := storedHash
    validBytes := st.validBytes + frameBytes
    logBytes := add64 st.logBytes frameBytes }

end ReplayState

/-- `maximumFrameBody`. -/
def maximumFrameBody (limits : Limits) : ℕ :=
  min (add64 frameFixedBodySize (max limits.maxBytes.toNat 32)) (2 ^ 32 - 1)

/-- One round of the loop of `replayWAL` on the unread rest of the file; `none` is `break`. -/
def replayFrame (C : Crypto) (J : EnvelopeJson) (limits : Limits) (st : ReplayState) (rest : Bytes) :
    Except QueueError (Option (ReplayState × Bytes)) :=
  if rest.length < framePrefixSize then .ok none
  else
    let bodyLength := getBE (rest.take framePrefixSize)
    let frameLength := framePrefixSize + bodyLength
    if bodyLength < frameFixedBodySize ∨ bodyLength > maximumFrameBody limits then
      .error (.corrupt (.frameLength st.validBytes))
    else if frameLength > rest.length then .ok none
    else do
      let frameType := (rest.drop framePrefixSize).headD 0
      let previous := Bytes32.copy (slice rest 5 32)
      let payload := slice rest 37 (bodyLength - frameFixedBodySize)
      let storedHash := Bytes32.copy (slice rest (frameLength - 32) 32)
      check (previous ≠ st.lastHash ∨ storedHash ≠ frameDigest C frameType previous payload)
        (.corrupt (.hashChain st.validBytes))
      let applied ← st.apply C J limits frameType payload frameLength
      return some (applied.advance storedHash frameLength, rest.drop frameLength)

/-- `replayWAL`. -/
def replayWAL (C : Crypto) (J : EnvelopeJson) (limits : Limits) (encoded : Bytes) :
    Except QueueError ReplayState := do
  check (encoded.take fileDomain.length ≠ fileDomain) (.corrupt .invalidWALDomain)
  scan (replayFrame C J limits) (encoded.length + 1) .start (encoded.drop fileDomain.length)

/-! ## Disk (`queue.go:705-747, 798-837`) -/

/-- What an append does: all of it, all of it but `Sync` or `Close` fails, or only some bytes (a
`Write` that fails has written less than it was given). -/
inductive AppendOutcome where
  | done
  | unsynced
  | torn (written : ℕ)
deriving DecidableEq

/-- What a replacement or a truncation of the file does: nothing at all when `failed`. -/
inductive WriteOutcome where
  | done
  | unsynced
  | failed
deriving DecidableEq

/-- `appendFrame`: the file, `installed` and the error. -/
def appendFrame (outcome : AppendOutcome) (file frame : Bytes) : Bytes × Bool × Option QueueError :=
  match outcome with
  | .done => (file ++ frame, true, none)
  | .unsynced => (file ++ frame, true, some .disk)
  | .torn written => (file ++ frame.dropLast.take written, false, some .disk)

/-- `writeAtomic` and `truncateTail`: the file, `installed` and the error. -/
def writeAtomic (outcome : WriteOutcome) (file encoded : Bytes) : Bytes × Bool × Option QueueError :=
  match outcome with
  | .done => (encoded, true, none)
  | .unsynced => (encoded, true, some .disk)
  | .failed => (file, false, some .disk)

/-! ## Compaction (`queue.go:455-481, 688-703`) -/

/-- The frames of `encodeCompacted` behind the hash `previous`, their sizes and the last hash. -/
def encodeCompactedFrom (C : Crypto) (previous : Digest) :
    List Entry → Except QueueError (Bytes × List ℕ × Digest)
  | [] => .ok ([], [], previous)
  | item :: items => do
    let (frame, frameHash) ← encodeFrame C frameEnqueue item.encoded previous
    let (rest, frameSizes, lastHash) ← encodeCompactedFrom C frameHash items
    return (frame ++ rest, frame.length :: frameSizes, lastHash)

/-- `encodeCompacted`. -/
def encodeCompacted (C : Crypto) (items : List Entry) : Except QueueError (Bytes × List ℕ × Digest) := do
  let (frames, frameSizes, lastHash) ← encodeCompactedFrom C Bytes32.zero items
  return (fileDomain ++ frames, frameSizes, lastHash)

/-- What `compactLocked` changes once the new file is in place. -/
def Queue.rebase (queue : Queue) (encoded : Bytes) (frameSizes : List ℕ) (lastHash : Digest) : Queue :=
  { queue with
    items := queue.items.zipWith (fun item size => { item with frameBytes := size }) frameSizes
    lastHash := lastHash
    logBytes := encoded.length
    garbageBytes := 0 }

/-- `compactLocked`: the error, if any, and the queue. -/
def Queue.compactLocked (C : Crypto) (outcome : WriteOutcome) (queue : Queue) :
    Option QueueError × Queue :=
  match encodeCompacted C queue.items with
  | .error err => (some err, queue)
  | .ok (encoded, frameSizes, lastHash) =>
    let (file, installed, writeErr) := writeAtomic outcome queue.file encoded
    let queue := { queue with file := file }
    (writeErr, if installed then queue.rebase encoded frameSizes lastHash else queue)

/-- The test of `maybeCompactLocked`. -/
def Queue.compactionDue (queue : Queue) : Bool :=
  let liveBytes := sub64 queue.logBytes queue.garbageBytes
  !(queue.garbageBytes < compactionFloor) &&
    !(queue.garbageBytes < liveBytes && queue.garbageBytes < compactionCeiling)

/-- `maybeCompactLocked`. -/
def Queue.maybeCompactLocked (C : Crypto) (outcome : WriteOutcome) (queue : Queue) :
    Option QueueError × Queue :=
  if queue.compactionDue then queue.compactLocked C outcome else (none, queue)

/-! ## Enqueue (`queue.go:198-263`) -/

namespace Queue

/-- `operationalLocked`. -/
def operationalLocked (queue : Queue) : Except QueueError Unit := do
  check (queue.closed = true) .closed
  match queue.poisoned with
  | some cause => .error (.poisoned cause)
  | none => return ()

/-- `payerUsage[payerID]`, zero when absent. -/
def usage (queue : Queue) (payerID : Identifier) : PayerUsage :=
  (queue.payerUsage.get payerID).getD ⟨0, 0⟩

/-- The checks of `enqueue` (`queue.go:207-241`): the entry to append, its frame and the frame's
hash. -/
def enqueueFrame (C : Crypto) (J : EnvelopeJson) (queue : Queue) (envelope : Envelope)
    (requireSettlementIdentity : Bool) : Except QueueError (Entry × Bytes × Digest) := do
  let (encoded, canonicalEnvelope) ←
    (encodeEnvelope C J envelope requireSettlementIdentity).mapError .envelope
  let voucherID ← (canonicalEnvelope.voucher.id C).mapError .voucherID
  queue.operationalLocked
  check (voucherID ∈ queue.liveIDs) .duplicate
  let usage := queue.usage canonicalEnvelope.voucher.body.payerNatID
  check (queue.items.length ≥ queue.limits.maxItems.toNat) .full
  check (encoded.length > sub64 queue.limits.maxBytes.toNat queue.bytes) .full
  check (usage.items ≥ queue.maxItemsPerPayer ∨ usage.bytes ≥ queue.maxBytesPerPayer ∨
    encoded.length > sub64 queue.maxBytesPerPayer usage.bytes) .payerFull
  let (frame, frameHash) ← encodeFrame C frameEnqueue encoded queue.lastHash
  return (⟨canonicalEnvelope, voucherID, encoded, frame.length⟩, frame, frameHash)

/-- What `enqueue` changes in memory once the frame is installed (`queue.go:243-257`). -/
def installEnqueued (queue : Queue) (item : Entry) (frameHash : Digest) : Queue :=
  let usage := queue.usage item.payer
  { queue with
    items := queue.items ++ [item]
    liveIDs := insert item.id queue.liveIDs
    payerUsage := queue.payerUsage.set item.payer
      ⟨add64 usage.items 1, add64 usage.bytes item.encoded.length⟩
    bytes := add64 queue.bytes item.encoded.length
    lastHash := frameHash
    logBytes := add64 queue.logBytes item.frameBytes }

/-- `enqueue`. -/
def enqueue (C : Crypto) (J : EnvelopeJson) (outcome : AppendOutcome) (queue : Queue)
    (envelope : Envelope) (requireSettlementIdentity : Bool) : Except QueueError Unit × Queue :=
  match queue.enqueueFrame C J envelope requireSettlementIdentity with
  | .error err => (.error err, queue)
  | .ok (item, frame, frameHash) =>
    let (file, installed, appendErr) := appendFrame outcome queue.file frame
    let queue := { queue with file := file }
    let queue := if installed then queue.installEnqueued item frameHash else queue
    match appendErr with
    | some err => (.error (.persistEnqueue err), { queue with poisoned := some err })
    | none => (.ok (), queue)

/-- `Enqueue`. -/
def enqueueVoucher (C : Crypto) (J : EnvelopeJson) (outcome : AppendOutcome) (queue : Queue)
    (voucher : MutualVoucher) : Except QueueError Unit × Queue :=
  queue.enqueue C J outcome ⟨voucher, "", "", none⟩ false

/-- `EnqueueEnvelope`. -/
def enqueueEnvelope (C : Crypto) (J : EnvelopeJson) (outcome : AppendOutcome) (queue : Queue)
    (envelope : Envelope) : Except QueueError Unit × Queue :=
  queue.enqueue C J outcome envelope true

/-! ## Removal (`queue.go:329-410`) -/

/-- What `removeIndexLocked` changes in memory once the frame is installed (`queue.go:382-400`). -/
def installRemoved (queue : Queue) (index : Fin queue.items.length) (frameBytes : ℕ)
    (frameHash : Digest) : Queue :=
  let item := queue.items.get index
  let usage := queue.usage item.payer
  let usage : PayerUsage := ⟨sub64 usage.items 1, sub64 usage.bytes item.encoded.length⟩
  { queue with
    items := queue.items.eraseIdx index
    liveIDs := queue.liveIDs.erase item.id
    bytes := sub64 queue.bytes item.encoded.length
    payerUsage := if usage.items = 0 then queue.payerUsage.delete item.payer
      else queue.payerUsage.set item.payer usage
    lastHash := frameHash
    logBytes := add64 queue.logBytes frameBytes
    garbageBytes := add64 queue.garbageBytes (add64 item.frameBytes frameBytes) }

/-- The end of `removeIndexLocked` (`queue.go:405-409`). -/
def compactAfterRemoval (C : Crypto) (compaction : WriteOutcome) (queue : Queue) :
    Except QueueError Unit × Queue :=
  match queue.maybeCompactLocked C compaction with
  | (some err, queue) => (.error (.compactWAL err), { queue with poisoned := some err })
  | (none, queue) => (.ok (), queue)

/-- `removeIndexLocked`. -/
def removeIndexLocked (C : Crypto) (append : AppendOutcome) (compaction : WriteOutcome)
    (queue : Queue) (index : Fin queue.items.length) : Except QueueError Unit × Queue :=
  match encodeFrame C frameRemove (queue.items.get index).id.val queue.lastHash with
  | .error err => (.error err, queue)
  | .ok (frame, frameHash) =>
    let (file, installed, appendErr) := appendFrame append queue.file frame
    let queue := { (if installed then queue.installRemoved index frame.length frameHash else queue)
      with file := file }
    match appendErr with
    | some err => (.error (.persistRemoval err), { queue with poisoned := some err })
    | none => queue.compactAfterRemoval C compaction

/-- The position `Remove` deletes: the head of the queue. -/
def removeTarget (queue : Queue) (expectedID : Identifier) :
    Except QueueError (Fin queue.items.length) := do
  queue.operationalLocked
  if h : 0 < queue.items.length then
    check ((queue.items.get ⟨0, h⟩).id ≠ expectedID) .headMismatch
    return ⟨0, h⟩
  else .error .empty

/-- The position `RemoveChannelHead` deletes: the entry `expectedID`, if no earlier entry is of the
same channel. -/
def removeChannelHeadTarget (queue : Queue) (expectedID : Identifier) :
    Except QueueError (Fin queue.items.length) := do
  queue.operationalLocked
  check (queue.items.length = 0) .empty
  match queue.items.findFinIdx? fun item => item.id = expectedID with
  | none => .error .headMismatch
  | some index =>
    check (∃ earlier ∈ queue.items.take index, earlier.channel = (queue.items.get index).channel)
      .headMismatch
    return index

/-- `Remove`. -/
def remove (C : Crypto) (append : AppendOutcome) (compaction : WriteOutcome) (queue : Queue)
    (expectedID : Identifier) : Except QueueError Unit × Queue :=
  match queue.removeTarget expectedID with
  | .error err => (.error err, queue)
  | .ok index => queue.removeIndexLocked C append compaction index

/-- `RemoveChannelHead`. -/
def removeChannelHead (C : Crypto) (append : AppendOutcome) (compaction : WriteOutcome)
    (queue : Queue) (expectedID : Identifier) : Except QueueError Unit × Queue :=
  match queue.removeChannelHeadTarget expectedID with
  | .error err => (.error err, queue)
  | .ok index => queue.removeIndexLocked C append compaction index

/-! ## Reading (`queue.go:316-327`) -/

/-- `SnapshotEnvelopes`. -/
def snapshotEnvelopes (queue : Queue) : Except QueueError (List Envelope) := do
  queue.operationalLocked
  return queue.items.map Entry.envelope

/-- `Close`. -/
def close (queue : Queue) : Queue := { queue with closed := true }

end Queue

/-! ## Legacy files (`queue.go:749-796`) -/

/-- The loop of `decodeLegacyFile` over the items from `index` on; `rest` is the unread part of the
payload. -/
def decodeLegacyItems (C : Crypto) (J : EnvelopeJson) (limits : Limits) :
    (remaining index payloadBytes : ℕ) → Bytes → Except QueueError (List Entry × ℕ)
  | 0, _, payloadBytes, rest => do
    check (rest ≠ []) (.corrupt .legacyTrailing)
    return ([], payloadBytes)
  | remaining + 1, index, payloadBytes, rest => do
    check (rest.length < 4) (.corrupt (.legacyLengthMissing index))
    let length := getBE (rest.take 4)
    let rest := rest.drop 4
    check (length = 0 ∨ length > rest.length ∨ length > sub64 limits.maxBytes.toNat payloadBytes)
      (.corrupt (.legacyLength index))
    let envelopeBytes := rest.take length
    let envelope ← (decodeEnvelope C J envelopeBytes).mapError (.corrupt <| .legacyEnvelope index ·)
    let voucherID ← (envelope.voucher.id C).mapError (.corrupt <| .legacyVoucherID index ·)
    let (items, total) ← decodeLegacyItems C J limits remaining (index + 1)
      (add64 payloadBytes length) (rest.drop length)
    return (⟨envelope, voucherID, envelopeBytes, 0⟩ :: items, total)

/-- `decodeLegacyFile`: the items and the sum of their sizes. -/
def decodeLegacyFile (C : Crypto) (J : EnvelopeJson) (limits : Limits) (encoded : Bytes) :
    Except QueueError (List Entry × ℕ) := do
  check (encoded.length < legacyFileDomain.length + 8 + 32) (.corrupt .legacyTruncated)
  let payloadEnd := encoded.length - 32
  check ((C.sha256 (encoded.take payloadEnd)).val ≠ encoded.drop payloadEnd)
    (.corrupt .legacyChecksum)
  check (encoded.take legacyFileDomain.length ≠ legacyFileDomain) (.corrupt .legacyDomain)
  let count := getBE (slice encoded legacyFileDomain.length 8)
  check (count > limits.maxItems.toNat ∨ count > 2 ^ 63 - 1) (.corrupt .legacyCount)
  decodeLegacyItems C J limits count 0 0
    ((encoded.take payloadEnd).drop (legacyFileDomain.length + 8))

/-! ## Opening a queue (`queue.go:115-196`) -/

namespace Queue

/-- The queue `Open` fills in. -/
def blank (limits : Limits) (file : Bytes) : Queue :=
  { file := file
    limits := limits
    items := []
    liveIDs := ∅
    payerUsage := .empty
    bytes := 0
    lastHash := Bytes32.zero
    logBytes := 0
    garbageBytes := 0
    closed := false
    poisoned := none }

/-- The last loop of `Open` (`queue.go:181-194`), which rebuilds the two indexes. -/
def indexItems (queue : Queue) : List Entry → Except QueueError Queue
  | [] => .ok queue
  | item :: items => do
    check (item.id ∈ queue.liveIDs) (.corrupt .duplicateLive)
    let usage := queue.usage item.payer
    let usage : PayerUsage := ⟨add64 usage.items 1, add64 usage.bytes item.encoded.length⟩
    check (usage.items > queue.maxItemsPerPayer ∨ usage.bytes > queue.maxBytesPerPayer) .payerBacklog
    indexItems { queue with
      liveIDs := insert item.id queue.liveIDs
      payerUsage := queue.payerUsage.set item.payer usage } items

/-- The queue that `Open` fills from a replayed log. -/
def ofReplay (limits : Limits) (file : Bytes) (replayed : ReplayState) : Queue :=
  { blank limits file with
    items := replayed.items
    bytes := replayed.bytes
    lastHash := replayed.lastHash
    logBytes := replayed.logBytes
    garbageBytes := replayed.garbageBytes }

/-- The case of a log (`queue.go:153-167`): the queue before its indexes are rebuilt, and the
file. -/
def loadLog (C : Crypto) (J : EnvelopeJson) (limits : Limits) (outcome : WriteOutcome)
    (encoded : Bytes) : Except QueueError Queue × Bytes :=
  match replayWAL C J limits encoded with
  | .error err => (.error err, encoded)
  | .ok replayed =>
    if replayed.validBytes = encoded.length then
      (.ok (ofReplay limits encoded replayed), encoded)
    else
      match writeAtomic outcome encoded (encoded.take replayed.validBytes) with
      | (file, _, none) => (.ok (ofReplay limits file replayed), file)
      | (file, _, some err) => (.error (.truncateTail err), file)

/-- The case of a legacy file (`queue.go:168-177`). -/
def loadLegacy (C : Crypto) (J : EnvelopeJson) (limits : Limits) (outcome : WriteOutcome)
    (encoded : Bytes) : Except QueueError Queue × Bytes :=
  match decodeLegacyFile C J limits encoded with
  | .error err => (.error err, encoded)
  | .ok (items, payloadBytes) =>
    match ({ blank limits encoded with items := items, bytes := payloadBytes }).compactLocked C
        outcome with
    | (none, queue) => (.ok queue, queue.file)
    | (some err, queue) => (.error (.migrateLegacy err), queue.file)

/-- The switch of `Open` on the file's domain (`queue.go:152-180`). -/
def load (C : Crypto) (J : EnvelopeJson) (limits : Limits) (outcome : WriteOutcome) (encoded : Bytes) :
    Except QueueError Queue × Bytes :=
  if encoded.take fileDomain.length = fileDomain then loadLog C J limits outcome encoded
  else if encoded.take legacyFileDomain.length = legacyFileDomain then
    loadLegacy C J limits outcome encoded
  else (.error (.corrupt .invalidFileDomain), encoded)

/-- `Open` on the content of the file, or on `none` when there is no file: the queue, and the file
as it is left behind. -/
def openFile (C : Crypto) (J : EnvelopeJson) (limits : Limits) (outcome : WriteOutcome)
    (file : Option Bytes) : Except QueueError Queue × Option Bytes :=
  match validateLimits limits with
  | .error err => (.error err, file)
  | .ok maximumFileSize =>
    match file with
    | none =>
      match outcome with
      | .done => (.ok { blank limits fileDomain with logBytes := fileDomain.length }, some fileDomain)
      | .unsynced => (.error (.createFile .disk), some fileDomain)
      | .failed => (.error (.createFile .disk), none)
    | some encoded =>
      if encoded.length > maximumFileSize then (.error (.corrupt .fileExceedsLimits), some encoded)
      else
        match load C J limits outcome encoded with
        | (.error err, file) => (.error err, some file)
        | (.ok queue, file) => (queue.indexItems queue.items, some file)

end Queue

end NatP2P.Billing
