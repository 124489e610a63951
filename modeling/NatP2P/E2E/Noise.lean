import NatP2P.Common.Check
import NatP2P.Common.GoMap
import NatP2P.Common.Run
import NatP2P.Common.Word
import NatP2P.E2E.MessageID

/-!
# Sealing records

Reference: `crypoto/NoisePackage.go`.

The sending half of a `NoiseCrypto`. Message ids are handed out with an epoch and a sequence and are
remembered, the newest 65536 of them, in a ring; a record is sealed only under a remembered id, and
the first sealing binds the id to the digest of its content. The hash, the key derivation and the
cipher are parameters; `D` is the type of digests.
-/

namespace NatP2P.E2E

/-- The cryptographic functions that sealing calls. -/
structure Primitives (D : Type) where
  /-- `sha256`. -/
  hash : Bytes → D
  /-- `hkdf.Expand(sha256.New, root, info, 32)`. -/
  expand : Bytes32 → Bytes → Option Bytes32
  /-- `Cipher(key).Encrypt(nil, nonce, aad, plaintext)`. -/
  aead : Bytes32 → ℕ → Bytes → Bytes → Bytes

/-- A `[]byte`: its length is an `int`. -/
abbrev Slice := { b : Bytes // b.length < 2 ^ 63 }

/-- `noise.MaxNonce`. -/
def maxNonce : ℕ := 2 ^ 64 - 2

/-- `e2eRekeyBytes`. -/
def e2eRekeyBytes : ℕ := 2 ^ 30

/-- `e2eRekeyInterval`, in nanoseconds. -/
def e2eRekeyInterval : ℤ := 3600 * 10 ^ 9

/-- `e2eOutboundBindingCacheLimit`. -/
def e2eOutboundBindingCacheLimit : ℕ := 65536

/-- The fields of `NoiseCrypto` that sealing uses. A binding is the digest of the content once it is
sealed. -/
structure NoiseCrypto (D : Type) where
  sendRoot : Bytes32
  sessionID : Bytes32
  sendDirection : UInt8
  sendSequence : ℕ
  sendEpoch : ℕ
  sendEpochBytes : ℕ
  sendEpochStarted : ℤ
  outboundBindings : GoMap Bytes (Option D)
  outboundBindingOrder : List Bytes
  outboundBindingNext : ℕ

/-- The errors of `EncryptWithMessageIDAndAAD`. -/
inductive NoiseError where
  | sequenceExhausted
  | invalidLength
  | otherSession
  | invalidEpochOrSequence
  | forgedOrExpired
  | boundToOtherContent
  | keyDerivation
deriving DecidableEq

variable {D : Type}

namespace NoiseCrypto

/-- What `newNoiseCryptoContext` returns behind the handshake. -/
def new (sendRoot sessionID : Bytes32) (sendDirection : UInt8) (now : ℤ) : NoiseCrypto D where
  sendRoot
  sessionID
  sendDirection
  sendSequence := 0
  sendEpoch := 1
  sendEpochBytes := 0
  sendEpochStarted := now
  outboundBindings := .empty
  outboundBindingOrder := []
  outboundBindingNext := 0

/-! ## Message ids -/

/-- `rememberOutboundMessageIDLocked`. -/
def rememberOutboundMessageIDLocked (t : NoiseCrypto D) (messageID : Bytes) : NoiseCrypto D :=
  if (t.outboundBindings.get messageID).isSome then t
  else if t.outboundBindingOrder.length < e2eOutboundBindingCacheLimit then
    { t with
      outboundBindingOrder := t.outboundBindingOrder ++ [messageID]
      outboundBindings := t.outboundBindings.set messageID none }
  else
    let expired := t.outboundBindingOrder.getD t.outboundBindingNext []
    { t with
      outboundBindingOrder := t.outboundBindingOrder.set t.outboundBindingNext messageID
      outboundBindingNext := (t.outboundBindingNext + 1) % e2eOutboundBindingCacheLimit
      outboundBindings := (t.outboundBindings.delete expired).set messageID none }

/-- The epoch starts with the first message. -/
def startEpoch (t : NoiseCrypto D) (now : ℤ) : NoiseCrypto D :=
  if t.sendEpoch = 0 then { t with sendEpoch := 1, sendEpochStarted := now } else t

/-- The epoch has lasted for too many bytes or for too long. -/
def rekeyDue (t : NoiseCrypto D) (now : ℤ) : Prop :=
  t.sendEpochBytes ≥ e2eRekeyBytes ∨ now - t.sendEpochStarted ≥ e2eRekeyInterval

instance (t : NoiseCrypto D) (now : ℤ) : Decidable (t.rekeyDue now) :=
  inferInstanceAs (Decidable (_ ∨ _))

/-- `t.sendSequence++`. -/
def nextSequence (t : NoiseCrypto D) : NoiseCrypto D :=
  { t with sendSequence := t.sendSequence + 1 }

/-- The id of the current epoch and sequence. -/
def currentID (t : NoiseCrypto D) : Bytes :=
  encodeMessageID t.sessionID t.sendEpoch t.sendSequence

/-- The next sequence and its id. -/
def issue (t : NoiseCrypto D) : Option Bytes × NoiseCrypto D :=
  if t.sendSequence ≥ maxNonce then (none, t)
  else
    (some t.nextSequence.currentID,
      t.nextSequence.rememberOutboundMessageIDLocked t.nextSequence.currentID)

/-- `t.sendEpoch++`. -/
def nextEpoch (t : NoiseCrypto D) (now : ℤ) : NoiseCrypto D :=
  { t with sendEpoch := t.sendEpoch + 1, sendEpochBytes := 0, sendEpochStarted := now }

/-- `newMessageIDLocked`. -/
def newMessageIDLocked (t : NoiseCrypto D) (now : ℤ) : Option Bytes × NoiseCrypto D :=
  let t := t.startEpoch now
  if t.rekeyDue now then
    if t.sendEpoch = 2 ^ 32 - 1 then (none, t)
    else (t.nextEpoch now).issue
  else t.issue

/-! ## Records -/

/-- The bytes `outboundRecordBindingDigest` hashes. -/
def bindingPreimage (payload externalAAD : Bytes) : Bytes :=
  utf8 "BNFS/E2E-OUTBOUND-BINDING/V2" ++ (putBE 8 payload.length ++ (payload ++
    (putBE 8 externalAAD.length ++ externalAAD)))

/-- `outboundRecordBindingDigest`. -/
def outboundRecordBindingDigest (P : Primitives D) (payload externalAAD : Bytes) : D :=
  P.hash (bindingPreimage payload externalAAD)

/-- `recordHeader`. -/
def recordHeader (t : NoiseCrypto D) (epoch sequence plaintextLength : ℕ) : Bytes :=
  utf8 "BNFSE2E2" ++ [2, 1, t.sendDirection, 0] ++ putBE 4 epoch ++ putBE 8 sequence ++
    t.sessionID.val ++ putBE 8 plaintextLength

/-- `appendRecordAAD`. -/
def appendRecordAAD (header externalAAD : Bytes) : Bytes :=
  header ++ putBE 4 externalAAD.length ++ externalAAD

/-- `deriveEpochKey`. -/
def deriveEpochKey (P : Primitives D) (root : Bytes32) (direction : UInt8) (epoch : ℕ) :
    Option Bytes32 :=
  P.expand root (utf8 "BNFS/E2E-DATA-EPOCH/V2" ++ [direction] ++ putBE 4 epoch)

/-- The record of a content under an id. -/
def recordOf (P : Primitives D) (t : NoiseCrypto D) (messageID payload externalAAD : Bytes) :
    Option Bytes := do
  let epoch := messageEpoch messageID
  let sequence := messageSequence messageID
  let header := t.recordHeader epoch sequence payload.length
  let key ← deriveEpochKey P t.sendRoot t.sendDirection epoch
  return header ++ P.aead key sequence (appendRecordAAD header externalAAD) payload

/-- The id a call uses: the one it was given, or a new one. -/
def resolveMessageID (t : NoiseCrypto D) (now : ℤ) (messageID : Bytes) :
    Except NoiseError Bytes × NoiseCrypto D :=
  if messageID.length = 0 then
    let (issued, t) := t.newMessageIDLocked now
    match issued with
    | none => (.error .sequenceExhausted, t)
    | some messageID => (.ok messageID, t)
  else if messageID.length ≠ e2eMessageIDSize then (.error .invalidLength, t)
  else (.ok messageID, t)

/-- The checks of an id and of its binding; returns the binding. -/
def checkBinding [DecidableEq D] (P : Primitives D) (t : NoiseCrypto D)
    (messageID payload externalAAD : Bytes) : Except NoiseError (Option D) := do
  check (messageSession messageID ≠ t.sessionID.val) .otherSession
  check (messageEpoch messageID = 0 ∨ messageSequence messageID = 0 ∨
    messageSequence messageID > maxNonce) .invalidEpochOrSequence
  match t.outboundBindings.get messageID with
  | none => .error .forgedOrExpired
  | some binding => do
    check (binding ≠ none ∧ binding ≠ some (outboundRecordBindingDigest P payload externalAAD))
      .boundToOtherContent
    return binding

/-- The first sealing binds the id. -/
def bindContent (P : Primitives D) (t : NoiseCrypto D) (binding : Option D)
    (messageID payload externalAAD : Bytes) : NoiseCrypto D :=
  match binding with
  | some _ => t
  | none =>
    { t with
      outboundBindings := t.outboundBindings.set messageID
        (some (outboundRecordBindingDigest P payload externalAAD))
      sendEpochBytes := add64 t.sendEpochBytes payload.length }

/-- `EncryptWithMessageIDAndAAD`: the record and its id. -/
def encryptWithMessageIDAndAAD [DecidableEq D] (P : Primitives D) (t : NoiseCrypto D) (now : ℤ)
    (payload externalAAD messageID : Bytes) :
    Except NoiseError (Bytes × Bytes) × NoiseCrypto D :=
  let (resolved, t) := t.resolveMessageID now messageID
  match resolved with
  | .error err => (.error err, t)
  | .ok messageID =>
    match t.checkBinding P messageID payload externalAAD with
    | .error err => (.error err, t)
    | .ok binding =>
      match t.recordOf P messageID payload externalAAD with
      | none => (.error .keyDerivation, t)
      | some record =>
        (.ok (record, messageID), t.bindContent P binding messageID payload externalAAD)

/-! ## Runs -/

/-- A call. -/
inductive Event where
  /-- `NewMessageID`. -/
  | newMessageID (now : ℤ)
  /-- `EncryptWithMessageIDAndAAD`; the clock is read if the id is empty. -/
  | encrypt (now : ℤ) (payload externalAAD : Slice) (messageID : Bytes)

/-- A successful encryption. -/
structure Sealing where
  messageID : Bytes
  payload : Slice
  externalAAD : Slice
  record : Bytes

/-- The nonce of a sealing is its sequence, under the key of its epoch. -/
def Sealing.epoch (sealing : Sealing) : ℕ := messageEpoch sealing.messageID

/-- The sequence of the id. -/
def Sealing.sequence (sealing : Sealing) : ℕ := messageSequence sealing.messageID

/-- A call as a step. -/
def step [DecidableEq D] (P : Primitives D) (t : NoiseCrypto D) :
    Event → NoiseCrypto D × Option Sealing
  | .newMessageID now => ((t.newMessageIDLocked now).2, none)
  | .encrypt now payload externalAAD messageID =>
    let (result, t) := t.encryptWithMessageIDAndAAD P now payload.val externalAAD.val messageID
    match result with
    | .error _ => (t, none)
    | .ok (record, messageID) => (t, some { messageID, payload, externalAAD, record })

end NoiseCrypto

end NatP2P.E2E
