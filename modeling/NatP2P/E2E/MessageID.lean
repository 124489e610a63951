import NatP2P.Common.Bytes

/-!
# Message ids of an end-to-end session

Reference: `crypoto/NoisePackage.go` and `networkFrameWork/e2e_replay.go`.

A message id is the session id followed by the epoch and the sequence, both big-endian. The sender
writes it, the receiver rebuilds it from an authenticated record, and the replay window reads it.
-/

namespace NatP2P.E2E

open List

/-- `e2eMessageIDSize`. -/
def e2eMessageIDSize : ℕ := 44

/-- `messageID[:32]`. -/
def messageSession (messageID : Bytes) : Bytes := messageID.take 32

/-- `binary.BigEndian.Uint32(messageID[32:36])`. -/
def messageEpoch (messageID : Bytes) : ℕ := getBE ((messageID.drop 32).take 4)

/-- `binary.BigEndian.Uint64(messageID[36:44])`. -/
def messageSequence (messageID : Bytes) : ℕ := getBE ((messageID.drop 36).take 8)

/-- The 44 bytes that `newMessageIDLocked` and `DecryptWithMessageIDAndAAD` write. -/
def encodeMessageID (sessionID : Bytes32) (epoch sequence : ℕ) : Bytes :=
  sessionID.val ++ (putBE 4 epoch ++ putBE 8 sequence)

section Codec

variable {sessionID : Bytes32} {epoch sequence : ℕ} {messageID : Bytes}

theorem length_encodeMessageID :
    (encodeMessageID sessionID epoch sequence).length = e2eMessageIDSize := by
  simp [encodeMessageID, e2eMessageIDSize]

theorem messageSession_encode :
    messageSession (encodeMessageID sessionID epoch sequence) = sessionID.val :=
  take_left' sessionID.property

theorem messageEpoch_encode (h : epoch < 2 ^ 32) :
    messageEpoch (encodeMessageID sessionID epoch sequence) = epoch := by
  rw [messageEpoch, encodeMessageID, drop_left' sessionID.property, take_left' (length_putBE ..)]
  exact getBE_putBE_of_lt h

theorem messageSequence_encode (h : sequence < 2 ^ 64) :
    messageSequence (encodeMessageID sessionID epoch sequence) = sequence := by
  have hfront : (sessionID.val ++ putBE 4 epoch).length = 36 := by simp
  rw [messageSequence, encodeMessageID, ← append_assoc, drop_left' hfront,
    take_of_length_le (by simp)]
  exact getBE_putBE_of_lt h

/-- An id is determined by its parts. -/
theorem encode_of_parts (hlength : messageID.length = e2eMessageIDSize)
    (hsession : messageSession messageID = sessionID.val) :
    encodeMessageID sessionID (messageEpoch messageID) (messageSequence messageID) = messageID := by
  rw [e2eMessageIDSize] at hlength
  have hepoch : ((messageID.drop 32).take 4).length = 4 := by simp; omega
  have hsequence : ((messageID.drop 36).take 8).length = 8 := by simp; omega
  have hputEpoch := putBE_getBE ((messageID.drop 32).take 4)
  have hputSequence := putBE_getBE ((messageID.drop 36).take 8)
  rw [hepoch] at hputEpoch
  rw [hsequence] at hputSequence
  rw [encodeMessageID, messageEpoch, messageSequence, hputEpoch, hputSequence, ← hsession,
    messageSession]
  have htail : (messageID.drop 36).take 8 = messageID.drop 36 := take_of_length_le (by simp; omega)
  rw [htail, show messageID.drop 36 = (messageID.drop 32).drop 4 by simp,
    take_append_drop, take_append_drop]

theorem messageSequence_lt : messageSequence messageID < 2 ^ 64 := by
  refine (getBE_lt _).trans_le ?_
  have hlength : ((messageID.drop 36).take 8).length ≤ 8 := by simp
  exact Nat.pow_le_pow_right (by decide) hlength

end Codec

end NatP2P.E2E
