import NatP2P.Common.Bytes

/-!
# The cryptography the billing code calls

Go's `crypto/sha256`, `crypto/ecdsa`, `crypto/ecdh` and `encoding/asn1` are parameters of the
model. Nothing is assumed about them here: a result that needs a property of one of these functions
states it as a hypothesis.
-/

namespace NatP2P

/-- The functions of Go's cryptographic packages that the billing code uses. Keys are the byte
strings that `crypto/ecdh` gives for them. -/
structure Crypto where
  /-- `sha256.Sum256`. -/
  sha256 : Bytes → Bytes32
  /-- The DER, range and low-S checks of `parseCanonicalSignature` (`signature.go:218-244`). -/
  lowSSignature : Bytes → Bool
  /-- `ecdh.P256().NewPublicKey` accepts the bytes. -/
  validPublicKey : Bytes → Bool
  /-- `PrivateKey.PublicKey().Bytes()`. -/
  publicKey : Bytes → Bytes
  /-- `ecdsa.PrivateKey.Sign` followed by `canonicalizeSignature`; `none` when either fails. -/
  sign : Bytes → Bytes32 → Option Bytes
  /-- `ecdsa.Verify` with the scalars of a canonical signature. -/
  verify : Bytes → Bytes32 → Bytes → Bool

/-- Stand-ins to evaluate the model with: a polynomial hash, and signatures that repeat the key and
the digest behind the tag of a DER sequence. -/
def Crypto.sample : Crypto where
  sha256 b := Bytes32.copy (putBE 32 (b.foldl (fun acc x => acc * 257 + x.toNat + 1) 1))
  lowSSignature signature := signature.head? = some 0x30
  validPublicKey key := key.length = 65
  publicKey key := 4 :: (Bytes32.copy key).val ++ (Bytes32.copy key).val
  sign key digest := some (0x30 :: (Bytes32.copy key).val ++ digest.val)
  verify key digest signature := signature = 0x30 :: (key.drop 1).take 32 ++ digest.val

end NatP2P
