import NatP2P.Billing.Crypto
import NatP2P.Common.Check

/-!
# Node certificates

Reference: `admission/cert.go` and `admission/node_authorization.go`.

The part of package `admission` that the billing code reads: the certificate record, the derivation
of node and key identifiers from public keys, and the check that a certificate binds a billing key
to its node. `Verify`, the CA signature and validity check, depends on the clock and on the trusted
CA keys; callers of the model pass its answer in.
-/

namespace NatP2P.Billing

/-- `admission.Role`, a string on the wire; `other` is any text but the three roles. -/
inductive Role where
  | relay
  | client
  | server
  | other (text : String)
deriving DecidableEq

/-- `admission.Cert`. -/
structure Cert where
  subjectNodeID : String
  subjectPubKey : String
  role : Role
  notBefore : ℤ
  notAfter : ℤ
  nonce : String
  issuer : String
  authorizationID : String
  billingKeyID : String
  billingPubKey : String
  billingUserID : String
deriving DecidableEq

/-- `admission.SignedCert`. -/
structure SignedCert where
  cert : Cert
  sig : String
deriving DecidableEq

/-- The errors of the functions below. -/
inductive AdmissionError where
  | emptyPublicKey
  | publicKeyNotHex
  | publicKeyNotCanonical
  | invalidPublicKey
  | incompleteBinding
  | invalidBillingKey (reason : AdmissionError)
  | billingKeyMismatch
  | authorizationMismatch
deriving DecidableEq

/-- `NodeIDFromPubKeyHex`. -/
def nodeIDFromPubKeyHex (C : Crypto) (pubKeyHex : String) : String :=
  hexEncode (C.sha256 (utf8 pubKeyHex)).val

/-- `ParseIdentityPublicKey`: the bytes of a P-256 public key in canonical hexadecimal. -/
def parseIdentityPublicKey (C : Crypto) (value : String) : Except AdmissionError Bytes := do
  check (value = "") .emptyPublicKey
  let encoded ← match hexDecode value with
    | some encoded => .ok encoded
    | none => .error .publicKeyNotHex
  check (hexEncode encoded ≠ value) .publicKeyNotCanonical
  check (¬ C.validPublicKey encoded) .invalidPublicKey
  return encoded

/-- `BillingKeyIDFromPublicKeyHex`. -/
def billingKeyIDFromPublicKeyHex (C : Crypto) (publicKeyHex : String) :
    Except AdmissionError String := do
  let publicKey ← parseIdentityPublicKey C publicKeyHex
  return hexEncode (C.sha256 publicKey).val

/-- `NodeAuthorizationID`. -/
def nodeAuthorizationID (C : Crypto) (nodeID billingKeyID : String) : String :=
  hexEncode (C.sha256 (utf8 "CA-NODE-AUTHORIZATION-ID-V1" ++ [0] ++ utf8 nodeID ++ [0] ++
    utf8 billingKeyID)).val

/-- `ValidateBillingBinding`: a certificate binds either no billing key at all or one that derives
its key and authorization identifiers. -/
def validateBillingBinding (C : Crypto) (cert : Cert) : Except AdmissionError Unit :=
  let boundFields :=
    ([cert.authorizationID, cert.billingKeyID, cert.billingPubKey].filter (· ≠ "")).length
  if boundFields = 0 then .ok ()
  else do
    check (boundFields ≠ 3) .incompleteBinding
    let keyID ← (billingKeyIDFromPublicKeyHex C cert.billingPubKey).mapError .invalidBillingKey
    check (keyID ≠ cert.billingKeyID) .billingKeyMismatch
    check (nodeAuthorizationID C cert.subjectNodeID cert.billingKeyID ≠ cert.authorizationID)
      .authorizationMismatch

end NatP2P.Billing
