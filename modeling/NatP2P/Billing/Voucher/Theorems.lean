import NatP2P.Billing.Voucher.Defs

/-!
# Vouchers: what acceptance means

Every check of `billingvoucher` is restated as a proposition: `VoucherBody.Valid` for `validate`,
`Succeeds` for `validateSuccessor`. The codec is shown to give back what it encoded, so a voucher
that went through its canonical bytes is unchanged.
-/

namespace NatP2P.Billing

open List VoucherBody

/-! ## Valid bodies -/

/-- What `validate` checks of a body. -/
structure VoucherBody.Valid (body : VoucherBody) : Prop where
  version : body.version = currentVersion
  session : body.sessionID ≠ Bytes32.zero
  payer : body.payerNatID ≠ Bytes32.zero
  payee : body.payeeRelayID ≠ Bytes32.zero
  distinct : body.payerNatID ≠ body.payeeRelayID
  direction : body.direction.valid
  sequence_pos : 0 < body.sequence
  sequence_le : body.sequence ≤ maxSequence
  first : body.sequence = 1 → body.previousMutualVoucherID = Bytes32.zero
  later : 1 < body.sequence → body.previousMutualVoucherID ≠ Bytes32.zero
  cumulative_pos : 0 < body.cumulativeUniqueBytes
  cumulative_le : body.cumulativeUniqueBytes ≤ maxBillableBytes
  authorized_pos : 0 < body.authorizedThroughBytes
  authorized_le : body.authorizedThroughBytes ≤ maxBillableBytes
  authorized : body.cumulativeUniqueBytes ≤ body.authorizedThroughBytes
  window : body.cumulativeUniqueBytes ≤ sequenceWindowCeiling body.sequence
  lastRecord : body.lastRecordID ≠ Bytes32.zero
  lastRecordSequence_pos : 0 < body.lastRecordSequence
  lastRecordSequence_le : body.lastRecordSequence ≤ maxSequence
  recordSet : body.recordSetDigest ≠ Bytes32.zero
  policy : body.policyDigest ≠ Bytes32.zero

variable {body : VoucherBody} {encoded r p rest block signature : Bytes} {C : Crypto}
  {i : Identifier} {voucher : MutualVoucher} {offset size : ℕ}

theorem VoucherBody.validate_ok_iff : body.validate = .ok () ↔ body.Valid := by
  simp only [validate, check_bind_ok_iff, check_ok_iff, not_or, not_and, Nat.not_lt, ne_eq,
    Decidable.not_not, gt_iff_lt, Bool.not_eq_true]
  constructor
  · rintro ⟨h1, h2, h3, h4, h5, h6, ⟨h7, h8⟩, h9, h10, ⟨h11, h12⟩, ⟨h13, h14⟩, h15, h16, h17,
      ⟨h18, h19⟩, h20, h21⟩
    exact ⟨h1, h2, h3, h4, h5, by simpa using h6, by omega, h8, h9, h10, by omega, h12, by omega,
      h14, h15, h16, h17, by omega, h19, h20, h21⟩
  · intro h
    exact ⟨h.version, h.session, h.payer, h.payee, h.distinct, by simp [h.direction],
      ⟨by have := h.sequence_pos; omega, h.sequence_le⟩, h.first, h.later,
      ⟨by have := h.cumulative_pos; omega, h.cumulative_le⟩,
      ⟨by have := h.authorized_pos; omega, h.authorized_le⟩, h.authorized, h.window, h.lastRecord,
      ⟨by have := h.lastRecordSequence_pos; omega, h.lastRecordSequence_le⟩, h.recordSet, h.policy⟩

theorem VoucherBody.canonicalBytes_ok_iff :
    body.canonicalBytes = .ok encoded ↔ body.Valid ∧ body.encode = encoded := by
  simp only [canonicalBytes, bind_ok_iff, exists_unit_iff, validate_ok_iff, pure_ok_iff]

theorem VoucherBody.bodyID_ok_iff :
    body.bodyID C = .ok i ↔ body.Valid ∧ C.sha256 body.encode = i := by
  simp only [bodyID, bind_ok_iff, canonicalBytes_ok_iff, pure_ok_iff, and_assoc, exists_and_left,
    exists_eq_left']

/-! ## Identified vouchers -/

/-- Both signatures of a voucher are canonical. -/
def MutualVoucher.Signed (C : Crypto) (voucher : MutualVoucher) : Prop :=
  validateCanonicalSignature C voucher.payerSignature = .ok () ∧
    validateCanonicalSignature C voucher.relaySignature = .ok ()

theorem MutualVoucher.checkSignatures_ok_iff :
    voucher.checkSignatures C = .ok () ↔ voucher.Signed C := by
  simp only [checkSignatures, bind_ok_iff, exists_unit_iff, mapError_ok_iff, Signed]

/-- The hash `ID` returns when it returns one. -/
def MutualVoucher.digest (C : Crypto) (voucher : MutualVoucher) : Identifier :=
  C.sha256 (mutualVoucherDomain ++ (C.sha256 voucher.body.encode).val ++
    lengthPrefixedSignature voucher.payerSignature ++
    lengthPrefixedSignature voucher.relaySignature)

theorem MutualVoucher.id_ok_iff :
    voucher.id C = .ok i ↔ voucher.body.Valid ∧ voucher.Signed C ∧ voucher.digest C = i := by
  simp only [id, bind_ok_iff, exists_unit_iff, bodyID_ok_iff,
    checkSignatures_ok_iff, pure_ok_iff, digest, and_assoc, exists_and_left, exists_eq_left']

theorem newMutualVoucher_ok_iff :
    newMutualVoucher C body p r = .ok voucher ↔
      voucher = ⟨body, p, r⟩ ∧ voucher.body.Valid ∧ voucher.Signed C := by
  simp only [newMutualVoucher, bind_ok_iff, MutualVoucher.id_ok_iff, pure_ok_iff]
  constructor
  · rintro ⟨_, ⟨hv, hs, rfl⟩, rfl⟩
    exact ⟨rfl, hv, hs⟩
  · rintro ⟨rfl, hv, hs⟩
    exact ⟨_, ⟨hv, hs, rfl⟩, rfl⟩

/-! ## Chains -/

/-- What `validateSuccessor` checks of one link of a voucher chain. -/
structure Succeeds (C : Crypto) (previous current : MutualVoucher) : Prop where
  previous_valid : previous.body.Valid
  previous_signed : previous.Signed C
  current_valid : current.body.Valid
  current_signed : current.Signed C
  sequence_lt : previous.body.sequence < maxSequence
  sequence : current.body.sequence = previous.body.sequence + 1
  predecessor : current.body.previousMutualVoucherID = previous.digest C
  version : current.body.version = previous.body.version
  session : current.body.sessionID = previous.body.sessionID
  payer : current.body.payerNatID = previous.body.payerNatID
  payee : current.body.payeeRelayID = previous.body.payeeRelayID
  direction : current.body.direction = previous.body.direction
  policy : current.body.policyDigest = previous.body.policyDigest
  authorized : current.body.authorizedThroughBytes = previous.body.authorizedThroughBytes
  cumulative : previous.body.cumulativeUniqueBytes < current.body.cumulativeUniqueBytes
  recordSequence : previous.body.lastRecordSequence < current.body.lastRecordSequence
  window : current.body.cumulativeUniqueBytes ≤
    previous.body.cumulativeUniqueBytes + cumulativeWindowBytes
  recordSet : current.body.recordSetDigest ≠ previous.body.recordSetDigest

theorem validateSuccessor_ok_iff {previous current : MutualVoucher} :
    validateSuccessor C previous current = .ok () ↔ Succeeds C previous current := by
  simp only [validateSuccessor, bind_ok_iff, exists_unit_iff, mapError_ok_iff,
    MutualVoucher.id_ok_iff, check_ok_iff, not_or, ne_eq, Decidable.not_not, Nat.not_le, gt_iff_lt,
    Nat.not_lt]
  constructor
  · rintro ⟨i, ⟨hpv, hps, rfl⟩, j, ⟨hcv, hcs, rfl⟩, ⟨hlt, hseq⟩, hprev,
      ⟨h1, h2, h3, h4, h5, h6, h7⟩, hcum, hrec, hwin, hset⟩
    have hc := hcv.cumulative_le
    have hsub := sub64_eq hcum.le (by unfold maxBillableBytes at hc; omega)
    have hle := hpv.sequence_le
    exact ⟨hpv, hps, hcv, hcs, by omega, hseq, hprev, h1, h2, h3, h4, h5, h6, h7, hcum, hrec,
      by omega, hset⟩
  · intro h
    have hc := h.current_valid.cumulative_le
    have hsub := sub64_eq h.cumulative.le (by unfold maxBillableBytes at hc; omega)
    have hlt := h.sequence_lt
    have hwin := h.window
    exact ⟨_, ⟨h.previous_valid, h.previous_signed, rfl⟩, _,
      ⟨h.current_valid, h.current_signed, rfl⟩, ⟨by omega, h.sequence⟩, h.predecessor,
      ⟨h.version, h.session, h.payer, h.payee, h.direction, h.policy, h.authorized⟩,
      h.cumulative, h.recordSequence, by omega, h.recordSet⟩

/-! ## The codec gives back what it encoded -/

/-- A slice that starts behind a prefix of known length starts in the rest. -/
theorem slice_append {front : Bytes} (h : front.length ≤ offset) :
    slice (front ++ rest) offset size = slice rest (offset - front.length) size := by
  unfold slice
  rw [drop_append, drop_of_length_le h, nil_append]

/-- A slice of exactly the leading block is that block. -/
theorem slice_block (h : block.length = size) : slice (block ++ rest) 0 size = block := take_left' h

theorem slice_whole (h : block.length = size) : slice block 0 size = block := take_of_length_le h.le

theorem slice_cons_succ {x : UInt8} :
    slice (x :: rest) (offset + 1) size = slice rest offset size := rfl

theorem VoucherBody.length_encode (body : VoucherBody) : body.encode.length = canonicalBodySize := by
  simp [encode, canonicalBodySize]

/-- Parsing the canonical bytes of a valid body gives the body back. -/
theorem parseCanonicalBody_encode (h : body.Valid) : parseCanonicalBody body.encode = .ok body := by
  have hversion : getBE (putBE 2 body.version) = body.version :=
    getBE_putBE_of_lt (by rw [h.version]; decide)
  have hsequence : getBE (putBE 8 body.sequence) = body.sequence :=
    getBE_putBE_of_lt (h.sequence_le.trans_lt (by decide))
  have hcumulative : getBE (putBE 8 body.cumulativeUniqueBytes) = body.cumulativeUniqueBytes :=
    getBE_putBE_of_lt (h.cumulative_le.trans_lt (by decide))
  have hlast : getBE (putBE 8 body.lastRecordSequence) = body.lastRecordSequence :=
    getBE_putBE_of_lt (h.lastRecordSequence_le.trans_lt (by decide))
  have hauthorized : getBE (putBE 8 body.authorizedThroughBytes) = body.authorizedThroughBytes :=
    getBE_putBE_of_lt (h.authorized_le.trans_lt (by decide))
  have hvalid : body.validate = .ok () := validate_ok_iff.mpr h
  unfold parseCanonicalBody
  simp only [check_bind_ok_iff, length_encode, ne_eq, not_true_eq_false,
    not_false_eq_true, true_and]
  -- every field sits behind blocks whose lengths add up to its offset
  simp [encode, slice_append, slice_block, slice_whole, slice_cons_succ,
    drop_append, hversion, hsequence, hcumulative, hlast, hauthorized, hvalid]

/-- A signature that is canonical is short enough for its length prefix. -/
theorem length_of_canonicalSignature (h : validateCanonicalSignature C signature = .ok ()) :
    0 < signature.length ∧ signature.length ≤ maxSignatureSize := by
  simp only [validateCanonicalSignature, check_bind_ok_iff] at h
  omega

/-- Reading a length-prefixed signature behind `front` returns it and the offset behind it. -/
theorem readLengthPrefixedSignature_append (front rest : Bytes)
    (h : validateCanonicalSignature C signature = .ok ()) :
    readLengthPrefixedSignature C (front ++ (lengthPrefixedSignature signature ++ rest))
      front.length = .ok (signature, front.length + 2 + signature.length) := by
  obtain ⟨hpos, hle⟩ := length_of_canonicalSignature h
  have hlength : getBE (putBE 2 signature.length) = signature.length :=
    getBE_putBE_of_lt (hle.trans_lt (by decide))
  have hheader : slice (front ++ (lengthPrefixedSignature signature ++ rest)) front.length 2 =
      putBE 2 signature.length := by
    rw [slice_append le_rfl, Nat.sub_self]
    exact slice_block (length_putBE ..)
  have hbody : slice (front ++ (lengthPrefixedSignature signature ++ rest)) (front.length + 2)
      signature.length = signature := by
    rw [slice_append (by omega), Nat.add_sub_cancel_left]
    exact slice_block rfl
  unfold readLengthPrefixedSignature
  simp only [bind_ok_iff, exists_unit_iff, check_ok_iff, pure_ok_iff, hheader, hlength,
    hbody, h, and_true]
  simp only [lengthPrefixedSignature, length_append, length_putBE]
  omega

/-- Parsing the canonical bytes of a voucher gives the voucher back. -/
theorem parseCanonicalVoucher_canonicalBytes (h : voucher.canonicalBytes C = .ok encoded) :
    parseCanonicalVoucher C encoded = .ok voucher := by
  simp only [MutualVoucher.canonicalBytes, bind_ok_iff, exists_unit_iff, pure_ok_iff,
    canonicalBytes_ok_iff, MutualVoucher.checkSignatures_ok_iff] at h
  obtain ⟨-, ⟨hvalid, rfl⟩, hsigned, rfl⟩ := h
  have hsize := voucher.body.length_encode
  -- the payer signature sits behind the domain and the body, the Relay signature behind both
  have hpayer := readLengthPrefixedSignature_append (mutualEncodingDomain ++ voucher.body.encode)
    (lengthPrefixedSignature voucher.relaySignature) hsigned.1
  have hrelay := readLengthPrefixedSignature_append (mutualEncodingDomain ++ voucher.body.encode ++
    lengthPrefixedSignature voucher.payerSignature) [] hsigned.2
  have hbody : slice (mutualEncodingDomain ++ voucher.body.encode ++
      lengthPrefixedSignature voucher.payerSignature ++
      lengthPrefixedSignature voucher.relaySignature) mutualEncodingDomain.length
      canonicalBodySize = voucher.body.encode := by
    rw [append_assoc, append_assoc, slice_append le_rfl]
    exact slice_block hsize
  have hdomain : (mutualEncodingDomain ++ voucher.body.encode ++
      lengthPrefixedSignature voucher.payerSignature ++
      lengthPrefixedSignature voucher.relaySignature).take mutualEncodingDomain.length =
      mutualEncodingDomain := by
    rw [append_assoc, append_assoc, take_left]
  have hlength (signature : Bytes) :
      (lengthPrefixedSignature signature).length = 2 + signature.length := by
    simp [lengthPrefixedSignature]
  simp only [append_nil, ← append_assoc, length_append, hsize, hlength,
    ← Nat.add_assoc] at hpayer hrelay
  unfold parseCanonicalVoucher
  simp only [bind_ok_iff, exists_unit_iff, check_ok_iff, hbody, hdomain,
    parseCanonicalBody_encode hvalid, Except.ok.injEq, exists_eq_left', mapError_ok_iff, hpayer,
    hrelay, newMutualVoucher_ok_iff, length_append, hsize, hlength, Nat.not_lt, ne_eq,
    not_true_eq_false, not_false_eq_true, true_and]
  exact ⟨by omega, by omega, hvalid, hsigned⟩

/-! ## Nothing else is accepted -/

theorem take_append_slice (encoded : Bytes) (offset size : ℕ) :
    encoded.take offset ++ slice encoded offset size = encoded.take (offset + size) :=
  take_add.symm

theorem length_slice (h : offset + size ≤ encoded.length) :
    (slice encoded offset size).length = size := by
  simp only [slice, length_take, length_drop]
  omega

theorem putBE_getBE_slice (h : offset + size ≤ encoded.length) :
    putBE size (getBE (slice encoded offset size)) = slice encoded offset size := by
  have hput := putBE_getBE (slice encoded offset size)
  rwa [length_slice h] at hput

theorem copy_slice (h : offset + 32 ≤ encoded.length) :
    (Bytes32.copy (slice encoded offset 32)).val = slice encoded offset 32 :=
  congrArg Subtype.val (Bytes32.copy_val ⟨_, length_slice h⟩)

theorem headD_drop (h : offset + 1 ≤ encoded.length) :
    [(encoded.drop offset).headD 0] = slice encoded offset 1 := by
  rw [slice, drop_eq_getElem_cons (by omega)]
  rfl

/-- A body that is parsed from some bytes has these bytes. -/
theorem encode_of_parseCanonicalBody
    (h : parseCanonicalBody encoded = .ok body) : body.Valid ∧ body.encode = encoded := by
  unfold parseCanonicalBody at h
  simp only [bind_ok_iff, exists_unit_iff, check_ok_iff, pure_ok_iff,
    validate_ok_iff, not_not] at h
  obtain ⟨hlength, hdomain, hvalid, rfl⟩ := h
  refine ⟨hvalid, ?_⟩
  have hsize : canonicalBodySize = voucherBodyDomain.length + 259 := rfl
  rw [hsize] at hlength
  simp only [encode]
  generalize voucherBodyDomain.length = n at hlength hdomain
  -- every field is the slice it was read from, and the slices lie side by side
  simp (disch := omega) only [putBE_getBE_slice, copy_slice, headD_drop, ← hdomain,
    take_append_slice, Nat.add_assoc, Nat.reduceAdd]
  exact take_of_length_le hlength.le

/-- A signature that is read is the slice behind its length. -/
theorem lengthPrefixedSignature_of_read {next : ℕ}
    (h : readLengthPrefixedSignature C encoded offset = .ok (signature, next))
    (hoffset : offset ≤ encoded.length) :
    next ≤ encoded.length ∧ encoded.take offset ++ lengthPrefixedSignature signature =
      encoded.take next := by
  unfold readLengthPrefixedSignature at h
  simp only [bind_ok_iff, exists_unit_iff, check_ok_iff, pure_ok_iff, Prod.mk.injEq] at h
  obtain ⟨htwo, hlength, -, rfl, rfl⟩ := h
  refine ⟨by omega, ?_⟩
  rw [lengthPrefixedSignature, length_slice (by omega), putBE_getBE_slice (by omega),
    ← append_assoc, take_append_slice, take_append_slice]

/-- What `parseCanonicalVoucher` returns is valid and has canonical signatures. -/
theorem parseCanonicalVoucher_ok (h : parseCanonicalVoucher C encoded = .ok voucher) :
    voucher.body.Valid ∧ voucher.Signed C := by
  unfold parseCanonicalVoucher at h
  simp only [bind_ok_iff, exists_unit_iff, newMutualVoucher_ok_iff] at h
  obtain ⟨-, -, body, -, payerSignature, -, relaySignature, -, -, -, hvalid, hsigned⟩ := h
  exact ⟨hvalid, hsigned⟩

/-- A voucher that is parsed from some bytes has these bytes. -/
theorem canonicalBytes_of_parseCanonicalVoucher
    (h : parseCanonicalVoucher C encoded = .ok voucher) :
    voucher.canonicalBytes C = .ok encoded := by
  obtain ⟨hvalid, hsigned⟩ := parseCanonicalVoucher_ok h
  unfold parseCanonicalVoucher at h
  simp only [bind_ok_iff, exists_unit_iff, check_ok_iff, mapError_ok_iff, Prod.exists,
    newMutualVoucher_ok_iff, not_not] at h
  obtain ⟨hlength, hdomain, body, hbody, payer, next, hpayer, relay, last, hrelay, rfl, rfl, -⟩ := h
  obtain ⟨hnext, hpayer⟩ := lengthPrefixedSignature_of_read hpayer (by omega)
  obtain ⟨-, hrelay⟩ := lengthPrefixedSignature_of_read hrelay hnext
  simp only [MutualVoucher.canonicalBytes, bind_ok_iff, exists_unit_iff, pure_ok_iff,
    canonicalBytes_ok_iff, MutualVoucher.checkSignatures_ok_iff]
  refine ⟨_, ⟨hvalid, rfl⟩, hsigned, ?_⟩
  rw [(encode_of_parseCanonicalBody hbody).2]
  generalize mutualEncodingDomain.length = n at hdomain hpayer
  rw [← hdomain, take_append_slice, hpayer, hrelay, take_length]

/-- What follows a length-prefixed signature is determined by the bytes. -/
theorem lengthPrefixedSignature_inj {q r' : Bytes} (hp : p.length ≤ maxSignatureSize)
    (hq : q.length ≤ maxSignatureSize)
    (h : lengthPrefixedSignature p ++ r = lengthPrefixedSignature q ++ r') : p = q ∧ r = r' := by
  simp only [lengthPrefixedSignature, append_assoc] at h
  obtain ⟨hlength, hrest⟩ := append_inj h (by simp)
  have hsame := congrArg getBE hlength
  rw [getBE_putBE_of_lt (hp.trans_lt (by decide)), getBE_putBE_of_lt (hq.trans_lt (by decide))]
    at hsame
  exact append_inj hrest hsame

/-- The bytes of a voucher are no proper beginning of the bytes of another one. -/
theorem MutualVoucher.eq_nil_of_extension {other : MutualVoucher}
    (h : voucher.canonicalBytes C = .ok encoded)
    (hother : other.canonicalBytes C = .ok (encoded ++ rest)) : rest = [] := by
  simp only [canonicalBytes, bind_ok_iff, exists_unit_iff, pure_ok_iff,
    canonicalBytes_ok_iff, checkSignatures_ok_iff] at h hother
  obtain ⟨-, ⟨-, rfl⟩, hsigned, rfl⟩ := h
  obtain ⟨-, ⟨-, rfl⟩, hsigned', heq⟩ := hother
  simp only [append_assoc, append_cancel_left_eq] at heq
  obtain ⟨-, heq⟩ := append_inj heq (by rw [length_encode, length_encode])
  obtain ⟨-, heq⟩ := lengthPrefixedSignature_inj (length_of_canonicalSignature hsigned'.1).2
    (length_of_canonicalSignature hsigned.1).2 heq
  rw [← append_nil (lengthPrefixedSignature other.relaySignature)] at heq
  exact (lengthPrefixedSignature_inj (length_of_canonicalSignature hsigned'.2).2
    (length_of_canonicalSignature hsigned.2).2 heq).2.symm

/-- A function that writes values and one that reads them are inverse to each other, and no bytes
that are read begin other bytes that are. -/
structure Canonical {α ε : Type} (write : α → Except ε Bytes) (read : Bytes → Except ε α) : Prop where
  read_iff : ∀ a encoded, read encoded = .ok a ↔ write a = .ok encoded
  whole : ∀ a b encoded rest, read encoded = .ok a → read (encoded ++ rest) = .ok b → rest = []

/-- The canonical encodings of bodies and of vouchers. Every body that `Validate` accepts has
one. -/
theorem canonical_codecs (C : Crypto) :
    (∀ body : VoucherBody, body.validate = .ok () → body.canonicalBytes = .ok body.encode) ∧
    Canonical VoucherBody.canonicalBytes parseCanonicalBody ∧
    Canonical (MutualVoucher.canonicalBytes C) (parseCanonicalVoucher C) := by
  have hvoucher : ∀ voucher encoded,
      parseCanonicalVoucher C encoded = .ok voucher ↔ voucher.canonicalBytes C = .ok encoded :=
    fun _ _ => ⟨canonicalBytes_of_parseCanonicalVoucher, parseCanonicalVoucher_canonicalBytes⟩
  refine ⟨fun body h => ?_, ⟨fun body encoded => ?_, fun a b encoded rest ha hb => ?_⟩, hvoucher,
    fun a b encoded rest ha hb => ?_⟩
  · exact canonicalBytes_ok_iff.mpr ⟨validate_ok_iff.mp h, rfl⟩
  · rw [canonicalBytes_ok_iff]
    refine ⟨encode_of_parseCanonicalBody, ?_⟩
    rintro ⟨hvalid, rfl⟩
    exact parseCanonicalBody_encode hvalid
  · have hlength := congrArg length (encode_of_parseCanonicalBody hb).2
    rw [← (encode_of_parseCanonicalBody ha).2, length_append, length_encode,
      length_encode] at hlength
    exact eq_nil_of_length_eq_zero (by omega)
  · exact MutualVoucher.eq_nil_of_extension ((hvoucher a _).mp ha) ((hvoucher b _).mp hb)

/-- What the verification of both signatures has checked besides the signatures themselves. -/
theorem verifyBillingSignatures_ok {payerBillingKey relayBillingKey : Bytes}
    (h : voucher.verifyBillingSignatures C payerBillingKey relayBillingKey = .ok ()) :
    voucher.body.Valid ∧ voucher.Signed C := by
  unfold MutualVoucher.verifyBillingSignatures verifyBodyBillingSignature at h
  simp only [bind_ok_iff, exists_unit_iff, mapError_ok_iff, validate_ok_iff] at h
  obtain ⟨⟨hvalid, -, hpayer, -⟩, -, -, hrelay, -⟩ := h
  exact ⟨hvalid, hpayer, hrelay⟩

end NatP2P.Billing
