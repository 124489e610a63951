import NatP2P.Common.Bytes
import NatP2P.Common.Check
import Mathlib.Data.List.DropRight
import Mathlib.Data.List.GetD

/-!
# Messages

Reference: `network/Message.go`.

A message is a header and a payload. The header is written into 254 bytes: texts of fixed width are
cut off or filled with zeros, the route name has a length in front of it, and the fields behind the
connection id are only there while there is room. Go strings are byte strings here. `OriginData` is
left out: no function reads or writes it.
-/

namespace NatP2P.Network

open List

/-- `Header`. -/
structure Header where
  routeName : Bytes
  nodeId : Bytes
  nodeIdVersion : UInt8
  payLoadLength : ℕ
  connectionId : Bytes
  legFlags : UInt8
  legSessionId : Bytes
  billingSessionID : Bytes32
  billingSequence : ℕ
  billingBytes : ℕ
deriving DecidableEq

/-- `Message`, with a header. -/
structure Message where
  header : Header
  payload : Bytes
deriving DecidableEq

/-- The errors of `Message.go`. -/
inductive MessageError where
  | invalidHeader
  | missingNodeIdVersion
  | unsupportedNodeIdVersion
  | missingNodeId
  | missingConnectionId
  | routeNameTooLong
  | legSessionIdTooLong
  | legSessionIdOverflow
  | incompleteBillingRecord
  | billingRecordOverflow
  | tooLargeForFrames
deriving DecidableEq

/-- `MagicHeaderBytes`. -/
def magicHeader : Bytes := utf8 "bnfs-data"

/-- `HeaderLength`. -/
def headerLength : ℕ := 254

/-- `NodeIdHexLength`. -/
def nodeIdHexLength : ℕ := 64

/-- `ConnectionIdLength`. -/
def connectionIdLength : ℕ := 36

/-- `LegSessionIdLength`. -/
def legSessionIdLength : ℕ := 36

/-- `copy(make([]byte, size), text)`: cut off or filled with zeros. -/
def fitTo (size : ℕ) (text : Bytes) : Bytes :=
  text.take size ++ List.replicate (size - text.length) 0

@[simp]
theorem length_fitTo (size : ℕ) (text : Bytes) : (fitTo size text).length = size := by
  simp only [fitTo, length_append, length_take, length_replicate]
  omega

/-- `strings.TrimRight(text, "\x00")`. -/
def trimZeros (text : Bytes) : Bytes := text.rdropWhile (· = 0)

/-- `b[offset : offset+size]`. -/
def field (b : Bytes) (offset size : ℕ) : Bytes := (b.drop offset).take size

/-! ## Writing -/

namespace Header

/-- The fields up to the connection id, which every header has. -/
def fixedPart (h : Header) : Bytes :=
  magicHeader ++ [1] ++ fitTo nodeIdHexLength h.nodeId ++ putLE 8 h.routeName.length ++ h.routeName ++
    putLE 8 h.payLoadLength ++ fitTo connectionIdLength h.connectionId

/-- The record has billing data. -/
def billed (h : Header) : Prop :=
  h.billingSequence ≠ 0 ∨ h.billingBytes ≠ 0 ∨ h.billingSessionID ≠ Bytes32.zero

instance (h : Header) : Decidable h.billed := inferInstanceAs (Decidable (_ ∨ _ ∨ _))

/-- The three billing fields. -/
def billingPart (h : Header) : Bytes :=
  h.billingSessionID.val ++ putBE 8 h.billingSequence ++ putBE 8 h.billingBytes

/-- `Header.ParseToBytes`. `currentIndex` is the length of what has been written so far. The checks
that the node id and the connection id fit are left out: behind the check of the route name they
do. -/
def parseToBytes (h : Header) : Except MessageError Bytes := do
  -- the magic, the version, the node id and the two lengths take 90 bytes
  check (h.routeName.length > headerLength - (magicHeader.length + 1 + nodeIdHexLength) - 8 - 8 -
    connectionIdLength) .routeNameTooLong
  let written := h.fixedPart
  let written := written ++ if written.length < headerLength then [h.legFlags] else []
  check (h.legSessionId.length > legSessionIdLength) .legSessionIdTooLong
  let fits := written.length + legSessionIdLength ≤ headerLength
  check (¬ fits ∧ (h.legSessionId ≠ [] ∨ h.billingSequence ≠ 0)) .legSessionIdOverflow
  let written := written ++ if fits then fitTo legSessionIdLength h.legSessionId else []
  check (h.billed ∧ (h.billingSequence = 0 ∨ h.billingBytes = 0 ∨
    h.billingSessionID = Bytes32.zero)) .incompleteBillingRecord
  check (h.billed ∧ written.length + 32 + 16 > headerLength) .billingRecordOverflow
  let written := written ++ if h.billed then h.billingPart else []
  return fitTo headerLength written

end Header

/-- `Message.ParseToBytes`. It sets `PayLoadLength` in the header it was given. -/
def Message.parseToBytes (m : Message) : Except MessageError Bytes := do
  let headerBytes ← { m.header with payLoadLength := m.payload.length }.parseToBytes
  return headerBytes ++ m.payload

/-! ## Reading -/

/-- The fields of a header behind the connection id. -/
structure OptionalFields where
  legFlags : UInt8
  legSessionId : Bytes
  billingSessionID : Bytes32
  billingSequence : ℕ
  billingBytes : ℕ

/-- The end of `ParseHeader`: the leg flags, the leg session id and the billing record are read if
they end inside the header. -/
def parseOptional (headerBytes : Bytes) (index : ℕ) : OptionalFields :=
  let hasFlags := index < headerBytes.length ∧ index < headerLength
  let legFlags := if hasFlags then headerBytes.getD index 0 else 0
  let index := if hasFlags then index + 1 else index
  let hasSession := index + legSessionIdLength ≤ headerBytes.length ∧
    index + legSessionIdLength ≤ headerLength
  let legSessionId :=
    if hasSession then trimZeros (field headerBytes index legSessionIdLength) else []
  let index := if hasSession then index + legSessionIdLength else index
  if index + 32 + 16 ≤ headerBytes.length ∧ index + 32 + 16 ≤ headerLength then
    { legFlags, legSessionId
      billingSessionID := Bytes32.copy (field headerBytes index 32)
      billingSequence := getBE (field headerBytes (index + 32) 8)
      billingBytes := getBE (field headerBytes (index + 40) 8) }
  else
    { legFlags, legSessionId, billingSessionID := Bytes32.zero, billingSequence := 0,
      billingBytes := 0 }

/-- `ParseHeader`. Its callers hand it `HeaderLength` bytes. `int(nameLength) < 0` is a length of
`2 ^ 63` or more. -/
def parseHeader (headerBytes : Bytes) : Except MessageError Header := do
  check (headerBytes.take magicHeader.length ≠ magicHeader) .invalidHeader
  let index := magicHeader.length
  check (index ≥ headerBytes.length) .missingNodeIdVersion
  let nodeIdVersion := headerBytes.getD index 0
  let index := index + 1
  check (nodeIdVersion ≠ 1) .unsupportedNodeIdVersion
  check (index + nodeIdHexLength > headerBytes.length) .missingNodeId
  let nodeId := trimZeros (field headerBytes index nodeIdHexLength)
  let index := index + nodeIdHexLength
  let nameLength := getLE (field headerBytes index 8)
  let index := index + 8
  check (nameLength ≥ 2 ^ 63 ∨ nameLength > headerLength - index - 8 - connectionIdLength)
    .invalidHeader
  let routeName := field headerBytes index nameLength
  let index := index + nameLength
  let payLoadLength := getLE (field headerBytes index 8)
  let index := index + 8
  check (index + connectionIdLength > headerBytes.length) .missingConnectionId
  let connectionId := trimZeros (field headerBytes index connectionIdLength)
  let index := index + connectionIdLength
  let optional := parseOptional headerBytes index
  return { routeName, nodeId, nodeIdVersion, payLoadLength, connectionId
           legFlags := optional.legFlags
           legSessionId := optional.legSessionId
           billingSessionID := optional.billingSessionID
           billingSequence := optional.billingSequence
           billingBytes := optional.billingBytes }

/-- `ParseMessage`. Its callers hand it at least `HeaderLength` bytes. -/
def parseMessage (messageBytes : Bytes) : Except MessageError Message := do
  let header ← parseHeader (messageBytes.take headerLength)
  return { header, payload := messageBytes.drop headerLength }

/-! ## What was written can be read -/

variable {size offset : ℕ} {front back middle block text b body : Bytes} {h : Header} {m : Message}

/-- A field between what is in front of it and what follows. -/
theorem field_append (hoffset : front.length = offset)
    (hsize : middle.length = size) : field (front ++ (middle ++ back)) offset size = middle := by
  rw [field, drop_left' hoffset, take_left' hsize]

/-- A field behind a part of known length. -/
theorem field_right (h : front.length ≤ offset) :
    field (front ++ back) offset size = field back (offset - front.length) size := by
  rw [field, drop_append, drop_of_length_le h]
  rfl

theorem field_left (h : block.length = size) :
    field (block ++ back) 0 size = block := List.take_left' h

theorem field_whole (h : block.length = size) :
    field block 0 size = block := List.take_of_length_le h.le

theorem trimZeros_fitTo (hsize : text.length ≤ size)
    (hlast : text.getLast? ≠ some 0) : trimZeros (fitTo size text) = text := by
  rw [fitTo, take_of_length_le hsize]
  induction size - text.length with
  | zero =>
    rw [replicate_zero, append_nil, trimZeros, rdropWhile_eq_self_iff]
    intro hne hzero
    exact hlast (by rw [getLast?_eq_some_getLast hne, of_decide_eq_true hzero])
  | succ n ih =>
    rw [replicate_succ', ← append_assoc, trimZeros, rdropWhile_concat_pos _ _ _ rfl]
    exact ih

/-- What a caller may put into a header so that it can be read back. -/
structure Header.Plain (h : Header) : Prop where
  nodeIdVersion : h.nodeIdVersion = 1
  nodeId_le : h.nodeId.length ≤ nodeIdHexLength
  connectionId_le : h.connectionId.length ≤ connectionIdLength
  nodeId_last : h.nodeId.getLast? ≠ some 0
  connectionId_last : h.connectionId.getLast? ≠ some 0
  legSessionId_last : h.legSessionId.getLast? ≠ some 0
  payLoadLength_lt : h.payLoadLength < 2 ^ 64
  billingSequence_lt : h.billingSequence < 2 ^ 64
  billingBytes_lt : h.billingBytes < 2 ^ 64

theorem length_magicHeader : magicHeader.length = 9 := by decide

@[simp]
theorem Header.length_fixedPart (h : Header) : h.fixedPart.length = 126 + h.routeName.length := by
  simp only [fixedPart, length_append, length_fitTo, length_putLE, length_singleton,
    length_magicHeader, nodeIdHexLength, connectionIdLength]
  omega

theorem field_of_isPrefix (h : front ++ middle <+: b)
    (hoffset : front.length = offset) (hsize : middle.length = size) :
    field b offset size = middle := by
  obtain ⟨back, rfl⟩ := h
  rw [append_assoc]
  exact field_append hoffset hsize

theorem getD_of_isPrefix {x : UInt8} {i : ℕ} (h : front ++ [x] <+: b)
    (hi : front.length = i) : b.getD i 0 = x := by
  obtain ⟨back, rfl⟩ := h
  rw [append_assoc, getD_append_right _ _ _ _ hi.le, hi, Nat.sub_self]
  rfl

/-- The fixed part is read back, whatever follows. -/
theorem parseHeader_of_fixedPart (hname : h.routeName.length ≤ 128)
    (hlength : b.length = headerLength) (hfixed : h.fixedPart <+: b) :
    let optional := parseOptional b (126 + h.routeName.length)
    parseHeader b = .ok ⟨h.routeName, trimZeros (fitTo nodeIdHexLength h.nodeId), 1,
      getLE (putLE 8 h.payLoadLength), trimZeros (fitTo connectionIdLength h.connectionId),
      optional.legFlags, optional.legSessionId, optional.billingSessionID, optional.billingSequence,
      optional.billingBytes⟩ := by
  have hnameLength : getLE (putLE 8 h.routeName.length) = h.routeName.length :=
    getLE_putLE_of_lt (by omega)
  -- the parts of the fixed part, from the last to the first
  have hpayload := (prefix_append _ _).trans hfixed
  have hroute := (prefix_append _ _).trans hpayload
  have hrouteLength := (prefix_append _ _).trans hroute
  have hnode := (prefix_append _ _).trans hrouteLength
  have hversion := (prefix_append _ _).trans hnode
  have hmagic : b.take 9 = magicHeader := by
    obtain ⟨back, rfl⟩ := (prefix_append _ _).trans hversion
    exact take_left' length_magicHeader
  have hnodeField : field b 10 64 = _ := field_of_isPrefix hnode rfl (length_fitTo ..)
  have hlengthField : field b 74 8 = _ :=
    field_of_isPrefix hrouteLength (by simp [length_magicHeader, nodeIdHexLength]) (length_putLE ..)
  have hrouteField : field b 82 h.routeName.length = _ :=
    field_of_isPrefix hroute (by simp [length_magicHeader, nodeIdHexLength]) rfl
  have hpayloadField : field b (82 + h.routeName.length) 8 = _ :=
    field_of_isPrefix hpayload (by simp [length_magicHeader, nodeIdHexLength]; omega) (length_putLE ..)
  have hconnectionField : field b (82 + h.routeName.length + 8) 36 = _ :=
    field_of_isPrefix hfixed (by simp [length_magicHeader, nodeIdHexLength]; omega) (length_fitTo ..)
  have hindex : 82 + h.routeName.length + 8 + 36 = 126 + h.routeName.length := by omega
  unfold parseHeader
  simp only [check_bind_ok_iff, pure_ok_iff, hlength,
    length_magicHeader, nodeIdHexLength, connectionIdLength, headerLength, Nat.reduceAdd, hmagic,
    getD_of_isPrefix hversion length_magicHeader, hnodeField, hlengthField, hnameLength, hrouteField,
    hpayloadField, hconnectionField, hindex]
  exact ⟨by simp, by omega, by simp, by omega, by omega, by omega, trivial⟩

/-! ## The fields behind the connection id -/

theorem prefix_fitTo (h : text.length ≤ size) (more : Bytes) :
    text <+: fitTo size (text ++ more) := by
  rw [fitTo, take_append, take_of_length_le h, append_assoc]
  exact prefix_append _ _

theorem fitTo_append_zeros (size n : ℕ) (text : Bytes) :
    fitTo size (text ++ List.replicate n 0) = fitTo size text := by
  simp only [fitTo, take_append, take_replicate, length_append, length_replicate,
    append_assoc, ← replicate_add]
  congr 2
  omega

theorem Header.billing_of_not_billed (hbilled : ¬ h.billed) : h.billingSequence = 0 ∧
    h.billingBytes = 0 ∧ h.billingSessionID = Bytes32.zero := by
  simpa [billed] using hbilled

/-- All fields of a header, whether there is room for them or not. -/
def Header.layout (h : Header) : Bytes :=
  h.fixedPart ++ ([h.legFlags] ++ (fitTo legSessionIdLength h.legSessionId ++ h.billingPart))

theorem Header.fixedPart_isPrefix (h : Header) (hname : h.routeName.length ≤ 128) :
    h.fixedPart <+: fitTo headerLength h.layout :=
  prefix_fitTo (by rw [length_fixedPart, headerLength]; omega) _

/-- The header is its layout, cut off or filled up with zeros. Fields for which there is no room are
empty, but for the leg flags. -/
theorem Header.parseToBytes_ok {encoded : Bytes} (hok : h.parseToBytes = .ok encoded) :
    h.routeName.length ≤ 128 ∧ h.legSessionId.length ≤ 36 ∧
      (91 < h.routeName.length → h.legSessionId = []) ∧ (43 < h.routeName.length → ¬ h.billed) ∧
      encoded = fitTo headerLength h.layout := by
  unfold parseToBytes at hok
  simp only [check_bind_ok_iff, pure_ok_iff] at hok
  obtain ⟨hname, hsession, hroom, hcomplete, hbilling, rfl⟩ := hok
  have hname : h.routeName.length ≤ 128 := Nat.not_lt.mp hname
  simp only [length_append, length_fixedPart, headerLength, legSessionIdLength, not_and, not_or,
    not_not, Nat.not_lt, layout] at hsession hroom hcomplete hbilling ⊢
  have hzeros : ¬ h.billed → h.billingPart = replicate 48 0 := by
    intro hbilled
    obtain ⟨hsequence, hbytes, hid⟩ := billing_of_not_billed hbilled
    rw [billingPart, hsequence, hbytes, hid]
    decide
  by_cases hfits : h.routeName.length ≤ 91
  · simp only [show 126 + h.routeName.length < 254 by omega, length_singleton, if_true,
      show 126 + h.routeName.length + 1 + 36 ≤ 254 by omega, length_fitTo] at hbilling ⊢
    refine ⟨hname, hsession, by omega, fun hlong hbilled => ?_, ?_⟩
    · have := hbilling hbilled
      omega
    · split_ifs with hbilled
      · simp only [append_assoc]
      · rw [hzeros hbilled, append_nil, ← append_assoc, ← append_assoc, fitTo_append_zeros]
  · -- no room for the session id: it is empty, and so is the billing record
    have hnoRoom : ¬ 126 + h.routeName.length +
        (if 126 + h.routeName.length < 254 then [h.legFlags] else []).length + 36 ≤ 254 := by
      split_ifs
      · simp only [length_singleton]
        omega
      · omega
    obtain ⟨hempty, hsequence⟩ := hroom hnoRoom
    have hbilled : ¬ h.billed := fun hbilled => (hcomplete hbilled).1 hsequence
    refine ⟨hname, hsession, fun _ => hempty, fun _ => hbilled, ?_⟩
    rw [if_neg hnoRoom, if_neg hbilled, append_nil, append_nil, hzeros hbilled, hempty]
    split_ifs with hflags
    · rw [← append_assoc]
      exact (fitTo_append_zeros 254 84 _).symm
    · have hfull : h.fixedPart.length = 254 := by
        rw [length_fixedPart]
        omega
      simp only [fitTo, take_left' hfull, length_append, hfull,
        Nat.sub_eq_zero_of_le (Nat.le_add_right _ _)]

theorem parseOptional_layout (hplain : h.Plain) (hname : h.routeName.length ≤ 128)
    (hsize : h.legSessionId.length ≤ 36) (hsession : 91 < h.routeName.length → h.legSessionId = [])
    (hbilled : 43 < h.routeName.length → ¬ h.billed) :
    parseOptional (fitTo headerLength h.layout) (126 + h.routeName.length) =
      ⟨if h.routeName.length < 128 then h.legFlags else 0, h.legSessionId, h.billingSessionID,
        h.billingSequence, h.billingBytes⟩ := by
  -- a part of the layout that ends inside the header is in it
  have hpart (front back : Bytes) (happend : h.layout = front ++ back)
      (hroom : front.length ≤ 254) : front <+: fitTo headerLength h.layout := by
    rw [happend]
    exact prefix_fitTo hroom back
  have hlength : (fitTo headerLength h.layout).length = 254 := length_fitTo ..
  generalize fitTo headerLength h.layout = b at hpart hlength
  have hflags (hroom : h.routeName.length < 128) :
      b.getD (126 + h.routeName.length) 0 = h.legFlags :=
    getD_of_isPrefix (hpart (h.fixedPart ++ [h.legFlags]) _ (append_assoc ..).symm
      (by simp; omega)) h.length_fixedPart
  have hsessionField (hroom : h.routeName.length ≤ 91) :
      trimZeros (field b (126 + h.routeName.length + 1) 36) = h.legSessionId := by
    rw [field_of_isPrefix (hpart (h.fixedPart ++ [h.legFlags] ++ fitTo 36 h.legSessionId)
      h.billingPart (by simp [Header.layout, legSessionIdLength]) (by simp; omega)) (by simp)
      (length_fitTo ..)]
    exact trimZeros_fitTo hsize hplain.legSessionId_last
  unfold parseOptional
  simp only [hlength, headerLength, legSessionIdLength, and_self]
  by_cases hshort : h.routeName.length ≤ 43
  · have hbytes : h.fixedPart ++ [h.legFlags] ++ fitTo 36 h.legSessionId ++ h.billingSessionID.val ++
        putBE 8 h.billingSequence ++ putBE 8 h.billingBytes <+: b :=
      hpart _ [] (by simp [Header.layout, legSessionIdLength, Header.billingPart])
        (by simp [h.billingSessionID.property]; omega)
    have hsequence := (prefix_append _ _).trans hbytes
    have hid := (prefix_append _ _).trans hsequence
    have hidField : field b (126 + h.routeName.length + 1 + 36) 32 = _ :=
      field_of_isPrefix hid (by simp) h.billingSessionID.property
    have hsequenceField : field b (126 + h.routeName.length + 1 + 36 + 32) 8 = _ :=
      field_of_isPrefix hsequence (by simp) (length_putBE ..)
    have hbytesField : field b (126 + h.routeName.length + 1 + 36 + 40) 8 = _ :=
      field_of_isPrefix hbytes (by simp) (length_putBE ..)
    simp only [show 126 + h.routeName.length < 254 by omega, if_true,
      show 126 + h.routeName.length + 1 + 36 ≤ 254 by omega,
      show 126 + h.routeName.length + 1 + 36 + 32 + 16 ≤ 254 by omega, hidField, hsequenceField,
      hbytesField, Bytes32.copy_val, hflags (by omega), hsessionField (by omega),
      show h.routeName.length < 128 by omega]
    rw [getBE_putBE_of_lt hplain.billingSequence_lt, getBE_putBE_of_lt hplain.billingBytes_lt]
  · obtain ⟨hsequence, hbytes, hid⟩ := Header.billing_of_not_billed (hbilled (by omega))
    rw [if_neg (by split_ifs <;> omega), hsequence, hbytes, hid]
    congr 1
    · split_ifs <;> first | exact hflags (by omega) | omega | rfl
    · split_ifs <;> first | exact hsessionField (by omega) | exact (hsession (by omega)).symm | omega

/-- A header is read back exactly if there was room for its leg flags, or if there are none. -/
theorem parseHeader_parseToBytes_iff {h : Header} {encoded : Bytes} (hplain : h.Plain)
    (hok : h.parseToBytes = .ok encoded) :
    parseHeader encoded = .ok h ↔ h.routeName.length < 128 ∨ h.legFlags = 0 := by
  obtain ⟨hname, hsize, hsession, hbilled, rfl⟩ := Header.parseToBytes_ok hok
  have hpayload : getLE (putLE 8 h.payLoadLength) = h.payLoadLength :=
    getLE_putLE_of_lt hplain.payLoadLength_lt
  rw [parseHeader_of_fixedPart hname (length_fitTo ..) (h.fixedPart_isPrefix hname),
    parseOptional_layout hplain hname hsize hsession hbilled,
    trimZeros_fitTo hplain.nodeId_le hplain.nodeId_last,
    trimZeros_fitTo hplain.connectionId_le hplain.connectionId_last, hpayload,
    ← hplain.nodeIdVersion, Except.ok.injEq]
  split_ifs with hshort
  · simp [hshort]
  · simp only [hshort, false_or]
    constructor
    · intro heq
      rw [← heq]
    · intro hzero
      rw [← hzero]

/-- A header with a route name of the given length and nothing else but leg flags. -/
def sampleHeader (length : ℕ) : Header :=
  ⟨List.replicate length 97, [98], 1, 0, [99], 1, [], Bytes32.zero, 0, 0⟩

theorem parseHeader_parseToBytes_sample :
    ∃ encoded, (sampleHeader 100).parseToBytes = .ok encoded ∧
      parseHeader encoded = .ok (sampleHeader 100) := by
  obtain ⟨encoded, hok⟩ : ∃ encoded, (sampleHeader 100).parseToBytes = .ok encoded :=
    ⟨(sampleHeader 100).parseToBytes.toOption.getD [], by decide +kernel⟩
  refine ⟨encoded, hok, (parseHeader_parseToBytes_iff ?_ hok).mpr (.inl (by decide))⟩
  constructor <;> decide

/-- With a route name of 128 bytes the leg flags are lost. -/
theorem leg_flags_lost :
    ∃ encoded, (sampleHeader 128).parseToBytes = .ok encoded ∧
      parseHeader encoded = .ok { sampleHeader 128 with legFlags := 0 } :=
  ⟨(sampleHeader 128).parseToBytes.toOption.getD [], by decide +kernel⟩

theorem length_parseToBytes (h : m.parseToBytes = .ok body) :
    body.length = headerLength + m.payload.length := by
  unfold Message.parseToBytes at h
  simp only [bind_ok_iff, pure_ok_iff] at h
  obtain ⟨encoded, hencoded, rfl⟩ := h
  obtain ⟨-, -, -, -, rfl⟩ := Header.parseToBytes_ok hencoded
  rw [length_append, length_fitTo]

theorem parseMessage_parseToBytes (h : m.parseToBytes = .ok body) :
    headerLength ≤ body.length ∧ ∃ received, parseMessage body = .ok received := by
  have hbody := length_parseToBytes h
  unfold Message.parseToBytes at h
  simp only [bind_ok_iff, pure_ok_iff] at h
  obtain ⟨encoded, hencoded, rfl⟩ := h
  obtain ⟨hname, -, -, -, rfl⟩ := Header.parseToBytes_ok hencoded
  have hparsed := parseHeader_of_fixedPart hname (length_fitTo ..) (Header.fixedPart_isPrefix _ hname)
  refine ⟨by omega, ?_⟩
  unfold parseMessage
  simp only [bind_ok_iff, pure_ok_iff]
  rw [take_left' (length_fitTo ..)]
  exact ⟨_, _, hparsed, rfl⟩

end NatP2P.Network
