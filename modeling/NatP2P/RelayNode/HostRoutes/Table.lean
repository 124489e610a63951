import NatP2P.Common.Bytes
import NatP2P.Common.Check
import NatP2P.Common.GoMap
import NatP2P.Common.Word

/-!
# The table of host routes

A relay that hosts a NAT node announces it to the relays it is linked with. An announcement is
signed by the relay that hosts the node, its origin; the path of the relays it came through is not
part of what is signed. A relay keeps one record for every target and origin, with the neighbour it
came from, and takes the next hop for a target from these records.

The functions here are what a relay does to its table while it holds `n.mu`, and what it reads from
it. Node identities and addresses are Go strings, kept as their bytes. Times are nanoseconds since
the epoch.

Reference: `p2pnode/impl/relaynode/host_routes.go`.
-/

namespace NatP2P.RelayNode

open GoMap Option

/-- `hostRouteLease`. -/
def hostRouteLease : ℤ := 45000000000

/-- `hostRouteClockSkew`. -/
def hostRouteClockSkew : ℤ := 30000000000

/-- `maximumHostRouteBatch`. -/
def maximumHostRouteBatch : ℕ := 128

/-- `maximumHostRoutePath`. -/
def maximumHostRoutePath : ℕ := 8

/-- `maximumHostRouteTargets`. -/
def maximumHostRouteTargets : ℕ := 65536

/-- `maximumHostRoutesPerTarget`. -/
def maximumHostRoutesPerTarget : ℕ := 32

/-- `hostRouteSignature`: the part of an announcement that its origin signs. -/
structure HostRouteSignature where
  target : Bytes
  relayID : Bytes
  relayPublicKey : Bytes
  addr : Bytes
  incarnation : Bytes
  sequence : ℕ
  issuedAt : ℤ
  leaseUntil : ℤ
  active : Bool
  deriving DecidableEq

/-- `hostRouteWire`: an announcement as relays send it to each other. -/
structure HostRouteWire extends HostRouteSignature where
  indexSign : Bytes
  path : List Bytes
  signature : Bytes
  deriving DecidableEq

/-- Two announcements of one origin for one target. -/
def HostRouteWire.SameKey (route other : HostRouteWire) : Prop :=
  route.target = other.target ∧ route.relayID = other.relayID

instance (route other : HostRouteWire) : Decidable (route.SameKey other) :=
  inferInstanceAs (Decidable (_ ∧ _))

/-- `hostRouteRecord`: an announcement and the neighbour it came from, empty for the relay's own. -/
structure HostRouteRecord where
  wire : HostRouteWire
  via : Bytes
  deriving DecidableEq

/-- `hostRouteKey`: a target and the origin that announced it. -/
structure HostRouteKey where
  target : Bytes
  relayID : Bytes
  deriving DecidableEq

/-! ## Which announcements are well formed -/

/-- Go's packages that the check of an announcement calls. -/
structure Packages where
  /-- `sha256.Sum256`. -/
  sha256 : Bytes → Bytes32
  /-- `net.SplitHostPort` accepts the address. -/
  splitHostPort : Bytes → Bool
  /-- `elliptic.Unmarshal` finds a point of P-256. -/
  unmarshalPoint : Bytes → Bool
  /-- `json.Marshal` of the signed part. -/
  marshalSignature : HostRouteSignature → Bytes
  /-- `ecdsa.VerifyASN1` with a key, a digest and a signature. -/
  verifyASN1 : Bytes → Bytes32 → Bytes → Bool

/-- What `acceptHostRoute` reads besides the table: the clock when it checks the announcement and
when it counts the active ones, and whether the origin passes the admission gate, which it does when
admission is off. -/
structure Reading where
  checkedAt : ℤ
  countedAt : ℤ
  admitted : Bool

/-- `canonicalNodeID`. -/
def canonicalNodeID (value : Bytes) : Bool :=
  value.length == 64 &&
    match hexTextDecode value with
    | some decoded => hexText decoded == value
    | none => false

variable (P : Packages)

/-- `networkFrameWork.NodeIDFromPubKeyHex`. -/
def nodeIDFromPubKeyHex (pubKeyHex : Bytes) : Bytes := hexText (P.sha256 pubKeyHex).val

/-- `hostRouteDigest`. -/
def hostRouteDigest (route : HostRouteWire) : Bytes32 :=
  P.sha256 (utf8 "BNFS/HOST-ROUTE/V1" ++ P.marshalSignature route.toHostRouteSignature)

/-- `verifyHostRouteSignature`. -/
def verifyHostRouteSignature (route : HostRouteWire) : Except String Unit :=
  match hexTextDecode route.relayPublicKey with
  | none => .error "invalid Relay public key encoding"
  | some publicBytes => do
    check (P.unmarshalPoint publicBytes = false) "invalid Relay P-256 public key"
    check (P.verifyASN1 publicBytes (hostRouteDigest P route) route.signature = false)
      "invalid Relay route signature"

/-- `verifyHostRoute`. -/
def verifyHostRoute (reading : Reading) (route : HostRouteWire) : Except String Unit := do
  check (route.target = [] ∨ route.relayID = [] ∨ route.relayPublicKey = [] ∨ route.addr = [] ∨
      route.incarnation = [] ∨ route.sequence = 0 ∨ route.issuedAt = 0 ∨ route.leaseUntil = 0)
    "missing required route field"
  check (canonicalNodeID route.target = false ∨ canonicalNodeID route.relayID = false)
    "route contains a non-canonical NodeID"
  check (route.relayPublicKey.length ≠ 130 ∨ 512 < route.addr.length ∨
      128 < route.incarnation.length ∨ maximumHostRoutePath < route.path.length ∨
      80 < route.signature.length ∨ 64 * 1024 < route.indexSign.length)
    "route field exceeds its size limit"
  check (route.path.all canonicalNodeID = false) "route path contains a non-canonical Relay ID"
  check (nodeIDFromPubKeyHex P route.relayPublicKey ≠ route.relayID)
    "Relay identity does not match public key"
  check (P.splitHostPort route.addr = false) "invalid Relay address"
  check (reading.checkedAt + hostRouteClockSkew < route.issuedAt ∨
      route.leaseUntil < reading.checkedAt - hostRouteClockSkew ∨
      hostRouteLease + hostRouteClockSkew < route.leaseUntil - route.issuedAt)
    "route lease is outside the accepted window"
  check (reading.admitted = false) "route origin is not admitted"
  verifyHostRouteSignature P route

/-- `newerHostRoute`. -/
def newerHostRoute (current incoming : HostRouteSignature) : Bool :=
  if incoming.incarnation ≠ current.incarnation then current.issuedAt < incoming.issuedAt
  else current.sequence < incoming.sequence

/-- A record that may be used at a time: it is active and its lease has not ended. -/
def HostRouteRecord.usable (record : HostRouteRecord) (now : ℤ) : Bool :=
  record.wire.active && decide (now < record.wire.leaseUntil)

/-! ## The table -/

/-- `n.hostRoutes` and `n.hostRouteMultipath`. -/
structure Table where
  hostRoutes : GoMap Bytes (GoMap Bytes HostRouteRecord)
  hostRouteMultipath : GoMap Bytes Bool

/-- The orders in which one loop over the table visits the targets and the origins of each. -/
structure RangeOrder where
  targets : GoMap.Order Bytes
  relays : Bytes → GoMap.Order Bytes

namespace Table

/-- The table of a new relay. -/
def empty : Table := ⟨.empty, .empty⟩

/-- The record for a target and an origin. -/
def record (t : Table) (target relayID : Bytes) : Option HostRouteRecord :=
  (t.hostRoutes.get target).bind fun byRelay => byRelay.get relayID

/-- `n.hostRouteMultipath[target]`; `hostRouteTransitEnabled`. -/
def multipath (t : Table) (target : Bytes) : Bool := (t.hostRouteMultipath.get target).getD false

/-- `activeHostRouteCount`. -/
def activeHostRouteCount (byRelay : GoMap Bytes HostRouteRecord) (now : ℤ) : ℕ :=
  (byRelay.keys.filter fun relayID => (byRelay.get relayID).any (·.usable now)).card

/-- The second half of `acceptHostRoute`, when the announcement is stored: the new table, and
whether the target became multipath. -/
def store (t : Table) (byRelay : GoMap Bytes HostRouteRecord) (via : Bytes) (route : HostRouteWire)
    (countedAt : ℤ) : Table × Bool :=
  let byRelay := byRelay.set route.relayID ⟨route, via⟩
  let becameMultipath := !t.multipath route.target && 2 ≤ activeHostRouteCount byRelay countedAt
  ({ hostRoutes := t.hostRoutes.set route.target byRelay
     hostRouteMultipath :=
      if becameMultipath then t.hostRouteMultipath.set route.target true
      else t.hostRouteMultipath }, becameMultipath)

/-- `acceptHostRoute`: `none` when the announcement is not accepted, which leaves the table as it
is. -/
def acceptHostRoute (t : Table) (via : Bytes) (route : HostRouteWire) (reading : Reading) :
    Option (Table × Bool) :=
  match verifyHostRoute P reading route with
  | .error _ => none
  | .ok () =>
    if t.hostRoutes.get route.target = none ∧ maximumHostRouteTargets ≤ t.hostRoutes.len then none
    else
      let byRelay := (t.hostRoutes.get route.target).getD .empty
      match byRelay.get route.relayID with
      | some current =>
        if newerHostRoute current.wire.toHostRouteSignature route.toHostRouteSignature then
          some (t.store byRelay via route reading.countedAt)
        else none
      | none =>
        if maximumHostRoutesPerTarget ≤ byRelay.len then none
        else some (t.store byRelay via route reading.countedAt)

/-- The records a loop leaves that deletes some of them, and then every target without a record. -/
def retain (t : Table) (keep : HostRouteRecord → Bool) : Table :=
  let rest := fun byRelay : GoMap Bytes HostRouteRecord =>
    byRelay.retain fun relayID => (byRelay.get relayID).all keep
  { hostRoutes := t.hostRoutes.filterMap fun _ byRelay =>
      if (rest byRelay).len = 0 then none else some (rest byRelay)
    hostRouteMultipath := t.hostRouteMultipath.retain fun target =>
      (t.hostRoutes.get target).all fun byRelay => (rest byRelay).len ≠ 0 }

/-- `expireHostRoutes`. -/
def expireHostRoutes (t : Table) (now : ℤ) : Table :=
  t.retain fun record => now < record.wire.leaseUntil

/-- All records with their keys, in the order of a loop over the table. -/
def records (t : Table) (order : RangeOrder) : List (HostRouteKey × HostRouteRecord) :=
  (order.targets.visit t.hostRoutes.keys).flatMap fun target =>
    match t.hostRoutes.get target with
    | none => []
    | some byRelay => ((order.relays target).visit byRelay.keys).filterMap fun relayID =>
        (byRelay.get relayID).map fun record => (⟨target, relayID⟩, record)

/-- `removeHostRoutesVia` without its broadcast: the new table and the withdrawals. -/
def removeHostRoutesVia (t : Table) (peerID : Bytes) (order : RangeOrder) :
    Table × List HostRouteKey :=
  if peerID = [] then (t, [])
  else
    (t.retain fun record => record.via ≠ peerID,
      ((t.records order).filter fun entry => entry.2.via = peerID).map (·.1))

/-- `delete(byRelay, withdrawal.RelayID)`, and the target too when it has no record left. -/
def delete (t : Table) (key : HostRouteKey) : Table :=
  let byRelay := ((t.hostRoutes.get key.target).getD .empty).delete key.relayID
  if byRelay.len = 0 then
    { hostRoutes := t.hostRoutes.delete key.target
      hostRouteMultipath := t.hostRouteMultipath.delete key.target }
  else { t with hostRoutes := t.hostRoutes.set key.target byRelay }

/-- One turn of the loop of `receiveHostWithdrawals`: the new table, and whether the withdrawal is
passed on. -/
def withdraw (t : Table) (via : Bytes) (withdrawal : HostRouteKey) : Table × Bool :=
  if canonicalNodeID withdrawal.target = false ∨ canonicalNodeID withdrawal.relayID = false then
    (t, false)
  else
    match t.record withdrawal.target withdrawal.relayID with
    | none => (t, false)
    | some record => if record.via ≠ via then (t, false) else (t.delete withdrawal, true)

/-- The loop of `receiveHostWithdrawals`, which runs while the relay holds `n.mu`: the new table and
the withdrawals that are passed on. -/
def withdrawAll (t : Table) (via : Bytes) : List HostRouteKey → Table × List HostRouteKey
  | [] => (t, [])
  | withdrawal :: rest =>
    let (t, removed) := t.withdraw via withdrawal
    let (t, removedRest) := t.withdrawAll via rest
    (t, if removed then withdrawal :: removedRest else removedRest)

/-- `receiveHostWithdrawals` without its broadcast. -/
def receiveHostWithdrawals (t : Table) (via : Bytes) (withdrawals : List HostRouteKey) :
    Table × List HostRouteKey :=
  if withdrawals = [] ∨ maximumHostRouteBatch < withdrawals.length ∨ via = [] then (t, [])
  else t.withdrawAll via withdrawals

/-- `hostRouteSnapshot`. -/
def hostRouteSnapshot (t : Table) (now : ℤ) (order : RangeOrder) : List HostRouteWire :=
  ((t.records order).filter fun entry =>
    entry.2.usable now && (decide (entry.2.via = []) || t.multipath entry.1.target)).map (·.2.wire)

/-- The records of a target that may be used, in the order of a loop over them. -/
def usableRecords (t : Table) (target : Bytes) (now : ℤ) (order : GoMap.Order Bytes) :
    List HostRouteRecord :=
  match t.hostRoutes.get target with
  | none => []
  | some byRelay => (byRelay.values order).filter (·.usable now)

/-- `transitHostRouteSnapshot`. -/
def transitHostRouteSnapshot (t : Table) (target : Bytes) (now : ℤ) (order : GoMap.Order Bytes) :
    List HostRouteWire :=
  if t.multipath target then (t.usableRecords target now order).map (·.wire) else []

end Table

/-- A control link and the relay at its other end, empty before its `HELLO`. -/
structure PeerLink where
  handle : ℕ
  peerID : Bytes
  deriving DecidableEq

namespace Table

/-! ## What an operation does to the records -/

section

variable {P} {t t' : Table} {target relayID via : Bytes} {route : HostRouteWire} {reading : Reading}

@[simp]
theorem record_empty : empty.record target relayID = none := rfl

theorem record_set {byRelay : GoMap Bytes HostRouteRecord} {m : GoMap Bytes Bool} {changed : Bytes} :
    (⟨t.hostRoutes.set changed byRelay, m⟩ : Table).record target relayID =
      if target = changed then byRelay.get relayID else t.record target relayID := by
  rw [record, get_set]
  split_ifs <;> rfl

/-- The records of a target as a map. -/
theorem get_getD_empty :
    ((t.hostRoutes.get target).getD .empty).get relayID = t.record target relayID := by
  cases h : t.hostRoutes.get target <;> simp [record, h]

theorem record_store {countedAt : ℤ} :
    (t.store ((t.hostRoutes.get route.target).getD .empty) via route countedAt).1.record target
        relayID =
      if target = route.target ∧ relayID = route.relayID then some ⟨route, via⟩
      else t.record target relayID := by
  rw [store, record_set, get_set, get_getD_empty]
  by_cases htarget : target = route.target
  all_goals simp [htarget]

/-- What an accepted announcement went through, and what it changes. -/
theorem of_acceptHostRoute {became : Bool}
    (h : t.acceptHostRoute P via route reading = some (t', became)) :
    verifyHostRoute P reading route = .ok () ∧
      (∀ current, t.record route.target route.relayID = some current →
        newerHostRoute current.wire.toHostRouteSignature route.toHostRouteSignature = true) ∧
      ∀ target relayID, t'.record target relayID =
        if target = route.target ∧ relayID = route.relayID then some ⟨route, via⟩
        else t.record target relayID := by
  rw [acceptHostRoute] at h
  cases hverify : verifyHostRoute P reading route with
  | error e => simp [hverify] at h
  | ok _ =>
    rw [hverify] at h
    simp only [get_getD_empty] at h
    obtain ⟨-, h⟩ := ite_none_left_eq_some.mp h
    have hstore : (∀ current, t.record route.target route.relayID = some current →
          newerHostRoute current.wire.toHostRouteSignature route.toHostRouteSignature = true) ∧
        t.store ((t.hostRoutes.get route.target).getD .empty) via route reading.countedAt =
          (t', became) := by
      cases hcurrent : t.record route.target route.relayID with
      | none =>
        rw [hcurrent] at h
        simp only [ite_none_left_eq_some, some.injEq] at h
        exact ⟨fun _ => nofun, h.2⟩
      | some current =>
        rw [hcurrent] at h
        simp only [ite_none_right_eq_some, some.injEq] at h
        exact ⟨fun _ heq => some.inj heq ▸ h.1, h.2⟩
    refine ⟨rfl, hstore.1, fun target relayID => ?_⟩
    rw [← record_store, hstore.2]

theorem record_retain {keep : HostRouteRecord → Bool} :
    (t.retain keep).record target relayID = (t.record target relayID).filter keep := by
  cases hroutes : t.hostRoutes.get target with
  | none => simp [retain, record, get_filterMap, hroutes]
  | some byRelay =>
    have hrest : (byRelay.retain fun relayID => (byRelay.get relayID).all keep).get relayID =
        (byRelay.get relayID).filter keep := by
      rw [get_retain]
      cases h : byRelay.get relayID <;> simp [Option.filter]
    simp only [retain, record, get_filterMap, hroutes, Option.bind_some]
    split_ifs with hlen
    · rw [Option.bind_none, ← hrest, get_eq_none_of_len_eq_zero hlen]
    · rw [Option.bind_some, hrest]

theorem record_delete {key : HostRouteKey} :
    (t.delete key).record target relayID =
      if key = ⟨target, relayID⟩ then none else t.record target relayID := by
  have hdelete : ∀ relayID, (((t.hostRoutes.get key.target).getD .empty).delete key.relayID).get
      relayID = if relayID = key.relayID then none else t.record key.target relayID := by
    intro relayID
    rw [get_delete, get_getD_empty]
  obtain ⟨changed, origin⟩ := key
  simp only [HostRouteKey.mk.injEq]
  rw [delete]
  split_ifs with hlen hkey hkey
  · obtain ⟨rfl, rfl⟩ := hkey
    simp [record]
  · by_cases htarget : changed = target
    · subst htarget
      have horigin : relayID ≠ origin := fun h => hkey ⟨rfl, h.symm⟩
      have hnone := get_eq_none_of_len_eq_zero hlen relayID
      rw [hdelete, if_neg horigin] at hnone
      rw [show t.record changed relayID = none from hnone]
      simp [record]
    · simp [record, get_delete_ne (Ne.symm htarget)]
  · obtain ⟨rfl, rfl⟩ := hkey
    rw [record_set, if_pos rfl, hdelete, if_pos rfl]
  · rw [record_set]
    split_ifs with htarget
    · subst htarget
      rw [hdelete, if_neg fun h => hkey ⟨rfl, h.symm⟩]
    · rfl

/-- A withdrawal deletes nothing, or the record it names, which came from the neighbour that
withdraws it. -/
theorem withdraw_cases (t : Table) (via : Bytes) (withdrawal : HostRouteKey) :
    t.withdraw via withdrawal = (t, false) ∨
      t.withdraw via withdrawal = (t.delete withdrawal, true) ∧
        ∃ current, t.record withdrawal.target withdrawal.relayID = some current ∧
          current.via = via := by
  rw [withdraw]
  by_cases hcanonical : canonicalNodeID withdrawal.target = false ∨
      canonicalNodeID withdrawal.relayID = false
  · exact .inl (if_pos hcanonical)
  rw [if_neg hcanonical]
  cases hrecord : t.record withdrawal.target withdrawal.relayID with
  | none => exact .inl rfl
  | some current =>
    by_cases hvia : current.via = via
    · exact .inr ⟨if_neg (not_not.mpr hvia), current, rfl, hvia⟩
    · exact .inl (if_pos hvia)

theorem record_of_withdrawAll {withdrawals : List HostRouteKey} {current : HostRouteRecord}
    (h : (t.withdrawAll via withdrawals).1.record target relayID = some current) :
    t.record target relayID = some current := by
  induction withdrawals generalizing t with
  | nil => exact h
  | cons withdrawal rest ih =>
    rw [withdrawAll] at h
    rcases withdraw_cases t via withdrawal with heq | ⟨heq, -⟩
    all_goals rw [heq] at h
    · exact ih h
    · have hdelete := ih h
      rw [record_delete] at hdelete
      split_ifs at hdelete
      exact hdelete

/-- A record stays that the withdrawals do not name, or that came from another neighbour. -/
theorem record_withdrawAll {withdrawals : List HostRouteKey} {current : HostRouteRecord}
    (h : t.record target relayID = some current)
    (hkeep : current.via = via → ⟨target, relayID⟩ ∉ withdrawals) :
    (t.withdrawAll via withdrawals).1.record target relayID = some current := by
  induction withdrawals generalizing t with
  | nil => exact h
  | cons withdrawal rest ih =>
    have hrest (hvia : current.via = via) : ⟨target, relayID⟩ ∉ rest :=
      fun hmem => hkeep hvia (List.mem_cons_of_mem _ hmem)
    rw [withdrawAll]
    rcases withdraw_cases t via withdrawal with heq | ⟨heq, named, hnamed, hvia⟩
    all_goals rw [heq]
    · exact ih h hrest
    · refine ih ?_ hrest
      rw [record_delete, if_neg]
      · exact h
      · rintro rfl
        obtain rfl := mem_unique h hnamed
        exact hkeep hvia List.mem_cons_self

/-- What a call does to the records: it stores one that is newer than the one it replaces, or it
adds none. -/
inductive Change (t t' : Table) : Option HostRouteRecord → Prop
  | stored (stored : HostRouteRecord)
      (hnewer : ∀ current, t.record stored.wire.target stored.wire.relayID = some current →
        newerHostRoute current.wire.toHostRouteSignature stored.wire.toHostRouteSignature = true)
      (hrecord : ∀ target relayID, t'.record target relayID =
        if target = stored.wire.target ∧ relayID = stored.wire.relayID then some stored
        else t.record target relayID) :
      Change t t' (some stored)
  | kept (hrecord : ∀ target relayID current, t'.record target relayID = some current →
      t.record target relayID = some current) :
      Change t t' none

theorem Change.refl (t : Table) : Change t t none := .kept fun _ _ _ h => h

theorem change_acceptHostRoute {became : Bool}
    (h : t.acceptHostRoute P via route reading = some (t', became)) :
    Change t t' (some ⟨route, via⟩) :=
  have ⟨_, hnewer, hrecord⟩ := of_acceptHostRoute h
  .stored ⟨route, via⟩ hnewer hrecord

theorem change_retain (t : Table) (keep : HostRouteRecord → Bool) :
    Change t (t.retain keep) none := by
  refine .kept fun target relayID current h => ?_
  rw [record_retain] at h
  exact (filter_eq_some_iff.mp h).1

theorem change_receiveHostWithdrawals (t : Table) (via : Bytes) (withdrawals : List HostRouteKey) :
    Change t (t.receiveHostWithdrawals via withdrawals).1 none := by
  rw [receiveHostWithdrawals]
  split_ifs
  · exact .refl t
  · exact .kept fun _ _ _ h => record_of_withdrawAll h

theorem change_removeHostRoutesVia (t : Table) (peerID : Bytes) (order : RangeOrder) :
    Change t (t.removeHostRoutesVia peerID order).1 none := by
  rw [removeHostRoutesVia]
  split_ifs
  · exact .refl t
  · exact t.change_retain _

end

end Table

/-! ## Values to evaluate the model with -/

/-- Stand-ins for Go's packages: the hash is the start of what is hashed, and every signature that
is not empty is valid. -/
def Packages.sample : Packages where
  sha256 := Bytes32.copy
  splitHostPort addr := addr.contains 58
  unmarshalPoint key := key.length = 65
  marshalSignature _ := []
  verifyASN1 _ _ signature := signature ≠ []

/-- Loops over the table meet keys in ascending order. -/
def sampleOrder : GoMap.Order Bytes := .bytes

/-- The public key of one of ten relays. -/
def sampleKey (n : ℕ) : Bytes := List.replicate 130 (UInt8.ofNat (48 + n))

/-- The identity of one of ten relays. -/
def sampleRelay (n : ℕ) : Bytes := hexText (List.replicate 32 (UInt8.ofNat (48 + n)))

/-- The identity of a node that a relay hosts. -/
def sampleTarget (n : ℕ) : Bytes := hexText (UInt8.ofNat n :: List.replicate 31 0)

/-- An announcement of a relay that it issues at a second, with a lease of 45 seconds. -/
def sampleRoute (target relay sequence : ℕ) (issuedAt : ℤ) (active : Bool) : HostRouteWire where
  target := sampleTarget target
  relayID := sampleRelay relay
  relayPublicKey := sampleKey relay
  addr := [58]
  incarnation := [1]
  sequence
  issuedAt := issuedAt * 1000000000
  leaseUntil := issuedAt * 1000000000 + hostRouteLease
  active
  indexSign := []
  path := [sampleRelay relay]
  signature := [1]

end NatP2P.RelayNode
