import NatP2P.Common.Bytes
import NatP2P.Common.Check
import NatP2P.Common.Run
import NatP2P.Common.Word
import Mathlib.Data.Finset.Insert

/-!
# The revocation state of a relay

A relay keeps the revocation events of the CA, which are numbered, and the deny decisions it got, in
a file. `syncOnce` asks for the events it does not have yet, writes the new state and then applies
the events; `persistDecision` adds a decision. At the start `loadState` reads the file back.

What the CA answers, and how far a write comes, are arguments of the calls. JSON and the signatures
of the CA are parameters.

Reference: `p2pnode/impl/relaynode/revocation_control.go`, `p2pnode/impl/relaynode/deny_runtime.go`,
`admission/revocation.go`.
-/

namespace NatP2P.RelayNode

open List Option

/-- `revocationStateVersion`. -/
def revocationStateVersion : ℤ := 1

/-- `revocationStateMaxSize`. -/
def revocationStateMaxSize : ℕ := 2 ^ 26

/-- `RevocationSyncVersion`. -/
def revocationSyncVersion : ℤ := 1

/-- `permanentDenyCodes`. -/
def permanentDenyCodes : List Bytes :=
  [utf8 "node_revoked", utf8 "certificate_revoked", utf8 "node_authorization_revoked",
    utf8 "billing_key_revoked", utf8 "billing_key_expired", utf8 "billing_user_disabled"]

/-- `RevocationEvent`. -/
structure RevocationEvent where
  version : ℤ
  epoch : ℕ
  eventID : Bytes
  scopeType : Bytes
  scopeID : Bytes
  errorCode : Bytes
  effectiveAt : ℤ
  reasonCode : Bytes
  createdAt : ℤ
  signature : Bytes
deriving DecidableEq

/-- `DenyDecision`. -/
structure DenyDecision where
  decisionID : Bytes
  errorCode : Bytes
  scopeType : Bytes
  scopeID : Bytes
  effectiveAt : ℤ
  epoch : ℕ
  relayID : Bytes
  requestID : Bytes
  issuedAt : ℤ
  signature : Bytes
deriving DecidableEq

/-- `persistedRevocationState`. -/
structure PersistedState where
  version : ℤ
  relayID : Bytes
  appliedEpoch : ℕ
  events : List RevocationEvent
  decisions : List DenyDecision
  updatedAt : ℤ
deriving DecidableEq

/-- The part of `RevocationSyncResponse` that `syncOnce` reads. -/
structure SyncResponse where
  fromEpoch : ℕ
  currentEpoch : ℕ
  events : List RevocationEvent

/-- `encoding/json` at the state: `json.Marshal`, and a decoder that refuses unknown fields and
trailing data. -/
structure StateJson where
  marshal : PersistedState → Option Bytes
  unmarshal : Bytes → Option PersistedState

/-- Reading back a text with a line break behind it returns the state. -/
def StateJson.RoundTrips (J : StateJson) : Prop :=
  ∀ state text, J.marshal state = some text → J.unmarshal (text ++ [10]) = some state

/-- The signatures of the CA. -/
structure CASignatures where
  event : RevocationEvent → Bool
  /-- `VerifyStoredDenyDecision` -/
  storedDecision : DenyDecision → Bytes → Bool

/-- `VerifyRevocationEvent`. -/
def verifyRevocationEvent (K : CASignatures) (event : RevocationEvent) : Prop :=
  ¬ (event.version ≠ revocationSyncVersion ∨ event.epoch = 0 ∨ event.eventID = [] ∨
    event.scopeType = [] ∨ event.scopeID = [] ∨ event.errorCode = []) ∧ K.event event = true

instance (K : CASignatures) (event : RevocationEvent) : Decidable (verifyRevocationEvent K event) :=
  inferInstanceAs (Decidable (_ ∧ _))

/-! ## The denied scopes -/

/-- The key of a scope: `scopeType + ":" + scopeID`. -/
def scopeKey (scopeType scopeID : Bytes) : Bytes := scopeType ++ [58] ++ scopeID

/-- `applyVerifiedDeny`, as far as `businessDeniedScopes` is concerned; it does not fail. -/
def applyVerifiedDeny (denied : Finset Bytes) (scopeType scopeID : Bytes) : Finset Bytes :=
  insert (scopeKey scopeType scopeID) denied

local instance : LawfulBEq Bytes := inferInstance

/-- `applyRevocationEvent`; without a value it fails. -/
def applyRevocationEvent (denied : Finset Bytes) (event : RevocationEvent) : Option (Finset Bytes) :=
  if event.errorCode ∉ permanentDenyCodes then none
  else if event.eventID = [] ∨ event.scopeType = [] ∨ event.scopeID = [] then none
  else some (applyVerifiedDeny denied event.scopeType event.scopeID)

/-- The loop at the end of `syncOnce`: it stops at the first event that fails. -/
def applyEvents (denied : Finset Bytes) : List RevocationEvent → Finset Bytes × Bool
  | [] => (denied, true)
  | event :: events =>
    match applyRevocationEvent denied event with
    | none => (denied, false)
    | some denied => applyEvents denied events

/-! ## The file -/

/-- The file of the state. -/
structure StateFile where
  content : Bytes
  regular : Bool
  /-- nobody else may read or write it -/
  owned : Bool
deriving DecidableEq

/-- How far `writeState` comes: to its end, it fails before the new file has its name, or `Sync` of
the directory fails afterwards. -/
inductive WriteOutcome where
  | done
  | notRenamed
  | notSynced
deriving DecidableEq

/-- The file `writeState` makes of a text. -/
def storedFile (text : Bytes) : StateFile := ⟨text ++ [10], true, true⟩

/-- `writeState`: the file behind it, and whether it succeeds. -/
def writeState (J : StateJson) (file : Option StateFile) (state : PersistedState)
    (outcome : WriteOutcome) : Option StateFile × Bool :=
  match J.marshal state with
  | none => (file, false)
  | some encoded =>
    if revocationStateMaxSize < encoded.length then (file, false)
    else
      match outcome with
      | .done => (some (storedFile encoded), true)
      | .notRenamed => (file, false)
      | .notSynced => (some (storedFile encoded), false)

/-- The errors of `loadState`. -/
inductive LoadError where
  | write
  | notPrivateRegular
  | malformed
  | identityOrEpoch
  | notContiguous
  | unverified
deriving DecidableEq

/-- The loop over the events in `loadState`. -/
def checkEvents (K : CASignatures) (index : ℕ) : List RevocationEvent → Except LoadError Unit
  | [] => .ok ()
  | event :: events =>
    if event.epoch ≠ add64 index 1 then .error .notContiguous
    else if ¬ verifyRevocationEvent K event then .error .unverified
    else checkEvents K (index + 1) events

/-- The state of a relay without a file. -/
def freshState (relayID : Bytes) : PersistedState where
  version := revocationStateVersion
  relayID
  appliedEpoch := 0
  events := []
  decisions := []
  updatedAt := 0

/-- `loadState`, when there is a file. -/
def readState (J : StateJson) (K : CASignatures) (relayID : Bytes) (file : StateFile) :
    Except LoadError PersistedState :=
  if file.regular = false ∨ file.content.length = 0 ∨
      revocationStateMaxSize < file.content.length ∨ file.owned = false then
    .error .notPrivateRegular
  else
    match J.unmarshal file.content with
    | none => .error .malformed
    | some state =>
      if state.version ≠ revocationStateVersion ∨ state.relayID ≠ relayID ∨
          state.appliedEpoch ≠ state.events.length then .error .identityOrEpoch
      else
        match checkEvents K 0 state.events with
        | .error reason => .error reason
        | .ok () => .ok state

/-- `loadState`: the file behind it, and the state. -/
def loadState (J : StateJson) (K : CASignatures) (relayID : Bytes) (file : Option StateFile)
    (outcome : WriteOutcome) : Option StateFile × Except LoadError PersistedState :=
  match file with
  | none =>
    let (file, written) := writeState J none (freshState relayID) outcome
    (file, if written then .ok (freshState relayID) else .error .write)
  | some content => (file, readState J K relayID content)

/-! ## Calls -/

/-- `relayRevocationControl`, with the scopes its relay denies. -/
structure RevocationControl where
  state : PersistedState
  file : Option StateFile
  currentEpoch : ℕ
  denied : Finset Bytes

/-- The errors of `syncOnce`. -/
inductive SyncError where
  /-- no request was made, or `SyncRevocations` returned an error -/
  | sync
  | epochRolledBack
  | nonContiguous (got want : ℕ)
  | unknownCode (errorCode : Bytes)
  | invalidEmpty
  | omittedEpochs
  | write
  | apply
deriving DecidableEq

/-- The check of each event of a response. -/
def checkDelta (nextEpoch : ℕ) : List RevocationEvent → Except SyncError Unit
  | [] => .ok ()
  | event :: events =>
    if event.epoch ≠ nextEpoch then .error (.nonContiguous event.epoch nextEpoch)
    else if event.errorCode ∉ permanentDenyCodes then .error (.unknownCode event.errorCode)
    else checkDelta (add64 nextEpoch 1) events

/-- What `SyncRevocations` returns for a response that is bound to the request and signed. -/
def syncRevocations (K : CASignatures) (reply : Option SyncResponse) : Except SyncError SyncResponse :=
  match reply with
  | none => .error .sync
  | some response =>
    if ∀ event ∈ response.events, verifyRevocationEvent K event then .ok response else .error .sync

/-- The checks of `syncOnce`. -/
def checkResponse (afterEpoch : ℕ) (response : SyncResponse) : Except SyncError Unit := do
  check (response.currentEpoch < afterEpoch) .epochRolledBack
  checkDelta (add64 afterEpoch 1) response.events
  check (response.events = [] ∧ response.fromEpoch ≠ afterEpoch) .invalidEmpty
  check (response.events = [] ∧ afterEpoch < response.currentEpoch) .omittedEpochs

namespace RevocationControl

/-- The state `syncOnce` proposes. -/
def proposeEvents (state : PersistedState) (events : List RevocationEvent) (now : ℤ) :
    PersistedState :=
  { state with
    events := state.events ++ events
    appliedEpoch := (events.getLast?.map RevocationEvent.epoch).getD state.appliedEpoch
    updatedAt := now }

/-- `syncOnce`: the result, and the state it wrote. -/
def syncOnce (J : StateJson) (K : CASignatures) (c : RevocationControl) (reply : Option SyncResponse)
    (outcome : WriteOutcome) (now : ℤ) :
    RevocationControl × Except SyncError Unit × Option PersistedState :=
  match syncRevocations K reply with
  | .error reason => (c, .error reason, none)
  | .ok response =>
    match checkResponse c.state.appliedEpoch response with
    | .error reason => (c, .error reason, none)
    | .ok () =>
      let proposed := proposeEvents c.state response.events now
      let (file, written) := writeState J c.file proposed outcome
      if written = false then ({ c with file }, .error .write, none)
      else
        let (denied, applied) := applyEvents c.denied response.events
        (⟨proposed, file, response.currentEpoch, denied⟩,
          if applied then .ok () else .error .apply, some proposed)

/-- The state `persistDecision` proposes. -/
def proposeDecision (state : PersistedState) (decision : DenyDecision) (now : ℤ) : PersistedState :=
  { state with decisions := state.decisions ++ [decision], updatedAt := now }

/-- `persistDecision`: the control, whether it succeeds, and the state it wrote. -/
def persistDecision (J : StateJson) (c : RevocationControl) (decision : DenyDecision)
    (outcome : WriteOutcome) (now : ℤ) : RevocationControl × Bool × Option PersistedState :=
  if c.state.decisions.any (·.decisionID = decision.decisionID) then (c, true, none)
  else
    let proposed := proposeDecision c.state decision now
    let (file, written) := writeState J c.file proposed outcome
    if written = false then ({ c with file }, false, none)
    else ({ c with state := proposed, file }, true, some proposed)

/-- The start of `ConfigureRevocationControl`, up to `syncUntilCurrent`. -/
def configure (J : StateJson) (K : CASignatures) (relayID : Bytes) (file : Option StateFile)
    (outcome : WriteOutcome) : Option RevocationControl :=
  match loadState J K relayID file outcome with
  | (_, .error _) => none
  | (file, .ok state) =>
    match applyEvents ∅ state.events with
    | (_, false) => none
    | (denied, true) =>
      if ∀ decision ∈ state.decisions, K.storedDecision decision relayID = true then
        some ⟨state, file, 0, state.decisions.foldl (fun denied decision =>
          applyVerifiedDeny denied decision.scopeType decision.scopeID) denied⟩
      else none

end RevocationControl

/-- The calls on a control. -/
inductive ControlCall where
  | syncOnce (reply : Option SyncResponse) (outcome : WriteOutcome) (now : ℤ)
  | persistDecision (decision : DenyDecision) (outcome : WriteOutcome) (now : ℤ)

/-- One call; the output is the state it wrote successfully. -/
def RevocationControl.step (J : StateJson) (K : CASignatures) (c : RevocationControl) :
    ControlCall → RevocationControl × Option PersistedState
  | .syncOnce reply outcome now =>
    let (c, _, written) := c.syncOnce J K reply outcome now
    (c, written)
  | .persistDecision decision outcome now =>
    let (c, _, written) := c.persistDecision J decision outcome now
    (c, written)

/-! ## What the state is like -/

/-- Events from a number on without a gap. -/
def Contiguous (first : ℕ) : List RevocationEvent → Prop
  | [] => True
  | event :: events => event.epoch = first ∧ Contiguous (first + 1) events

variable {first : ℕ} {text : Bytes}

theorem contiguous_append {events more : List RevocationEvent} :
    Contiguous first (events ++ more) ↔
      Contiguous first events ∧ Contiguous (first + events.length) more := by
  induction events generalizing first with
  | nil => simp [Contiguous]
  | cons event events ih =>
    rw [cons_append, Contiguous, Contiguous, ih, and_assoc, length_cons, Nat.add_assoc,
      Nat.add_comm 1]

theorem contiguous_getLast? {events : List RevocationEvent} (h : Contiguous first events) :
    (events.getLast?.map RevocationEvent.epoch).getD (first - 1) = first + events.length - 1 := by
  induction events generalizing first with
  | nil => rfl
  | cons event events ih =>
    cases events with
    | nil => simp [h.1]
    | cons next events =>
      have hrest := ih h.2
      rw [getLast?_cons_cons]
      rw [length_cons]
      cases hlast : (next :: events).getLast? with
      | none => simp at hlast
      | some last =>
        rw [hlast, map_some, getD_some] at hrest
        rw [map_some, getD_some]
        omega

/-- A state that `loadState` accepts for a relay. -/
structure PersistedState.Valid (K : CASignatures) (relayID : Bytes) (state : PersistedState) :
    Prop where
  version : state.version = revocationStateVersion
  relayID : state.relayID = relayID
  epoch : state.appliedEpoch = state.events.length
  contiguous : Contiguous 1 state.events
  verified : ∀ event ∈ state.events, verifyRevocationEvent K event
  small : state.events.length < 2 ^ 64

section

variable {J : StateJson} {K : CASignatures} {relayID : Bytes} {events : List RevocationEvent}
  {state : PersistedState} {c : RevocationControl} {file file' : Option StateFile}
  {outcome : WriteOutcome}

theorem verifyRevocationEvent.epoch_ne {event : RevocationEvent} (h : verifyRevocationEvent K event) :
    event.epoch ≠ 0 := fun hzero => h.1 (.inr (.inl hzero))

/-- A number that is not zero has not wrapped. -/
theorem succ_lt_of_add64_ne {n : ℕ} (hn : n < 2 ^ 64) (h : add64 n 1 ≠ 0) : n + 1 < 2 ^ 64 := by
  by_contra hwrap
  obtain rfl : n = 2 ^ 64 - 1 := by omega
  exact h (by decide)

/-- What the check of a response says. The induction is on the events; a number that wraps is zero,
which no verified event has. -/
theorem of_checkDelta {afterEpoch : ℕ} (hafter : afterEpoch < 2 ^ 64)
    (hverified : ∀ event ∈ events, verifyRevocationEvent K event)
    (h : checkDelta (add64 afterEpoch 1) events = .ok ()) :
    Contiguous (afterEpoch + 1) events ∧ afterEpoch + events.length < 2 ^ 64 ∧
      ∀ event ∈ events, event.errorCode ∈ permanentDenyCodes := by
  induction events generalizing afterEpoch with
  | nil => exact ⟨trivial, hafter, nofun⟩
  | cons event events ih =>
    rw [forall_mem_cons] at hverified
    rw [checkDelta] at h
    split_ifs at h with hepoch hcode
    rw [not_not] at hepoch
    have hlt := succ_lt_of_add64_ne hafter (hepoch ▸ hverified.1.epoch_ne)
    have hnext : add64 afterEpoch 1 = afterEpoch + 1 := add64_eq hlt
    rw [hnext] at h hepoch
    obtain ⟨hcontiguous, hlength, hcodes⟩ := ih hlt hverified.2 h
    refine ⟨⟨hepoch, hcontiguous⟩, ?_, forall_mem_cons.mpr ⟨hcode, hcodes⟩⟩
    rw [length_cons]
    omega

/-- What the loop of `loadState` accepts. -/
theorem checkEvents_ok_iff {index : ℕ} (hindex : index < 2 ^ 64) :
    checkEvents K index events = .ok () ↔ Contiguous (index + 1) events ∧
      (∀ event ∈ events, verifyRevocationEvent K event) ∧ index + events.length < 2 ^ 64 := by
  induction events generalizing index with
  | nil => exact iff_of_true rfl ⟨trivial, nofun, hindex⟩
  | cons event events ih =>
    rw [checkEvents, forall_mem_cons, length_cons]
    constructor
    · intro h
      split_ifs at h with hepoch hverified
      rw [not_not] at hepoch
      have hlt := succ_lt_of_add64_ne hindex (hepoch ▸ hverified.epoch_ne)
      obtain ⟨hcontiguous, hall, hlength⟩ := (ih hlt).mp h
      exact ⟨⟨hepoch.trans (add64_eq hlt), hcontiguous⟩, ⟨hverified, hall⟩, by omega⟩
    · rintro ⟨⟨hepoch, hcontiguous⟩, ⟨hverified, hall⟩, hlength⟩
      rw [add64_eq (by omega), if_neg (not_not.mpr hepoch), if_neg (not_not.mpr hverified)]
      exact (ih (by omega)).mpr ⟨hcontiguous, hall, by omega⟩

/-- Applying events adds their scopes. -/
theorem of_applyEvents {denied denied' : Finset Bytes} (h : applyEvents denied events = (denied', true)) :
    denied ⊆ denied' ∧ ∀ event ∈ events, scopeKey event.scopeType event.scopeID ∈ denied' := by
  induction events generalizing denied with
  | nil =>
    obtain rfl : denied = denied' := congrArg Prod.fst h
    exact ⟨subset_rfl, nofun⟩
  | cons event events ih =>
    rw [applyEvents] at h
    split at h
    next => cases h
    next denied₁ happly =>
    rw [applyRevocationEvent] at happly
    split_ifs at happly
    obtain rfl := some.inj happly
    obtain ⟨hsubset, hevents⟩ := ih h
    have hinsert := Finset.insert_subset_iff.mp hsubset
    exact ⟨hinsert.2, forall_mem_cons.mpr ⟨hinsert.1, hevents⟩⟩

/-- Verified events with permanent codes are all applied. -/
theorem applyEvents_succeeds (denied : Finset Bytes)
    (hverified : ∀ event ∈ events, verifyRevocationEvent K event)
    (hcodes : ∀ event ∈ events, event.errorCode ∈ permanentDenyCodes) :
    ∃ denied', applyEvents denied events = (denied', true) := by
  induction events generalizing denied with
  | nil => exact ⟨denied, rfl⟩
  | cons event events ih =>
    rw [forall_mem_cons] at hverified hcodes
    have hfields := hverified.1.1
    rw [applyEvents, applyRevocationEvent, if_neg (not_not.mpr hcodes.1), if_neg (by tauto)]
    exact ih _ hverified.2 hcodes.2

theorem of_writeState (h : writeState J file state outcome = (file', true)) :
    ∃ text, J.marshal state = some text ∧ text.length ≤ revocationStateMaxSize ∧
      file' = some (storedFile text) := by
  rw [writeState] at h
  split at h
  next => cases h
  next text hmarshal =>
    split_ifs at h with hlarge
    · cases h
    · cases outcome with
      | done => exact ⟨text, hmarshal, Nat.le_of_not_lt hlarge, (congrArg Prod.fst h).symm⟩
      | notRenamed | notSynced => cases h

/-- `loadState` reads a valid state back unless its text has the size that is just allowed. -/
theorem readState_storedFile (hJ : J.RoundTrips) (hvalid : state.Valid K relayID)
    (hmarshal : J.marshal state = some text) :
    readState J K relayID (storedFile text) = .ok state ↔ text.length < revocationStateMaxSize := by
  have hlength : (storedFile text).content.length = text.length + 1 := length_append
  rw [readState]
  constructor
  · intro h
    by_contra hlarge
    rw [if_pos (.inr (.inr (.inl (by omega))))] at h
    cases h
  · intro hsmall
    have hunmarshal : J.unmarshal (storedFile text).content = some state := hJ state text hmarshal
    have hevents : checkEvents K 0 state.events = .ok () :=
      (checkEvents_ok_iff (by norm_num)).mpr
        ⟨hvalid.contiguous, hvalid.verified, (Nat.zero_add _).symm ▸ hvalid.small⟩
    rw [if_neg, hunmarshal]
    · dsimp only
      rw [if_neg, hevents]
      rw [not_or, not_or]
      exact ⟨not_not.mpr hvalid.version, not_not.mpr hvalid.relayID, not_not.mpr hvalid.epoch⟩
    · rw [not_or, not_or, not_or]
      exact ⟨nofun, by omega, by omega, nofun⟩

theorem valid_of_loadState
    (h : loadState J K relayID file outcome = (file', .ok state)) : state.Valid K relayID := by
  cases file with
  | none =>
    have hstate := congrArg Prod.snd h
    simp only [loadState] at hstate
    split_ifs at hstate
    rw [← Except.ok.inj hstate]
    exact ⟨rfl, rfl, rfl, trivial, nofun, by norm_num [freshState]⟩
  | some content =>
    have hstate : readState J K relayID content = .ok state := congrArg Prod.snd h
    rw [readState] at hstate
    split_ifs at hstate with hbad
    split at hstate
    next => cases hstate
    next other _ =>
      split_ifs at hstate with hidentity
      split at hstate
      next => cases hstate
      next hevents =>
        obtain rfl := Except.ok.inj hstate
        obtain ⟨hcontiguous, hverified, hsmall⟩ := (checkEvents_ok_iff (by norm_num)).mp hevents
        rw [not_or, not_or, not_not, not_not, not_not] at hidentity
        exact ⟨hidentity.1, hidentity.2.1, hidentity.2.2, hcontiguous, hverified,
          by rwa [Nat.zero_add] at hsmall⟩

namespace RevocationControl

/-- The state is valid and all its events are applied. -/
structure Inv (K : CASignatures) (relayID : Bytes) (c : RevocationControl) : Prop where
  valid : c.state.Valid K relayID
  applied : ∀ event ∈ c.state.events, scopeKey event.scopeType event.scopeID ∈ c.denied

theorem inv_configure (h : configure J K relayID file outcome = some c) : c.Inv K relayID := by
  rw [configure] at h
  split at h
  next => cases h
  next file' state hload =>
    split at h
    next => cases h
    next denied happly =>
      split_ifs at h
      obtain rfl := some.inj h
      have hgrows : ∀ (decisions : List DenyDecision) (denied : Finset Bytes), denied ⊆
          decisions.foldl (fun denied decision =>
            applyVerifiedDeny denied decision.scopeType decision.scopeID) denied := by
        intro decisions
        induction decisions with
        | nil => exact fun _ => subset_rfl
        | cons decision decisions ih =>
          exact fun denied => (Finset.subset_insert _ denied).trans (ih _)
      exact ⟨valid_of_loadState hload,
        fun event hevent => hgrows _ _ ((of_applyEvents happly).2 event hevent)⟩

theorem valid_proposeEvents (hvalid : state.Valid K relayID) (now : ℤ)
    (hverified : ∀ event ∈ events, verifyRevocationEvent K event)
    (hdelta : checkDelta (add64 state.appliedEpoch 1) events = .ok ()) :
    (proposeEvents state events now).Valid K relayID := by
  have hafter : state.appliedEpoch < 2 ^ 64 := hvalid.epoch ▸ hvalid.small
  obtain ⟨hcontiguous, hlength, -⟩ := of_checkDelta hafter hverified hdelta
  rw [hvalid.epoch] at hcontiguous hlength
  refine ⟨hvalid.version, hvalid.relayID, ?_, ?_, ?_, ?_⟩
  · have hlast := contiguous_getLast? hcontiguous
    rw [proposeEvents]
    dsimp only
    rw [hvalid.epoch, length_append]
    rw [Nat.add_sub_cancel] at hlast
    omega
  · refine contiguous_append.mpr ⟨hvalid.contiguous, ?_⟩
    rw [Nat.add_comm]
    exact hcontiguous
  · exact forall_mem_append.mpr ⟨hvalid.verified, hverified⟩
  · rw [proposeEvents, length_append]
    exact hlength

theorem Inv.step (h : c.Inv K relayID) (call : ControlCall) :
    (c.step J K call).1.Inv K relayID ∧ ∀ state ∈ (c.step J K call).2,
      state.Valid K relayID ∧ ∃ text, J.marshal state = some text ∧
        (c.step J K call).1.file = some (storedFile text) := by
  cases call with
  | syncOnce reply outcome now =>
    simp only [RevocationControl.step, syncOnce]
    split
    next => exact ⟨h, by rintro _ ⟨⟩⟩
    next response hsync =>
      split
      next => exact ⟨h, by rintro _ ⟨⟩⟩
      next hresponse =>
        -- the client has verified every event of the response
        have hverified : ∀ event ∈ response.events, verifyRevocationEvent K event := by
          cases reply with
          | none => cases hsync
          | some other =>
            rw [syncRevocations] at hsync
            split_ifs at hsync with hall
            rw [← Except.ok.inj hsync]
            exact hall
        have hdelta : checkDelta (add64 c.state.appliedEpoch 1) response.events = .ok () := by
          simp only [checkResponse, bind_ok_iff, exists_unit_iff] at hresponse
          exact hresponse.2.1
        have hafter : c.state.appliedEpoch < 2 ^ 64 := h.valid.epoch ▸ h.valid.small
        obtain ⟨-, -, hcodes⟩ := of_checkDelta hafter hverified hdelta
        have hproposed := valid_proposeEvents h.valid now hverified hdelta
        obtain ⟨denied', happly⟩ := applyEvents_succeeds c.denied hverified hcodes
        rw [happly]
        -- a failed write leaves the state as it was
        by_cases hwritten : (writeState J c.file (proposeEvents c.state response.events now)
            outcome).2 = false
        · rw [if_pos hwritten]
          exact ⟨⟨h.valid, h.applied⟩, by rintro _ ⟨⟩⟩
        · rw [if_neg hwritten]
          obtain ⟨text, hmarshal, -, hfile⟩ :=
            of_writeState (Prod.ext rfl (Bool.eq_true_of_not_eq_false hwritten))
          obtain ⟨hsubset, hevents⟩ := of_applyEvents happly
          refine ⟨⟨hproposed, ?_⟩, ?_⟩
          · refine forall_mem_append.mpr ⟨fun event hevent => ?_, hevents⟩
            exact hsubset (h.applied event hevent)
          · rintro state hstate
            obtain rfl := some.inj hstate
            exact ⟨hproposed, text, hmarshal, hfile⟩
  | persistDecision decision outcome now =>
    simp only [RevocationControl.step, persistDecision]
    split_ifs with hknown hwritten
    · exact ⟨h, by rintro _ ⟨⟩⟩
    · exact ⟨⟨h.valid, h.applied⟩, by rintro _ ⟨⟩⟩
    · obtain ⟨text, hmarshal, -, hfile⟩ :=
        of_writeState (Prod.ext rfl (Bool.eq_true_of_not_eq_false hwritten))
      have hproposed : (proposeDecision c.state decision now).Valid K relayID :=
        { h.valid with }
      refine ⟨⟨hproposed, h.applied⟩, ?_⟩
      rintro state hstate
      obtain rfl := some.inj hstate
      exact ⟨hproposed, text, hmarshal, hfile⟩

theorem inv_run (h : c.Inv K relayID) (calls : List ControlCall) :
    (runSteps (RevocationControl.step J K) c calls).1.Inv K relayID :=
  runSteps_invariant h (fun _ call h => (h.step call).1) calls

end RevocationControl

end

namespace RevocationControl

/-- Behind any calls the stored events have the numbers `1..n` and all of them are applied. A state
that the next call writes successfully is read back if and only if its text is shorter than
`revocationStateMaxSize`. -/
theorem run_state_gapless (J : StateJson) (K : CASignatures) (relayID : Bytes) (hJ : J.RoundTrips)
    (file : Option StateFile) (outcome : WriteOutcome) (c : RevocationControl)
    (hstart : configure J K relayID file outcome = some c) (calls : List ControlCall) :
    let c' := (runSteps (RevocationControl.step J K) c calls).1
    c'.state.appliedEpoch = c'.state.events.length ∧ Contiguous 1 c'.state.events ∧
      (∀ event ∈ c'.state.events, scopeKey event.scopeType event.scopeID ∈ c'.denied) ∧
      ∀ call state, (c'.step J K call).2 = some state → ∃ text, J.marshal state = some text ∧
        ∀ outcome, (loadState J K relayID (c'.step J K call).1.file outcome).2 = .ok state ↔
          text.length < revocationStateMaxSize := by
  intro c'
  have h : c'.Inv K relayID := inv_run (inv_configure hstart) calls
  refine ⟨h.valid.epoch, h.valid.contiguous, h.applied, fun call state hwrites => ?_⟩
  obtain ⟨hvalid, text, hmarshal, hfile⟩ := (h.step call).2 state hwrites
  refine ⟨text, hmarshal, fun outcome => ?_⟩
  rw [hfile]
  exact readState_storedFile hJ hvalid hmarshal

/-- Signatures that are all valid. -/
def sampleSignatures : CASignatures := ⟨fun _ => true, fun _ _ => true⟩

def sampleDecision : DenyDecision :=
  ⟨[1], utf8 "node_revoked", utf8 "node", [9], 0, 0, [7], [], 0, []⟩

/-- The state of relay `[7]` with a decision. -/
def sampleState : PersistedState := proposeDecision (freshState [7]) sampleDecision 5

/-- A codec that knows the fresh state and the one with a decision, which has a given text. -/
def sampleStateJson (text : Bytes) : StateJson where
  marshal state :=
    if state = freshState [7] then some [1] else if state = sampleState then some text else none
  unmarshal content := if content = [1, 10] then some (freshState [7]) else some sampleState

theorem roundTrips_sampleStateJson (htext : text ≠ [1]) : (sampleStateJson text).RoundTrips := by
  intro state text' hmarshal
  simp only [sampleStateJson] at hmarshal ⊢
  split_ifs at hmarshal with hfresh hsample
  · rw [← some.inj hmarshal, hfresh]
    rfl
  · rw [← some.inj hmarshal, hsample, if_neg]
    intro heq
    exact htext (append_cancel_right heq)

/-- The control of a relay without a file. -/
def sampleControl : RevocationControl := ⟨freshState [7], some (storedFile [1]), 0, ∅⟩

theorem configure_sampleStateJson (text : Bytes) :
    configure (sampleStateJson text) sampleSignatures [7] none .done = some sampleControl := rfl

theorem run_state_gapless_short :
    (loadState (sampleStateJson [2]) sampleSignatures [7]
      (sampleControl.step (sampleStateJson [2]) sampleSignatures
        (.persistDecision sampleDecision .done 5)).1.file .done).2 = .ok sampleState := by
  obtain ⟨text, hmarshal, hreads⟩ := (run_state_gapless (sampleStateJson [2]) sampleSignatures [7]
    (roundTrips_sampleStateJson (by decide)) none .done sampleControl (configure_sampleStateJson _)
    []).2.2.2 (.persistDecision sampleDecision .done 5) sampleState rfl
  obtain rfl : [2] = text := some.inj hmarshal
  exact (hreads .done).mpr (by decide)

theorem writeState_done (hlength : text.length ≤ revocationStateMaxSize) (file : Option StateFile) :
    writeState (sampleStateJson text) file sampleState .done = (some (storedFile text), true) := by
  exact if_neg (Nat.not_lt.mpr hlength)

theorem loadState_large {J : StateJson} {K : CASignatures} {relayID : Bytes}
    (hlength : revocationStateMaxSize ≤ text.length) (outcome : WriteOutcome) :
    loadState J K relayID (some (storedFile text)) outcome =
      (some (storedFile text), .error .notPrivateRegular) := by
  have hcontent : (storedFile text).content.length = text.length + 1 := length_append
  rw [loadState, readState, if_pos (.inr (.inr (.inl (by omega))))]

theorem unreadable_of_length (hlength : text.length = revocationStateMaxSize) :
    let J := sampleStateJson text
    J.RoundTrips ∧ configure J sampleSignatures [7] none .done = some sampleControl ∧
      ∃ c, sampleControl.step J sampleSignatures (.persistDecision sampleDecision .done 5) =
          (c, some sampleState) ∧ configure J sampleSignatures [7] c.file .done = none := by
  have htext : text ≠ [1] := by
    rintro rfl
    exact absurd hlength (by decide)
  refine ⟨roundTrips_sampleStateJson htext, configure_sampleStateJson text,
    ⟨sampleState, some (storedFile text), 0, ∅⟩, ?_, ?_⟩
  · have hproposed : proposeDecision sampleControl.state sampleDecision 5 = sampleState := rfl
    simp only [RevocationControl.step, persistDecision]
    rw [hproposed, writeState_done hlength.le]
    rfl
  · rw [configure, loadState_large hlength.ge]

/-- The text of a state has exactly the size that `writeState` allows. With the line break the file
is one byte too large for `loadState`, and the relay does not start again. -/
theorem full_state_unreadable :
    let J := sampleStateJson (List.replicate revocationStateMaxSize 0)
    J.RoundTrips ∧ configure J sampleSignatures [7] none .done = some sampleControl ∧
      ∃ c, sampleControl.step J sampleSignatures (.persistDecision sampleDecision .done 5) =
          (c, some sampleState) ∧ configure J sampleSignatures [7] c.file .done = none :=
  unreadable_of_length length_replicate

end RevocationControl

end NatP2P.RelayNode
