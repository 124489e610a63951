import NatP2P.E2E.ReplayWindow
import NatP2P.Network.Message

/-!
# Receiving from several legs

Reference: `networkFrameWork/DualStream.go` and `network/E2ERecord.go`.

A `DualStream` has one inbox for all its legs. Each leg has a pump that puts whatever the leg
delivers into the inbox, so hedged, repeated, late and forged records are all messages that arrive.
`NextMessage` takes a message, opens it with the suite of the connection and asks the replay window;
it may run in several goroutines at once, which interleave between these steps.
-/

namespace NatP2P.E2E

open List Network

/-! ## Opening a message -/

/-- An error of a suite. -/
inductive SuiteError where
  | rejected (code : ℕ)
deriving DecidableEq

/-- `EncrypSuite` with the interface `OpenMessagePayload` finds on it. The identity suites return
the plaintext, the message id and whether the record was authenticated. -/
inductive EncrypSuite where
  | plain (decrypt : Bytes → Except SuiteError Bytes)
  | identity (decrypt : Bytes → Except SuiteError (Bytes × Bytes × Bool))
  | identityAAD (decrypt : Bytes → Bytes → Except SuiteError (Bytes × Bytes × Bool))

/-- The errors of `E2ERecord.go`. -/
inductive RecordError where
  | fieldTooLong
  | recordRequired
  | suite (reason : SuiteError)
deriving DecidableEq

/-- A text with its length in front of it. -/
def lengthPrefixed (text : Bytes) : Bytes := putBE 2 text.length ++ text

/-- `CanonicalE2EAAD`. -/
def canonicalE2EAAD (header : Header) : Except RecordError Bytes := do
  check (header.routeName.length > 65535 ∨ header.nodeId.length > 65535 ∨
    header.connectionId.length > 65535) .fieldTooLong
  return utf8 "BNFS/E2E-MESSAGE-AAD/V3" ++ [1] ++ lengthPrefixed header.routeName ++
    lengthPrefixed header.nodeId ++ lengthPrefixed header.connectionId ++
    header.billingSessionID.val ++ putBE 8 header.billingSequence ++ putBE 8 header.billingBytes

/-- An opened message, with its id if it was authenticated. -/
structure Opened where
  message : Message
  messageID : Option Bytes

/-- The answer of an identity suite. -/
def openRecord (message : Message) (answer : Except SuiteError (Bytes × Bytes × Bool)) :
    Except RecordError Opened := do
  let (plaintext, messageID, authenticated) ← answer.mapError .suite
  check (¬ authenticated) .recordRequired
  return { message := { message with payload := plaintext }, messageID := some messageID }

/-- `OpenMessagePayload`. -/
def openMessagePayload (suite : EncrypSuite) (message : Message) : Except RecordError Opened := do
  let aad ← canonicalE2EAAD message.header
  match suite with
  | .identityAAD decrypt => openRecord message (decrypt message.payload aad)
  | .identity decrypt => openRecord message (decrypt message.payload)
  | .plain decrypt => do
    let plaintext ← (decrypt message.payload).mapError .suite
    return { message := { message with payload := plaintext }, messageID := none }

/-! ## The stream -/

/-- Where a call of `NextMessage` is when it holds a message. -/
inductive Receiving where
  /-- It has taken a message out of the inbox. -/
  | taken (message : Message)
  /-- It has opened an authenticated record and is about to ask the replay window. -/
  | opened (message : Message) (messageID : Bytes)

/-- The fields of `DualStream` that receiving uses, and the calls of `NextMessage` in progress. -/
structure DualStream where
  crypto : Option EncrypSuite
  inbox : List Message
  e2eReplay : ReplayWindow
  closed : Bool
  calls : ℕ → Option Receiving

namespace DualStream

/-- A new stream. -/
def new : DualStream where
  crypto := none
  inbox := []
  e2eReplay := .zero
  closed := false
  calls := fun _ => none

/-- What the goroutines do. -/
inductive Event where
  /-- The pump of a leg puts a message into the inbox. -/
  | arrive (message : Message)
  /-- A call of `NextMessage` takes the next message. -/
  | take (call : ℕ)
  /-- It reads the suite and opens the message. -/
  | unsealed (call : ℕ)
  /-- It asks the replay window. -/
  | record (call : ℕ)
  /-- `SetCryptoSuite`. -/
  | setCryptoSuite (suite : Option EncrypSuite)
  /-- `Close`. -/
  | close

/-- Why `NextMessage` failed. -/
inductive NextError where
  | recordRejected (reason : RecordError)
  | replayRejected (reason : ReplayError)

/-- What a step makes `NextMessage` return. -/
inductive Output where
  | nothing
  | returned (message : Message) (messageID : Option Bytes)
  | failed (reason : NextError)

/-- The id of an authenticated message that was returned. -/
def Output.authenticated : Output → Option Bytes
  | .returned _ messageID => messageID
  | _ => none

/-- The call is over, or back at the inbox. -/
def finish (d : DualStream) (call : ℕ) : DualStream :=
  { d with calls := Function.update d.calls call none }

/-- The part of `NextMessage` that opens a message. -/
def openTaken (d : DualStream) (call : ℕ) (message : Message) : DualStream × Output :=
  match d.crypto with
  | none => (d.finish call, .returned message none)
  | some suite =>
    match openMessagePayload suite message with
    | .error reason => ({ d.finish call with closed := true }, .failed (.recordRejected reason))
    | .ok ⟨message, none⟩ => (d.finish call, .returned message none)
    | .ok ⟨message, some messageID⟩ =>
      ({ d with calls := Function.update d.calls call (some (.opened message messageID)) }, .nothing)

/-- `seenOrRecordE2EMessage` and what `NextMessage` makes of the answer: a duplicate sends it back
to the inbox. -/
def record (d : DualStream) (call : ℕ) (message : Message) (messageID : Bytes) :
    DualStream × Output :=
  let observed := d.e2eReplay.observe messageID
  let next := { d.finish call with e2eReplay := observed.2 }
  match observed.1 with
  | .error reason => ({ next with closed := true }, .failed (.replayRejected reason))
  | .ok true => (next, .nothing)
  | .ok false => (next, .returned message (some messageID))

/-- One step of a goroutine. A step that is not possible does nothing. -/
def step (d : DualStream) : Event → DualStream × Output
  | .arrive message => ({ d with inbox := d.inbox ++ [message] }, .nothing)
  | .take call =>
    match d.calls call, d.inbox with
    | none, message :: inbox =>
      ({ d with inbox, calls := Function.update d.calls call (some (.taken message)) }, .nothing)
    | _, _ => (d, .nothing)
  | .unsealed call =>
    match d.calls call with
    | some (.taken message) => d.openTaken call message
    | _ => (d, .nothing)
  | .record call =>
    match d.calls call with
    | some (.opened message messageID) => d.record call message messageID
    | _ => (d, .nothing)
  | .setCryptoSuite suite =>
    match d.crypto, suite with
    | some _, _ => ({ d with closed := true }, .nothing)
    | none, none => (d, .nothing)
    | none, some suite => ({ d with crypto := some suite }, .nothing)
  | .close => ({ d with closed := true }, .nothing)

/-- The ids of the authenticated messages a run returned, in order. -/
def delivered (events : List Event) : List Bytes :=
  (runSteps step new events).2.filterMap Output.authenticated

/-! ## At most once -/

/-- What a step does to the replay window and to the authenticated messages: nothing, or it observes
an id and returns its message exactly when the id is fresh. -/
inductive Observes (d d' : DualStream) (output : Output) : Prop
  | nothing (hwindow : d'.e2eReplay = d.e2eReplay) (houtput : output.authenticated = none)
  | observes (messageID : Bytes) (duplicate : Bool)
      (hok : (d.e2eReplay.observe messageID).1 = .ok duplicate)
      (hwindow : d'.e2eReplay = (d.e2eReplay.observe messageID).2)
      (houtput : output.authenticated = if duplicate then none else some messageID)

theorem record_observes (d : DualStream) (call : ℕ) (message : Message) (messageID : Bytes) :
    Observes d (d.record call message messageID).1 (d.record call message messageID).2 := by
  rcases hobserve : d.e2eReplay.observe messageID with ⟨reason | duplicate, window⟩
  · have hsame : window = d.e2eReplay := by
      rcases @ReplayWindow.observe_cases d.e2eReplay messageID with ⟨err, herr⟩ | hrecorded
      · rw [hobserve] at herr
        exact congrArg Prod.snd herr
      · rw [hobserve] at hrecorded
        cases hrecorded
    simp only [record, hobserve]
    exact .nothing hsame rfl
  · simp only [record, hobserve]
    cases duplicate with
    | false => exact .observes messageID false (by rw [hobserve]) (by rw [hobserve]) rfl
    | true => exact .observes messageID true (by rw [hobserve]) (by rw [hobserve]) rfl

/-- Opening a message returns nothing authenticated; that is left to the replay window. -/
theorem openTaken_observes (d : DualStream) (call : ℕ) (message : Message) :
    Observes d (d.openTaken call message).1 (d.openTaken call message).2 := by
  unfold openTaken
  rcases d.crypto with _ | suite
  · exact .nothing rfl rfl
  · simp only
    rcases openMessagePayload suite message with reason | ⟨opened, _ | messageID⟩
    all_goals exact .nothing rfl rfl

theorem step_observes (d : DualStream) (event : Event) :
    Observes d (d.step event).1 (d.step event).2 := by
  cases event with
  | arrive | close => exact .nothing rfl rfl
  | take | setCryptoSuite =>
    simp only [step]
    split
    all_goals exact .nothing rfl rfl
  | unsealed call =>
    simp only [step]
    split
    · exact openTaken_observes d call _
    · exact .nothing rfl rfl
  | record call =>
    simp only [step]
    split
    · exact record_observes d call _ _
    · exact .nothing rfl rfl

/-- The window has observed the sequence of every message that was returned, and no sequence was
returned twice. -/
def Recorded (d : DualStream) (outputs : List Output) : Prop :=
  ∃ observed, Tracks d.e2eReplay observed ∧
    (∀ messageID ∈ outputs.filterMap Output.authenticated, messageSequence messageID ∈ observed) ∧
    ((outputs.filterMap Output.authenticated).map messageSequence).Nodup

theorem Recorded.step {d : DualStream} {outputs : List Output} (event : Event)
    (h : Recorded d outputs) : Recorded (d.step event).1 (outputs ++ [(d.step event).2]) := by
  obtain ⟨observed, htracks, hmem, hnodup⟩ := h
  unfold Recorded
  rw [filterMap_append]
  rcases step_observes d event with ⟨hwindow, houtput⟩ | ⟨messageID, duplicate, hok, hwindow, houtput⟩
  · rw [hwindow, filterMap_cons_none houtput, filterMap_nil, append_nil]
    exact ⟨observed, htracks, hmem, hnodup⟩
  · obtain ⟨hfresh, hnext⟩ := htracks.observe hok
    refine ⟨_, hwindow ▸ hnext, ?_⟩
    cases duplicate with
    | true =>
      rw [filterMap_cons_none houtput, filterMap_nil, append_nil]
      exact ⟨fun other hother => Finset.mem_insert_of_mem (hmem other hother), hnodup⟩
    | false =>
      -- a fresh sequence is none of those returned so far
      have hnew : messageSequence messageID ∉ observed := (hfresh.mp rfl).1
      rw [filterMap_cons_some houtput, filterMap_nil]
      constructor
      · exact forall_mem_append.mpr ⟨fun other hother => Finset.mem_insert_of_mem (hmem other hother),
          forall_mem_singleton.mpr (Finset.mem_insert_self ..)⟩
      · rw [map_append, map_singleton, ← concat_eq_append]
        refine List.Nodup.concat ?_ hnodup
        intro hagain
        obtain ⟨other, hother, heq⟩ := mem_map.mp hagain
        exact hnew (heq ▸ hmem other hother)

theorem nodup_delivered (events : List Event) : ((delivered events).map messageSequence).Nodup := by
  have hstart : Recorded new [] := ⟨∅, Tracks.zero, by simp, by simp⟩
  have hrun := @runSteps_induction _ _ _ step (fun _ _ => True) Recorded
    (fun state history event _ h => h.step event) new [] events
    (along_of_forall fun _ _ _ => trivial) hstart
  obtain ⟨-, -, -, hnodup⟩ := hrun
  exact hnodup

/-- An id of the session of zeros. -/
def sampleID (sequence : ℕ) : Bytes := encodeMessageID Bytes32.zero 1 sequence

theorem validID_sampleID {sequence : ℕ} (hpos : sequence ≠ 0) (hlt : sequence < 2 ^ 64) :
    ValidID Bytes32.zero (sampleID sequence) where
  length := length_encodeMessageID
  session := messageSession_encode
  epoch := by rw [sampleID, messageEpoch_encode (by decide)]; decide
  sequence := by rwa [sampleID, messageSequence_encode hlt]

end DualStream

/-- Whatever arrives on the legs and however the calls of `NextMessage` interleave, no authenticated
message is returned twice. After any ids of a session, in any order, the replay window reports an id
of the session as fresh exactly when its sequence is new and less than 65536 below every sequence so
far. -/
theorem delivered_at_most_once :
    (∀ events, ((DualStream.delivered events).map fun messageID =>
      (messageSession messageID, messageEpoch messageID, messageSequence messageID)).Nodup) ∧
    ∀ (sessionID : Bytes32) (earlier : List Bytes) (messageID : Bytes),
      (∀ other ∈ earlier, ValidID sessionID other) → ValidID sessionID messageID →
      ∃ duplicate, ((observeAll earlier).1.observe messageID).1 = .ok duplicate ∧
        (duplicate = false ↔
          (∀ other ∈ earlier, messageSequence other ≠ messageSequence messageID) ∧
            ∀ other ∈ earlier, messageSequence other < messageSequence messageID + 65536) := by
  refine ⟨fun events => ?_, fun sessionID earlier messageID hearlier h =>
    observe_fresh_iff hearlier h⟩
  -- the sequence alone tells the messages apart
  refine List.Nodup.of_map (fun key : Bytes × ℕ × ℕ => key.2.2) ?_
  rw [map_map]
  exact DualStream.nodup_delivered events

/-- After 70000, sequence 5 is too old and 4465 is the first that is not. -/
theorem delivered_at_most_once_sample :
    (∃ duplicate, ((observeAll [DualStream.sampleID 70000]).1.observe
        (DualStream.sampleID 5)).1 = .ok duplicate ∧ duplicate = true) ∧
      ∃ duplicate, ((observeAll [DualStream.sampleID 70000]).1.observe
        (DualStream.sampleID 4465)).1 = .ok duplicate ∧ duplicate = false := by
  have hearlier : ∀ other ∈ [DualStream.sampleID 70000], ValidID Bytes32.zero other := by
    intro other hother
    rw [mem_singleton.mp hother]
    exact DualStream.validID_sampleID (by decide) (by decide)
  have hsequence : messageSequence (DualStream.sampleID 70000) = 70000 :=
    messageSequence_encode (by decide)
  obtain ⟨old, hold, holdIff⟩ := delivered_at_most_once.2 Bytes32.zero _ (DualStream.sampleID 5)
    hearlier (DualStream.validID_sampleID (by decide) (by decide))
  obtain ⟨new, hnew, hnewIff⟩ := delivered_at_most_once.2 Bytes32.zero _
    (DualStream.sampleID 4465) hearlier (DualStream.validID_sampleID (by decide) (by decide))
  rw [show messageSequence (DualStream.sampleID 5) = 5 from messageSequence_encode (by decide)]
    at holdIff
  rw [show messageSequence (DualStream.sampleID 4465) = 4465 from
    messageSequence_encode (by decide)] at hnewIff
  simp only [forall_mem_singleton, hsequence] at holdIff hnewIff
  exact ⟨⟨old, hold, by simpa using holdIff⟩, ⟨new, hnew, by simpa using hnewIff⟩⟩

end NatP2P.E2E
