import NatP2P.Common.Slots
import NatP2P.Network.Frame

/-!
# Frame sizes

Reference: `networkFrameWork/TcpStream.go` (`requestFrameSizeChange` and the handlers of
`FrameTypeFrameSizeChange`).

A stream asks its peer for another frame size and waits three seconds for the answer. Question and
answer are frames of one type. `handleFrame` takes a frame with `SeqId` 0 for a question; a consent
has `SeqId` 1, and a refusal has `SeqId` 0.

Every frame that was ever sent stays in `sent` with its cause: the call that sent it, or the frame
that was answered with it. A frame arrives at most once, in any order.
-/

namespace NatP2P.Network.FrameSizeChange

open List

/-- `FrameTypeFrameSizeChange`. -/
def frameTypeFrameSizeChange : UInt8 := 3

/-- The two streams of a connection. -/
inductive Side where
  | client
  | server
deriving DecidableEq

/-- The peer of a stream. -/
def Side.peer : Side → Side
  | .client => .server
  | .server => .client

/-- Why a call returned. -/
inductive Reason where
  | answer
  | timeout
  | writeFailed
  | closed
deriving DecidableEq

/-- Where a call of `requestFrameSizeChange` is. -/
inductive Phase where
  /-- In front of `writeFrame`. -/
  | writing
  /-- In the `select`. -/
  | waiting
  /-- In front of the last critical section, which removes the channel. -/
  | cleaning (result : Bool) (reason : Reason)
  | returned (result : Bool) (reason : Reason)
deriving DecidableEq

/-- The call ended, or is about to end, because the three seconds were over. -/
def Phase.timedOut : Phase → Bool
  | .cleaning _ .timeout => true
  | .returned _ .timeout => true
  | _ => false

/-- A call of `requestFrameSizeChange`. `answer` is what is in its channel. -/
structure Request where
  newSize : ℤ
  answer : Option Bool
  phase : Phase
deriving DecidableEq

/-- The call is behind its write. -/
def Request.wrote (r : Request) : Bool := r.phase ≠ .writing

/-- The fields of `TcpStream` that the negotiation uses. `frameSizeChangeAcks` maps a size to the
call whose channel it is. -/
structure Endpoint where
  connectionId : Bytes
  frameSizeAdaptor : Option ℤ
  frameSizeChangeAcks : GoMap ℤ ℕ
  requests : List Request

/-- Why a frame was sent. -/
inductive Cause where
  | request (call : ℕ)
  | response (frame : ℕ) (confirmed : Bool)
deriving DecidableEq

/-- A frame that was sent. -/
structure Sent where
  sender : Side
  frame : Frame
  cause : Cause
  arrived : Bool
deriving DecidableEq

/-- The frame was sent by a call. -/
def Sent.isRequest (s : Sent) : Bool :=
  match s.cause with
  | .request _ => true
  | .response _ _ => false

variable {m : Sent}

theorem Sent.exists_request (h : m.isRequest) : ∃ n, m.cause = .request n := by
  unfold Sent.isRequest at h
  split at h
  · next n hn => exact ⟨n, hn⟩
  · cases h

/-- Two streams and the frames between them. -/
structure Negotiation where
  endpoint : Side → Endpoint
  sent : List Sent

/-- A frame of the negotiation. -/
def sizeFrame (connectionId : Bytes) (seqId : ℕ) (newSize : ℤ) : Frame where
  messageId := 0
  seqId
  totalFrames := 1
  ackId := (newSize % 2 ^ 64).toNat
  frameType := frameTypeFrameSizeChange
  connectionId
  payload := []

/-- `int(frame.AckId)`. -/
def sizeOf (frame : Frame) : ℤ := wrapInt frame.ackId

namespace Negotiation

/-- Two new streams. -/
def new (client server : Endpoint) : Negotiation where
  endpoint
    | .client => { client with frameSizeChangeAcks := .empty, requests := [] }
    | .server => { server with frameSizeChangeAcks := .empty, requests := [] }
  sent := []

/-- A stream changes. -/
def put (s : Negotiation) (side : Side) (e : Endpoint) : Negotiation :=
  { s with endpoint := Function.update s.endpoint side e }

/-- Call `n` of a stream changes. -/
def putRequest (s : Negotiation) (side : Side) (n : ℕ) (r : Request) : Negotiation :=
  s.put side { s.endpoint side with requests := (s.endpoint side).requests.set n r }

/-- A frame goes out. -/
def send (s : Negotiation) (side : Side) (frame : Frame) (cause : Cause) : Negotiation :=
  { s with sent := s.sent ++ [⟨side, frame, cause, false⟩] }

/-- The first critical section of `requestFrameSizeChange`. -/
def request (s : Negotiation) (side : Side) (newSize : ℤ) : Negotiation :=
  let e := s.endpoint side
  s.put side { e with
    frameSizeChangeAcks := e.frameSizeChangeAcks.set newSize e.requests.length
    requests := e.requests ++ [⟨newSize, none, .writing⟩] }

/-- `writeFrame` of `requestFrameSizeChange`. -/
def write (s : Negotiation) (side : Side) (n : ℕ) (ok : Bool) : Negotiation :=
  match (s.endpoint side).requests[n]? with
  | none => s
  | some r =>
    if r.phase ≠ .writing then s
    else if ok then
      (s.putRequest side n { r with phase := .waiting }).send side
        (sizeFrame (s.endpoint side).connectionId 0 r.newSize) (.request n)
    else s.putRequest side n { r with phase := .cleaning false .writeFailed }

/-- `<-ackCh`. -/
def receive (s : Negotiation) (side : Side) (n : ℕ) : Negotiation :=
  match (s.endpoint side).requests[n]? with
  | none => s
  | some r =>
    match r.phase, r.answer with
    | .waiting, some confirmed =>
      s.putRequest side n { r with answer := none, phase := .cleaning confirmed .answer }
    | _, _ => s

/-- `<-time.After(3 * time.Second)`. -/
def timeout (s : Negotiation) (side : Side) (n : ℕ) : Negotiation :=
  match (s.endpoint side).requests[n]? with
  | none => s
  | some r =>
    if r.phase = .waiting then s.putRequest side n { r with phase := .cleaning false .timeout }
    else s

/-- `<-t.streamCtx.Done()`. -/
def closed (s : Negotiation) (side : Side) (n : ℕ) : Negotiation :=
  match (s.endpoint side).requests[n]? with
  | none => s
  | some r =>
    if r.phase = .waiting then s.putRequest side n { r with phase := .returned false .closed }
    else s

/-- `delete(t.frameSizeChangeAcks, newSize)` and the return behind it. -/
def cleanUp (s : Negotiation) (side : Side) (n : ℕ) : Negotiation :=
  match (s.endpoint side).requests[n]? with
  | none => s
  | some r =>
    match r.phase with
    | .cleaning result reason =>
      let s := s.putRequest side n { r with phase := .returned result reason }
      s.put side { s.endpoint side with
        frameSizeChangeAcks := (s.endpoint side).frameSizeChangeAcks.delete r.newSize }
    | _ => s

/-- `sendFrameSizeChangeAck`, as an answer to frame `i`. -/
def sendFrameSizeChangeAck (s : Negotiation) (side : Side) (i : ℕ) (newSize : ℤ)
    (confirmed writeOk : Bool) : Negotiation :=
  if writeOk then
    s.send side (sizeFrame (s.endpoint side).connectionId (if confirmed then 1 else 0) newSize)
      (.response i confirmed)
  else s

/-- `handleFrameSizeChangeRequest` for frame `i`. -/
def handleFrameSizeChangeRequest (s : Negotiation) (side : Side) (i : ℕ) (frame : Frame)
    (writeOk : Bool) : Negotiation :=
  let newSize := sizeOf frame
  if newSize < 500 ∨ newSize > 2800 then s.sendFrameSizeChangeAck side i newSize false writeOk
  else
    let s := s.sendFrameSizeChangeAck side i newSize true writeOk
    if writeOk then
      s.put side { s.endpoint side with
        frameSizeAdaptor := (s.endpoint side).frameSizeAdaptor.map fun _ => newSize }
    else s

/-- `handleFrameSizeChangeAck`. The channel has room for one answer. -/
def handleFrameSizeChangeAck (s : Negotiation) (side : Side) (frame : Frame) : Negotiation :=
  match (s.endpoint side).frameSizeChangeAcks.get (sizeOf frame) with
  | none => s
  | some n =>
    match (s.endpoint side).requests[n]? with
    | none => s
    | some r =>
      if r.answer.isSome then s
      else s.putRequest side n { r with answer := some (frame.seqId = 1) }

/-- `handleFrame` for a frame of the negotiation. -/
def handleFrame (s : Negotiation) (side : Side) (i : ℕ) (frame : Frame) (writeOk : Bool) :
    Negotiation :=
  if frame.seqId = 0 then s.handleFrameSizeChangeRequest side i frame writeOk
  else s.handleFrameSizeChangeAck side frame

/-- Frame `i` is marked as arrived. -/
def mark (s : Negotiation) (i : ℕ) (m : Sent) : Negotiation :=
  { s with sent := s.sent.set i { m with arrived := true } }

/-- Frame `i` arrives at the peer of its sender. -/
def arrive (s : Negotiation) (i : ℕ) (writeOk : Bool) : Negotiation :=
  match s.sent[i]? with
  | none => s
  | some m =>
    if m.arrived then s
    else (s.mark i m).handleFrame m.sender.peer i m.frame writeOk

/-- An event at one of the streams, or the arrival of a frame. -/
inductive Event where
  | request (side : Side) (newSize : ℤ)
  | write (side : Side) (n : ℕ) (ok : Bool)
  | receive (side : Side) (n : ℕ)
  | timeout (side : Side) (n : ℕ)
  | closed (side : Side) (n : ℕ)
  | cleanUp (side : Side) (n : ℕ)
  | arrive (i : ℕ) (writeOk : Bool)

/-- The state behind an event. -/
def step (s : Negotiation) : Event → Negotiation
  | .request side newSize => s.request side newSize
  | .write side n ok => s.write side n ok
  | .receive side n => s.receive side n
  | .timeout side n => s.timeout side n
  | .closed side n => s.closed side n
  | .cleanUp side n => s.cleanUp side n
  | .arrive i writeOk => s.arrive i writeOk

/-- The state behind a list of events. -/
def run (client server : Endpoint) (events : List Event) : Negotiation :=
  events.foldl step (new client server)

/-- The number of calls of `requestFrameSizeChange`. -/
def calls (s : Negotiation) : ℕ :=
  (s.endpoint .client).requests.length + (s.endpoint .server).requests.length

/-! ## Termination -/

/-- The negotiation comes to an end: a frame is answered at most once, an answer is not answered,
there are at most two frames for each call, and a call whose size was refused does not wait for the
timeout. -/
structure Terminating (s : Negotiation) : Prop where
  once : ∀ (i j k : ℕ) (a b : Sent) (c d : Bool), s.sent[i]? = some a → s.sent[j]? = some b →
    a.cause = .response k c → b.cause = .response k d → i = j
  final : ∀ (i k : ℕ) (a : Sent) (c : Bool), s.sent[i]? = some a → a.cause = .response k c →
    ∃ (b : Sent) (n : ℕ), s.sent[k]? = some b ∧ b.cause = .request n
  total : s.sent.length ≤ 2 * s.calls
  refused : ∀ (i k n : ℕ) (a b : Sent) (r : Request), s.sent[i]? = some a →
    a.cause = .response k false → s.sent[k]? = some b → b.cause = .request n →
    (s.endpoint b.sender).requests[n]? = some r →
    r.phase.timedOut = false

/-- The peer takes the size. -/
def Acceptable (newSize : ℤ) : Prop := 500 ≤ newSize ∧ newSize ≤ 2800

/-- An event asks for nothing but sizes that the peer takes. -/
def Event.asksAcceptable : Event → Prop
  | .request _ newSize => Acceptable newSize
  | _ => True

/-- The calls that have written their frames. -/
def writes (s : Negotiation) : ℕ :=
  (s.endpoint .client).requests.countP Request.wrote +
    (s.endpoint .server).requests.countP Request.wrote

/-- As long as only acceptable sizes are asked for, every answer is a consent to a frame of a
call. -/
structure Inv (s : Negotiation) : Prop where
  sizes : ∀ side, ∀ r ∈ (s.endpoint side).requests, Acceptable r.newSize
  request : ∀ m ∈ s.sent, m.isRequest → m.frame.seqId = 0 ∧ Acceptable (sizeOf m.frame)
  response : ∀ m ∈ s.sent, ∀ k c, m.cause = .response k c → c = true ∧ m.frame.seqId = 1 ∧
    ∃ b : Sent, s.sent[k]? = some b ∧ b.arrived ∧ b.isRequest
  once : ∀ (i j k : ℕ) (a b : Sent) (c d : Bool), s.sent[i]? = some a → s.sent[j]? = some b →
    a.cause = .response k c → b.cause = .response k d → i = j
  answers : s.sent.countP (fun m => !m.isRequest) ≤
    s.sent.countP fun m => m.isRequest && m.arrived
  written : s.sent.countP Sent.isRequest ≤ s.writes

variable {s : Negotiation} {side : Side} {r r' : Request} {n i : ℕ} {newSize : ℤ} {a : Sent}

/-- What the invariant says about termination. -/
theorem Inv.terminating (h : s.Inv) : s.Terminating where
  once := h.once
  final i k a c ha hc := by
    obtain ⟨-, -, b, hb, -, hrequest⟩ := h.response a (mem_of_getElem? ha) k c hc
    obtain ⟨n, hn⟩ := Sent.exists_request hrequest
    exact ⟨b, n, hb, hn⟩
  total := by
    have hsplit := length_eq_countP_add_countP Sent.isRequest (l := s.sent)
    have harrived : s.sent.countP (fun m => m.isRequest && m.arrived) ≤
        s.sent.countP Sent.isRequest :=
      countP_mono_left fun m _ hm => (Bool.and_eq_true_iff.mp hm).1
    have hanswers := h.answers
    have hwritten := h.written
    have hclient := countP_le_length (p := Request.wrote) (l := (s.endpoint .client).requests)
    have hserver := countP_le_length (p := Request.wrote) (l := (s.endpoint .server).requests)
    simp only [Bool.not_eq_true, Bool.decide_eq_false] at hsplit
    simp only [writes] at hwritten
    rw [calls]
    omega
  refused i k n a b r ha hfalse _ _ _ := by
    have htrue := (h.response a (mem_of_getElem? ha) k false hfalse).1
    cases htrue

theorem inv_new (client server : Endpoint) : (new client server).Inv where
  sizes side r hr := by cases side <;> exact absurd hr not_mem_nil
  request m hm := absurd hm not_mem_nil
  response m hm := absurd hm not_mem_nil
  once i j k a b c d ha := by simp [new] at ha
  answers := Nat.le_refl 0
  written := Nat.le_refl 0

/-! ## Steps that send nothing -/

/-- Without a new frame, only the sizes that were asked for and the number of calls that wrote their
frames matter. -/
theorem Inv.quiet {s' : Negotiation} (h : s.Inv) (hsent : s'.sent = s.sent)
    (hsizes : ∀ side, ∀ r ∈ (s'.endpoint side).requests, Acceptable r.newSize)
    (hwrites : s.writes ≤ s'.writes) : s'.Inv where
  sizes := hsizes
  request := hsent ▸ h.request
  response := hsent ▸ h.response
  once := hsent ▸ h.once
  answers := hsent ▸ h.answers
  written := hsent ▸ h.written.trans hwrites

/-- A change of a stream that leaves its calls as they are. -/
theorem Inv.put (h : s.Inv) {e : Endpoint}
    (hrequests : e.requests = (s.endpoint side).requests) : (s.put side e).Inv := by
  have hsame : ∀ other, ((s.put side e).endpoint other).requests = (s.endpoint other).requests := by
    intro other
    rcases eq_or_ne other side with rfl | hne
    · simp only [Negotiation.put, Function.update_self, hrequests]
    · simp only [Negotiation.put, Function.update_of_ne hne]
  refine h.quiet rfl (fun other => hsame other ▸ h.sizes other) ?_
  simp only [writes, hsame, le_refl]

/-- What a change of one call does to the number of calls that wrote their frames. -/
theorem writes_putRequest (hr : (s.endpoint side).requests[n]? = some r) (r' : Request) :
    (s.putRequest side n r').writes + (if r.wrote then 1 else 0) =
      s.writes + (if r'.wrote then 1 else 0) := by
  have hcount := countP_set_add hr r' Request.wrote
  cases side <;>
    simp only [writes, putRequest, Negotiation.put, Function.update_self,
      Function.update_of_ne (show Side.client ≠ Side.server from nofun),
      Function.update_of_ne (show Side.server ≠ Side.client from nofun)] <;>
    omega

section

variable (h : s.Inv)
include h

/-- The sizes that were asked for stay acceptable when a call changes and keeps its size. -/
theorem Inv.sizes_putRequest
    (hr : (s.endpoint side).requests[n]? = some r) (hsize : r'.newSize = r.newSize) :
    ∀ other, ∀ q ∈ ((s.putRequest side n r').endpoint other).requests, Acceptable q.newSize := by
  intro other q hq
  rcases eq_or_ne other side with rfl | hne
  · simp only [putRequest, Negotiation.put, Function.update_self] at hq
    rcases mem_or_eq_of_mem_set hq with hold | rfl
    · exact h.sizes other q hold
    · rw [hsize]
      exact h.sizes other r (mem_of_getElem? hr)
  · simp only [putRequest, Negotiation.put, Function.update_of_ne hne] at hq
    exact h.sizes other q hq

/-- A call goes on behind its write. -/
theorem Inv.putRequest
    (hr : (s.endpoint side).requests[n]? = some r) (hsize : r'.newSize = r.newSize)
    (hwrote : r.wrote → r'.wrote) : (s.putRequest side n r').Inv := by
  refine h.quiet rfl (h.sizes_putRequest hr hsize) ?_
  have hcount := writes_putRequest hr r'
  by_cases hr : r.wrote
  · rw [if_pos hr, if_pos (hwrote hr)] at hcount
    omega
  · rw [if_neg hr] at hcount
    omega

theorem Inv.request_step (side : Side)
    (hsize : Acceptable newSize) : (s.request side newSize).Inv := by
  refine h.quiet rfl (fun other r hr => ?_) ?_
  · rcases eq_or_ne other side with rfl | hne
    · simp only [Negotiation.request, Negotiation.put, Function.update_self, mem_append,
        mem_singleton] at hr
      rcases hr with hold | rfl
      · exact h.sizes other r hold
      · exact hsize
    · simp only [Negotiation.request, Negotiation.put, Function.update_of_ne hne] at hr
      exact h.sizes other r hr
  · cases side <;>
      simp [writes, Negotiation.request, Negotiation.put, Request.wrote]

/-- The three ways out of the `select`. -/
theorem Inv.select (side : Side) (n : ℕ) :
    (s.receive side n).Inv ∧ (s.timeout side n).Inv ∧ (s.closed side n).Inv := by
  unfold Negotiation.receive Negotiation.timeout Negotiation.closed
  split
  · exact ⟨h, h, h⟩
  · next r hr =>
    have hnext (r' : Request) (hsize : r'.newSize = r.newSize) (hwrote : r'.wrote) :
        (s.putRequest side n r').Inv := h.putRequest hr hsize fun _ => hwrote
    refine ⟨?_, ?_, ?_⟩ <;> split
    all_goals first | exact hnext _ rfl rfl | exact h

theorem Inv.cleanUp (side : Side) (n : ℕ) : (s.cleanUp side n).Inv := by
  unfold Negotiation.cleanUp
  split
  · exact h
  · next r hr =>
    split
    · next result reason _ =>
      have hreturned : (s.putRequest side n { r with phase := .returned result reason }).Inv :=
        h.putRequest hr rfl fun _ => rfl
      exact hreturned.put rfl
    · exact h

theorem Inv.handleFrameSizeChangeAck (side : Side) (frame : Frame) :
    (s.handleFrameSizeChangeAck side frame).Inv := by
  unfold Negotiation.handleFrameSizeChangeAck
  split
  · exact h
  · next n _ =>
    split
    · exact h
    · next r hr =>
      split
      · exact h
      · exact h.putRequest hr rfl id

end

/-! ## Steps that send a frame -/

/-- What `int` makes of an `AckId` that an `int` was turned into. -/
theorem sizeOf_sizeFrame (newSize : ℤ) (connectionId : Bytes) (seqId : ℕ) :
    sizeOf (sizeFrame connectionId seqId newSize) = wrapInt newSize := by
  have hpos : 0 ≤ newSize % 2 ^ 64 := Int.emod_nonneg _ (by norm_num)
  have hwrap := Int.emod_bmod newSize (2 ^ 64)
  simp only [sizeOf, sizeFrame]
  rw [Int.toNat_of_nonneg hpos]
  exact_mod_cast hwrap

theorem Acceptable.wrapInt_eq (h : Acceptable newSize) : wrapInt newSize = newSize :=
  NatP2P.wrapInt_eq (by unfold Acceptable at h; omega)
    (by unfold Acceptable at h; unfold maxInt; omega)

theorem Inv.write (h : s.Inv) (side : Side) (n : ℕ) (ok : Bool) : (s.write side n ok).Inv := by
  unfold Negotiation.write
  split
  · exact h
  next r hr =>
  split
  · exact h
  next hphase =>
  have hwriting : r.wrote = false := by simpa [Request.wrote] using hphase
  split
  · -- one more call has written, and its frame is the only new one
    have hcount := writes_putRequest hr { r with phase := .waiting }
    rw [hwriting] at hcount
    have hsize : Acceptable r.newSize := h.sizes side r (mem_of_getElem? hr)
    refine ⟨h.sizes_putRequest hr rfl, ?_, ?_, ?_, ?_, ?_⟩
    · refine forall_mem_append.mpr ⟨h.request, forall_mem_singleton.mpr fun _ => ⟨rfl, ?_⟩⟩
      rw [sizeOf_sizeFrame, hsize.wrapInt_eq]
      exact hsize
    · refine forall_mem_append.mpr ⟨fun m hold k c hc => ?_, forall_mem_singleton.mpr nofun⟩
      obtain ⟨htrue, hseq, b, hb, hrest⟩ := h.response m hold k c hc
      exact ⟨htrue, hseq, b, getElem?_append_of_some hb _, hrest⟩
    · intro i j k a b c d ha hb hc hd
      rcases getElem?_append_cases ha with ⟨-, rfl⟩ | ⟨-, ha⟩
      · cases hc
      rcases getElem?_append_cases hb with ⟨-, rfl⟩ | ⟨-, hb⟩
      · cases hd
      exact h.once i j k a b c d ha hb hc hd
    · have hanswers := h.answers
      simpa [send, Negotiation.putRequest, Negotiation.put, Sent.isRequest] using hanswers
    · have hwritten := h.written
      show (s.sent ++ [_]).countP Sent.isRequest ≤ (s.putRequest side n _).writes
      rw [countP_append]
      simp only [Sent.isRequest, countP_singleton, if_true]
      simp only [Request.wrote] at hcount
      simp at hcount
      omega
  · exact h.putRequest hr rfl fun _ => rfl

/-- A frame behind a mark is the one in front of it, up to the mark. -/
theorem sent_of_mark {j : ℕ} (hm : s.sent[i]? = some m) (ha : (s.mark i m).sent[j]? = some a) :
    ∃ a' : Sent, s.sent[j]? = some a' ∧ a'.cause = a.cause ∧ a'.frame = a.frame := by
  rcases getElem?_set_cases ha with ⟨rfl, rfl⟩ | ⟨-, hold⟩
  · exact ⟨m, hm, rfl, rfl⟩
  · exact ⟨a, hold, rfl, rfl⟩

theorem mem_of_mark (hm : s.sent[i]? = some m)
    (ha : a ∈ (s.mark i m).sent) : ∃ a' ∈ s.sent, a'.cause = a.cause ∧ a'.frame = a.frame := by
  obtain ⟨j, hj⟩ := mem_iff_getElem?.mp ha
  obtain ⟨a', ha', hsame⟩ := sent_of_mark hm hj
  exact ⟨a', mem_of_getElem? ha', hsame⟩

/-- Marking a frame keeps the invariant, and a frame of a call leaves room for one answer. -/
theorem Inv.mark (h : s.Inv) (hm : s.sent[i]? = some m) (hfirst : m.arrived = false) :
    (s.mark i m).Inv ∧ (m.isRequest → (s.mark i m).sent.countP (fun m => !m.isRequest) + 1 ≤
      (s.mark i m).sent.countP fun m => m.isRequest && m.arrived) := by
  have hresponses := countP_set_add hm { m with arrived := true } fun m => !m.isRequest
  have harrived := countP_set_add hm { m with arrived := true } fun m => m.isRequest && m.arrived
  have hrequests := countP_set_add hm { m with arrived := true } Sent.isRequest
  have hkind : Sent.isRequest { m with arrived := true } = m.isRequest := rfl
  simp only [hkind, hfirst, Bool.and_false, Bool.and_true, Bool.false_eq_true, if_false]
    at hresponses harrived hrequests
  have hanswers := h.answers
  refine ⟨⟨h.sizes, ?_, ?_, ?_, ?_, ?_⟩, ?_⟩
  · intro a ha hrequest
    obtain ⟨a', ha', hcause, hframe⟩ := mem_of_mark hm ha
    rw [← hframe]
    exact h.request a' ha' (by rw [Sent.isRequest, hcause]; exact hrequest)
  · intro a ha k c hc
    obtain ⟨a', ha', hcause, hframe⟩ := mem_of_mark hm ha
    obtain ⟨htrue, hseq, b, hb, hbefore, hrequest⟩ := h.response a' ha' k c (hcause.trans hc)
    -- the frame that was answered arrived before this one does
    have hne : i ≠ k := by
      rintro rfl
      rw [hm] at hb
      cases hb
      rw [hfirst] at hbefore
      cases hbefore
    refine ⟨htrue, hframe ▸ hseq, b, ?_, hbefore, hrequest⟩
    rw [Negotiation.mark, getElem?_set_ne hne, hb]
  · intro j j' k a b c d ha hb hc hd
    obtain ⟨a', ha', hca, -⟩ := sent_of_mark hm ha
    obtain ⟨b', hb', hcb, -⟩ := sent_of_mark hm hb
    exact h.once j j' k a' b' c d ha' hb' (hca.trans hc) (hcb.trans hd)
  · simp only [Negotiation.mark]
    split_ifs at hresponses <;> omega
  · have hwritten := h.written
    simp only [Negotiation.mark, writes] at hwritten ⊢
    omega
  · intro hrequest
    simp only [hrequest, if_true] at harrived
    simp only [Negotiation.mark]
    omega

/-- A consent to a frame of a call that was not answered before. -/
theorem Inv.consent (h : s.Inv) (hm : s.sent[i]? = some m)
    (harrived : m.arrived) (hrequest : m.isRequest)
    (hfresh : ∀ a ∈ s.sent, ∀ c, a.cause ≠ .response i c)
    (hroom : s.sent.countP (fun m => !m.isRequest) + 1 ≤
      s.sent.countP fun m => m.isRequest && m.arrived)
    (side : Side) (connectionId : Bytes) (newSize : ℤ) :
    (s.send side (sizeFrame connectionId 1 newSize) (.response i true)).Inv := by
  refine ⟨h.sizes, ?_, ?_, ?_, ?_, ?_⟩
  · exact forall_mem_append.mpr ⟨h.request, forall_mem_singleton.mpr nofun⟩
  · refine forall_mem_append.mpr ⟨fun a hold k c hc => ?_, forall_mem_singleton.mpr ?_⟩
    · obtain ⟨htrue, hseq, b, hb, hrest⟩ := h.response a hold k c hc
      exact ⟨htrue, hseq, b, getElem?_append_of_some hb _, hrest⟩
    · rintro k c ⟨⟩
      exact ⟨rfl, rfl, m, getElem?_append_of_some hm _, harrived, hrequest⟩
  · intro j j' k a b c d ha hb hc hd
    rcases getElem?_append_cases ha with ⟨hj, rfl⟩ | ⟨-, hold⟩
    · cases hc
      rcases getElem?_append_cases hb with ⟨hj', rfl⟩ | ⟨-, hold'⟩
      · exact hj.trans hj'.symm
      · exact absurd hd (hfresh b (mem_of_getElem? hold') d)
    · rcases getElem?_append_cases hb with ⟨-, rfl⟩ | ⟨-, hold'⟩
      · cases hd
        exact absurd hc (hfresh a (mem_of_getElem? hold) c)
      · exact h.once j j' k a b c d hold hold' hc hd
  · simp only [send, countP_append, countP_singleton, Sent.isRequest, Bool.not_false,
      Bool.false_and, Bool.false_eq_true, if_true, if_false]
    simp only [Sent.isRequest] at hroom
    omega
  · have hwritten := h.written
    simp only [send, writes, countP_append, countP_singleton, Sent.isRequest,
      Bool.false_eq_true, if_false] at hwritten ⊢
    omega

theorem Inv.arrive (h : s.Inv) (i : ℕ) (writeOk : Bool) : (s.arrive i writeOk).Inv := by
  unfold Negotiation.arrive
  split
  · exact h
  next m hm =>
  split
  · exact h
  next hfirst =>
  have hmem := mem_of_getElem? hm
  obtain ⟨hmark, hroom⟩ := h.mark hm (by simpa using hfirst)
  unfold handleFrame
  split
  · next hseq =>
    -- only a frame of a call has `SeqId` 0, and its size is acceptable
    have hrequest : m.isRequest := by
      unfold Sent.isRequest
      split
      · rfl
      · next k c hc =>
        have hone := (h.response m hmem k c hc).2.1
        rw [hseq] at hone
        cases hone
    have hsize := (h.request m hmem hrequest).2
    have hfresh : ∀ a ∈ (s.mark i m).sent, ∀ c, a.cause ≠ .response i c := by
      intro a ha c hc
      obtain ⟨a', ha', hcause, -⟩ := mem_of_mark hm ha
      obtain ⟨-, -, b, hb, hbefore, -⟩ := h.response a' ha' i c (hcause.trans hc)
      rw [hm] at hb
      cases hb
      exact hfirst hbefore
    have hlt : i < s.sent.length := lt_of_getElem? hm
    have hplace : (s.mark i m).sent[i]? = some { m with arrived := true } := by
      rw [Negotiation.mark, getElem?_set_self hlt]
    have hsent := hmark.consent hplace rfl hrequest hfresh (hroom hrequest) m.sender.peer
      ((s.mark i m).endpoint m.sender.peer).connectionId (sizeOf m.frame)
    unfold handleFrameSizeChangeRequest
    simp only [show ¬ (sizeOf m.frame < 500 ∨ sizeOf m.frame > 2800) by
      unfold Acceptable at hsize; omega, if_false]
    cases writeOk with
    | true => exact hsent.put rfl
    | false => exact hmark
  · exact hmark.handleFrameSizeChangeAck _ _

theorem Inv.step (h : s.Inv) {event : Event} (hasks : event.asksAcceptable) :
    (s.step event).Inv := by
  cases event with
  | request side newSize => exact h.request_step side hasks
  | write side n ok => exact h.write side n ok
  | receive side n => exact (h.select side n).1
  | timeout side n => exact (h.select side n).2.1
  | closed side n => exact (h.select side n).2.2
  | cleanUp side n => exact h.cleanUp side n
  | arrive i writeOk => exact h.arrive i writeOk

theorem inv_run (client server : Endpoint) {events : List Event}
    (hasks : ∀ event ∈ events, event.asksAcceptable) : (run client server events).Inv := by
  refine foldlRecOn events _ (inv_new client server) ?_
  intro s hs event hevent
  exact hs.step (hasks event hevent)

/-- As long as both streams ask for acceptable sizes, the negotiation terminates. -/
theorem negotiation_terminates (client server : Endpoint) (events : List Event)
    (hasks : ∀ event ∈ events, event.asksAcceptable) : (run client server events).Terminating :=
  (inv_run client server hasks).terminating

/-- A stream with the frame size that it starts with. -/
def sampleEndpoint : Endpoint := ⟨[1], some 1400, .empty, []⟩

theorem negotiation_terminates_sample :
    (run sampleEndpoint sampleEndpoint [.request .client 1600, .write .client 0 true,
      .arrive 0 true, .arrive 1 true, .receive .client 0, .cleanUp .client 0]).Terminating :=
  negotiation_terminates _ _ _ (by simp [Event.asksAcceptable, Acceptable])

/-! ## Refusals -/

/-- The last frame is on its way, looks like a question, and asks for a size that is refused. -/
def Ringing (s : Negotiation) : Prop :=
  ∃ m, s.sent[s.sent.length - 1]? = some m ∧ m.arrived = false ∧ m.frame.seqId = 0 ∧
    (sizeOf m.frame < 500 ∨ sizeOf m.frame > 2800)

/-- The refusal of a size is refused in turn. -/
theorem Ringing.arrive (h : s.Ringing) :
    (s.arrive (s.sent.length - 1) true).Ringing ∧
      (s.arrive (s.sent.length - 1) true).sent.length = s.sent.length + 1 ∧
      (s.arrive (s.sent.length - 1) true).calls = s.calls := by
  obtain ⟨m, hm, hfirst, hseq, hsize⟩ := h
  have harrive : s.arrive (s.sent.length - 1) true =
      (s.mark (s.sent.length - 1) m).send m.sender.peer
        (sizeFrame (s.endpoint m.sender.peer).connectionId 0 (sizeOf m.frame))
        (.response (s.sent.length - 1) false) := by
    simp only [Negotiation.arrive, hm, hfirst, handleFrame, hseq, handleFrameSizeChangeRequest,
      hsize, sendFrameSizeChangeAck, if_true, Bool.false_eq_true, if_false, Negotiation.mark]
  rw [harrive]
  have hlength : (s.mark (s.sent.length - 1) m).sent.length = s.sent.length := length_set
  refine ⟨⟨⟨m.sender.peer, sizeFrame (s.endpoint m.sender.peer).connectionId 0 (sizeOf m.frame),
    .response (s.sent.length - 1) false, false⟩, ?_, rfl, rfl, ?_⟩, ?_, rfl⟩
  · rw [send, length_append]
    exact getElem?_concat_length
  · -- the answer names the size that it answers
    have hsame : wrapInt (sizeOf m.frame) = sizeOf m.frame := by
      simp only [sizeOf, wrapInt, Int.bmod_bmod]
    rw [sizeOf_sizeFrame, hsame]
    exact hsize
  · rw [send, length_append, hlength, length_singleton]

/-- One call for a size that is refused causes any number of frames, if each arrives. -/
theorem refusals_never_end (client server : Endpoint)
    (hsize : wrapInt newSize < 500 ∨ wrapInt newSize > 2800) (n : ℕ) :
    let s := run client server
      ([.request .client newSize, .write .client 0 true] ++ (range n).map (.arrive · true))
    s.Ringing ∧ s.calls = 1 ∧ s.sent.length = n + 1 := by
  induction n with
  | zero =>
    refine ⟨⟨⟨.client, sizeFrame client.connectionId 0 newSize, .request 0, false⟩, rfl, rfl, rfl,
      ?_⟩, rfl, rfl⟩
    rw [sizeOf_sizeFrame]
    exact hsize
  | succ n ih =>
    obtain ⟨hringing, hcalls, hlength⟩ := ih
    obtain ⟨hnext, hmore, hsame⟩ := hringing.arrive
    rw [hlength, Nat.add_sub_cancel] at hnext hmore hsame
    rw [range_succ, map_append, map_singleton, ← append_assoc, run, foldl_concat]
    exact ⟨hnext, hsame.trans hcalls, hmore⟩

theorem refusals_never_end_sample :
    let s := run sampleEndpoint sampleEndpoint
      ([.request .client 4096, .write .client 0 true] ++ (range 999).map (.arrive · true))
    s.Ringing ∧ s.calls = 1 ∧ s.sent.length = 1000 :=
  refusals_never_end _ _ (.inr (by decide : wrapInt 4096 > 2800)) 999

/-- The refusal of a size has `SeqId` 0, so the stream that asked for it refuses it as well. Its
call never sees an answer. -/
theorem refusal_answered :
    let s := run sampleEndpoint sampleEndpoint [.request .client 4096, .write .client 0 true,
      .arrive 0 true, .arrive 1 true, .arrive 2 true, .timeout .client 0, .cleanUp .client 0]
    s.sent.map Sent.cause = [.request 0, .response 0 false, .response 1 false, .response 2 false] ∧
      (s.endpoint .client).requests = [⟨4096, none, .returned false .timeout⟩] ∧
      ¬ s.Terminating := by
  refine ⟨by decide +kernel, by decide +kernel, fun h => ?_⟩
  have htotal := h.total
  revert htotal
  decide +kernel

end Negotiation

end NatP2P.Network.FrameSizeChange
