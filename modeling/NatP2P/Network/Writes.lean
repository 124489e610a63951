import NatP2P.Common.Run
import NatP2P.Network.Wire

/-!
# Writing frames with a context

Reference: `networkFrameWork/TcpStream.go`.

A `TcpStream` writes encoded frames to its connection under the send lock. The caller's context may
end at any moment, and the connection may have taken any part of the buffer when it fails. A failure
that is due to the caller's context or to a change of relay is returned and leaves the stream open;
every other failure closes it.

What the connection took in such a call stays taken. If it ends inside a frame, the next frame is
read by the peer as the rest of that one.
-/

namespace NatP2P.Network

open List

/-- `ctx.Err()`. -/
inductive ContextError where
  | canceled
  | deadlineExceeded
deriving DecidableEq

/-- An error of the connection. -/
inductive ConnError where
  /-- `errors.Is(err, context.DeadlineExceeded)`. -/
  | deadlineExceeded
  /-- `errors.Is(err, ErrRelayChangedDuringSend)`. -/
  | relayChanged
  | shortWrite
  | closed
  | other (code : ℕ)
deriving DecidableEq

/-- The errors of the write functions. -/
inductive WriteError where
  | nilContextFrames
  | nilContextBytes
  | context (reason : ContextError)
  | conn (reason : ConnError)
  | encode (reason : FrameError)
  | encodeFrame (index : ℕ) (reason : FrameError)
  | batchTooLarge
deriving DecidableEq

/-- A caller's context. -/
structure Context where
  /-- `ctx.Deadline()` returns a deadline. -/
  hasDeadline : Bool

/-- What happens around one `connection.Write`. -/
structure Moment where
  /-- `ctx.Err()` in front of the write. -/
  errBefore : Option ContextError
  /-- What `SetWriteDeadline` returns, if it is called. -/
  deadlineErr : Option ConnError
  /-- How much the connection takes. -/
  accepted : ℕ
  /-- What `Write` returns. -/
  connErr : Option ConnError
  /-- `ctx.Err()` behind a failed write. -/
  errAfter : Option ContextError
  /-- The caller's deadline has passed behind a failed write. -/
  pastDeadline : Bool

/-- The fields of a `TcpStream` that writing uses, and what its connection has taken. -/
structure TcpWriter where
  writeTimeout : ℤ
  testDataFrameDelay : ℤ
  accepted : Bytes
  /-- `closeOnce` has run. -/
  closed : Bool
  fatalErr : Option WriteError

/-- What happens during one call. -/
structure WriteCall where
  ctx : Option Context
  /-- `ctx.Err()` when the lock is held. -/
  errLocked : Option ContextError
  writes : ℕ → Moment

/-! ## One buffer -/

namespace Moment

/-- The number of bytes and the error of `Write`, a short write being an error. -/
def failure (m : Moment) (buf : Bytes) : Option ConnError :=
  match m.connErr with
  | some err => some err
  | none => if min m.accepted buf.length ≠ buf.length then some .shortWrite else none

/-- What is returned for a failed write that does not close the stream. -/
def spared (m : Moment) (ctx : Context) (err : ConnError) : Option WriteError :=
  match m.errAfter with
  | some reason => some (.context reason)
  | none =>
    if err = .deadlineExceeded ∧ ctx.hasDeadline ∧ m.pastDeadline then
      some (.context .deadlineExceeded)
    else if err = .relayChanged then some (.conn err)
    else none

end Moment

namespace TcpWriter

/-- A stream before its first write. -/
def new (writeTimeout testDataFrameDelay : ℤ) : TcpWriter where
  writeTimeout
  testDataFrameDelay
  accepted := []
  closed := false
  fatalErr := none

/-- `failAndClose`. -/
def failAndClose (t : TcpWriter) (err : WriteError) : TcpWriter :=
  if t.closed then t else { t with closed := true, fatalErr := t.fatalErr.or (some err) }

/-- The connection takes the beginning of a buffer. -/
def take (t : TcpWriter) (m : Moment) (buf : Bytes) : TcpWriter :=
  { t with accepted := t.accepted ++ buf.take m.accepted }

/-- `connection.Write` and what follows it. A closed connection takes nothing. -/
def writeConn (t : TcpWriter) (ctx : Context) (m : Moment) (buf : Bytes) :
    Option WriteError × TcpWriter :=
  if t.closed then
    (some ((m.spared ctx .closed).getD (.conn .closed)), t)
  else
    match m.failure buf with
    | none => (none, t.take m buf)
    | some err =>
      match m.spared ctx err with
      | some result => (some result, t.take m buf)
      | none => (some (.conn err), (t.take m buf).failAndClose (.conn err))

/-- `writeBytesLockedContext`. -/
def writeBytesLockedContext (t : TcpWriter) (ctx : Option Context) (m : Moment) (buf : Bytes) :
    Option WriteError × TcpWriter :=
  match ctx with
  | none => (some .nilContextBytes, t)
  | some ctx =>
    match m.errBefore with
    | some reason => (some (.context reason), t)
    | none =>
      if ctx.hasDeadline ∨ t.writeTimeout > 0 then
        match m.deadlineErr with
        | some err => (some (.conn err), t.failAndClose (.conn err))
        | none => t.writeConn ctx m buf
      else t.writeConn ctx m buf

/-! ## Frames -/

/-- The frames encoded one by one. -/
def encodeEach : ℕ → List Frame → Except WriteError (List Bytes)
  | _, [] => .ok []
  | index, f :: rest => do
    let serialized ← (f.appendTo []).mapError (.encodeFrame index)
    let encoded ← encodeEach (index + 1) rest
    return serialized :: encoded

/-- The buffers written one by one. -/
def writeEach (t : TcpWriter) (call : WriteCall) : ℕ → List Bytes → Option WriteError × TcpWriter
  | _, [] => (none, t)
  | index, buf :: rest =>
    match t.writeBytesLockedContext call.ctx (call.writes index) buf with
    | (some err, t) => (some err, t)
    | (none, t) => t.writeEach call (index + 1) rest

/-- The size of the batch. -/
def batchSize : ℕ → ℕ → List Frame → Except WriteError ℕ
  | _, totalSize, [] => .ok totalSize
  | index, totalSize, f :: rest => do
    let size ← f.wireSize.mapError (.encodeFrame index)
    check ((totalSize : ℤ) > maxInt - size) .batchTooLarge
    batchSize (index + 1) (totalSize + size) rest

/-- The frames encoded into one buffer. -/
def appendEach : ℕ → Bytes → List Frame → Except WriteError Bytes
  | _, buf, [] => .ok buf
  | index, buf, f :: rest => do
    let buf ← (f.appendTo buf).mapError (.encodeFrame index)
    appendEach (index + 1) buf rest

/-- The buffer of a batch. -/
def batch (frames : List Frame) : Except WriteError Bytes := do
  let _ ← batchSize 0 0 frames
  appendEach 0 [] frames

/-- `writeFramesContext`. -/
def writeFramesContext (t : TcpWriter) (call : WriteCall) (frames : List Frame) :
    Option WriteError × TcpWriter :=
  if frames = [] then (none, t)
  else if call.ctx.isNone then (some .nilContextFrames, t)
  else if t.testDataFrameDelay > 0 then
    match encodeEach 0 frames with
    | .error err => (some err, t)
    | .ok encoded =>
      match call.errLocked with
      | some reason => (some (.context reason), t)
      | none => t.writeEach call 0 encoded
  else
    match batch frames with
    | .error err => (some err, t)
    | .ok buf =>
      match call.errLocked with
      | some reason => (some (.context reason), t)
      | none => t.writeBytesLockedContext call.ctx (call.writes 0) buf

/-- `writeFrameContext`. -/
def writeFrameContext (t : TcpWriter) (call : WriteCall) (f : Frame) :
    Option WriteError × TcpWriter :=
  match f.appendTo [] with
  | .error err => (some (.encode err), t)
  | .ok buf => t.writeBytesLockedContext call.ctx (call.writes 0) buf

/-- A call of the stream. -/
inductive Event where
  | writeFrames (call : WriteCall) (frames : List GoFrame)
  | writeFrame (call : WriteCall) (f : GoFrame)
  /-- `failAndClose` from a reader or a timer. -/
  | failAndClose (err : WriteError)

/-- The calls hold the send lock one after the other. -/
def step (t : TcpWriter) : Event → TcpWriter × Option WriteError
  | .writeFrames call frames => (t.writeFramesContext call (frames.map Subtype.val)).swap
  | .writeFrame call f => (t.writeFrameContext call f).swap
  | .failAndClose err => (t.failAndClose err, none)

end TcpWriter

/-! ## What the connection has taken -/

/-- A failed write that leaves the stream open ends between two frames. -/
def Moment.EndsBetween (m : Moment) (ctx : Option Context) (frames : List Frame) : Prop :=
  ∀ c, ctx = some c → ∀ err, m.failure (frames.flatMap Frame.encoding) = some err →
    m.spared c err ≠ none → ∃ k,
      (frames.flatMap Frame.encoding).take m.accepted = (frames.take k).flatMap Frame.encoding

namespace TcpWriter

/-- As long as the stream is open, its connection has taken whole frames. -/
def Framed (t : TcpWriter) : Prop :=
  t.closed = false → ∃ frames : List Frame,
    (∀ f ∈ frames, f.OnWire) ∧ t.accepted = frames.flatMap Frame.encoding

/-- In every write of the call. -/
def EndsBetween (t : TcpWriter) : Event → Prop
  | .writeFrames call frames =>
    if t.testDataFrameDelay > 0 then
      ∀ index f, frames[index]? = some f → (call.writes index).EndsBetween call.ctx [f.val]
    else (call.writes 0).EndsBetween call.ctx (frames.map Subtype.val)
  | .writeFrame call f => (call.writes 0).EndsBetween call.ctx [f.val]
  | .failAndClose _ => True

variable {t : TcpWriter} {call : WriteCall} {m : Moment} {ctx : Option Context}
  {frames : List Frame} {buf : Bytes} {index : ℕ}

theorem closed_failAndClose (t : TcpWriter) (err : WriteError) : (t.failAndClose err).closed := by
  unfold failAndClose
  split_ifs with hclosed
  · exact hclosed
  · rfl

theorem framed_of_closed (h : t.closed) : t.Framed := fun hopen => by
  rw [h] at hopen
  cases hopen

theorem Framed.take {k : ℕ} (h : t.Framed) (hwire : ∀ f ∈ frames, f.OnWire)
    (htaken : buf.take m.accepted = (frames.take k).flatMap Frame.encoding) :
    (t.take m buf).Framed := by
  intro hopen
  obtain ⟨earlier, hearlier, haccepted⟩ := h hopen
  refine ⟨earlier ++ frames.take k, ?_, ?_⟩
  · exact forall_mem_append.mpr ⟨hearlier, fun f hf => hwire f (mem_of_mem_take hf)⟩
  · show t.accepted ++ buf.take m.accepted = _
    rw [haccepted, htaken, flatMap_append]

/-- A write without an error took the whole buffer. -/
theorem take_of_failure_none (h : m.failure buf = none) : buf.take m.accepted = buf := by
  unfold Moment.failure at h
  rcases hconn : m.connErr with _ | err
  · rw [hconn] at h
    by_cases hshort : min m.accepted buf.length ≠ buf.length
    · rw [if_pos hshort] at h
      cases h
    · exact take_of_length_le (by omega)
  · rw [hconn] at h
    cases h

theorem Framed.writeConn {c : Context} (h : t.Framed)
    (hwire : ∀ f ∈ frames, f.OnWire) (hends : m.EndsBetween (some c) frames) :
    (t.writeConn c m (frames.flatMap Frame.encoding)).2.Framed := by
  unfold TcpWriter.writeConn
  split_ifs with hclosed
  · exact framed_of_closed hclosed
  · rcases hfailure : m.failure (frames.flatMap Frame.encoding) with _ | err
    · refine h.take (k := frames.length) hwire ?_
      rw [take_of_failure_none hfailure, take_length]
    · dsimp only
      rcases hspared : m.spared c err with _ | result
      · exact framed_of_closed (closed_failAndClose _ _)
      · obtain ⟨k, hk⟩ := hends c rfl err hfailure (by simp [hspared])
        exact h.take hwire hk

/-- One buffer of whole frames. -/
theorem Framed.writeBytesLockedContext (h : t.Framed)
    (hwire : ∀ f ∈ frames, f.OnWire) (hends : m.EndsBetween ctx frames) :
    (t.writeBytesLockedContext ctx m (frames.flatMap Frame.encoding)).2.Framed := by
  unfold TcpWriter.writeBytesLockedContext
  rcases ctx with _ | c
  · exact h
  · rcases m.errBefore with _ | reason
    · have hwrite := h.writeConn hwire hends
      simp only
      split_ifs
      · rcases m.deadlineErr with _ | err
        · exact hwrite
        · exact framed_of_closed (closed_failAndClose _ _)
      · exact hwrite
    · exact h

theorem Framed.writeEncoding {f : Frame} (h : t.Framed) (hwire : f.OnWire)
    (hends : m.EndsBetween ctx [f]) :
    (t.writeBytesLockedContext ctx m f.encoding).2.Framed := by
  rw [← flatMap_singleton (f := Frame.encoding)]
  exact h.writeBytesLockedContext (forall_mem_singleton.mpr hwire) hends

theorem encodeEach_ok (hrange : ∀ f ∈ frames, f.InRange)
    {encoded : List Bytes} (h : encodeEach index frames = .ok encoded) :
    encoded = frames.map Frame.encoding ∧ ∀ f ∈ frames, f.OnWire := by
  induction frames generalizing index encoded with
  | nil =>
    cases h
    exact ⟨rfl, nofun⟩
  | cons f frames ih =>
    obtain ⟨hf, hframes⟩ := forall_mem_cons.mp hrange
    rw [encodeEach] at h
    simp only [bind_ok_iff, mapError_ok_iff, pure_ok_iff] at h
    obtain ⟨serialized, hserialized, others, hothers, rfl⟩ := h
    obtain ⟨rfl, hwire⟩ := Frame.appendTo_ok hf hserialized
    obtain ⟨rfl, hwires⟩ := ih hframes hothers
    exact ⟨rfl, forall_mem_cons.mpr ⟨hwire, hwires⟩⟩

theorem appendEach_ok (hrange : ∀ f ∈ frames, f.InRange)
    {dst : Bytes} (h : appendEach index dst frames = .ok buf) :
    buf = dst ++ frames.flatMap Frame.encoding ∧ ∀ f ∈ frames, f.OnWire := by
  induction frames generalizing index dst with
  | nil =>
    cases h
    exact ⟨(append_nil _).symm, nofun⟩
  | cons f frames ih =>
    obtain ⟨hf, hframes⟩ := forall_mem_cons.mp hrange
    rw [appendEach] at h
    simp only [bind_ok_iff, mapError_ok_iff] at h
    obtain ⟨next, hnext, h⟩ := h
    obtain ⟨rfl, hwire⟩ := Frame.appendTo_ok hf hnext
    obtain ⟨rfl, hwires⟩ := ih hframes h
    refine ⟨?_, forall_mem_cons.mpr ⟨hwire, hwires⟩⟩
    rw [flatMap_cons, append_assoc]

/-- The frames one by one; the induction is on the frames that are left. -/
theorem Framed.writeEach (h : t.Framed) (hwire : ∀ f ∈ frames, f.OnWire)
    (hends : ∀ offset f, frames[offset]? = some f →
      (call.writes (index + offset)).EndsBetween call.ctx [f]) :
    (t.writeEach call index (frames.map Frame.encoding)).2.Framed := by
  induction frames generalizing index t with
  | nil => exact h
  | cons f frames ih =>
    obtain ⟨hf, hframes⟩ := forall_mem_cons.mp hwire
    have hone := h.writeEncoding hf (hends 0 f rfl)
    rw [map_cons, TcpWriter.writeEach]
    generalize t.writeBytesLockedContext call.ctx (call.writes index) f.encoding = result at hone
    rcases result with ⟨_ | err, next⟩
    · refine ih hone hframes ?_
      intro offset g hg
      rw [Nat.add_assoc, Nat.add_comm 1]
      exact hends (offset + 1) g hg
    · exact hone

theorem Framed.step {event : Event} (h : t.Framed) (hends : t.EndsBetween event) :
    (t.step event).1.Framed := by
  cases event with
  | failAndClose err => exact framed_of_closed (closed_failAndClose t err)
  | writeFrame call f =>
    show (t.writeFrameContext call f).2.Framed
    unfold writeFrameContext
    rcases happend : f.val.appendTo [] with err | buf
    · exact h
    · obtain ⟨rfl, hwire⟩ := Frame.appendTo_ok f.property happend
      exact h.writeEncoding hwire hends
  | writeFrames call frames =>
    have hrange : ∀ f ∈ frames.map Subtype.val, f.InRange := by
      intro f hf
      obtain ⟨g, -, rfl⟩ := mem_map.mp hf
      exact g.property
    show (t.writeFramesContext call (frames.map Subtype.val)).2.Framed
    simp only [EndsBetween] at hends
    unfold writeFramesContext
    split_ifs with hempty hnil hdelay
    · exact h
    · exact h
    · -- with a delay between the frames each one is its own write
      rw [if_pos hdelay] at hends
      rcases hencode : encodeEach 0 (frames.map Subtype.val) with err | encoded
      · exact h
      · obtain ⟨rfl, hwire⟩ := encodeEach_ok hrange hencode
        rcases call.errLocked with _ | reason
        · refine h.writeEach hwire ?_
          intro offset f hf
          rw [getElem?_map] at hf
          obtain ⟨g, hg, rfl⟩ := Option.map_eq_some_iff.mp hf
          rw [Nat.zero_add]
          exact hends offset g hg
        · exact h
    · rw [if_neg hdelay] at hends
      rcases hbatch : batch (frames.map Subtype.val) with err | buf
      · exact h
      · unfold batch at hbatch
        simp only [bind_ok_iff] at hbatch
        obtain ⟨-, -, hbatch⟩ := hbatch
        obtain ⟨rfl, hwire⟩ := appendEach_ok hrange hbatch
        rcases call.errLocked with _ | reason
        · exact h.writeBytesLockedContext hwire hends
        · exact h

/-- The stream behind a list of calls. -/
def run (writeTimeout testDataFrameDelay : ℤ) (events : List Event) : TcpWriter :=
  (runSteps step (new writeTimeout testDataFrameDelay) events).1

/-- A write of a live context that the connection takes as a whole. -/
def sampleWrite : WriteCall where
  ctx := some ⟨false⟩
  errLocked := none
  writes _ := ⟨none, none, 1000, none, none, false⟩

/-- The context is cancelled when the connection has taken `accepted` bytes. -/
def sampleCancelled (accepted : ℕ) : WriteCall where
  ctx := some ⟨false⟩
  errLocked := none
  writes _ := ⟨none, none, accepted, some .deadlineExceeded, some .canceled, false⟩

/-- A frame without a body. -/
def sampleFrame : GoFrame :=
  ⟨⟨1, 0, 1, 0, frameTypeData, [], []⟩, by decide, by decide, by decide, by decide⟩

/-- A cancelled write and a complete one. -/
def sampleCalls (accepted : ℕ) : List Event :=
  [.writeFrame (sampleCancelled accepted) sampleFrame, .writeFrame sampleWrite sampleFrame]

end TcpWriter

open TcpWriter

/-- As long as no failed write that leaves the stream open ends inside a frame, an open stream's
connection has taken whole frames, and the peer reads them back one by one. -/
theorem open_stream_framed (writeTimeout testDataFrameDelay : ℤ) (events : List Event)
    (hends : Along step EndsBetween (new writeTimeout testDataFrameDelay) events)
    (hopen : (run writeTimeout testDataFrameDelay events).closed = false) :
    ∃ frames : List Frame, (∀ f ∈ frames, f.OnWire) ∧
      (run writeTimeout testDataFrameDelay events).accepted = frames.flatMap Frame.encoding ∧
      Reads (run writeTimeout testDataFrameDelay events).accepted frames .endOfStream := by
  have hframed : (run writeTimeout testDataFrameDelay events).Framed := runSteps_along hends
    (fun _ => ⟨[], nofun, rfl⟩) fun t event hevent h => h.step hevent
  obtain ⟨frames, hwire, haccepted⟩ := hframed hopen
  refine ⟨frames, hwire, haccepted, ?_⟩
  rw [show (run writeTimeout testDataFrameDelay events).accepted = _ from haccepted]
  exact reads_encodings hwire

/-- A write that is cancelled before the connection takes anything does no harm. -/
theorem open_stream_framed_sample :
    (run 0 0 (sampleCalls 0)).closed = false ∧ ∃ frames : List Frame, (∀ f ∈ frames, f.OnWire) ∧
        (run 0 0 (sampleCalls 0)).accepted = frames.flatMap Frame.encoding ∧
        Reads (run 0 0 (sampleCalls 0)).accepted frames .endOfStream := by
  have hopen : (run 0 0 (sampleCalls 0)).closed = false := by decide +kernel
  refine ⟨hopen, open_stream_framed 0 0 (sampleCalls 0) ⟨?_, ?_, trivial⟩ hopen⟩
  · exact fun _ _ _ _ _ => ⟨0, rfl⟩
  · intro c _ err hfailure
    cases hfailure

/-- A write that is cancelled when the connection has taken one byte leaves the stream open. The
next frame follows that byte: what the connection has taken is no row of frames, and the peer meets
something that is not a frame. -/
theorem cancelled_write_tears_frame :
    (run 0 0 (sampleCalls 1)).closed = false ∧ (∀ frames : List Frame, (∀ f ∈ frames, f.OnWire) →
        (run 0 0 (sampleCalls 1)).accepted ≠ frames.flatMap Frame.encoding) ∧
      readFrame (run 0 0 (sampleCalls 1)).accepted = .error .invalidMagic := by
  have hread : readFrame (run 0 0 (sampleCalls 1)).accepted = .error .invalidMagic := by
    decide +kernel
  refine ⟨by decide +kernel, ?_, hread⟩
  intro frames hwire haccepted
  have hreads := reads_encodings hwire
  rw [← haccepted] at hreads
  cases hreads with
  | stop h => cases h
  | next h _ => cases h

end NatP2P.Network
