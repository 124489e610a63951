import NatP2P.Common.Run
import NatP2P.Network.Wire

/-!
# The virtual connection of an endpoint

Reference: `networkFrameWork/EndpointFrameMux.go`.

`push` queues a whole frame, and drops the oldest one that waits when there are too many. `Read`
hands out bytes in pieces of any size; the rest of a frame that it began is kept outside the queue,
where no drop reaches it. In any order of calls the reader gets whole frames in the order of the
pushes.
-/

namespace NatP2P.Network

open List

/-- `muxConnMaxQueue`. -/
def muxConnMaxQueue : ℕ := 8192

/-- The inbound side of `muxConn`. -/
structure MuxConn where
  queue : List Bytes
  rem : Bytes
  closed : Bool

namespace MuxConn

/-- `newMuxConnWithContext`. -/
def new : MuxConn := ⟨[], [], false⟩

/-- `push`. -/
def push (c : MuxConn) (b : Bytes) : MuxConn :=
  if c.closed then c
  else
    let queue := if muxConnMaxQueue ≤ c.queue.length then c.queue.tail else c.queue
    { c with queue := queue ++ [b] }

/-- What `Read` does. -/
inductive ReadResult where
  | bytes (data : Bytes)
  | eof
  | waits

/-- The loop of `Read` up to where it waits or has bytes: frames are taken off the queue until one
is not empty. -/
def fill (rem : Bytes) : List Bytes → Bytes × List Bytes
  | [] => (rem, [])
  | b :: queue => if rem = [] then fill b queue else (rem, b :: queue)

/-- `Read` into a buffer of `size` bytes. -/
def read (c : MuxConn) (size : ℕ) : MuxConn × ReadResult :=
  let (rem, queue) := fill c.rem c.queue
  if rem = [] then ({ c with rem, queue }, if c.closed then .eof else .waits)
  else ({ c with rem := rem.drop size, queue }, .bytes (rem.take size))

/-! ## Calls in any order -/

/-- A frame that can be serialised. -/
abbrev WireFrame := { f : Frame // f.OnWire }

/-- The serialised frame. -/
def WireFrame.encoding (frame : WireFrame) : Bytes := frame.val.encoding

/-- A call. -/
inductive Call where
  | push (frame : WireFrame)
  | read (size : ℕ)

/-- A call as a step. It puts out the bytes it returns, and whether it finds the queue full. -/
def call (c : MuxConn) : Call → MuxConn × Bytes × Bool
  | .push frame => (c.push frame.encoding, [], muxConnMaxQueue ≤ c.queue.length)
  | .read size =>
    match c.read size with
    | (c, .bytes data) => (c, data, false)
    | (c, _) => (c, [], false)

/-- The frames of the pushes, in their order. -/
def pushed (calls : List Call) : List WireFrame :=
  calls.filterMap fun
    | .push frame => some frame
    | .read _ => none

/-- What a connection holds and has put out: the bytes of the frames that were begun, and whole
frames that wait. They are some of those that were pushed, in order; one is missing for each
overflow. -/
structure Holds (pushes begun waiting : List WireFrame) (c : MuxConn) (out : List (Bytes × Bool)) :
    Prop where
  opened : c.closed = false
  order : begun ++ waiting <+ pushes
  bytes : out.flatMap Prod.fst ++ c.rem = begun.flatMap WireFrame.encoding
  queue : c.queue = waiting.map WireFrame.encoding
  missing : (begun ++ waiting).length + out.countP Prod.snd = pushes.length

variable {pushes begun waiting : List WireFrame} {c : MuxConn} {out : List (Bytes × Bool)}

theorem Holds.push (h : Holds pushes begun waiting c out) (frame : WireFrame) :
    ∃ waiting, Holds (pushes ++ [frame]) begun waiting (c.call (.push frame)).1
      (out ++ [(c.call (.push frame)).2]) := by
  obtain ⟨hopen, horder, hbytes, hqueue, hmissing⟩ := h
  have hlength : c.queue.length = waiting.length := by rw [hqueue, length_map]
  rw [length_append] at hmissing
  rw [call, MuxConn.push, if_neg (by simp [hopen])]
  by_cases hfull : muxConnMaxQueue ≤ c.queue.length
  · -- the oldest frame that waits is dropped, never one that was begun
    refine ⟨waiting.tail ++ [frame], hopen, ?_, by simpa using hbytes, ?_, ?_⟩
    · rw [← append_assoc]
      exact (((tail_sublist _).append_left begun).trans horder).append_right _
    · rw [if_pos hfull, hqueue, map_append, map_tail, map_singleton]
    · simp only [hfull, decide_true, countP_append, countP_singleton, length_append, length_tail,
        length_singleton, if_true]
      rw [muxConnMaxQueue] at hfull
      omega
  · refine ⟨waiting ++ [frame], hopen, ?_, by simpa using hbytes, ?_, ?_⟩
    · rw [← append_assoc]
      exact horder.append_right _
    · rw [if_neg hfull, hqueue, map_append, map_singleton]
    · simp [hfull]
      omega

/-- `Read` begins frames from the front of the queue. -/
theorem fill_spec {returned rem : Bytes} {queue : List Bytes}
    (hbytes : returned ++ rem = begun.flatMap WireFrame.encoding)
    (hqueue : queue = waiting.map WireFrame.encoding) :
    ∃ begun' waiting', begun' ++ waiting' = begun ++ waiting ∧
      returned ++ (fill rem queue).1 = begun'.flatMap WireFrame.encoding ∧
      (fill rem queue).2 = waiting'.map WireFrame.encoding := by
  subst hqueue
  induction waiting generalizing begun rem with
  | nil => exact ⟨begun, [], rfl, hbytes, rfl⟩
  | cons first waiting ih =>
    rw [map_cons, fill]
    split_ifs with hempty
    · rw [hempty, append_nil] at hbytes
      obtain ⟨begun', waiting', hall, hfill⟩ := @ih (begun ++ [first]) first.encoding (by simp [hbytes])
      exact ⟨begun', waiting', by simp [hall], hfill⟩
    · exact ⟨begun, first :: waiting, rfl, hbytes, rfl⟩

theorem Holds.read (h : Holds pushes begun waiting c out) (size : ℕ) :
    ∃ begun waiting, Holds pushes begun waiting (c.call (.read size)).1
      (out ++ [(c.call (.read size)).2]) := by
  obtain ⟨hopen, horder, hbytes, hqueue, hmissing⟩ := h
  obtain ⟨begun', waiting', hall, hfill, hrest⟩ := fill_spec hbytes hqueue
  rw [← hall] at horder hmissing
  refine ⟨begun', waiting', ?_⟩
  rw [call, MuxConn.read, hopen]
  dsimp only
  split_ifs with hempty
  all_goals exact ⟨rfl, horder, by simpa using hfill, hrest, by simpa using hmissing⟩

/-- In any order of pushes and reads, what was returned together with the rest of the last frame
that was begun is read by `ReadFrame` as whole frames. They are some of the pushed ones, in order,
and only frames that were not begun are missing, one for each push that found `muxConnMaxQueue`
waiting. -/
theorem mux_conn_whole_frames (calls : List Call) :
    ∃ begun waiting, Holds (pushed calls) begun waiting (runSteps call new calls).1
        (runSteps call new calls).2 ∧
      Reads (begun.flatMap WireFrame.encoding) (begun.map Subtype.val) .endOfStream := by
  suffices hrun : ∃ begun waiting, Holds (pushed calls) begun waiting (runSteps call new calls).1
      (runSteps call new calls).2 by
    obtain ⟨begun, waiting, h⟩ := hrun
    have hreads := reads_encodings (forall_mem_map.mpr fun (f : WireFrame) (_ : f ∈ begun) => f.property)
    rw [flatMap_map] at hreads
    exact ⟨begun, waiting, h, hreads⟩
  induction calls using reverseRecOn with
  | nil => exact ⟨[], [], rfl, .refl _, rfl, rfl, rfl⟩
  | append_singleton calls next ih =>
    obtain ⟨begun, waiting, h⟩ := ih
    rw [runSteps_concat, pushed, filterMap_append]
    cases next with
    | push frame => exact ⟨begun, h.push frame⟩
    | read size =>
      rw [filterMap_cons_none rfl, filterMap_nil, append_nil]
      exact h.read size

end MuxConn

end NatP2P.Network
