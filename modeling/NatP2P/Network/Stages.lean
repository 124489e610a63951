import NatP2P.Network.Delivery

/-!
# The stages of a message at its receiver

Reference: `networkFrameWork/TcpStream.go`.

A message passes through the receiver in stages: its frames are collected, the last one completes
it, it is marked as delivered and put into the inbox. What the receiver acknowledges of a message is
tied to its stage. While frames are collected, only collected numbers are acknowledged. The number
of the frame that completes the message is not among them, because `Add` takes it into the buffer
and gives the buffer up in one critical section, and it is acknowledged only when the message is in
the inbox.

`ReceiverInv` says that every message is in one of the stages; each step of the receiver keeps it.
-/

namespace NatP2P.Network

open List Option Receiver

/-! ## Stages -/

/-- The frame and the message that `handleData` is handing over. -/
def ReadPhase.completing : ReadPhase → Option (Frame × Message)
  | .added f (some message) => some (f, message)
  | .tracked f (some message) _ => some (f, message)
  | .untracked f message => some (f, message)
  | .marked f message => some (f, message)
  | _ => none

/-- The ranges that are about to be acknowledged, with their ids. -/
def ReadPhase.announces : ReadPhase → List (ℕ × List AckRange)
  | .resetting messageId _ ranges => [(messageId, ranges)]
  | .acking messageId _ ranges => [(messageId, ranges)]
  | _ => []

/-- The read loop has ended. -/
def ReadPhase.isStopped : ReadPhase → Bool
  | .stopped => true
  | _ => false

/-- The ranges that are about to be acknowledged, with their ids. -/
def TimerPhase.announces : TimerPhase → List (ℕ × List AckRange)
  | .acking messageId _ ranges _ => [(messageId, ranges)]
  | _ => []

/-- A number was acknowledged. -/
def Acked (acks : List Frame) (messageId seq : ℕ) : Prop :=
  ∃ ack ∈ acks, ack.messageId = messageId ∧
    ∃ ranges, decodeAckRanges ack.payload = .ok ranges ∧ seq ∈ covered ranges

variable {messageId seq total id : ℕ} {message : Message} {ranges : List AckRange} {ack : Frame}
  {connectionId : Bytes}

theorem Acked.mono {acks more : List Frame} (h : Acked acks messageId seq) :
    Acked (acks ++ more) messageId seq := by
  obtain ⟨ack, hack, hrest⟩ := h
  exact ⟨ack, mem_append_left _ hack, hrest⟩

/-- A number is among announced ranges. -/
def Announced (announces : List (ℕ × List AckRange)) (messageId seq : ℕ) : Prop :=
  ∃ entry ∈ announces, entry.1 = messageId ∧ seq ∈ covered entry.2

/-- What a receiver knows of one message. -/
structure View where
  buffer : Option FrameBuffer
  delivered : Bool
  puts : List Message
  first : Option (ℕ × Message)
  completing : Option (Frame × Message)
  stopped : Bool

/-- The view of a message in terms of what it depends on. -/
def viewOf (assembler : FrameAssembler) (delivered : Finset ℕ) (puts : List (ℕ × Message))
    (first : Option FirstMessage) (read : ReadPhase) (messageId : ℕ) : View where
  buffer := assembler.buffers.get messageId
  delivered := decide (messageId ∈ delivered)
  puts := (puts.filter fun entry => entry.1 = messageId).map Prod.snd
  first := (first.filter fun x => x.messageId = messageId).map fun x => (x.totalFrames, x.message)
  completing := read.completing.filter fun x => x.1.messageId = messageId
  stopped := read.isStopped

/-- The stage of a message, of which the numbers in `promised` are or will be acknowledged. -/
inductive Stage (promised : ℕ → Prop) : View → Option Parcel → Prop
  /-- There is no such message yet. -/
  | untouched {stopped : Bool} (h : ∀ seq, ¬ promised seq) :
      Stage promised ⟨none, false, [], none, none, stopped⟩ none
  /-- Some of its frames have arrived. -/
  | collecting {p : Parcel} {buffer : Option FrameBuffer} {seqs : Finset ℕ} {stopped : Bool}
      (hholds : p.Holds buffer seqs) (h : ∀ seq, promised seq → seq ∈ seqs) :
      Stage promised ⟨buffer, false, [], none, none, stopped⟩ (some p)
  /-- It is complete, but not in the inbox. -/
  | completing {p : Parcel} {f : Frame} {delivered : Bool} (hpiece : p.Piece f)
      (h : ∀ seq, promised seq → seq < p.chunks.length ∧ seq ≠ f.seqId) :
      Stage promised ⟨none, delivered, [], none, some (f, p.message), false⟩ (some p)
  /-- The stream was closed before it was put into the inbox. -/
  | lost {p : Parcel} {f : Frame} (hpiece : p.Piece f)
      (h : ∀ seq, promised seq → seq < p.chunks.length ∧ seq ≠ f.seqId) :
      Stage promised ⟨none, true, [], none, none, true⟩ (some p)
  /-- It is in the inbox. -/
  | put {p : Parcel} {stopped : Bool} (h : ∀ seq, promised seq → seq < p.chunks.length) :
      Stage promised ⟨none, true, [p.message], none, none, stopped⟩ (some p)
  /-- It was returned by `AcceptTcpStreamSync`. -/
  | first {p : Parcel} {stopped : Bool} (h : ∀ seq, promised seq → seq < p.chunks.length) :
      Stage promised ⟨none, true, [], some (p.chunks.length, p.message), none, stopped⟩ (some p)

section Stage

variable {promised promised' : ℕ → Prop} {v : View} {p : Parcel} {known : Option Parcel}

/-- The stage of a view, by its parts. -/
theorem Stage.of_parts {w : View} (h : Stage promised w known) (hbuffer : v.buffer = w.buffer)
    (hdelivered : v.delivered = w.delivered) (hputs : v.puts = w.puts) (hfirst : v.first = w.first)
    (hcompleting : v.completing = w.completing) (hstopped : v.stopped = w.stopped) :
    Stage promised v known := by
  obtain ⟨_, _, _, _, _, _⟩ := v
  subst hbuffer hdelivered hputs hfirst hcompleting hstopped
  exact h

theorem Stage.mono (h : Stage promised v known) (hle : ∀ seq, promised' seq → promised seq) :
    Stage promised' v known := by
  cases h with
  | untouched h => exact .untouched fun seq hseq => h seq (hle seq hseq)
  | collecting hholds h => exact .collecting hholds fun seq hseq => h seq (hle seq hseq)
  | completing hpiece h => exact .completing hpiece fun seq hseq => h seq (hle seq hseq)
  | lost hpiece h => exact .lost hpiece fun seq hseq => h seq (hle seq hseq)
  | put h => exact .put fun seq hseq => h seq (hle seq hseq)
  | first h => exact .first fun seq hseq => h seq (hle seq hseq)

/-- A message that is neither delivered nor complete is being collected. -/
theorem Stage.collecting_inv (h : Stage promised v (some p)) (hdelivered : v.delivered = false)
    (hcompleting : v.completing = none) :
    ∃ seqs, p.Holds v.buffer seqs ∧ (∀ seq, promised seq → seq ∈ seqs) ∧
      v = ⟨v.buffer, false, [], none, none, v.stopped⟩ := by
  cases h with
  | collecting hholds h => exact ⟨_, hholds, h, rfl⟩
  | completing _ _ => cases hcompleting
  | lost | put | first => cases hdelivered

/-- So is a message with a buffer. -/
theorem Stage.buffer_inv {buf : FrameBuffer} (h : Stage promised v known)
    (hbuffer : v.buffer = some buf) :
    ∃ p, known = some p ∧ p.Holds (some buf) buf.frames.keys ∧
      (∀ seq, promised seq → seq ∈ buf.frames.keys) ∧
      v = ⟨some buf, false, [], none, none, v.stopped⟩ := by
  cases h with
  | untouched | completing | lost | put | first => cases hbuffer
  | @collecting p _ _ _ hholds h =>
    obtain rfl := hbuffer
    cases hholds with
    | some hnonempty hmissing htotal hpieces =>
      exact ⟨p, rfl, .some hnonempty hmissing htotal hpieces, h, rfl⟩

theorem Stage.completing_inv {f : Frame} (h : Stage promised v (some p))
    (hcompleting : v.completing = some (f, message)) :
    message = p.message ∧ p.Piece f ∧
      (∀ seq, promised seq → seq < p.chunks.length ∧ seq ≠ f.seqId) ∧
      v = ⟨none, v.delivered, [], none, some (f, p.message), false⟩ := by
  cases h with
  | collecting | lost | put | first => cases hcompleting
  | completing hpiece h =>
    obtain ⟨rfl, rfl⟩ := Prod.mk.inj (some.inj hcompleting)
    exact ⟨rfl, hpiece, h, rfl⟩

/-- A delivered message, as long as the stream is read, may be acknowledged as a whole. -/
theorem Stage.full {promised' : ℕ → Prop} (h : Stage promised v (some p))
    (hdelivered : v.delivered = true) (hcompleting : v.completing = none)
    (hstopped : v.stopped = false)
    (hle : ∀ seq, promised' seq → promised seq ∨ seq < p.chunks.length) :
    Stage promised' v (some p) := by
  cases h with
  | collecting _ _ => cases hdelivered
  | completing _ _ => cases hcompleting
  | lost _ _ => cases hstopped
  | put h => exact .put fun seq hseq => (hle seq hseq).elim (h seq) id
  | first h => exact .first fun seq hseq => (hle seq hseq).elim (h seq) id

/-- The end of the read loop, when no message is being handed over. -/
theorem Stage.stop (h : Stage promised v known) (hcompleting : v.completing = none) :
    Stage promised { v with stopped := true } known := by
  cases h with
  | untouched h => exact .untouched h
  | collecting hholds h => exact .collecting hholds h
  | completing _ _ => cases hcompleting
  | lost hpiece h => exact .lost hpiece h
  | put h => exact .put h
  | first h => exact .first h

/-- The first message of a stream may be acknowledged as a whole. -/
theorem Stage.first_inv {promised' : ℕ → Prop}
    (h : Stage promised v known) (hfirst : v.first = some (total, message))
    (hle : ∀ seq, promised' seq → promised seq ∨ seq < total) :
    Stage promised' v known ∧ ∃ p, known = some p ∧ total = p.chunks.length := by
  cases h with
  | untouched | collecting | completing | lost | put => cases hfirst
  | @first p _ h =>
    obtain ⟨rfl, rfl⟩ := Prod.mk.inj (some.inj hfirst)
    exact ⟨.first fun seq hseq => (hle seq hseq).elim (h seq) id, p, rfl, rfl⟩

theorem Stage.promised_lt (h : Stage promised v (some p)) (hseq : promised seq) :
    seq < p.chunks.length := by
  cases h with
  | collecting hholds h =>
    exact Finset.mem_range.mp ((FrameAssembler.holds_subset hholds).subset (h seq hseq))
  | completing _ h => exact (h seq hseq).1
  | lost _ h => exact (h seq hseq).1
  | put h => exact h seq hseq
  | first h => exact h seq hseq

end Stage

/-! ## The invariant -/

namespace Receiver

/-- The view of a message. -/
def view (r : Receiver) (messageId : ℕ) : View :=
  viewOf r.assembler r.delivered r.puts r.first r.read messageId

/-- What is about to be acknowledged. -/
def announces (r : Receiver) : List (ℕ × List AckRange) := r.read.announces ++ r.timer.announces

/-- A number is or will be acknowledged. -/
def Promised (r : Receiver) (acks : List Frame) (messageId seq : ℕ) : Prop :=
  Acked acks messageId seq ∨ Announced r.announces messageId seq

end Receiver

/-- A frame of a message that was sent. `world` maps the ids of the messages that were sent to their
parcels. -/
def Known (world : ℕ → Option Parcel) (f : Frame) : Prop :=
  ∃ p, world f.messageId = some p ∧ p.Piece f

/-- What is known at each point of `handleData`. -/
def ReadPhase.Fits (world : ℕ → Option Parcel) (delivered : Finset ℕ)
    (first : Option FirstMessage) : ReadPhase → Prop
  | .accepting => first = none ∧ delivered = ∅
  | .checked f => Known world f ∧ f.messageId ∉ delivered
  | .added f _ => Known world f
  | .tracked f _ _ => Known world f
  | .untracked f _ => Known world f
  | .marked f _ => Known world f ∧ f.messageId ∈ delivered
  | _ => True

/-- Every message is in one of the stages. -/
structure ReceiverInv (world : ℕ → Option Parcel) (acks : List Frame) (r : Receiver) : Prop where
  stage : ∀ id, Stage (r.Promised acks id) (r.view id) (world id)
  fits : r.read.Fits world r.delivered r.first
  inRange : ∀ entry ∈ r.announces, ∀ range ∈ entry.2, range.InRange

/-- Ranges of numbers that may be acknowledged. -/
structure Allowed (world : ℕ → Option Parcel) (acks : List Frame) (r : Receiver) (messageId : ℕ)
    (ranges : List AckRange) : Prop where
  inRange : ∀ range ∈ ranges, range.InRange
  stage : Stage (fun seq => r.Promised acks messageId seq ∨ seq ∈ covered ranges)
    (r.view messageId) (world messageId)

/-! ## Steps -/

/-- What a new ACK frame acknowledges. -/
theorem acked_concat {acks : List Frame}
    (hbuild : buildAckFrame messageId total ranges connectionId = .ok ack)
    (hinRange : ∀ range ∈ ranges, range.InRange) (h : Acked (acks ++ [ack]) id seq) :
    Acked acks id seq ∨ id = messageId ∧ seq ∈ covered ranges := by
  unfold buildAckFrame at hbuild
  simp only [bind_ok_iff, pure_ok_iff] at hbuild
  obtain ⟨payload, hpayload, rfl⟩ := hbuild
  obtain ⟨other, hother, hid, decoded, hdecoded, hseq⟩ := h
  rcases mem_append.mp hother with hother | hother
  · exact .inl ⟨other, hother, hid, decoded, hdecoded, hseq⟩
  · obtain rfl := mem_singleton.mp hother
    rw [decodeAckRanges_encode hinRange hpayload] at hdecoded
    obtain rfl := Except.ok.inj hdecoded
    exact .inr ⟨hid.symm, hseq⟩

namespace ReceiverInv

variable {world : ℕ → Option Parcel} {acks acks' : List Frame} {r r' : Receiver} {f : Frame}
  {order : GoMap.Order ℕ} {turn : Turn}

section

variable (h : ReceiverInv world acks r)
include h

/-- A step without a new announcement. -/
theorem shrink (hstage : ∀ id, Stage (r.Promised acks id) (r'.view id) (world id))
    (hfits : r'.read.Fits world r'.delivered r'.first)
    (hannounces : ∀ entry ∈ r'.announces, entry ∈ r.announces) : ReceiverInv world acks r' := by
  refine ⟨fun id => (hstage id).mono fun seq hseq => hseq.imp_right ?_, hfits,
    fun entry hentry => h.inRange entry (hannounces entry hentry)⟩
  rintro ⟨entry, hentry, hrest⟩
  exact ⟨entry, hannounces entry hentry, hrest⟩

/-- A step behind which `handleData` announces nothing. -/
theorem quiet (htimer : r'.timer = r.timer)
    (hquiet : r'.read.announces = []) (hfits : r'.read.Fits world r'.delivered r'.first)
    (hstage : ∀ id, Stage (r.Promised acks id) (r'.view id) (world id)) :
    ReceiverInv world acks r' := by
  refine h.shrink hstage hfits fun entry hentry => ?_
  rw [announces, hquiet, htimer] at hentry
  exact mem_append_right _ hentry

/-- `handleData` goes on, and nothing that the stages depend on changes. -/
theorem move {old read : ReadPhase} {recvTrackers} (hread : r.read = old)
    (hcompleting : read.completing = old.completing) (hstopped : read.isStopped = old.isStopped)
    (hquiet : read.announces = []) (hfits : read.Fits world r.delivered r.first) :
    ReceiverInv world acks { r with recvTrackers, read } := by
  refine h.quiet rfl hquiet hfits fun id => ?_
  rw [view, viewOf, hcompleting, hstopped, ← hread]
  exact h.stage id

theorem stage_update (messageId : ℕ) (hview : ∀ id ≠ messageId, r'.view id = r.view id)
    (hstage : Stage (r.Promised acks messageId) (r'.view messageId) (world messageId)) (id : ℕ) :
    Stage (r.Promised acks id) (r'.view id) (world id) := by
  by_cases hid : id = messageId
  · rw [hid]
    exact hstage
  · rw [hview id hid]
    exact h.stage id

omit h in
theorem completing_view (hcompleting : r.read.completing = none) :
    (r.view id).completing = none := by
  show r.read.completing.filter _ = none
  rw [hcompleting]
  rfl

theorem stop (hcompleting : r.read.completing = none) : ReceiverInv world acks r.stop := by
  refine h.quiet rfl rfl trivial fun id => ?_
  have hview : r.stop.view id = { r.view id with stopped := true } := by
    rw [view, view, viewOf, viewOf, hcompleting]
    rfl
  rw [hview]
  exact (h.stage id).stop (completing_view hcompleting)

/-- Promises of numbers that may be acknowledged are added. -/
theorem promise (hallowed : Allowed world acks r messageId ranges)
    (hview : ∀ id, r'.view id = r.view id)
    (hpromised : ∀ id seq, r'.Promised acks' id seq →
      r.Promised acks id seq ∨ id = messageId ∧ seq ∈ covered ranges) (id : ℕ) :
    Stage (r'.Promised acks' id) (r'.view id) (world id) := by
  rw [hview id]
  by_cases hid : id = messageId
  · subst hid
    exact hallowed.stage.mono fun seq hseq => (hpromised id seq hseq).imp_right And.right
  · exact (h.stage id).mono fun seq hseq =>
      (hpromised id seq hseq).resolve_right fun hother => hid hother.1

/-- New announcements about one message, in front of the timer's. -/
theorem announce (hallowed : Allowed world acks r messageId ranges)
    (hview : ∀ id, r'.view id = r.view id) (hfits : r'.read.Fits world r'.delivered r'.first)
    (hannounces : ∀ entry ∈ r'.announces, entry ∈ r.announces ∨ entry = (messageId, ranges)) :
    ReceiverInv world acks r' := by
  refine ⟨h.promise hallowed hview fun id seq hseq => ?_, hfits, fun entry hentry => ?_⟩
  · rcases hseq with hacked | ⟨entry, hentry, hid, hcovered⟩
    · exact .inl (.inl hacked)
    · rcases hannounces entry hentry with hold | rfl
      · exact .inl (.inr ⟨entry, hold, hid, hcovered⟩)
      · exact .inr ⟨hid.symm, hcovered⟩
  · rcases hannounces entry hentry with hold | rfl
    · exact h.inRange entry hold
    · exact hallowed.inRange

/-- An ACK frame is written for numbers that may be acknowledged. -/
theorem written (hallowed : Allowed world acks r messageId ranges)
    (hbuild : buildAckFrame messageId total ranges connectionId = .ok ack)
    (hview : ∀ id, r'.view id = r.view id) (hfits : r'.read.Fits world r'.delivered r'.first)
    (hannounces : ∀ entry ∈ r'.announces, entry ∈ r.announces) :
    ReceiverInv world (acks ++ [ack]) r' := by
  refine ⟨h.promise hallowed hview fun id seq hseq => ?_, hfits,
    fun entry hentry => h.inRange entry (hannounces entry hentry)⟩
  rcases hseq with hacked | ⟨entry, hentry, hid, hcovered⟩
  · exact (acked_concat hbuild hallowed.inRange hacked).imp_left .inl
  · exact .inl (.inr ⟨entry, hannounces entry hentry, hid, hcovered⟩)

/-- What is announced may be acknowledged. -/
theorem announced (hentry : (messageId, ranges) ∈ r.announces) :
    Allowed world acks r messageId ranges := by
  refine ⟨h.inRange _ hentry, (h.stage messageId).mono fun seq hseq => ?_⟩
  exact hseq.elim id fun hcovered => .inr ⟨_, hentry, rfl, hcovered⟩

/-- A frame of a delivered message is answered with a full acknowledgement. -/
theorem acknowledge (hf : Known world f) (hread : r.read = .reading)
    (hdelivered : f.messageId ∈ r.delivered) :
    ReceiverInv world acks
      { r with read := .acking f.messageId f.totalFrames (fullAckRange f.totalFrames) } := by
  obtain ⟨p, hp, hf⟩ := hf
  have hshort : f.totalFrames < 2 ^ 32 := hf.total ▸ p.short
  have hstage := h.stage f.messageId
  rw [hp] at hstage
  have hallowed : Allowed world acks r f.messageId (fullAckRange f.totalFrames) := by
    refine ⟨inRange_fullAckRange hshort, ?_⟩
    rw [hp]
    refine hstage.full (decide_eq_true hdelivered) (completing_view (by rw [hread]; rfl)) ?_ ?_
    · show r.read.isStopped = false
      rw [hread]
      rfl
    · intro seq hseq
      rw [← hf.total]
      exact hseq.imp_right mem_covered_fullAckRange.mp
  refine h.announce hallowed (fun id => ?_) trivial ?_
  · rw [view, view, hread]
    rfl
  · intro entry hentry
    rcases mem_append.mp hentry with hentry | hentry
    · exact .inr (mem_singleton.mp hentry)
    · exact .inl (mem_append_right _ hentry)

/-- What is in a buffer may be acknowledged. -/
theorem snapshot (hsnapshot : r.assembler.snapshot messageId = some (ranges, total)) :
    Allowed world acks r messageId ranges := by
  obtain ⟨buf, hbuf, heq⟩ := map_eq_some_iff.mp hsnapshot
  obtain ⟨rfl, rfl⟩ := Prod.mk.inj heq
  obtain ⟨p, hp, hholds, hpromised, hview⟩ := (h.stage messageId).buffer_inv hbuf
  have hlt (seq : ℕ) (hseq : seq ∈ buf.frames.keys.sort (· ≤ ·)) : seq < 2 ^ 32 := by
    have hmem := (FrameAssembler.holds_subset hholds).subset ((Finset.mem_sort _).mp hseq)
    exact (Finset.mem_range.mp hmem).trans p.short
  refine ⟨fun range hrange => ?_, ?_⟩
  · obtain ⟨hstart, hstop⟩ := bounds_seqsToRanges hrange
    exact ⟨hlt _ hstart, hlt _ hstop⟩
  · rw [hview, hp]
    refine .collecting hholds fun seq hseq => ?_
    rcases hseq with hseq | hseq
    · exact hpromised seq hseq
    · exact (Finset.mem_sort _).mp (covered_seqsToRanges hseq)

/-- The first message of a stream may be acknowledged. -/
theorem firstMessage {x : FirstMessage} (hfirst : r.first = some x) :
    Allowed world acks r x.messageId (fullAckRange x.totalFrames) := by
  have hview : (r.view x.messageId).first = some (x.totalFrames, x.message) := by
    simp [view, viewOf, hfirst]
  obtain ⟨hstage, p, -, htotal⟩ := (h.stage x.messageId).first_inv hview
    fun seq hseq => Or.imp_right mem_covered_fullAckRange.mp hseq
  exact ⟨inRange_fullAckRange (htotal ▸ p.short), hstage⟩

end

/-! ### The read loop -/

/-- A frame has completed its message, which is not in the inbox. -/
structure Complete (world : ℕ → Option Parcel) (acks : List Frame) (r : Receiver) (f : Frame)
    (assembler : FrameAssembler) (p : Parcel) : Prop where
  known : world f.messageId = some p
  piece : p.Piece f
  buffer : assembler.buffers.get f.messageId = none
  puts : (r.view f.messageId).puts = []
  first : (r.view f.messageId).first = none
  promised : ∀ seq, r.Promised acks f.messageId seq → seq < p.chunks.length ∧ seq ≠ f.seqId

/-- What `Add` does with a frame of a message that is not complete: the frame is kept, or it
completes the message. -/
inductive Adds (world : ℕ → Option Parcel) (acks : List Frame) (r : Receiver) (f : Frame)
    (assembler : FrameAssembler) : Option Message → Prop
  | kept (h : ∀ read : ReadPhase, read.completing = none → Stage (r.Promised acks f.messageId)
      (viewOf assembler r.delivered r.puts r.first read f.messageId) (world f.messageId)) :
      Adds world acks r f assembler none
  | last {p : Parcel} (h : Complete world acks r f assembler p) :
      Adds world acks r f assembler (some p.message)

/-- The message is still handed over. -/
theorem Complete.stage {p : Parcel} (h : Complete world acks r f r'.assembler p)
    (hputs : r'.puts = r.puts) (hfirst : r'.first = r.first)
    (hcompleting : r'.read.completing = some (f, p.message))
    (hstopped : r'.read.isStopped = false) :
    Stage (r.Promised acks f.messageId) (r'.view f.messageId) (world f.messageId) := by
  rw [h.known]
  refine .of_parts (.completing h.piece h.promised) h.buffer rfl ?_ ?_ ?_ hstopped
  · rw [view, hputs]
    exact h.puts
  · rw [view, hfirst]
    exact h.first
  · simp [view, viewOf, hcompleting]

section

variable (h : ReceiverInv world acks r)
include h

theorem add (hf : Known world f)
    (hcompleting : r.read.completing = none) (hdelivered : f.messageId ∉ r.delivered) :
    ∃ message assembler, r.assembler.add order f = (.ok message, assembler) ∧
      (∀ id ≠ f.messageId, assembler.buffers.get id = r.assembler.buffers.get id) ∧
      Adds world acks r f assembler message := by
  obtain ⟨p, hp, hf⟩ := hf
  have hstage := h.stage f.messageId
  rw [hp] at hstage
  obtain ⟨seqs, hholds, hpromised, hview⟩ :=
    hstage.collecting_inv (decide_eq_false hdelivered) (completing_view hcompleting)
  have hputs : (r.view f.messageId).puts = [] := by rw [hview]
  have hfirst : (r.view f.messageId).first = none := by rw [hview]
  rw [hf.id]
    at hholds
  obtain ⟨hresult, hnext, hothers⟩ := @FrameAssembler.add_piece p r.assembler f order seqs hholds hf
  generalize r.assembler.add order f = out at hresult hnext hothers
  obtain ⟨result, assembler⟩ := out
  simp only at hnext
  subst hresult
  rw [← hf.id] at hnext hothers
  refine ⟨_, assembler, rfl, hothers, ?_⟩
  by_cases hlast : insert f.seqId seqs = Finset.range p.chunks.length
  · rw [if_pos hlast] at hnext ⊢
    refine .last ⟨hp, hf, hnext.eq_none, hputs, hfirst, fun seq hseq => ⟨?_, ?_⟩⟩
    · exact Finset.mem_range.mp
        ((FrameAssembler.holds_subset hholds).subset (hpromised seq hseq))
    · -- the last number is not among those that arrived before
      rintro rfl
      rw [Finset.insert_eq_of_mem (hpromised _ hseq)] at hlast
      exact (FrameAssembler.holds_subset hholds).ne hlast
  · rw [if_neg hlast] at hnext ⊢
    refine .kept fun read hread => ?_
    have hnew : viewOf assembler r.delivered r.puts r.first read f.messageId =
        ⟨assembler.buffers.get f.messageId, false, [], none, none, read.isStopped⟩ := by
      rw [viewOf, hread, decide_eq_false hdelivered]
      exact congrArg₂ (fun puts first => View.mk _ _ puts first _ _) hputs hfirst
    rw [hnew, hp]
    exact .collecting hnext fun seq hseq => Finset.mem_insert_of_mem (hpromised seq hseq)

/-- A frame is kept while the read loop goes on. -/
theorem kept {assembler : FrameAssembler} {read : ReadPhase}
    (hothers : ∀ id ≠ f.messageId, assembler.buffers.get id = r.assembler.buffers.get id)
    (hadds : Adds world acks r f assembler none) (hcompleting : r.read.completing = none)
    (hnext : read.completing = none) (hstopped : read.isStopped = r.read.isStopped)
    (hquiet : read.announces = []) (hfits : read.Fits world r.delivered r.first) :
    ReceiverInv world acks { r with assembler, read } := by
  cases hadds with
  | kept hstage =>
    refine h.quiet rfl hquiet hfits (h.stage_update f.messageId (fun id hid => ?_) ?_)
    · show viewOf assembler r.delivered r.puts r.first read id = r.view id
      rw [view, viewOf, viewOf, hothers id hid, hnext, hcompleting, hstopped]
    · exact hstage read hnext

theorem handleFrame (hf : Known world f) : ReceiverInv world acks (r.handleFrame order f) := by
  unfold Receiver.handleFrame
  by_cases hclosed : r.closed
  · rw [if_pos hclosed]
    exact h
  rw [if_neg hclosed]
  have hfits := h.fits
  split
  · rename_i hread
    rw [hread] at hfits
    have hdelivered : f.messageId ∉ r.delivered := by
      rw [hfits.2]
      exact Finset.notMem_empty _
    have hcompleting : r.read.completing = none := by rw [hread]; rfl
    obtain ⟨message, assembler, hadd, hothers, hadds⟩ :=
      @ReceiverInv.add world acks r f order h hf hcompleting hdelivered
    rw [hadd]
    rcases message with _ | message
    · exact h.kept hothers hadds hcompleting hcompleting rfl (by rw [hread]; rfl) h.fits
    · cases hadds with
      | @last p hlast =>
        refine h.quiet rfl rfl trivial (h.stage_update f.messageId (fun id hid => ?_) ?_)
        · rw [Receiver.view, Receiver.view, viewOf, viewOf]
          simp [hothers id hid, hid, hid.symm, hread, hfits.1, ReadPhase.completing,
            ReadPhase.isStopped]
        · rw [hlast.known]
          refine .of_parts (.first fun seq hseq => (hlast.promised seq hseq).1) hlast.buffer ?_
            hlast.puts ?_ rfl rfl
          · simp [Receiver.view, viewOf]
          · simp [Receiver.view, viewOf, hlast.piece.total]
  · rename_i hread
    split_ifs with hdelivered
    · exact h.acknowledge hf hread hdelivered
    · exact h.move hread rfl rfl rfl ⟨hf, hdelivered⟩
  · exact h

/-- `Add` in `handleData`. -/
theorem readStep_checked (hread : r.read = .checked f) :
    ∃ message assembler, r.assembler.add order f = (.ok message, assembler) ∧
      ReceiverInv world acks { r with assembler, read := .added f message } := by
  have hfits := h.fits
  rw [hread] at hfits
  have hcompleting : r.read.completing = none := by rw [hread]; rfl
  obtain ⟨message, assembler, hadd, hothers, hadds⟩ :=
    @ReceiverInv.add world acks r f order h hfits.1 hcompleting hfits.2
  refine ⟨message, assembler, hadd, ?_⟩
  rcases message with _ | message
  · exact h.kept hothers hadds hcompleting rfl (by rw [hread]; rfl) rfl hfits.1
  · cases hadds with
    | last hlast =>
      refine h.quiet rfl rfl hfits.1 (h.stage_update f.messageId (fun id hid => ?_) ?_)
      · rw [view, view, viewOf, viewOf]
        simp [hothers id hid, hid.symm, hread, ReadPhase.completing, ReadPhase.isStopped]
      · exact hlast.stage rfl rfl rfl rfl

end

/-- A message that is being handed over is not another one. -/
theorem filter_other (hid : id ≠ f.messageId) :
    (some (f, message)).filter (fun x : Frame × Message => x.1.messageId = id) = none :=
  filter_some_neg (by simpa using hid.symm)

section

variable (h : ReceiverInv world acks r)
include h

/-- The view of a message that is being handed over. -/
theorem handing {read : ReadPhase} (hread : r.read = read)
    (hcompleting : read.completing = some (f, message)) (hf : Known world f) :
    ∃ p, message = p.message ∧ Complete world acks r f r.assembler p := by
  obtain ⟨p, hp, -⟩ := hf
  have hstage := h.stage f.messageId
  rw [hp] at hstage
  have hview : (r.view f.messageId).completing = some (f, message) := by
    simp [view, viewOf, hread, hcompleting]
  obtain ⟨hmessage, hpiece, hpromised, heq⟩ := hstage.completing_inv hview
  exact ⟨p, hmessage, hp, hpiece, congrArg View.buffer heq, congrArg View.puts heq,
    congrArg View.first heq, hpromised⟩

theorem readStep_untracked (hread : r.read = .untracked f message) :
    ReceiverInv world acks
      { r with delivered := insert f.messageId r.delivered, read := .marked f message } := by
  have hfits := h.fits
  rw [hread] at hfits
  obtain ⟨p, rfl, hcomplete⟩ := h.handing hread rfl hfits
  refine h.quiet rfl rfl ⟨hfits, Finset.mem_insert_self ..⟩
    (h.stage_update f.messageId (fun id hid => ?_) ?_)
  · rw [view, view, viewOf, viewOf]
    simp [hid, hread, ReadPhase.completing, ReadPhase.isStopped]
  · refine Complete.stage ?_ rfl rfl rfl rfl
    exact hcomplete

theorem readStep_put {inbox : List Message} (hread : r.read = .marked f message) :
    ReceiverInv world acks { r with
      inbox
      puts := r.puts ++ [(f.messageId, message)]
      read := .acking f.messageId f.totalFrames (fullAckRange f.totalFrames) } := by
  have hfits := h.fits
  rw [hread] at hfits
  obtain ⟨hf, hdelivered⟩ := hfits
  obtain ⟨p, rfl, hcomplete⟩ := h.handing hread rfl hf
  -- first without the announcement, then the announcement
  have hput : ReceiverInv world acks { r with
      inbox
      puts := r.puts ++ [(f.messageId, p.message)]
      read := .reading } := by
    refine h.quiet rfl rfl trivial (h.stage_update f.messageId (fun id hid => ?_) ?_)
    · rw [view, view, viewOf, viewOf]
      simp [hid.symm, hread, ReadPhase.completing, ReadPhase.isStopped, filter_other hid]
    · rw [hcomplete.known]
      refine .of_parts (.put fun seq hseq => (hcomplete.promised seq hseq).1) hcomplete.buffer
        (decide_eq_true hdelivered) ?_ hcomplete.first rfl rfl
      have hputs : (r.puts.filter fun entry => entry.1 = f.messageId).map Prod.snd = [] :=
        hcomplete.puts
      rw [view, viewOf, filter_append, map_append, hputs]
      simp
  exact hput.acknowledge hf rfl hdelivered

/-- The stream is closed while the message waits for room in the inbox. -/
theorem readStep_giveUp (hread : r.read = .marked f message) : ReceiverInv world acks r.stop := by
  have hfits := h.fits
  rw [hread] at hfits
  obtain ⟨p, rfl, hcomplete⟩ := h.handing hread rfl hfits.1
  refine h.quiet rfl rfl trivial fun id => ?_
  by_cases hid : id = f.messageId
  · subst hid
    rw [hcomplete.known]
    exact .of_parts (.lost hcomplete.piece hcomplete.promised) hcomplete.buffer
      (decide_eq_true hfits.2) hcomplete.puts hcomplete.first rfl rfl
  · have hview : r.stop.view id = { r.view id with stopped := true } := by
      show viewOf r.assembler r.delivered r.puts r.first .stopped id = _
      rw [view, viewOf, viewOf]
      simp [hread, ReadPhase.completing, ReadPhase.isStopped, filter_other hid]
    rw [hview]
    refine (h.stage id).stop ?_
    simp [view, viewOf, hread, ReadPhase.completing, Ne.symm hid]

/-- The ranges of a batch are announced. -/
theorem readStep_snapshot {n : ℕ} (hread : r.read = .tracked f none n)
    (hsnapshot : r.assembler.snapshot f.messageId = some (ranges, total)) :
    ReceiverInv world acks { r with read := .resetting f.messageId total ranges } := by
  refine h.announce (h.snapshot hsnapshot) (fun id => ?_) trivial ?_
  · rw [view, view, hread]
    rfl
  · intro entry hentry
    rcases mem_append.mp hentry with hentry | hentry
    · exact .inr (mem_singleton.mp hentry)
    · exact .inl (mem_append_right _ hentry)

end

theorem sendAck_some (h : r.sendAck turn messageId total ranges = some ack) :
    buildAckFrame messageId total ranges r.connectionId = .ok ack := by
  unfold sendAck at h
  split_ifs at h
  rcases hbuild : buildAckFrame messageId total ranges r.connectionId with err | built
  · rw [hbuild] at h
    cases h
  · rw [hbuild] at h
    exact congrArg _ (some.inj h)

variable (h : ReceiverInv world acks r)
include h

/-- An acknowledgement of `handleData`. -/
theorem readStep_acking (hread : r.read = .acking messageId total ranges)
    (hack : r.sendAck turn messageId total ranges = some ack) :
    ReceiverInv world (acks ++ [ack]) { r with read := .reading } := by
  have hentry : (messageId, ranges) ∈ r.announces := by
    rw [announces, hread]
    exact mem_cons_self
  refine h.written (h.announced hentry) (sendAck_some hack) (fun id => ?_) trivial ?_
  · rw [view, view, hread]
    rfl
  · exact fun entry hentry => mem_append_right _ hentry

theorem silent : ReceiverInv world (acks ++ (none : Option Frame).toList) r :=
  (append_nil acks).symm ▸ h

theorem readStep : ReceiverInv world (acks ++ (r.readStep turn).2.toList) (r.readStep turn).1 := by
  have hfits := h.fits
  unfold Receiver.readStep
  split
  · rename_i f hread
    obtain ⟨message, assembler, hadd, hnext⟩ := @readStep_checked world acks r f turn.order h hread
    rw [hadd, toList_none, append_nil]
    exact hnext
  · rename_i f message hread
    rw [hread] at hfits
    refine silent (h.move hread ?_ rfl rfl hfits)
    cases message <;> rfl
  · rename_i f message n hread
    rw [hread] at hfits
    exact silent (h.move hread rfl rfl rfl hfits)
  · rename_i f message hread
    exact (h.readStep_untracked hread).silent
  · rename_i f message hread
    split_ifs
    · exact (h.readStep_giveUp hread).silent
    · exact (h.readStep_put hread).silent
    · exact h.silent
  · rename_i f n hread
    have hreading : ReceiverInv world acks { r with read := .reading } :=
      h.move hread rfl rfl rfl trivial
    split_ifs
    · rcases hsnapshot : r.assembler.snapshot f.messageId with _ | ⟨ranges, total⟩
      · exact hreading.silent
      · exact (h.readStep_snapshot hread hsnapshot).silent
    · exact hreading.silent
  · rename_i messageId total ranges hread
    refine silent (h.shrink (fun id => ?_) trivial fun entry hentry => ?_)
    · have hstage := h.stage id
      rwa [Receiver.view, hread] at hstage
    · rw [Receiver.announces, hread]
      exact hentry
  · rename_i messageId total ranges hread
    rcases hack : r.sendAck turn messageId total ranges with _ | ack
    · exact (h.stop (by rw [hread]; rfl)).silent
    · exact h.readStep_acking hread hack
  · exact h.silent

/-! ### The timer and the caller -/

theorem timerStep :
    ReceiverInv world (acks ++ (r.timerStep turn).2.toList) (r.timerStep turn).1 := by
  have hquiet (entry : ℕ × List AckRange) (hentry : entry ∈ r.read.announces ++ []) :
      entry ∈ r.announces := by
    rw [append_nil] at hentry
    exact mem_append_left _ hentry
  unfold Receiver.timerStep
  split
  · split_ifs <;> exact silent (h.shrink h.stage h.fits hquiet)
  · exact silent (h.shrink h.stage h.fits hquiet)
  · rename_i id rest htimer
    rcases hsnapshot : r.assembler.snapshot id with _ | ⟨ranges, total⟩
    · exact silent (h.shrink h.stage h.fits hquiet)
    · rw [toList_none, append_nil]
      refine h.announce (h.snapshot hsnapshot) (fun _ => rfl) h.fits fun entry hentry => ?_
      rcases mem_append.mp hentry with hentry | hentry
      · exact .inl (mem_append_left _ hentry)
      · exact .inr (mem_singleton.mp hentry)
  · rename_i messageId total ranges rest htimer
    rcases hack : r.sendAck turn messageId total ranges with _ | ack
    · exact silent (h.shrink h.stage h.fits hquiet)
    · have hentry : (messageId, ranges) ∈ r.announces := by
        rw [Receiver.announces, htimer]
        exact mem_append_right _ mem_cons_self
      exact h.written (h.announced hentry) (sendAck_some hack) (fun _ => rfl) h.fits hquiet
  · exact h.silent

theorem ackFirstMessage :
    ReceiverInv world (acks ++ (r.ackFirstMessage turn).2.toList) (r.ackFirstMessage turn).1 := by
  unfold Receiver.ackFirstMessage
  split
  · exact h.silent
  · rename_i x hfirst
    split_ifs
    · exact h.silent
    · rcases hack : r.sendAck turn x.messageId x.totalFrames (fullAckRange x.totalFrames) with _ | ack
      · exact silent (h.shrink h.stage h.fits fun _ hentry => hentry)
      · exact h.written (h.firstMessage hfirst) (sendAck_some hack) (fun _ => rfl) h.fits
          fun _ hentry => hentry

theorem startLoops : ReceiverInv world acks r.startLoops := by
  unfold Receiver.startLoops
  split
  · rename_i hread
    refine h.shrink (fun id => ?_) trivial nofun
    have hstage := h.stage id
    rwa [Receiver.view, hread] at hstage
  · exact h

end ReceiverInv

end NatP2P.Network
