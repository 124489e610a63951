import NatP2P.Network.Reassembly
import Mathlib

/-!
# Fragmentation and reassembly

Reference: `network/Message.go` and `network/Frame.go`.

The frames of a message are the pieces of a parcel, unless the `int` sum in `SplitToFrames`
overflows: then there are no frames at all. With frames, an assembler that is given the frames of
any number of messages in any order, with repetitions, returns every message once, at the frame that
completes it.
-/

namespace NatP2P.Network

open List

/-! ## The frames of a message -/

/-- Chunks of equal size, up to the last one, are a beginning of the list. -/
theorem flatMap_chunks {α : Type*} (l : List α) (size n : ℕ) :
    (List.range n).flatMap (fun i => (l.drop (i * size)).take size) = l.take (n * size) := by
  induction n with
  | zero => simp
  | succ n ih =>
    rw [range_succ, flatMap_append, ih, flatMap_singleton, Nat.succ_mul, take_add]

/-- A message that is cut under an id. The payload limit and the length of the bytes are `int`s. -/
structure Sending where
  messageId : ℕ
  message : Message
  maxPayload : ℤ
  maxPayload_le : maxPayload ≤ maxInt
  length_le : (headerLength + message.payload.length : ℤ) ≤ maxInt

variable {s : Sending}

namespace Sending

/-- The frames `SplitToFrames` returns. -/
def frames (s : Sending) : List Frame :=
  ((s.message.splitToFrames s.messageId s.maxPayload).toOption).getD []

/-- `SplitToFrames` returns no error. -/
def Splits (s : Sending) : Prop :=
  (s.message.splitToFrames s.messageId s.maxPayload).isOk

/-- The number of frames is computed without an overflow. -/
def Fits (s : Sending) : Prop :=
  ∀ body, s.message.parseToBytes = .ok body →
    body.length + effectivePayload s.maxPayload - 1 ≤ maxInt

theorem effectivePayload_pos (maxPayload : ℤ) : 0 < effectivePayload maxPayload := by
  unfold effectivePayload defaultMaxFramePayload
  split_ifs <;> omega

/-- What `SplitToFrames` returns, in terms of the bytes of the message. -/
theorem frames_eq (hsplits : s.Splits) :
    ∃ body, s.message.parseToBytes = .ok body ∧ headerLength ≤ body.length ∧
      ¬ frameCount body.length (effectivePayload s.maxPayload) % 2 ^ 64 > 2 ^ 32 - 1 ∧
      s.frames = (List.range (frameCount body.length (effectivePayload s.maxPayload)).toNat).map
        (frameAt body s.messageId (effectivePayload s.maxPayload).toNat
          (frameCount body.length (effectivePayload s.maxPayload)).toNat) := by
  obtain ⟨frames, hframes⟩ : ∃ frames,
      s.message.splitToFrames s.messageId s.maxPayload = .ok frames := by
    unfold Splits at hsplits
    cases hcase : s.message.splitToFrames s.messageId s.maxPayload with
    | ok frames => exact ⟨frames, rfl⟩
    | error _ => rw [hcase] at hsplits; cases hsplits
  have heq : s.frames = frames := by rw [Sending.frames, hframes]; rfl
  unfold Message.splitToFrames at hframes
  rw [bind_ok_iff] at hframes
  obtain ⟨body, hbody, hrest⟩ := hframes
  obtain ⟨hlong, -⟩ := parseMessage_parseToBytes hbody
  have hpos : body.length ≠ 0 := by unfold headerLength at hlong; omega
  rw [if_neg hpos] at hrest
  simp only [check_bind_ok_iff, pure_ok_iff] at hrest
  exact ⟨body, hbody, hlong, hrest.1, heq.trans hrest.2.symm⟩

variable {body : Bytes}

theorem length_body (h : s.message.parseToBytes = .ok body) : (body.length : ℤ) ≤ maxInt := by
  have hle := s.length_le
  rw [length_parseToBytes h]
  exact hle

theorem frames_eq_nil (hsplits : s.Splits) (hoverflow : ¬ s.Fits) : s.frames = [] := by
  obtain ⟨body, hbody, -, -, hframes⟩ := frames_eq hsplits
  have hlength := length_body hbody
  have hint := s.maxPayload_le
  have hbig : maxInt < body.length + effectivePayload s.maxPayload - 1 := by
    unfold Fits at hoverflow
    push Not at hoverflow
    obtain ⟨other, hother, hlt⟩ := hoverflow
    rw [hbody] at hother
    cases hother
    exact hlt
  have hpayload : effectivePayload s.maxPayload ≤ maxInt := by
    unfold effectivePayload defaultMaxFramePayload maxInt
    unfold maxInt at hint
    split_ifs <;> omega
  have hneg := wrapInt_neg hbig (by unfold maxInt at hlength hpayload; omega)
  have hcount : (frameCount body.length (effectivePayload s.maxPayload)).toNat = 0 := by
    have hquotient := Int.tdiv_nonneg (Int.neg_nonneg.mpr hneg.le) (effectivePayload_pos s.maxPayload).le
    rw [Int.neg_tdiv] at hquotient
    exact Int.toNat_of_nonpos (by unfold frameCount; omega)
  rw [hframes, hcount]
  rfl

/-- Without an overflow the number of frames is the rounded-up quotient. -/
theorem frameCount_eq (hfits : s.Fits) (hbody : s.message.parseToBytes = .ok body) :
    (frameCount body.length (effectivePayload s.maxPayload)).toNat =
        (body.length + (effectivePayload s.maxPayload).toNat - 1) /
          (effectivePayload s.maxPayload).toNat ∧
      0 ≤ frameCount body.length (effectivePayload s.maxPayload) ∧
      frameCount body.length (effectivePayload s.maxPayload) ≤ maxInt := by
  have hle := hfits body hbody
  have hpos := effectivePayload_pos s.maxPayload
  obtain ⟨size, hsize⟩ := Int.eq_ofNat_of_zero_le hpos.le
  rw [hsize] at hle ⊢
  have hsum : ((body.length : ℤ) + size - 1) = ((body.length + size - 1 : ℕ) : ℤ) := by omega
  have hcount : frameCount body.length size = (((body.length + size - 1) / size : ℕ) : ℤ) := by
    rw [frameCount, wrapInt_eq (by omega) hle, hsum]
    norm_cast
  rw [hcount]
  refine ⟨rfl, Int.natCast_nonneg _, le_trans ?_ (hsum ▸ hle)⟩
  exact Int.ofNat_le.mpr (Nat.div_le_self ..)

/-- The frames of a message are the pieces of the parcel, in order. -/
structure Cuts (s : Sending) (p : Parcel) : Prop where
  id : p.messageId = s.messageId
  bytes : s.message.parseToBytes = .ok p.chunks.flatten
  length : p.chunks.length = s.frames.length
  pieces : ∀ i f, s.frames[i]? = some f → p.Piece f ∧ f.seqId = i

theorem exists_cuts (hsplits : s.Splits) (hfits : s.Fits) : ∃ p : Parcel, s.Cuts p := by
  obtain ⟨body, hbody, hlong, hcheck, hframes⟩ := frames_eq hsplits
  obtain ⟨hcount, hnonneg, hle⟩ := frameCount_eq hfits hbody
  obtain ⟨-, message, hmessage⟩ := parseMessage_parseToBytes hbody
  have hpos := effectivePayload_pos s.maxPayload
  generalize hsize : (effectivePayload s.maxPayload).toNat = size at hframes hcount
  generalize htotal : (frameCount body.length (effectivePayload s.maxPayload)).toNat = total
    at hframes hcount
  have hsizePos : 0 < size := by omega
  have hsmall : total < 2 ^ 32 := by
    unfold maxInt at hle
    omega
  -- the number of frames is rounded up
  have hcover : body.length ≤ total * size := by
    have hdiv := Nat.div_add_mod (body.length + size - 1) size
    have hmod := Nat.mod_lt (body.length + size - 1) hsizePos
    rw [← hcount, Nat.mul_comm] at hdiv
    omega
  have hflatten : ((range total).map fun i => (body.drop (i * size)).take size).flatten =
      body := by
    rw [← flatMap_def, flatMap_chunks, take_of_length_le hcover]
  have htotalPos : total ≠ 0 := by
    rintro rfl
    unfold headerLength at hlong
    omega
  let p : Parcel :=
    { messageId := s.messageId
      chunks := (range total).map fun i => (body.drop (i * size)).take size
      message
      nonempty := by simpa using htotalPos
      short := by simpa using hsmall
      long := by rw [hflatten]; exact hlong
      parses := by rw [hflatten]; exact hmessage }
  refine ⟨p, rfl, by rw [hbody]; exact congrArg _ hflatten.symm, by rw [hframes]; simp [p], ?_⟩
  intro i f hf
  rw [hframes, getElem?_map, Option.map_eq_some_iff] at hf
  obtain ⟨j, hj, rfl⟩ := hf
  obtain ⟨hlt, rfl⟩ := List.getElem?_eq_some_iff.mp hj
  rw [length_range] at hlt
  have hseq : (frameAt body s.messageId size total (range total)[i]).seqId = i := by
    rw [getElem_range]
    exact Nat.mod_eq_of_lt (hlt.trans hsmall)
  refine ⟨⟨rfl, rfl, ?_, ?_⟩, hseq⟩
  · show total % 2 ^ 32 = _
    rw [Nat.mod_eq_of_lt hsmall]
    simp [p]
  · rw [hseq, getElem?_map, getElem?_range hlt, getElem_range]
    rfl

/-- All frames have been added. -/
def Complete (s : Sending) (history : List Frame) : Prop := ∀ f ∈ s.frames, f ∈ history

instance (s : Sending) (history : List Frame) : Decidable (s.Complete history) :=
  inferInstanceAs (Decidable (∀ f ∈ s.frames, f ∈ history))

/-- The numbers of the frames that have been added. -/
def received (s : Sending) (history : List Frame) : Finset ℕ :=
  ((history.filter fun f => f.messageId = s.messageId).map Frame.seqId).toFinset

section Received

variable {s : Sending} {p : Parcel} {history : List Frame} {f g : Frame}

theorem Cuts.piece (h : s.Cuts p) (hf : f ∈ s.frames) : p.Piece f := by
  obtain ⟨i, hi⟩ := mem_iff_getElem?.mp hf
  exact (h.pieces i f hi).1

theorem Cuts.messageId (h : s.Cuts p) (hf : f ∈ s.frames) : f.messageId = s.messageId :=
  (h.piece hf).id.trans h.id

/-- A frame is known by its number. -/
theorem Cuts.eq_of_seqId (h : s.Cuts p) (hf : f ∈ s.frames) (hg : g ∈ s.frames)
    (hseq : f.seqId = g.seqId) : f = g := by
  obtain ⟨i, hi⟩ := mem_iff_getElem?.mp hf
  obtain ⟨j, hj⟩ := mem_iff_getElem?.mp hg
  rw [(h.pieces i f hi).2, (h.pieces j g hj).2] at hseq
  rw [hseq, hj] at hi
  exact (Option.some.inj hi).symm

theorem mem_received {i : ℕ} :
    i ∈ s.received history ↔ ∃ f ∈ history, f.messageId = s.messageId ∧ f.seqId = i := by
  simp only [received, mem_toFinset, mem_map, mem_filter, decide_eq_true_eq, and_assoc]

/-- A message is complete when all its numbers have been received. -/
theorem Cuts.complete_iff (h : s.Cuts p)
    (hhistory : ∀ f ∈ history, f.messageId = s.messageId → f ∈ s.frames) :
    s.Complete history ↔ s.received history = Finset.range p.chunks.length := by
  constructor
  · intro hcomplete
    ext i
    rw [mem_received, Finset.mem_range]
    constructor
    · rintro ⟨f, hf, hid, rfl⟩
      exact (h.piece (hhistory f hf hid)).lt
    · intro hi
      rw [h.length] at hi
      have hget := getElem?_eq_getElem hi
      have hmem := getElem_mem hi
      exact ⟨_, hcomplete _ hmem, h.messageId hmem, (h.pieces i _ hget).2⟩
  · intro hall f hf
    have hseq : f.seqId ∈ s.received history := by
      rw [hall, Finset.mem_range]
      exact (h.piece hf).lt
    obtain ⟨g, hg, hid, hgf⟩ := mem_received.mp hseq
    rwa [h.eq_of_seqId hf (hhistory g hg hid) hgf.symm]

theorem received_concat : s.received (history ++ [f]) =
    if f.messageId = s.messageId then insert f.seqId (s.received history)
    else s.received history := by
  rw [received, filter_append, map_append, toFinset_append]
  split_ifs with hid
  · rw [filter_cons_of_pos (by simpa using hid), Finset.union_comm]
    rfl
  · rw [filter_cons_of_neg (by simpa using hid)]
    exact Finset.union_empty _

end Received

end Sending

/-! ## Adding frames -/

/-- A call of `Add`, with the order in which it would read a map. -/
abbrev AddCall := GoMap.Order ℕ × Frame

/-- `Add` as a step; the output is the frame and the result. -/
def addStep (a : FrameAssembler) (call : AddCall) :
    FrameAssembler × Frame × Except FrameError (Option Message) :=
  let (result, next) := a.add call.1 call.2
  (next, call.2, result)

/-- A new assembler after a list of calls. -/
def addAll (calls : List AddCall) :
    FrameAssembler × List (Frame × Except FrameError (Option Message)) :=
  runSteps addStep .new calls

/-- The messages that the calls for the frames of one id returned. -/
def returned (messageId : ℕ) (outputs : List (Frame × Except FrameError (Option Message))) :
    List Message :=
  outputs.filterMap fun output =>
    if output.1.messageId = messageId then output.2.toOption.join else none

/-- Every call is for a frame of a message that is not complete yet. -/
def Deliverable (sendings : List Sending) (calls : List AddCall) : Prop :=
  ∀ front call back, calls = front ++ call :: back →
    ∃ s ∈ sendings, call.2 ∈ s.frames ∧ ¬ s.Complete (front.map Prod.snd)

/-- What is returned is the messages that are complete, each once, and there is no error and no
buffer for them. -/
structure Reassembles (sendings : List Sending) (calls : List AddCall) : Prop where
  noError : ∀ output ∈ (addAll calls).2, ∃ result, output.2 = .ok result
  returned_eq : ∀ s ∈ sendings, ∃ body message, s.message.parseToBytes = .ok body ∧
    parseMessage body = .ok message ∧
    returned s.messageId (addAll calls).2 =
      if s.Complete (calls.map Prod.snd) then [message] else []
  cleared : ∀ s ∈ sendings, s.Complete (calls.map Prod.snd) →
    (addAll calls).1.buffers.get s.messageId = none

section Run

variable {sendings : List Sending} {calls : List AddCall} {call : AddCall} {p : Parcel}

theorem addAll_concat : addAll (calls ++ [call]) = (((addAll calls).1.add call.1 call.2).2,
      (addAll calls).2 ++ [(call.2, ((addAll calls).1.add call.1 call.2).1)]) :=
  runSteps_concat ..

theorem returned_concat {messageId : ℕ}
    {outputs : List (Frame × Except FrameError (Option Message))} {f : Frame}
    {result : Option Message} :
    returned messageId (outputs ++ [(f, .ok result)]) =
      returned messageId outputs ++ if f.messageId = messageId then result.toList else [] := by
  unfold returned
  cases result <;> by_cases hid : f.messageId = messageId <;>
    simp [hid, Except.toOption]

theorem Deliverable.of_concat (h : Deliverable sendings (calls ++ [call])) :
    Deliverable sendings calls := by
  intro front other back heq
  exact h front other (back ++ [call]) (by rw [heq, append_assoc]; rfl)

theorem Deliverable.mem_frames (h : Deliverable sendings calls)
    (hids : (sendings.map Sending.messageId).Nodup) (hcuts : ∀ s ∈ sendings, ∃ p, s.Cuts p) :
    ∀ s ∈ sendings, ∀ f ∈ calls.map Prod.snd, f.messageId = s.messageId → f ∈ s.frames := by
  intro s hs f hf hid
  obtain ⟨call, hcall, rfl⟩ := mem_map.mp hf
  obtain ⟨front, back, heq⟩ := append_of_mem hcall
  obtain ⟨t, ht, hframe, -⟩ := h front call back heq
  obtain ⟨p, hp⟩ := hcuts t ht
  -- the ids are distinct, so the frame belongs to this message
  have hst : t = s := inj_on_of_nodup_map hids ht hs ((hp.messageId hframe).symm.trans hid)
  exact hst ▸ hframe

/-- What the assembler has for a message, and what it has returned of it. -/
structure Progress (s : Sending) (p : Parcel) (calls : List AddCall) : Prop where
  holds : p.Holds ((addAll calls).1.buffers.get s.messageId)
    (if s.Complete (calls.map Prod.snd) then ∅ else s.received (calls.map Prod.snd))
  returned_eq : returned s.messageId (addAll calls).2 =
    if s.Complete (calls.map Prod.snd) then [p.message] else []

/-- One more call keeps the progress of every message. -/
theorem Progress.concat {t : Sending} {q : Parcel} (hs : s.Cuts p) (ht : t.Cuts q)
    (hsFrames : ∀ f ∈ (calls ++ [call]).map Prod.snd, f.messageId = s.messageId → f ∈ s.frames)
    (hcall : call.2 ∈ t.frames) (hopen : ¬ t.Complete (calls.map Prod.snd))
    (htProgress : Progress t q calls) (hst : s.messageId = t.messageId → s = t ∧ p = q)
    (h : Progress s p calls) :
    (∃ result, ((addAll calls).1.add call.1 call.2).1 = .ok result) ∧
      Progress s p (calls ++ [call]) := by
  have hpiece := ht.piece hcall
  have hholds := htProgress.holds
  rw [if_neg hopen, ← ht.id] at hholds
  obtain ⟨hresult, hnext, hothers⟩ := @FrameAssembler.add_piece q _ _ call.1 _ hholds hpiece
  refine ⟨⟨_, hresult⟩, ?_⟩
  have hcomplete := hs.complete_iff hsFrames
  have hbefore : s.Complete (calls.map Prod.snd) ↔
      s.received (calls.map Prod.snd) = Finset.range p.chunks.length :=
    hs.complete_iff fun f hf =>
      hsFrames f (by rw [map_append]; exact mem_append_left _ hf)
  rw [map_append, map_singleton, Sending.received_concat] at hcomplete
  by_cases hid : call.2.messageId = s.messageId
  · obtain ⟨rfl, rfl⟩ := hst ((hid.symm.trans (ht.messageId hcall)))
    rw [if_pos hid] at hcomplete
    constructor
    · rw [addAll_concat, map_append, map_singleton, Sending.received_concat, if_pos hid, ← ht.id]
      simpa only [hcomplete] using hnext
    · rw [addAll_concat, hresult, returned_concat, if_pos hid, h.returned_eq, if_neg hopen,
        map_append, map_singleton]
      by_cases hlast : insert call.2.seqId (s.received (calls.map Prod.snd)) =
          Finset.range p.chunks.length
      · rw [if_pos hlast, if_pos (hcomplete.mpr hlast)]
        rfl
      · rw [if_neg hlast, if_neg (fun hc => hlast (hcomplete.mp hc))]
        rfl
  · -- a frame of another message
    rw [if_neg hid, ← hbefore] at hcomplete
    have hne : s.messageId ≠ q.messageId := by
      rw [ht.id, ← ht.messageId hcall]
      exact fun heq => hid heq.symm
    constructor
    · rw [addAll_concat, map_append, map_singleton, Sending.received_concat, if_neg hid,
        hothers _ hne]
      simpa only [hcomplete] using h.holds
    · rw [addAll_concat, hresult, returned_concat, if_neg hid, append_nil, h.returned_eq,
        map_append, map_singleton]
      simp only [hcomplete]

theorem Progress.nil (hs : s.Cuts p) : Progress s p [] := by
  have hopen : ¬ s.Complete [] := by
    intro hcomplete
    have hempty : s.frames = [] := eq_nil_iff_forall_not_mem.mpr fun f hf => by
      have := hcomplete f hf
      simp at this
    have hlength := hs.length
    rw [hempty] at hlength
    exact p.nonempty (length_eq_zero_iff.mp hlength)
  refine ⟨?_, ?_⟩
  · rw [map_nil, if_neg hopen]
    exact .empty
  · rw [map_nil, if_neg hopen]
    rfl

/-- The induction is on the calls, from the end: each call is for a message that the calls before it
have not completed. -/
theorem progress_of_deliverable (hids : (sendings.map Sending.messageId).Nodup)
    (parcel : ∀ s ∈ sendings, Parcel) (hcuts : ∀ (s : Sending) (hs : s ∈ sendings), s.Cuts (parcel s hs))
    (hcalls : Deliverable sendings calls) :
    (∀ output ∈ (addAll calls).2, ∃ result, output.2 = .ok result) ∧
      ∀ (s : Sending) (hs : s ∈ sendings), Progress s (parcel s hs) calls := by
  induction calls using reverseRecOn with
  | nil => exact ⟨by simp [addAll, runSteps], fun s hs => Progress.nil (hcuts s hs)⟩
  | append_singleton calls call ih =>
    obtain ⟨hnoError, hprogress⟩ := ih hcalls.of_concat
    obtain ⟨t, ht, hframe, hopen⟩ := hcalls calls call [] rfl
    have hframes := hcalls.mem_frames hids fun s hs => ⟨parcel s hs, hcuts s hs⟩
    have hstep (s : Sending) (hs : s ∈ sendings) :
        (∃ result, ((addAll calls).1.add call.1 call.2).1 = .ok result) ∧
          Progress s (parcel s hs) (calls ++ [call]) := by
      refine Progress.concat (hcuts s hs) (hcuts t ht) (hframes s hs) hframe hopen
        (hprogress t ht) (fun heq => ?_) (hprogress s hs)
      obtain rfl : s = t := inj_on_of_nodup_map hids hs ht heq
      exact ⟨rfl, rfl⟩
    refine ⟨?_, fun s hs => (hstep s hs).2⟩
    rw [addAll_concat]
    exact forall_mem_append.mpr ⟨hnoError, forall_mem_singleton.mpr (hstep t ht).1⟩

end Run

/-- For messages with distinct ids that `SplitToFrames` cuts without an error: every sequence of
calls that adds their frames in any order, with repetitions of frames of messages that are not
complete, returns exactly the complete messages, each of them once, without an error and without a
buffer left. As the statement holds of every beginning of such a sequence, a message is returned by
the call that completes it. This is so if and only if no sum of a length and a payload limit
overflows Go's `int`. -/
theorem reassembles_iff_fits (sendings : List Sending)
    (hids : (sendings.map Sending.messageId).Nodup) (hsplits : ∀ s ∈ sendings, s.Splits) :
    (∀ calls, Deliverable sendings calls → Reassembles sendings calls) ↔
      ∀ s ∈ sendings, s.Fits := by
  constructor
  · intro hall s hs
    by_contra hoverflow
    -- without frames the message is complete at once, and nothing is ever returned
    have hframes := Sending.frames_eq_nil (hsplits s hs) hoverflow
    have hnone : Deliverable sendings [] := by
      intro front call back heq
      simp at heq
    obtain ⟨body, message, -, -, hreturned⟩ := (hall [] hnone).returned_eq s hs
    rw [if_pos (by intro f hf; rw [hframes] at hf; simp at hf)] at hreturned
    simp [addAll, runSteps, returned] at hreturned
  · intro hfits calls hcalls
    choose parcel hparcel using fun s hs => Sending.exists_cuts (hsplits s hs) (hfits s hs)
    obtain ⟨hnoError, hprogress⟩ := progress_of_deliverable hids parcel hparcel hcalls
    refine ⟨hnoError, fun s hs => ?_, fun s hs hcomplete => ?_⟩
    · exact ⟨_, _, (hparcel s hs).bytes, (parcel s hs).parses, (hprogress s hs).returned_eq⟩
    · have hholds := (hprogress s hs).holds
      rw [if_pos hcomplete] at hholds
      exact hholds.eq_none

/-! ## The overflow -/

/-- An empty message, cut with the largest `int` as the payload limit. -/
def sampleMessage : Message where
  header :=
    { routeName := utf8 "/data", nodeId := [], nodeIdVersion := 1, payLoadLength := 0,
      connectionId := [], legFlags := 0, legSessionId := [], billingSessionID := Bytes32.zero,
      billingSequence := 0, billingBytes := 0 }
  payload := []

def sampleSending (maxPayload : ℤ) (h : maxPayload ≤ maxInt) : Sending where
  messageId := 1
  message := sampleMessage
  maxPayload
  maxPayload_le := h
  length_le := by decide

/-- `SplitToFrames` succeeds without a frame, so the message is never returned. -/
theorem splitToFrames_overflow :
    sampleMessage.splitToFrames 1 (2 ^ 63 - 1) = .ok [] ∧
      Deliverable [sampleSending maxInt le_rfl] [] ∧
      (sampleSending maxInt le_rfl).Complete [] ∧ returned 1 (addAll []).2 = [] := by
  refine ⟨by decide +kernel, ?_, by decide +kernel, rfl⟩
  intro front call back heq
  simp at heq

/-- With a limit of a hundred bytes the header alone takes three frames. -/
theorem reassembles_iff_fits_sample :
    (sampleSending 100 (by decide)).frames.length = 3 ∧
      ∀ calls, Deliverable [sampleSending 100 (by decide)] calls →
        Reassembles [sampleSending 100 (by decide)] calls := by
  refine ⟨by decide +kernel, (reassembles_iff_fits _ (by simp) ?_).mpr ?_⟩
  · intro s hs
    rw [mem_singleton.mp hs]
    show Except.isOk _ = true
    decide +kernel
  · intro s hs body hbody
    rw [mem_singleton.mp hs] at hbody ⊢
    rw [length_parseToBytes hbody]
    decide +kernel

end NatP2P.Network
