import Mathlib.Data.List.TakeWhile
import NatP2P.Network.Striping.Delivery

/-!
# What the reader of a striped connection gets

The chunks that got a number, put together call by call, are the bytes the calls of `Write`
reported, and a call that failed has left one chunk that was never written. So once nothing is on
its way the reader has what the calls reported up to and including the first one that failed.

Three things go wrong. A leg of the end that opened the connection does not know that it is one, so
a chunk that arrives before its hook is set goes to the buffer of the stream, where nobody reads it
(`early_chunk_lost`). A `Write` that fails has taken a number, for which the reader waits for ever
(`failed_write_blocks`). The reader ends with the first leg that is closed, while chunks are on
their way on others (`closed_before_chunk`). Nothing else goes wrong: each theorem is an
equivalence.

Reference: `networkFrameWork/logical_conn.go`, `networkFrameWork/bridge_mux.go`,
`networkFrameWork/reassembler.go`.
-/

namespace NatP2P.Network

open List

/-! ## The chunks of the calls -/

/-- The bytes calls reported as written. -/
def reportedBytes (calls : List StripeCall) : Bytes := calls.flatMap StripeCall.reported

/-- What calls reported up to and including the first one that failed. -/
def deliverable : List StripeCall → Bytes
  | [] => []
  | call :: calls => call.reported ++ if call.ok then deliverable calls else []

/-- No call reported bytes after one that failed. -/
def NothingAfterFailure : List StripeCall → Prop
  | [] => True
  | call :: calls => if call.ok then NothingAfterFailure calls else reportedBytes calls = []

instance NothingAfterFailure.decidable : (calls : List StripeCall) →
    Decidable (NothingAfterFailure calls)
  | [] => .isTrue trivial
  | _ :: calls =>
    have := NothingAfterFailure.decidable calls
    inferInstanceAs (Decidable (ite _ _ _))

theorem deliverable_eq_reportedBytes_iff (calls : List StripeCall) :
    deliverable calls = reportedBytes calls ↔ NothingAfterFailure calls := by
  induction calls with
  | nil => exact iff_of_true rfl trivial
  | cons call calls ih =>
    rw [deliverable, reportedBytes, flatMap_cons, append_cancel_left_eq, NothingAfterFailure]
    split_ifs
    · exact ih
    · exact eq_comm

theorem nothingAfterFailure_of_ok {calls : List StripeCall} (h : ∀ call ∈ calls, call.ok = true) :
    NothingAfterFailure calls := by
  induction calls with
  | nil => trivial
  | cons call calls ih =>
    rw [NothingAfterFailure, if_pos (h call mem_cons_self)]
    exact ih fun other hother => h other (mem_cons_of_mem _ hother)

/-- One more call is delivered if none before it failed. -/
theorem deliverable_concat (calls : List StripeCall) (call : StripeCall) :
    deliverable (calls ++ [call]) =
      deliverable calls ++ if ∀ c ∈ calls, c.ok = true then call.reported else [] := by
  induction calls with
  | nil => simp [deliverable]
  | cons first calls ih =>
    rw [cons_append, deliverable, deliverable, ih]
    by_cases hok : first.ok = true <;> simp [hok]

/-- The chunks that calls have numbered. -/
inductive Numbered : List StripeCall → List Chunk → Prop
  | nil : Numbered [] []
  /-- a call that wrote its chunks -/
  | wrote {calls : List StripeCall} {chunks more : List Chunk} (h : Numbered calls chunks)
      (call : StripeCall) (hok : call.ok = true) (hwritten : ∀ c ∈ more, c.written = true)
      (hbytes : bytesOf more = call.reported) : Numbered (calls ++ [call]) (chunks ++ more)
  /-- a call that failed with its last chunk -/
  | failed {calls : List StripeCall} {chunks more : List Chunk} (h : Numbered calls chunks)
      (call : StripeCall) (hok : call.ok = false) (hwritten : ∀ c ∈ more, c.written = true)
      (hbytes : bytesOf more = call.reported) (data : Bytes) :
      Numbered (calls ++ [call]) (chunks ++ more ++ [⟨data, false⟩])

namespace Numbered

variable {calls : List StripeCall} {chunks : List Chunk}

theorem all_written_iff (h : Numbered calls chunks) :
    (∀ c ∈ chunks, c.written = true) ↔ ∀ call ∈ calls, call.ok = true := by
  induction h with
  | nil => simp
  | wrote h call hok hwritten hbytes ih =>
    simp only [forall_mem_append, forall_mem_singleton, ih, hok, and_true]
    exact and_iff_left hwritten
  | failed h call hok hwritten hbytes data ih =>
    simp only [forall_mem_append, forall_mem_singleton, hok, Bool.false_eq_true, and_false]

/-- All that was written is what the calls reported. -/
theorem bytesOf_filter (h : Numbered calls chunks) :
    bytesOf (chunks.filter Chunk.written) = reportedBytes calls := by
  induction h with
  | nil => rfl
  | wrote h call hok hwritten hbytes ih =>
    rw [filter_append, filter_eq_self.mpr hwritten, bytesOf, flatMap_append]
    rw [bytesOf] at ih hbytes
    rw [ih, hbytes, reportedBytes, reportedBytes, flatMap_append, flatMap_singleton]
  | failed h call hok hwritten hbytes data ih =>
    rw [filter_append, filter_append, filter_eq_self.mpr hwritten, bytesOf]
    rw [bytesOf] at ih hbytes
    simp only [flatMap_append, ih, hbytes, reportedBytes, flatMap_singleton]
    simp

/-- What was written up to the first chunk that was not is what can be delivered. -/
theorem bytesOf_takeWhile (h : Numbered calls chunks) :
    bytesOf (chunks.takeWhile Chunk.written) = deliverable calls := by
  have hsplit : ∀ {calls : List StripeCall} {chunks more : List Chunk} (call : StripeCall),
      Numbered calls chunks → bytesOf (chunks.takeWhile Chunk.written) = deliverable calls →
      bytesOf (more.takeWhile Chunk.written) = call.reported →
      bytesOf ((chunks ++ more).takeWhile Chunk.written) = deliverable (calls ++ [call]) := by
    intro calls chunks more call hnumbered ih hmore
    rw [deliverable_concat, ← ih]
    by_cases hall : ∀ c ∈ chunks, c.written = true
    · rw [if_pos (hnumbered.all_written_iff.mp hall), takeWhile_append_of_pos hall, ← hmore,
        takeWhile_eq_self_iff.mpr hall]
      exact flatMap_append
    · rw [if_neg fun hok => hall (hnumbered.all_written_iff.mpr hok), append_nil,
        takeWhile_append, if_neg]
      intro hlength
      rw [( takeWhile_prefix _).eq_of_length hlength |>.symm] at hall
      exact hall fun c hc => mem_takeWhile_imp hc
  induction h with
  | nil => rfl
  | wrote h call hok hwritten hbytes ih =>
    refine hsplit call h ih ?_
    rw [takeWhile_eq_self_iff.mpr hwritten]
    exact hbytes
  | failed h call hok hwritten hbytes data ih =>
    rw [append_assoc]
    refine hsplit call h ih ?_
    rw [takeWhile_append_of_pos hwritten, takeWhile_cons_of_neg (by simp), append_nil]
    exact hbytes

end Numbered

/-- The call that is being made, as far as it has come. -/
def StripeWriter.current : StripeWriter → List StripeCall
  | .writing p _ total => [⟨p, total, true⟩]
  | _ => []

/-- The chunks the call that is being made has numbered. -/
def StripeWriter.Numbers (more : List Chunk) : StripeWriter → Prop
  | .writing p rest total =>
    rest = p.drop total ∧ (∀ c ∈ more, c.written = true) ∧ bytesOf more = p.take total
  | _ => more = []

namespace Striped

/-- The calls of `Write`, with the one that is being made. -/
def reports (s : Striped) : List StripeCall := s.calls ++ s.writer.current

/-- The chunks are those of the calls. -/
def Booked (s : Striped) : Prop :=
  ∃ old more, Numbered s.calls old ∧ s.chunks = old ++ more ∧ s.writer.Numbers more

theorem Booked.numbered {s : Striped} (h : s.Booked) : Numbered s.reports s.chunks := by
  obtain ⟨old, more, hold, hchunks, hmore⟩ := h
  rw [reports, hchunks]
  cases hwriter : s.writer with
  | writing p rest total =>
    rw [hwriter] at hmore
    exact hold.wrote ⟨p, total, true⟩ rfl hmore.2.1 hmore.2.2
  | idle | closing _ | closed =>
    rw [hwriter] at hmore
    obtain rfl := hmore
    rw [append_nil]
    exact (append_nil s.calls).symm ▸ hold

section

variable {s : Striped} {pick : ℕ → ℕ}

theorem booked_writeChunk (h : s.Booked) (ok : Bool) : (s.writeChunk pick ok).Booked := by
  obtain ⟨old, more, hold, hchunks, hmore⟩ := h
  rw [writeChunk]
  split
  next p total hwriter =>
    rw [hwriter] at hmore
    exact ⟨s.chunks, [], hchunks ▸ hold.wrote ⟨p, total, true⟩ rfl hmore.2.1 hmore.2.2,
      (append_nil _).symm, rfl⟩
  next p rest total _ hwriter =>
    rw [hwriter] at hmore
    obtain ⟨hrest, hwritten, hbytes⟩ := hmore
    dsimp only
    split_ifs
    · refine ⟨old, more ++ [⟨rest.take stripeChunkSize, true⟩], hold, ?_, ?_, ?_, ?_⟩
      · show s.chunks ++ _ = _
        rw [hchunks, append_assoc]
      · rw [hrest, drop_drop]
      · simp only [forall_mem_append, forall_mem_singleton, and_true]
        exact hwritten
      · rw [take_add, ← hrest, ← hbytes, bytesOf, bytesOf, flatMap_append, flatMap_singleton]
        rw [length_take, take_eq_take_min]
    · refine ⟨_, [], hold.failed ⟨p, total, false⟩ rfl hwritten hbytes
        (rest.take stripeChunkSize), ?_, rfl⟩
      show s.chunks ++ _ = _
      rw [hchunks, append_nil]
  next => exact ⟨old, more, hold, hchunks, hmore⟩

theorem booked_step (h : s.Booked) (event : StripeEvent) : (s.step pick event).1.Booked := by
  cases event with
  | write p =>
    simp only [step]
    split
    next hwriter =>
      obtain ⟨old, more, hold, hchunks, hmore⟩ := h
      rw [hwriter] at hmore
      obtain rfl := hmore
      exact ⟨old, [], hold, hchunks, rfl, by rintro _ ⟨⟩, rfl⟩
    next => exact h
  | writeChunk ok => exact booked_writeChunk h ok
  | close | closeLeg _ =>
    simp only [step]
    split
    next hwriter =>
      obtain ⟨old, more, hold, hchunks, hmore⟩ := h
      rw [hwriter] at hmore
      repeat' split
      all_goals exact ⟨old, more, hold, hchunks, hmore⟩
    next => exact h
  | readFrame _ | deliver _ | attach | watch _ | read _ =>
    simp only [step, deliver, attach]
    repeat' split
    all_goals exact h

end

/-! ## When nothing is on its way -/

/-- No frame is on a wire or with a read loop, and all hooks are attached. -/
def Quiet (s : Striped) : Prop :=
  (∀ l ∈ s.legs, l.wire = [] ∧ l.loop = .reading) ∧ s.attaching = .attached

instance (s : Striped) : Decidable s.Quiet := inferInstanceAs (Decidable (_ ∧ _))

end Striped

/-- `attachReasmHooks` has set the hook of a leg. -/
def Attaching.Passed (leg : ℕ) : Attaching → Prop
  | .hooking next => leg < next
  | .replaying current _ => leg ≤ current
  | .attached => True

namespace Striped

/-- A leg whose hook is set has no early chunks. -/
def Hooks (legs : List StripeLeg) (attaching : Attaching) : Prop :=
  ∀ leg l, legs[leg]? = some l → attaching.Passed leg → l.hook = true ∧ l.hookPending = []

section

variable {legs : List StripeLeg} {attaching : Attaching} {s : Striped}

theorem hooks_modify (h : Hooks legs attaching) (leg : ℕ) {f : StripeLeg → StripeLeg}
    (hf : ∀ l, l.hook = true → (f l).hook = true ∧ (f l).hookPending = l.hookPending) :
    Hooks (legs.modify leg f) attaching := by
  intro other l hl hpassed
  rw [getElem?_modify, Option.map_eq_map, Option.map_eq_some_iff] at hl
  obtain ⟨old, hold, rfl⟩ := hl
  obtain ⟨hhook, hpending⟩ := h other old hold hpassed
  split_ifs
  · exact ⟨(hf old hhook).1, (hf old hhook).2.trans hpending⟩
  · exact ⟨hhook, hpending⟩

theorem hooks_attach (h : Hooks s.legs s.attaching) : Hooks s.attach.legs s.attach.attaching := by
  rw [attach]
  split
  next leg hattaching =>
    rw [hattaching] at h
    split
    next hnone =>
      -- every leg was passed
      intro other l hl _
      refine h other l hl ?_
      have hlt : other < s.legs.length := lt_of_getElem? hl
      have hlast := getElem?_eq_none_iff.mp hnone
      show other < leg
      omega
    next l hl =>
      intro other l' hl' hpassed
      rw [getElem?_modify, Option.map_eq_map, Option.map_eq_some_iff] at hl'
      obtain ⟨old, hold, rfl⟩ := hl'
      split_ifs with hsame
      · exact ⟨rfl, rfl⟩
      · refine h other old hold ?_
        have hle : other ≤ leg := hpassed
        show other < leg
        omega
  next leg hattaching =>
    rw [hattaching] at h
    intro other l hl hpassed
    exact h other l hl (Nat.le_of_lt_succ hpassed)
  next leg seq data early hattaching =>
    rw [hattaching] at h
    exact h
  next => exact h

theorem hooks_step (pick : ℕ → ℕ) (h : Hooks s.legs s.attaching) (event : StripeEvent) :
    Hooks (s.step pick event).1.legs (s.step pick event).1.attaching := by
  have hsend : ∀ leg frame, Hooks (s.send leg frame).legs s.attaching := fun leg frame =>
    hooks_modify h leg fun l hhook => ⟨hhook, rfl⟩
  cases event with
  | write | close => simp only [step]; split <;> exact h
  | writeChunk ok =>
    simp only [step, writeChunk]
    split
    · exact h
    · split_ifs
      · exact hsend _ _
      · exact h
    · exact h
  | closeLeg sent =>
    simp only [step]
    split
    · split_ifs
      · exact hsend _ _
      · exact h
      · exact h
    · exact h
  | readFrame leg =>
    refine hooks_modify h leg fun l hhook => ?_
    rw [readFrame]
    split
    · dsimp only
      split_ifs <;> exact ⟨hhook, rfl⟩
    · exact ⟨hhook, rfl⟩
    · exact ⟨hhook, rfl⟩
  | deliver leg =>
    simp only [step, deliver]
    split
    · split
      · exact h
      · exact hooks_modify h leg fun l hhook => ⟨hhook, rfl⟩
      · exact hooks_modify h leg fun l hhook => ⟨hhook, rfl⟩
    · exact h
  | attach => exact hooks_attach h
  | watch leg =>
    simp only [step]
    repeat' split
    all_goals exact h
  | read size =>
    simp only [step]
    split <;> exact h

/-- When a connection is quiet no chunk is on its way. -/
theorem inTransit_of_quiet (h : Hooks s.legs s.attaching) (hquiet : s.Quiet) : s.inTransit = [] := by
  obtain ⟨hlegs, hattached⟩ := hquiet
  rw [hattached] at h
  rw [inTransit, hattached, append_eq_nil_iff, flatMap_eq_nil_iff]
  refine ⟨fun l hl => ?_, rfl⟩
  obtain ⟨leg, hleg⟩ := mem_iff_getElem?.mp hl
  obtain ⟨hwire, hloop⟩ := hlegs l hl
  rw [StripeLeg.carried, hwire, hloop, (h leg l hleg trivial).2]
  rfl

/-- Behind the chunks in order is one that was not written, when none is on its way. -/
theorem next_not_written (h : s.Sound) (hcomplete : s.Complete) (hopen : s.reasm.closed = false)
    (hoverflow : s.reasm.overflow = false) (htransit : s.inTransit = []) {c : Chunk}
    (hc : s.chunks[s.reasm.nextSeq]? = some c) : c.written = false := by
  by_contra hwritten
  have hget : WrittenAs s.chunks s.reasm.nextSeq c.data := by
    rw [WrittenAs, hc, ← Bool.eq_true_of_not_eq_false hwritten]
  -- it would be with the reassembler, which has caught up
  rcases hcomplete hopen hoverflow _ _ hget with hmoving | hlow | hwaits
  · rw [htransit] at hmoving
    cases hmoving
  · omega
  · rw [h.caught] at hwaits
    cases hwaits

/-- The chunks in order are those before the first that was not written, when none is on its way. -/
theorem takeWhile_written (h : s.Sound) (hcomplete : s.Complete) (hopen : s.reasm.closed = false)
    (hoverflow : s.reasm.overflow = false) (htransit : s.inTransit = []) :
    s.chunks.takeWhile Chunk.written = s.chunks.take s.reasm.nextSeq := by
  conv_lhs => rw [← take_append_drop s.reasm.nextSeq s.chunks]
  rw [takeWhile_append_of_pos h.ordered.written]
  cases hdrop : s.chunks.drop s.reasm.nextSeq with
  | nil => rw [takeWhile_nil, append_nil]
  | cons c rest =>
    have hc : s.chunks[s.reasm.nextSeq]? = some c := by rw [← head?_drop, hdrop, head?_cons]
    have hnot := next_not_written h hcomplete hopen hoverflow htransit hc
    rw [takeWhile_cons_of_neg (by simp [hnot]), append_nil]

end

/-! ## Reads -/

/-- With room in each, as many calls of `Read` as there are bytes get these bytes. -/
def Reads (pick : ℕ → ℕ) (s : Striped) (bytes : Bytes) : Prop :=
  ∀ sizes : List ℕ, (∀ size ∈ sizes, 0 < size) → bytes.length ≤ sizes.length →
    (runSteps (step pick) s (sizes.map .read)).1.received = bytes

theorem received_reads (pick : ℕ → ℕ) (s : Striped) (sizes : List ℕ) :
    (runSteps (step pick) s (sizes.map .read)).1.received =
      s.received ++ (s.reasm.reads sizes).2 := by
  induction sizes generalizing s with
  | nil => exact (append_nil _).symm
  | cons size sizes ih =>
    rw [map_cons, runSteps_cons, step_read, ih, append_assoc]
    rfl

/-- What was read and what is ready is what can be read. -/
theorem reads_iff {pick : ℕ → ℕ} {s : Striped} {bytes : Bytes} :
    s.Reads pick bytes ↔ s.received ++ s.reasm.ready = bytes := by
  have hall : ∀ sizes : List ℕ, (∀ size ∈ sizes, 0 < size) → s.reasm.ready.length ≤ sizes.length →
      (runSteps (step pick) s (sizes.map .read)).1.received = s.received ++ s.reasm.ready := by
    intro sizes hsizes hlength
    obtain ⟨rest, -, hready, hrest⟩ := s.reasm.reads_ready sizes
    rw [received_reads, ← hready, hrest hsizes hlength, append_nil]
  refine ⟨fun hreads => ?_, fun hout sizes hsizes hlength => ?_⟩
  · have hpos : ∀ size ∈ replicate (bytes.length + s.reasm.ready.length) 1, 0 < size :=
      fun size hsize => (eq_of_mem_replicate hsize).symm ▸ Nat.one_pos
    rw [← hall _ hpos (by simp)]
    exact hreads _ hpos (by simp)
  · rw [hall sizes hsizes, hout]
    have hbytes := congrArg length hout
    rw [length_append] at hbytes
    omega

/-! ## Runs -/

/-- The reassembler has room, and the numbers do not start again. -/
def Roomy (s : Striped) : Prop :=
  s.reasm.pending.len < reasmMaxPending ∧ s.chunks.length + 1 < 2 ^ 64

instance (s : Striped) : Decidable s.Roomy := inferInstanceAs (Decidable (_ ∧ _))

section

variable {s s' : Striped} {hooked drained : Prop} {pick : ℕ → ℕ} {accepts : Bool} {legCount : ℕ}
  {events : List StripeEvent}

theorem Effect.overflow (heffect : s.Effect s' hooked drained) (hroom : s.Roomy) :
    s'.reasm.overflow = s.reasm.overflow := by
  cases heffect with
  | moved hkeeps | lost _ hkeeps => rw [hkeeps.reasm]
  | numbered _ _ _ _ _ hreasm => rw [hreasm]
  | pushed seq data _ _ hreasm =>
    rw [hreasm]
    exact (Reassembler.overflow_push ..).resolve_right fun hfull => absurd hroom.1 hfull.1.not_gt
  | ended hs' => rw [hs']; rfl
  | took _ _ _ hs' => rw [hs']

section

variable (hnumbers : Along (step pick) (fun s _ => s.chunks.length + 1 < 2 ^ 64)
  (new accepts legCount) events)
include hnumbers

theorem sound_run : (run pick accepts legCount events).Sound :=
  runSteps_along hnumbers (sound_new accepts legCount) fun _ event hroom h => h.step hroom event

/-- A run in which no read loop loses a chunk is complete. -/
theorem complete_run (hhooked : Along (step pick) Hooked (new accepts legCount) events) :
    (run pick accepts legCount events).Complete := by
  have hstart : (new accepts legCount).Sound ∧ (new accepts legCount).Complete :=
    ⟨sound_new accepts legCount, fun _ _ => nofun⟩
  refine (runSteps_along (motive := fun s => s.Sound ∧ s.Complete) (along_and hnumbers hhooked)
    hstart ?_).2
  rintro s event ⟨hroom, hhooked⟩ ⟨h, hcomplete⟩
  exact ⟨h.step hroom event, hcomplete.step h hhooked hroom⟩

end

theorem booked_run (pick : ℕ → ℕ) (accepts : Bool) (legCount : ℕ) (events : List StripeEvent) :
    (run pick accepts legCount events).Booked :=
  have hstart : (new accepts legCount).Booked := ⟨[], [], .nil, rfl, rfl⟩
  runSteps_invariant hstart (fun _ event h => booked_step h event) events

theorem hooks_run (pick : ℕ → ℕ) (accepts : Bool) (legCount : ℕ) (events : List StripeEvent) :
    Hooks (run pick accepts legCount events).legs (run pick accepts legCount events).attaching :=
  have hstart : Hooks (new accepts legCount).legs (new accepts legCount).attaching := fun _ _ _ => nofun
  runSteps_invariant (motive := fun s : Striped => Hooks s.legs s.attaching) hstart
    (fun _ event h => hooks_step pick h event) events

/-- Nobody but the writer's `Close` closes the reassembler. -/
theorem open_run (hopen : .close ∉ events)
    (hnumbers : Along (step pick) (fun s _ => s.chunks.length + 1 < 2 ^ 64) (new accepts legCount)
      events) : (run pick accepts legCount events).reasm.closed = false := by
  have hstays : Along (step pick) (fun _ event => event ≠ .close) (new accepts legCount) events :=
    along_of_forall fun event hevent _ heq => hopen (heq ▸ hevent)
  have hwriter : ¬ (run pick accepts legCount events).writer.ended = true := by
    refine runSteps_along (motive := fun s : Striped => ¬ s.writer.ended = true) hstays nofun ?_
    intro s event hevent hold hended
    exact ((ended_step pick s event).mp hended).elim hold fun hclose => hevent hclose.1
  exact Bool.eq_false_of_not_eq_true (mt (sound_run hnumbers).closes hwriter)

/-- A reassembler that has room all the time drops nothing. -/
theorem overflow_run
    (hroom : Along (step pick) (fun s _ => s.Roomy) (new accepts legCount) events) :
    (run pick accepts legCount events).reasm.overflow = false := by
  refine (runSteps_along (motive := fun s => s.Sound ∧ s.reasm.overflow = false) hroom
    ⟨sound_new accepts legCount, rfl⟩ ?_).2
  rintro s event hroom ⟨h, hoverflow⟩
  exact ⟨h.step hroom.2 event,
    ((effect_step pick s event h.tidy h.item_ne).overflow hroom).trans hoverflow⟩

/-- What has come out when nothing is on its way and nothing was lost. -/
theorem run_delivered (hopen : .close ∉ events)
    (hroom : Along (step pick) (fun s _ => s.Roomy) (new accepts legCount) events)
    (hhooked : Along (step pick) Hooked (new accepts legCount) events)
    (hquiet : (run pick accepts legCount events).Quiet) :
    let s := run pick accepts legCount events
    s.received ++ s.reasm.ready = deliverable s.reports := by
  intro s
  have hnumbers := along_mono (fun _ _ _ => And.right) hroom
  have h : s.Sound := sound_run hnumbers
  have hbooked : s.Booked := booked_run ..
  have htransit : s.inTransit = [] := inTransit_of_quiet (hooks_run pick accepts legCount events) hquiet
  rw [h.ordered.out, ← hbooked.numbered.bytesOf_takeWhile, takeWhile_written h
    (complete_run hnumbers hhooked) (open_run hopen hnumbers) (overflow_run hroom) htransit]

theorem length_legs_step (event : StripeEvent) :
    (s.step pick event).1.legs.length = s.legs.length := by
  cases event with
  | readFrame leg => exact length_modify ..
  | _ =>
    simp only [step, writeChunk, deliver, attach]
    repeat' split
    all_goals simp [send]

/-- A chunk that gets a number is written, if no write fails. -/
theorem written_step {event : StripeEvent} (hevent : event ≠ .writeChunk false)
    (hpick : ∀ seq, pick seq < s.legs.length) (h : ∀ c ∈ s.chunks, c.written = true) :
    ∀ c ∈ (s.step pick event).1.chunks, c.written = true := by
  cases event with
  | writeChunk ok =>
    simp only [step, writeChunk]
    split
    · exact h
    · obtain rfl : ok = true := by
        cases ok
        · exact absurd rfl hevent
        · rfl
      rw [if_pos ⟨hpick _, rfl⟩]
      exact forall_mem_append.mpr ⟨h, forall_mem_singleton.mpr rfl⟩
    · exact h
  | write _ | close | closeLeg _ | readFrame _ | deliver _ | attach | watch _ | read _ =>
    simp only [step, deliver, attach]
    repeat' split
    all_goals exact h

/-- The chunks of a connection whose writes succeed. -/
def Written (legCount : ℕ) (s : Striped) : Prop :=
  s.legs.length = legCount ∧ ∀ c ∈ s.chunks, c.written = true

theorem Written.step (hpick : ∀ seq, pick seq < legCount) (h : s.Written legCount)
    {event : StripeEvent} (hevent : event ≠ .writeChunk false) :
    (s.step pick event).1.Written legCount :=
  ⟨(length_legs_step event).trans h.1, written_step hevent (fun seq => h.1 ▸ hpick seq) h.2⟩

theorem along_writes (hwrites : .writeChunk false ∉ events) :
    Along (step pick) (fun _ event => event ≠ .writeChunk false) s events :=
  along_of_forall fun _ hevent _ heq => hwrites (heq ▸ hevent)

theorem written_run (hpick : ∀ seq, pick seq < legCount) (hwrites : .writeChunk false ∉ events) :
    (run pick accepts legCount events).Written legCount :=
  runSteps_along (motive := Written legCount) (along_writes hwrites) ⟨length_replicate, nofun⟩
    fun _ _ hevent h => h.step hpick hevent

/-- All chunks that got a number, when every write succeeded. -/
theorem bytesOf_chunks (hbooked : s.Booked) (hwritten : ∀ c ∈ s.chunks, c.written = true) :
    bytesOf s.chunks = reportedBytes s.reports := by
  rw [← hbooked.numbered.bytesOf_filter, filter_eq_self.mpr hwritten]

/-- With a missing chunk there is less than what was written. -/
theorem Missing.length_lt {seq : ℕ} (hmissing : s.Missing seq) (h : s.Sound) :
    (s.received ++ s.reasm.ready).length < (bytesOf s.chunks).length := by
  obtain ⟨⟨data, hwritten⟩, hfree, -⟩ := hmissing
  have hlt : s.reasm.nextSeq < s.chunks.length :=
    (Nat.not_lt.mp fun hlow => hfree (.inl hlow)).trans_lt hwritten.lt
  have hne := length_pos_iff.mpr (h.nonempty _ (getElem_mem hlt))
  rw [h.ordered.out]
  conv_rhs => rw [← take_append_drop s.reasm.nextSeq s.chunks, drop_eq_getElem_cons hlt]
  simp only [bytesOf, flatMap_append, flatMap_cons, length_append]
  omega

/-- Where a step can lose a chunk, a run in which one does so ends without it. The induction goes up
to the first such step; from there on the chunk is missing. -/
theorem missing_run {allowed : Striped → StripeEvent → Prop}
    (hlost : ∀ s event, s.Sound → ¬ allowed s event → ∃ seq, (s.step pick event).1.Missing seq)
    (h : s.Sound) (hnumbers : Along (step pick) (fun s _ => s.chunks.length + 1 < 2 ^ 64) s events)
    (hnot : ¬ Along (step pick) allowed s events) :
    ∃ seq, (runSteps (step pick) s events).1.Missing seq := by
  induction events generalizing s with
  | nil => exact absurd trivial hnot
  | cons event events ih =>
    by_cases hallowed : allowed s event
    · exact ih (h.step hnumbers.1 event) hnumbers.2 fun hrest => hnot ⟨hallowed, hrest⟩
    · obtain ⟨seq, hmissing⟩ := hlost s event h hallowed
      refine ⟨seq, (runSteps_along (motive := fun s => s.Sound ∧ s.Missing seq) hnumbers.2
        ⟨h.step hnumbers.1 event, hmissing⟩ ?_).2⟩
      rintro s event hroom ⟨h, hmissing⟩
      exact ⟨h.step hroom event, hmissing.step h event⟩

/-- In such a run less can be read than was written. -/
theorem short_run {allowed : Striped → StripeEvent → Prop}
    (hlost : ∀ s event, s.Sound → ¬ allowed s event → ∃ seq, (s.step pick event).1.Missing seq)
    (hnumbers : Along (step pick) (fun s _ => s.chunks.length + 1 < 2 ^ 64) (new accepts legCount)
      events)
    (hnot : ¬ Along (step pick) allowed (new accepts legCount) events) :
    let s := run pick accepts legCount events
    s.received ++ s.reasm.ready ≠ bytesOf s.chunks := by
  intro s hall
  obtain ⟨seq, hmissing⟩ := missing_run hlost (sound_new accepts legCount) hnumbers hnot
  exact (Missing.length_lt hmissing (sound_run hnumbers)).ne (congrArg length hall)

end

/-- While the legs stay open and no write fails, what the reader gets are the first bytes that were
written. Once nothing is on its way it can read them all if and only if no read loop has read a
chunk on a leg that had no hook and did not know that it was one. -/
theorem run_delivers_every_byte (pick : ℕ → ℕ) (accepts : Bool) (legCount : ℕ)
    (events : List StripeEvent) (hpick : ∀ seq, pick seq < legCount) (hopen : .close ∉ events)
    (hwrites : .writeChunk false ∉ events)
    (hroom : Along (step pick) (fun s _ => s.Roomy) (new accepts legCount) events) :
    let s := run pick accepts legCount events
    s.received ++ s.reasm.ready <+: reportedBytes s.reports ∧
      s.reasm.closed = false ∧ s.reasm.overflow = false ∧
      (s.Quiet → (s.Reads pick (reportedBytes s.reports) ↔
        Along (step pick) Hooked (new accepts legCount) events)) := by
  intro s
  have hnumbers := along_mono (fun _ _ _ => And.right) hroom
  have h : s.Sound := sound_run hnumbers
  have hbooked : s.Booked := booked_run ..
  have hwritten : ∀ c ∈ s.chunks, c.written = true := (written_run hpick hwrites).2
  have hchunks := bytesOf_chunks hbooked hwritten
  refine ⟨?_, open_run hopen hnumbers, overflow_run hroom, fun hquiet => ?_⟩
  · rw [h.ordered.out, ← hchunks]
    exact ( take_prefix _ _).flatMap _
  rw [reads_iff]
  refine ⟨fun hout => ?_, fun hhooked => ?_⟩
  · by_contra hnot
    exact short_run (fun _ _ => missing_of_not_hooked) hnumbers hnot (hout.trans hchunks.symm)
  · rw [run_delivered hopen hroom hhooked hquiet, deliverable_eq_reportedBytes_iff]
    exact nothingAfterFailure_of_ok (hbooked.numbered.all_written_iff.mp hwritten)

/-- `attachReasmHooks` of two legs. -/
def attachBoth : List StripeEvent := [.attach, .attach, .attach, .attach, .attach]

theorem run_delivers_every_byte_swapped :
    let s := run (roundRobinLeg 2) false 2 (attachBoth ++
      [.write [1, 2, 3], .writeChunk true, .writeChunk true, .write [4], .writeChunk true,
        .writeChunk true, .readFrame 1, .deliver 1, .readFrame 0, .deliver 0, .read 2])
    s.Reads (roundRobinLeg 2) (reportedBytes s.reports) ∧ s.received = [1, 2] ∧
      reportedBytes s.reports = [1, 2, 3, 4] :=
  ⟨((run_delivers_every_byte (roundRobinLeg 2) false 2 _ (fun seq => Nat.mod_lt seq (by decide))
    (by decide) (by decide) (by decide +kernel)).2.2.2 (by decide +kernel)).mpr (by decide +kernel),
    by decide +kernel⟩

/-- The end that opened a connection reads a chunk before its hook is set. The chunk goes to the
buffer of the stream; it is never read, and neither is the next one, which waits for it. -/
theorem early_chunk_lost :
    let events := [.write [1], .writeChunk true, .writeChunk true, .readFrame 0, .deliver 0] ++
      attachBoth ++ [.write [2], .writeChunk true, .writeChunk true, .readFrame 1, .deliver 1]
    let s := run (roundRobinLeg 2) false 2 events
    (.close ∉ events ∧ .writeChunk false ∉ events ∧
      Along (step (roundRobinLeg 2)) (fun s _ => s.Roomy) (new false 2) events ∧ s.Quiet ∧
      reportedBytes s.reports = [1, 2] ∧ s.legs.map StripeLeg.buf = [[1], []]) ∧
      s.Reads (roundRobinLeg 2) [] :=
  ⟨by decide +kernel, reads_iff.mpr (by decide +kernel)⟩

/-- Once nothing is on its way the reader can read what the calls reported up to and including the
first one that failed. That is all they reported exactly when no call reported bytes after a failed
one. -/
theorem run_delivers_until_failure (pick : ℕ → ℕ) (accepts : Bool) (legCount : ℕ)
    (events : List StripeEvent) (hopen : .close ∉ events)
    (hroom : Along (step pick) (fun s _ => s.Roomy) (new accepts legCount) events)
    (hhooked : Along (step pick) Hooked (new accepts legCount) events)
    (hquiet : (run pick accepts legCount events).Quiet) :
    let s := run pick accepts legCount events
    s.Reads pick (deliverable s.reports) ∧
      (s.Reads pick (reportedBytes s.reports) ↔ NothingAfterFailure s.reports) := by
  intro s
  have hout : s.received ++ s.reasm.ready = deliverable s.reports :=
    run_delivered hopen hroom hhooked hquiet
  rw [reads_iff, reads_iff, hout]
  exact ⟨rfl, deliverable_eq_reportedBytes_iff s.reports⟩

theorem run_delivers_until_failure_last :
    let s := run (roundRobinLeg 2) true 2 (attachBoth ++
      [.write [1, 2], .writeChunk true, .writeChunk true, .write [3], .writeChunk false, .readFrame 0,
        .deliver 0])
    s.Reads (roundRobinLeg 2) (reportedBytes s.reports) ∧ reportedBytes s.reports = [1, 2] :=
  ⟨(run_delivers_until_failure (roundRobinLeg 2) true 2 _ (by decide) (by decide +kernel)
    (by decide +kernel) (by decide +kernel)).2.mpr (by decide +kernel), by decide +kernel⟩

/-- A `Write` fails at its deadline, the next one succeeds. Its bytes wait for the number that the
first one took. -/
theorem failed_write_blocks :
    let events := attachBoth ++ [.write [1], .writeChunk false, .write [2], .writeChunk true,
      .writeChunk true, .readFrame 1, .deliver 1]
    let s := run (roundRobinLeg 2) true 2 events
    (.close ∉ events ∧ Along (step (roundRobinLeg 2)) (fun s _ => s.Roomy) (new true 2) events ∧
      Along (step (roundRobinLeg 2)) Hooked (new true 2) events ∧ s.Quiet ∧
      s.calls = [⟨[1], 0, false⟩, ⟨[2], 1, true⟩] ∧ s.reasm.pending.get 1 = some [2]) ∧
      s.Reads (roundRobinLeg 2) [] :=
  ⟨by decide +kernel, reads_iff.mpr (by decide +kernel)⟩

/-! ## The end of a connection -/

/-- A reassembler that was closed had handed out all chunks, unless it has dropped one. -/
def EndsInOrder (s : Striped) : Prop := s.reasm.closed = true → s.reasm.overflow = false →
  s.reasm.nextSeq = s.chunks.length

section

variable {s : Striped} {pick : ℕ → ℕ} {event : StripeEvent}

/-- The step lemma: the reassembler is closed when no chunk is on its way, and when it is closed the
writer has ended, so no chunk is added. -/
theorem EndsInOrder.step (hends : s.EndsInOrder) (h : s.Sound) (hcomplete : s.Complete)
    (hwritten : ∀ c ∈ s.chunks, c.written = true) (hdrained : s.Drained event) :
    (s.step pick event).1.EndsInOrder := by
  have heffect := effect_step pick s event h.tidy h.item_ne
  generalize (s.step pick event).1 = s' at heffect ⊢
  intro hclosed hoverflow
  cases heffect with
  | moved hkeeps | lost _ hkeeps =>
    rw [hkeeps.reasm] at hclosed hoverflow ⊢
    rw [hkeeps.chunks]
    exact hends hclosed hoverflow
  | numbered _ _ _ _ _ hreasm _ hwriter =>
    rw [hreasm] at hclosed
    cases hwriter.symm.trans (h.closes hclosed)
  | pushed seq data hchunks _ hreasm =>
    rw [hreasm, Reassembler.closed_push] at hclosed
    rw [hreasm, Reassembler.push, if_pos (.inr (.inl hclosed))] at hoverflow
    rw [hreasm, hchunks, Reassembler.push, if_pos (.inr (.inl hclosed))]
    exact hends hclosed hoverflow
  | ended hs' hwriter hempty =>
    subst hs'
    cases hbefore : s.reasm.closed with
    | true => exact hends hbefore hoverflow
    | false =>
      refine le_antisymm h.ordered.next_le (Nat.not_lt.mp fun hlt => ?_)
      have hnot := next_not_written h hcomplete hbefore hoverflow (hempty hdrained)
        (getElem?_eq_getElem hlt)
      cases (hwritten _ (getElem_mem hlt)).symm.trans hnot
  | took _ _ _ hs' =>
    subst hs'
    exact hends hclosed hoverflow

end

/-- When `Read` returns EOF, `Close` was called; and where no write failed the reader has all bytes
that were written if and only if no read loop has lost a chunk and no chunk was on its way when the
watchdog of a closed leg ran. -/
theorem run_eof_after_every_byte (pick : ℕ → ℕ) (accepts : Bool) (legCount size : ℕ)
    (events : List StripeEvent) (hpick : ∀ seq, pick seq < legCount)
    (hwrites : .writeChunk false ∉ events)
    (hnumbers : Along (step pick) (fun s _ => s.chunks.length + 1 < 2 ^ 64) (new accepts legCount)
      events)
    (heof : ((run pick accepts legCount events).step pick (.read size)).2 = some .eof) :
    let s := run pick accepts legCount events
    s.writer.ended = true ∧ (s.received = reportedBytes s.reports ↔
      Along (step pick) Hooked (new accepts legCount) events ∧
        Along (step pick) Drained (new accepts legCount) events) := by
  intro s
  have h : s.Sound := sound_run hnumbers
  have hwritten : ∀ c ∈ s.chunks, c.written = true := (written_run hpick hwrites).2
  have hchunks := bytesOf_chunks (booked_run ..) hwritten
  rw [step_read] at heof
  obtain ⟨hready, hoverflow, hclosed⟩ := Reassembler.of_read_eq_eof (Option.some.inj heof)
  have hout := h.ordered.out
  refine ⟨h.closes hclosed, fun hall => ?_, fun ⟨hhooked, hdrained⟩ => ?_⟩
  · have hbytes : s.received ++ s.reasm.ready = bytesOf s.chunks := by
      rw [hready, append_nil, hall, hchunks]
    constructor
    · by_contra hnot
      exact short_run (fun _ _ => missing_of_not_hooked) hnumbers hnot hbytes
    · by_contra hnot
      exact short_run (fun _ _ => missing_of_not_drained) hnumbers hnot hbytes
  · have hends : s.EndsInOrder := by
      -- no chunk is lost on the way, so the legs end in order
      have hstart : (new accepts legCount).Sound ∧ (new accepts legCount).Complete ∧
          (new accepts legCount).Written legCount ∧ (new accepts legCount).EndsInOrder :=
        ⟨sound_new accepts legCount, fun _ _ => nofun, ⟨length_replicate, nofun⟩, nofun⟩
      refine (runSteps_along (motive := fun s => s.Sound ∧ s.Complete ∧ s.Written legCount ∧
        s.EndsInOrder) (along_and (along_and hnumbers hhooked)
          (along_and hdrained (along_writes hwrites))) hstart ?_).2.2.2
      rintro s event ⟨⟨hroom, hhooked⟩, hdrained, hevent⟩ ⟨h, hcomplete, hwritten, hends⟩
      exact ⟨h.step hroom event, hcomplete.step h hhooked hroom, hwritten.step hpick hevent,
        hends.step h hcomplete hwritten.2 hdrained⟩
    rw [hready, append_nil, take_of_length_le (hends hclosed hoverflow).ge, hchunks] at hout
    exact hout

theorem run_eof_after_every_byte_waiting :
    let s := run (roundRobinLeg 2) true 2 (attachBoth ++
      [.write [1], .writeChunk true, .writeChunk true, .close, .closeLeg true, .closeLeg true,
        .readFrame 0, .deliver 0, .readFrame 0, .readFrame 1, .watch 1, .watch 0, .read 4])
    s.received = reportedBytes s.reports ∧ s.received = [1] :=
  ⟨(run_eof_after_every_byte (roundRobinLeg 2) true 2 4 _ (fun seq => Nat.mod_lt seq (by decide))
    (by decide) (by decide +kernel) (by decide +kernel)).2.mpr
      ⟨by decide +kernel, by decide +kernel⟩, by decide +kernel⟩

/-- The CLOSE frame of the second leg overtakes the chunk on the first one. `Read` returns EOF and
the chunk is dropped. -/
theorem closed_before_chunk :
    let s := run (roundRobinLeg 2) true 2 (attachBoth ++
      [.write [1], .writeChunk true, .writeChunk true, .close, .closeLeg true, .closeLeg true,
        .readFrame 1, .watch 1, .readFrame 0, .deliver 0])
    s.calls = [⟨[1], 1, true⟩] ∧ (s.step (roundRobinLeg 2) (.read 4)).2 = some .eof ∧
      s.received = [] := by
  decide +kernel

end Striped

end NatP2P.Network
