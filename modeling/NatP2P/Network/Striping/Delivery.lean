import NatP2P.Common.Slots
import NatP2P.Network.Striping.Connection

/-!
# The chunks of a striped connection on their way

A chunk that was written to a leg is on the wire, with the read loop of its leg, among the early
chunks, or with the reassembler. A step moves it from one of these places to the next, and `Effect`
says which steps there are. The reader gets the chunks in the order of their numbers up to the first
number under which nothing was written.

`Sound` holds in every run: a chunk that was written is in one place at most. `Complete` says that
nothing is lost, which takes legs that have their hooks. A chunk that is lost stays so (`Missing`).

Reference: `networkFrameWork/logical_conn.go`, `networkFrameWork/bridge_mux.go`,
`networkFrameWork/reassembler.go`.
-/

namespace NatP2P.Network

open List

/-! ## Where a chunk is -/

/-- The chunk of a frame. -/
def LegFrame.item : LegFrame → Option (ℕ × Bytes)
  | .data seq payload => some (seq, payload)
  | .close => none

/-- The chunk that a read loop has for the hook. -/
def ReadLoop.item : ReadLoop → Option (ℕ × Bytes)
  | .hooked seq data => some (seq, data)
  | _ => none

/-- The chunks on a leg that are to be pushed. -/
def StripeLeg.carried (l : StripeLeg) : List (ℕ × Bytes) :=
  l.wire.filterMap LegFrame.item ++ l.loop.item.toList ++ l.hookPending

/-- The early chunks that are replayed. -/
def Attaching.early : Attaching → List (ℕ × Bytes)
  | .replaying _ early => early
  | _ => []

/-- `Close` was called. -/
def StripeWriter.ended : StripeWriter → Bool
  | .closing _ | .closed => true
  | _ => false

/-- The read loop is about to read a chunk, and the leg has no hook and does not know that it is
one. -/
def StripeLeg.Loses (accepts : Bool) (l : StripeLeg) : Prop :=
  accepts = false ∧ l.hook = false ∧ l.loop = .reading ∧
    l.wire.head?.any (fun frame => frame.item.isSome) = true

instance (accepts : Bool) (l : StripeLeg) : Decidable (l.Loses accepts) :=
  inferInstanceAs (Decidable (_ ∧ _))

/-- Nothing is closed before `Close` is called, and no chunk follows CLOSE. -/
structure StripeLeg.Tidy (ended : Bool) (l : StripeLeg) : Prop where
  wire : l.wire.Pairwise fun frame later => frame = .close → later = .close
  closed : l.closed = true → ∀ frame ∈ l.wire, frame = .close
  opened : ended = false → l.closed = false ∧ .close ∉ l.wire

namespace Striped

/-- The chunks on their way to the reassembler. -/
def inTransit (s : Striped) : List (ℕ × Bytes) :=
  s.legs.flatMap StripeLeg.carried ++ s.attaching.early

/-- The read loops lose no chunk. -/
def Hooked (s : Striped) : StripeEvent → Prop
  | .readFrame leg => ∀ l ∈ s.legs[leg]?, ¬ l.Loses s.accepts
  | _ => True

instance (s : Striped) (event : StripeEvent) : Decidable (s.Hooked event) :=
  match event with
  | .readFrame leg => inferInstanceAs (Decidable (∀ l ∈ s.legs[leg]?, ¬ l.Loses s.accepts))
  | .write _ | .writeChunk _ | .close | .closeLeg _ | .deliver _ | .attach | .watch _ | .read _ =>
    .isTrue trivial

/-- The watchdog of a leg that was closed finds no chunk on its way. -/
def Drained (s : Striped) : StripeEvent → Prop
  | .watch leg =>
    s.attaching = .attached → ∀ l ∈ s.legs[leg]?, l.closed = true → s.inTransit = []
  | _ => True

instance (s : Striped) (event : StripeEvent) : Decidable (s.Drained event) :=
  match event with
  | .watch leg =>
    inferInstanceAs (Decidable (_ → ∀ l ∈ s.legs[leg]?, l.closed = true → s.inTransit = []))
  | .write _ | .writeChunk _ | .close | .closeLeg _ | .readFrame _ | .deliver _ | .attach | .read _ =>
    .isTrue trivial

/-- No chunk gets a number, and none is pushed or read. -/
structure Keeps (s s' : Striped) : Prop where
  chunks : s'.chunks = s.chunks
  writeSeq : s'.writeSeq = s.writeSeq
  reasm : s'.reasm = s.reasm
  received : s'.received = s.received

/-- What a step does to the chunks. -/
inductive Effect (s s' : Striped) (hooked drained : Prop) : Prop
  | moved (hkeeps : s.Keeps s') (htransit : s'.inTransit.Perm s.inTransit)
  /-- a chunk is read where nobody pushes it -/
  | lost (item : ℕ × Bytes) (hkeeps : s.Keeps s')
      (htransit : s.inTransit.Perm (item :: s'.inTransit)) (hhooked : ¬ hooked)
  /-- a chunk gets a number, and is written to a leg or not -/
  | numbered (data : Bytes) (written : Bool) (hdata : data ≠ [])
      (hchunks : s'.chunks = s.chunks ++ [⟨data, written⟩])
      (hseq : s'.writeSeq = add64 s.writeSeq 1) (hreasm : s'.reasm = s.reasm)
      (hreceived : s'.received = s.received) (hwriter : s.writer.ended = false)
      (htransit : s'.inTransit.Perm
        ((if written then [(s.writeSeq, data)] else []) ++ s.inTransit))
  /-- a chunk is pushed -/
  | pushed (seq : ℕ) (data : Bytes) (hchunks : s'.chunks = s.chunks)
      (hseq : s'.writeSeq = s.writeSeq) (hreasm : s'.reasm = s.reasm.push seq data)
      (hreceived : s'.received = s.received)
      (htransit : s.inTransit.Perm ((seq, data) :: s'.inTransit))
  /-- the reassembler is closed -/
  | ended (hs' : s' = { s with reasm := s.reasm.close }) (hwriter : s.writer.ended = true)
      (hdrained : drained → s.inTransit = [])
  /-- `Read` takes bytes -/
  | took (data rest : Bytes) (hready : data ++ rest = s.reasm.ready) (hs' : s' = { s with
      reasm := { s.reasm with ready := rest }
      received := s.received ++ data })

/-! ## The effect of each step -/

section

variable {s : Striped} {pick : ℕ → ℕ} {hooked drained : Prop} {l : StripeLeg} {leg : ℕ} {ended : Bool}

/-- `Effect.moved` for a step that leaves the legs alone. -/
theorem effect_writer {writer : StripeWriter} {calls : List StripeCall} :
    s.Effect { s with writer, calls } hooked drained :=
  .moved ⟨rfl, rfl, rfl, rfl⟩ .rfl

/-- A leg that changes exchanges what it carries. -/
theorem transit_modify {f : StripeLeg → StripeLeg} {items items' : List (ℕ × Bytes)}
    (hl : s.legs[leg]? = some l) (h : (items ++ (f l).carried).Perm (items' ++ l.carried))
    (early : List (ℕ × Bytes)) :
    (items ++ ((s.legs.modify leg f).flatMap StripeLeg.carried ++ early)).Perm
      (items' ++ (s.legs.flatMap StripeLeg.carried ++ early)) := by
  have hmodify := flatMap_modify_perm (f := f) (g := StripeLeg.carried) hl
  rw [perm_iff_count] at h hmodify ⊢
  intro item
  have hleg := h item
  have hlegs := hmodify item
  simp only [count_append] at hleg hlegs ⊢
  omega

theorem effect_writeChunk (s : Striped) (pick : ℕ → ℕ) (ok : Bool) :
    s.Effect (s.writeChunk pick ok) hooked drained := by
  rw [writeChunk]
  split
  next p total hwriter => exact effect_writer
  next p rest total hrest hwriter =>
    have hdata : rest.take stripeChunkSize ≠ [] := by
      rw [Ne, take_eq_nil_iff, not_or]
      exact ⟨by decide, hrest⟩
    have hended : s.writer.ended = false := by rw [hwriter]; rfl
    dsimp only
    split_ifs with hsent
    · refine .numbered _ true hdata rfl rfl rfl rfl hended ?_
      have hleg : s.legs[pick s.writeSeq]? = some _ := getElem?_eq_getElem hsent.1
      refine @transit_modify s _ _ _ [] _ hleg ?_ _
      simp only [StripeLeg.carried, filterMap_append, filterMap_cons, filterMap_nil, LegFrame.item,
        append_assoc, nil_append, if_true]
      exact perm_middle
    · exact .numbered _ false hdata rfl rfl rfl rfl hended .rfl
  next => exact effect_writer

/-- Reading a frame keeps the chunks of a leg, unless it loses one. -/
theorem carried_readFrame (accepts : Bool) (htidy : l.Tidy ended)
    (hdata : ∀ item ∈ l.carried, item.2 ≠ []) :
    (¬ l.Loses accepts → (readFrame accepts l).carried.Perm l.carried) ∧
      (l.Loses accepts → ∃ item, l.carried.Perm (item :: (readFrame accepts l).carried)) := by
  rw [readFrame]
  split
  next seq payload wire hloop hwire =>
    have hcarried : l.carried = (seq, payload) :: (wire.filterMap LegFrame.item ++ l.hookPending) := by
      simp [StripeLeg.carried, hwire, hloop, LegFrame.item, ReadLoop.item]
    have hpayload : payload ≠ [] := hdata (seq, payload) (hcarried ▸ mem_cons_self)
    have hopen : l.closed = false := by
      by_contra hclosed
      cases htidy.closed (Bool.eq_true_of_not_eq_false hclosed) _ (hwire ▸ mem_cons_self)
    dsimp only
    rw [if_neg (by simp [hpayload, hopen]), hcarried]
    split_ifs with hhook haccepts
    · refine ⟨fun _ => ?_, fun hloses => ?_⟩
      · simp only [StripeLeg.carried, ReadLoop.item, Option.toList, append_assoc, singleton_append]
        exact perm_middle
      · cases hhook.symm.trans hloses.2.1
    · refine ⟨fun _ => ?_, fun hloses => ?_⟩
      · simp only [StripeLeg.carried, hloop, ReadLoop.item, Option.toList, append_nil, ← append_assoc]
        exact perm_append_singleton ..
      · cases haccepts.symm.trans hloses.1
    · refine ⟨fun hkept => absurd ?_ hkept, fun _ => ⟨(seq, payload), ?_⟩⟩
      · exact ⟨by simpa using haccepts, by simpa using hhook, hloop, by rw [hwire]; rfl⟩
      · simp only [StripeLeg.carried, ReadLoop.item, Option.toList, append_nil]
        exact .rfl
  next wire hloop hwire =>
    refine ⟨fun _ => ?_, fun hloses => ?_⟩
    · simp only [StripeLeg.carried, hwire, filterMap_cons, LegFrame.item]
      exact .rfl
    · have hhead := hloses.2.2.2
      rw [hwire] at hhead
      cases hhead
  next hnotData hnotClose =>
    refine ⟨fun _ => .rfl, fun ⟨_, _, hloop, hhead⟩ => ?_⟩
    cases hwire : l.wire with
    | nil => rw [hwire] at hhead; cases hhead
    | cons frame wire =>
      cases frame with
      | data seq payload => exact absurd hwire (hnotData seq payload wire hloop)
      | close => exact absurd hwire (hnotClose wire hloop)

theorem carried_subset (hl : s.legs[leg]? = some l) : l.carried ⊆ s.inTransit := fun _ hitem =>
  mem_append_left _ (mem_flatMap.mpr ⟨l, mem_of_getElem? hl, hitem⟩)

theorem effect_readFrame (s : Striped) (leg : ℕ) (htidy : ∀ l ∈ s.legs, l.Tidy ended)
    (hdata : ∀ item ∈ s.inTransit, item.2 ≠ []) :
    s.Effect { s with legs := s.legs.modify leg (readFrame s.accepts) }
      (s.Hooked (.readFrame leg)) drained := by
  cases hl : s.legs[leg]? with
  | none =>
    rw [modify_eq_self (getElem?_eq_none_iff.mp hl)]
    exact effect_writer
  | some l =>
    obtain ⟨hkept, hlost⟩ := carried_readFrame s.accepts (htidy l (mem_of_getElem? hl))
      fun item hitem => hdata item (carried_subset hl hitem)
    by_cases hloses : l.Loses s.accepts
    · obtain ⟨item, hitem⟩ := hlost hloses
      refine .lost item ⟨rfl, rfl, rfl, rfl⟩ ?_ fun hhooked => hhooked l hl hloses
      exact (@transit_modify s _ _ _ [item] [] hl hitem.symm _).symm
    · exact .moved ⟨rfl, rfl, rfl, rfl⟩ (@transit_modify s _ _ _ [] [] hl (hkept hloses) _)

theorem effect_deliver (s : Striped) (leg : ℕ) : s.Effect (s.deliver leg) hooked drained := by
  rw [deliver]
  split
  next l hl =>
    split
    next => exact effect_writer
    next seq data hloop =>
      refine .pushed seq data rfl rfl rfl rfl
        (@transit_modify s _ _ _ [(seq, data)] [] hl ?_ _).symm
      simp only [StripeLeg.carried, hloop, ReadLoop.item, Option.toList, append_nil, nil_append,
        append_assoc, singleton_append]
      exact perm_middle.symm
    next data hloop =>
      refine .moved ⟨rfl, rfl, rfl, rfl⟩ (@transit_modify s _ _ _ [] [] hl ?_ _)
      simp only [StripeLeg.carried, hloop, ReadLoop.item]
      exact .rfl
  next => exact effect_writer

theorem effect_attach (s : Striped) : s.Effect s.attach hooked drained := by
  rw [attach]
  split
  next leg hattaching =>
    split
    next => exact .moved ⟨rfl, rfl, rfl, rfl⟩ (by rw [inTransit, inTransit, hattaching]; exact .rfl)
    next l hl =>
      refine .moved ⟨rfl, rfl, rfl, rfl⟩ ?_
      -- the early chunks of the leg are now those that are replayed
      have hleg : (l.hookPending ++ ({ l with hook := true, hookPending := [] } : StripeLeg).carried).Perm
          ([] ++ l.carried) := by
        simp only [StripeLeg.carried, append_nil, nil_append]
        exact perm_append_comm
      have hexchange := @transit_modify s l leg (fun l => { l with hook := true, hookPending := [] })
        l.hookPending [] hl hleg []
      rw [inTransit, inTransit, hattaching]
      simp only [append_nil, nil_append] at hexchange
      exact perm_append_comm.trans (by simpa [Attaching.early] using hexchange)
  next leg hattaching =>
    exact .moved ⟨rfl, rfl, rfl, rfl⟩ (by rw [inTransit, inTransit, hattaching]; exact .rfl)
  next leg seq data early hattaching =>
    refine .pushed seq data rfl rfl rfl rfl ?_
    rw [inTransit, inTransit, hattaching]
    exact perm_middle
  next => exact effect_writer

theorem effect_step (pick : ℕ → ℕ) (s : Striped) (event : StripeEvent)
    (htidy : ∀ l ∈ s.legs, l.Tidy s.writer.ended) (hdata : ∀ item ∈ s.inTransit, item.2 ≠ []) :
    s.Effect (s.step pick event).1 (s.Hooked event) (s.Drained event) := by
  cases event with
  | write p => rw [step]; split <;> exact effect_writer
  | writeChunk ok => exact effect_writeChunk s pick ok
  | close => rw [step]; split <;> exact effect_writer
  | closeLeg sent =>
    rw [step]
    split
    next leg hwriter =>
      split_ifs with hlt
      · refine .moved ⟨rfl, rfl, rfl, rfl⟩
          (@transit_modify s _ _ _ [] [] (getElem?_eq_getElem hlt) ?_ _)
        simp only [StripeLeg.carried, filterMap_append, filterMap_cons, filterMap_nil, LegFrame.item,
          append_nil]
        exact .rfl
      all_goals exact effect_writer
    next => exact effect_writer
  | readFrame leg => exact effect_readFrame s leg htidy hdata
  | deliver leg => exact effect_deliver s leg
  | attach => exact effect_attach s
  | watch leg =>
    rw [step]
    split
    next l hattaching hl =>
      split_ifs with hclosed
      · refine .ended rfl ?_ fun hdrained => hdrained hattaching l hl hclosed
        by_contra hopen
        have hstays := (htidy l (mem_of_getElem? hl)).opened (Bool.eq_false_of_not_eq_true hopen)
        cases hclosed.symm.trans hstays.1
      · exact effect_writer
    next => exact effect_writer
  | read size =>
    obtain ⟨rest, hread, hdata⟩ := s.reasm.read_ready size
    rw [step_read, hread]
    exact .took _ rest hdata rfl

end

/-! ## The legs -/

section

variable {l : StripeLeg} {ended accepts : Bool} {s : Striped}

theorem tidy_readFrame (h : l.Tidy ended) : (readFrame accepts l).Tidy ended := by
  rw [readFrame]
  split
  next seq payload wire hloop hwire =>
    have htail : ({ l with wire } : StripeLeg).Tidy ended := by
      obtain ⟨hpairs, hclosed, hopened⟩ := h
      rw [hwire] at hpairs hclosed hopened
      exact ⟨hpairs.of_cons, fun hleg frame hframe => hclosed hleg frame (mem_cons_of_mem _ hframe),
        fun hended => (hopened hended).imp id (mt (mem_cons_of_mem _))⟩
    dsimp only
    split_ifs <;> exact ⟨htail.wire, htail.closed, htail.opened⟩
  next wire hloop hwire =>
    obtain ⟨hpairs, -, hopened⟩ := h
    rw [hwire] at hpairs hopened
    refine ⟨hpairs.of_cons, fun _ frame hframe => rel_of_pairwise_cons hpairs hframe rfl, ?_⟩
    exact fun hended => absurd mem_cons_self (hopened hended).2
  next => exact h

theorem tidy_step (pick : ℕ → ℕ) (h : ∀ l ∈ s.legs, l.Tidy s.writer.ended) (event : StripeEvent) :
    ∀ l ∈ (s.step pick event).1.legs, l.Tidy (s.step pick event).1.writer.ended := by
  have hstays : ∀ {l : StripeLeg} {ended : Bool}, l.Tidy ended → l.Tidy true := fun htidy =>
    ⟨htidy.wire, htidy.closed, by simp⟩
  cases event with
  | write p =>
    rw [step]
    split
    next hwriter => rw [hwriter] at h; exact h
    next => exact h
  | writeChunk ok =>
    rw [step, writeChunk]
    split
    next hwriter => rw [hwriter] at h; exact h
    next p rest total _ hwriter =>
      rw [hwriter] at h
      dsimp only
      split_ifs
      · -- nothing is closed yet, so a chunk may follow what is on the wire
        refine forall_mem_modify h fun l htidy => ?_
        obtain ⟨hopen, hwire⟩ := htidy.opened rfl
        refine ⟨pairwise_append.mpr ⟨htidy.wire, pairwise_singleton .., ?_⟩, fun hclosed => ?_, ?_⟩
        · rintro frame hframe - - rfl
          exact absurd hframe hwire
        · cases hopen.symm.trans hclosed
        · exact fun _ => ⟨hopen, by simpa using hwire⟩
      · exact h
    next => exact h
  | close =>
    rw [step]
    split
    · exact fun l hl => hstays (h l hl)
    · exact h
  | closeLeg sent =>
    rw [step]
    split
    next leg hwriter =>
      -- `Close` has ended the writer, so only close frames follow
      have hended : ∀ l ∈ s.legs, l.Tidy true := fun l hl => hstays (h l hl)
      split_ifs
      · refine forall_mem_modify hended fun l htidy => ⟨?_, fun hclosed => ?_, by simp [StripeWriter.ended]⟩
        · refine pairwise_append.mpr ⟨htidy.wire, pairwise_singleton .., fun _ _ later hlater _ => ?_⟩
          exact mem_singleton.mp hlater
        · exact forall_mem_append.mpr ⟨htidy.closed hclosed, forall_mem_singleton.mpr rfl⟩
      all_goals exact hended
    next => exact h
  | readFrame leg => exact forall_mem_modify h fun l => tidy_readFrame
  | deliver leg =>
    rw [step, deliver]
    repeat' split
    all_goals first
      | exact h
      | exact forall_mem_modify h fun l htidy => ⟨htidy.wire, htidy.closed, htidy.opened⟩
  | attach =>
    rw [step, attach]
    repeat' split
    all_goals first
      | exact h
      | exact forall_mem_modify h fun l htidy => ⟨htidy.wire, htidy.closed, htidy.opened⟩
  | watch leg =>
    rw [step]
    repeat' split
    all_goals exact h
  | read size =>
    rw [step_read]
    exact h

/-- The writer ends when it is idle and `Close` is called. -/
theorem ended_step (pick : ℕ → ℕ) (s : Striped) (event : StripeEvent) :
    (s.step pick event).1.writer.ended = true ↔
      s.writer.ended = true ∨ event = .close ∧ s.writer = .idle := by
  cases event with
  | read size => rw [step_read]; simp
  | _ =>
    simp only [step, writeChunk, deliver, attach]
    repeat' split
    all_goals simp_all [StripeWriter.ended]

end

/-! ## What holds in every run -/

/-- What is on its way was written, is not with the reassembler and is on its way once; what is out
is in order; and nothing ends before `Close` is called. -/
structure Sound (s : Striped) : Prop where
  seqs : s.writeSeq = s.chunks.length
  nonempty : ∀ c ∈ s.chunks, c.data ≠ []
  carried : ∀ item ∈ s.inTransit, WrittenAs s.chunks item.1 item.2 ∧ ¬ Settled s.reasm item.1
  nodup : (s.inTransit.map Prod.fst).Nodup
  ordered : Ordered s.chunks s.received s.reasm
  caught : CaughtUp s.reasm
  tidy : ∀ l ∈ s.legs, l.Tidy s.writer.ended
  closes : s.reasm.closed = true → s.writer.ended = true

theorem sound_new (accepts : Bool) (legCount : ℕ) : (new accepts legCount).Sound := by
  have hempty : (new accepts legCount).inTransit = [] := by
    rw [inTransit, new, append_eq_nil_iff, flatMap_eq_nil_iff]
    refine ⟨fun l hl => ?_, rfl⟩
    rw [eq_of_mem_replicate hl]
    rfl
  refine ⟨rfl, nofun, by rw [hempty]; exact nofun, by rw [hempty]; exact nodup_nil,
    ⟨le_rfl, nofun, rfl, nofun⟩, rfl, fun l hl => ?_, nofun⟩
  rw [eq_of_mem_replicate hl]
  exact ⟨.nil, nofun, fun _ => ⟨rfl, nofun⟩⟩

section

variable {s s' : Striped} {hooked drained : Prop} {pick : ℕ → ℕ} {event : StripeEvent}

/-- The chunks of a sound connection that are on their way are not empty. -/
theorem Sound.item_ne (h : s.Sound) : ∀ item ∈ s.inTransit, item.2 ≠ [] := fun item hitem =>
  h.nonempty _ (mem_of_getElem? (h.carried item hitem).1)

theorem Sound.settled_lt (h : s.Sound) {seq : ℕ} (hsettled : Settled s.reasm seq) :
    seq < s.chunks.length := by
  rcases hsettled with hlow | hwaits
  · exact hlow.trans_le h.ordered.next_le
  · obtain ⟨data, hget⟩ := Option.isSome_iff_exists.mp hwaits
    exact (h.ordered.pending seq data hget).2.lt

/-- What is on its way is a part of what was. -/
theorem Sound.of_subperm (h : s.Sound) (hkeeps : s.Keeps s') (hsub : s'.inTransit <+~ s.inTransit)
    (htidy : ∀ l ∈ s'.legs, l.Tidy s'.writer.ended)
    (hended : s.writer.ended = true → s'.writer.ended = true) : s'.Sound := by
  obtain ⟨hchunks, hseq, hreasm, hreceived⟩ := hkeeps
  refine ⟨?_, ?_, ?_, ?_, ?_, ?_, htidy, ?_⟩
  · rw [hseq, hchunks, h.seqs]
  · rw [hchunks]
    exact h.nonempty
  · rw [hchunks, hreasm]
    exact fun item hitem => h.carried item (hsub.subset hitem)
  · obtain ⟨items, hperm, hsublist⟩ := hsub
    exact (hperm.map _).nodup_iff.mp (h.nodup.sublist (hsublist.map _))
  · rw [hchunks, hreceived, hreasm]
    exact h.ordered
  · rw [hreasm]
    exact h.caught
  · rw [hreasm]
    exact fun hclosed => hended (h.closes hclosed)

theorem Sound.step (h : s.Sound) (hroom : s.chunks.length + 1 < 2 ^ 64) (event : StripeEvent) :
    (s.step pick event).1.Sound := by
  have htidy := tidy_step pick h.tidy event
  have hended : s.writer.ended = true → (s.step pick event).1.writer.ended = true := fun hwriter =>
    (ended_step pick s event).mpr (.inl hwriter)
  have heffect := effect_step pick s event h.tidy h.item_ne
  generalize (s.step pick event).1 = s' at htidy hended heffect ⊢
  cases heffect with
  | moved hkeeps htransit => exact h.of_subperm hkeeps htransit.subperm htidy hended
  | lost item hkeeps htransit =>
    exact h.of_subperm hkeeps ((sublist_cons_self _ _).subperm.trans htransit.symm.subperm) htidy hended
  | numbered data written hdata hchunks hseq hreasm hreceived hwriter htransit =>
    -- a new chunk has a number that none on its way has
    have hnew : ∀ item ∈ s.inTransit, item.1 < s.chunks.length := fun item hitem =>
      (h.carried item hitem).1.lt
    refine ⟨?_, ?_, ?_, ?_, ?_, ?_, htidy, ?_⟩
    · rw [hseq, hchunks, h.seqs, length_append]
      exact add64_eq (by omega)
    · rw [hchunks]
      exact forall_mem_append.mpr ⟨h.nonempty, forall_mem_singleton.mpr hdata⟩
    · intro item hitem
      rw [hchunks, hreasm]
      rcases mem_append.mp (htransit.mem_iff.mp hitem) with hfirst | hold
      · cases written with
        | false => cases hfirst
        | true =>
          obtain rfl := mem_singleton.mp hfirst
          dsimp only
          rw [h.seqs]
          exact ⟨getElem?_concat_length, fun hsettled => Nat.lt_irrefl _ (h.settled_lt hsettled)⟩
      · exact (h.carried item hold).imp (WrittenAs.concat · _) id
    · rw [(htransit.map Prod.fst).nodup_iff]
      cases written with
      | false => exact h.nodup
      | true =>
        refine nodup_cons.mpr ⟨fun hmem => ?_, h.nodup⟩
        obtain ⟨item, hitem, hfst⟩ := mem_map.mp hmem
        have hlt := hnew item hitem
        rw [hfst, h.seqs] at hlt
        exact Nat.lt_irrefl _ hlt
    · rw [hchunks, hreceived, hreasm]
      exact h.ordered.concat _
    · rw [hreasm]
      exact h.caught
    · rw [hreasm]
      exact fun hclosed => hended (h.closes hclosed)
  | pushed seq data hchunks hseq hreasm hreceived htransit =>
    -- the chunk leaves the leg and is given to the reassembler
    have hitem := htransit.mem_iff.mpr mem_cons_self
    have hwritten := (h.carried _ hitem).1
    obtain ⟨hordered, hcaught, -⟩ := Reassembler.push_spec h.ordered h.caught hwritten (by omega)
    have hnodup := (htransit.map Prod.fst).nodup_iff.mp h.nodup
    refine ⟨?_, hchunks ▸ h.nonempty, fun item hitem => ?_, (nodup_cons.mp hnodup).2, ?_, ?_, htidy, ?_⟩
    · rw [hseq, hchunks, h.seqs]
    · obtain ⟨hold, hfree⟩ := h.carried item (htransit.mem_iff.mpr (mem_cons_of_mem _ hitem))
      rw [hchunks, hreasm]
      refine ⟨hold, fun hsettled => ?_⟩
      rcases Reassembler.settled_of_push hsettled with hbefore | heq
      · exact hfree hbefore
      · -- the chunk was on its way once
        have hmem := mem_map_of_mem (f := Prod.fst) hitem
        rw [heq] at hmem
        exact (nodup_cons.mp hnodup).1 hmem
    · rw [hchunks, hreceived, hreasm]
      exact hordered
    · rw [hreasm]
      exact hcaught
    · rw [hreasm, Reassembler.closed_push]
      exact fun hclosed => hended (h.closes hclosed)
  | ended hs' hwriter =>
    subst hs'
    exact { h with
      carried := fun item hitem => (h.carried item hitem).imp id (mt Reassembler.settled_of_close)
      ordered := { h.ordered with pending := nofun }
      caught := rfl
      closes := fun _ => hwriter }
  | took data rest hready hs' =>
    subst hs'
    refine { h with ordered := { h.ordered with out := ?_ } }
    rw [append_assoc, hready]
    exact h.ordered.out

/-- As long as the reassembler is open and has dropped nothing, every chunk that was written is on
its way or with the reassembler. -/
def Complete (s : Striped) : Prop := s.reasm.closed = false → s.reasm.overflow = false →
  ∀ seq data, WrittenAs s.chunks seq data → (seq, data) ∈ s.inTransit ∨ Settled s.reasm seq

/-- The step lemma for read loops that lose nothing. -/
theorem Complete.step (hcomplete : s.Complete) (h : s.Sound) (hhooked : s.Hooked event)
    (hroom : s.chunks.length + 1 < 2 ^ 64) : (s.step pick event).1.Complete := by
  have heffect := effect_step pick s event h.tidy h.item_ne
  generalize (s.step pick event).1 = s' at heffect ⊢
  intro hopen hoverflow seq data hwritten
  cases heffect with
  | moved hkeeps htransit =>
    obtain ⟨hchunks, -, hreasm, -⟩ := hkeeps
    rw [hchunks] at hwritten
    rw [hreasm] at hopen hoverflow ⊢
    exact (hcomplete hopen hoverflow seq data hwritten).imp htransit.mem_iff.mpr id
  | lost item hkeeps htransit hlost => exact absurd hhooked hlost
  | numbered other written hdata hchunks hseq hreasm hreceived hwriter htransit =>
    rw [hchunks] at hwritten
    rw [hreasm] at hopen hoverflow ⊢
    rcases getElem?_append_cases hwritten with ⟨hlast, heq⟩ | ⟨-, hold⟩
    · cases heq
      refine .inl (htransit.mem_iff.mpr (mem_append_left _ (mem_singleton.mpr ?_)))
      rw [hlast, h.seqs]
    · refine (hcomplete hopen hoverflow seq data hold).imp (fun hmoving => ?_) id
      exact htransit.mem_iff.mpr (mem_append_right _ hmoving)
  | pushed other bytes hchunks hseq hreasm hreceived htransit =>
    have hother := (h.carried _ (htransit.mem_iff.mpr mem_cons_self)).1
    rw [hchunks] at hwritten
    rw [hreasm] at hopen hoverflow ⊢
    rw [Reassembler.closed_push] at hopen
    have hkept : s.reasm.overflow = false := by
      rcases Reassembler.overflow_push s.reasm other bytes with hsame | ⟨-, hfull, -⟩
      · rw [← hsame, hoverflow]
      · cases hoverflow.symm.trans hfull
    rcases hcomplete hopen hkept seq data hwritten with hmoving | hsettled
    · rcases mem_cons.mp (htransit.mem_iff.mp hmoving) with heq | hstays
      · cases heq
        refine .inr ((Reassembler.settled_push h.ordered h.caught hother (by omega)
          (h.nonempty _ (mem_of_getElem? hother)) hopen).resolve_right fun hfull => ?_)
        cases hoverflow.symm.trans hfull.2
      · exact .inl hstays
    · exact .inr ((Reassembler.push_spec h.ordered h.caught hother (by omega)).2.2 seq hsettled)
  | ended hs' => subst hs'; cases hopen
  | took bytes rest hready hs' =>
    subst hs'
    exact hcomplete hopen hoverflow seq data hwritten

/-! ## Chunks that do not arrive -/

/-- A chunk was written, is not with the reassembler and will not be pushed any more. -/
def Missing (s : Striped) (seq : ℕ) : Prop :=
  (∃ data, WrittenAs s.chunks seq data) ∧ ¬ Settled s.reasm seq ∧
    (s.reasm.closed = true ∨ seq ∉ s.inTransit.map Prod.fst)

theorem Missing.step {seq : ℕ} (hmissing : s.Missing seq) (h : s.Sound) (event : StripeEvent) :
    (s.step pick event).1.Missing seq := by
  obtain ⟨⟨data, hwritten⟩, hfree, hgone⟩ := hmissing
  have heffect := effect_step pick s event h.tidy h.item_ne
  generalize (s.step pick event).1 = s' at heffect ⊢
  cases heffect with
  | moved hkeeps htransit =>
    obtain ⟨hchunks, -, hreasm, -⟩ := hkeeps
    rw [Missing, hchunks, hreasm, (htransit.map Prod.fst).mem_iff]
    exact ⟨⟨data, hwritten⟩, hfree, hgone⟩
  | lost item hkeeps htransit =>
    obtain ⟨hchunks, -, hreasm, -⟩ := hkeeps
    rw [(htransit.map Prod.fst).mem_iff] at hgone
    rw [Missing, hchunks, hreasm]
    exact ⟨⟨data, hwritten⟩, hfree, hgone.imp id (mt (mem_cons_of_mem _))⟩
  | numbered other written hdata hchunks hseq hreasm hreceived hwriter htransit =>
    rw [Missing, hchunks, hreasm, (htransit.map Prod.fst).mem_iff, map_append, mem_append]
    refine ⟨⟨data, hwritten.concat _⟩, hfree, hgone.imp id fun hold hmem => ?_⟩
    rcases hmem with hnew | hmoving
    · have hlt := hwritten.lt
      cases written with
      | false => cases hnew
      | true =>
        rw [mem_singleton.mp hnew, h.seqs] at hlt
        exact Nat.lt_irrefl _ hlt
    · exact hold hmoving
  | pushed other bytes hchunks hseq hreasm hreceived htransit =>
    rw [Missing, hchunks, hreasm, Reassembler.closed_push]
    rw [(htransit.map Prod.fst).mem_iff] at hgone
    refine ⟨⟨data, hwritten⟩, fun hsettled => ?_, hgone.imp id (mt (mem_cons_of_mem _))⟩
    rcases hgone with hclosed | hgone
    · rw [Reassembler.push, if_pos (.inr (.inl hclosed))] at hsettled
      exact hfree hsettled
    · rcases Reassembler.settled_of_push hsettled with hbefore | rfl
      · exact hfree hbefore
      · exact hgone mem_cons_self
  | ended hs' =>
    subst hs'
    exact ⟨⟨data, hwritten⟩, mt Reassembler.settled_of_close hfree, .inl rfl⟩
  | took bytes rest hready hs' =>
    subst hs'
    exact ⟨⟨data, hwritten⟩, hfree, hgone⟩

/-- A chunk that is read before the hook is set, where the leg does not know that it is one. -/
theorem missing_of_not_hooked (h : s.Sound) (hhooked : ¬ s.Hooked event) :
    ∃ seq, (s.step pick event).1.Missing seq := by
  cases event with
  | readFrame leg =>
    simp only [Hooked, not_forall, not_not] at hhooked
    obtain ⟨l, hl, hloses⟩ := hhooked
    have hdata := fun item hitem => h.item_ne item (carried_subset hl hitem)
    obtain ⟨item, hitem⟩ := (carried_readFrame _ (h.tidy l (mem_of_getElem? hl)) hdata).2 hloses
    have htransit := (@transit_modify s _ _ _ [item] [] hl hitem.symm s.attaching.early).symm
    obtain ⟨hwritten, hfree⟩ := h.carried item (htransit.mem_iff.mpr mem_cons_self)
    have hnodup := (htransit.map Prod.fst).nodup_iff.mp h.nodup
    exact ⟨item.1, ⟨item.2, hwritten⟩, hfree, .inr (nodup_cons.mp hnodup).1⟩
  | _ => exact absurd trivial hhooked

/-- A chunk that is on its way when the reassembler is closed. -/
theorem missing_of_not_drained (h : s.Sound) (hdrained : ¬ s.Drained event) :
    ∃ seq, (s.step pick event).1.Missing seq := by
  cases event with
  | watch leg =>
    simp only [Drained, not_forall] at hdrained
    obtain ⟨hattached, l, hl, hclosed, htransit⟩ := hdrained
    obtain ⟨item, hitem⟩ := exists_mem_of_ne_nil _ htransit
    obtain ⟨hwritten, hfree⟩ := h.carried item hitem
    have hstep : s.step pick (.watch leg) = ({ s with reasm := s.reasm.close }, none) := by
      rw [Option.mem_def] at hl
      rw [Striped.step, hattached, hl]
      exact if_pos hclosed
    rw [hstep]
    exact ⟨item.1, ⟨item.2, hwritten⟩, mt Reassembler.settled_of_close hfree, .inl rfl⟩
  | _ => exact absurd trivial hdrained

end

end Striped

end NatP2P.Network
