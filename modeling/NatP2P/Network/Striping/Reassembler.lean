import NatP2P.Common.Bytes
import NatP2P.Common.GoMap
import NatP2P.Common.Word

/-!
# Putting chunks in order

A striped connection sends the chunks of one byte stream over several legs, each with a number. The
reader's `reassembler` gets them in any order and hands out the bytes in the order of the numbers.
Chunks from the future wait in `pending`.

`Ordered` compares a reassembler with the chunks the writer numbered: what was handed out or is
ready are exactly the chunks below `nextSeq`, and what waits are chunks above it. `push` keeps that,
and a chunk that is pushed is not lost as long as the reassembler is open and has room
(`settled_push`).

Reference: `networkFrameWork/reassembler.go`.
-/

namespace NatP2P.Network

open List GoMap

/-- `reasmMaxPending`. -/
def reasmMaxPending : ℕ := 4096

/-- `reassembler`. -/
structure Reassembler where
  nextSeq : ℕ
  pending : GoMap ℕ Bytes
  ready : Bytes
  closed : Bool
  overflow : Bool

/-- What `read` returns. -/
inductive ReadResult where
  | bytes (data : Bytes)
  | streamGone
  | eof
  /-- it waits -/
  | blocked
deriving DecidableEq

/-- The bytes that came back. -/
def ReadResult.data : ReadResult → Bytes
  | .bytes data => data
  | _ => []

namespace Reassembler

/-- `newReassembler`. -/
def new : Reassembler where
  nextSeq := 0
  pending := .empty
  ready := []
  closed := false
  overflow := false

/-- The loop in `push` that follows up with the chunks that waited. Each turn deletes one of them,
so there are at most `len(r.pending)` turns. -/
def followUp : ℕ → Reassembler → Reassembler
  | 0, r => r
  | turns + 1, r =>
    match r.pending.get r.nextSeq with
    | none => r
    | some nb =>
      followUp turns
        { r with
          pending := r.pending.delete r.nextSeq
          ready := r.ready ++ nb
          nextSeq := add64 r.nextSeq 1 }

/-- `push`. -/
def push (r : Reassembler) (seq : ℕ) (data : Bytes) : Reassembler :=
  if data = [] ∨ r.closed = true ∨ seq < r.nextSeq then r
  else if seq = r.nextSeq then
    followUp r.pending.len
      { r with ready := r.ready ++ data, nextSeq := add64 r.nextSeq 1 }
  else if (r.pending.get seq).isSome then r
  else if reasmMaxPending ≤ r.pending.len then { r with overflow := true }
  else { r with pending := r.pending.set seq data }

/-- `read` with room for `size` bytes. -/
def read (r : Reassembler) (size : ℕ) : Reassembler × ReadResult :=
  if r.ready ≠ [] then ({ r with ready := r.ready.drop size }, .bytes (r.ready.take size))
  else if r.overflow then (r, .streamGone)
  else if r.closed then (r, .eof)
  else (r, .blocked)

/-- Calls of `read` one after the other, and the bytes they return. -/
def reads (r : Reassembler) : List ℕ → Reassembler × Bytes
  | [] => (r, [])
  | size :: sizes =>
    let (r, result) := r.read size
    let (r, more) := r.reads sizes
    (r, result.data ++ more)

/-- `close`. -/
def close (r : Reassembler) : Reassembler := { r with closed := true, pending := .empty }

end Reassembler

/-! ## What has been put in order -/

/-- A chunk that got a number: its bytes, and whether it was written to a leg. -/
structure Chunk where
  data : Bytes
  written : Bool
deriving DecidableEq

/-- The bytes of chunks. -/
def bytesOf (chunks : List Chunk) : Bytes := chunks.flatMap Chunk.data

/-- A chunk that was written under a number. -/
def WrittenAs (chunks : List Chunk) (seq : ℕ) (data : Bytes) : Prop :=
  chunks[seq]? = some ⟨data, true⟩

/-- What the reader got so far, with the bytes that are ready, are the chunks below `nextSeq`. All
of these were written, and so were the ones that wait. -/
structure Ordered (chunks : List Chunk) (received : Bytes) (r : Reassembler) : Prop where
  next_le : r.nextSeq ≤ chunks.length
  written : ∀ c ∈ chunks.take r.nextSeq, c.written = true
  out : received ++ r.ready = bytesOf (chunks.take r.nextSeq)
  pending : ∀ seq data, r.pending.get seq = some data →
    r.nextSeq ≤ seq ∧ WrittenAs chunks seq data

/-- A number is done with: its chunk is handed out, ready or waiting. -/
def Settled (r : Reassembler) (seq : ℕ) : Prop :=
  seq < r.nextSeq ∨ (r.pending.get seq).isSome

/-- No chunk waits that is next. -/
def CaughtUp (r : Reassembler) : Prop := r.pending.get r.nextSeq = none

section

variable {chunks : List Chunk} {received : Bytes} {r : Reassembler} {seq : ℕ} {data : Bytes}

theorem WrittenAs.lt (h : WrittenAs chunks seq data) : seq < chunks.length :=
  (List.getElem?_eq_some_iff.mp h).1

theorem WrittenAs.concat (h : WrittenAs chunks seq data) (c : Chunk) :
    WrittenAs (chunks ++ [c]) seq data := by
  rw [WrittenAs, getElem?_append_left h.lt]
  exact h

/-- More chunks do not matter. -/
theorem Ordered.concat (h : Ordered chunks received r) (c : Chunk) :
    Ordered (chunks ++ [c]) received r where
  next_le := by
    have := h.next_le
    rw [length_append]
    omega
  written := by rw [take_append_of_le_length h.next_le]; exact h.written
  out := by rw [take_append_of_le_length h.next_le]; exact h.out
  pending seq data hpending := (h.pending seq data hpending).imp id (WrittenAs.concat · c)

theorem Ordered.next {rest : GoMap ℕ Bytes} (h : Ordered chunks received r)
    (hwritten : WrittenAs chunks r.nextSeq data) (hsize : chunks.length < 2 ^ 64)
    (hrest : ∀ seq data, rest.get seq = some data →
      r.nextSeq < seq ∧ r.pending.get seq = some data) :
    Ordered chunks received
      { r with pending := rest, ready := r.ready ++ data, nextSeq := add64 r.nextSeq 1 } := by
  have hlt := hwritten.lt
  have hnext : add64 r.nextSeq 1 = r.nextSeq + 1 := add64_eq (by omega)
  have htake : chunks.take (r.nextSeq + 1) = chunks.take r.nextSeq ++ [⟨data, true⟩] := by
    rw [take_add_one, hwritten]
    rfl
  refine ⟨?_, ?_, ?_, ?_⟩
  · rw [hnext]
    exact hlt
  · intro c hc
    rw [hnext, htake, mem_append, mem_singleton] at hc
    rcases hc with hold | rfl
    · exact h.written c hold
    · rfl
  · rw [hnext, htake, ← append_assoc, h.out]
    simp [bytesOf]
  · intro seq data hget
    obtain ⟨hseq, hpending⟩ := hrest seq data hget
    rw [hnext]
    exact ⟨hseq, (h.pending seq data hpending).2⟩

namespace Reassembler

section

variable (h : Ordered chunks received r)
include h

/-- What `followUp` keeps. The induction is on the turns that are left; each deletes one chunk, so
the turns that `push` allows are enough. -/
theorem followUp_spec {turns : ℕ} (hsize : chunks.length < 2 ^ 64)
    (hturns : r.pending.len ≤ turns) :
    Ordered chunks received (followUp turns r) ∧ CaughtUp (followUp turns r) ∧
      ∀ seq, Settled r seq → Settled (followUp turns r) seq := by
  induction turns generalizing r with
  | zero =>
    have hempty : r.pending.len = 0 := by omega
    exact ⟨h, get_eq_none_of_len_eq_zero hempty _, fun _ => id⟩
  | succ turns ih =>
    rw [followUp]
    cases hget : r.pending.get r.nextSeq with
    | none => exact ⟨h, hget, fun _ => id⟩
    | some nb =>
      have hnext : add64 r.nextSeq 1 = r.nextSeq + 1 :=
        add64_eq (by have := (h.pending _ _ hget).2.lt; omega)
      have hordered : Ordered chunks received
          { r with
            pending := r.pending.delete r.nextSeq
            ready := r.ready ++ nb
            nextSeq := add64 r.nextSeq 1 } := by
        refine h.next (h.pending _ _ hget).2 hsize fun seq data hdelete => ?_
        obtain ⟨hseq, hold⟩ := get_delete_eq_some.mp hdelete
        have := (h.pending seq data hold).1
        exact ⟨by omega, hold⟩
      have hlen := len_delete_of_get hget
      obtain ⟨hfinal, hcaught, hsettled⟩ := ih hordered (by dsimp only; omega)
      refine ⟨hfinal, hcaught, fun seq hseq => hsettled seq ?_⟩
      -- the number that is handed out is below the new one, the others stay where they are
      show seq < add64 r.nextSeq 1 ∨ ((r.pending.delete r.nextSeq).get seq).isSome
      rw [get_delete]
      rcases hseq with hlow | hwaiting
      · exact .inl (by omega)
      · split_ifs with heq
        · exact .inl (by omega)
        · exact .inr hwaiting

theorem push_next_spec (hcaught : CaughtUp r)
    (hwritten : WrittenAs chunks r.nextSeq data) (hsize : chunks.length < 2 ^ 64) :
    let r' := followUp r.pending.len
      { r with ready := r.ready ++ data, nextSeq := add64 r.nextSeq 1 }
    Ordered chunks received r' ∧ CaughtUp r' ∧ (∀ other, Settled r other → Settled r' other) ∧
      Settled r' r.nextSeq := by
  have hnext : add64 r.nextSeq 1 = r.nextSeq + 1 := add64_eq (by have := hwritten.lt; omega)
  have hordered : Ordered chunks received
      { r with ready := r.ready ++ data, nextSeq := add64 r.nextSeq 1 } := by
    refine h.next hwritten hsize fun other bytes hget => ⟨?_, hget⟩
    have hle := (h.pending other bytes hget).1
    have hne : other ≠ r.nextSeq := by
      rintro rfl
      rw [hcaught] at hget
      cases hget
    omega
  obtain ⟨hfinal, hcaught', hsettled⟩ := followUp_spec hordered hsize (le_refl _)
  have hlow : ∀ other, other ≤ r.nextSeq → other < add64 r.nextSeq 1 := by
    omega
  exact ⟨hfinal, hcaught',
    fun other hother => hsettled other (hother.imp (fun hlt => hlow other hlt.le) id),
    hsettled _ (.inl (hlow _ le_rfl))⟩

theorem push_spec (hcaught : CaughtUp r)
    (hwritten : WrittenAs chunks seq data) (hsize : chunks.length < 2 ^ 64) :
    Ordered chunks received (r.push seq data) ∧ CaughtUp (r.push seq data) ∧
      ∀ other, Settled r other → Settled (r.push seq data) other := by
  rw [push]
  split_ifs with hskip hnext hwaits hfull
  · exact ⟨h, hcaught, fun _ => id⟩
  · subst hnext
    obtain ⟨hordered, hcaught', hsettled, -⟩ := push_next_spec h hcaught hwritten hsize
    exact ⟨hordered, hcaught', hsettled⟩
  · exact ⟨h, hcaught, fun _ => id⟩
  · exact ⟨{ h with }, hcaught, fun _ => id⟩
  · have hlt : r.nextSeq < seq := by
      omega
    refine ⟨{ h with pending := ?_ }, ?_, ?_⟩
    · intro other bytes hget
      rcases get_set_eq_some.mp hget with ⟨rfl, rfl⟩ | ⟨-, hold⟩
      · exact ⟨hlt.le, hwritten⟩
      · exact h.pending other bytes hold
    · show (r.pending.set seq data).get r.nextSeq = none
      rw [get_set_ne (by omega)]
      exact hcaught
    · intro other hother
      refine hother.imp id fun hwaiting => ?_
      rw [get_set]
      split_ifs
      · rfl
      · exact hwaiting

/-- An open reassembler with room loses no chunk. -/
theorem settled_push (hcaught : CaughtUp r)
    (hwritten : WrittenAs chunks seq data) (hsize : chunks.length < 2 ^ 64) (hdata : data ≠ [])
    (hopen : r.closed = false) :
    Settled (r.push seq data) seq ∨
      reasmMaxPending ≤ r.pending.len ∧ (r.push seq data).overflow = true := by
  rw [push]
  split_ifs with hskip hnext hwaits hfull
  · refine .inl (.inl ?_)
    rcases hskip with hempty | hclosed | hlow
    · exact absurd hempty hdata
    · rw [hopen] at hclosed
      cases hclosed
    · exact hlow
  · subst hnext
    exact .inl (push_next_spec h hcaught hwritten hsize).2.2.2
  · exact .inl (.inr hwaits)
  · exact .inr ⟨hfull, rfl⟩
  · exact .inl (.inr (by rw [get_set_self]; rfl))

end

/-- Only the next number is settled when it is handed out. -/
theorem settled_of_next {rest : GoMap ℕ Bytes} {ready : Bytes}
    (h : Settled { r with pending := rest, ready, nextSeq := add64 r.nextSeq 1 } seq)
    (hrest : (rest.get seq).isSome → (r.pending.get seq).isSome) :
    Settled r seq ∨ seq = r.nextSeq := by
  rcases h with hlow | hwaits
  · have hle : add64 r.nextSeq 1 ≤ r.nextSeq + 1 := Nat.mod_le ..
    rcases Nat.lt_or_ge seq r.nextSeq with hlt | hge
    · exact .inl (.inl hlt)
    · exact .inr (by dsimp only at hlow; omega)
  · exact .inl (.inr (hrest hwaits))

theorem settled_of_followUp {turns : ℕ} (h : Settled (followUp turns r) seq) : Settled r seq := by
  induction turns generalizing r with
  | zero => exact h
  | succ turns ih =>
    rw [followUp] at h
    split at h
    · exact h
    · next nb hget =>
      have hrest : ((r.pending.delete r.nextSeq).get seq).isSome → (r.pending.get seq).isSome := by
        rw [get_delete]
        split_ifs
        · exact nofun
        · exact id
      rcases settled_of_next (ih h) hrest with hold | rfl
      · exact hold
      · exact .inr (by rw [hget]; rfl)

/-- `push` settles no other number. -/
theorem settled_of_push {other : ℕ} (h : Settled (r.push seq data) other) :
    Settled r other ∨ other = seq := by
  rw [push] at h
  split_ifs at h with hskip hnext hwaits hfull
  · exact .inl h
  · rw [hnext]
    exact settled_of_next (settled_of_followUp h) id
  · exact .inl h
  · exact .inl h
  · rcases h with hlow | hwaits
    · exact .inl (.inl hlow)
    · rw [get_set] at hwaits
      split_ifs at hwaits with heq
      · exact .inr heq
      · exact .inl (.inr hwaits)

theorem settled_of_close (h : Settled r.close seq) : Settled r seq := by
  rcases h with hlow | hwaits
  · exact .inl hlow
  · cases hwaits

/-- What comes back and what stays ready are the bytes that were ready; nothing else changes. -/
theorem read_ready (r : Reassembler) (size : ℕ) : ∃ rest,
    (r.read size).1 = { r with ready := rest } ∧ (r.read size).2.data ++ rest = r.ready := by
  rw [read]
  split_ifs
  · exact ⟨_, rfl, take_append_drop _ _⟩
  all_goals exact ⟨_, rfl, rfl⟩

/-- With room, some of the bytes that are ready come back. -/
theorem read_pos {size : ℕ} (hready : r.ready ≠ []) (hsize : 0 < size) :
    (r.read size).2.data ≠ [] := by
  rw [read, if_pos hready, ReadResult.data, Ne, take_eq_nil_iff]
  exact not_or.mpr ⟨hsize.ne', hready⟩

/-- Reads return the bytes that are ready in their order, and with room in each all of them. -/
theorem reads_ready (r : Reassembler) (sizes : List ℕ) : ∃ rest,
    (r.reads sizes).1 = { r with ready := rest } ∧ (r.reads sizes).2 ++ rest = r.ready ∧
      ((∀ size ∈ sizes, 0 < size) → r.ready.length ≤ sizes.length → rest = []) := by
  induction sizes generalizing r with
  | nil => exact ⟨r.ready, rfl, rfl, fun _ hlength => length_eq_zero_iff.mp (Nat.le_zero.mp hlength)⟩
  | cons size sizes ih =>
    obtain ⟨ready, hread, hdata⟩ := r.read_ready size
    obtain ⟨rest, hreads, hmore, hall⟩ := ih (r.read size).1
    rw [hread] at hreads hmore hall
    refine ⟨rest, ?_, ?_, fun hsizes hlength => hall (fun other hother => hsizes other ?_) ?_⟩
    · show ((r.read size).1.reads sizes).1 = _
      rw [hread]
      exact hreads
    · show (r.read size).2.data ++ ((r.read size).1.reads sizes).2 ++ rest = r.ready
      rw [hread, append_assoc, hmore, hdata]
    · exact mem_cons_of_mem _ hother
    · -- each read with room takes a byte as long as there is one
      dsimp only
      by_cases hempty : r.ready = []
      · rw [hempty, append_eq_nil_iff] at hdata
        rw [hdata.2]
        exact Nat.zero_le _
      · have hpos := length_pos_iff.mpr (read_pos hempty (hsizes size mem_cons_self))
        have hsum := congrArg length hdata
        rw [length_append] at hsum
        rw [length_cons] at hlength
        omega

theorem of_read_eq_eof {size : ℕ} (h : (r.read size).2 = .eof) :
    r.ready = [] ∧ r.overflow = false ∧ r.closed = true := by
  rw [read] at h
  split_ifs at h with hready hoverflow hclosed
  exact ⟨not_not.mp hready, Bool.eq_false_of_not_eq_true hoverflow, hclosed⟩

theorem flags_followUp (turns : ℕ) (r : Reassembler) :
    (followUp turns r).closed = r.closed ∧ (followUp turns r).overflow = r.overflow := by
  induction turns generalizing r with
  | zero => exact ⟨rfl, rfl⟩
  | succ turns ih =>
    rw [followUp]
    split
    · exact ⟨rfl, rfl⟩
    · exact ih _

theorem closed_push (r : Reassembler) (seq : ℕ) (data : Bytes) :
    (r.push seq data).closed = r.closed := by
  rw [push]
  split_ifs
  · rfl
  · exact (flags_followUp _ _).1
  · rfl
  · rfl
  · rfl

/-- A reassembler gives up over a chunk for which it has no room. -/
theorem overflow_push (r : Reassembler) (seq : ℕ) (data : Bytes) :
    (r.push seq data).overflow = r.overflow ∨ reasmMaxPending ≤ r.pending.len ∧
      (r.push seq data).overflow = true ∧ ¬ Settled (r.push seq data) seq := by
  rw [push]
  split_ifs with hskip hnext hwaits hfull
  · exact .inl rfl
  · exact .inl (flags_followUp _ _).2
  · exact .inl rfl
  · exact .inr ⟨hfull, rfl, fun hsettled => hsettled.elim (fun hlow => hskip (.inr (.inr hlow))) hwaits⟩
  · exact .inl rfl

end Reassembler

end

end NatP2P.Network
