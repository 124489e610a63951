import NatP2P.Network.Frame
import NatP2P.Common.Run

/-!
# Reassembly

Reference: `network/Frame.go`.

A parcel is a message on its way: its id, the chunks its bytes are cut into and what `ParseMessage`
makes of them. A piece of a parcel is a frame with one of the chunks. `Holds` describes the buffer
of a parcel by the set of chunks that have arrived; `add_piece` is the one step every argument about
the assembler needs: a piece enlarges the set, and the piece that completes it gives the message and
removes the buffer, whatever the order in which the map is read.
-/

namespace NatP2P.Network

open List GoMap

/-! ## Parcels -/

/-- A message in chunks. -/
structure Parcel where
  messageId : ℕ
  chunks : List Bytes
  message : Message
  nonempty : chunks ≠ []
  short : chunks.length < 2 ^ 32
  long : headerLength ≤ chunks.flatten.length
  parses : parseMessage chunks.flatten = .ok message

variable {buffer : Option FrameBuffer}

namespace Parcel

/-- A frame with one of the chunks. -/
structure Piece (p : Parcel) (f : Frame) : Prop where
  id : f.messageId = p.messageId
  carries : f.carries
  total : f.totalFrames = p.chunks.length
  chunk : p.chunks[f.seqId]? = some f.payload

variable {p : Parcel} {f : Frame}

theorem Piece.lt (h : p.Piece f) : f.seqId < p.chunks.length :=
  (List.getElem?_eq_some_iff.mp h.chunk).1

/-- The buffer of a parcel of which the chunks with the numbers `seqs` have arrived. -/
inductive Holds (p : Parcel) : Option FrameBuffer → Finset ℕ → Prop
  | empty : Holds p none ∅
  | some {buf : FrameBuffer} (hnonempty : buf.frames.keys.Nonempty)
      (hmissing : buf.frames.keys ⊂ Finset.range p.chunks.length)
      (htotal : buf.total = p.chunks.length)
      (hpieces : ∀ i f, buf.frames.get i = .some f → p.Piece f ∧ f.seqId = i) :
      Holds p (.some buf) buf.frames.keys

/-- Without chunks there is no buffer. -/
theorem Holds.eq_none (h : p.Holds buffer ∅) : buffer = none := by
  generalize hseqs : (∅ : Finset ℕ) = seqs at h
  cases h with
  | empty => rfl
  | some hnonempty _ _ _ =>
    rw [← hseqs] at hnonempty
    exact absurd hnonempty Finset.not_nonempty_empty

end Parcel

/-! ## Assembling all frames -/

section Assemble

variable {p : Parcel} {frames : List Frame}

theorem checkSorted_pieces {i : ℕ} (hpieces : ∀ f ∈ frames, p.Piece f)
    (hseqs : frames.map Frame.seqId = List.range' i frames.length)
    (hsmall : i + frames.length < 2 ^ 32) :
    checkSorted p.messageId p.chunks.length i frames = .ok () := by
  induction frames generalizing i with
  | nil => rfl
  | cons f rest ih =>
    rw [length_cons] at hsmall
    rw [map_cons, length_cons, range'_succ, cons.injEq] at hseqs
    have hpiece := hpieces f mem_cons_self
    have hrest := ih (fun g hg => hpieces g (mem_cons_of_mem _ hg)) hseqs.2 (by omega)
    have hindex : i % 2 ^ 32 = i := Nat.mod_eq_of_lt (by omega)
    unfold checkSorted
    simp only [check_bind_ok_iff, ne_eq, not_not]
    exact ⟨hpiece.id, hpiece.total, by rw [hindex]; exact hseqs.1, hpiece.carries, hrest⟩

/-- Pieces whose numbers are all numbers of chunks are the chunks in order. -/
theorem payloads_eq_chunks (hpieces : ∀ f ∈ frames, p.Piece f)
    (hseqs : frames.map Frame.seqId = List.range p.chunks.length) :
    frames.map Frame.payload = p.chunks := by
  have hlength : frames.length = p.chunks.length := by
    have := congrArg length hseqs
    simpa using this
  apply ext_getElem?
  intro i
  rcases Nat.lt_or_ge i frames.length with hlt | hge
  · have hseq : frames[i].seqId = i := by
      have := congrArg (fun l => l[i]?) hseqs
      simp only [getElem?_map, getElem?_eq_getElem hlt, Option.map_some,
        getElem?_range (hlength ▸ hlt), Option.some.injEq] at this
      exact this
    have hchunk := (hpieces _ (getElem_mem hlt)).chunk
    rw [hseq] at hchunk
    rw [getElem?_map, getElem?_eq_getElem hlt, Option.map_some, hchunk]
  · rw [getElem?_eq_none (by simpa using hge), getElem?_eq_none (hlength ▸ hge)]

/-- Sorting pieces with all numbers puts the numbers in order. -/
theorem seqIds_sorted (hnodup : (frames.map Frame.seqId).Nodup)
    {n : ℕ} (hmem : ∀ i, i ∈ frames.map Frame.seqId ↔ i < n) :
    (frames.insertionSort fun f g => f.seqId ≤ g.seqId).map Frame.seqId = List.range n := by
  have hperm : ((frames.insertionSort fun f g => f.seqId ≤ g.seqId).map Frame.seqId).Perm
      (frames.map Frame.seqId) := (perm_insertionSort _ frames).map _
  have hrange : (frames.map Frame.seqId).Perm (range n) := by
    refine (perm_ext_iff_of_nodup hnodup nodup_range).mpr fun i => ?_
    rw [hmem, mem_range]
  have hsorted := pairwise_insertionSort (fun f g : Frame => f.seqId ≤ g.seqId) frames
  exact (hperm.trans hrange).eq_of_pairwise (fun _ _ _ _ => le_antisymm)
    (pairwise_map.mpr hsorted) (pairwise_le_range)

/-- All pieces of a parcel, in any order, assemble to its message. -/
theorem assembleFrames_pieces (hpieces : ∀ f ∈ frames, p.Piece f)
    (hnodup : (frames.map Frame.seqId).Nodup)
    (hall : ∀ i, i ∈ frames.map Frame.seqId ↔ i < p.chunks.length) :
    assembleFrames frames = .ok p.message := by
  have hseqs := seqIds_sorted hnodup hall
  generalize hsorted : (frames.insertionSort fun f g => f.seqId ≤ g.seqId) = sorted at hseqs
  have hperm : sorted.Perm frames := hsorted ▸ perm_insertionSort _ frames
  have hsortedPieces : ∀ f ∈ sorted, p.Piece f := fun f hf => hpieces f (hperm.mem_iff.mp hf)
  have hlength : sorted.length = p.chunks.length := by
    have := congrArg length hseqs
    simpa using this
  have hbody : sorted.flatMap Frame.payload = p.chunks.flatten := by
    rw [← payloads_eq_chunks hsortedPieces hseqs, flatMap_def]
  have hchecks : checkSorted p.messageId p.chunks.length 0 sorted = .ok () := by
    refine checkSorted_pieces hsortedPieces ?_ (by rw [hlength, Nat.zero_add]; exact p.short)
    rw [hseqs, hlength, range_eq_range']
  match frames, hpieces, hperm, hsorted with
  | [], _, hperm, _ =>
    have hempty : sorted.length = 0 := hperm.length_eq
    exact absurd (length_eq_zero_iff.mp (hlength ▸ hempty)) p.nonempty
  | first :: rest, hpieces, hperm, hsorted =>
    have hfirst := hpieces first mem_cons_self
    have hcount : first.totalFrames = (first :: rest).length := by
      rw [hfirst.total, ← hperm.length_eq, hlength]
    unfold assembleFrames
    simp only [bind_ok_iff, exists_unit_iff, check_ok_iff, mapError_ok_iff, hsorted,
      hfirst.id, hfirst.total, hchecks, hbody, Nat.not_lt, ne_eq, not_not, true_and]
    exact ⟨by rw [← hfirst.total]; exact hcount, p.long, p.parses⟩

end Assemble

/-! ## One more piece -/

namespace FrameAssembler

variable {p : Parcel} {a : FrameAssembler} {f : Frame} {order : GoMap.Order ℕ} {seqs : Finset ℕ}

/-- The checks of `Add` in front of the buffer let a piece pass. -/
theorem add_piece_eq (hf : p.Piece f) :
    a.add order f = let buf := a.bufferOf f
      if buf.total ≠ f.totalFrames then (.error .bufferTotal, a)
      else if (buf.frames.get f.seqId).isSome then (.ok none, a)
      else
        let buf := { buf with frames := buf.frames.set f.seqId f }
        if buf.frames.len % 2 ^ 32 ≠ buf.total then
          (.ok none, ⟨a.buffers.set f.messageId buf⟩)
        else
          ((assembleFrames (buf.frames.values order)).map some,
            ⟨a.buffers.delete f.messageId⟩) := by
  have htotal : f.totalFrames ≠ 0 := by
    rw [hf.total]
    exact fun h => p.nonempty (length_eq_zero_iff.mp h)
  have hseq : ¬ f.seqId ≥ f.totalFrames := by
    rw [hf.total]
    exact Nat.not_le.mpr hf.lt
  unfold add
  rw [if_neg (not_not.mpr hf.carries), if_neg htotal, if_neg hseq]

/-- The buffer `Add` works on, with the piece in it. -/
theorem bufferOf_piece (hholds : p.Holds (a.buffers.get p.messageId) seqs) (hf : p.Piece f) :
    (a.bufferOf f).total = f.totalFrames ∧ (a.bufferOf f).frames.keys = seqs ∧
      ∀ i g, (a.bufferOf f).frames.get i = some g → p.Piece g ∧ g.seqId = i := by
  unfold bufferOf
  rw [hf.id]
  generalize a.buffers.get p.messageId = buffer at hholds
  cases hholds with
  | empty => exact ⟨rfl, rfl, fun i g hget => by simp at hget⟩
  | some _ _ htotal hpieces => exact ⟨by rw [hf.total]; exact htotal, rfl, hpieces⟩

theorem holds_subset (h : p.Holds buffer seqs) : seqs ⊂ Finset.range p.chunks.length := by
  cases h with
  | empty =>
    rw [Finset.empty_ssubset, Finset.nonempty_range_iff]
    exact fun hzero => p.nonempty (length_eq_zero_iff.mp hzero)
  | some _ hmissing _ _ => exact hmissing

variable (hholds : p.Holds (a.buffers.get p.messageId) seqs)
include hholds

variable (hf : p.Piece f)
include hf

/-- A chunk that has arrived before changes nothing. -/
theorem add_piece_again (hagain : f.seqId ∈ seqs) : a.add order f = (.ok none, a) := by
  obtain ⟨htotal, hkeys, -⟩ := bufferOf_piece hholds hf
  have hpresent : ((a.bufferOf f).frames.get f.seqId).isSome := by
    rw [← (a.bufferOf f).frames.mem_keys, hkeys]
    exact hagain
  rw [add_piece_eq hf]
  simp only [htotal, ne_eq, not_true_eq_false, if_false, hpresent, if_true]

/-- What the buffer is with one more chunk in it. -/
theorem bufferOf_set_piece :
    ((a.bufferOf f).frames.set f.seqId f).keys = insert f.seqId seqs ∧
      ∀ i g, ((a.bufferOf f).frames.set f.seqId f).get i = some g → p.Piece g ∧ g.seqId = i := by
  obtain ⟨-, hkeys, hpieces⟩ := bufferOf_piece hholds hf
  refine ⟨by rw [← hkeys]; rfl, ?_⟩
  intro i g hget
  rcases get_set_eq_some.mp hget with ⟨rfl, rfl⟩ | ⟨-, hold⟩
  · exact ⟨hf, rfl⟩
  · exact hpieces i g hold

theorem add_piece_kept
    (hnew : f.seqId ∉ seqs) (hmore : insert f.seqId seqs ≠ Finset.range p.chunks.length) :
    ∃ buf, a.add order f = (.ok none, ⟨a.buffers.set p.messageId buf⟩) ∧
      p.Holds (some buf) (insert f.seqId seqs) := by
  obtain ⟨htotal, hkeys, -⟩ := bufferOf_piece hholds hf
  obtain ⟨hsetKeys, hset⟩ := bufferOf_set_piece hholds hf
  have habsent : ((a.bufferOf f).frames.get f.seqId).isSome = false := by
    rw [← Bool.not_eq_true, ← (a.bufferOf f).frames.mem_keys, hkeys]
    exact hnew
  have hssubset : insert f.seqId seqs ⊂ Finset.range p.chunks.length := by
    refine (Finset.ssubset_iff_subset_ne).mpr ⟨?_, hmore⟩
    exact Finset.insert_subset (Finset.mem_range.mpr hf.lt) (holds_subset hholds).subset
  have hcard : ((a.bufferOf f).frames.set f.seqId f).len < p.chunks.length := by
    have := Finset.card_lt_card hssubset
    rwa [Finset.card_range, ← hsetKeys] at this
  have hcount : ((a.bufferOf f).frames.set f.seqId f).len % 2 ^ 32 ≠ f.totalFrames := by
    rw [hf.total, Nat.mod_eq_of_lt (hcard.trans p.short)]
    exact hcard.ne
  refine ⟨{ a.bufferOf f with frames := (a.bufferOf f).frames.set f.seqId f }, ?_, ?_⟩
  · rw [add_piece_eq hf]
    simp only [htotal, ne_eq, not_true_eq_false, if_false, habsent, Bool.false_eq_true, hf.id]
    rw [if_pos hcount]
  · rw [← hsetKeys] at hssubset ⊢
    refine .some ?_ hssubset (htotal.trans hf.total) hset
    show ((a.bufferOf f).frames.set f.seqId f).keys.Nonempty
    exact Finset.insert_nonempty ..

/-- The last chunk gives the message, and the buffer is gone. -/
theorem add_piece_last (hlast : insert f.seqId seqs = Finset.range p.chunks.length) :
    a.add order f = (.ok (some p.message), ⟨a.buffers.delete p.messageId⟩) := by
  obtain ⟨htotal, hkeys, -⟩ := bufferOf_piece hholds hf
  obtain ⟨hsetKeys, hset⟩ := bufferOf_set_piece hholds hf
  have hnew : f.seqId ∉ seqs := fun hmem => by
    rw [Finset.insert_eq_of_mem hmem] at hlast
    exact (holds_subset hholds).ne hlast
  have habsent : ((a.bufferOf f).frames.get f.seqId).isSome = false := by
    rw [← Bool.not_eq_true, ← (a.bufferOf f).frames.mem_keys, hkeys]
    exact hnew
  generalize hframes : (a.bufferOf f).frames.set f.seqId f = frames at hsetKeys hset
  have hlen : frames.len % 2 ^ 32 = f.totalFrames := by
    rw [len, hsetKeys, hlast, Finset.card_range, Nat.mod_eq_of_lt p.short, hf.total]
  have hmessage : assembleFrames (frames.values order) = .ok p.message := by
    refine assembleFrames_pieces ?_ ?_ ?_
    · intro g hg
      obtain ⟨i, hi⟩ := mem_values.mp hg
      exact (hset i g hi).1
    · refine List.Nodup.map_on ?_ (nodup_values fun i g hi => (hset i g hi).2)
      intro g hg g' hg' heq
      obtain ⟨i, hi⟩ := mem_values.mp hg
      obtain ⟨j, hj⟩ := mem_values.mp hg'
      rw [(hset i g hi).2, (hset j g' hj).2] at heq
      rw [← heq, hi] at hj
      exact Option.some.inj hj
    · intro i
      rw [← Finset.mem_range, ← hlast, ← hsetKeys, frames.mem_keys, mem_map]
      constructor
      · rintro ⟨g, hg, rfl⟩
        obtain ⟨j, hj⟩ := mem_values.mp hg
        rw [(hset j g hj).2, hj]
        rfl
      · intro hi
        obtain ⟨g, hg⟩ := Option.isSome_iff_exists.mp hi
        exact ⟨g, mem_values.mpr ⟨i, hg⟩, (hset i g hg).2⟩
  rw [add_piece_eq hf]
  simp only [htotal, ne_eq, not_true_eq_false, if_false, habsent, Bool.false_eq_true, hf.id, hframes]
  rw [if_neg (not_not.mpr hlen), hmessage]
  rfl

theorem add_piece :
    (a.add order f).1 =
        .ok (if insert f.seqId seqs = Finset.range p.chunks.length then some p.message else none) ∧
      p.Holds ((a.add order f).2.buffers.get p.messageId)
        (if insert f.seqId seqs = Finset.range p.chunks.length then ∅ else insert f.seqId seqs) ∧
      ∀ other ≠ p.messageId, (a.add order f).2.buffers.get other = a.buffers.get other := by
  by_cases hlast : insert f.seqId seqs = Finset.range p.chunks.length
  · rw [if_pos hlast, if_pos hlast, add_piece_last hholds hf hlast]
    refine ⟨rfl, ?_, fun other hne => get_delete_ne hne⟩
    rw [show (a.buffers.delete p.messageId).get p.messageId = none from get_delete_self]
    exact .empty
  · rw [if_neg hlast, if_neg hlast]
    by_cases hagain : f.seqId ∈ seqs
    · rw [add_piece_again hholds hf hagain, Finset.insert_eq_of_mem hagain]
      exact ⟨rfl, hholds, fun _ _ => rfl⟩
    · obtain ⟨buf, hadd, hkept⟩ := @add_piece_kept p a f order seqs hholds hf hagain hlast
      rw [hadd]
      refine ⟨rfl, ?_, fun other hne => get_set_ne hne⟩
      rw [show (a.buffers.set p.messageId buf).get p.messageId = some buf from get_set_self]
      exact hkept

end FrameAssembler

end NatP2P.Network
