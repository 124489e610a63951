import NatP2P.Common.Run
import NatP2P.Network.Striping.Reassembler

/-!
# What a reassembler returns

Reference: `networkFrameWork/reassembler.go`.

Any calls of `push`, `read` and `close`, where the chunk of a number is always the same. What was
returned are the first bytes of the chunks in the order of their numbers; up to a close, exactly the
chunks below the first missing number can be read; and nothing behind a missing number is returned
before its chunk is pushed. As long as nothing was dropped, a number is missing when it was not
pushed.

A chunk that finds no room is dropped, so a number that was pushed may be missing, and a `uint64`
cannot count past its last number (`dropped_or_wrapped`).
-/

namespace NatP2P.Network.Reassembler

open List

/-- A call. -/
inductive Call where
  | push (seq : ℕ)
  | read (size : ℕ)
  | close
deriving DecidableEq

/-- A call as a step; it puts out the bytes it returns. -/
def call (chunk : ℕ → Bytes) (r : Reassembler) : Call → Reassembler × Bytes
  | .push seq => (r.push seq (chunk seq), [])
  | .read size =>
    let (r, result) := r.read size
    (r, result.data)
  | .close => (r.close, [])

/-- The reassembler behind a sequence of calls. -/
def after (chunk : ℕ → Bytes) (calls : List Call) : Reassembler :=
  (runSteps (call chunk) new calls).1

/-- The bytes that a sequence of calls returned. -/
def received (chunk : ℕ → Bytes) (calls : List Call) : Bytes :=
  (runSteps (call chunk) new calls).2.flatten

/-- The chunks below a number, one after the other. -/
def stream (chunk : ℕ → Bytes) (n : ℕ) : Bytes := (range n).flatMap chunk

/-- What can be read are the chunks below a number: no calls of `read` return more, and with room in
each, as many calls as there are bytes return them all. -/
def Readable (chunk : ℕ → Bytes) (calls : List Call) (n : ℕ) : Prop :=
  ∀ sizes : List ℕ, received chunk (calls ++ sizes.map .read) <+: stream chunk n ∧
    ((∀ size ∈ sizes, 0 < size) → (stream chunk n).length ≤ sizes.length →
      received chunk (calls ++ sizes.map .read) = stream chunk n)

/-- The law of prefixes, behind a sequence of calls. -/
structure PrefixLaw (chunk : ℕ → Bytes) (calls : List Call) : Prop where
  returned : ∃ n, received chunk calls <+: stream chunk n
  /-- Up to a close, the chunks below the first missing number can be read; up to an overflow, that is
  the first number that was not pushed. -/
  readable : (after chunk calls).closed = false → ∃ n, ¬ Settled (after chunk calls) n ∧
    (∀ seq < n, .push seq ∈ calls) ∧ ((after chunk calls).overflow = false → .push n ∉ calls) ∧
      Readable chunk calls n
  /-- A chunk is dropped only when as many as are allowed wait. -/
  overflows : ∀ before seq, before ++ [.push seq] <+: calls →
    (after chunk before).overflow = false →
    (after chunk (before ++ [.push seq])).overflow = true →
      reasmMaxPending ≤ (after chunk before).pending.len ∧
        ¬ Settled (after chunk (before ++ [.push seq])) seq
  /-- Nothing is returned past a missing chunk that is not pushed again. -/
  stops : ∀ before rest seq, calls = before ++ rest → ¬ Settled (after chunk before) seq →
    .push seq ∉ rest → received chunk calls <+: stream chunk seq

variable {chunk : ℕ → Bytes} {calls : List Call} {r : Reassembler} {seq : ℕ} {bytes : Bytes}

/-- The chunks of all numbers that can be counted past. -/
def allChunks (chunk : ℕ → Bytes) : List Chunk := (range (2 ^ 64 - 1)).map fun n => ⟨chunk n, true⟩

theorem length_allChunks : (allChunks chunk).length = 2 ^ 64 - 1 := by
  rw [allChunks, length_map, length_range]

theorem bytesOf_allChunks {n : ℕ} (h : n ≤ 2 ^ 64 - 1) :
    bytesOf ((allChunks chunk).take n) = stream chunk n := by
  rw [allChunks, ← map_take, take_range, Nat.min_eq_left h, bytesOf, flatMap_map, stream]

theorem stream_isPrefix {n m : ℕ} (h : n ≤ m) : stream chunk n <+: stream chunk m := by
  obtain ⟨k, rfl⟩ := Nat.exists_eq_add_of_le h
  rw [stream, stream, range_add, flatMap_append]
  exact prefix_append _ _

/-- What is known of a reassembler behind some calls. -/
structure Follows (chunk : ℕ → Bytes) (calls : List Call) (r : Reassembler) (bytes : Bytes) :
    Prop where
  ordered : Ordered (allChunks chunk) bytes r
  caught : CaughtUp r
  pushed : ∀ seq, Settled r seq → .push seq ∈ calls
  settled : r.overflow = false → r.closed = false → ∀ seq, .push seq ∈ calls → Settled r seq

theorem Follows.push (h : Follows chunk calls r bytes) (hchunk : ∀ n, chunk n ≠ [])
    (hseq : seq + 1 < 2 ^ 64) :
    Follows chunk (calls ++ [.push seq]) (r.push seq (chunk seq)) bytes := by
  have hwritten : WrittenAs (allChunks chunk) seq (chunk seq) := by
    rw [WrittenAs, allChunks, getElem?_map, getElem?_range (by omega)]
    rfl
  have hsize : (allChunks chunk).length < 2 ^ 64 := by
    rw [length_allChunks]
    omega
  obtain ⟨hordered, hcaught, hsettled⟩ := push_spec h.ordered h.caught hwritten hsize
  refine ⟨hordered, hcaught, fun other hother => ?_, fun hoverflow hopen other hother => ?_⟩
  · rcases settled_of_push hother with hold | rfl
    · exact mem_append_left _ (h.pushed other hold)
    · exact mem_append_right _ mem_cons_self
  · rw [closed_push] at hopen
    rcases mem_append.mp hother with hold | hnew
    · refine hsettled other (h.settled ?_ hopen other hold)
      rcases overflow_push r seq (chunk seq) with hsame | ⟨-, hfull, -⟩
      · rw [← hsame, hoverflow]
      · rw [hoverflow] at hfull
        cases hfull
    · cases mem_singleton.mp hnew
      refine (settled_push h.ordered h.caught hwritten hsize (hchunk _) hopen).resolve_right ?_
      rintro ⟨-, hfull⟩
      rw [hoverflow] at hfull
      cases hfull

theorem Follows.read (h : Follows chunk calls r bytes) (size : ℕ) :
    Follows chunk (calls ++ [.read size]) (r.call chunk (.read size)).1
      (bytes ++ (r.call chunk (.read size)).2) := by
  obtain ⟨rest, hread, hdata⟩ := r.read_ready size
  rw [call, hread]
  refine ⟨{ h.ordered with out := ?_ }, h.caught, ?_, ?_⟩
  · rw [append_assoc, hdata]
    exact h.ordered.out
  · exact fun seq hsettled => mem_append_left _ (h.pushed seq hsettled)
  · exact fun hoverflow hopen seq hseq => h.settled hoverflow hopen seq (by simpa using hseq)

theorem follows_run (hchunk : ∀ n, chunk n ≠ []) (calls : List Call)
    (hcalls : ∀ seq, .push seq ∈ calls → seq + 1 < 2 ^ 64) :
    Follows chunk calls (after chunk calls) (received chunk calls) := by
  induction calls using reverseRecOn with
  | nil =>
    refine ⟨⟨Nat.zero_le _, nofun, rfl, nofun⟩, rfl, fun seq hsettled => ?_, nofun⟩
    exact hsettled.elim nofun nofun
  | append_singleton calls next ih =>
    have hfirst := ih fun seq hseq => hcalls seq (mem_append_left _ hseq)
    rw [after, received, runSteps_concat, flatten_append, flatten_singleton]
    cases next with
    | push seq =>
      rw [call, append_nil]
      exact hfirst.push hchunk (hcalls seq (mem_append_right _ mem_cons_self))
    | read size => exact hfirst.read size
    | close =>
      rw [call, append_nil]
      refine ⟨{ hfirst.ordered with pending := nofun }, rfl, fun seq hsettled => ?_, nofun⟩
      exact mem_append_left _ (hfirst.pushed seq (settled_of_close hsettled))

theorem missing_run {before rest : List Call} (hmissing : ¬ Settled (after chunk before) seq)
    (hrest : .push seq ∉ rest) : ¬ Settled (after chunk (before ++ rest)) seq := by
  rw [after, runSteps_append]
  have hcalls : ∀ next ∈ rest, ∀ _ : Reassembler, next ≠ .push seq := by
    rintro next hnext - rfl
    exact hrest hnext
  refine runSteps_along (motive := fun r => ¬ Settled r seq) (along_of_forall hcalls) hmissing ?_
  intro r next hnext hold hsettled
  cases next with
  | push other =>
    rcases settled_of_push hsettled with hbefore | rfl
    · exact hold hbefore
    · exact hnext rfl
  | read size =>
    obtain ⟨rest, hread, -⟩ := r.read_ready size
    rw [call, hread] at hsettled
    exact hold hsettled
  | close => exact hold (settled_of_close hsettled)

theorem outputs_reads (chunk : ℕ → Bytes) (r : Reassembler) (sizes : List ℕ) :
    (runSteps (call chunk) r (sizes.map .read)).2.flatten = (r.reads sizes).2 := by
  induction sizes generalizing r with
  | nil => rfl
  | cons size sizes ih =>
    rw [map_cons, runSteps_cons, flatten_cons, call, ih]
    rfl

theorem received_reads (chunk : ℕ → Bytes) (calls : List Call) (sizes : List ℕ) :
    received chunk (calls ++ sizes.map .read) =
      received chunk calls ++ ((after chunk calls).reads sizes).2 := by
  rw [received, runSteps_append_outputs, flatten_append, outputs_reads]
  rfl

/-- What calls of `read` get of the bytes that are ready. -/
theorem readable_of_ready {n : ℕ}
    (hout : received chunk calls ++ (after chunk calls).ready = stream chunk n) :
    Readable chunk calls n := by
  intro sizes
  have hreceived := received_reads chunk calls sizes
  obtain ⟨rest, -, hmore, hall⟩ := (after chunk calls).reads_ready sizes
  rw [← hmore, ← append_assoc, ← hreceived] at hout
  refine ⟨hout ▸ prefix_append _ _, fun hsizes hlength => ?_⟩
  have hrest : rest = [] := by
    refine hall hsizes (Nat.le_trans ?_ hlength)
    rw [← hout, hreceived, append_assoc, hmore, length_append]
    exact Nat.le_add_left ..
  rw [← hout, hrest, append_nil]

section

variable (hchunk : ∀ n, chunk n ≠ []) (hcalls : ∀ seq, .push seq ∈ calls → seq + 1 < 2 ^ 64)
include hchunk hcalls

/-- What was returned and what is ready. -/
theorem received_ready : received chunk calls ++ (after chunk calls).ready =
    stream chunk (after chunk calls).nextSeq := by
  have hordered := (follows_run hchunk calls hcalls).ordered
  have hnext := hordered.next_le
  rw [length_allChunks] at hnext
  rw [hordered.out, bytesOf_allChunks hnext]

/-- Nothing is returned past a missing chunk. -/
theorem received_stops (hmissing : ¬ Settled (after chunk calls) seq) :
    received chunk calls <+: stream chunk seq := by
  have hout := received_ready hchunk hcalls
  have hreturned : received chunk calls <+: stream chunk (after chunk calls).nextSeq :=
    hout ▸ prefix_append _ _
  exact hreturned.trans (stream_isPrefix (Nat.not_lt.mp fun hlow => hmissing (.inl hlow)))

end

/-- Whatever is pushed, read and closed, and in whatever order, the bytes that were returned are the
first ones of the chunks, and those below the first missing one can be read. -/
theorem reassembler_prefix_law (hchunk : ∀ n, chunk n ≠ []) (calls : List Call)
    (hcalls : ∀ seq, .push seq ∈ calls → seq + 1 < 2 ^ 64) : PrefixLaw chunk calls := by
  have hfollows := follows_run hchunk calls hcalls
  have hmissing : ¬ Settled (after chunk calls) (after chunk calls).nextSeq := by
    rintro (hlow | hwaits)
    · exact Nat.lt_irrefl _ hlow
    · rw [hfollows.caught] at hwaits
      cases hwaits
  refine ⟨⟨_, received_stops hchunk hcalls hmissing⟩, fun hopen => ⟨_, hmissing, fun seq hseq => ?_,
    fun hoverflow hpushed => ?_, readable_of_ready (received_ready hchunk hcalls)⟩, ?_, ?_⟩
  · exact hfollows.pushed seq (.inl hseq)
  · exact hmissing (hfollows.settled hoverflow hopen _ hpushed)
  · intro before seq _ hbefore hafter
    have hstep : after chunk (before ++ [.push seq]) = (after chunk before).push seq (chunk seq) := by
      rw [after, runSteps_concat]
      rfl
    rw [hstep] at hafter ⊢
    rcases overflow_push (after chunk before) seq (chunk seq) with hsame | ⟨hfull, -, hmissing⟩
    · cases (hsame.trans hbefore).symm.trans hafter
    · exact ⟨hfull, hmissing⟩
  · rintro before rest seq rfl hmissing hrest
    exact received_stops hchunk hcalls (missing_run hmissing hrest)

/-- Three chunks that come in the wrong order. -/
theorem reassembler_prefix_law_sample :
    PrefixLaw (fun n => [UInt8.ofNat n]) [.push 2, .push 0, .read 9, .push 1, .read 1, .read 9] :=
  reassembler_prefix_law (by simp) _ (by simp)

/-- Chunks that are pushed in order are ready. -/
theorem pushed_in_order (hchunk : ∀ n, chunk n ≠ []) {n : ℕ} (hn : n ≤ 2 ^ 64) :
    after chunk ((range n).map .push) =
      { new with nextSeq := n % 2 ^ 64, ready := stream chunk n } := by
  induction n with
  | zero => rfl
  | succ n ih =>
    have hlow : n % 2 ^ 64 = n := Nat.mod_eq_of_lt hn
    have hbefore := ih (by omega)
    rw [after] at hbefore
    rw [range_succ, map_append, map_singleton, after, runSteps_concat, hbefore, hlow]
    simp [call, Reassembler.push, hchunk, new, followUp, stream, range_succ, add64]

/-- Chunks that are pushed in order from the second on wait. -/
theorem pushed_ahead (hchunk : ∀ n, chunk n ≠ []) {n : ℕ} (hn : n ≤ reasmMaxPending) :
    let r := after chunk ((range n).map fun k => .push (k + 1))
    r.nextSeq = 0 ∧ r.closed = false ∧ r.pending.len = n ∧ ∀ seq, n < seq → r.pending.get seq = none := by
  induction n with
  | zero => exact ⟨rfl, rfl, rfl, fun _ _ => rfl⟩
  | succ n ih =>
    obtain ⟨hnext, hopen, hlen, hfree⟩ := ih (by omega)
    have hnew := hfree (n + 1) (by omega)
    rw [range_succ, map_append, map_singleton, after, runSteps_concat]
    rw [after] at hnext hopen hlen hfree hnew
    dsimp only [call]
    rw [Reassembler.push, if_neg (by simp [hchunk, hopen, hnext]), if_neg (by omega),
      if_neg (by simp [hnew]), if_neg (by omega)]
    refine ⟨hnext, hopen, ?_, fun seq hseq => ?_⟩
    · rw [GoMap.len_set_of_none hnew, hlen]
    · rw [GoMap.get_set_ne (by omega)]
      exact hfree seq (by omega)

/-- A chunk that finds as many waiting as are allowed is dropped: it was pushed, and all before it,
but no calls of `read` return it. -/
theorem dropped_chunk {n : ℕ} (hn : n = reasmMaxPending) (sizes : List ℕ) :
    received (fun _ => [0]) ((range (n + 1)).map (fun k => .push (k + 1)) ++ ([.push 0] ++
      sizes.map .read)) ≠ stream (fun _ => [0]) (n + 2) := by
  have hmissing : ¬ Settled (after (fun _ => [0]) ((range (n + 1)).map fun k => .push (k + 1)))
      (n + 1) := by
    obtain ⟨hnext, hopen, hlen, hfree⟩ := @pushed_ahead (fun _ => [0]) (by simp) n hn.le
    have hnew := hfree (n + 1) (by omega)
    rw [range_succ, map_append, map_singleton, after, runSteps_concat]
    rw [after] at hnext hopen hlen hnew
    dsimp only [call]
    rw [Reassembler.push, if_neg (by simp [hopen, hnext]), if_neg (by omega), if_neg (by simp [hnew]),
      if_pos (by omega)]
    simp [Settled, hnext, hnew]
  have hgone := missing_run hmissing (show .push (n + 1) ∉ [.push 0] ++ sizes.map Call.read by simp)
  have hcalls : ∀ seq, Call.push seq ∈ (range (n + 1)).map (fun k => Call.push (k + 1)) ++
      ([.push 0] ++ sizes.map .read) → seq + 1 < 2 ^ 64 := by
    intro seq hseq
    have hsmall : reasmMaxPending < 2 ^ 32 := by decide
    simp at hseq
    omega
  have hstops := received_stops (by simp) hcalls hgone
  intro hall
  rw [hall] at hstops
  have hlength := hstops.length_le
  simp [stream] at hlength

/-- Behind the last number a `uint64` starts again at zero, and the first chunk is taken once
more. -/
theorem wrapped_number {n : ℕ} (hn : n = 2 ^ 64) :
    ¬ PrefixLaw (fun _ => [0]) ((range n).map .push ++ [.push 0]) := by
  intro h
  have hafter : after (fun _ => [0]) ((range n).map .push ++ [.push 0]) =
      { new with nextSeq := 1, ready := stream (fun _ => [0]) n ++ [0] } := by
    have hbefore := @pushed_in_order (fun _ => [0]) (by simp) n hn.le
    rw [after] at hbefore
    rw [after, runSteps_concat, hbefore, ← hn, Nat.mod_self]
    simp [call, Reassembler.push, new, followUp, add64]
  obtain ⟨m, -, hbelow, -, hread⟩ := h.readable (by rw [hafter]; rfl)
  have hle : m ≤ n := by
    by_contra hlt
    have hmem := hbelow n (by omega)
    simp at hmem
    omega
  -- a read gets one byte more than there are chunks
  have hbytes : ((after (fun _ => [0]) ((range n).map .push ++ [.push 0])).reads [n + 1]).2.length =
      n + 1 := by
    rw [hafter]
    simp [reads, Reassembler.read, ReadResult.data, stream]
  have hlength := (hread [n + 1]).1.length_le
  have hstream : (stream (fun _ => [0]) m).length = m := by simp [stream]
  rw [received_reads, length_append, hbytes, hstream] at hlength
  omega

theorem len_followUp (turns : ℕ) (r : Reassembler) :
    (followUp turns r).pending.len ≤ r.pending.len := by
  induction turns generalizing r with
  | zero => exact le_rfl
  | succ turns ih =>
    rw [followUp]
    split
    · exact le_rfl
    · next nb hget =>
      have hlen := GoMap.len_delete_of_get hget
      exact (ih _).trans (by dsimp only; omega)

theorem len_pending_le (chunk : ℕ → Bytes) (calls : List Call) :
    (after chunk calls).pending.len ≤ reasmMaxPending := by
  refine runSteps_invariant (motive := fun r : Reassembler => r.pending.len ≤ reasmMaxPending)
    (Nat.zero_le _) (fun r next h => ?_) calls
  cases next with
  | push seq =>
    rw [call, Reassembler.push]
    split_ifs with hskip hnext hwaits hfull
    · exact h
    · exact (len_followUp _ _).trans h
    · exact h
    · exact h
    · rw [GoMap.len_set_of_none (Option.not_isSome_iff_eq_none.mp hwaits)]
      exact Nat.not_le.mp hfull
  | read size =>
    obtain ⟨rest, hread, -⟩ := r.read_ready size
    rw [call, hread]
    exact h
  | close => exact Nat.zero_le _

/-- A number that was pushed may be missing although nothing was closed and never more chunks waited
than are allowed; and the law fails behind the last number. -/
theorem dropped_or_wrapped :
    (∃ (calls : List Call) (n : ℕ), .close ∉ calls ∧ (∀ seq < n, .push seq ∈ calls) ∧
      (∀ before, before <+: calls →
        (after (fun _ => [0]) before).pending.len ≤ reasmMaxPending) ∧
      ∀ sizes : List ℕ, received (fun _ => [0]) (calls ++ sizes.map .read) ≠
        stream (fun _ => [0]) n) ∧
      ¬ PrefixLaw (fun _ => [0]) ((range (2 ^ 64)).map .push ++ [.push 0]) := by
  refine ⟨?_, wrapped_number rfl⟩
  generalize hmax : reasmMaxPending = n
  refine ⟨(range (n + 1)).map (fun k => .push (k + 1)) ++ [.push 0], n + 2, by simp, ?_, ?_, ?_⟩
  · intro seq hseq
    rcases seq with - | seq
    · simp
    · simp only [mem_append, mem_map, mem_range]
      exact .inl ⟨seq, by omega, rfl⟩
  · intro before _
    exact hmax ▸ len_pending_le _ before
  · intro sizes
    rw [append_assoc]
    exact dropped_chunk hmax.symm sizes

end NatP2P.Network.Reassembler
