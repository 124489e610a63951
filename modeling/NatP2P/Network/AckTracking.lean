import NatP2P.Network.Delivery

/-!
# What acknowledgements tell

The receiver sums up the frames of a buffer as ranges (`Snapshot`), and the sender marks the numbers
of the ranges it is told (`update`). The summary is exact. The sender takes the ranges from the wire
as they are: a range that ends at the largest number keeps its loop running for ever, and numbers
that the message does not have count as acknowledged frames (`update_takes_any_range`).

Reference: `network/Frame.go:335-437`, `networkFrameWork/AckTracker.go`.
-/

namespace NatP2P.Network

open List Finset

/-! ## The summary of a receiver -/

/-- The ranges are not empty, ascending and not adjacent. -/
def Separated (ranges : List AckRange) : Prop :=
  (∀ r ∈ ranges, r.start ≤ r.stop) ∧ ranges.Pairwise fun r r' => r.stop + 1 < r'.start

theorem separated_collectRanges {start stop : ℕ} {seqs : List ℕ} (hle : start ≤ stop)
    (hsorted : (stop :: seqs).Pairwise (· < ·)) (hrange : ∀ seq ∈ seqs, seq < 2 ^ 32) :
    Separated (collectRanges start stop seqs) ∧
      (∀ r ∈ collectRanges start stop seqs, start ≤ r.start) ∧
      ∀ seq, (start ≤ seq ∧ seq ≤ stop) ∨ seq ∈ seqs → seq ∈ covered (collectRanges start stop seqs) := by
  induction seqs generalizing start stop with
  | nil => simpa [Separated, collectRanges] using hle
  | cons next seqs ih =>
    obtain ⟨hstop, hsorted⟩ := pairwise_cons.mp hsorted
    obtain ⟨hnext, hrange⟩ := forall_mem_cons.mp hrange
    have hlt := hstop next (mem_cons_self ..)
    rw [collectRanges]
    split_ifs with hadjacent
    · obtain ⟨hseparated, hstarts, hcovers⟩ := @ih start next (by omega) hsorted hrange
      refine ⟨hseparated, hstarts, fun seq hseq => hcovers seq ?_⟩
      rcases hseq with hopen | hmem
      · exact .inl (by omega)
      · exact (mem_cons.mp hmem).imp_left (by omega)
    · obtain ⟨⟨hranges, hpairwise⟩, hstarts, hcovers⟩ := @ih next next le_rfl hsorted hrange
      refine ⟨⟨forall_mem_cons.mpr ⟨hle, hranges⟩, pairwise_cons.mpr ⟨?_, hpairwise⟩⟩,
        forall_mem_cons.mpr ⟨le_rfl, fun r hr => ?_⟩, fun seq hseq => ?_⟩
      · intro r hr
        have := hstarts r hr
        dsimp only
        omega
      · have := hstarts r hr
        omega
      · rw [mem_covered, exists_mem_cons_iff, ← mem_covered]
        refine hseq.imp id fun hmem => hcovers seq ((mem_cons.mp hmem).imp_left (by omega))

/-- The ranges of ascending numbers hold just these. -/
theorem separated_seqsToRanges {seqs : List ℕ} (hsorted : seqs.Pairwise (· < ·))
    (hrange : ∀ seq ∈ seqs, seq < 2 ^ 32) :
    Separated (seqsToRanges seqs) ∧ ∀ seq, seq ∈ covered (seqsToRanges seqs) ↔ seq ∈ seqs := by
  cases seqs with
  | nil => simp [Separated, seqsToRanges]
  | cons first seqs =>
    obtain ⟨hseparated, -, hcovers⟩ := separated_collectRanges le_rfl hsorted
      (forall_mem_cons.mp hrange).2
    refine ⟨hseparated, fun seq => ⟨covered_seqsToRanges, fun hmem => hcovers seq ?_⟩⟩
    exact (mem_cons.mp hmem).imp_left (by omega)

namespace FrameAssembler

/-- What happens to an assembler: the fields of a frame are 32 bits wide. -/
inductive Event where
  | add (order : GoMap.Order ℕ) (f : { f : Frame // f.totalFrames < 2 ^ 32 })
  | drop (messageId : ℕ)

/-- One call of `Add` or `Drop`. -/
def step (a : FrameAssembler) : Event → FrameAssembler × Unit
  | .add order f => ((a.add order f).2, ())
  | .drop messageId => (⟨a.buffers.delete messageId⟩, ())

/-- The assembler behind a run. -/
def run (events : List Event) : FrameAssembler := (runSteps step new events).1

/-- The numbers of the frames in the buffers. -/
def InRange (a : FrameAssembler) : Prop :=
  ∀ messageId buf, a.buffers.get messageId = some buf → ∀ seq ∈ buf.frames.keys, seq < 2 ^ 32

variable {a : FrameAssembler}

theorem InRange.delete (h : a.InRange) (messageId : ℕ) :
    InRange ⟨a.buffers.delete messageId⟩ := by
  intro id buf hget
  exact h id buf (GoMap.get_delete_eq_some.mp hget).2

theorem InRange.step (h : a.InRange) (event : Event) : (a.step event).1.InRange := by
  cases event with
  | drop messageId => exact h.delete messageId
  | add order f =>
    obtain ⟨f, htotal⟩ := f
    simp only [FrameAssembler.step, add]
    split_ifs with _ _ hseq
    all_goals first | exact h | exact h.delete _ | skip
    intro id buf hget seq hmem
    rw [GoMap.get_set] at hget
    split_ifs at hget with hid
    · cases hget
      rcases mem_insert.mp hmem with rfl | hold
      · omega
      · cases hbuf : a.buffers.get f.messageId with
        | none =>
          rw [bufferOf, hbuf] at hold
          cases hold
        | some buf =>
          rw [bufferOf, hbuf] at hold
          exact h _ buf hbuf seq hold
    · exact h id buf hget seq hmem

/-- **The summary of a receiver is exact** for every message with a buffer, and it survives the
wire. -/
theorem snapshot_exact :
    (∀ events messageId,
      ((run events).snapshot messageId = none ↔ (run events).buffers.get messageId = none) ∧
      ∀ buf, (run events).buffers.get messageId = some buf →
        ∃ ranges, (run events).snapshot messageId = some (ranges, buf.total) ∧ Separated ranges ∧
          ∀ seq, seq ∈ covered ranges ↔ seq ∈ buf.frames.keys) ∧
    ∀ ranges : List AckRange, ranges.length ≤ 65535 → (∀ r ∈ ranges, r.InRange) →
      ∃ payload, encodeAckRanges ranges = .ok payload ∧ decodeAckRanges payload = .ok ranges := by
  refine ⟨fun events messageId => ⟨Option.map_eq_none_iff, fun buf hbuf => ?_⟩,
    fun ranges hlength hrange => ?_⟩
  · have hinv : (run events).InRange :=
      runSteps_invariant (fun _ _ hget => by simp [new] at hget) (fun _ event h => h.step event) events
    have hsnapshot : (run events).snapshot messageId =
        some (seqsToRanges (buf.frames.keys.sort (· ≤ ·)), buf.total) := by
      rw [snapshot, hbuf]
      rfl
    obtain ⟨hseparated, hcovers⟩ := separated_seqsToRanges
      (sortedLT_sort buf.frames.keys).pairwise
      (fun seq hseq => hinv messageId buf hbuf seq ((mem_sort _).mp hseq))
    exact ⟨_, hsnapshot, hseparated, fun seq => (hcovers seq).trans (mem_sort _)⟩
  · have hencode : encodeAckRanges ranges = .ok _ := check_bind_ok_iff.mpr ⟨by omega, rfl⟩
    exact ⟨_, hencode, decodeAckRanges_encode hrange hencode⟩

end FrameAssembler

/-! ## The record of a sender -/

namespace AckTracker

/-- The loop of `update` over a range, at most `fuel` times: `none` if it is not done. -/
def mark (stop : ℕ) : ℕ → ℕ → Finset ℕ → Option (Finset ℕ)
  | 0, _, _ => none
  | fuel + 1, s, acked =>
    if s ≤ stop then mark stop fuel ((s + 1) % 2 ^ 32) (insert s acked) else some acked

/-- `update` as it runs, with at most `fuel` rounds for a range. -/
def updateLoop (fuel : ℕ) (a : AckTracker) (ranges : List AckRange) : Option AckTracker := do
  let acked ← ranges.foldlM (fun acked r => mark r.stop fuel r.start acked) a.acked
  return { a with acked, signalled := true }

theorem mark_eq {stop fuel s : ℕ} (hstop : s ≤ stop → stop < 2 ^ 32 - 1) (hfuel : stop < s + fuel)
    (acked : Finset ℕ) : mark stop (fuel + 1) s acked = some (acked ∪ Finset.Icc s stop) := by
  induction fuel generalizing s acked with
  | zero => rw [mark, if_neg (by omega), Finset.Icc_eq_empty (by omega), union_empty]
  | succ fuel ih =>
    rw [mark]
    split_ifs with hle
    · have hlt := hstop hle
      rw [ih (fun _ => hlt) (by omega), Option.some.injEq]
      grind
    · rw [Finset.Icc_eq_empty hle, union_empty]

/-- A range that ends at the largest number keeps the loop running. -/
theorem mark_last (fuel s : ℕ) (hs : s < 2 ^ 32) (acked : Finset ℕ) :
    mark (2 ^ 32 - 1) fuel s acked = none := by
  induction fuel generalizing s acked with
  | zero => rfl
  | succ fuel ih =>
    rw [mark, if_pos (by omega)]
    exact ih _ (Nat.mod_lt _ (by omega)) _

/-- Where no range ends there, the loop does what `update` says. -/
theorem updateLoop_eq {a : AckTracker} {ranges : List AckRange} {fuel : ℕ} (hfuel : 2 ^ 32 ≤ fuel)
    (h : ∀ r ∈ ranges, r.start ≤ r.stop → r.stop < 2 ^ 32 - 1) :
    a.updateLoop (fuel + 1) ranges = some (a.update ranges) := by
  have hmarks : ∀ acked : Finset ℕ, ranges.foldlM (fun acked r =>
      mark r.stop (fuel + 1) r.start acked) acked = some (acked ∪ covered ranges) := by
    induction ranges with
    | nil => exact fun acked => congrArg some (union_empty acked).symm
    | cons r ranges ih =>
      intro acked
      obtain ⟨hr, hranges⟩ := forall_mem_cons.mp h
      rw [foldlM_cons, mark_eq hr (by omega)]
      exact (ih hranges _).trans (congrArg some (union_assoc ..))
  rw [updateLoop, hmarks]
  rfl

theorem run_updateLoop {updates : List (List AckRange)}
    (h : ∀ ranges ∈ updates, ∀ r ∈ ranges, r.start ≤ r.stop → r.stop < 2 ^ 32 - 1) (a : AckTracker) :
    ∃ a', (∀ fuel ≥ 2 ^ 32, updates.foldlM (updateLoop (fuel + 1)) a = some a') ∧
      a'.total = a.total ∧
      ∀ seq, seq ∈ a'.acked ↔ seq ∈ a.acked ∨ ∃ ranges ∈ updates, seq ∈ covered ranges := by
  induction updates generalizing a with
  | nil => exact ⟨a, fun _ _ => rfl, rfl, by simp⟩
  | cons ranges updates ih =>
    obtain ⟨hranges, hupdates⟩ := forall_mem_cons.mp h
    obtain ⟨a', hrun, htotal, hacked⟩ := ih hupdates (a.update ranges)
    refine ⟨a', fun fuel hfuel => ?_, htotal, fun seq => ?_⟩
    · rw [foldlM_cons, updateLoop_eq hfuel hranges]
      exact hrun fuel hfuel
    · rw [hacked, exists_mem_cons_iff, ← or_assoc, update, mem_union]

/-- A fold that fails at one of its elements, whatever came before it, fails. -/
theorem foldlM_eq_none {α β : Type} {f : β → α → Option β} {l : List α} {x : α} (hx : x ∈ l)
    (hf : ∀ b, f b x = none) (b : β) : l.foldlM f b = none := by
  induction l generalizing b with
  | nil => cases hx
  | cons y l ih =>
    rw [foldlM_cons]
    rcases mem_cons.mp hx with rfl | hx
    · rw [hf b]
      rfl
    · cases f b y with
      | none => rfl
      | some b' => exact ih hx b'

/-- A range that is not empty and ends at the largest number is never done. -/
theorem updateLoop_last {ranges : List AckRange} {r : AckRange} (hr : r ∈ ranges)
    (hstart : r.start < 2 ^ 32) (hstop : r.stop = 2 ^ 32 - 1) (fuel : ℕ) (a : AckTracker) :
    a.updateLoop fuel ranges = none := by
  have hmark (acked : Finset ℕ) : mark r.stop fuel r.start acked = none := by
    rw [hstop]
    exact mark_last fuel r.start hstart acked
  rw [updateLoop, foldlM_eq_none hr hmark]
  rfl

/-- The frames of the message that no range of the updates holds. -/
def unacked (total : ℕ) (updates : List (List AckRange)) : Finset ℕ :=
  Finset.range total \ covered updates.flatten

/-- The numbers in the ranges that the message does not have. -/
def stray (total : ℕ) (updates : List (List AckRange)) : Finset ℕ :=
  covered updates.flatten \ Finset.range total

theorem mem_covered_flatten {updates : List (List AckRange)} {seq : ℕ} :
    seq ∈ covered updates.flatten ↔ ∃ ranges ∈ updates, seq ∈ covered ranges := by
  simp only [mem_covered, mem_flatten]
  grind

/-- The count of the keys is the total or more just when no fewer numbers are stray than unacked. -/
theorem le_card_covered_iff {total : ℕ} {updates : List (List AckRange)} :
    total ≤ (covered updates.flatten).card ↔
      (unacked total updates).card ≤ (stray total updates).card := by
  have hacked := Finset.card_sdiff_add_card_inter (covered updates.flatten) (Finset.range total)
  have htotal := Finset.card_sdiff_add_card_inter (Finset.range total) (covered updates.flatten)
  rw [Finset.inter_comm, Finset.card_range] at htotal
  unfold unacked stray
  omega

/-- **The record of a sender is exact** if and only if no range that is not empty ends at the
largest number and, as long as a frame is unacked, fewer numbers are stray than unacked. -/
theorem updates_exact (total : ℕ) (updates : List (List AckRange))
    (hrange : ∀ ranges ∈ updates, ∀ r ∈ ranges, r.InRange) :
    (∃ a enough, (∀ fuel ≥ enough, updates.foldlM (updateLoop fuel) (new total) = some a) ∧
      (a.complete ↔ ∀ seq < total, ∃ ranges ∈ updates, seq ∈ covered ranges) ∧
      a.missing = (List.range total).filter fun seq => ∀ ranges ∈ updates, seq ∉ covered ranges) ↔
    (∀ ranges ∈ updates, ∀ r ∈ ranges, r.start ≤ r.stop → r.stop < 2 ^ 32 - 1) ∧
      ((unacked total updates).Nonempty →
        (stray total updates).card < (unacked total updates).card) := by
  by_cases hends : ∀ ranges ∈ updates, ∀ r ∈ ranges, r.start ≤ r.stop → r.stop < 2 ^ 32 - 1
  · obtain ⟨a, hrun, htotal', hacked⟩ := run_updateLoop hends (new total)
    simp only [new, Finset.notMem_empty, false_or] at htotal' hacked
    have hset : a.acked = covered updates.flatten :=
      Finset.ext fun seq => (hacked seq).trans mem_covered_flatten.symm
    -- all numbers are below the largest one, so their count does not wrap
    have hsubset : a.acked ⊆ Finset.range (2 ^ 32 - 1) := by
      intro seq hseq
      obtain ⟨ranges, hranges, hcovered⟩ := (hacked seq).mp hseq
      obtain ⟨r, hr, hstart, hstop⟩ := mem_covered.mp hcovered
      have := hends ranges hranges r hr (hstart.trans hstop)
      exact Finset.mem_range.mpr (by omega)
    have hcard := Finset.card_le_card hsubset
    rw [Finset.card_range] at hcard
    have hcomplete : a.complete = true ↔
        (unacked total updates).card ≤ (stray total updates).card := by
      simp only [complete, decide_eq_true_eq, htotal']
      rw [Nat.mod_eq_of_lt (by omega), hset]
      exact le_card_covered_iff
    have hall : (∀ seq < total, ∃ ranges ∈ updates, seq ∈ covered ranges) ↔
        unacked total updates = ∅ := by
      rw [unacked, Finset.sdiff_eq_empty_iff_subset]
      simp only [Finset.subset_iff, Finset.mem_range, mem_covered_flatten]
    have hexact : (a.complete ↔ ∀ seq < total, ∃ ranges ∈ updates, seq ∈ covered ranges) ↔
        ((unacked total updates).Nonempty →
          (stray total updates).card < (unacked total updates).card) := by
      rw [hcomplete, hall, Finset.nonempty_iff_ne_empty]
      by_cases hnone : unacked total updates = ∅
      · simp [hnone]
      · simp only [hnone, iff_false, Nat.not_le, ne_eq, not_false_eq_true, forall_const]
    constructor
    · rintro ⟨a', enough, hrun', hcomplete', -⟩
      -- the two runs agree where both have rounds enough
      obtain rfl : a' = a := Option.some.inj ((hrun' (enough + 2 ^ 32 + 1) (by omega)).symm.trans
        (hrun (enough + 2 ^ 32) (by omega)))
      exact ⟨hends, hexact.mp hcomplete'⟩
    · rintro ⟨-, hfewer⟩
      refine ⟨a, 2 ^ 32 + 1, fun fuel hfuel => ?_, hexact.mpr hfewer, ?_⟩
      · obtain ⟨fuel, rfl⟩ := Nat.exists_eq_add_of_le' (Nat.one_le_of_lt hfuel)
        exact hrun fuel (by omega)
      · simp [missing, hacked, htotal']
  · refine iff_of_false ?_ fun h => hends h.1
    rintro ⟨a, enough, hrun, -⟩
    have hrun := hrun enough le_rfl
    push Not at hends
    obtain ⟨ranges, hranges, r, hr, hle, hstop⟩ := hends
    have hr' := hrange ranges hranges r hr
    have hlast : r.stop = 2 ^ 32 - 1 := by
      unfold AckRange.InRange at hr'
      omega
    rw [foldlM_eq_none hranges (updateLoop_last hr hr'.1 hlast enough)] at hrun
    cases hrun

theorem updates_exact_sample : ∃ a enough,
    (∀ fuel ≥ enough, [[⟨2, 1⟩, ⟨0, 5⟩]].foldlM (updateLoop fuel) (new 2) = some a) ∧
      a.complete = true := by
  obtain ⟨a, enough, hrun, hcomplete, -⟩ :=
    (updates_exact 2 [[⟨2, 1⟩, ⟨0, 5⟩]] (by simp [AckRange.InRange])).mpr (by decide)
  exact ⟨a, enough, hrun, hcomplete.mpr (by decide)⟩

theorem update_takes_any_range :
    (∀ fuel, (new 1).updateLoop fuel [⟨0, 2 ^ 32 - 1⟩] = none) ∧
      ∃ a, (new 2).updateLoop 3 [⟨5, 6⟩] = some a ∧ a.complete = true ∧ a.missing = [0, 1] := by
  refine ⟨fun fuel => ?_, _, rfl, by decide, by decide⟩
  rw [updateLoop, foldlM_cons, mark_last fuel 0 (by decide)]
  rfl

end AckTracker

end NatP2P.Network
