import NatP2P.Common.Bitmap
import NatP2P.Common.Check
import NatP2P.Common.Run
import NatP2P.Common.Word
import NatP2P.E2E.MessageID
import Mathlib.Data.Finset.Basic

/-!
# The replay window

Reference: `networkFrameWork/e2e_replay.go`.

The window keeps one bit for each of the last 65536 sequences, in a bitmap whose slots are used over
and over. `Tracks` says what the bits mean: inside the window a slot is set exactly when its
sequence was observed. Moving the window to a new highest sequence clears the slots of the sequences
that enter it, which are those of the sequences that leave it, and no other.
-/

namespace NatP2P.E2E

open List

/-- `e2eReplayWindowSize`. -/
def e2eReplayWindowSize : ℕ := 65536

/-- `e2eReplayWindow`. -/
structure ReplayWindow where
  initialized : Bool
  sessionID : Bytes32
  highest : ℕ
  seen : Bitmap 1024

/-- The errors of `observe`. -/
inductive ReplayError where
  | invalidMessageID
  | otherSession
deriving DecidableEq

/-- The zero value. -/
def ReplayWindow.zero : ReplayWindow where
  initialized := false
  sessionID := Bytes32.zero
  highest := 0
  seen := Bitmap.clear

/-- `sequence % e2eReplayWindowSize`. -/
def replaySlot (sequence : ℕ) : Fin (64 * 1024) :=
  ⟨sequence % e2eReplayWindowSize, Nat.mod_lt _ (by decide)⟩

/-- `replayWindowSlot`: the word and the mask of a sequence. -/
def replayWindowSlot (sequence : ℕ) : Fin 1024 × BitVec 64 :=
  (Bitmap.word (replaySlot sequence), Bitmap.mask (replaySlot sequence))

namespace ReplayWindow

/-- One turn of the loop of `advance`. -/
def forget (seen : Bitmap 1024) (sequence : ℕ) : Bitmap 1024 :=
  let (word, mask) := replayWindowSlot sequence
  Function.update seen word (seen word &&& ~~~mask)

/-- `e2eReplayWindow.advance`. -/
def advance (window : ReplayWindow) (sequence : ℕ) : ReplayWindow :=
  let advance := sub64 sequence window.highest
  let seen :=
    if advance ≥ e2eReplayWindowSize then Bitmap.clear
    else (List.range' 1 advance).foldl
      (fun seen offset => forget seen (add64 window.highest offset)) window.seen
  { window with seen, highest := sequence }

/-- `window.seen[word] |= mask`. -/
def mark (window : ReplayWindow) (sequence : ℕ) : ReplayWindow :=
  let (word, mask) := replayWindowSlot sequence
  { window with seen := Function.update window.seen word (window.seen word ||| mask) }

/-- `window.seen[word]&mask != 0`. -/
def marked (window : ReplayWindow) (sequence : ℕ) : Bool :=
  let (word, mask) := replayWindowSlot sequence
  window.seen word &&& mask ≠ 0

/-- The part of `observe` behind the checks of the id: is the sequence a duplicate? -/
def record (window : ReplayWindow) (sequence : ℕ) : Bool × ReplayWindow :=
  let moved := if sequence > window.highest then window.advance sequence else window
  if sequence ≤ window.highest ∧ sub64 window.highest sequence ≥ e2eReplayWindowSize then
    (true, moved)
  else if moved.marked sequence then (true, moved)
  else (false, moved.mark sequence)

/-- The first id binds the window to its session. -/
def bindSession (window : ReplayWindow) (messageID : Bytes) : ReplayWindow :=
  if window.initialized then window
  else { window with sessionID := Bytes32.copy (messageSession messageID), initialized := true }

/-- `e2eReplayWindow.observe`: `true` for a duplicate. -/
def observe (window : ReplayWindow) (messageID : Bytes) :
    Except ReplayError Bool × ReplayWindow :=
  if messageID.length ≠ e2eMessageIDSize then (.error .invalidMessageID, window)
  else if messageEpoch messageID = 0 ∨ messageSequence messageID = 0 then
    (.error .invalidMessageID, window)
  else if window.initialized ∧ window.sessionID.val ≠ messageSession messageID then
    (.error .otherSession, window)
  else
    let recorded := (window.bindSession messageID).record (messageSequence messageID)
    (.ok recorded.1, recorded.2)

end ReplayWindow

/-! ## What the bits mean -/

/-- The window is about the sequences in `observed`. -/
structure Tracks (window : ReplayWindow) (observed : Finset ℕ) : Prop where
  highest_lt : window.highest < 2 ^ 64
  le_highest : ∀ sequence ∈ observed, sequence ≤ window.highest
  attained : window.highest = 0 ∨ window.highest ∈ observed
  seen_iff : ∀ sequence ≤ window.highest, window.highest < sequence + e2eReplayWindowSize →
    (window.seen.test (replaySlot sequence) ↔ sequence ∈ observed)

variable {sequence other : ℕ} {window : ReplayWindow} {observed : Finset ℕ}

/-- Two sequences less than a window apart have different slots. -/
theorem replaySlot_ne (hlt : sequence < other)
    (hclose : other < sequence + e2eReplayWindowSize) : replaySlot sequence ≠ replaySlot other := by
  intro heq
  have hmod : sequence % e2eReplayWindowSize = other % e2eReplayWindowSize := congrArg Fin.val heq
  rw [e2eReplayWindowSize] at hclose hmod
  omega

/-- Two sequences of one window have the same slot only if they are equal. -/
theorem replaySlot_eq_iff (hforward : sequence < other + e2eReplayWindowSize)
    (hback : other < sequence + e2eReplayWindowSize) :
    replaySlot other = replaySlot sequence ↔ other = sequence := by
  refine ⟨fun heq => ?_, fun heq => by rw [heq]⟩
  by_contra hne
  rcases Nat.lt_or_gt_of_ne hne with hlt | hgt
  · exact replaySlot_ne hlt hforward heq
  · exact replaySlot_ne hgt hback heq.symm

namespace ReplayWindow

theorem test_forget (seen : Bitmap 1024) (sequence : ℕ) (slot : Fin (64 * 1024)) :
    (forget seen sequence).test slot =
      (decide (slot ≠ replaySlot sequence) && Bitmap.test seen slot) :=
  Bitmap.test_update_andNot seen (replaySlot sequence) slot

theorem test_mark (window : ReplayWindow) (sequence : ℕ) (slot : Fin (64 * 1024)) :
    (window.mark sequence).seen.test slot ↔ slot = replaySlot sequence ∨ window.seen.test slot := by
  have h := Bitmap.test_update_or window.seen (replaySlot sequence) slot
  rw [show (window.mark sequence).seen.test slot = _ from h, Bool.or_eq_true, decide_eq_true_eq]

theorem marked_iff : window.marked sequence ↔ window.seen.test (replaySlot sequence) := by
  unfold marked replayWindowSlot
  rw [decide_eq_true_eq]
  exact Bitmap.and_mask_ne_zero

/-- A slot is set behind the loop exactly when it was set before it and none of the sequences has
it. -/
theorem test_foldl_forget (sequences : List ℕ) (seen : Bitmap 1024) (slot : Fin (64 * 1024)) :
    Bitmap.test (sequences.foldl forget seen) slot ↔
      (∀ sequence ∈ sequences, slot ≠ replaySlot sequence) ∧ Bitmap.test seen slot := by
  induction sequences generalizing seen with
  | nil => simp
  | cons sequence sequences ih =>
    rw [foldl_cons, ih, test_forget]
    simp only [mem_cons, forall_eq_or_imp, Bool.and_eq_true, decide_eq_true_eq]
    tauto

/-- The loop of `advance` runs over the sequences behind the old highest one. -/
theorem foldl_forget_eq {advance : ℕ} (h : window.highest + advance < 2 ^ 64) :
    (List.range' 1 advance).foldl
        (fun seen offset => forget seen (add64 window.highest offset)) window.seen =
      (List.range' (window.highest + 1) advance).foldl forget window.seen := by
  rw [← foldl_map]
  congr 1
  rw [← map_add_range']
  refine map_congr_left fun offset hoffset => ?_
  rw [mem_range'_1] at hoffset
  rw [add64_eq (by omega)]

end ReplayWindow

namespace Tracks

variable {window : ReplayWindow} {observed : Finset ℕ} {sequence : ℕ}

theorem zero : Tracks .zero ∅ where
  highest_lt := by decide
  le_highest := by simp
  attained := .inl rfl
  seen_iff := by simp [ReplayWindow.zero]

variable (h : Tracks window observed)
include h

theorem not_mem (hlt : window.highest < sequence) : sequence ∉ observed :=
  fun hmem => hlt.not_ge (h.le_highest sequence hmem)

/-- Moving the window forgets what leaves it. The new highest sequence itself has not been seen. -/
theorem advance_seen (hlt : window.highest < sequence) (hsequence : sequence < 2 ^ 64) :
    ∀ other ≤ sequence, sequence < other + e2eReplayWindowSize →
      ((window.advance sequence).seen.test (replaySlot other) ↔ other ∈ observed) := by
  intro other hle hclose
  have hsub : sub64 sequence window.highest = sequence - window.highest := sub64_eq hlt.le hsequence
  unfold ReplayWindow.advance
  simp only [hsub]
  by_cases hfar : sequence - window.highest ≥ e2eReplayWindowSize
  · -- every sequence of the new window is behind the old highest one
    rw [if_pos hfar]
    have hnot : other ∉ observed := h.not_mem (by omega)
    simp [hnot]
  · rw [if_neg hfar, ReplayWindow.foldl_forget_eq (by omega), ReplayWindow.test_foldl_forget]
    by_cases hnew : window.highest < other
    · -- the sequence has just entered, so its slot is among the cleared ones
      have hmem : other ∈ range' (window.highest + 1) (sequence - window.highest) := by
        rw [mem_range'_1]
        omega
      simp only [h.not_mem hnew, iff_false, not_and]
      intro hclear
      exact absurd rfl (hclear other hmem)
    · -- the sequence stays, and the cleared slots belong to others less than a window away
      have hstays : ∀ cleared ∈ range' (window.highest + 1) (sequence - window.highest),
          replaySlot other ≠ replaySlot cleared := by
        intro cleared hcleared
        rw [mem_range'_1] at hcleared
        exact replaySlot_ne (by omega) (by omega)
      rw [h.seen_iff other (by omega) (by omega)]
      exact and_iff_right hstays

/-- A sequence above the highest one is fresh; it becomes the highest one. -/
theorem record_of_lt (hlt : window.highest < sequence) (hsequence : sequence < 2 ^ 64) :
    (window.record sequence).1 = false ∧
      Tracks (window.record sequence).2 (insert sequence observed) := by
  have hmoved := h.advance_seen hlt hsequence
  have hclear : ¬ (window.advance sequence).marked sequence := by
    rw [ReplayWindow.marked_iff, hmoved sequence le_rfl (by rw [e2eReplayWindowSize]; omega)]
    exact h.not_mem hlt
  have hrecord : window.record sequence = (false, (window.advance sequence).mark sequence) := by
    unfold ReplayWindow.record
    rw [if_pos hlt, if_neg (by omega), if_neg hclear]
  rw [hrecord]
  refine ⟨rfl, hsequence, ?_, .inr (Finset.mem_insert_self ..), ?_⟩
  · exact (Finset.forall_mem_insert ..).mpr
      ⟨le_rfl, fun other hother => (h.le_highest other hother).trans hlt.le⟩
  · intro other (hle : other ≤ sequence) (hclose : sequence < other + e2eReplayWindowSize)
    rw [ReplayWindow.test_mark, hmoved other hle hclose, Finset.mem_insert,
      replaySlot_eq_iff hclose (by omega)]

/-- A sequence that is a window or more behind the highest one is not recorded. -/
theorem record_of_old (hold : sequence + e2eReplayWindowSize ≤ window.highest) :
    (window.record sequence).1 = true ∧
      Tracks (window.record sequence).2 (insert sequence observed) := by
  have hle : sequence ≤ window.highest := by omega
  have hsub := sub64_eq hle h.highest_lt
  have hrecord : window.record sequence = (true, window) := by
    unfold ReplayWindow.record
    rw [if_neg hle.not_gt, if_pos ⟨hle, by omega⟩]
  rw [hrecord]
  refine ⟨rfl, h.highest_lt, ?_, h.attained.imp_right fun hmem => Finset.mem_insert_of_mem hmem, ?_⟩
  · exact (Finset.forall_mem_insert ..).mpr ⟨hle, h.le_highest⟩
  · intro other hother hclose
    have hne : other ≠ sequence := by
      rintro rfl
      exact absurd hclose (Nat.not_lt.mpr hold)
    rw [h.seen_iff other hother hclose, Finset.mem_insert, or_iff_right hne]

/-- Inside the window the bit decides. -/
theorem record_of_close (hle : sequence ≤ window.highest)
    (hclose : window.highest < sequence + e2eReplayWindowSize) :
    ((window.record sequence).1 = true ↔ sequence ∈ observed) ∧
      Tracks (window.record sequence).2 (insert sequence observed) := by
  have hsub := sub64_eq hle h.highest_lt
  have hbit : window.marked sequence ↔ sequence ∈ observed := by
    rw [ReplayWindow.marked_iff, h.seen_iff sequence hle hclose]
  have hrecord : window.record sequence =
      if window.marked sequence then (true, window) else (false, window.mark sequence) := by
    unfold ReplayWindow.record
    rw [if_neg hle.not_gt, if_neg (by omega)]
  rw [hrecord]
  by_cases hmem : sequence ∈ observed
  · rw [if_pos (hbit.mpr hmem), Finset.insert_eq_of_mem hmem]
    exact ⟨iff_of_true rfl hmem, h⟩
  · rw [if_neg (fun hset => hmem (hbit.mp hset))]
    refine ⟨by simpa using hmem, h.highest_lt, ?_,
      h.attained.imp_right fun hattained => Finset.mem_insert_of_mem hattained, ?_⟩
    · exact (Finset.forall_mem_insert ..).mpr ⟨hle, h.le_highest⟩
    · intro other (hother : other ≤ window.highest)
        (hcloseOther : window.highest < other + e2eReplayWindowSize)
      rw [ReplayWindow.test_mark, h.seen_iff other hother hcloseOther, Finset.mem_insert,
        replaySlot_eq_iff (by omega) (by omega)]

/-- A record is reported fresh exactly when its sequence was not observed and is still inside the
window. -/
theorem record_spec (hsequence : sequence < 2 ^ 64) :
    ((window.record sequence).1 = false ↔
        sequence ∉ observed ∧ window.highest < sequence + e2eReplayWindowSize) ∧
      Tracks (window.record sequence).2 (insert sequence observed) := by
  rcases Nat.lt_or_ge window.highest sequence with hlt | hle
  · obtain ⟨hfresh, htracks⟩ := h.record_of_lt hlt hsequence
    exact ⟨iff_of_true hfresh ⟨h.not_mem hlt, by omega⟩, htracks⟩
  · rcases Nat.lt_or_ge window.highest (sequence + e2eReplayWindowSize) with hclose | hold
    · obtain ⟨hduplicate, htracks⟩ := h.record_of_close hle hclose
      refine ⟨?_, htracks⟩
      rw [← Bool.not_eq_true, hduplicate, and_iff_left hclose]
    · obtain ⟨hduplicate, htracks⟩ := h.record_of_old hold
      refine ⟨?_, htracks⟩
      rw [hduplicate]
      simp [Nat.not_lt.mpr hold]

end Tracks

/-! ## Observing message ids -/

namespace ReplayWindow

variable {window : ReplayWindow} {observed : Finset ℕ} {messageID : Bytes} {sequence : ℕ}

theorem record_session : (window.record sequence).2.sessionID = window.sessionID := by
  unfold record
  by_cases hold : sequence ≤ window.highest ∧ sub64 window.highest sequence ≥ e2eReplayWindowSize
  · split_ifs <;> rfl
  · rw [if_neg hold]
    split_ifs <;> rfl

theorem bindSession_highest : (window.bindSession messageID).highest = window.highest := by
  unfold bindSession
  split_ifs <;> rfl

/-- A refused id changes nothing; an accepted one is recorded. -/
theorem observe_cases :
    (∃ err, window.observe messageID = (.error err, window)) ∨ window.observe messageID =
        (.ok ((window.bindSession messageID).record (messageSequence messageID)).1,
          ((window.bindSession messageID).record (messageSequence messageID)).2) := by
  unfold observe
  split_ifs
  · exact .inl ⟨_, rfl⟩
  · exact .inl ⟨_, rfl⟩
  · exact .inl ⟨_, rfl⟩
  · exact .inr rfl

end ReplayWindow

/-- The bits of a window do not depend on its session. -/
theorem Tracks.bindSession (h : Tracks window observed) (messageID : Bytes) :
    Tracks (window.bindSession messageID) observed := by
  unfold ReplayWindow.bindSession
  split_ifs
  · exact h
  · exact { h with }

/-- An accepted id is fresh exactly when its sequence was not observed and is inside the window. -/
theorem Tracks.observe {messageID : Bytes} {duplicate : Bool} (h : Tracks window observed)
    (hok : (window.observe messageID).1 = .ok duplicate) :
    (duplicate = false ↔ messageSequence messageID ∉ observed ∧
        window.highest < messageSequence messageID + e2eReplayWindowSize) ∧
      Tracks (window.observe messageID).2 (insert (messageSequence messageID) observed) := by
  have hspec := (h.bindSession messageID).record_spec (@messageSequence_lt messageID)
  rw [ReplayWindow.bindSession_highest] at hspec
  rcases @ReplayWindow.observe_cases window messageID with ⟨err, herr⟩ | hrecorded
  · rw [herr] at hok
    cases hok
  · rw [hrecorded] at hok ⊢
    obtain rfl := Except.ok.inj hok
    exact hspec

/-- An id of a session: of the right length, with an epoch and a sequence. -/
structure ValidID (sessionID : Bytes32) (messageID : Bytes) : Prop where
  length : messageID.length = e2eMessageIDSize
  session : messageSession messageID = sessionID.val
  epoch : messageEpoch messageID ≠ 0
  sequence : messageSequence messageID ≠ 0

/-- A new window after a list of ids, with the answers. -/
def observeAll (messageIDs : List Bytes) : ReplayWindow × List (Except ReplayError Bool) :=
  runSteps (fun window messageID => ((window.observe messageID).2, (window.observe messageID).1))
    .zero messageIDs

section Session

variable {sessionID : Bytes32} {messageID : Bytes} {messageIDs : List Bytes}

/-- A window that is free or bound to the session accepts its ids. -/
theorem ValidID.observe (h : ValidID sessionID messageID)
    (hwindow : window.initialized → window.sessionID = sessionID) :
    (∃ duplicate, (window.observe messageID).1 = .ok duplicate) ∧
      (window.observe messageID).2.sessionID = sessionID := by
  have hother : ¬ (window.initialized ∧ window.sessionID.val ≠ messageSession messageID) := by
    rintro ⟨hinitialized, hne⟩
    exact hne (by rw [hwindow hinitialized, h.session])
  unfold ReplayWindow.observe
  rw [if_neg (not_not.mpr h.length), if_neg (by simp [h.epoch, h.sequence]), if_neg hother]
  refine ⟨⟨_, rfl⟩, ReplayWindow.record_session.trans ?_⟩
  unfold ReplayWindow.bindSession
  split_ifs with hinitialized
  · exact hwindow hinitialized
  · show Bytes32.copy (messageSession messageID) = sessionID
    rw [h.session, Bytes32.copy_val]

/-- A run over the ids of one session is bound to it and tracks their sequences. -/
theorem tracks_observeAll (h : ∀ messageID ∈ messageIDs, ValidID sessionID messageID) :
    ((observeAll messageIDs).1.initialized → (observeAll messageIDs).1.sessionID = sessionID) ∧
      Tracks (observeAll messageIDs).1 (messageIDs.map messageSequence).toFinset := by
  induction messageIDs using reverseRecOn with
  | nil => exact ⟨fun hinitialized => absurd hinitialized Bool.false_ne_true, Tracks.zero⟩
  | append_singleton messageIDs messageID ih =>
    obtain ⟨hsession, htracks⟩ := ih fun other hother => h other (mem_append_left _ hother)
    have hvalid := h messageID (mem_append_right _ (mem_singleton_self _))
    obtain ⟨⟨duplicate, hok⟩, hbound⟩ := hvalid.observe hsession
    have hlast : (observeAll (messageIDs ++ [messageID])).1 =
        ((observeAll messageIDs).1.observe messageID).2 :=
      congrArg Prod.fst (runSteps_concat ..)
    rw [hlast, map_append, toFinset_append, Finset.union_comm]
    exact ⟨fun _ => hbound, (htracks.observe hok).2⟩

/-- The highest sequence of a window is the highest one observed. -/
theorem Tracks.highest_lt_iff (h : Tracks window observed) {bound : ℕ} (hbound : 0 < bound) :
    window.highest < bound ↔ ∀ sequence ∈ observed, sequence < bound := by
  constructor
  · intro hlt sequence hmem
    exact (h.le_highest sequence hmem).trans_lt hlt
  · intro hall
    rcases h.attained with hzero | hmem
    · rwa [hzero]
    · exact hall _ hmem

/-- After any ids of a session, an id of the session is fresh exactly when its sequence is new and
less than a window behind every sequence so far. -/
theorem observe_fresh_iff {earlier : List Bytes}
    (hearlier : ∀ other ∈ earlier, ValidID sessionID other) (h : ValidID sessionID messageID) :
    ∃ duplicate, ((observeAll earlier).1.observe messageID).1 = .ok duplicate ∧ (duplicate = false ↔
        (∀ other ∈ earlier, messageSequence other ≠ messageSequence messageID) ∧ ∀ other ∈ earlier,
            messageSequence other < messageSequence messageID + e2eReplayWindowSize) := by
  obtain ⟨hsession, htracks⟩ := tracks_observeAll hearlier
  obtain ⟨⟨duplicate, hok⟩, -⟩ := h.observe hsession
  refine ⟨duplicate, hok, ?_⟩
  rw [(htracks.observe hok).1, htracks.highest_lt_iff (by rw [e2eReplayWindowSize]; omega)]
  simp only [mem_toFinset, mem_map, not_exists, not_and, forall_exists_index, and_imp,
    forall_apply_eq_imp_iff₂]

end Session

end NatP2P.E2E
