import NatP2P.Common.KeyedList
import NatP2P.E2E.Noise

/-!
# No nonce is used for two contents

Reference: `crypoto/NoisePackage.go`.

A sequence is handed out once, so a forgotten id never comes back; and a remembered id that has been
sealed carries the digest of its content. `Ring` describes the memory of ids, `Sound` adds what was
sealed so far: each sealing's id is either forgotten or still bound to the sealing's content.
-/

namespace NatP2P.E2E.NoiseCrypto

open List GoMap Option

variable {D : Type} {P : Primitives D} {t t' : NoiseCrypto D} {messageID : Bytes}

/-! ## The content behind a digest -/

/-- The hashed bytes determine the payload and the additional data. -/
theorem bindingPreimage_injective {payload payload' externalAAD externalAAD' : Slice}
    (h : bindingPreimage payload.val externalAAD.val = bindingPreimage payload'.val externalAAD'.val) :
    payload = payload' ∧ externalAAD = externalAAD' := by
  have hread (b : Slice) : getBE (putBE 8 b.val.length) = b.val.length :=
    getBE_putBE_of_lt (b.property.trans (by decide))
  have hlengths : putBE 8 payload.val.length = putBE 8 payload'.val.length →
      payload.val.length = payload'.val.length := fun heq => by
    rw [← hread payload, heq, hread payload']
  have hbody := append_cancel_left h
  obtain ⟨hfirst, hrest⟩ := append_inj hbody (by rw [length_putBE, length_putBE])
  obtain ⟨hpayload, hrest⟩ := append_inj hrest (hlengths hfirst)
  obtain ⟨-, haad⟩ := append_inj hrest (by rw [length_putBE, length_putBE])
  exact ⟨Subtype.ext hpayload, Subtype.ext haad⟩

/-! ## The memory of ids -/

/-- The ids of the ring are the keys of the bindings. -/
structure Ring (t : NoiseCrypto D) : Prop where
  nodup : t.outboundBindingOrder.Nodup
  mem_iff : ∀ id, id ∈ t.outboundBindingOrder ↔ (t.outboundBindings.get id).isSome
  length_le : t.outboundBindingOrder.length ≤ e2eOutboundBindingCacheLimit
  next_lt : t.outboundBindingNext < e2eOutboundBindingCacheLimit

/-- A new id is remembered without a binding; another one keeps its binding or is forgotten.
Everything but the memory is left alone. -/
theorem Ring.remember (h : t.Ring) (hnew : t.outboundBindings.get messageID = none) :
    ∃ bindings order next, t.rememberOutboundMessageIDLocked messageID = { t with
        outboundBindings := bindings, outboundBindingOrder := order, outboundBindingNext := next } ∧
      (t.rememberOutboundMessageIDLocked messageID).Ring ∧ bindings.get messageID = some none ∧
      ∀ id ≠ messageID, bindings.get id = t.outboundBindings.get id ∨ bindings.get id = none := by
  have hfresh : messageID ∉ t.outboundBindingOrder := by
    rw [h.mem_iff, hnew]
    exact Bool.false_ne_true
  unfold rememberOutboundMessageIDLocked
  rw [if_neg (by rw [hnew]; exact Bool.false_ne_true)]
  by_cases hroom : t.outboundBindingOrder.length < e2eOutboundBindingCacheLimit
  · rw [if_pos hroom]
    refine ⟨_, _, _, rfl, ⟨?_, ?_, ?_, h.next_lt⟩, get_set_self, fun id hne => .inl (get_set_ne hne)⟩
    · show (t.outboundBindingOrder ++ [messageID]).Nodup
      rw [← concat_eq_append]
      exact List.Nodup.concat hfresh h.nodup
    · intro id
      show id ∈ t.outboundBindingOrder ++ [messageID] ↔ _
      rw [mem_append, h.mem_iff, get_set]
      split_ifs with hid
      all_goals simp [hid]
    · show (t.outboundBindingOrder ++ [messageID]).length ≤ _
      rw [length_append]
      exact hroom
  · -- the ring is full: the oldest id makes room
    rw [if_neg hroom]
    have hlt : t.outboundBindingNext < t.outboundBindingOrder.length := by
      have := h.next_lt
      omega
    have hget := getElem?_eq_getElem hlt
    have hexpired : t.outboundBindingOrder.getD t.outboundBindingNext [] =
        t.outboundBindingOrder[t.outboundBindingNext] := by
      rw [getD_eq_getElem?_getD, hget, getD_some]
    refine ⟨_, _, _, rfl, ⟨h.nodup.set hfresh, ?_, ?_, Nat.mod_lt _ (by decide)⟩, get_set_self, ?_⟩
    · intro id
      have hperm := set_perm_cons_eraseIdx hlt messageID
      -- only the oldest id leaves, as the ids differ
      have herase := @eraseIdx_eq_without Bytes Bytes _ (fun id => id) _ _
        (by simpa using h.nodup) _ hget
      show id ∈ t.outboundBindingOrder.set t.outboundBindingNext messageID ↔ _
      rw [hperm.mem_iff, herase, mem_cons, mem_without, h.mem_iff]
      simp only [hexpired, get_set, get_delete]
      split_ifs with hid hid'
      · simp [hid]
      · subst hid'
        simp [hid]
      · simp [hid, hid']
    · show (t.outboundBindingOrder.set _ _).length ≤ _
      rw [length_set]
      exact h.length_le
    · intro id hne
      simp only [get_set_ne hne, get_delete]
      split_ifs
      · exact .inr rfl
      · exact .inl rfl

/-! ## New ids -/

/-- A change of the epoch. -/
structure Rekeys (t t' : NoiseCrypto D) : Prop where
  sendRoot : t'.sendRoot = t.sendRoot
  sessionID : t'.sessionID = t.sessionID
  sendDirection : t'.sendDirection = t.sendDirection
  sendSequence : t'.sendSequence = t.sendSequence
  bindings : t'.outboundBindings = t.outboundBindings
  order : t'.outboundBindingOrder = t.outboundBindingOrder
  next : t'.outboundBindingNext = t.outboundBindingNext
  epoch_lt : t.sendEpoch < 2 ^ 32 → t'.sendEpoch < 2 ^ 32

theorem Rekeys.ring (h : Rekeys t t') (hring : t.Ring) : t'.Ring := by
  obtain ⟨hnodup, hmem, hlength, hnext⟩ := hring
  refine ⟨h.order ▸ hnodup, ?_, h.order ▸ hlength, h.next ▸ hnext⟩
  rw [h.order, h.bindings]
  exact hmem

theorem startEpoch_rekeys (t : NoiseCrypto D) (now : ℤ) : Rekeys t (t.startEpoch now) := by
  unfold startEpoch
  split_ifs
  · refine ⟨rfl, rfl, rfl, rfl, rfl, rfl, rfl, fun _ => ?_⟩
    show 1 < 2 ^ 32
    decide
  · exact ⟨rfl, rfl, rfl, rfl, rfl, rfl, rfl, fun h => h⟩

/-- `newMessageIDLocked` changes the epoch and then hands out the next sequence, if there is one. -/
theorem newMessageIDLocked_cases (t : NoiseCrypto D) (now : ℤ) :
    ∃ rekeyed, Rekeys t rekeyed ∧
      (t.newMessageIDLocked now = (none, rekeyed) ∨ t.newMessageIDLocked now = rekeyed.issue) := by
  have hstart := startEpoch_rekeys t now
  unfold newMessageIDLocked
  by_cases hdue : (t.startEpoch now).rekeyDue now
  · simp only [hdue, if_true]
    by_cases hlast : (t.startEpoch now).sendEpoch = 2 ^ 32 - 1
    · rw [if_pos hlast]
      exact ⟨_, hstart, .inl rfl⟩
    · rw [if_neg hlast]
      refine ⟨(t.startEpoch now).nextEpoch now, { hstart with epoch_lt := fun h => ?_ }, .inr rfl⟩
      have hlt := hstart.epoch_lt h
      show (t.startEpoch now).sendEpoch + 1 < 2 ^ 32
      omega
  · simp only [hdue, if_false]
    exact ⟨_, hstart, .inr rfl⟩

/-! ## What was sealed -/

/-- An id of this session with a sequence that has been handed out. -/
structure Issued (t : NoiseCrypto D) (messageID : Bytes) : Prop where
  length : messageID.length = e2eMessageIDSize
  session : messageSession messageID = t.sessionID.val
  sequence : messageSequence messageID ≤ t.sendSequence

/-- The memory is a ring of issued ids, and every sealing is still bound or forgotten. -/
structure Sound (P : Primitives D) (t : NoiseCrypto D) (sealings : List Sealing) : Prop where
  ring : t.Ring
  epoch_lt : t.sendEpoch < 2 ^ 32
  sequence_le : t.sendSequence ≤ maxNonce
  issued : ∀ id ∈ t.outboundBindingOrder, t.Issued id
  sealed_issued : ∀ sealing ∈ sealings, t.Issued sealing.messageID
  bound : ∀ sealing ∈ sealings, t.outboundBindings.get sealing.messageID = none ∨
    t.outboundBindings.get sealing.messageID =
      some (some (outboundRecordBindingDigest P sealing.payload.val sealing.externalAAD.val))
  record : ∀ sealing ∈ sealings,
    t.recordOf P sealing.messageID sealing.payload.val sealing.externalAAD.val = some sealing.record
  same : sealings.Pairwise fun sealing later => sealing.messageID = later.messageID →
    sealing.payload = later.payload ∧ sealing.externalAAD = later.externalAAD

theorem Issued.mono (h : t.Issued messageID) (hsession : t'.sessionID = t.sessionID)
    (hsequence : t.sendSequence ≤ t'.sendSequence) : t'.Issued messageID :=
  ⟨h.length, h.session.trans (by rw [hsession]), h.sequence.trans hsequence⟩

/-- A record depends on the keys of the session only. -/
theorem Rekeys.recordOf_eq (h : Rekeys t t') (messageID payload externalAAD : Bytes) :
    t'.recordOf P messageID payload externalAAD = t.recordOf P messageID payload externalAAD := by
  simp only [recordOf, recordHeader, h.sendRoot, h.sessionID, h.sendDirection]

section Sound

variable {sealings : List Sealing} {binding : Option D} {externalAAD payload : Bytes}

theorem Sound.rekey (h : Sound P t sealings) (hrekeys : Rekeys t t') : Sound P t' sealings where
  ring := hrekeys.ring h.ring
  epoch_lt := hrekeys.epoch_lt h.epoch_lt
  sequence_le := hrekeys.sendSequence ▸ h.sequence_le
  issued := by
    rw [hrekeys.order]
    exact fun id hid => (h.issued id hid).mono hrekeys.sessionID hrekeys.sendSequence.ge
  sealed_issued sealing hsealing :=
    (h.sealed_issued sealing hsealing).mono hrekeys.sessionID hrekeys.sendSequence.ge
  bound := by
    rw [hrekeys.bindings]
    exact h.bound
  record sealing hsealing := by
    rw [hrekeys.recordOf_eq]
    exact h.record sealing hsealing
  same := h.same

/-- A new id has a sequence that nothing in the memory and nothing sealed has. -/
theorem Sound.issue (h : Sound P t sealings) :
    Sound P t.issue.2 sealings ∧ ∀ messageID, t.issue.1 = some messageID →
      t.issue.2.outboundBindings.get messageID = some none := by
  unfold NoiseCrypto.issue
  by_cases hlimit : t.sendSequence ≥ maxNonce
  · rw [if_pos hlimit]
    exact ⟨h, fun _ hnone => nomatch hnone⟩
  · rw [if_neg hlimit]
    generalize hnext : t.nextSequence = next
    have hsession : next.sessionID = t.sessionID := by rw [← hnext]; rfl
    have hsequence : next.sendSequence = t.sendSequence + 1 := by rw [← hnext]; rfl
    have hbindings : next.outboundBindings = t.outboundBindings := by rw [← hnext]; rfl
    generalize hid : next.currentID = messageID
    have hissued : messageSequence messageID = t.sendSequence + 1 := by
      rw [← hid, currentID,
        messageSequence_encode (by unfold maxNonce at hlimit; omega), hsequence]
    have hlengthID : messageID.length = e2eMessageIDSize := hid ▸ length_encodeMessageID
    have hsessionID : messageSession messageID = next.sessionID.val := hid ▸ messageSession_encode
    -- nothing with this sequence is known
    have hnot (other : Bytes) (hother : t.Issued other) : other ≠ messageID := by
      rintro rfl
      have := hother.sequence
      omega
    have hring : next.Ring := by
      rw [← hnext]
      exact { h.ring with }
    have hnew : next.outboundBindings.get messageID = none := by
      rw [hbindings, ← not_isSome_iff_eq_none, ← h.ring.mem_iff]
      exact fun hmem => hnot messageID (h.issued messageID hmem) rfl
    obtain ⟨bindings, order, ringNext, hframe, hrememberRing, hself, hothers⟩ := hring.remember hnew
    rw [hframe] at hrememberRing ⊢
    have hmono (id : Bytes) (hissuedID : t.Issued id) : Issued { next with
        outboundBindings := bindings, outboundBindingOrder := order
        outboundBindingNext := ringNext } id :=
      hissuedID.mono hsession (hsequence.ge.trans' (Nat.le_succ _))
    refine ⟨⟨hrememberRing, ?_, ?_, ?_, ?_, ?_, ?_, h.same⟩, ?_⟩
    · rw [← hnext]
      exact h.epoch_lt
    · show next.sendSequence ≤ _
      omega
    · intro id hmem
      by_cases heq : id = messageID
      · subst heq
        exact ⟨hlengthID, hsessionID, (hissued.trans hsequence.symm).le⟩
      · rw [hrememberRing.mem_iff] at hmem
        rcases hothers id heq with hsame | hgone
        · rw [hsame, hbindings, ← h.ring.mem_iff] at hmem
          exact hmono id (h.issued id hmem)
        · rw [hgone] at hmem
          exact absurd hmem Bool.false_ne_true
    · exact fun sealing hsealing => hmono _ (h.sealed_issued sealing hsealing)
    · intro sealing hsealing
      rcases hothers _ (hnot _ (h.sealed_issued sealing hsealing)) with hsame | hgone
      · rw [hsame, hbindings]
        exact h.bound sealing hsealing
      · exact .inl hgone
    · intro sealing hsealing
      rw [← hnext]
      exact h.record sealing hsealing
    · intro other hother
      rw [← some.inj hother]
      exact hself

theorem Sound.newMessageIDLocked (h : Sound P t sealings) (now : ℤ) :
    Sound P (t.newMessageIDLocked now).2 sealings := by
  obtain ⟨rekeyed, hrekeys, hnone | hissue⟩ := newMessageIDLocked_cases t now
  · rw [hnone]
    exact h.rekey hrekeys
  · rw [hissue]
    exact (h.rekey hrekeys).issue.1

theorem Sound.resolveMessageID (h : Sound P t sealings) (now : ℤ) (messageID : Bytes) :
    Sound P (t.resolveMessageID now messageID).2 sealings := by
  unfold NoiseCrypto.resolveMessageID
  split_ifs
  · have hnew := h.newMessageIDLocked now
    generalize t.newMessageIDLocked now = result at hnew
    rcases result with ⟨_ | issued, next⟩
    all_goals exact hnew
  all_goals exact h

/-- Behind a sealing the id is bound to its content, and nothing else has changed. -/
theorem bindContent_frame
    (hget : t.outboundBindings.get messageID = some binding) (hbinding : binding = none ∨
      binding = some (outboundRecordBindingDigest P payload externalAAD)) :
    ∃ bindings bytes, t.bindContent P binding messageID payload externalAAD =
        { t with outboundBindings := bindings, sendEpochBytes := bytes } ∧
      bindings.get messageID = some (some (outboundRecordBindingDigest P payload externalAAD)) ∧
      ∀ other ≠ messageID, bindings.get other = t.outboundBindings.get other := by
  rcases hbinding with rfl | rfl
  · exact ⟨_, _, rfl, get_set_self, fun _ hne => get_set_ne hne⟩
  · exact ⟨_, _, rfl, hget, fun _ _ => rfl⟩

/-- What the checks of a binding have established. -/
theorem checkBinding_ok [DecidableEq D]
    (h : t.checkBinding P messageID payload externalAAD = .ok binding) :
    t.outboundBindings.get messageID = some binding ∧
      (binding = none ∨ binding = some (outboundRecordBindingDigest P payload externalAAD)) := by
  unfold checkBinding at h
  simp only [check_bind_ok_iff] at h
  obtain ⟨-, -, h⟩ := h
  rcases hget : t.outboundBindings.get messageID with _ | found
  all_goals rw [hget] at h
  · cases h
  · simp only [check_bind_ok_iff, pure_ok_iff] at h
    obtain ⟨hbound, rfl⟩ := h
    refine ⟨rfl, ?_⟩
    by_contra hne
    rw [not_or] at hne
    exact hbound hne

/-- A successful sealing under a remembered id. -/
theorem Sound.seal (hinjective : Function.Injective P.hash) (h : Sound P t sealings)
    {sealing : Sealing} (hget : t.outboundBindings.get sealing.messageID = some binding)
    (hbinding : binding = none ∨ binding =
      some (outboundRecordBindingDigest P sealing.payload.val sealing.externalAAD.val))
    (hrecord : t.recordOf P sealing.messageID sealing.payload.val sealing.externalAAD.val =
      some sealing.record) :
    Sound P (t.bindContent P binding sealing.messageID sealing.payload.val
      sealing.externalAAD.val) (sealings ++ [sealing]) := by
  obtain ⟨bindings, bytes, hframe, hself, hothers⟩ := bindContent_frame hget hbinding
  rw [hframe]
  have hmem : sealing.messageID ∈ t.outboundBindingOrder := by
    rw [h.ring.mem_iff, hget]
    rfl
  have hissued (id : Bytes) (hid : t.Issued id) :
      Issued { t with outboundBindings := bindings, sendEpochBytes := bytes } id :=
    hid.mono rfl le_rfl
  -- an earlier sealing of the id is still bound, hence has the same content
  have hagain (earlier : Sealing) (hearlier : earlier ∈ sealings)
      (hid : earlier.messageID = sealing.messageID) :
      earlier.payload = sealing.payload ∧ earlier.externalAAD = sealing.externalAAD := by
    have hbound := h.bound earlier hearlier
    rw [hid, hget] at hbound
    rcases hbound with hnone | hsome
    · cases hnone
    · obtain rfl := some.inj hsome
      rcases hbinding with hnone | hdigest
      · cases hnone
      · exact bindingPreimage_injective (hinjective (some.inj hdigest))
  refine ⟨{ h.ring with mem_iff := ?_ }, h.epoch_lt, h.sequence_le, ?_, ?_, ?_, ?_, ?_⟩
  · intro id
    rw [h.ring.mem_iff]
    by_cases hid : id = sealing.messageID
    · rw [hid, hself, hget]
      exact iff_of_true rfl rfl
    · rw [hothers id hid]
  · exact fun id hid => hissued id (h.issued id hid)
  · exact forall_mem_append.mpr ⟨fun other hother => hissued _ (h.sealed_issued other hother),
      forall_mem_singleton.mpr (hissued _ (h.issued _ hmem))⟩
  · refine forall_mem_append.mpr ⟨fun other hother => ?_, forall_mem_singleton.mpr (.inr hself)⟩
    by_cases hid : other.messageID = sealing.messageID
    · obtain ⟨hpayload, haad⟩ := hagain other hother hid
      rw [hid, hself, hpayload, haad]
      exact .inr rfl
    · rw [hothers _ hid]
      exact h.bound other hother
  · exact forall_mem_append.mpr ⟨h.record, forall_mem_singleton.mpr hrecord⟩
  · refine pairwise_append.mpr ⟨h.same, pairwise_singleton .., ?_⟩
    intro earlier hearlier later hlater hid
    rw [mem_singleton.mp hlater] at hid ⊢
    exact hagain earlier hearlier hid

theorem Sound.step [DecidableEq D] (hinjective : Function.Injective P.hash) (h : Sound P t sealings)
    (event : Event) :
    Sound P (t.step P event).1 (sealings ++ (t.step P event).2.toList) := by
  cases event with
  | newMessageID now =>
    show Sound P (t.newMessageIDLocked now).2 (sealings ++ [])
    rw [append_nil]
    exact h.newMessageIDLocked now
  | encrypt now payload externalAAD messageID =>
    have hresolved := h.resolveMessageID now messageID
    simp only [NoiseCrypto.step, encryptWithMessageIDAndAAD]
    generalize t.resolveMessageID now messageID = result at hresolved
    rcases result with ⟨err | resolved, next⟩
    · rw [toList_none, append_nil]
      exact hresolved
    · simp only
      rcases hcheck : next.checkBinding P resolved payload.val externalAAD.val with err | binding
      · rw [toList_none, append_nil]
        exact hresolved
      · obtain ⟨hget, hbinding⟩ := checkBinding_ok hcheck
        rcases hrecord : next.recordOf P resolved payload.val externalAAD.val with _ | record
        · rw [toList_none, append_nil]
          exact hresolved
        · let sealing : Sealing := ⟨resolved, payload, externalAAD, record⟩
          exact @Sound.seal D P next sealings binding hinjective hresolved sealing hget hbinding
            hrecord

end Sound

/-- A new context after a list of calls, with what was sealed. -/
def run [DecidableEq D] (P : Primitives D) (sendRoot sessionID : Bytes32) (sendDirection : UInt8)
    (now : ℤ) (events : List Event) : NoiseCrypto D × List Sealing :=
  ((runSteps (step P) (new sendRoot sessionID sendDirection now) events).1,
    (runSteps (step P) (new sendRoot sessionID sendDirection now) events).2.filterMap id)

theorem sound_new (P : Primitives D) (sendRoot sessionID : Bytes32) (sendDirection : UInt8)
    (now : ℤ) : Sound P (new sendRoot sessionID sendDirection now) [] where
  ring := ⟨nodup_nil, fun _ => by simp [new], Nat.zero_le _, Nat.zero_lt_succ 65535⟩
  epoch_lt := by show 1 < 2 ^ 32; decide
  sequence_le := Nat.zero_le _
  issued := nofun
  sealed_issued := nofun
  bound := nofun
  record := nofun
  same := List.Pairwise.nil

theorem sound_run [DecidableEq D] {P : Primitives D} (hinjective : Function.Injective P.hash)
    (sendRoot sessionID : Bytes32) (sendDirection : UInt8) (now : ℤ) (events : List Event) :
    Sound P (run P sendRoot sessionID sendDirection now events).1
      (run P sendRoot sessionID sendDirection now events).2 := by
  have hrun := @runSteps_induction _ _ _ (step P) (fun _ _ => True)
    (fun t history => Sound P t (history.filterMap id)) ?_ _ [] events
    (along_of_forall fun _ _ _ => trivial) (sound_new P sendRoot sessionID sendDirection now)
  · exact hrun
  · intro t history event _ h
    rw [filterMap_append]
    have hstep := h.step hinjective event
    rcases houtput : (t.step P event).2 with _ | sealing
    all_goals
      rw [houtput] at hstep
      exact hstep

/-- Within a session the epoch and the sequence determine the id. -/
theorem Issued.messageID_eq {t : NoiseCrypto D} {first second : Bytes} (hfirst : t.Issued first)
    (hsecond : t.Issued second) (hepoch : messageEpoch first = messageEpoch second)
    (hsequence : messageSequence first = messageSequence second) : first = second := by
  rw [← encode_of_parts hfirst.length hfirst.session, hepoch, hsequence,
    encode_of_parts hsecond.length hsecond.session]

/-- Two sealings of one id have the same content, hence the same record. -/
theorem Sound.same_record {P : Primitives D} {t : NoiseCrypto D} {sealings : List Sealing}
    (h : Sound P t sealings) : sealings.Pairwise fun earlier later =>
      earlier.messageID = later.messageID → earlier.record = later.record := by
  refine h.same.imp_of_mem ?_
  intro earlier later hearlier hlater hsame hid
  obtain ⟨hpayload, haad⟩ := hsame hid
  have hrecord := h.record earlier hearlier
  rw [hid, hpayload, haad, h.record later hlater] at hrecord
  exact (some.inj hrecord).symm

end NoiseCrypto

open NoiseCrypto

/-- No nonce is used for two contents: whatever calls a new context gets, two sealings with the same
epoch and sequence have the same payload and external AAD, two sealings of one id are the same
record, and the ring holds exactly the bound ids. -/
theorem nonce_never_reused {D : Type} [DecidableEq D] (P : Primitives D)
    (hinjective : Function.Injective P.hash) (sendRoot sessionID : Bytes32) (sendDirection : UInt8)
    (now : ℤ) (events : List Event) :
    let (t, sealings) := run P sendRoot sessionID sendDirection now events
    (sealings.Pairwise fun earlier later =>
      earlier.epoch = later.epoch → earlier.sequence = later.sequence →
        earlier.payload = later.payload ∧ earlier.externalAAD = later.externalAAD) ∧
    (sealings.Pairwise fun earlier later =>
      earlier.messageID = later.messageID → earlier.record = later.record) ∧
    (∀ messageID, (t.outboundBindings.get messageID).isSome ↔ messageID ∈ t.outboundBindingOrder) ∧
    t.outboundBindingOrder.Nodup ∧ t.outboundBindingOrder.length ≤ 65536 := by
  have hsound := sound_run hinjective sendRoot sessionID sendDirection now events
  refine ⟨?_, hsound.same_record, fun id => (hsound.ring.mem_iff id).symm, hsound.ring.nodup,
    hsound.ring.length_le⟩
  refine hsound.same.imp_of_mem ?_
  intro earlier later hearlier hlater hsame hepoch hsequence
  exact hsame ((hsound.sealed_issued earlier hearlier).messageID_eq
    (hsound.sealed_issued later hlater) hepoch hsequence)

/-- A hash without collisions and a cipher that leaves the payload as it is. -/
def samplePrimitives : Primitives Bytes where
  hash := id
  expand root _ := some root
  aead _ _ _ payload := payload

/-- A content is sealed under a new id, another one is refused under that id, and the first is
sealed once more. -/
def sampleEvents : List Event :=
  [.encrypt 0 ⟨[1], by decide⟩ ⟨[], by decide⟩ [],
    .encrypt 0 ⟨[2], by decide⟩ ⟨[], by decide⟩ (encodeMessageID Bytes32.zero 1 1),
    .encrypt 0 ⟨[1], by decide⟩ ⟨[], by decide⟩ (encodeMessageID Bytes32.zero 1 1)]

/-- The two sealings of the sample have the same nonce and are the same record. -/
theorem nonce_never_reused_sample :
    ((run samplePrimitives Bytes32.zero Bytes32.zero 1 0 sampleEvents).2.map fun sealing =>
      (sealing.epoch, sealing.sequence, sealing.payload.val)) = [(1, 1, [1]), (1, 1, [1])] ∧
    (run samplePrimitives Bytes32.zero Bytes32.zero 1 0 sampleEvents).2.Pairwise
      fun earlier later => earlier.messageID = later.messageID → earlier.record = later.record :=
  ⟨by decide +kernel, (nonce_never_reused samplePrimitives Function.injective_id Bytes32.zero
    Bytes32.zero 1 0 sampleEvents).2.1⟩

end NatP2P.E2E
