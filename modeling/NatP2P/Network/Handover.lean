import NatP2P.Common.Slots
import NatP2P.Network.Stages

/-!
# Delivery safety

Reference: `networkFrameWork/TcpStream.go`.

`SenderInv` ties the calls of `sendMessageWithAckMode` to the parcels of their messages, and the
trackers to the ACK frames that were written. A call returns success when its tracker holds the
number of every frame; then all numbers were acknowledged, and by its stage the message has been
handed over.
-/

namespace NatP2P.Network

open List Option Receiver

/-! ## The frames of a call -/

/-- The payload limits of a stream are too small for the sum in `SplitToFrames` to overflow without
an error. -/
theorem Sending.fits_of_frameSize {s : Sending} (hsplits : s.Splits) (hlow : 500 ≤ s.maxPayload)
    (hhigh : s.maxPayload ≤ 32768) : s.Fits := by
  obtain ⟨body, hbody, -, hcheck, -⟩ := Sending.frames_eq hsplits
  have hlength := Sending.length_body hbody
  have hpayload : effectivePayload s.maxPayload = s.maxPayload := by
    rw [effectivePayload, if_neg (by omega)]
  intro other hother
  rw [hbody] at hother
  obtain rfl := Except.ok.inj hother
  by_contra hover
  rw [hpayload] at hcheck
  unfold maxInt at hlength hover
  -- the wrapped sum is so far below zero that the quotient is not zero
  have hwrap : wrapInt (body.length + s.maxPayload - 1) =
      body.length + s.maxPayload - 1 - 2 ^ 64 := by
    unfold wrapInt
    rw [Int.bmod_def]
    omega
  have hquotient : frameCount body.length s.maxPayload < 0 ∧
      -2 ^ 63 ≤ frameCount body.length s.maxPayload := by
    have hone : 1 ≤ (2 ^ 64 - (body.length + s.maxPayload - 1)) / s.maxPayload :=
      (Int.le_ediv_iff_mul_le (by omega)).mpr (by omega)
    have hle : (2 ^ 64 - (body.length + s.maxPayload - 1)) / s.maxPayload ≤
        2 ^ 64 - (body.length + s.maxPayload - 1) := Int.ediv_le_self _ (by omega)
    rw [frameCount, hwrap, ← Int.neg_sub, Int.neg_tdiv, Int.tdiv_eq_ediv_of_nonneg (by omega)]
    omega
  omega

/-- The frames of a call are pieces of the parcel of its message. -/
structure Send.Carries (s : Send) (p : Parcel) : Prop where
  id : p.messageId = s.messageId
  bytes : s.message.val.parseToBytes = .ok p.chunks.flatten
  pieces : ∀ f ∈ s.frames, p.Piece f
  total : s.tracker.total = p.chunks.length

/-- What becomes of a call carries the same parcel. -/
structure Send.Same (s s' : Send) : Prop where
  messageId : s'.messageId = s.messageId
  carries : ∀ p, s.Carries p → s'.Carries p

/-- The phase of a call and the numbers of its tracker change. -/
theorem Send.same (s : Send) (phase : SendPhase) (tracker : AckTracker)
    (htotal : tracker.total = s.tracker.total) : s.Same { s with phase, tracker } :=
  ⟨rfl, fun _ h => ⟨h.id, h.bytes, h.pieces, htotal.trans h.total⟩⟩

theorem exists_parcel {m : GoMessage} {size : FrameSize} {messageId : ℕ} {frames : List Frame}
    (h : m.val.splitToFrames messageId size = .ok frames) :
    ∃ p : Parcel, p.messageId = messageId ∧ m.val.parseToBytes = .ok p.chunks.flatten ∧
      frames.length = p.chunks.length ∧ ∀ f ∈ frames, p.Piece f := by
  obtain ⟨hlow, hhigh⟩ := size.property
  let sending : Sending := ⟨messageId, m.val, size, by unfold maxInt; omega, m.property⟩
  have hframes : sending.frames = frames := by
    show ((m.val.splitToFrames messageId size).toOption).getD [] = frames
    rw [h]
    rfl
  have hsplits : sending.Splits := by
    show (m.val.splitToFrames messageId size).isOk
    rw [h]
    rfl
  obtain ⟨p, hcuts⟩ := Sending.exists_cuts hsplits (Sending.fits_of_frameSize hsplits hlow hhigh)
  refine ⟨p, hcuts.id, hcuts.bytes, by rw [hcuts.length, hframes], fun f hf => ?_⟩
  exact hcuts.piece (hframes.symm ▸ hf)

variable {f : Frame} {p : Parcel} {s : Send} {l : Link} {id : ℕ}

theorem Parcel.Piece.retransmitted (h : p.Piece f) :
    p.Piece { f with frameType := frameTypeRetransmit } := ⟨h.id, rfl, h.total, h.chunk⟩

/-! ## The invariant of the sender -/

/-- What is known of a call. -/
structure SendInv (world : ℕ → Option Parcel) (acks : List Frame) (s : Send) : Prop where
  parcel : (∃ err, s.phase = .returned (.error err)) ∨
    ∃ p, world s.messageId = some p ∧ s.Carries p
  acked : ∀ seq ∈ s.tracker.acked, Acked acks s.messageId seq
  writing : ∀ attempt frames, s.phase = .writing attempt frames → ∀ f ∈ frames, Known world f
  done : s.phase = .returned (.ok ()) →
    ∀ p, world s.messageId = some p → ∀ seq < p.chunks.length, Acked acks s.messageId seq

/-- What is known of all calls. -/
structure SenderInv (world : ℕ → Option Parcel) (acks : List Frame) (t : Sender) : Prop where
  ids : ∀ n s, t.sends[n]? = some s → s.messageId = n + 1
  calls : ∀ s ∈ t.sends, SendInv world acks s
  known : ∀ id p, world id = some p → ∃ s ∈ t.sends, s.messageId = id ∧ s.Carries p
  pending : ∀ id n, t.pending.get id = some n → ∃ s, t.sends[n]? = some s ∧ s.messageId = id

/-- The invariant of the system. -/
structure LinkInv (world : ℕ → Option Parcel) (l : Link) : Prop where
  sender : SenderInv world l.acks l.sender
  receiver : ReceiverInv world l.acks l.receiver
  data : ∀ f ∈ l.data, Known world f

section Sender

variable {world : ℕ → Option Parcel} {acks more : List Frame} {t : Sender} {s s' : Send} {n : ℕ}

theorem SendInv.mono (h : SendInv world acks s) : SendInv world (acks ++ more) s :=
  ⟨h.parcel, fun seq hseq => (h.acked seq hseq).mono, h.writing,
    fun hdone p hp seq hseq => (h.done hdone p hp seq hseq).mono⟩

theorem SenderInv.mono (h : SenderInv world acks t) : SenderInv world (acks ++ more) t :=
  ⟨h.ids, fun s hs => (h.calls s hs).mono, h.known, h.pending⟩

/-- Calls change one by one. -/
theorem SenderInv.pointwise (h : SenderInv world acks t) {t' : Sender} (change : ℕ → Send → Send)
    (hsends : ∀ n, t'.sends[n]? = (t.sends[n]?).map (change n)) (hpending : t'.pending = t.pending)
    (hchange : ∀ n s, t.sends[n]? = some s →
      s.Same (change n s) ∧ SendInv world acks (change n s)) :
    SenderInv world acks t' := by
  have hget (n : ℕ) (s : Send) (hs : t.sends[n]? = some s) : t'.sends[n]? = some (change n s) := by
    rw [hsends, hs, map_some]
  have hinv (n : ℕ) (s' : Send) (hs' : t'.sends[n]? = some s') :
      ∃ s, t.sends[n]? = some s ∧ change n s = s' := by
    rw [hsends] at hs'
    exact map_eq_some_iff.mp hs'
  refine ⟨?_, ?_, ?_, ?_⟩
  · intro n s' hs'
    obtain ⟨s, hs, rfl⟩ := hinv n s' hs'
    rw [(hchange n s hs).1.messageId]
    exact h.ids n s hs
  · intro s' hs'
    obtain ⟨n, hn⟩ := mem_iff_getElem?.mp hs'
    obtain ⟨s, hs, rfl⟩ := hinv n s' hn
    exact (hchange n s hs).2
  · intro id p hp
    obtain ⟨s, hs, hid, hcarries⟩ := h.known id p hp
    obtain ⟨n, hn⟩ := mem_iff_getElem?.mp hs
    have hsame := (hchange n s hn).1
    exact ⟨_, mem_of_getElem? (hget n s hn), hsame.messageId.trans hid, hsame.carries p hcarries⟩
  · intro id n hn
    rw [hpending] at hn
    obtain ⟨s, hs, hid⟩ := h.pending id n hn
    exact ⟨_, hget n s hs, (hchange n s hs).1.messageId.trans hid⟩

theorem SenderInv.put (h : SenderInv world acks t) (hs : t.sends[n]? = some s)
    (hs' : SendInv world acks s') (hsame : s.Same s') : SenderInv world acks (t.put n s') := by
  refine h.pointwise (fun m other => if m = n then s' else other) (fun m => ?_) rfl ?_
  · by_cases hm : m = n
    · subst hm
      rw [Sender.put, getElem?_set_self (List.getElem?_eq_some_iff.mp hs).1, hs]
      simp
    · rw [Sender.put, getElem?_set_ne (Ne.symm hm)]
      simp [hm]
  · intro m other hother
    by_cases hm : m = n
    · subst hm
      obtain rfl : s = other := mem_unique hs hother
      simp only [if_true]
      exact ⟨hsame, hs'⟩
    · rw [if_neg hm]
      exact ⟨⟨rfl, fun _ => id⟩, h.calls other (mem_of_getElem? hother)⟩

theorem SendInv.carries (h : SendInv world acks s) (hrunning : ∀ result, s.phase ≠ .returned result) :
    ∃ p, world s.messageId = some p ∧ s.Carries p :=
  h.parcel.resolve_left fun ⟨_, herr⟩ => hrunning _ herr

/-- The phase changes and nothing is returned. -/
theorem SendInv.goOn (h : SendInv world acks s) (phase : SendPhase)
    (hrunning : ∀ result, s.phase ≠ .returned result) (hphase : ∀ result, phase ≠ .returned result)
    (hwriting : ∀ attempt frames, phase = .writing attempt frames → ∀ f ∈ frames, Known world f) :
    SendInv world acks { s with phase } := by
  refine ⟨.inr ?_, h.acked, hwriting, fun hdone => absurd hdone (hphase _)⟩
  obtain ⟨p, hp, hcarries⟩ := h.carries hrunning
  exact ⟨p, hp, (s.same phase _ rfl).carries p hcarries⟩

theorem SendInv.track (h : SendInv world acks s) (tracker : AckTracker)
    (htotal : tracker.total = s.tracker.total)
    (hacked : ∀ seq ∈ tracker.acked, Acked acks s.messageId seq) :
    SendInv world acks { s with tracker } := by
  refine ⟨h.parcel.imp_right ?_, hacked, h.writing, h.done⟩
  rintro ⟨p, hp, hcarries⟩
  exact ⟨p, hp, (s.same s.phase tracker htotal).carries p hcarries⟩

theorem Send.Carries.known (h : s.Carries p) (hp : world s.messageId = some p)
    (hf : p.Piece f) : Known world f := by
  refine ⟨p, ?_, hf⟩
  rw [hf.id, h.id]
  exact hp

theorem SenderInv.finish (h : SenderInv world acks t) (hs : t.sends[n]? = some s)
    {result : Except SendError Unit}
    (hresult : SendInv world acks { s' with phase := .returned result }) (hsame : s.Same s') :
    SenderInv world acks (t.finish n s' result) := by
  have hput := h.put hs hresult ⟨hsame.messageId, fun p hp =>
    (s'.same (.returned result) _ rfl).carries p (hsame.carries p hp)⟩
  refine { hput with pending := fun id m hm => hput.pending id m ?_ }
  rw [Sender.finish, GoMap.get_delete] at hm
  split_ifs at hm
  exact hm

theorem SendInv.failed (h : SendInv world acks s) (err : SendError) :
    SendInv world acks { s with phase := .returned (.error err) } where
  parcel := .inl ⟨err, rfl⟩
  acked := h.acked
  writing _ _ hwriting := by cases hwriting
  done hdone := by cases hdone

/-- A complete tracker holds the number of every frame. -/
theorem SendInv.succeeded (h : SendInv world acks s) (hrunning : ∀ result, s.phase ≠ .returned result)
    (hbound : ∀ p, world s.messageId = some p → ∀ seq, Acked acks s.messageId seq →
      seq < p.chunks.length)
    (hcomplete : s.tracker.complete) :
    SendInv world acks { s with phase := .returned (.ok ()) } := by
  obtain ⟨p, hp, hcarries⟩ := h.carries hrunning
  refine ⟨.inr ⟨p, hp, (s.same _ _ rfl).carries p hcarries⟩, h.acked,
    fun _ _ hwriting => (by cases hwriting), fun _ p' hp' seq hseq => ?_⟩
  obtain rfl : p = p' := mem_unique hp hp'
  have hsubset : s.tracker.acked ⊆ Finset.range p.chunks.length := fun other hother =>
    Finset.mem_range.mpr (hbound p hp other (h.acked other hother))
  have hcard := Finset.card_le_card hsubset
  have hshort := p.short
  rw [Finset.card_range] at hcard
  have hge : p.chunks.length ≤ s.tracker.acked.card := by
    have hge : s.tracker.acked.card % 2 ^ 32 ≥ s.tracker.total := by
      simpa [AckTracker.complete] using hcomplete
    rwa [Nat.mod_eq_of_lt (by omega), hcarries.total] at hge
  have hall : s.tracker.acked = Finset.range p.chunks.length :=
    Finset.eq_of_subset_of_card_le hsubset (by rwa [Finset.card_range])
  exact h.acked seq (hall ▸ Finset.mem_range.mpr hseq)

/-- The frames of a retransmission are frames of the call. -/
theorem Send.Carries.retransmission (h : s.Carries p)
    (hf : f ∈ Sender.retransmission s) : p.Piece f := by
  obtain ⟨g, hg, rfl⟩ := mem_map.mp hf
  obtain ⟨seq, -, hseq⟩ := mem_filterMap.mp hg
  exact (h.pieces g (mem_of_getElem? hseq)).retransmitted

/-- A step of a call keeps the invariant and writes known frames. -/
theorem SenderInv.sendStep (h : SenderInv world acks t) (hs : t.sends[n]? = some s)
    (hbound : ∀ p, world s.messageId = some p → ∀ seq, Acked acks s.messageId seq →
      seq < p.chunks.length)
    (event : Sender.SendEvent) :
    SenderInv world acks (t.sendStep n s event).1 ∧
      ∀ f ∈ (t.sendStep n s event).2, Known world f := by
  have hcall := h.calls s (mem_of_getElem? hs)
  have hnone : ∀ f ∈ ([] : List Frame), Known world f := nofun
  have hsame (phase : SendPhase) : s.Same { s with phase } := s.same phase _ rfl
  unfold Sender.sendStep
  split
  · -- the tracker is registered
    rename_i hphase
    have hrunning : ∀ result, s.phase ≠ .returned result := by simp [hphase]
    obtain ⟨p, hp, hcarries⟩ := hcall.carries hrunning
    have hnext : SendInv world acks { s with phase := .writing 0 s.frames } := by
      refine hcall.goOn _ hrunning (by simp) ?_
      rintro attempt frames heq f hf
      obtain ⟨-, rfl⟩ := SendPhase.writing.inj heq
      exact hcarries.known hp (hcarries.pieces f hf)
    have hput := h.put hs hnext (hsame _)
    refine ⟨{ hput with pending := fun id m hm => ?_ }, hnone⟩
    rcases GoMap.get_set_eq_some.mp hm with ⟨rfl, rfl⟩ | ⟨-, hold⟩
    · exact ⟨_, getElem?_set_self (List.getElem?_eq_some_iff.mp hs).1, rfl⟩
    · exact hput.pending id m hold
  · rename_i attempt frames hphase
    have hrunning : ∀ result, s.phase ≠ .returned result := by simp [hphase]
    exact ⟨h.put hs (hcall.goOn (.waiting attempt) hrunning (by simp) (by simp)) (hsame _),
      hcall.writing attempt frames hphase⟩
  · rename_i attempt frames accepted hphase
    exact ⟨h.finish hs (hcall.failed _) (hsame s.phase), fun f hf =>
      hcall.writing attempt frames hphase f (mem_of_mem_take hf)⟩
  · rename_i attempt hphase
    have hrunning : ∀ result, s.phase ≠ .returned result := by simp [hphase]
    -- the signal is taken first, whether or not the tracker is complete
    have hsameReceived : s.Same s.receive := s.same s.phase _ rfl
    have hreceived : SendInv world acks s.receive := hcall.track _ rfl hcall.acked
    split_ifs with hsignal hcomplete
    · exact ⟨h.finish hs (hreceived.succeeded hrunning hbound hcomplete) hsameReceived, hnone⟩
    · exact ⟨h.put hs hreceived hsameReceived, hnone⟩
    · exact ⟨h, hnone⟩
  · rename_i attempt hphase
    have hrunning : ∀ result, s.phase ≠ .returned result := by simp [hphase]
    obtain ⟨p, hp, hcarries⟩ := hcall.carries hrunning
    split_ifs with hcomplete hattempt
    · exact ⟨h.finish hs (hcall.succeeded hrunning hbound hcomplete) (hsame s.phase), hnone⟩
    · exact ⟨h.finish hs (hcall.failed _) (hsame s.phase), hnone⟩
    · refine ⟨h.put hs (hcall.goOn (.writing (attempt + 1) _) hrunning (by simp) ?_)
        (hsame _), hnone⟩
      rintro attempt frames heq f hf
      obtain ⟨-, rfl⟩ := SendPhase.writing.inj heq
      exact hcarries.known hp (hcarries.retransmission hf)
  · exact ⟨h.finish hs (hcall.failed _) (hsame s.phase), hnone⟩
  · split_ifs
    · exact ⟨h.finish hs (hcall.failed _) (hsame s.phase), hnone⟩
    · exact ⟨h, hnone⟩
  · exact ⟨h, hnone⟩

theorem SenderInv.failAndClose (h : SenderInv world acks t) :
    SenderInv world acks t.failAndClose := by
  refine h.pointwise (fun n s => if t.pending.get s.messageId = some n then
    { s with tracker := { s.tracker with signalled := true } } else s) (fun n => ?_) rfl ?_
  · exact getElem?_mapIdx
  · intro n s hs
    have hcall := h.calls s (mem_of_getElem? hs)
    split_ifs
    · exact ⟨s.same s.phase _ rfl, hcall.track _ rfl hcall.acked⟩
    · exact ⟨⟨rfl, fun _ => id⟩, hcall⟩

theorem SenderInv.handleAck (h : SenderInv world acks t) (hf : f ∈ acks) :
    SenderInv world acks (t.handleAck f) := by
  unfold Sender.handleAck
  rcases hpending : t.pending.get f.messageId with _ | n
  · exact h
  · rcases hdecode : decodeAckRanges f.payload with err | ranges
    · exact h.failAndClose
    · obtain ⟨s, hs, hid⟩ := h.pending f.messageId n hpending
      refine h.pointwise (fun m other => if m = n then
        { other with tracker := other.tracker.update ranges } else other) (fun m => ?_) rfl ?_
      · show (t.sends.modify n _)[m]? = _
        by_cases hm : m = n
        · simp [hm]
        · simp [hm, Ne.symm hm]
      · intro m other hother
        have hcall := h.calls other (mem_of_getElem? hother)
        split_ifs with hm
        · subst hm
          obtain rfl : s = other := mem_unique hs hother
          refine ⟨s.same s.phase _ rfl, hcall.track _ rfl fun seq hseq => ?_⟩
          rcases Finset.mem_union.mp hseq with hseq | hseq
          · exact hcall.acked seq hseq
          · exact ⟨f, hf, hid.symm, ranges, hdecode, hseq⟩
        · exact ⟨⟨rfl, fun _ => id⟩, hcall⟩

end Sender

/-! ## A new message -/

section Start

variable {world : ℕ → Option Parcel} {acks : List Frame} {id : ℕ} {p : Parcel} {t : Sender}

/-- The parcels that are already known do not change. -/
theorem Known.extend (h : Known world f) (hnew : world id = none) :
    Known (Function.update world id (some p)) f := by
  obtain ⟨q, hq, hf⟩ := h
  refine ⟨q, ?_, hf⟩
  rw [Function.update_of_ne]
  · exact hq
  · rintro rfl
    rw [hnew] at hq
    cases hq

/-- A message that nobody knows becomes one of which no frame has arrived. -/
theorem ReceiverInv.extend {r : Receiver} (h : ReceiverInv world acks r) (hnew : world id = none) :
    ReceiverInv (Function.update world id (some p)) acks r := by
  refine ⟨fun other => ?_, ?_, h.inRange⟩
  · by_cases hother : other = id
    · subst hother
      rw [Function.update_self]
      have hstage := h.stage other
      rw [hnew] at hstage
      generalize r.view other = v at hstage
      cases hstage with
      | untouched hpromised => exact .collecting .empty fun seq hseq => absurd hseq (hpromised seq)
    · rw [Function.update_of_ne hother]
      exact h.stage other
  · have hfits := h.fits
    generalize r.read = read at hfits
    cases read with
    | checked f => exact ⟨hfits.1.extend hnew, hfits.2⟩
    | added | tracked | untracked => exact Known.extend hfits hnew
    | marked f message => exact ⟨hfits.1.extend hnew, hfits.2⟩
    | _ => exact hfits

theorem SendInv.extend (h : SendInv world acks s) (hid : s.messageId ≠ id)
    (hnew : world id = none) : SendInv (Function.update world id (some p)) acks s := by
  refine ⟨?_, h.acked, fun attempt frames hphase f hf =>
    (h.writing attempt frames hphase f hf).extend hnew, ?_⟩
  · rw [Function.update_of_ne hid]
    exact h.parcel
  · rw [Function.update_of_ne hid]
    exact h.done

theorem SenderInv.concat {world' : ℕ → Option Parcel}
    (h : SenderInv world acks t) (hid : s.messageId = t.sends.length + 1)
    (hold : ∀ other ∈ t.sends, SendInv world' acks other) (hs : SendInv world' acks s)
    (hworld : ∀ id p, world' id = some p → world id = some p ∨ s.messageId = id ∧ s.Carries p) :
    SenderInv world' acks { t with sends := t.sends ++ [s] } := by
  refine ⟨?_, ?_, ?_, ?_⟩
  · intro n other hother
    rcases getElem?_append_cases hother with ⟨rfl, rfl⟩ | ⟨-, hearlier⟩
    · exact hid
    · exact h.ids n other hearlier
  · exact forall_mem_append.mpr ⟨hold, forall_mem_singleton.mpr hs⟩
  · intro id p hp
    rcases hworld id p hp with hp | ⟨hid, hcarries⟩
    · obtain ⟨other, hother, hrest⟩ := h.known id p hp
      exact ⟨other, mem_append_left _ hother, hrest⟩
    · exact ⟨s, mem_append_right _ (mem_singleton_self s), hid, hcarries⟩
  · intro id n hn
    obtain ⟨other, hother, hrest⟩ := h.pending id n hn
    exact ⟨other, getElem?_append_of_some hother _, hrest⟩

theorem SenderInv.next_unknown (h : SenderInv world acks t) :
    world (t.sends.length + 1) = none := by
  by_contra hknown
  obtain ⟨p, hp⟩ := ne_none_iff_exists'.mp hknown
  obtain ⟨s, hs, hid, -⟩ := h.known _ p hp
  obtain ⟨n, hn⟩ := mem_iff_getElem?.mp hs
  have hlt := (List.getElem?_eq_some_iff.mp hn).1
  have heq := h.ids n s hn
  omega

/-- A call takes an id, unless it is refused at once. -/
theorem Sender.length_start (t : Sender) (m : GoMessage) (size : FrameSize) :
    (t.start m size).sends.length =
      t.sends.length + if t.closed ∨ m.val.header.billingSequence ≠ 0 then 0 else 1 := by
  unfold Sender.start
  split_ifs
  · rfl
  · dsimp only
    split <;> exact length_append

theorem LinkInv.start (h : LinkInv world l) (m : GoMessage) (size : FrameSize)
    (hcount : (l.sender.start m size).sends.length < 2 ^ 64) :
    ∃ world', LinkInv world' { l with sender := l.sender.start m size } := by
  rw [Sender.length_start] at hcount
  unfold Sender.start
  split_ifs with hrefused
  · exact ⟨world, h.sender, h.receiver, h.data⟩
  · rw [if_neg hrefused] at hcount
    simp only [Nat.mod_eq_of_lt hcount]
    rcases hsplit : m.val.splitToFrames (l.sender.sends.length + 1) size with reason | frames
    · refine ⟨world, h.sender.concat rfl h.sender.calls ?_ fun id p hp => .inl hp, h.receiver, h.data⟩
      exact ⟨.inl ⟨_, rfl⟩, fun seq hseq => absurd hseq (Finset.notMem_empty seq),
        fun _ _ hwriting => (by cases hwriting), nofun⟩
    · obtain ⟨p, hid, hbytes, hlength, hpieces⟩ := exists_parcel hsplit
      have hnew := h.sender.next_unknown
      have hcarries : Send.Carries ⟨l.sender.sends.length + 1, m, frames.map (l.sender.stamp m),
          .new (frames.length % 2 ^ 32), .registering⟩ p := by
        refine ⟨hid, hbytes, fun f hf => ?_, ?_⟩
        · obtain ⟨g, hg, rfl⟩ := mem_map.mp hf
          -- the connection id of a frame does not matter for a piece
          exact ⟨(hpieces g hg).id, (hpieces g hg).carries, (hpieces g hg).total, (hpieces g hg).chunk⟩
        · show frames.length % 2 ^ 32 = _
          rw [hlength, Nat.mod_eq_of_lt p.short]
      refine ⟨Function.update world (l.sender.sends.length + 1) (some p),
        h.sender.concat rfl ?_ ?_ ?_, h.receiver.extend hnew, fun f hf => (h.data f hf).extend hnew⟩
      · intro other hother
        obtain ⟨n, hn⟩ := mem_iff_getElem?.mp hother
        have hlt := (List.getElem?_eq_some_iff.mp hn).1
        have heq := h.sender.ids n other hn
        exact (h.sender.calls other hother).extend (by omega) hnew
      · exact ⟨.inr ⟨p, Function.update_self .., hcarries⟩,
          fun seq hseq => absurd hseq (Finset.notMem_empty seq),
          fun _ _ hwriting => (by cases hwriting), nofun⟩
      · intro id q hq
        by_cases hother : id = l.sender.sends.length + 1
        · subst hother
          rw [Function.update_self] at hq
          obtain rfl := some.inj hq
          exact .inr ⟨rfl, hcarries⟩
        · rw [Function.update_of_ne hother] at hq
          exact .inl hq

end Start

/-! ## Runs -/

section Run

variable {world : ℕ → Option Parcel} {l : Link}

/-- Only numbers of frames are acknowledged. -/
theorem LinkInv.acked_lt (h : LinkInv world l) (hp : world id = some p)
    {seq : ℕ} (hseq : Acked l.acks id seq) : seq < p.chunks.length := by
  have hstage := h.receiver.stage id
  rw [hp] at hstage
  exact hstage.promised_lt (.inl hseq)

theorem LinkInv.received (h : LinkInv world l) {result : Receiver × Option Frame}
    (hresult : ReceiverInv world (l.acks ++ result.2.toList) result.1) :
    LinkInv world (l.received result) :=
  ⟨h.sender.mono, hresult, h.data⟩

theorem LinkInv.step (h : LinkInv world l) (event : Link.Event)
    (hcount : (l.step event).sender.sends.length < 2 ^ 64) : ∃ world', LinkInv world' (l.step event) := by
  cases event with
  | send m size => exact h.start m size hcount
  | call n event =>
    refine ⟨world, ?_⟩
    simp only [Link.step]
    rcases hs : l.sender.sends[n]? with _ | s
    · exact h
    · obtain ⟨hsender, hdata⟩ := h.sender.sendStep hs (fun p hp seq hseq => h.acked_lt hp hseq) event
      refine ⟨hsender, h.receiver, fun f hf => ?_⟩
      exact (mem_append.mp hf).elim (h.data f) (hdata f)
  | closeSender => exact ⟨world, h.sender.failAndClose, h.receiver, h.data⟩
  | ackArrives f =>
    refine ⟨world, ?_⟩
    simp only [Link.step]
    split_ifs with hf
    · exact ⟨h.sender.handleAck hf, h.receiver, h.data⟩
    · exact h
  | dataArrives order f =>
    refine ⟨world, ?_⟩
    simp only [Link.step]
    split_ifs with hf
    · exact ⟨h.sender, h.receiver.handleFrame (h.data f hf), h.data⟩
    · exact h
  | read turn => exact ⟨world, h.received h.receiver.readStep⟩
  | timer turn => exact ⟨world, h.received h.receiver.timerStep⟩
  | nextMessage | closeReceiver =>
    exact ⟨world, h.sender, h.receiver.shrink h.receiver.stage h.receiver.fits fun _ => id, h.data⟩
  | ackFirstMessage turn => exact ⟨world, h.received h.receiver.ackFirstMessage⟩
  | startLoops => exact ⟨world, h.sender, h.receiver.startLoops, h.data⟩

end Run

/-! ## Streams without a first message -/

/-- The loops were started with the stream. -/
def Receiver.Started (r : Receiver) : Prop := r.first = none ∧ r.read ≠ .accepting

namespace Receiver

variable {r : Receiver} {turn : Turn}

theorem Started.handleFrame (h : r.Started) (order : GoMap.Order ℕ) (f : Frame) :
    (r.handleFrame order f).Started := by
  unfold Receiver.handleFrame
  by_cases hclosed : r.closed
  · rw [if_pos hclosed]
    exact h
  · rw [if_neg hclosed]
    split
    · rename_i hread
      exact absurd hread h.2
    · split_ifs <;> exact ⟨h.1, by simp⟩
    · exact h

theorem Started.readStep (h : r.Started) : (r.readStep turn).1.Started := by
  unfold Receiver.readStep
  split
  · split <;> exact ⟨h.1, by simp [Receiver.stop]⟩
  · exact ⟨h.1, by simp⟩
  · exact ⟨h.1, by simp⟩
  · exact ⟨h.1, by simp⟩
  · split_ifs
    · exact ⟨h.1, by simp [Receiver.stop]⟩
    · exact ⟨h.1, by simp⟩
    · exact h
  · split_ifs
    · split <;> exact ⟨h.1, by simp⟩
    · exact ⟨h.1, by simp⟩
  · exact ⟨h.1, by simp⟩
  · split <;> exact ⟨h.1, by simp [Receiver.stop]⟩
  · exact h

theorem Started.timerStep (h : r.Started) : (r.timerStep turn).1.Started := by
  unfold Receiver.timerStep
  split
  · split_ifs <;> exact h
  · exact h
  · split <;> exact h
  · split <;> exact h
  · exact h

theorem Started.step (h : l.receiver.Started) (event : Link.Event) :
    (l.step event).receiver.Started := by
  cases event with
  | call n event =>
    simp only [Link.step]
    split <;> exact h
  | ackArrives f =>
    simp only [Link.step]
    split_ifs <;> exact h
  | dataArrives order f =>
    simp only [Link.step]
    split_ifs
    · exact h.handleFrame order f
    · exact h
  | read turn => exact h.readStep
  | timer turn => exact h.timerStep
  | ackFirstMessage turn =>
    show (l.receiver.ackFirstMessage turn).1.Started
    rw [ackFirstMessage, h.1]
    exact h
  | startLoops =>
    show l.receiver.startLoops.Started
    unfold startLoops
    split
    · exact ⟨h.1, by simp⟩
    · exact h
  | _ => exact h

end Receiver

/-- The message is what `ParseMessage` makes of the bytes of the call's message. -/
structure Send.Delivers (s : Send) (message : Message) : Prop where
  bytes : ∃ body, s.message.val.parseToBytes = .ok body ∧ parseMessage body = .ok message
  payload : message.payload = s.message.val.payload

theorem Send.Carries.delivers (h : s.Carries p) : s.Delivers p.message := by
  refine ⟨⟨_, h.bytes, p.parses⟩, ?_⟩
  have hbytes := h.bytes
  have hparses := p.parses
  unfold Message.parseToBytes at hbytes
  unfold parseMessage at hparses
  simp only [bind_ok_iff, pure_ok_iff] at hbytes hparses
  obtain ⟨encoded, hencoded, hbytes⟩ := hbytes
  obtain ⟨header, -, hmessage⟩ := hparses
  obtain ⟨-, -, -, -, rfl⟩ := Header.parseToBytes_ok hencoded
  rw [← hmessage, ← hbytes]
  exact drop_left' (length_fitTo ..)

section Handed

variable {world : ℕ → Option Parcel} {l : Link}

variable (h : LinkInv world l)
include h

theorem LinkInv.carries (hp : world id = some p) :
    ∃ s ∈ l.sender.sends, s.messageId = id ∧ s.Delivers p.message := by
  obtain ⟨s, hs, hid, hcarries⟩ := h.sender.known id p hp
  exact ⟨s, hs, hid, hcarries.delivers⟩

end Handed

/-- Maps are visited in ascending order. -/
def ascending : GoMap.Order ℕ := .numbers

/-- A turn in which everything succeeds. -/
def sampleTurn : Turn := ⟨ascending, 0, false, true⟩

/-- A message that fits into one frame. -/
def sampleContent (payload : UInt8) : GoMessage :=
  ⟨{ sampleMessage with payload := [payload] }, by
    show ((headerLength : ℕ) + (1 : ℕ) : ℤ) ≤ maxInt
    decide⟩

/-- The frame of the message under id 1. -/
def sampleFrameOf (payload : UInt8) : Frame where
  messageId := 1
  seqId := 0
  totalFrames := 1
  ackId := 0
  frameType := frameTypeData
  connectionId := []
  payload := ((sampleContent payload).val.parseToBytes.toOption).getD []

/-- Its acknowledgement. -/
def sampleAck : Frame where
  messageId := 1
  seqId := 0
  totalFrames := 1
  ackId := 0
  frameType := frameTypeAck
  connectionId := []
  payload := [1, 0, 0, 0, 0, 0, 0, 0, 0, 0]

def sampleSize : FrameSize := ⟨500, by decide⟩

/-- The same message is the first one of a stream that `AcceptTcpStreamSync` makes. -/
def sampleAccept : List Link.Event :=
  [.send (sampleContent 7) sampleSize, .call 0 .register, .call 0 (.write none),
    .dataArrives ascending (sampleFrameOf 7), .ackFirstMessage sampleTurn, .ackArrives sampleAck,
    .call 0 .signal]

end NatP2P.Network
