import NatP2P.RelayNode.StripedAccept.Assembly

/-!
# Runs of the relay that collects legs

Every step keeps `Inv`. So a connection is made of the legs of one attempt, and a leg that is
nowhere any more was closed, or is about to be.

Reference: `p2pnode/impl/relaynode/relay_node.go`.
-/

namespace NatP2P.RelayNode

open List

/-- A call that is about to take the lock has decoded the index of its leg. -/
def AcceptedLeg.Decoded (l : AcceptedLeg) : Prop :=
  ∀ attempt index, l.call = .checked attempt index →
    decodeStripedLegIndex l.info.legIndex l.info.legCount = (attempt, index, true)

namespace StripedNode

variable {leg index : ℕ}

section

variable {n : StripedNode} {l : AcceptedLeg} {other : ℕ}

theorem decoded_modify (h : ∀ l ∈ n.legs, l.Decoded) {f : AcceptedLeg → AcceptedLeg}
    (hf : ∀ l, n.legs[leg]? = some l → l.Decoded → (f l).Decoded) :
    ∀ l ∈ n.legs.modify leg f, l.Decoded := by
  intro l hl
  obtain ⟨other, hother⟩ := mem_iff_getElem?.mp hl
  obtain ⟨l', hl', rfl⟩ := getElem?_modify_cases hother
  have hold := h l' (mem_of_getElem? hl')
  split_ifs with hsame
  · exact hf l' (hsame ▸ hl') hold
  · exact hold

theorem decoded_closeLeg (h : ∀ l ∈ n.legs, l.Decoded) (leg : ℕ) :
    ∀ l ∈ (n.closeLeg leg).legs, l.Decoded :=
  decoded_modify h fun _ _ hl => hl

theorem decoded_setCall (h : ∀ l ∈ n.legs, l.Decoded) (leg : ℕ) {call : CollectCall}
    (hcall : call.entered = true) : ∀ l ∈ (n.setCall leg call).legs, l.Decoded := by
  refine decoded_modify h fun l _ _ attempt index hchecked => ?_
  rw [show call = .checked attempt index from hchecked] at hcall
  cases hcall

/-- The critical section only moves the call of the leg on. -/
theorem legs_collectLocked (leg : ℕ) (st : LegInfo) (attempt legIndex : ℕ) :
    (n.collectLocked leg st attempt legIndex).legs = n.legs ∨ ∃ call, call.entered = true ∧
        (n.collectLocked leg st attempt legIndex).legs = (n.setCall leg call).legs := by
  have hkeep : ∀ (n' : StripedNode) (sa : ℕ) (created : Bool) (stale : List ℕ), n'.legs = n.legs →
      (n'.keep leg st legIndex sa created stale).legs = n.legs ∨ ∃ call, call.entered = true ∧
        (n'.keep leg st legIndex sa created stale).legs = (n.setCall leg call).legs := by
    intro n' sa created stale hlegs
    rw [keep]
    split
    · exact .inl hlegs
    · split_ifs <;> exact .inr ⟨_, rfl, congrArg (modify · leg _) hlegs⟩
  rw [collectLocked]
  split
  · exact hkeep _ _ _ _ rfl
  · split
    · exact .inl rfl
    · split_ifs
      · exact .inr ⟨_, rfl, rfl⟩
      · exact hkeep _ _ _ _ rfl
      · exact .inr ⟨_, rfl, rfl⟩
      · exact hkeep _ _ _ _ rfl
      · exact .inr ⟨_, rfl, rfl⟩

theorem getElem?_closeLeg (hl : n.legs[other]? = some l) :
    (n.closeLeg leg).legs[other]? = some { l with closed := l.closed || leg == other } := by
  rw [closeLeg, getElem?_modify_of_some hl]
  split_ifs with hsame
  · simp [hsame]
  · simp [beq_false_of_ne hsame]

theorem closed_closeLeg (hl : (n.closeLeg leg).legs[leg]? = some l) : l.closed = true := by
  obtain ⟨l', -, rfl⟩ := getElem?_modify_cases hl
  rw [if_pos rfl]

/-- Closing one of the legs that are to be closed. -/
theorem mem_eraseIdx_or_closed {rest : List ℕ} {pick : ℕ} (hpick : rest[pick]? = some leg)
    (hother : other ∈ rest) : other ∈ rest.eraseIdx pick ∨
      ∀ l, (n.closeLeg leg).legs[other]? = some l → l.closed = true := by
  rcases mem_eraseIdx_or hpick hother with hmem | rfl
  · exact .inl hmem
  · exact .inr fun l hl => closed_closeLeg hl

theorem Inv.collect (h : n.Inv []) (hdecoded : ∀ l ∈ n.legs, l.Decoded)
    (hl : n.legs[leg]? = some l) (pick : ℕ) (ok : Bool) : (n.collect leg l pick ok).Inv [] := by
  have hclosed : (n.closeLeg leg).legs[leg]? = some { l with closed := true } := by
    rw [getElem?_closeLeg hl, beq_self_eq_true, Bool.or_true]
  -- a call that has nothing to close and does not own its leg, or has closed it
  have hsimple : ∀ call : CollectCall, l.call.discards = [] → call.discards = [] →
      (call.entered = true ∨ l.call.entered = false) →
      (l.call.owns = true → call.owns = true ∨ l.closed = true) → (n.setCall leg call).Inv [] := by
    intro call hold hnew hentered howns
    exact h.setCall hl hentered (by simp [hnew]) (by simp [hold]) howns
  have hclose : l.call.discards = [] → ((n.closeLeg leg).setCall leg .returned).Inv [] := by
    intro hold
    exact (h.closeLeg leg).setCall hclosed (.inl rfl) nofun (by simp [hold]) fun _ => .inr rfl
  rw [StripedNode.collect]
  split
  next hcall =>
    have hnone : l.call.discards = [] := by rw [hcall]; rfl
    have hnot : l.call.entered = false := by rw [hcall]; rfl
    split
    split_ifs with hinvalid hdone
    · exact hclose hnone
    · exact hsimple _ hnone rfl (.inr hnot) fun _ => .inr hdone
    · exact hsimple _ hnone rfl (.inr hnot) fun _ => .inl rfl
  next attempt index hcall =>
    exact h.collectLocked hl hcall (hdecoded l (mem_of_getElem? hl) attempt index hcall)
  next hcall => exact hclose (by rw [hcall]; rfl)
  next sa created hcall =>
    have hguards : ∀ g ∈ (if created then [Guard.expiring l.info.streamID sa] else []) ++
        [.watching l.info.streamID sa leg], g.discards = [] := by
      cases created <;> simp [Guard.discards]
    have hstart := (hsimple .returned (by rw [hcall]; rfl) rfl (.inl rfl)
      (by rw [hcall]; nofun)).start hguards
    rw [← append_assoc] at hstart
    exact hstart
  next readyLegs hcall =>
    refine hsimple _ (by rw [hcall]; rfl) ?_ (.inl ?_) (by rw [hcall]; nofun)
    · split_ifs <;> rfl
    · split_ifs <;> rfl
  next stale verdict _ _ _ hcall =>
    split
    next => exact h
    next other hpick =>
      refine (h.closeLeg other).setCall (getElem?_closeLeg hl) (.inl rfl) ?_ ?_ ?_
      · intro x hx
        rw [hcall]
        exact .inl (mem_of_mem_eraseIdx hx)
      · rw [hcall]
        rintro x (hx | hx)
        · exact mem_eraseIdx_or_closed hpick hx
        · cases hx
      · rw [hcall]
        cases verdict
        · exact fun _ => .inl rfl
        · nofun
        · nofun
  next hcall => exact hsimple _ (by rw [hcall]; rfl) rfl (.inl rfl) (by rw [hcall]; nofun)
  next other rest hcall =>
    refine (h.closeLeg other).setCall (getElem?_closeLeg hl) (.inl rfl) nofun ?_ ?_
    · rw [hcall]
      rintro x (hx | hx) <;> cases hx
    · rw [hcall]
      nofun
  next => exact h

theorem Inv.wake (h : n.Inv []) {guard : ℕ} {g : Guard} (hg : n.guards[guard]? = some g)
    (wakeup : Wakeup) (pick : ℕ) : (n.wake guard g wakeup pick).Inv [] := by
  have hsimple : ∀ g' : Guard, g.discards = [] → g'.discards = [] →
      (n.setGuard guard g').Inv [] := by
    intro g' hold hnew
    exact h.setGuard hg (by simp [hnew]) (by simp [hold])
  have hwakes : ∀ sa ended connID g', n.wakes sa ended (.discarding connID sa) wakeup = some g' →
      g'.discards = [] := by
    intro sa ended connID g' hwakes
    cases wakeup <;>
    · rw [wakes] at hwakes
      split_ifs at hwakes
      obtain rfl := Option.some.inj hwakes
      rfl
  rw [StripedNode.wake.eq_def]
  split
  next connID sa leg =>
    split
    next g' hg' => exact hsimple g' rfl (hwakes _ _ _ _ hg')
    next => exact h
  next connID sa =>
    split
    next g' hg' => exact hsimple g' rfl (hwakes _ _ _ _ hg')
    next => exact h
  next connID sa =>
    split_ifs with hget
    · obtain ⟨a, ha, -⟩ := h.waiting connID sa hget
      rw [ha]
      refine (h.drop hget ha).setGuard hg (fun _ => .inr) ?_
      rintro other (hmem | hmem)
      · cases hmem
      · exact .inl hmem
    · exact hsimple _ rfl rfl
  next => exact hsimple _ rfl rfl
  next rest _ =>
    split
    next => exact h
    next leg hpick =>
      refine (h.closeLeg leg).setGuard hg (fun x hx => .inl (mem_of_mem_eraseIdx hx)) ?_
      rintro x (hx | hx)
      · exact mem_eraseIdx_or_closed hpick hx
      · cases hx
  next => exact h

theorem decoded_step (h : ∀ l ∈ n.legs, l.Decoded) (event : StripedEvent) :
    ∀ l ∈ (n.step event).1.legs, l.Decoded := by
  cases event with
  | arrive info =>
    refine forall_mem_append.mpr ⟨h, forall_mem_singleton.mpr ?_⟩
    intro attempt index hcall
    cases hcall
  | collect leg pick ok =>
    simp only [step]
    split
    next => exact h
    next l hl =>
      simp only [collect]
      split
      next =>
        split_ifs with hinvalid
        · exact decoded_setCall (decoded_closeLeg h leg) leg rfl
        · exact decoded_setCall h leg rfl
        · -- the call goes on with what it has decoded
          refine decoded_modify h fun l' hl' _ attempt' index' hcall => ?_
          obtain rfl := Option.mem_unique hl hl'
          rw [not_or, Bool.not_eq_false] at hinvalid
          cases hcall
          exact Prod.ext rfl (Prod.ext rfl hinvalid.2)
      next attempt index _ =>
        rcases legs_collectLocked leg l.info attempt index with hsame | ⟨call, hcall, hnew⟩
        · rw [hsame]
          exact h
        · rw [hnew]
          exact decoded_setCall h leg hcall
      next => exact decoded_setCall (decoded_closeLeg h leg) leg rfl
      next => exact decoded_setCall h leg rfl
      next => exact decoded_setCall h leg (by split_ifs <;> rfl)
      next =>
        split
        · exact h
        · exact decoded_setCall (decoded_closeLeg h _) leg rfl
      next => exact decoded_setCall h leg rfl
      next => exact decoded_setCall (decoded_closeLeg h _) leg rfl
      next => exact h
  | wake guard wakeup pick =>
    simp only [step]
    split
    next => exact h
    next =>
      simp only [wake]
      repeat' split
      all_goals first | exact h | exact decoded_closeLeg h _
  | close leg => exact decoded_closeLeg h leg
  | shutdown => exact h

theorem Inv.step (h : n.Inv []) (hdecoded : ∀ l ∈ n.legs, l.Decoded) (event : StripedEvent) :
    (n.step event).1.Inv [] := by
  cases event with
  | arrive info => exact h.arrive info
  | collect leg pick ok =>
    simp only [StripedNode.step]
    split
    next => exact h
    next l hl => exact h.collect hdecoded hl pick ok
  | wake guard wakeup pick =>
    simp only [StripedNode.step]
    split
    next => exact h
    next g hg => exact h.wake hg wakeup pick
  | close leg => exact h.closeLeg leg
  | shutdown => exact { h with }

end

theorem inv_run (events : List StripedEvent) : (run events).Inv [] := by
  have hstart : new.Inv [] ∧ ∀ l ∈ new.legs, l.Decoded := ⟨inv_new, nofun⟩
  refine (runSteps_invariant (motive := fun n : StripedNode => n.Inv [] ∧ ∀ l ∈ n.legs, l.Decoded) hstart ?_
    events).1
  rintro n event ⟨h, hdecoded⟩
  exact ⟨h.step hdecoded event, decoded_step hdecoded event⟩

/-! ## What the connections are made of -/

/-- A leg waits in `stripedLegs`. -/
def Waits (n : StripedNode) (leg : ℕ) : Prop := ∃ sa index, n.InSet sa index leg ∧ n.Waiting sa

/-- A connection was made of a leg. -/
def InConnection (n : StripedNode) (leg : ℕ) : Prop := ∃ c ∈ n.assembled, some leg ∈ c.legs

/-- A connection has the legs `0..want-1` of one attempt, which agree in all that they know. -/
structure Consistent (n : StripedNode) (c : Assembly) (attempt want : ℕ) (target pubKey : Bytes)
    (flags : ℕ) : Prop where
  low : 2 ≤ want
  high : want ≤ poolMaxConns
  count : c.legs.length = want
  legs : ∀ index < want, ∃ leg l, c.legs[index]? = some (some leg) ∧ n.legs[leg]? = some l ∧
    l.info.streamID = c.connID ∧
    decodeStripedLegIndex l.info.legIndex l.info.legCount = (attempt, index, true) ∧
    l.info.legCount = want ∧ l.info.targetNodeID = target ∧ l.info.originPubKey = pubKey ∧
    l.info.legFlags = flags

theorem of_decodeStripedLegIndex {encoded legCount : ℤ} {attempt : ℕ}
    (h : decodeStripedLegIndex encoded legCount = (attempt, index, true)) :
    2 ≤ legCount ∧ legCount ≤ poolMaxConns ∧ (index : ℤ) < legCount := by
  rw [decodeStripedLegIndex] at h
  split_ifs at h with hinvalid
  · cases h
  · simp only [Prod.mk.injEq, decide_eq_true_eq] at h
    omega

section

variable {n : StripedNode} {c c' : Assembly} {sa : ℕ}

theorem Inv.consistent (h : n.Inv []) (hc : c ∈ n.assembled) :
    ∃ attempt want target pubKey flags, n.Consistent c attempt want target pubKey flags := by
  obtain ⟨a, ha, hid, hpos, hlen, hlegs⟩ := h.whole c hc
  have hwant : a.want.toNat = a.legs.len := by omega
  have hkeys : ∀ index leg, a.legs.get index = some leg → 2 ≤ a.legs.len ∧
      a.legs.len ≤ poolMaxConns ∧ index < a.legs.len := by
    intro index leg hleg
    obtain ⟨l, -, -, hfits⟩ := h.members c.sa a ha index leg hleg
    have hbounds := of_decodeStripedLegIndex hfits.decoded
    rw [hfits.legCount] at hbounds
    omega
  have hall : ∀ index < a.legs.len, ∃ leg, a.legs.get index = some leg := fun index hindex =>
    Option.isSome_iff_exists.mp
      (GoMap.isSome_get_of_len rfl (fun k v hk => (hkeys k v hk).2.2) hindex)
  obtain ⟨first, hfirst⟩ := hall 0 hpos
  refine ⟨a.attempt, a.legs.len, a.target, a.pubKey, a.flags, (hkeys 0 first hfirst).1,
    (hkeys 0 first hfirst).2.1, by simp [hlegs, hwant], fun index hindex => ?_⟩
  obtain ⟨leg, hleg⟩ := hall index hindex
  obtain ⟨l, hl, -, hfits⟩ := h.members c.sa a ha index leg hleg
  refine ⟨leg, l, ?_, hl, hfits.streamID.trans hid, hfits.decoded, hfits.legCount.trans hlen.symm,
    hfits.target, hfits.pubKey, hfits.flags⟩
  rw [hlegs, getElem?_map, hwant, getElem?_range hindex, Option.map_some, hleg]

/-- A leg of a connection is in the set the connection was made of. -/
theorem Inv.inSet (h : n.Inv []) (hc : c ∈ n.assembled)
    (hleg : c.legs[index]? = some (some leg)) : n.InSet c.sa index leg := by
  obtain ⟨a, ha, -, -, -, hlegs⟩ := h.whole c hc
  rw [hlegs, List.getElem?_map, Option.map_eq_some_iff] at hleg
  obtain ⟨other, hother, hget⟩ := hleg
  obtain ⟨hlt, hindex⟩ := List.getElem?_eq_some_iff.mp hother
  rw [List.getElem_range] at hindex
  exact ⟨a, ha, hindex ▸ hget⟩

theorem Inv.index_unique (h : n.Inv []) {index' : ℕ} (hin : n.InSet sa index leg)
    (hin' : n.InSet sa index' leg) : index = index' := by
  obtain ⟨a, ha, hleg⟩ := hin
  obtain ⟨a', ha', hleg'⟩ := hin'
  obtain rfl := Option.mem_unique ha ha'
  obtain ⟨l, hl, -, hfits⟩ := h.members sa a ha index leg hleg
  obtain ⟨l', hl', -, hfits'⟩ := h.members sa a ha index' leg hleg'
  obtain rfl := Option.mem_unique hl hl'
  have hsame := hfits.decoded.symm.trans hfits'.decoded
  simp only [Prod.mk.injEq, and_true, true_and] at hsame
  exact hsame

theorem Inv.inConnection (h : n.Inv []) (hin : n.InSet sa index leg)
    (hassembled : n.Assembled sa) : n.InConnection leg := by
  obtain ⟨c, hc, rfl⟩ := hassembled
  obtain ⟨a, ha, -, -, -, hlegs⟩ := h.whole c hc
  obtain ⟨a', ha', hleg⟩ := hin
  obtain rfl := Option.mem_unique ha ha'
  obtain ⟨l, -, -, hfits⟩ := h.members c.sa a ha index leg hleg
  have hbounds := of_decodeStripedLegIndex hfits.decoded
  rw [hfits.legCount] at hbounds
  refine ⟨c, hc, ?_⟩
  rw [hlegs, mem_map]
  exact ⟨index, mem_range.mpr (by omega), hleg⟩

end

/-- Every connection has exactly the legs of one attempt. A leg is in one connection at most, at one
place. A leg that neither waits nor is in a connection was closed, or its call or a call or
goroutine that closes the legs of its set is still running, and these close no leg that waits or is
in a connection. The index of a leg gives back the attempt and the index it was made of. -/
theorem run_assembles_one_attempt (events : List StripedEvent) :
    let n := run events
    (∀ c ∈ n.assembled, ∃ attempt want target pubKey flags,
      n.Consistent c attempt want target pubKey flags) ∧
    (∀ (i j : ℕ) (c c' : Assembly) (index index' leg : ℕ), n.assembled[i]? = some c →
      n.assembled[j]? = some c' → c.legs[index]? = some (some leg) →
      c'.legs[index']? = some (some leg) → i = j ∧ index = index') ∧
    (∀ (leg : ℕ) (l : AcceptedLeg), n.legs[leg]? = some l →
      l.closed = true ∨ n.Waits leg ∨ n.InConnection leg ∨ n.Owned leg ∨ n.Discards leg) ∧
    (∀ leg, n.Discards leg → ¬ n.Waits leg ∧ ¬ n.InConnection leg) ∧
    ∀ stripedAttempt idx legCount : ℕ, 2 ≤ legCount → legCount ≤ poolMaxConns → idx < legCount →
      decodeStripedLegIndex (encodedIndex (nextStripedAttempt stripedAttempt).1 idx) legCount =
        ((nextStripedAttempt stripedAttempt).1, idx, true) := by
  intro n
  have h : n.Inv [] := inv_run events
  refine ⟨fun c => h.consistent, ?_, ?_, ?_, decode_encodedIndex⟩
  · intro i j c c' index index' leg hc hc' hleg hleg'
    have hin := h.inSet (mem_of_getElem? hc) hleg
    have hin' := h.inSet (mem_of_getElem? hc') hleg'
    have hsa := h.unique _ _ _ _ _ hin hin'
    refine ⟨?_, h.index_unique hin (hsa ▸ hin')⟩
    have hi : (n.assembled.map Assembly.sa)[i]? = some c.sa := by rw [getElem?_map, hc]; rfl
    have hj : (n.assembled.map Assembly.sa)[j]? = some c.sa := by
      rw [getElem?_map, hc', hsa]
      rfl
    have hlt := lt_of_getElem? hi
    exact (getElem?_inj hlt h.once).mp (hi.trans hj.symm)
  · intro leg l hl
    rcases h.custody leg l hl with hclosed | ⟨sa, index, hin, hw | ha⟩ | howned | hdiscards | hheld
    · exact .inl hclosed
    · exact .inr (.inl ⟨sa, index, hin, hw⟩)
    · exact .inr (.inr (.inl (h.inConnection hin ha)))
    · exact .inr (.inr (.inr (.inl howned)))
    · exact .inr (.inr (.inr (.inr hdiscards)))
    · cases hheld
  · intro leg hdiscards
    obtain ⟨sa, index, hin, hnotW, hnotA⟩ := h.gone leg (.inl hdiscards)
    refine ⟨?_, ?_⟩
    · rintro ⟨sa', index', hin', hw⟩
      exact hnotW (h.unique _ _ _ _ _ hin hin' ▸ hw)
    · rintro ⟨c, hc, hmem⟩
      obtain ⟨index', hindex'⟩ := mem_iff_getElem?.mp hmem
      exact hnotA ⟨c, hc, (h.unique _ _ _ _ _ hin (h.inSet hc hindex')).symm⟩

/-- Two legs of attempt 1 with a late one of attempt 0 between them: it is closed, and the two make
a connection. -/
theorem run_assembles_one_attempt_pair :
    let leg := fun index : ℤ => (⟨[7], index, 2, [1], [2], 0⟩ : LegInfo)
    let n := run [.arrive (leg 9), .arrive (leg 1), .arrive (leg 8), .collect 0 0 true,
      .collect 0 0 true, .collect 0 0 true, .collect 1 0 true, .collect 1 0 true, .collect 1 0 true,
      .collect 2 0 true, .collect 2 0 true, .collect 2 0 true, .wake 0 .done 0, .wake 1 .done 0]
    n.assembled = [⟨[7], 0, [some 2, some 0]⟩] ∧ n.legs.map AcceptedLeg.closed = [false, true, false] ∧
      ∀ c ∈ n.assembled, ∃ attempt want target pubKey flags,
        n.Consistent c attempt want target pubKey flags :=
  ⟨by decide +kernel, by decide +kernel, (run_assembles_one_attempt _).1⟩

end StripedNode

end NatP2P.RelayNode
