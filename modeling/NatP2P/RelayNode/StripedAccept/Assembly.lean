import NatP2P.Common.Slots
import NatP2P.RelayNode.StripedAccept.Node

/-!
# The connections that are made of legs

A leg enters at most one set, in the critical section of its own call, and a set is taken out of
`stripedLegs` once: to make a connection of it, or to close its legs. `Inv` says where each leg is,
and with `held` it also does so in the middle of a critical section, where the legs of a set that
was taken out are not yet with the goroutine that closes them.

Reference: `p2pnode/impl/relaynode/relay_node.go`.
-/

namespace NatP2P.RelayNode

open List GoMap

/-! ## The index of a leg -/

/-- The index of a leg gives back the attempt and the index it was made of. -/
theorem decode_encodedIndex (stripedAttempt idx : ℕ) (legCount : ℕ) (hlow : 2 ≤ legCount)
    (hhigh : legCount ≤ poolMaxConns) (hidx : idx < legCount) :
    decodeStripedLegIndex (encodedIndex (nextStripedAttempt stripedAttempt).1 idx) legCount =
      ((nextStripedAttempt stripedAttempt).1, idx, true) := by
  have hattempt : (nextStripedAttempt stripedAttempt).1 ≤ (2 ^ 63 - 1) / 8 := by
    show (if (2 ^ 63 - 1) / poolMaxConns < stripedAttempt then 0 else stripedAttempt) ≤ _
    rw [poolMaxConns]
    split_ifs <;> omega
  generalize (nextStripedAttempt stripedAttempt).1 = attempt at hattempt
  rw [poolMaxConns] at hhigh
  have hencoded : encodedIndex attempt idx = (attempt * 8 + idx : ℕ) := by
    have hmul : mul64 attempt poolMaxConns = attempt * 8 := mul64_eq (by rw [poolMaxConns]; omega)
    have hwrap : wrapInt ((attempt * 8 : ℕ) : ℤ) = (attempt * 8 : ℕ) :=
      wrapInt_eq (by omega) (by rw [maxInt]; omega)
    rw [encodedIndex, hmul, hwrap, wrapInt_eq (by omega) (by rw [maxInt]; omega)]
    rfl
  rw [hencoded, decodeStripedLegIndex, poolMaxConns, if_neg (by omega), Int.toNat_natCast,
    show (attempt * 8 + idx) / 8 = attempt from by omega,
    show (attempt * 8 + idx) % 8 = idx from by omega]
  simp [hidx]

/-! ## Where a leg is -/

/-- A leg belongs into a set under an index. -/
structure LegInfo.Fits (st : LegInfo) (a : StripedAccept) (index : ℕ) : Prop where
  streamID : st.streamID = a.streamID
  decoded : decodeStripedLegIndex st.legIndex st.legCount = (a.attempt, index, true)
  legCount : st.legCount = a.want
  target : st.targetNodeID = a.target
  pubKey : st.originPubKey = a.pubKey
  flags : st.legFlags = a.flags

/-- The call has been in its critical section. -/
def CollectCall.entered : CollectCall → Bool
  | .arrived | .checked .. => false
  | _ => true

/-- The call has the leg it was made for, to put it into a set or to close it. -/
def CollectCall.owns : CollectCall → Bool
  | .arrived | .checked .. | .left _ .reject => true
  | _ => false

/-- The legs of a stale set the call has still to close. -/
def CollectCall.discards : CollectCall → List ℕ
  | .left stale _ => stale
  | _ => []

/-- The legs of a discarded set a goroutine has still to close. -/
def Guard.discards : Guard → List ℕ
  | .closing rest => rest
  | _ => []

namespace StripedNode

/-- A leg is in a set, under an index. -/
def InSet (n : StripedNode) (sa index leg : ℕ) : Prop :=
  ∃ a, n.accepts[sa]? = some a ∧ a.legs.get index = some leg

/-- A set is in `stripedLegs`. -/
def Waiting (n : StripedNode) (sa : ℕ) : Prop := ∃ connID, n.stripedLegs.get connID = some sa

/-- A connection was made of a set. -/
def Assembled (n : StripedNode) (sa : ℕ) : Prop := ∃ c ∈ n.assembled, c.sa = sa

/-- A leg waits, or a connection was made of it. -/
def Kept (n : StripedNode) (leg : ℕ) : Prop :=
  ∃ sa index, n.InSet sa index leg ∧ (n.Waiting sa ∨ n.Assembled sa)

/-- The set of a leg was discarded. -/
def Gone (n : StripedNode) (leg : ℕ) : Prop :=
  ∃ sa index, n.InSet sa index leg ∧ ¬ n.Waiting sa ∧ ¬ n.Assembled sa

/-- A leg is with its own call. -/
def Owned (n : StripedNode) (leg : ℕ) : Prop := ∃ l, n.legs[leg]? = some l ∧ l.call.owns = true

/-- Somebody is about to close a leg of a discarded set. -/
def Discards (n : StripedNode) (leg : ℕ) : Prop :=
  (∃ l ∈ n.legs, leg ∈ l.call.discards) ∨ ∃ g ∈ n.guards, leg ∈ g.discards

/-- Where the legs are, while a step holds some of a discarded set. -/
structure Inv (n : StripedNode) (held : List ℕ) : Prop where
  members : ∀ (sa : ℕ) (a : StripedAccept), n.accepts[sa]? = some a → ∀ index leg,
    a.legs.get index = some leg → ∃ l, n.legs[leg]? = some l ∧ l.call.entered = true ∧ l.info.Fits a index
  unique : ∀ sa sa' index index' leg, n.InSet sa index leg → n.InSet sa' index' leg → sa = sa'
  waiting : ∀ connID sa, n.stripedLegs.get connID = some sa →
    ∃ a, n.accepts[sa]? = some a ∧ a.streamID = connID ∧ ¬ n.Assembled sa
  whole : ∀ c ∈ n.assembled, ∃ a, n.accepts[c.sa]? = some a ∧ a.streamID = c.connID ∧
    0 < a.legs.len ∧ (a.legs.len : ℤ) = a.want ∧
    c.legs = (List.range a.want.toNat).map a.legs.get
  once : (n.assembled.map Assembly.sa).Nodup
  custody : ∀ (leg : ℕ) (l : AcceptedLeg), n.legs[leg]? = some l →
    l.closed = true ∨ n.Kept leg ∨ n.Owned leg ∨ n.Discards leg ∨ leg ∈ held
  gone : ∀ leg, n.Discards leg ∨ leg ∈ held → n.Gone leg

theorem inv_new : new.Inv [] where
  members := nofun
  unique := by rintro sa sa' index index' leg ⟨a, ha, -⟩; cases ha
  waiting := nofun
  whole := nofun
  once := nodup_nil
  custody := nofun
  gone := by rintro leg ((⟨l, hl, -⟩ | ⟨g, hg, -⟩) | hheld) <;> contradiction

section

variable {n n' : StripedNode} {held held' : List ℕ} {leg other sa s index : ℕ}
  {f : AcceptedLeg → AcceptedLeg} {l : AcceptedLeg} {call : CollectCall} {a : StripedAccept}
  {connID : Bytes}

/-- Steps of calls and goroutines that do not change the sets. -/
theorem Inv.tasks (h : n.Inv held) (haccepts : n'.accepts = n.accepts)
    (hstriped : n'.stripedLegs = n.stripedLegs) (hassembled : n'.assembled = n.assembled)
    (hlegs : ∀ (leg : ℕ) (l : AcceptedLeg), n.legs[leg]? = some l → ∃ l', n'.legs[leg]? = some l' ∧ l'.info = l.info ∧
      (l.call.entered = true → l'.call.entered = true))
    (hgone : ∀ leg, n'.Discards leg ∨ leg ∈ held' → n.Discards leg ∨ leg ∈ held)
    (hfrom : ∀ (leg : ℕ) (l' : AcceptedLeg), n'.legs[leg]? = some l' → n'.Owned leg ∨
      ∃ l, n.legs[leg]? = some l ∧ (l.closed = true → l'.closed = true) ∧
        (n.Owned leg → l'.closed = true ∨ n'.Owned leg) ∧
        (n.Discards leg ∨ leg ∈ held → l'.closed = true ∨ n'.Discards leg ∨ leg ∈ held')) :
    n'.Inv held' := by
  have hset : ∀ sa index leg, n'.InSet sa index leg ↔ n.InSet sa index leg := by
    simp only [InSet, haccepts, implies_true]
  have hwaiting : ∀ sa, n'.Waiting sa ↔ n.Waiting sa := by
    simp only [Waiting, hstriped, implies_true]
  have hassembly : ∀ sa, n'.Assembled sa ↔ n.Assembled sa := by
    simp only [Assembled, hassembled, implies_true]
  refine ⟨?_, ?_, ?_, ?_, ?_, ?_, ?_⟩
  · rw [haccepts]
    intro sa a ha index leg hleg
    obtain ⟨l, hl, hentered, hfits⟩ := h.members sa a ha index leg hleg
    obtain ⟨l', hl', hinfo, himp⟩ := hlegs leg l hl
    exact ⟨l', hl', himp hentered, hinfo ▸ hfits⟩
  · simp only [hset]
    exact h.unique
  · rw [hstriped, haccepts]
    simp only [hassembly]
    exact h.waiting
  · rw [hassembled, haccepts]
    exact h.whole
  · rw [hassembled]
    exact h.once
  · simp only [Kept, hset, hwaiting, hassembly]
    intro leg l' hl'
    rcases hfrom leg l' hl' with howned | ⟨l, hl, hclosed, howned, hdiscards⟩
    · exact .inr (.inr (.inl howned))
    rcases h.custody leg l hl with hold | hkept | hold | hold
    · exact .inl (hclosed hold)
    · exact .inr (.inl hkept)
    · exact (howned hold).imp id fun hnew => .inr (.inl hnew)
    · exact (hdiscards hold).imp id fun hnew => .inr (.inr hnew)
  · simp only [Gone, hset, hwaiting, hassembly]
    exact fun leg hleg => h.gone leg (hgone leg hleg)

theorem discards_modify
    (h : ({ n with legs := n.legs.modify leg f } : StripedNode).Discards other) :
    n.Discards other ∨ ∃ l, n.legs[leg]? = some l ∧ other ∈ (f l).call.discards := by
  rcases h with hleg | hguard
  · rcases exists_mem_of_modify hleg with ⟨l, hl, hmem⟩ | hold
    · exact .inr ⟨l, hl, hmem⟩
    · exact .inl (.inl hold)
  · exact .inl (.inr hguard)

theorem discards_of_modify
    (hf : ∀ l, n.legs[leg]? = some l → other ∈ l.call.discards → other ∈ (f l).call.discards)
    (h : n.Discards other) :
    ({ n with legs := n.legs.modify leg f } : StripedNode).Discards other :=
  h.imp (exists_mem_modify hf) id

theorem Inv.closeLeg (h : n.Inv held) (leg : ℕ) : (n.closeLeg leg).Inv held := by
  refine h.tasks rfl rfl rfl ?_ ?_ ?_
  · intro other l hl
    refine ⟨_, getElem?_modify_of_some hl leg, ?_⟩
    split_ifs <;> exact ⟨rfl, id⟩
  · intro other hother
    refine hother.imp (fun hdiscards => ?_) id
    rcases discards_modify hdiscards with hold | ⟨l, hl, hmem⟩
    · exact hold
    · exact .inl ⟨l, mem_of_getElem? hl, hmem⟩
  · intro other l' hl'
    obtain ⟨l, hl, rfl⟩ := getElem?_modify_cases hl'
    refine .inr ⟨l, hl, fun hclosed => ?_, ?_, fun hdiscards => .inr (hdiscards.imp ?_ id)⟩
    · split_ifs
      · rfl
      · exact hclosed
    · rintro ⟨l₀, hl₀, howns⟩
      refine .inr ⟨_, getElem?_modify_of_some hl₀ leg, ?_⟩
      split_ifs <;> exact howns
    · exact discards_of_modify fun _ _ => id

/-- The call of a leg goes on. It may take over what the step holds, and it may be done with legs
that are closed. -/
theorem Inv.setCall (h : n.Inv held)
    (hl : n.legs[leg]? = some l) (hentered : call.entered = true ∨ l.call.entered = false)
    (hnew : ∀ other ∈ call.discards, other ∈ l.call.discards ∨ other ∈ held)
    (hold : ∀ other, other ∈ l.call.discards ∨ other ∈ held → other ∈ call.discards ∨
      ∀ l', n.legs[other]? = some l' → l'.closed = true)
    (howns : l.call.owns = true → call.owns = true ∨ l.closed = true) :
    (n.setCall leg call).Inv [] := by
  refine h.tasks rfl rfl rfl ?_ ?_ ?_
  · intro other l' hl'
    refine ⟨_, getElem?_modify_of_some hl' leg, ?_⟩
    split_ifs with hsame
    · subst hsame
      obtain rfl := Option.mem_unique hl hl'
      refine ⟨rfl, fun hold => hentered.resolve_right ?_⟩
      simp [hold]
    · exact ⟨rfl, id⟩
  · rintro other (hdiscards | hheld)
    · rcases discards_modify hdiscards with hold | ⟨l', hl', hmem⟩
      · exact .inl hold
      · exact (hnew other hmem).imp (fun hmem => .inl ⟨l, mem_of_getElem? hl, hmem⟩) id
    · cases hheld
  · intro other l'' hl''
    obtain ⟨l', hl', rfl⟩ := getElem?_modify_cases hl''
    have hclosed : (if leg = other then { l' with call } else l').closed = l'.closed := by
      split_ifs <;> rfl
    rw [hclosed]
    refine .inr ⟨l', hl', id, ?_, fun hdiscards => ?_⟩
    · rintro ⟨l₀, hl₀, howned⟩
      obtain rfl := Option.mem_unique hl₀ hl'
      by_cases hsame : leg = other
      · subst hsame
        obtain rfl := Option.mem_unique hl hl'
        refine (howns howned).symm.imp id fun hcall => ⟨_, getElem?_modify_of_some hl leg, ?_⟩
        rw [if_pos rfl]
        exact hcall
      · refine .inr ⟨_, getElem?_modify_of_some hl' leg, ?_⟩
        rw [if_neg hsame]
        exact howned
    · by_cases hmem : other ∈ l.call.discards ∨ other ∈ held
      · exact (hold other hmem).symm.imp (fun hclosed => hclosed l' hl') fun hmem =>
          .inl (.inl ⟨_, mem_modify_of_getElem? hl, hmem⟩)
      · rw [not_or] at hmem
        refine .inr (.inl (discards_of_modify (fun l₁ hl₁ h₁ => ?_)
          (hdiscards.resolve_right hmem.2)))
        obtain rfl := Option.mem_unique hl hl₁
        exact absurd h₁ hmem.1

theorem Inv.setGuard (h : n.Inv held) {guard : ℕ} {g g' : Guard} (hg : n.guards[guard]? = some g)
    (hnew : ∀ other ∈ g'.discards, other ∈ g.discards ∨ other ∈ held)
    (hold : ∀ other, other ∈ g.discards ∨ other ∈ held → other ∈ g'.discards ∨
      ∀ l, n.legs[other]? = some l → l.closed = true) : (n.setGuard guard g').Inv [] := by
  have hlt := lt_of_getElem? hg
  refine h.tasks rfl rfl rfl (fun leg l hl => ⟨l, hl, rfl, id⟩) ?_ ?_
  · rintro other ((hleg | ⟨g₁, hg₁, hmem⟩) | hheld)
    · exact .inl (.inl hleg)
    · rcases mem_or_eq_of_mem_set hg₁ with hold | rfl
      · exact .inl (.inr ⟨g₁, hold, hmem⟩)
      · exact (hnew other hmem).imp (fun hmem => .inr ⟨g, mem_of_getElem? hg, hmem⟩) id
    · cases hheld
  · intro other l hl
    refine .inr ⟨l, hl, id, .inr, fun hdiscards => ?_⟩
    by_cases hmem : other ∈ g.discards ∨ other ∈ held
    · exact (hold other hmem).symm.imp (fun hclosed => hclosed l hl) fun hmem =>
        .inl (.inr ⟨g', mem_set hlt g', hmem⟩)
    · rw [not_or] at hmem
      refine .inr (.inl ((hdiscards.resolve_right hmem.2).imp id ?_))
      rintro ⟨g₁, hg₁, hmem₁⟩
      obtain ⟨j, hj⟩ := mem_iff_getElem?.mp hg₁
      refine ⟨g₁, mem_of_getElem? ((getElem?_set_ne ?_).trans hj), hmem₁⟩
      rintro rfl
      obtain rfl := Option.mem_unique hg hj
      exact hmem.1 hmem₁

theorem Inv.start (h : n.Inv held) {guards : List Guard} (hnone : ∀ g ∈ guards, g.discards = []) :
    ({ n with guards := n.guards ++ guards } : StripedNode).Inv held := by
  refine h.tasks rfl rfl rfl (fun leg l hl => ⟨l, hl, rfl, id⟩) ?_ ?_
  · rintro other ((hleg | ⟨g, hg, hmem⟩) | hheld)
    · exact .inl (.inl hleg)
    · rcases mem_append.mp hg with hold | hnew
      · exact .inl (.inr ⟨g, hold, hmem⟩)
      · rw [hnone g hnew] at hmem
        cases hmem
    · exact .inr hheld
  · refine fun other l hl => .inr ⟨l, hl, id, .inr, fun hdiscards =>
      .inr (hdiscards.imp (Or.imp id ?_) id)⟩
    exact fun ⟨g, hg, hmem⟩ => ⟨g, mem_append_left _ hg, hmem⟩

theorem Inv.arrive (h : n.Inv held) (info : LegInfo) :
    ({ n with legs := n.legs ++ [⟨info, false, .arrived⟩] } : StripedNode).Inv held := by
  refine h.tasks rfl rfl rfl ?_ ?_ ?_
  · exact fun leg l hl => ⟨l, getElem?_append_of_some hl _, rfl, id⟩
  · rintro other ((⟨l, hl, hmem⟩ | hguard) | hheld)
    · rcases mem_append.mp hl with hold | hnew
      · exact .inl (.inl ⟨l, hold, hmem⟩)
      · rw [mem_singleton.mp hnew] at hmem
        cases hmem
    · exact .inl (.inr hguard)
    · exact .inr hheld
  · intro other l hl
    rcases getElem?_append_cases hl with ⟨rfl, rfl⟩ | ⟨-, hold⟩
    · exact .inl ⟨_, hl, rfl⟩
    refine .inr ⟨l, hold, id, ?_, fun hdiscards => .inr (hdiscards.imp (Or.imp ?_ id) id)⟩
    · exact fun ⟨l₀, hl₀, howns⟩ => .inr ⟨l₀, getElem?_append_of_some hl₀ _, howns⟩
    · exact fun ⟨l₁, hl₁, hmem⟩ => ⟨l₁, mem_append_left _ hl₁, hmem⟩

/-! ## Steps that change the sets -/

/-- The sets are the same but for `done`. -/
theorem getElem?_stopped {a' : StripedAccept} (h : (n.accepts.modify sa fun a =>
    { a with done := true })[s]? = some a') :
    ∃ a, n.accepts[s]? = some a ∧ a' = { a with done := a'.done } := by
  obtain ⟨a, ha, rfl⟩ := getElem?_modify_cases h
  refine ⟨a, ha, ?_⟩
  split_ifs <;> rfl

theorem stopped_getElem? (ha : n.accepts[s]? = some a) (sa : ℕ) :
    ∃ done, (n.accepts.modify sa fun a => { a with done := true })[s]? = some { a with done } := by
  rw [getElem?_modify_of_some ha]
  split_ifs
  · exact ⟨true, rfl⟩
  · exact ⟨a.done, rfl⟩

theorem inSet_stopped (haccepts : n'.accepts =
    n.accepts.modify sa fun a => { a with done := true }) :
    n'.InSet s index leg ↔ n.InSet s index leg := by
  rw [InSet, haccepts]
  constructor
  · rintro ⟨a', ha', hleg⟩
    obtain ⟨a, ha, heq⟩ := getElem?_stopped ha'
    rw [heq] at hleg
    exact ⟨a, ha, hleg⟩
  · rintro ⟨a, ha, hleg⟩
    obtain ⟨done, hdone⟩ := stopped_getElem? ha sa
    exact ⟨_, hdone, hleg⟩

/-- What is left of `stripedLegs` when a set is taken out. -/
theorem Inv.waiting_delete (h : n.Inv held) (hget : n.stripedLegs.get connID = some sa) :
    (∃ other, (n.stripedLegs.delete connID).get other = some s) ↔ n.Waiting s ∧ s ≠ sa := by
  constructor
  · rintro ⟨other, hother⟩
    obtain ⟨hne, hother⟩ := get_delete_eq_some.mp hother
    refine ⟨⟨other, hother⟩, ?_⟩
    rintro rfl
    -- a set is in the map under its own id only
    obtain ⟨a, ha, hid, -⟩ := h.waiting other s hother
    obtain ⟨a', ha', hid', -⟩ := h.waiting connID s hget
    obtain rfl := Option.mem_unique ha ha'
    exact hne (hid.symm.trans hid')
  · rintro ⟨⟨other, hother⟩, hne⟩
    refine ⟨other, ?_⟩
    rw [get_delete, if_neg]
    · exact hother
    · rintro rfl
      exact hne (Option.mem_unique hother hget)

/-- What taking a set out keeps, whatever becomes of its legs. -/
theorem Inv.stopped (h : n.Inv held)
    (hget : n.stripedLegs.get connID = some sa) (hlegs : n'.legs = n.legs)
    (haccepts : n'.accepts = n.accepts.modify sa fun a => { a with done := true })
    (hstriped : n'.stripedLegs = n.stripedLegs.delete connID)
    (hassembled : ∀ s, n'.Assembled s → n.Assembled s ∨ s = sa)
    (hwhole : ∀ c ∈ n'.assembled, ∃ a, n.accepts[c.sa]? = some a ∧ a.streamID = c.connID ∧
      0 < a.legs.len ∧ (a.legs.len : ℤ) = a.want ∧
      c.legs = (List.range a.want.toNat).map a.legs.get)
    (honce : (n'.assembled.map Assembly.sa).Nodup)
    (hcustody : ∀ (leg : ℕ) (l : AcceptedLeg), n'.legs[leg]? = some l →
      l.closed = true ∨ n'.Kept leg ∨ n'.Owned leg ∨ n'.Discards leg ∨ leg ∈ held')
    (hgone : ∀ leg, n'.Discards leg ∨ leg ∈ held' → n'.Gone leg) : n'.Inv held' := by
  refine ⟨?_, ?_, ?_, ?_, honce, hcustody, hgone⟩
  · rw [haccepts, hlegs]
    intro s a' ha' index leg hleg
    obtain ⟨a, ha, heq⟩ := getElem?_stopped ha'
    rw [heq] at hleg
    obtain ⟨l, hl, hentered, hfits⟩ := h.members s a ha index leg hleg
    refine ⟨l, hl, hentered, ?_⟩
    rw [heq]
    exact { hfits with }
  · simp only [inSet_stopped haccepts]
    exact h.unique
  · intro other s hother
    rw [hstriped] at hother
    obtain ⟨-, hne⟩ := (h.waiting_delete hget).mp ⟨other, hother⟩
    obtain ⟨a, ha, hid, hnot⟩ := h.waiting other s (get_delete_eq_some.mp hother).2
    obtain ⟨done, hdone⟩ := stopped_getElem? ha sa
    rw [haccepts]
    exact ⟨_, hdone, hid, fun hs => (hassembled s hs).elim hnot hne⟩
  · intro c hc
    obtain ⟨a, ha, hrest⟩ := hwhole c hc
    obtain ⟨done, hdone⟩ := stopped_getElem? ha sa
    rw [haccepts]
    exact ⟨_, hdone, hrest⟩

/-- A set is taken out of `stripedLegs`; its legs are to be closed. -/
theorem Inv.drop (h : n.Inv [])
    (hget : n.stripedLegs.get connID = some sa) (ha : n.accepts[sa]? = some a) :
    (n.drop connID sa).Inv a.members := by
  have hset : ∀ s index leg, (n.drop connID sa).InSet s index leg ↔ n.InSet s index leg :=
    fun _ _ _ => inSet_stopped rfl
  have hwaiting : ∀ s, (n.drop connID sa).Waiting s ↔ n.Waiting s ∧ s ≠ sa :=
    fun _ => h.waiting_delete hget
  refine h.stopped hget rfl rfl rfl (fun _ => .inl) h.whole h.once ?_ ?_
  · intro leg l hl
    rcases h.custody leg l hl with hclosed | ⟨s, index, hin, hkept⟩ | howned | hdiscards | hheld
    · exact .inl hclosed
    · by_cases hs : s = sa
      · subst hs
        obtain ⟨a', ha', hleg⟩ := hin
        obtain rfl := Option.mem_unique ha ha'
        exact .inr (.inr (.inr (.inr (mem_values.mpr ⟨index, hleg⟩))))
      · exact .inr (.inl ⟨s, index, (hset ..).mpr hin,
          hkept.imp (fun hw => (hwaiting s).mpr ⟨hw, hs⟩) id⟩)
    · exact .inr (.inr (.inl howned))
    · exact .inr (.inr (.inr (.inl hdiscards)))
    · cases hheld
  · rintro leg (hdiscards | hmember)
    · obtain ⟨s, index, hin, hnot, hnot'⟩ := h.gone leg (.inl hdiscards)
      exact ⟨s, index, (hset ..).mpr hin, fun hw => hnot ((hwaiting s).mp hw).1, hnot'⟩
    · obtain ⟨index, hleg⟩ := mem_values.mp hmember
      obtain ⟨-, -, -, hnot⟩ := h.waiting connID sa hget
      exact ⟨sa, index, (hset ..).mpr ⟨a, ha, hleg⟩, fun hw => ((hwaiting sa).mp hw).2 rfl, hnot⟩

theorem Inv.assemble (h : n.Inv held)
    (hget : n.stripedLegs.get connID = some sa) (ha : n.accepts[sa]? = some a)
    (hpos : 0 < a.legs.len) (hlen : (a.legs.len : ℤ) = a.want) :
    ({ n.drop connID sa with assembled := n.assembled ++
      [⟨connID, sa, (List.range a.want.toNat).map a.legs.get⟩] } : StripedNode).Inv held := by
  generalize hn' : ({ n.drop connID sa with assembled := n.assembled ++
    [⟨connID, sa, (range a.want.toNat).map a.legs.get⟩] } : StripedNode) = n'
  have hset : ∀ s index leg, n'.InSet s index leg ↔ n.InSet s index leg :=
    fun _ _ _ => inSet_stopped (by rw [← hn']; rfl)
  have hwaiting : ∀ s, n'.Waiting s ↔ n.Waiting s ∧ s ≠ sa := by
    rw [← hn']
    exact fun _ => h.waiting_delete hget
  have hassembled : ∀ s, n'.Assembled s ↔ n.Assembled s ∨ s = sa := by
    rw [← hn']
    simp [Assembled, mem_append, or_and_right, exists_or, eq_comm]
  obtain ⟨a', ha', hid, hnot⟩ := h.waiting connID sa hget
  obtain rfl := Option.mem_unique ha ha'
  refine h.stopped hget (hn' ▸ rfl) (hn' ▸ rfl) (hn' ▸ rfl)
    (fun s => (hassembled s).mp) ?_ ?_ ?_ ?_
  · rw [← hn']
    exact forall_mem_append.mpr
      ⟨h.whole, forall_mem_singleton.mpr ⟨a, ha, hid, hpos, hlen, rfl⟩⟩
  · rw [← hn']
    simp only [map_append, map_cons, map_nil]
    refine h.once.append (nodup_singleton _) ?_
    simp only [disjoint_singleton, mem_map]
    exact hnot
  · intro leg l hl
    have hlegs : n'.legs = n.legs := hn' ▸ rfl
    have hguards : n'.guards = n.guards := hn' ▸ rfl
    rw [Owned, Discards, hlegs, hguards]
    rw [hlegs] at hl
    rcases h.custody leg l hl with hclosed | ⟨s, index, hin, hkept⟩ | hrest
    · exact .inl hclosed
    · refine .inr (.inl ⟨s, index, (hset ..).mpr hin, ?_⟩)
      rw [hwaiting, hassembled]
      tauto
    · exact .inr (.inr hrest)
  · intro leg hleg
    obtain ⟨s, index, hin, hnotW, hnotA⟩ := h.gone leg (by rw [← hn'] at hleg; exact hleg)
    refine ⟨s, index, (hset ..).mpr hin, fun hw => hnotW ((hwaiting s).mp hw).1, fun hs => ?_⟩
    rcases (hassembled s).mp hs with hold | rfl
    · exact hnotA hold
    · exact hnotW ⟨connID, hget⟩

theorem Inv.create (h : n.Inv held) (st : LegInfo) (attempt : ℕ)
    (hget : n.stripedLegs.get st.streamID = none) : (n.create st attempt).Inv held := by
  have hold : ∀ {s : ℕ} {a : StripedAccept}, n.accepts[s]? = some a →
      (n.create st attempt).accepts[s]? = some a := fun ha => getElem?_append_of_some ha _
  -- the new set is empty, and all others are where they were
  have hset : ∀ s index leg, (n.create st attempt).InSet s index leg ↔ n.InSet s index leg := by
    intro s index leg
    constructor
    · rintro ⟨a, ha, hleg⟩
      rcases getElem?_append_cases ha with ⟨-, rfl⟩ | ⟨-, ha⟩
      · cases hleg
      · exact ⟨a, ha, hleg⟩
    · rintro ⟨a, ha, hleg⟩
      exact ⟨a, hold ha, hleg⟩
  have hwaiting : ∀ s, (n.create st attempt).Waiting s ↔ n.Waiting s ∨ s = n.accepts.length := by
    intro s
    constructor
    · rintro ⟨connID, hconn⟩
      rw [StripedNode.create, get_set] at hconn
      split_ifs at hconn
      · exact .inr (Option.some.inj hconn).symm
      · exact .inl ⟨connID, hconn⟩
    · rintro (⟨connID, hconn⟩ | rfl)
      · refine ⟨connID, ?_⟩
        rw [StripedNode.create, get_set_ne]
        · exact hconn
        · rintro rfl
          rw [hget] at hconn
          cases hconn
      · exact ⟨st.streamID, get_set_self⟩
  refine ⟨?_, ?_, ?_, ?_, h.once, ?_, ?_⟩
  · intro s a ha index leg hleg
    rcases getElem?_append_cases ha with ⟨-, rfl⟩ | ⟨-, ha⟩
    · cases hleg
    · exact h.members s a ha index leg hleg
  · simp only [hset]
    exact h.unique
  · intro connID s hconn
    rw [StripedNode.create, get_set] at hconn
    split_ifs at hconn with hsame
    · obtain rfl := Option.some.inj hconn
      refine ⟨_, getElem?_concat_length, hsame.symm, ?_⟩
      -- no connection was made of a set that was not there
      rintro ⟨c, hc, hlength⟩
      obtain ⟨a, ha, -⟩ := h.whole c hc
      rw [hlength, getElem?_eq_none le_rfl] at ha
      cases ha
    · obtain ⟨a, ha, hrest⟩ := h.waiting connID s hconn
      exact ⟨a, hold ha, hrest⟩
  · intro c hc
    obtain ⟨a, ha, hrest⟩ := h.whole c hc
    exact ⟨a, hold ha, hrest⟩
  · intro leg l hl
    rcases h.custody leg l hl with hclosed | ⟨s, index, hin, hkept⟩ | hrest
    · exact .inl hclosed
    · exact .inr (.inl ⟨s, index, (hset ..).mpr hin,
        hkept.imp (fun hw => (hwaiting s).mpr (.inl hw)) id⟩)
    · exact .inr (.inr hrest)
  · intro leg hleg
    obtain ⟨s, index, hin, hnotW, hnotA⟩ := h.gone leg hleg
    refine ⟨s, index, (hset ..).mpr hin, fun hw => ?_, hnotA⟩
    -- a leg that is gone is in an old set
    rcases (hwaiting s).mp hw with hw | rfl
    · exact hnotW hw
    · obtain ⟨a, ha, -⟩ := hin
      rw [getElem?_eq_none le_rfl] at ha
      cases ha

/-- Where the legs are when one was put into a set. -/
theorem inSet_insert {i x : ℕ} (ha : n.accepts[sa]? = some a) (hfree : a.legs.get index = none)
    (haccepts : n'.accepts = n.accepts.modify sa fun a =>
      { a with legs := a.legs.set index leg }) :
    n'.InSet s i x ↔ n.InSet s i x ∨ s = sa ∧ i = index ∧ x = leg := by
  constructor
  · rintro ⟨a', ha', hx⟩
    rw [haccepts] at ha'
    obtain ⟨a₀, ha₀, rfl⟩ := getElem?_modify_cases ha'
    split_ifs at hx with hsame
    · rcases get_set_eq_some.mp hx with ⟨hi, rfl⟩ | ⟨-, hold⟩
      · exact .inr ⟨hsame.symm, hi, rfl⟩
      · exact .inl ⟨a₀, ha₀, hold⟩
    · exact .inl ⟨a₀, ha₀, hx⟩
  · rintro (⟨a₀, ha₀, hx⟩ | ⟨rfl, rfl, rfl⟩)
    · refine ⟨_, haccepts ▸ getElem?_modify_of_some ha₀ sa, ?_⟩
      split_ifs with hsame
      · subst hsame
        obtain rfl := Option.mem_unique ha ha₀
        rw [get_set_ne]
        · exact hx
        · rintro rfl
          rw [hfree] at hx
          cases hx
      · exact hx
    · refine ⟨_, haccepts ▸ getElem?_modify_of_some ha s, ?_⟩
      rw [if_pos rfl]
      exact get_set_self

theorem Inv.insert (h : n.Inv held) (hl : n.legs[leg]? = some l) (hentered : l.call.entered = false)
    (hwaits : n.Waiting sa) (ha : n.accepts[sa]? = some a) (hfree : a.legs.get index = none)
    (hfits : l.info.Fits a index) (hcall : call.entered = true) (hdiscards : call.discards = held) :
    (({ n with accepts := n.accepts.modify sa fun a =>
      { a with legs := a.legs.set index leg } } : StripedNode).setCall leg call).Inv [] := by
  generalize hn' : (({ n with accepts := n.accepts.modify sa fun a =>
    { a with legs := a.legs.set index leg } } : StripedNode).setCall leg call) = n'
  have haccepts : n'.accepts = n.accepts.modify sa fun a =>
    { a with legs := a.legs.set index leg } := hn' ▸ rfl
  have hlegs : n'.legs = n.legs.modify leg fun l => { l with call } := hn' ▸ rfl
  have hstriped : n'.stripedLegs = n.stripedLegs := hn' ▸ rfl
  have hassembled : n'.assembled = n.assembled := hn' ▸ rfl
  have hset : ∀ s i x, n'.InSet s i x ↔ n.InSet s i x ∨ s = sa ∧ i = index ∧ x = leg :=
    fun _ _ _ => inSet_insert ha hfree haccepts
  -- the leg was in no set before
  have hnone : ∀ s i, ¬ n.InSet s i leg := by
    rintro s i ⟨a₀, ha₀, hx⟩
    obtain ⟨l₀, hl₀, hentered₀, -⟩ := h.members s a₀ ha₀ i leg hx
    obtain rfl := Option.mem_unique hl hl₀
    rw [hentered] at hentered₀
    cases hentered₀
  have hnot : ¬ n.Assembled sa := by
    obtain ⟨connID, hconn⟩ := hwaits
    exact (h.waiting connID sa hconn).choose_spec.2.2
  refine ⟨?_, ?_, ?_, ?_, by rw [hassembled]; exact h.once, ?_, ?_⟩
  · intro s a' ha' i x hx
    have hcases := (hset s i x).mp ⟨a', ha', hx⟩
    rw [haccepts] at ha'
    obtain ⟨a₀, ha₀, rfl⟩ := getElem?_modify_cases ha'
    have hfields : ∀ st : LegInfo, st.Fits a₀ i →
        st.Fits (if sa = s then { a₀ with legs := a₀.legs.set index leg } else a₀) i := by
      intro st hst
      split_ifs
      · exact { hst with }
      · exact hst
    have hstays : ∀ l₀, n.legs[x]? = some l₀ → l₀.call.entered = true ∨ leg = x →
        l₀.info.Fits a₀ i → ∃ l', n'.legs[x]? = some l' ∧ l'.call.entered = true ∧
          l'.info.Fits (if sa = s then { a₀ with legs := a₀.legs.set index leg } else a₀) i := by
      intro l₀ hl₀ hin hfits₀
      by_cases hsame : leg = x
      · refine ⟨{ l₀ with call }, ?_, hcall, hfields _ hfits₀⟩
        rw [hlegs, getElem?_modify_of_some hl₀, if_pos hsame]
      · refine ⟨l₀, ?_, hin.resolve_right hsame, hfields _ hfits₀⟩
        rw [hlegs, getElem?_modify_of_some hl₀, if_neg hsame]
    rcases hcases with ⟨a₁, ha₁, hx₁⟩ | ⟨rfl, rfl, rfl⟩
    · obtain rfl := Option.mem_unique ha₀ ha₁
      obtain ⟨l₀, hl₀, hentered₀, hfits₀⟩ := h.members s a₀ ha₀ i x hx₁
      exact hstays l₀ hl₀ (.inl hentered₀) hfits₀
    · obtain rfl := Option.mem_unique ha ha₀
      exact hstays l hl (.inr rfl) hfits
  · intro s s' i i' x hin hin'
    rcases (hset s i x).mp hin with hold | ⟨hs, -, hx⟩ <;>
      rcases (hset s' i' x).mp hin' with hold' | ⟨hs', -, hx'⟩
    · exact h.unique s s' i i' x hold hold'
    · exact absurd (hx' ▸ hold) (hnone s i)
    · exact absurd (hx ▸ hold') (hnone s' i')
    · rw [hs, hs']
  · rw [hstriped, haccepts]
    intro connID s hconn
    obtain ⟨a₀, ha₀, hid, hnotA⟩ := h.waiting connID s hconn
    refine ⟨_, getElem?_modify_of_some ha₀ sa, ?_, ?_⟩
    · split_ifs <;> exact hid
    · rw [Assembled, hassembled]
      exact hnotA
  · rw [hassembled, haccepts]
    intro c hc
    obtain ⟨a₀, ha₀, hrest⟩ := h.whole c hc
    refine ⟨_, getElem?_modify_of_some ha₀ sa, ?_⟩
    rw [if_neg]
    · exact hrest
    · exact fun hsame => hnot ⟨c, hc, hsame.symm⟩
  · intro x l' hl'
    have hkept : n.Kept x → n'.Kept x := by
      rintro ⟨s, i, hin, hkept⟩
      refine ⟨s, i, (hset s i x).mpr (.inl hin), ?_⟩
      rw [Waiting, Assembled, hstriped, hassembled]
      exact hkept
    by_cases hsame : x = leg
    · refine .inr (.inl ⟨sa, index, (hset sa index x).mpr (.inr ⟨rfl, rfl, hsame⟩), .inl ?_⟩)
      rw [Waiting, hstriped]
      exact hwaits
    have hother : n'.legs[x]? = n.legs[x]? := by
      rw [hlegs]
      exact getElem?_modify_ne _ _ (Ne.symm hsame)
    rcases h.custody x l' (hother ▸ hl') with hclosed | hold | ⟨l₀, hl₀, howns⟩ | htodo | hheld
    · exact .inl hclosed
    · exact .inr (.inl (hkept hold))
    · exact .inr (.inr (.inl ⟨l₀, hother.trans hl₀, howns⟩))
    · refine .inr (.inr (.inr (.inl ?_)))
      rw [← hn']
      refine discards_of_modify (fun l₀ hl₀ hmem => ?_) htodo
      obtain rfl := Option.mem_unique hl hl₀
      cases hcase : l.call <;> simp [hcase, CollectCall.entered, CollectCall.discards] at *
    · refine .inr (.inr (.inr (.inl (.inl ⟨{ l with call }, ?_, hdiscards ▸ hheld⟩))))
      rw [hlegs]
      exact mem_modify_of_getElem? hl
  · rintro x (hother | hheld)
    · have hold : n.Discards x ∨ x ∈ held := by
        rw [← hn'] at hother
        rcases discards_modify hother with hold | ⟨l₀, hl₀, hmem⟩
        · exact .inl hold
        · exact .inr (hdiscards ▸ hmem)
      obtain ⟨s, i, hin, hgone⟩ := h.gone x hold
      refine ⟨s, i, (hset s i x).mpr (.inl hin), ?_⟩
      rw [Waiting, Assembled, hstriped, hassembled]
      exact hgone
    · cases hheld

/-- The end of the critical section, for a leg that is not rejected. -/
theorem Inv.keep (h : n.Inv held) (hl : n.legs[leg]? = some l) (hentered : l.call.entered = false)
    (hget : n.stripedLegs.get l.info.streamID = some sa) (ha : n.accepts[sa]? = some a)
    (hfree : a.legs.get index = none) (hfits : l.info.Fits a index) (created : Bool) :
    (n.keep leg l.info index sa created held).Inv [] := by
  have hget' : (n.accepts.modify sa fun a => { a with legs := a.legs.set index leg })[sa]? =
      some { a with legs := a.legs.set index leg } :=
    (getElem?_modify_of_some ha sa).trans (congrArg some (if_pos rfl))
  have hinsert := fun call => @insert n held leg sa index l call a h hl hentered ⟨_, hget⟩ ha hfree
    hfits
  rw [StripedNode.keep]
  rw [hget']
  dsimp only
  split_ifs with hlen
  · exact (hinsert _ rfl rfl).assemble hget hget'
      (len_pos_of_get get_set_self) hlen
  · exact hinsert _ rfl rfl

theorem Inv.collectLocked (h : n.Inv []) {attempt : ℕ}
    (hl : n.legs[leg]? = some l) (hcall : l.call = .checked attempt index)
    (hdecoded : decodeStripedLegIndex l.info.legIndex l.info.legCount = (attempt, index, true)) :
    (n.collectLocked leg l.info attempt index).Inv [] := by
  have hentered : l.call.entered = false := by rw [hcall]; rfl
  have hreject : ∀ {n : StripedNode} {held : List ℕ}, n.Inv held → n.legs[leg]? = some l →
      (n.setCall leg (.left held .reject)).Inv [] := by
    intro n held h hl
    refine h.setCall hl (.inr hentered) (fun other hother => .inr hother) ?_ fun _ => .inl rfl
    rintro other (hmem | hheld)
    · rw [hcall] at hmem
      cases hmem
    · exact .inl hheld
  -- a new set has the data of the leg it is made for
  have hcreate : ∀ {n : StripedNode} {held : List ℕ}, n.Inv held → n.legs[leg]? = some l →
      n.stripedLegs.get l.info.streamID = none →
      ((n.create l.info attempt).keep leg l.info index n.accepts.length true held).Inv [] := by
    intro n held h hl hnone
    exact (h.create l.info attempt hnone).keep hl hentered get_set_self
      getElem?_concat_length get_empty ⟨rfl, hdecoded, rfl, rfl, rfl, rfl⟩ true
  rw [StripedNode.collectLocked]
  split
  next hnone => exact hcreate h hl hnone
  next sa hget =>
    obtain ⟨a, ha, hid, -⟩ := h.waiting _ sa hget
    rw [ha]
    dsimp only
    split_ifs with holder hnewer hmatches htaken
    · exact hreject h hl
    · have hdrop := hcreate (h.drop hget ha) hl get_delete_self
      rw [show (n.drop l.info.streamID sa).accepts.length = n.accepts.length from
        length_modify ..] at hdrop
      exact hdrop
    · exact hreject h hl
    · obtain ⟨hwant, htarget, hpubKey, hflags⟩ := hmatches
      obtain rfl : attempt = a.attempt := by omega
      refine h.keep hl hentered hget ha (Option.not_isSome_iff_eq_none.mp htaken) ?_ false
      exact ⟨hid.symm, hdecoded, hwant.symm, htarget.symm, hpubKey.symm, hflags.symm⟩
    · exact hreject (h.drop hget ha) hl

end

end StripedNode

end NatP2P.RelayNode
