import NatP2P.Network.Routes.Consistency

/-!
# Runs of the registry

What one call of a method keeps, and what follows for every sequence of calls.
-/

namespace NatP2P.Network.FrameRouteRegistry

open List GoMap Option FrameRouteRegistry

variable {D : Type*} {r r' r'' : FrameRouteRegistry D} {i j : ℕ} {p p' q : FrameRoutePair D}
  {now clock : ℤ} {b : Binding D} {connectionID : Bytes} {lost taken : FrameRoutePair D → Prop}
  {events : List (Event D)}

/-! ## The state behind each method -/

/-- The flags of a pair behind a touch. -/
def due (r : FrameRouteRegistry D) (p : FrameRoutePair D) (now : ℤ) : FrameRoutePair D :=
  { p with expiresAt := if p.completed then now + r.tombstoneTTL else 0 }

/-- A pair with given flags is touched. -/
def touched (r : FrameRouteRegistry D) (i : ℕ) (p : FrameRoutePair D) (now : ℤ) :
    FrameRouteRegistry D :=
  { r with
    expiry := if p.completed then r.expiry.erase i ++ [i] else r.expiry.erase i
    pairs := r.pairs.set i (r.due p now) }

theorem touchLocked_eq (hget : r.pairs[i]? = some p) (hremoved : p.removed = false) (now : ℤ) :
    r.touchLocked i now = r.touched i p now := by
  simp only [touchLocked, touched, due, hget, hremoved, Bool.false_eq_true, if_false]
  split <;> rfl

theorem complete_eq (hget : r.pairs[i]? = some p) (hremoved : p.removed = false) (now : ℤ) :
    r.complete i now = (r.touched i { p with completed := true } now).expireLocked now := by
  have hlt : i < r.pairs.length := lt_of_getElem? hget
  have hset : (r.pairs.set i { p with completed := true })[i]? =
      some { p with completed := true } := getElem?_set_self hlt
  have hpresent : ¬ p.removed = true := by simp [hremoved]
  simp only [complete, hget]
  rw [if_neg hpresent]
  have htouch := touchLocked_eq (r := { r with pairs := r.pairs.set i { p with completed := true } })
    hset hremoved now
  rw [htouch]
  simp only [touched, due, set_set]

theorem SameRoute.due (hroute : SameRoute p p') (r : FrameRouteRegistry D) (now : ℤ) :
    SameRoute p (r.due p' now) := { hroute with }

theorem mem_touched_expiry (hnodup : r.expiry.Nodup) (now : ℤ) :
    j ∈ (r.touched i p now).expiry ↔ (j = i ∧ p.completed) ∨ (j ≠ i ∧ j ∈ r.expiry) := by
  simp only [touched]
  split
  · next hcompleted =>
    rw [mem_append, mem_singleton, hnodup.mem_erase_iff]
    simp only [hcompleted, and_true]
    exact or_comm
  · next hcompleted =>
    rw [hnodup.mem_erase_iff]
    exact ⟨.inr, fun h => h.resolve_left fun hi => hcompleted hi.2⟩

theorem nodup_touched_expiry (hnodup : r.expiry.Nodup) (now : ℤ) :
    (r.touched i p now).expiry.Nodup := by
  simp only [touched]
  split
  · refine (hnodup.erase i).append (nodup_singleton i) ?_
    intro k hk hki
    obtain rfl := mem_singleton.mp hki
    exact hnodup.not_mem_erase hk
  · exact hnodup.erase i

theorem Consistent.touched (h : r.Consistent) (hp : r.Live i p) (hroute : SameRoute p p')
    (hremoved : p'.removed = false) (now : ℤ) : (r.touched i p' now).Consistent := by
  refine h.modify hp (hroute.due r now) hremoved (nodup_touched_expiry h.nodup now) ?_
  intro j
  exact mem_touched_expiry h.nodup now

theorem live_touched (hp : r.Live i p) (hroute : SameRoute p p') :
    (r.touched i p' now).Live j q ↔ (j = i ∧ q = r.due p' now) ∨ (j ≠ i ∧ r.Live j q) :=
  live_modify hp (hroute.due r now) _

theorem live_addPair (h : r.Consistent) (hrelay : r.relaySide.get b.relayID = none) :
    (r.addPair b).Live j q ↔ (j = r.pairs.length ∧ q = b.pair j) ∨ r.Live j q := by
  constructor
  · rintro ⟨hget, hstored⟩
    rcases getElem?_append_cases hget with ⟨rfl, rfl⟩ | ⟨hlt, hold⟩
    · exact .inl ⟨rfl, rfl⟩
    · refine .inr ⟨hold, ?_⟩
      simp only [addPair, get_set] at hstored
      split_ifs at hstored
      · -- an old pair does not have the entry of the new one
        have hpair := (h.own j q hold).1
        rw [← some.inj hstored] at hpair
        exact absurd hpair (Nat.ne_of_gt hlt)
      · exact hstored
  · rintro (⟨rfl, rfl⟩ | ⟨hget, hstored⟩)
    · exact ⟨getElem?_concat_length, get_set_self⟩
    · refine ⟨getElem?_append_of_some hget _, ?_⟩
      have hne : q.relayID ≠ b.relayID := by
        intro heq
        rw [heq, hrelay] at hstored
        cases hstored
      simp only [addPair]
      rw [get_set_ne hne]
      exact hstored

theorem Consistent.addPair (h : r.Consistent)
    (hrelay : r.relaySide.get b.relayID = none) (hclient : r.clientSide.get b.clientKey = none)
    (hroom : r.pairCount < r.maxPairs) : (r.addPair b).Consistent := by
  have hlive : ∀ j q, (r.addPair b).Live j q ↔ (j = r.pairs.length ∧ q = b.pair j) ∨ r.Live j q :=
    fun j q => live_addPair h hrelay
  have hrelayLen := h.relayLen
  have hclientLen := h.clientLen
  refine ⟨?_, ?_, ?_, ?_, ?_, ?_, ?_, hroom, ?_, ?_, h.nodup, ?_⟩
  · intro j q hq
    rcases getElem?_append_cases hq with ⟨rfl, rfl⟩ | ⟨-, hold⟩
    · exact ⟨rfl, rfl⟩
    · exact h.own j q hold
  · intro id e he
    simp only [FrameRouteRegistry.addPair, get_set] at he
    split_ifs at he with hid
    · cases he
      exact ⟨b.pair r.pairs.length, (hlive _ _).mpr (.inl ⟨rfl, rfl⟩), hid.symm, rfl⟩
    · obtain ⟨q, hq, hrest⟩ := h.relay id e he
      exact ⟨q, (hlive _ q).mpr (.inr hq), hrest⟩
  · intro key e he
    simp only [FrameRouteRegistry.addPair, get_set] at he
    split_ifs at he with hkey
    · cases he
      exact ⟨b.pair r.pairs.length, (hlive _ _).mpr (.inl ⟨rfl, rfl⟩), hkey.symm, rfl⟩
    · obtain ⟨q, hq, hrest⟩ := h.client key e he
      exact ⟨q, (hlive _ q).mpr (.inr hq), hrest⟩
  · intro j q hq
    simp only [FrameRouteRegistry.addPair]
    rcases (hlive j q).mp hq with ⟨rfl, rfl⟩ | hold
    · exact get_set_self
    · have hboth := h.both j q hold
      -- the key was free
      have hne : q.clientKey ≠ b.clientKey := by
        intro heq
        rw [heq, hclient] at hboth
        cases hboth
      rw [get_set_ne hne]
      exact hboth
  · intro j q hq
    rcases (hlive j q).mp hq with ⟨rfl, rfl⟩ | hold
    · rfl
    · exact h.present j q hold
  · simp only [FrameRouteRegistry.addPair, len_set_of_none hrelay, hrelayLen]
  · simp only [FrameRouteRegistry.addPair, len_set_of_none hclient, hclientLen]
  · intro c j
    -- the new pair is a member of the connection of its key only
    have hmember : Member (r.addPair b).connectionPairs c j ↔
        (j = r.pairs.length ∧ b.clientKey.connectionID = c) ∨ Member r.connectionPairs c j := by
      simp only [Member, FrameRouteRegistry.addPair, get_set]
      split_ifs with hc
      · subst hc
        cases r.connectionPairs.get b.clientKey.connectionID with
        | none | some => simp
      · simp [Ne.symm hc]
    rw [hmember, h.connections]
    constructor
    · rintro (⟨rfl, rfl⟩ | ⟨q, hq, rfl⟩)
      · exact ⟨b.pair r.pairs.length, (hlive _ _).mpr (.inl ⟨rfl, rfl⟩), rfl⟩
      · exact ⟨q, (hlive j q).mpr (.inr hq), rfl⟩
    · rintro ⟨q, hq, rfl⟩
      rcases (hlive j q).mp hq with ⟨rfl, rfl⟩ | hold
      · exact .inl ⟨rfl, rfl⟩
      · exact .inr ⟨q, hold, rfl⟩
  · intro c s hs
    simp only [FrameRouteRegistry.addPair, get_set] at hs
    split_ifs at hs
    · cases hs
      exact Finset.insert_nonempty _ _
    · exact h.nonempty c s hs
  · intro j
    show j ∈ r.expiry ↔ _
    rw [h.expires]
    constructor
    · rintro ⟨q, hq, hcompleted⟩
      exact ⟨q, (hlive j q).mpr (.inr hq), hcompleted⟩
    · rintro ⟨q, hq, hcompleted⟩
      rcases (hlive j q).mp hq with ⟨rfl, rfl⟩ | hold
      · -- a new pair is not completed
        cases hcompleted
      · exact ⟨q, hold, hcompleted⟩

/-- Pairs that are taken out one after the other. -/
theorem Consistent.foldl_remove (h : r.Consistent) {removed : List ℕ} (hnodup : removed.Nodup)
    (hlive : ∀ k ∈ removed, ∃ p, r.Live k p ∧ lost p) :
    (removed.foldl removePairLocked r).Consistent ∧
      (∀ j q, (removed.foldl removePairLocked r).Live j q → j ∉ removed) ∧
      r.Shrinks (removed.foldl removePairLocked r) lost := by
  induction removed generalizing r with
  | nil => exact ⟨h, fun _ _ _ => not_mem_nil, .refl r _⟩
  | cons k removed ih =>
    obtain ⟨hk, hnodup⟩ := nodup_cons.mp hnodup
    obtain ⟨p, hp, hlost⟩ := hlive k mem_cons_self
    have hrest : ∀ l ∈ removed, ∃ q, (r.removePairLocked k).Live l q ∧ lost q := by
      intro l hl
      obtain ⟨q, hq, hlost⟩ := hlive l (mem_cons_of_mem k hl)
      exact ⟨q, (h.live_remove hp).mpr ⟨hq, fun heq => hk (heq ▸ hl)⟩, hlost⟩
    obtain ⟨hconsistent, hafter, hshrinks⟩ := ih (h.remove hp) hnodup hrest
    refine ⟨hconsistent, ?_, (h.shrinks_remove hp hlost).trans hshrinks⟩
    intro j q hq
    have hne := ((h.live_remove hp).mp (hshrinks.back j q hq)).2
    exact not_mem_cons_of_ne_of_not_mem hne (hafter j q hq)

/-- A connection is purged: exactly its pairs leave. -/
theorem Consistent.purgeConnection (h : r.Consistent) (connectionID : Bytes)
    (order : GoMap.Order ℕ) :
    (r.purgeConnection connectionID order).Consistent ∧
      r.Shrinks (r.purgeConnection connectionID order)
        (fun q => q.clientKey.connectionID = connectionID) ∧
      (connectionID ≠ [] → ∀ j q, (r.purgeConnection connectionID order).Live j q →
        q.clientKey.connectionID ≠ connectionID) := by
  by_cases hempty : connectionID = []
  · rw [FrameRouteRegistry.purgeConnection, if_pos hempty]
    exact ⟨h, .refl r _, fun hconnection => absurd hempty hconnection⟩
  set connectionSet := (r.connectionPairs.get connectionID).getD ∅ with hset
  have hmem : ∀ k, k ∈ connectionSet ↔ Member r.connectionPairs connectionID k := by
    intro k
    rw [hset, Member]
    cases r.connectionPairs.get connectionID with
    | none | some => simp
  have hvisit : ∀ k, k ∈ order.visit connectionSet ↔
      ∃ p, r.Live k p ∧ p.clientKey.connectionID = connectionID := by
    intro k
    rw [order.mem_visit, hmem, h.connections]
  obtain ⟨hconsistent, hlive, hshrinks⟩ := h.foldl_remove (order.nodup connectionSet)
    fun k => (hvisit k).mp
  have hgone : ∀ j q, (foldl removePairLocked r (order.visit connectionSet)).Live j q →
      q.clientKey.connectionID ≠ connectionID := by
    intro j q hq hc
    exact hlive j q hq ((hvisit j).mpr ⟨q, hshrinks.back j q hq, hc⟩)
  -- the connection has no pairs left, so the deletion behind the loop changes nothing
  have hnone : (foldl removePairLocked r (order.visit connectionSet)).connectionPairs.get
      connectionID = none := by
    cases hget : (foldl removePairLocked r (order.visit connectionSet)).connectionPairs.get
      connectionID with
    | none => rfl
    | some s =>
      obtain ⟨k, hk⟩ := hconsistent.nonempty connectionID s hget
      obtain ⟨q, hq, hc⟩ := (hconsistent.connections connectionID k).mp ⟨s, hget, hk⟩
      exact absurd hc (hgone k q hq)
  have heq : r.purgeConnection connectionID order =
      foldl removePairLocked r (order.visit connectionSet) := by
    rw [FrameRouteRegistry.purgeConnection, if_neg hempty]
    simp only [← hset, delete_of_none hnone]
  rw [heq]
  exact ⟨hconsistent, hshrinks, fun _ => hgone⟩

theorem not_live_clear : ¬ r.clear.Live j q := by
  rintro ⟨-, hstored⟩
  simp [clear] at hstored

theorem Consistent.clear (h : r.Consistent) : r.clear.Consistent where
  own i p hp := by
    simp only [FrameRouteRegistry.clear, getElem?_mapIdx, map_eq_some_iff] at hp
    obtain ⟨q, hq, rfl⟩ := hp
    have hown := h.own i q hq
    split <;> exact hown
  relay id e he := by simp [FrameRouteRegistry.clear] at he
  client key e he := by simp [FrameRouteRegistry.clear] at he
  both i p hp := absurd hp not_live_clear
  present i p hp := absurd hp not_live_clear
  relayLen := rfl
  clientLen := rfl
  bounded := Nat.zero_le _
  connections c i := by
    refine ⟨?_, fun ⟨p, hp, _⟩ => absurd hp not_live_clear⟩
    rintro ⟨s, hs, -⟩
    simp [FrameRouteRegistry.clear] at hs
  nonempty c s hs := by simp [FrameRouteRegistry.clear] at hs
  nodup := nodup_nil
  expires i := by
    refine ⟨nofun, fun ⟨p, hp, _⟩ => absurd hp not_live_clear⟩

/-! ## One call -/

/-- What a call does to the pairs: those behind it are old ones or the new one, and what it takes
away was completed or is what it is there to take away. -/
structure Evolves (r r' : FrameRouteRegistry D) (taken : FrameRoutePair D → Prop) : Prop where
  back : ∀ j q, r'.Live j q → (∃ p, r.Live j p ∧ SameRoute p q) ∨ r.pairs.length ≤ j
  keep : ∀ j p, r.Live j p → (∃ q, r'.Live j q) ∨ p.completed ∨ taken p
  length : r.pairs.length ≤ r'.pairs.length
  ttl : r'.tombstoneTTL = r.tombstoneTTL
  limit : r'.maxPairs = r.maxPairs

theorem Shrinks.evolves (h : r.Shrinks r' lost)
    (hlost : ∀ q, lost q → q.completed ∨ taken q) : r.Evolves r' taken where
  back j q hq := .inl ⟨q, h.back j q hq, .refl q⟩
  keep j p hp := by
    rcases h.keep j p hp with hstay | hgone
    · exact .inl ⟨p, hstay⟩
    · exact .inr (hlost p hgone)
  length := h.length.ge
  ttl := h.ttl
  limit := h.limit

/-- Expiry or eviction in front of the rest of a method. -/
theorem Shrinks.then (h : r.Shrinks r' lost)
    (hlost : ∀ q, lost q → q.completed) (hrest : r'.Evolves r'' taken) : r.Evolves r'' taken where
  back j q hq := by
    rcases hrest.back j q hq with ⟨p, hp, hroute⟩ | hnew
    · exact .inl ⟨p, h.back j p hp, hroute⟩
    · exact .inr (h.length ▸ hnew)
  keep j p hp := by
    rcases h.keep j p hp with hstay | hgone
    · exact hrest.keep j p hstay
    · exact .inr (.inl (hlost p hgone))
  length := h.length ▸ hrest.length
  ttl := hrest.ttl.trans h.ttl
  limit := hrest.limit.trans h.limit

theorem evolves_touched (hp : r.Live i p) (hroute : SameRoute p p') (now : ℤ)
    (taken : FrameRoutePair D → Prop) : r.Evolves (r.touched i p' now) taken where
  back j q hq := by
    rcases (live_touched hp hroute).mp hq with ⟨rfl, rfl⟩ | ⟨-, hold⟩
    · exact .inl ⟨p, hp, hroute.due r now⟩
    · exact .inl ⟨q, hold, .refl q⟩
  keep j q hq := by
    rcases eq_or_ne j i with rfl | hne
    · exact .inl ⟨_, (live_touched hp hroute).mpr (.inl ⟨rfl, rfl⟩)⟩
    · exact .inl ⟨q, (live_touched hp hroute).mpr (.inr ⟨hne, hq⟩)⟩
  length := length_set.ge
  ttl := rfl
  limit := rfl

/-- A lookup finds nothing, or it touches the pair that it finds. -/
inductive Looks (r : FrameRouteRegistry D) (now : ℤ) : FrameRouteRegistry D × Option ℕ → Prop where
  | nothing : Looks r now (r.expireLocked now, none)
  | found (i : ℕ) (p : FrameRoutePair D) (hp : (r.expireLocked now).Live i p) :
      Looks r now ((r.expireLocked now).touched i p now, some i)

theorem Consistent.relayGet_looks (h : r.Consistent) (messageID : ℕ) (now : ℤ) :
    Looks r now (step r (.relayGet messageID now)) := by
  have hconsistent := (h.expireLocked now).1
  simp only [step, relayGet]
  cases hget : (r.expireLocked now).relaySide.get messageID with
  | none => exact .nothing
  | some e =>
    obtain ⟨p, hp, -, rfl⟩ := hconsistent.relay messageID e hget
    dsimp only
    rw [touchLocked_eq hp.1 (hconsistent.present _ p hp)]
    exact .found _ p hp

theorem Consistent.clientGet_looks (h : r.Consistent) (key : ClientRouteKey) (now : ℤ) :
    Looks r now (step r (.clientGet key now)) := by
  have hconsistent := (h.expireLocked now).1
  simp only [step, clientGet]
  cases hget : (r.expireLocked now).clientSide.get key with
  | none => exact .nothing
  | some e =>
    obtain ⟨p, hp, -, rfl⟩ := hconsistent.client key e hget
    dsimp only
    rw [touchLocked_eq hp.1 (hconsistent.present _ p hp)]
    exact .found _ p hp

/-- `bindPair` refuses, finds the pair, or makes it. -/
inductive Binds (r : FrameRouteRegistry D) (b : Binding D) (now : ℤ) :
    Option ℕ × FrameRouteRegistry D → Prop where
  | refused (r' : FrameRouteRegistry D) (hconsistent : r'.Consistent)
      (hshrinks : r.Shrinks r' fun q => q.completed) : Binds r b now (none, r')
  | known (i : ℕ) (p : FrameRoutePair D) (hp : (r.expireLocked now).Live i p)
      (hrelay : p.relayID = b.relayID) (hclient : p.clientKey = b.clientKey)
      (htotal : p.totalFrames = b.totalFrames) :
      Binds r b now (some i, (r.expireLocked now).touched i p now)
  | made (r' : FrameRouteRegistry D) (hconsistent : r'.Consistent)
      (hshrinks : r.Shrinks r' fun q => q.completed) (hrelay : r'.relaySide.get b.relayID = none)
      (hclient : r'.clientSide.get b.clientKey = none) (hroom : r'.pairCount < r'.maxPairs) :
      Binds r b now (some r'.pairs.length,
        (r'.addPair b).touched r'.pairs.length (b.pair r'.pairs.length) now)

theorem Consistent.bindPair_binds (h : r.Consistent) (b : Binding D) (now : ℤ) :
    r.Binds b now (r.bindPair b now) := by
  obtain ⟨hconsistent, hexpired⟩ := h.expireLocked now
  have hshrinks := hexpired.mono fun q hq => hq.1
  simp only [bindPair]
  cases hrelay : (r.expireLocked now).relaySide.get b.relayID with
  | none =>
    cases hclient : (r.expireLocked now).clientSide.get b.clientKey with
    | some clientMatch => exact .refused _ hconsistent hshrinks
    | none =>
      obtain ⟨hafter, hmore, hroom⟩ := hconsistent.makeRoom (r.expireLocked now).pairCount
      cases hmake : FrameRouteRegistry.makeRoom (r.expireLocked now).pairCount
        (r.expireLocked now) with
      | mk ok r' =>
        rw [hmake] at hafter hmore hroom
        cases ok with
        | false => exact .refused r' hafter (hshrinks.trans hmore)
        | true =>
          -- an eviction takes pairs out and adds none
          have hrelay' : r'.relaySide.get b.relayID = none := by
            cases hget : r'.relaySide.get b.relayID with
            | none => rfl
            | some e =>
              obtain ⟨p, hp, hid, -⟩ := hafter.relay _ e hget
              have hstored := (hmore.back _ p hp).2
              rw [hid, hrelay] at hstored
              cases hstored
          have hclient' : r'.clientSide.get b.clientKey = none := by
            cases hget : r'.clientSide.get b.clientKey with
            | none => rfl
            | some e =>
              obtain ⟨p, hp, hkey, -⟩ := hafter.client _ e hget
              have hstored := hconsistent.both _ p (hmore.back _ p hp)
              rw [hkey, hclient] at hstored
              cases hstored
          have hnew : (r'.addPair b).Live r'.pairs.length (b.pair r'.pairs.length) :=
            (live_addPair hafter hrelay').mpr (.inl ⟨rfl, rfl⟩)
          simp only [touchLocked_eq hnew.1 rfl]
          exact .made r' hafter (hshrinks.trans hmore) hrelay' hclient' (hroom rfl)
  | some relayMatch =>
    cases hclient : (r.expireLocked now).clientSide.get b.clientKey with
    | none => exact .refused _ hconsistent hshrinks
    | some clientMatch =>
      obtain ⟨p, hp, hid, hentry⟩ := hconsistent.relay _ relayMatch hrelay
      simp only [hp.1]
      split
      · -- both entries are of one pair with the same data
        next hsame =>
        rw [touchLocked_eq hp.1 (hconsistent.present _ p hp)]
        exact .known _ p hp hid hsame.2.2.1 hsame.2.2.2
      · exact .refused _ hconsistent hshrinks

/-- No pair is completed that `clear` dropped without marking it. -/
def Event.known (r : FrameRouteRegistry D) : Event D → Prop
  | .complete i _ => r.Known i
  | _ => True

/-- What a call is there to take away. -/
def Event.takes : Event D → FrameRoutePair D → Prop
  | .purgeConnection connectionID _, p => p.clientKey.connectionID = connectionID
  | .clear, _ => True
  | _, _ => False

/-- The limits of a registry, as the constructor leaves them. -/
structure Limits (r : FrameRouteRegistry D) : Prop where
  ttl : 0 < r.tombstoneTTL
  maxPairs : 0 < r.maxPairs

theorem Limits.kept {r r' : FrameRouteRegistry D} (h : r.Limits)
    (httl : r'.tombstoneTTL = r.tombstoneTTL) (hlimit : r'.maxPairs = r.maxPairs) : r'.Limits :=
  ⟨httl ▸ h.ttl, hlimit ▸ h.maxPairs⟩

theorem limits_new (ttl maxPairs : ℤ) : (newWithLimits D ttl maxPairs).Limits := by
  constructor
  all_goals
    simp only [newWithLimits]
    split
    · decide
    · omega

/-- `complete` does nothing to a pair that is gone, and marks one that is there. -/
inductive Completes (r : FrameRouteRegistry D) (i : ℕ) (now : ℤ) : FrameRouteRegistry D → Prop where
  | gone : Completes r i now r
  | marked (p : FrameRoutePair D) (hp : r.Live i p) (hpresent : p.removed = false)
      (hroute : SameRoute p { p with completed := true }) :
      Completes r i now ((r.touched i { p with completed := true } now).expireLocked now)

theorem Consistent.completes (h : r.Consistent) (hknown : r.Known i) (now : ℤ) :
    Completes r i now (r.complete i now) := by
  cases hget : r.pairs[i]? with
  | none =>
    simp only [FrameRouteRegistry.complete, hget]
    exact .gone
  | some p =>
    rcases hknown p hget with hremoved | hp
    · simp only [FrameRouteRegistry.complete, hget, hremoved, if_true]
      exact .gone
    · rw [complete_eq hget (h.present i p hp)]
      exact .marked p hp (h.present i p hp) ⟨rfl, rfl, rfl, rfl⟩

theorem Consistent.complete (h : r.Consistent) (httl : 0 < r.tombstoneTTL) (hknown : r.Known i)
    (now : ℤ) : (r.complete i now).Consistent ∧ r.Evolves (r.complete i now) fun _ => False := by
  have hcompletes := h.completes hknown now
  generalize r.complete i now = r' at hcompletes
  cases hcompletes with
  | gone => exact ⟨h, (Shrinks.refl r fun _ => False).evolves nofun⟩
  | marked p hp hpresent hroute =>
    obtain ⟨hconsistent, hshrinks⟩ := (h.touched hp hroute hpresent now).expireLocked now
    have hevolves := evolves_touched hp hroute now fun _ => False
    refine ⟨hconsistent, ?_, ?_, ?_, hshrinks.ttl, hshrinks.limit⟩
    · intro j q hq
      exact hevolves.back j q (hshrinks.back j q hq)
    · intro j q hq
      rcases eq_or_ne j i with rfl | hne
      · -- the pair itself is due only after the retention time
        have hnew : (r.touched j { p with completed := true } now).Live j _ :=
          (live_touched hp hroute).mpr (.inl ⟨rfl, rfl⟩)
        rcases hshrinks.keep j _ hnew with hstay | ⟨-, hover⟩
        · exact .inl ⟨_, hstay⟩
        · simp only [due, if_true] at hover
          omega
      · have hold : (r.touched i { p with completed := true } now).Live j q :=
          (live_touched hp hroute).mpr (.inr ⟨hne, hq⟩)
        rcases hshrinks.keep j q hold with hstay | hover
        · exact .inl ⟨q, hstay⟩
        · exact .inr (.inl hover.1)
    · rw [hshrinks.length]
      exact hevolves.length

theorem Looks.consistent {out : FrameRouteRegistry D × Option ℕ} (hlooks : Looks r now out)
    (h : r.Consistent) (taken : FrameRoutePair D → Prop) :
    out.1.Consistent ∧ r.Evolves out.1 taken := by
  obtain ⟨hconsistent, hshrinks⟩ := h.expireLocked now
  cases hlooks with
  | nothing => exact ⟨hconsistent, hshrinks.evolves fun q hq => .inl hq.1⟩
  | found i p hp =>
    exact ⟨hconsistent.touched hp (.refl p) (hconsistent.present i p hp) now,
      hshrinks.then (fun q hq => hq.1) (evolves_touched hp (.refl p) now _)⟩

theorem consistent_step (h : r.Consistent) (httl : 0 < r.tombstoneTTL) (event : Event D)
    (hknown : event.known r) :
    (step r event).1.Consistent ∧ r.Evolves (step r event).1 event.takes := by
  cases event with
  | relayGet messageID now => exact (h.relayGet_looks messageID now).consistent h _
  | clientGet key now => exact (h.clientGet_looks key now).consistent h _
  | bindPair binding now =>
    have hbinds := h.bindPair_binds binding now
    simp only [step]
    generalize r.bindPair binding now = result at hbinds
    cases hbinds with
    | refused r' hconsistent hshrinks =>
      exact ⟨hconsistent, hshrinks.evolves fun q hq => .inl hq⟩
    | known i p hp => exact (Looks.found i p hp).consistent h _
    | made r' hconsistent hshrinks hrelay hclient hroom =>
      have hadded := hconsistent.addPair hrelay hclient hroom
      have hlive : ∀ j q, (r'.addPair binding).Live j q ↔ _ := fun j q =>
        live_addPair hconsistent hrelay
      have hnew := (hlive _ _).mpr (.inl ⟨rfl, rfl⟩)
      have hlonger : r'.pairs.length ≤ (r'.addPair binding).pairs.length := by
        simp [addPair]
      have hevolves := evolves_touched hnew (.refl _) now fun _ => False
      refine ⟨hadded.touched hnew (.refl _) rfl now, hshrinks.then (fun q hq => hq) ?_⟩
      refine ⟨?_, ?_, ?_, rfl, rfl⟩
      · intro j q hq
        rcases hevolves.back j q hq with ⟨p, hp, hroute⟩ | hlong
        · rcases (hlive j p).mp hp with ⟨rfl, -⟩ | hold
          · exact .inr le_rfl
          · exact .inl ⟨p, hold, hroute⟩
        · exact .inr (hlonger.trans hlong)
      · intro j p hp
        rcases hevolves.keep j p ((hlive j p).mpr (.inr hp)) with hstay | hrest
        · exact .inl hstay
        · exact .inr hrest
      · exact hlonger.trans hevolves.length
  | complete i now => exact h.complete httl hknown now
  | purgeConnection connectionID order =>
    obtain ⟨hconsistent, hshrinks, -⟩ := h.purgeConnection connectionID order
    exact ⟨hconsistent, hshrinks.evolves fun q hq => .inr hq⟩
  | clear =>
    refine ⟨h.clear, ?_, ?_, ?_, rfl, rfl⟩
    · intro j q hq
      exact absurd hq not_live_clear
    · intro j p _
      exact .inr (.inr trivial)
    · simp only [step, clear, length_mapIdx, le_refl]

/-! ## The order of the expiry list -/

/-- The expiry list is in the order of `expiresAt`, and nothing in it is later than what a touch now
would give. -/
structure Ordered (r : FrameRouteRegistry D) (clock : ℤ) : Prop where
  sorted : r.expiry.Pairwise fun i j => ∀ p q, r.pairs[i]? = some p → r.pairs[j]? = some q →
    p.expiresAt ≤ q.expiresAt
  recent : ∀ i ∈ r.expiry, ∀ p, r.pairs[i]? = some p → p.expiresAt ≤ clock + r.tombstoneTTL

theorem Ordered.mono (h : r.Ordered clock) (hle : clock ≤ now) : r.Ordered now :=
  { h with recent := fun i hi p hp => (h.recent i hi p hp).trans (by omega) }

theorem Ordered.shrinks (h : r.Ordered clock)
    (hconsistent : r'.Consistent) (hshrinks : r.Shrinks r' lost) : r'.Ordered clock := by
  -- what is still in the list is a pair of the registry, so it did not change
  have hsame : ∀ i ∈ r'.expiry, ∀ p, r'.pairs[i]? = some p → r.pairs[i]? = some p := by
    intro i hi p hp
    obtain ⟨q, hq, -⟩ := (hconsistent.expires i).mp hi
    rw [← hq.unique hp]
    exact (hshrinks.back i q hq).1
  constructor
  · refine (h.sorted.sublist hshrinks.sublist).imp_of_mem ?_
    intro i j hi hj hle p q hp hq
    exact hle p q (hsame i hi p hp) (hsame j hj q hq)
  · intro i hi p hp
    rw [hshrinks.ttl]
    exact h.recent i (hshrinks.sublist.subset hi) p (hsame i hi p hp)

/-- A touch at the present time puts a pair at the end, or takes it out. -/
theorem Ordered.touched (h : r.Ordered clock) (hconsistent : r.Consistent) (hp : r.Live i p)
    (p' : FrameRoutePair D) (hclock : clock ≤ now) : (r.touched i p' now).Ordered now := by
  have hlt : i < r.pairs.length := lt_of_getElem? hp.1
  have hother : ∀ j ∈ r.expiry.erase i, ∀ q, (r.touched i p' now).pairs[j]? = some q →
      r.pairs[j]? = some q := by
    intro j hj q hq
    have hne := (hconsistent.nodup.mem_erase_iff.mp hj).1
    rw [← hq]
    exact (getElem?_set_ne hne.symm).symm
  have hself : ∀ q, (r.touched i p' now).pairs[i]? = some q → q = r.due p' now := by
    intro q hq
    exact mem_unique hq (getElem?_set_self hlt)
  have hrest : (r.expiry.erase i).Pairwise fun j k => ∀ q q',
      (r.touched i p' now).pairs[j]? = some q → (r.touched i p' now).pairs[k]? = some q' →
        q.expiresAt ≤ q'.expiresAt := by
    refine (h.sorted.sublist erase_sublist).imp_of_mem ?_
    intro j k hj hk hle q q' hq hq'
    exact hle q q' (hother j hj q hq) (hother k hk q' hq')
  -- no pair was touched later than now
  have hbound : ∀ j ∈ r.expiry.erase i, ∀ q, (r.touched i p' now).pairs[j]? = some q →
      q.expiresAt ≤ now + r.tombstoneTTL := by
    intro j hj q hq
    have hle := h.recent j (mem_of_mem_erase hj) q (hother j hj q hq)
    omega
  cases hcompleted : p'.completed with
  | false =>
    have hexpiry : (r.touched i p' now).expiry = r.expiry.erase i := by
      simp only [FrameRouteRegistry.touched, hcompleted, Bool.false_eq_true, if_false]
    exact ⟨hexpiry ▸ hrest, hexpiry ▸ hbound⟩
  | true =>
    have hexpiry : (r.touched i p' now).expiry = r.expiry.erase i ++ [i] := by
      simp only [FrameRouteRegistry.touched, hcompleted, if_true]
    have hdue : (r.due p' now).expiresAt = now + r.tombstoneTTL := by
      simp only [due, hcompleted, if_true]
    constructor
    · rw [hexpiry, pairwise_append]
      refine ⟨hrest, pairwise_singleton _ _, ?_⟩
      intro j hj k hk q q' hq hq'
      obtain rfl := mem_singleton.mp hk
      rw [hself q' hq', hdue]
      exact hbound j hj q hq
    · intro j hj q hq
      rw [hexpiry, mem_append] at hj
      rcases hj with hj | hj
      · exact hbound j hj q hq
      · obtain rfl := mem_singleton.mp hj
        rw [hself q hq, hdue]
        rfl

theorem Ordered.addPair (h : r.Ordered clock) (hconsistent : r.Consistent) (b : Binding D) :
    (r.addPair b).Ordered clock := by
  have hold : ∀ i ∈ r.expiry, ∀ p, (r.addPair b).pairs[i]? = some p → r.pairs[i]? = some p := by
    intro i hi p hp
    obtain ⟨q, hq, -⟩ := (hconsistent.expires i).mp hi
    rcases getElem?_append_cases hp with ⟨rfl, -⟩ | ⟨-, hget⟩
    · exact absurd (lt_of_getElem? hq.1) (Nat.lt_irrefl _)
    · exact hget
  constructor
  · refine h.sorted.imp_of_mem ?_
    intro i j hi hj hle p q hp hq
    exact hle p q (hold i hi p hp) (hold j hj q hq)
  · intro i hi p hp
    exact h.recent i hi p (hold i hi p hp)

/-- What the clock shows during a call. -/
def Event.time : Event D → Option ℤ
  | .relayGet _ now => some now
  | .clientGet _ now => some now
  | .bindPair _ now => some now
  | .complete _ now => some now
  | _ => none

theorem Looks.ordered {out : FrameRouteRegistry D × Option ℕ} (hlooks : Looks r now out)
    (h : r.Ordered clock) (hconsistent : r.Consistent) (hle : clock ≤ now) : out.1.Ordered now := by
  obtain ⟨hexpired, hshrinks⟩ := hconsistent.expireLocked now
  have hordered := h.shrinks hexpired hshrinks
  cases hlooks with
  | nothing => exact hordered.mono hle
  | found i p hp => exact hordered.touched hexpired hp p hle

theorem ordered_step (h : r.Ordered clock) (hconsistent : r.Consistent) (event : Event D)
    (hknown : event.known r) (hclock : ∀ now, event.time = some now → clock ≤ now) :
    (step r event).1.Ordered (event.time.getD clock) := by
  cases event with
  | relayGet messageID now =>
    exact (hconsistent.relayGet_looks messageID now).ordered h hconsistent (hclock now rfl)
  | clientGet key now =>
    exact (hconsistent.clientGet_looks key now).ordered h hconsistent (hclock now rfl)
  | bindPair binding now =>
    have hle := hclock now rfl
    have hbinds := hconsistent.bindPair_binds binding now
    simp only [step, Event.time, getD_some]
    generalize r.bindPair binding now = result at hbinds
    cases hbinds with
    | refused r' hafter hshrinks => exact (h.shrinks hafter hshrinks).mono hle
    | known i p hp => exact (Looks.found i p hp).ordered h hconsistent hle
    | made r' hafter hshrinks hrelay hclient hroom =>
      have hadded := (h.shrinks hafter hshrinks).addPair hafter binding
      exact hadded.touched (hafter.addPair hrelay hclient hroom)
        ((live_addPair hafter hrelay).mpr (.inl ⟨rfl, rfl⟩)) _ hle
  | complete i now =>
    have hle := hclock now rfl
    have hcompletes := hconsistent.completes hknown now
    simp only [step, Event.time, getD_some]
    generalize r.complete i now = r' at hcompletes
    cases hcompletes with
    | gone => exact h.mono hle
    | marked p hp hpresent hroute =>
      obtain ⟨hexpired, hshrinks⟩ := (hconsistent.touched hp hroute hpresent now).expireLocked now
      exact (h.touched hconsistent hp _ hle).shrinks hexpired hshrinks
  | purgeConnection connectionID order =>
    obtain ⟨hafter, hshrinks, -⟩ := hconsistent.purgeConnection connectionID order
    exact h.shrinks hafter hshrinks
  | clear => exact ⟨List.Pairwise.nil, nofun⟩

/-! ## Every run -/

/-- What a run keeps, from any consistent state on. -/
theorem consistent_run (h : r.Consistent) (hlimits : r.Limits)
    (halong : Along step (fun r event => event.known r) r events) :
    (runSteps step r events).1.Consistent ∧ (runSteps step r events).1.Limits ∧
      r.pairs.length ≤ (runSteps step r events).1.pairs.length ∧
      ∀ j q, (runSteps step r events).1.Live j q →
        (∃ p, r.Live j p ∧ SameRoute p q) ∨ r.pairs.length ≤ j := by
  induction events generalizing r with
  | nil => exact ⟨h, hlimits, le_rfl, fun j q hq => .inl ⟨q, hq, .refl q⟩⟩
  | cons event events ih =>
    obtain ⟨hconsistent, hevolves⟩ := consistent_step h hlimits.ttl event halong.1
    have hlimits' := hlimits.kept hevolves.ttl hevolves.limit
    obtain ⟨hafter, hfinal, hlength, hback⟩ := ih hconsistent hlimits' halong.2
    refine ⟨hafter, hfinal, hevolves.length.trans hlength, ?_⟩
    intro j q hq
    rcases hback j q hq with ⟨p', hp', hroute'⟩ | hnew
    · rcases hevolves.back j p' hp' with ⟨p, hp, hroute⟩ | hnew
      · exact .inl ⟨p, hp, hroute.trans hroute'⟩
      · exact .inr hnew
    · exact .inr (hevolves.length.trans hnew)

/-- A clock that never goes back keeps the expiry list in order. -/
theorem ordered_run (h : r.Ordered clock) (hconsistent : r.Consistent) (hlimits : r.Limits)
    (halong : Along step (fun r event => event.known r) r events)
    (hclock : (clock :: events.filterMap Event.time).Pairwise (· ≤ ·)) :
    ∃ clock', (runSteps step r events).1.Ordered clock' := by
  induction events generalizing r clock with
  | nil => exact ⟨clock, h⟩
  | cons event events ih =>
    obtain ⟨hafter, hevolves⟩ := consistent_step hconsistent hlimits.ttl event halong.1
    have hlimits' := hlimits.kept hevolves.ttl hevolves.limit
    obtain ⟨hfirst, hrest⟩ := pairwise_cons.mp hclock
    have hlater : ∀ now, event.time = some now → clock ≤ now := by
      intro now hnow
      exact hfirst now (mem_filterMap.mpr ⟨event, mem_cons_self, hnow⟩)
    refine ih (ordered_step h hconsistent event halong.1 hlater) hafter hlimits' halong.2 ?_
    cases htime : event.time with
    | none =>
      rw [filterMap_cons_none htime] at hclock
      exact hclock
    | some now =>
      rw [filterMap_cons_some htime] at hrest
      exact hrest

theorem Looks.live {out : FrameRouteRegistry D × Option ℕ} (hlooks : Looks r now out)
    (hout : out.2 = some i) : ∃ p, out.1.Live i p := by
  cases hlooks with
  | nothing => cases hout
  | found j p hp =>
    cases hout
    exact ⟨_, (live_touched hp (.refl p)).mpr (.inl ⟨rfl, rfl⟩)⟩

/-- The pair that a call returns is one of the registry behind it. -/
theorem live_of_step (h : r.Consistent) (event : Event D)
    (hout : (step r event).2 = some i) : ∃ p, (step r event).1.Live i p := by
  cases event with
  | relayGet messageID now => exact (h.relayGet_looks messageID now).live hout
  | clientGet key now => exact (h.clientGet_looks key now).live hout
  | bindPair binding now =>
    have hbinds := h.bindPair_binds binding now
    simp only [step] at hout ⊢
    generalize r.bindPair binding now = result at hbinds hout
    cases hbinds with
    | refused r' hconsistent hshrinks => cases hout
    | known j p hp => exact (Looks.found j p hp).live hout
    | made r' hconsistent hshrinks hrelay hclient hroom =>
      cases hout
      have hnew := (live_addPair hconsistent hrelay).mpr (.inl ⟨rfl, rfl⟩)
      exact ⟨_, (live_touched hnew (.refl _)).mpr (.inl ⟨rfl, rfl⟩)⟩
  | complete | purgeConnection | clear => cases hout

/-- Behind the purge of a connection, its pairs are new ones. -/
theorem gone_of_purge (h : r.Consistent) (hlimits : r.Limits)
    (hconnection : connectionID ≠ []) {order : GoMap.Order ℕ} {after : List (Event D)}
    (halong : Along step (fun r event => event.known r) r
      (.purgeConnection connectionID order :: after)) :
    r.pairs.length ≤
        (runSteps step r (.purgeConnection connectionID order :: after)).1.pairs.length ∧
      ∀ j q, (runSteps step r (.purgeConnection connectionID order :: after)).1.Live j q →
        q.clientKey.connectionID = connectionID → r.pairs.length ≤ j := by
  obtain ⟨hpurged, hshrinks, hgone⟩ := h.purgeConnection connectionID order
  have hpurgedLimits := hlimits.kept hshrinks.ttl hshrinks.limit
  obtain ⟨-, -, hlength, hback⟩ := consistent_run hpurged hpurgedLimits halong.2
  rw [hshrinks.length] at hlength hback
  refine ⟨hlength, ?_⟩
  intro j q hq hc
  rcases hback j q hq with ⟨p, hp, hroute⟩ | hnew
  · -- the purge left no pair of the connection
    exact absurd (hroute.clientKey ▸ hc) (hgone hconnection j p hp)
  · exact hnew

/-! ## Without `clear`

As long as nobody clears the registry, every pair is one of the registry or marked, so every pair
may be completed. The routes of the pairs never change.
-/

/-- A registry that was never cleared. -/
structure Sound (r : FrameRouteRegistry D) : Prop where
  consistent : r.Consistent
  limits : r.Limits
  known : ∀ i, r.Known i

theorem sound_new (ttl maxPairs : ℤ) : (newWithLimits D ttl maxPairs).Sound where
  consistent := consistent_new ttl maxPairs
  limits := limits_new ttl maxPairs
  known i p hp := by simp [newWithLimits] at hp

theorem Sound.shrinks (h : r.Sound) (hconsistent : r'.Consistent)
    (hshrinks : r.Shrinks r' lost) : r'.Sound where
  consistent := hconsistent
  limits := h.limits.kept hshrinks.ttl hshrinks.limit
  known := hshrinks.known h.known

theorem routes_touched (hp : r.Live i p) (hroute : SameRoute p p') (now : ℤ) :
    (r.touched i p' now).routes = r.routes :=
  map_set_of_eq hp.1 (hroute.due r now).route_eq

theorem Sound.touched (h : r.Sound) (hp : r.Live i p) (hroute : SameRoute p p')
    (hremoved : p'.removed = false) (now : ℤ) : (r.touched i p' now).Sound where
  consistent := h.consistent.touched hp hroute hremoved now
  limits := { h.limits with }
  known j q hq := by
    rcases getElem?_set_cases hq with ⟨rfl, rfl⟩ | ⟨hne, hold⟩
    · exact .inr ((live_touched hp hroute).mpr (.inl ⟨rfl, rfl⟩))
    · exact (h.known j q hold).imp_right fun hlive =>
        (live_touched hp hroute).mpr (.inr ⟨hne, hlive⟩)

theorem routes_addPair (b : Binding D) :
    (r.addPair b).routes = r.routes ++ [(b.pair r.pairs.length).route] := by
  simp [routes, addPair]

section

variable (h : r.Sound)
include h

theorem Sound.addPair (hrelay : r.relaySide.get b.relayID = none)
    (hclient : r.clientSide.get b.clientKey = none) (hroom : r.pairCount < r.maxPairs) :
    (r.addPair b).Sound where
  consistent := h.consistent.addPair hrelay hclient hroom
  limits := { h.limits with }
  known j q hq := by
    rcases getElem?_append_cases hq with ⟨rfl, rfl⟩ | ⟨-, hold⟩
    · exact .inr ((live_addPair h.consistent hrelay).mpr (.inl ⟨rfl, rfl⟩))
    · exact (h.known j q hold).imp_right fun hlive =>
        (live_addPair h.consistent hrelay).mpr (.inr hlive)

theorem Sound.expireLocked (now : ℤ) :
    (r.expireLocked now).Sound ∧ (r.expireLocked now).routes = r.routes := by
  obtain ⟨hconsistent, hshrinks⟩ := h.consistent.expireLocked now
  exact ⟨h.shrinks hconsistent hshrinks, hshrinks.routes⟩

theorem Sound.looks {out : FrameRouteRegistry D × Option ℕ} (hlooks : Looks r now out) :
    out.1.Sound ∧ out.1.routes = r.routes := by
  obtain ⟨hsound, hroutes⟩ := h.expireLocked now
  cases hlooks with
  | nothing => exact ⟨hsound, hroutes⟩
  | found i p hp =>
    exact ⟨hsound.touched hp (.refl p) (hsound.consistent.present i p hp) now,
      (routes_touched hp (.refl p) now).trans hroutes⟩

theorem Sound.relayGet (messageID : ℕ) (now : ℤ) :
    (r.relayGet messageID now).2.Sound ∧ (r.relayGet messageID now).2.routes = r.routes :=
  h.looks (h.consistent.relayGet_looks messageID now)

theorem Sound.clientGet (key : ClientRouteKey) (now : ℤ) :
    (r.clientGet key now).2.Sound ∧ (r.clientGet key now).2.routes = r.routes :=
  h.looks (h.consistent.clientGet_looks key now)

/-- What `bindPair` leaves: the routes, perhaps with a new one, and a pair that fits the call. -/
theorem Sound.bindPair (b : Binding D) (now : ℤ) :
    (r.bindPair b now).2.Sound ∧ ((r.bindPair b now).2.routes = r.routes ∨
        (r.bindPair b now).2.routes = r.routes ++ [(b.pair r.pairs.length).route]) ∧
      ∀ i p, (r.bindPair b now).1 = some i → (r.bindPair b now).2.pairs[i]? = some p →
        p.relayEntry.pair = i ∧ p.clientEntry.pair = i ∧ p.relayID = b.relayID ∧
          p.clientKey = b.clientKey ∧
          (p.route = (b.pair r.pairs.length).route ∨ ∃ q, (r.expireLocked now).Live i q ∧
            q.clientKey = b.clientKey ∧ q.totalFrames = b.totalFrames ∧ q.route = p.route) := by
  obtain ⟨hexpired, hroutes⟩ := h.expireLocked now
  have hbinds := h.consistent.bindPair_binds b now
  generalize r.bindPair b now = result at hbinds
  cases hbinds with
  | refused r' hconsistent hshrinks =>
    exact ⟨h.shrinks hconsistent hshrinks, .inl hshrinks.routes, nofun⟩
  | known i p hp hrelay hclient htotal =>
    have hpresent := hexpired.consistent.present i p hp
    have htouched := hexpired.touched hp (.refl p) hpresent now
    have hsame := (routes_touched hp (.refl p) now).trans hroutes
    refine ⟨htouched, .inl hsame, ?_⟩
    intro j q hj hq
    cases hj
    obtain ⟨hown, hown'⟩ := htouched.consistent.own i q hq
    have hget : (r.expireLocked now).routes[i]? = some p.route := by
      rw [routes, getElem?_map, hp.1]
      rfl
    -- touching a pair leaves its route alone
    have hroute : q.route = p.route := by
      rw [← routes_touched hp (.refl p) now, routes, getElem?_map, hq]
        at hget
      exact some.inj hget
    refine ⟨hown, hown', ?_, ?_, .inr ⟨p, hp, hclient, htotal, hroute.symm⟩⟩
    · rw [← hrelay]
      exact congrArg Route.relayID hroute
    · rw [← hclient]
      exact congrArg Route.clientKey hroute
  | made r' hconsistent hshrinks hrelay hclient hroom =>
    have hsound := h.shrinks hconsistent hshrinks
    -- the pair is put behind all others
    have hnew := (live_addPair hconsistent hrelay).mpr (.inl ⟨rfl, rfl⟩)
    have htouched := (hsound.addPair hrelay hclient hroom).touched hnew (.refl _) rfl now
    have hall := routes_touched hnew (.refl _) now
    rw [routes_addPair, hshrinks.routes] at hall
    rw [hshrinks.length] at *
    refine ⟨htouched, .inr hall, ?_⟩
    intro j q hj hq
    cases hj
    obtain ⟨hown, hown'⟩ := htouched.consistent.own _ q hq
    have hroute : q.route = (b.pair r.pairs.length).route := by
      have hget := congrArg (fun l => l[r.pairs.length]?) hall
      simp only [routes, getElem?_map] at hget
      rw [hq] at hget
      simpa using hget
    exact ⟨hown, hown', congrArg Route.relayID hroute, congrArg Route.clientKey hroute, .inl hroute⟩

theorem Sound.complete (i : ℕ) (now : ℤ) :
    (r.complete i now).Sound ∧ (r.complete i now).routes = r.routes := by
  have hcompletes := h.consistent.completes (h.known i) now
  generalize r.complete i now = r' at hcompletes
  cases hcompletes with
  | gone => exact ⟨h, rfl⟩
  | marked p hp hpresent hroute =>
    obtain ⟨hsound, hroutes⟩ := (h.touched hp hroute hpresent now).expireLocked now
    exact ⟨hsound, hroutes.trans (routes_touched hp hroute now)⟩

theorem Sound.purgeConnection (connectionID : Bytes) (order : GoMap.Order ℕ) :
    (r.purgeConnection connectionID order).Sound ∧
      (r.purgeConnection connectionID order).routes = r.routes := by
  obtain ⟨hconsistent, hshrinks, -⟩ := h.consistent.purgeConnection connectionID order
  exact ⟨h.shrinks hconsistent hshrinks, hshrinks.routes⟩

end

/-! ## Routing -/

/-- Routing without cross-talk, behind a sequence of calls. -/
structure Routes (ttl maxPairs : ℤ) (events : List (Event D)) : Prop where
  consistent : (run ttl maxPairs events).Consistent
  ordered : (events.filterMap Event.time).Pairwise (· ≤ ·) →
    (run ttl maxPairs events).expiry.Pairwise fun i j => ∀ p q,
      (run ttl maxPairs events).pairs[i]? = some p → (run ttl maxPairs events).pairs[j]? = some q →
        p.expiresAt ≤ q.expiresAt
  /-- The next call takes a pair away only if it is completed or the call is there to do so. -/
  evicted : ∀ event : Event D, event.known (run ttl maxPairs events) →
    ∀ i p, (run ttl maxPairs events).Live i p →
      (¬ ∃ q, (step (run ttl maxPairs events) event).1.Live i q) → p.completed ∨ event.takes p
  /-- The next call returns no pair that a purge of its connection found. -/
  purged : ∀ before connectionID order after,
    events = before ++ .purgeConnection connectionID order :: after → connectionID ≠ [] →
    ∀ event : Event D, event.known (run ttl maxPairs events) →
      ∀ i p, (step (run ttl maxPairs events) event).2 = some i →
        (step (run ttl maxPairs events) event).1.pairs[i]? = some p →
        p.clientKey.connectionID = connectionID → (run ttl maxPairs before).pairs.length ≤ i

/-- As long as no pair is completed that `clear` dropped unmarked, the routes are a bijection
without cross-talk. -/
theorem registry_routes (ttl maxPairs : ℤ) (events : List (Event D))
    (hknown : Along step (fun r event => event.known r) (newWithLimits D ttl maxPairs) events) :
    Routes ttl maxPairs events := by
  have hnew := consistent_new (D := D) ttl maxPairs
  have hlimits := limits_new (D := D) ttl maxPairs
  obtain ⟨hconsistent, hfinal, -⟩ := consistent_run hnew hlimits hknown
  refine ⟨hconsistent, ?_, ?_, ?_⟩
  · intro hclock
    have hempty : ∀ clock, (newWithLimits D ttl maxPairs).Ordered clock := fun clock =>
      ⟨List.Pairwise.nil, nofun⟩
    -- the first reading serves as the time of the empty list
    obtain ⟨clock, hstart⟩ : ∃ clock, (clock :: events.filterMap Event.time).Pairwise (· ≤ ·) := by
      cases htimes : events.filterMap Event.time with
      | nil => exact ⟨0, pairwise_singleton _ _⟩
      | cons now times =>
        rw [htimes] at hclock
        refine ⟨now, pairwise_cons.mpr ⟨?_, hclock⟩⟩
        exact forall_mem_cons.mpr ⟨le_rfl, (pairwise_cons.mp hclock).1⟩
    obtain ⟨_, hordered⟩ := ordered_run (hempty clock) hnew hlimits hknown hstart
    exact hordered.sorted
  · intro event hevent i p hp hgone
    rcases (consistent_step hconsistent hfinal.ttl event hevent).2.keep i p hp with hstay | htaken
    · exact absurd hstay hgone
    · exact htaken
  · rintro before connectionID order after rfl hconnection event hevent i p hout hget hc
    obtain ⟨hbefore, hrest⟩ := along_append.mp hknown
    obtain ⟨hfirst, hfirstLimits, -⟩ := consistent_run hnew hlimits hbefore
    obtain ⟨hlength, hgone⟩ := gone_of_purge hfirst hfirstLimits hconnection hrest
    rw [← runSteps_append] at hlength hgone
    obtain ⟨q, hq⟩ := live_of_step hconsistent event hout
    obtain rfl := hq.unique hget
    rcases (consistent_step hconsistent hfinal.ttl event hevent).2.back i q hq with
      ⟨p', hp', hroute⟩ | hnewer
    · exact hgone i p' hp' (hroute.clientKey ▸ hc)
    · exact hlength.trans hnewer

/-- The arguments of a call that binds a message id to itself. -/
def sampleBinding (n : ℕ) : Binding Unit := ⟨n, (), n, ⟨[1], n⟩, (), n, 1⟩

theorem registry_routes_sample :
    Routes 10 1 [.bindPair (sampleBinding 1) 0, .complete 0 5, .relayGet 1 20,
      .bindPair (sampleBinding 2) 20, .clear] := by
  refine registry_routes 10 1 _ ⟨trivial, ?_, trivial, trivial, trivial, trivial⟩
  intro p hp
  refine .inr ⟨hp, ?_⟩
  cases hp
  rfl

/-- `clear` drops a pair that is not completed without marking it. When its entry is completed
later, the pair enters the expiry list, and its expiry is counted although it was not among the
pairs: a registry for one pair then holds two. -/
theorem cleared_pair_completed :
    let events : List (Event Unit) := [.bindPair (sampleBinding 1) 0, .clear, .complete 0 0,
      .bindPair (sampleBinding 2) 0, .relayGet 2 20, .bindPair (sampleBinding 3) 20]
    (run 10 1 (events.take 3)).expiry = [0] ∧ (run 10 1 (events.take 3)).relaySide.len = 0 ∧
      (run 10 1 events).maxPairs = 1 ∧ (run 10 1 events).pairCount = 1 ∧
      (run 10 1 events).relaySide.len = 2 ∧ ¬ Routes 10 1 events := by
  refine ⟨by decide +kernel, by decide +kernel, by decide +kernel, by decide +kernel,
    by decide +kernel, fun h => ?_⟩
  have hlen := h.consistent.relayLen
  revert hlen
  decide +kernel

end NatP2P.Network.FrameRouteRegistry
