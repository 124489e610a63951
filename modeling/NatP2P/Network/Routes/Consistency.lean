import NatP2P.Network.Routes.Registry

/-!
# One set of pairs

The maps, the connections and the expiry list of a registry describe one set of pairs. Every method
takes pairs out of that set, puts a new one in, or touches one.
-/

namespace NatP2P.Network

open List GoMap Option FrameRouteRegistry

namespace FrameRouteRegistry

section

variable {D : Type*}

/-- `p` is a pair of the registry and is stored under its relay id. -/
def Live (r : FrameRouteRegistry D) (i : ℕ) (p : FrameRoutePair D) : Prop :=
  r.pairs[i]? = some p ∧ r.relaySide.get p.relayID = some p.relayEntry

/-- The part of a pair that never changes. -/
structure Route (D : Type*) where
  relayID : ℕ
  clientKey : ClientRouteKey
  relayEntry : FrameRouteEntry D
  clientEntry : FrameRouteEntry D

end

end FrameRouteRegistry

/-- The route of a pair. -/
def FrameRoutePair.route {D : Type*} (p : FrameRoutePair D) : FrameRouteRegistry.Route D :=
  ⟨p.relayID, p.clientKey, p.relayEntry, p.clientEntry⟩

namespace FrameRouteRegistry

variable {D : Type*} {r r' : FrameRouteRegistry D} {i j : ℕ} {p q : FrameRoutePair D}

/-- The routes of all pairs that were ever made. -/
def routes (r : FrameRouteRegistry D) : List (Route D) := r.pairs.map FrameRoutePair.route

/-- A pair that the caller may complete: it is one of the registry, or it was marked as removed. -/
def Known (r : FrameRouteRegistry D) (i : ℕ) : Prop :=
  ∀ p, r.pairs[i]? = some p → p.removed = true ∨ r.Live i p

/-- A pair belongs to a connection. -/
def Member (connectionPairs : GoMap Bytes (Finset ℕ)) (connectionID : Bytes) (i : ℕ) : Prop :=
  ∃ connectionSet, connectionPairs.get connectionID = some connectionSet ∧ i ∈ connectionSet

/-- The indexes of a registry agree. -/
structure Consistent (r : FrameRouteRegistry D) : Prop where
  own : ∀ (i : ℕ) (p : FrameRoutePair D), r.pairs[i]? = some p →
    p.relayEntry.pair = i ∧ p.clientEntry.pair = i
  relay : ∀ id e, r.relaySide.get id = some e →
    ∃ p, r.Live e.pair p ∧ p.relayID = id ∧ p.relayEntry = e
  client : ∀ key e, r.clientSide.get key = some e →
    ∃ p, r.Live e.pair p ∧ p.clientKey = key ∧ p.clientEntry = e
  both : ∀ i p, r.Live i p → r.clientSide.get p.clientKey = some p.clientEntry
  present : ∀ i p, r.Live i p → p.removed = false
  relayLen : r.relaySide.len = r.pairCount
  clientLen : r.clientSide.len = r.pairCount
  bounded : r.pairCount ≤ r.maxPairs
  connections : ∀ c i, Member r.connectionPairs c i ↔ ∃ p, r.Live i p ∧ p.clientKey.connectionID = c
  nonempty : ∀ c connectionSet, r.connectionPairs.get c = some connectionSet →
    connectionSet.Nonempty
  nodup : r.expiry.Nodup
  expires : ∀ i, i ∈ r.expiry ↔ ∃ p, r.Live i p ∧ p.completed

theorem consistent_new (ttl maxPairs : ℤ) : (newWithLimits D ttl maxPairs).Consistent where
  own i p hp := by simp [newWithLimits] at hp
  relay id e he := by simp [newWithLimits] at he
  client key e he := by simp [newWithLimits] at he
  both i p hp := by simp [newWithLimits, Live] at hp
  present i p hp := by simp [newWithLimits, Live] at hp
  relayLen := rfl
  clientLen := rfl
  bounded := Nat.zero_le _
  connections c i := by simp [newWithLimits, Live, Member]
  nonempty c s hs := by simp [newWithLimits] at hs
  nodup := nodup_nil
  expires i := by simp [newWithLimits, Live]

theorem Live.unique (hp : r.Live i p) (hq : r.pairs[i]? = some q) : p = q := mem_unique hp.1 hq

theorem Consistent.relayID_ne (h : r.Consistent) (hp : r.Live i p) (hq : r.Live j q) (hne : j ≠ i) :
    q.relayID ≠ p.relayID := by
  intro heq
  have hsame : some q.relayEntry = some p.relayEntry := by rw [← hq.2, heq, hp.2]
  apply hne
  rw [← (h.own j q hq.1).1, some.inj hsame, (h.own i p hp.1).1]

theorem Consistent.clientKey_ne (h : r.Consistent) (hp : r.Live i p) (hq : r.Live j q)
    (hne : j ≠ i) : q.clientKey ≠ p.clientKey := by
  intro heq
  have hsame : some q.clientEntry = some p.clientEntry := by
    rw [← h.both j q hq, heq, h.both i p hp]
  apply hne
  rw [← (h.own j q hq.1).2, some.inj hsame, (h.own i p hp.1).2]

/-! ## A pair leaves -/

theorem member_leaveConnection {connectionID c : Bytes} :
    Member (r.leaveConnection connectionID i) c j ↔
      Member r.connectionPairs c j ∧ ¬ (c = connectionID ∧ j = i) := by
  unfold leaveConnection Member
  split
  · next hnone =>
    refine ⟨fun ⟨s, hs, hj⟩ => ⟨⟨s, hs, hj⟩, ?_⟩, fun h => h.1⟩
    rintro ⟨rfl, -⟩
    rw [hnone] at hs
    cases hs
  · next connectionSet hsome =>
    rcases eq_or_ne c connectionID with rfl | hne
    · split
      · next hempty =>
        have honly : ∀ k ∈ connectionSet, k = i := by
          intro k hk
          by_contra hki
          have hmem : k ∈ connectionSet.erase i := Finset.mem_erase.mpr ⟨hki, hk⟩
          rw [hempty] at hmem
          exact absurd hmem (Finset.notMem_empty k)
        refine ⟨?_, ?_⟩
        · rintro ⟨s, hs, -⟩
          rw [get_delete_self] at hs
          cases hs
        · rintro ⟨⟨s, hs, hj⟩, hnot⟩
          rw [hsome] at hs
          cases hs
          exact absurd ⟨rfl, honly j hj⟩ hnot
      · simp only [get_set_self, hsome, some.injEq, exists_eq_left', Finset.mem_erase, true_and]
        exact and_comm
    · split <;> simp [hne]

theorem nonempty_leaveConnection {connectionID : Bytes}
    (h : ∀ c s, r.connectionPairs.get c = some s → s.Nonempty) :
    ∀ c s, (r.leaveConnection connectionID i).get c = some s → s.Nonempty := by
  intro c s hs
  unfold leaveConnection at hs
  split at hs
  · exact h c s hs
  · next connectionSet hsome =>
    split at hs
    · exact h c s (get_delete_eq_some.mp hs).2
    · next hempty =>
      rcases get_set_eq_some.mp hs with ⟨-, rfl⟩ | ⟨-, hold⟩
      · exact Finset.nonempty_iff_ne_empty.mpr hempty
      · exact h c s hold

/-- What `removePairLocked` does to a pair of the registry. -/
theorem Consistent.removePairLocked_eq (h : r.Consistent) (hp : r.Live i p) :
    r.removePairLocked i = { r with
      relaySide := r.relaySide.delete p.relayID
      clientSide := r.clientSide.delete p.clientKey
      expiry := r.expiry.erase i
      connectionPairs := r.leaveConnection p.clientKey.connectionID i
      pairs := r.pairs.set i { p with removed := true }
      pairCount := r.pairCount - 1 } := by
  obtain ⟨hrelay, hclient⟩ := h.own i p hp.1
  simp only [removePairLocked, hp.1, h.present i p hp, hp.2, h.both i p hp, map_some, hrelay,
    hclient, if_true, Bool.false_eq_true, if_false]

theorem Consistent.live_remove (h : r.Consistent) (hp : r.Live i p) :
    (r.removePairLocked i).Live j q ↔ r.Live j q ∧ j ≠ i := by
  rw [h.removePairLocked_eq hp]
  constructor
  · rintro ⟨hget, hstored⟩
    rcases getElem?_set_cases hget with ⟨rfl, rfl⟩ | ⟨hne, hold⟩
    · rw [get_delete_self] at hstored
      cases hstored
    · refine ⟨⟨hold, ?_⟩, hne⟩
      exact (get_delete_eq_some.mp hstored).2
  · rintro ⟨hq, hne⟩
    refine ⟨?_, ?_⟩
    · rw [getElem?_set_ne hne.symm]
      exact hq.1
    · rw [get_delete_ne (h.relayID_ne hp hq hne)]
      exact hq.2

/-- Taking out a pair keeps the indexes in agreement. -/
theorem Consistent.remove (h : r.Consistent) (hp : r.Live i p) :
    (r.removePairLocked i).Consistent := by
  have hlive : ∀ j q, (r.removePairLocked i).Live j q ↔ r.Live j q ∧ j ≠ i :=
    fun j q => h.live_remove hp
  have hrelay := len_delete_of_get hp.2
  have hclient := len_delete_of_get (h.both i p hp)
  have hrelayLen := h.relayLen
  have hclientLen := h.clientLen
  have hbounded := h.bounded
  have heq := h.removePairLocked_eq hp
  refine ⟨?_, ?_, ?_, ?_, ?_, ?_, ?_, ?_, ?_, ?_, ?_, ?_⟩
  · intro j q hq
    rw [heq] at hq
    rcases getElem?_set_cases hq with ⟨rfl, rfl⟩ | ⟨-, hold⟩
    · exact h.own j p hp.1
    · exact h.own j q hold
  · intro id e he
    simp only [heq, get_delete] at he
    split_ifs at he with hid
    obtain ⟨q, hq, rfl, rfl⟩ := h.relay id e he
    refine ⟨q, (hlive _ q).mpr ⟨hq, ?_⟩, rfl, rfl⟩
    -- the entry of the pair itself is deleted, and no other one leads to it
    intro hsame
    exact hid (by rw [hq.unique (hsame ▸ hp.1)])
  · intro key e he
    simp only [heq, get_delete] at he
    split_ifs at he with hkey
    obtain ⟨q, hq, rfl, rfl⟩ := h.client key e he
    refine ⟨q, (hlive _ q).mpr ⟨hq, ?_⟩, rfl, rfl⟩
    intro hsame
    exact hkey (by rw [hq.unique (hsame ▸ hp.1)])
  · intro j q hq
    obtain ⟨hq, hne⟩ := (hlive j q).mp hq
    simp only [heq]
    rw [get_delete_ne (h.clientKey_ne hp hq hne)]
    exact h.both j q hq
  · intro j q hq
    exact h.present j q ((hlive j q).mp hq).1
  · simp only [heq]
    omega
  · simp only [heq]
    omega
  · simp only [heq]
    omega
  · intro c j
    simp only [heq]
    rw [member_leaveConnection, h.connections]
    constructor
    · -- the set of a connection loses this pair and keeps the rest
      rintro ⟨⟨q, hq, rfl⟩, hnot⟩
      refine ⟨q, ?_, rfl⟩
      have hne : j ≠ i := by
        rintro rfl
        exact hnot ⟨by rw [hq.unique hp.1], rfl⟩
      exact heq ▸ (hlive j q).mpr ⟨hq, hne⟩
    · rintro ⟨q, hq, rfl⟩
      obtain ⟨hq, hne⟩ := (hlive j q).mp (heq ▸ hq)
      exact ⟨⟨q, hq, rfl⟩, fun hsame => hne hsame.2⟩
  · simp only [heq]
    exact nonempty_leaveConnection h.nonempty
  · simp only [heq]
    exact h.nodup.erase i
  · intro j
    rw [show (r.removePairLocked i).expiry = r.expiry.erase i by rw [heq], h.nodup.mem_erase_iff,
      h.expires]
    constructor
    · rintro ⟨hne, q, hq, hcompleted⟩
      exact ⟨q, (hlive j q).mpr ⟨hq, hne⟩, hcompleted⟩
    · rintro ⟨q, hq, hcompleted⟩
      obtain ⟨hq, hne⟩ := (hlive j q).mp hq
      exact ⟨hne, q, hq, hcompleted⟩

/-- Pairs leave a registry. What was lost has a property, and what stays is as it was. -/
structure Shrinks (r r' : FrameRouteRegistry D) (lost : FrameRoutePair D → Prop) : Prop where
  back : ∀ j q, r'.Live j q → r.Live j q
  keep : ∀ j q, r.Live j q → r'.Live j q ∨ lost q
  sublist : r'.expiry.Sublist r.expiry
  routes : r'.routes = r.routes
  known : (∀ i, r.Known i) → ∀ i, r'.Known i
  ttl : r'.tombstoneTTL = r.tombstoneTTL
  limit : r'.maxPairs = r.maxPairs

namespace Shrinks

variable {r'' : FrameRouteRegistry D} {lost lost' : FrameRoutePair D → Prop}

theorem refl (r : FrameRouteRegistry D) (lost : FrameRoutePair D → Prop) : r.Shrinks r lost where
  back _ _ hq := hq
  keep _ _ hq := .inl hq
  sublist := List.Sublist.refl _
  routes := rfl
  known := id
  ttl := rfl
  limit := rfl

theorem trans (h : r.Shrinks r' lost) (h' : r'.Shrinks r'' lost) : r.Shrinks r'' lost where
  back j q hq := h.back j q (h'.back j q hq)
  keep j q hq := by
    rcases h.keep j q hq with hq | hq
    · exact h'.keep j q hq
    · exact .inr hq
  sublist := h'.sublist.trans h.sublist
  routes := h'.routes.trans h.routes
  known hknown := h'.known (h.known hknown)
  ttl := h'.ttl.trans h.ttl
  limit := h'.limit.trans h.limit

theorem length (h : r.Shrinks r' lost) : r'.pairs.length = r.pairs.length := by
  have hlength := congrArg List.length h.routes
  simpa only [FrameRouteRegistry.routes, List.length_map] using hlength

theorem mono (h : r.Shrinks r' lost) (himp : ∀ q, lost q → lost' q) : r.Shrinks r' lost' :=
  { h with keep := fun j q hq => (h.keep j q hq).imp_right (himp q) }

end Shrinks

theorem Consistent.shrinks_remove (h : r.Consistent) (hp : r.Live i p)
    {lost : FrameRoutePair D → Prop} (hlost : lost p) :
    r.Shrinks (r.removePairLocked i) lost where
  back j q hq := ((h.live_remove hp).mp hq).1
  keep j q hq := by
    rcases eq_or_ne j i with rfl | hne
    · exact .inr (hq.unique hp.1 ▸ hlost)
    · exact .inl ((h.live_remove hp).mpr ⟨hq, hne⟩)
  sublist := by
    rw [h.removePairLocked_eq hp]
    exact erase_sublist
  routes := by
    rw [h.removePairLocked_eq hp]
    exact map_set_of_eq hp.1 rfl
  known hknown j q hq := by
    have hget := hq
    rw [h.removePairLocked_eq hp] at hget
    rcases getElem?_set_cases hget with ⟨rfl, rfl⟩ | ⟨hne, hold⟩
    · exact .inl rfl
    · exact (hknown j q hold).imp_right fun hlive => (h.live_remove hp).mpr ⟨hlive, hne⟩
  ttl := by rw [h.removePairLocked_eq hp]
  limit := by rw [h.removePairLocked_eq hp]

/-! ## Expiry and eviction -/

theorem Consistent.expireLoop (h : r.Consistent) (now : ℤ) (fuel : ℕ) :
    (expireLoop now fuel r).Consistent ∧
      r.Shrinks (expireLoop now fuel r) fun q => q.completed ∧ q.expiresAt ≤ now := by
  induction fuel generalizing r with
  | zero => exact ⟨h, .refl r _⟩
  | succ fuel ih =>
    unfold expireLoop
    split
    · exact ⟨h, .refl r _⟩
    next i rest hexpiry =>
    -- the front is a completed pair of the registry, so the branch for others is not taken
    obtain ⟨p, hp, hcompleted⟩ := (h.expires i).mp (hexpiry ▸ mem_cons_self)
    simp only [hp.1, hcompleted, Bool.true_eq_false, if_false]
    split
    · exact ⟨h, .refl r _⟩
    next hover =>
    obtain ⟨hconsistent, hshrinks⟩ := ih (h.remove hp)
    exact ⟨hconsistent, (h.shrinks_remove hp ⟨hcompleted, not_lt.mp hover⟩).trans hshrinks⟩

theorem Consistent.expireLocked (h : r.Consistent) (now : ℤ) :
    (r.expireLocked now).Consistent ∧
      r.Shrinks (r.expireLocked now) fun q => q.completed ∧ q.expiresAt ≤ now :=
  h.expireLoop now r.expiry.length

theorem Consistent.evictOldestCompletedLocked (h : r.Consistent) :
    r.evictOldestCompletedLocked.2.Consistent ∧
      r.Shrinks r.evictOldestCompletedLocked.2 (fun q => q.completed) := by
  unfold FrameRouteRegistry.evictOldestCompletedLocked
  split
  · exact ⟨h, .refl r _⟩
  · next i hfind =>
    obtain ⟨p, hp, hcompleted⟩ := (h.expires i).mp (mem_of_find?_eq_some hfind)
    exact ⟨h.remove hp, h.shrinks_remove hp hcompleted⟩

/-- A full registry makes room for a pair by evicting completed ones. -/
theorem Consistent.makeRoom (h : r.Consistent) (fuel : ℕ) :
    (makeRoom fuel r).2.Consistent ∧ r.Shrinks (makeRoom fuel r).2 (fun q => q.completed) ∧
      ((makeRoom fuel r).1 → (makeRoom fuel r).2.pairCount < (makeRoom fuel r).2.maxPairs) := by
  induction fuel generalizing r with
  | zero => exact ⟨h, .refl r _, of_decide_eq_true⟩
  | succ fuel ih =>
    obtain ⟨hconsistent, hshrinks⟩ := h.evictOldestCompletedLocked
    unfold makeRoom
    split
    · next hroom => exact ⟨h, .refl r _, fun _ => hroom⟩
    · split
      · next hevict =>
        rw [hevict] at hconsistent hshrinks
        exact ⟨hconsistent, hshrinks, nofun⟩
      · next hevict =>
        rw [hevict] at hconsistent hshrinks
        obtain ⟨hafter, hmore, hroom⟩ := ih hconsistent
        exact ⟨hafter, hshrinks.trans hmore, hroom⟩

/-! ## A pair is touched -/

/-- Two states of one pair. -/
structure SameRoute (p p' : FrameRoutePair D) : Prop where
  relayID : p'.relayID = p.relayID
  clientKey : p'.clientKey = p.clientKey
  relayEntry : p'.relayEntry = p.relayEntry
  clientEntry : p'.clientEntry = p.clientEntry

theorem SameRoute.refl (p : FrameRoutePair D) : SameRoute p p := ⟨rfl, rfl, rfl, rfl⟩

theorem SameRoute.route_eq {p p' : FrameRoutePair D} (h : SameRoute p p') : p'.route = p.route := by
  rw [FrameRoutePair.route, h.relayID, h.clientKey, h.relayEntry, h.clientEntry]
  rfl

theorem SameRoute.trans {p p' p'' : FrameRoutePair D} (h : SameRoute p p')
    (h' : SameRoute p' p'') : SameRoute p p'' :=
  ⟨h'.relayID.trans h.relayID, h'.clientKey.trans h.clientKey, h'.relayEntry.trans h.relayEntry,
    h'.clientEntry.trans h.clientEntry⟩

/-- The pairs behind a change of the flags of one. -/
theorem live_modify {p' : FrameRoutePair D} (hp : r.Live i p) (hroute : SameRoute p p')
    (expiry : List ℕ) :
    Live { r with expiry, pairs := r.pairs.set i p' } j q ↔
      (j = i ∧ q = p') ∨ (j ≠ i ∧ r.Live j q) := by
  have hlt : i < r.pairs.length := lt_of_getElem? hp.1
  constructor
  · rintro ⟨hget, hstored⟩
    rcases getElem?_set_cases hget with hnew | ⟨hne, hold⟩
    · exact .inl hnew
    · exact .inr ⟨hne, hold, hstored⟩
  · rintro (⟨rfl, rfl⟩ | ⟨hne, hq⟩)
    · refine ⟨getElem?_set_self hlt, ?_⟩
      show r.relaySide.get q.relayID = some q.relayEntry
      rw [hroute.relayID, hroute.relayEntry]
      exact hp.2
    · exact ⟨(getElem?_set_ne hne.symm).trans hq.1, hq.2⟩

/-- A change of the flags of a pair, with its place in the expiry list. -/
theorem Consistent.modify (h : r.Consistent) (hp : r.Live i p) {p' : FrameRoutePair D}
    (hroute : SameRoute p p') (hremoved : p'.removed = false) {expiry : List ℕ}
    (hnodup : expiry.Nodup)
    (hexpiry : ∀ j, j ∈ expiry ↔ (j = i ∧ p'.completed) ∨ (j ≠ i ∧ j ∈ r.expiry)) :
    Consistent { r with expiry, pairs := r.pairs.set i p' } := by
  have hlive : ∀ j q, Live { r with expiry, pairs := r.pairs.set i p' } j q ↔
      (j = i ∧ q = p') ∨ (j ≠ i ∧ r.Live j q) := fun j q => live_modify hp hroute expiry
  -- a pair of the old registry is a pair of the new one with the same route
  have hkeep : ∀ j q, r.Live j q →
      ∃ q', Live { r with expiry, pairs := r.pairs.set i p' } j q' ∧ SameRoute q q' := by
    intro j q hq
    rcases eq_or_ne j i with rfl | hne
    · exact ⟨p', (hlive j p').mpr (.inl ⟨rfl, rfl⟩), hq.unique hp.1 ▸ hroute⟩
    · exact ⟨q, (hlive j q).mpr (.inr ⟨hne, hq⟩), .refl q⟩
  refine ⟨?_, ?_, ?_, ?_, ?_, h.relayLen, h.clientLen, h.bounded, ?_, h.nonempty, hnodup, ?_⟩
  · intro j q hq
    rcases getElem?_set_cases hq with ⟨rfl, rfl⟩ | ⟨-, hold⟩
    · rw [hroute.relayEntry, hroute.clientEntry]
      exact h.own j p hp.1
    · exact h.own j q hold
  · intro id e he
    obtain ⟨q, hq, rfl, rfl⟩ := h.relay id e he
    obtain ⟨q', hq', hsame⟩ := hkeep _ q hq
    exact ⟨q', hq', hsame.relayID, hsame.relayEntry⟩
  · intro key e he
    obtain ⟨q, hq, rfl, rfl⟩ := h.client key e he
    obtain ⟨q', hq', hsame⟩ := hkeep _ q hq
    exact ⟨q', hq', hsame.clientKey, hsame.clientEntry⟩
  · intro j q hq
    rcases (hlive j q).mp hq with ⟨rfl, rfl⟩ | ⟨-, hold⟩
    · rw [hroute.clientKey, hroute.clientEntry]
      exact h.both j p hp
    · exact h.both j q hold
  · intro j q hq
    rcases (hlive j q).mp hq with ⟨rfl, rfl⟩ | ⟨-, hold⟩
    · exact hremoved
    · exact h.present j q hold
  · intro c j
    rw [show Member _ c j ↔ _ from h.connections c j]
    constructor
    · rintro ⟨q, hq, rfl⟩
      obtain ⟨q', hq', hsame⟩ := hkeep j q hq
      exact ⟨q', hq', by rw [hsame.clientKey]⟩
    · rintro ⟨q, hq, rfl⟩
      rcases (hlive j q).mp hq with ⟨rfl, rfl⟩ | ⟨-, hold⟩
      · exact ⟨p, hp, by rw [hroute.clientKey]⟩
      · exact ⟨q, hold, rfl⟩
  · intro j
    rw [show j ∈ _ ↔ _ from hexpiry j]
    constructor
    · rintro (⟨rfl, hcompleted⟩ | ⟨hne, hmem⟩)
      · exact ⟨p', (hlive j p').mpr (.inl ⟨rfl, rfl⟩), hcompleted⟩
      · obtain ⟨q, hq, hcompleted⟩ := (h.expires j).mp hmem
        exact ⟨q, (hlive j q).mpr (.inr ⟨hne, hq⟩), hcompleted⟩
    · rintro ⟨q, hq, hcompleted⟩
      rcases (hlive j q).mp hq with ⟨rfl, rfl⟩ | ⟨hne, hold⟩
      · exact .inl ⟨rfl, hcompleted⟩
      · exact .inr ⟨hne, (h.expires j).mpr ⟨q, hold, hcompleted⟩⟩

end FrameRouteRegistry

end NatP2P.Network
