import NatP2P.Network.Failover.Effects

/-!
# Which message an id belongs to

An id that was taken from a stream belongs to one message for ever: the counters of the streams only
go up, so no id is given twice until a counter comes round. `Bound` says of an id that it belongs to
a message, and that its ACK is found as long as the route and the adapter are there. `Tracked` says
of all routes that they lead where their messages belong: the message of a peer back to the leg and
the id that it came from, and a message that goes out to an id of its own.

`R` and `A` are what is known of messages: which one came in under which key, and which ones were
given out to be sent.
-/

namespace NatP2P.Network.DualFrameRelayEndpoint

open GoMap

variable {e e' : DualFrameRelayEndpoint} {w : Warrant} {l id stream serial : ℕ}
  {route : DualFrameRoute} {kind : LegID} {adapter : TcpFrameAdapter}

/-- An id of an adapter belongs to a message, and the route with this serial number knows it. -/
structure Bound (e : DualFrameRelayEndpoint) (adapter : TcpFrameAdapter) (id l serial : ℕ) :
    Prop where
  owner : e.owners.get (adapter.stream, id) = some l
  serial_lt : serial < e.routeCount
  adapter_lt : adapter.serial < e.adapterCount
  key_mem : ∀ route, e.routes.get l = some route → route.serial = serial →
    e.adapters.get adapter.kind = some adapter → ⟨adapter.kind, adapter, [], id⟩ ∈ route.ackKeys

/-- The ids that belong to messages were taken from their streams. -/
def Owned (e : DualFrameRelayEndpoint) : Prop :=
  ∀ stream id l, e.owners.get (stream, id) = some l → id ≤ e.frameIdGen stream

/-- The next id of a stream belongs to no message, until its counter comes round. -/
theorem Owned.ne_next (h : Owned e) {stream' : ℕ} (hlt : e.frameIdGen stream' + 1 < 2 ^ 64)
    (hget : e.owners.get (stream, id) = some l) :
    (stream, id) ≠ (stream', FrameIdGenerator.next (e.frameIdGen stream')) := by
  intro heq
  rw [FrameIdGenerator.next, add64_eq hlt] at heq
  obtain ⟨rfl, rfl⟩ := Prod.mk.inj heq
  have hle := h _ _ l hget
  omega

theorem Owned.kept (h : Owned e) (hchange : Change w e e') (hbounded : Bounded e')
    (hget : e.owners.get (stream, id) = some l) : e'.owners.get (stream, id) = some l := by
  cases hchange with
  | @remove l' =>
    obtain ⟨_, _, _, _, _, heq⟩ := Sound.removeRouteLocked_eq e l'
    rw [heq]
    exact hget
  | move | openRoute =>
    have hlt := Sound.taken_lt hbounded rfl (Finset.mem_insert_self _ _)
    exact (get_set_ne (h.ne_next hlt hget)).trans hget
  | revise | drop | clean | admitRoute | forgetAck | forgetIncoming | observe | takeFrameId | alloc
  | detach | shut | clear => exact hget

/-- What belongs to a message stays with it, and what is bound stays bound. -/
structure Keeps (e e' : DualFrameRelayEndpoint) : Prop where
  owner : ∀ id l, e.owners.get id = some l → e'.owners.get id = some l
  bound : ∀ adapter id l serial, Bound e adapter id l serial → Bound e' adapter id l serial

theorem Owned.bind (h : Owned e) (hle : ∀ s, e.frameIdGen s ≤ e'.frameIdGen s)
    (hnext : FrameIdGenerator.next (e.frameIdGen adapter.stream) ≤ e'.frameIdGen adapter.stream)
    (howners : e'.owners =
      e.owners.set (adapter.stream, FrameIdGenerator.next (e.frameIdGen adapter.stream)) l) :
    Owned e' := by
  intro stream id l' hget
  rw [howners, get_set] at hget
  split_ifs at hget with heq
  · obtain ⟨rfl, rfl⟩ := Prod.mk.inj heq
    exact hnext
  · exact (h stream id l' hget).trans (hle stream)

theorem Owned.change (h : Owned e) (hchange : Change w e e') : Owned e' := by
  have hle := hchange.generators.2.1
  cases hchange with
  | @remove l' =>
    obtain ⟨_, _, _, _, _, heq⟩ := Sound.removeRouteLocked_eq e l'
    rw [heq]
    exact h
  | move | openRoute => exact h.bind hle (Sound.next_le_takeFrameId e _) rfl
  | takeFrameId => exact fun s id l hget => (h s id l hget).trans (hle s)
  | revise | drop | clean | admitRoute | forgetAck | forgetIncoming | observe | alloc | detach
  | shut | clear => exact h

/-- The message had a route with this serial number, and `route` has all the keys that it had for an
adapter that is there. -/
def Knows (e : DualFrameRelayEndpoint) (adapter : TcpFrameAdapter) (l serial : ℕ)
    (route : DualFrameRoute) : Prop :=
  ∃ r, e.routes.get l = some r ∧ r.serial = serial ∧ ∀ key ∈ r.ackKeys, key.adapter = adapter →
    e.adapters.get adapter.kind = some adapter → key ∈ route.ackKeys

/-- A change that leaves what the route knows of an adapter that is there. -/
theorem Bound.of_routes (h : Bound e adapter id l serial)
    (howner : e'.owners.get (adapter.stream, id) = some l) (hcount : e.routeCount ≤ e'.routeCount)
    (hadapterCount : e.adapterCount ≤ e'.adapterCount)
    (hadapters : e'.adapters.get adapter.kind = some adapter →
      e.adapters.get adapter.kind = some adapter)
    (hroutes : ∀ r, e'.routes.get l = some r → r.serial = serial → Knows e adapter l serial r) :
    Bound e' adapter id l serial where
  owner := howner
  serial_lt := h.serial_lt.trans_le hcount
  adapter_lt := h.adapter_lt.trans_le hadapterCount
  key_mem r' hget hserial hattached := by
    obtain ⟨r, hr, hrserial, hkeys⟩ := hroutes r' hget hserial
    exact hkeys _ (h.key_mem r hr hrserial (hadapters hattached)) rfl (hadapters hattached)

/-- Every change leaves an id that belongs to a message bound. -/
theorem Bound.change (howned : Owned e) (h : Bound e adapter id l serial)
    (hchange : Change w e e') (hbounded : Bounded e') : Bound e' adapter id l serial := by
  have howner := howned.kept hchange hbounded h.owner
  have hsame : ∀ r, e.routes.get l = some r → r.serial = serial → Knows e adapter l serial r :=
    fun r hr hserial => ⟨r, hr, hserial, fun _ hkey _ _ => hkey⟩
  have hset : ∀ {l' r'}, (∀ r : DualFrameRoute, r' = r → r.serial = serial → l = l' →
      Knows e adapter l serial r) → ∀ r, (e.routes.set l' r').get l = some r → r.serial = serial →
      Knows e adapter l serial r := by
    intro l' r' hnew r hget hserial
    rcases get_set_eq_some.mp hget with ⟨heq, hr⟩ | ⟨-, hold⟩
    · exact hnew r hr hserial heq
    · exact hsame r hold hserial
  cases hchange with
  | revise hget hplace =>
    refine h.of_routes howner le_rfl le_rfl (fun ha => ha) (hset ?_)
    rintro r'' rfl hserial rfl
    refine ⟨_, hget, hplace.serial ▸ hserial, fun key hkey _ _ => ?_⟩
    rw [hplace.ackKeys]
    exact hkey
  | @remove l' =>
    obtain ⟨_, _, _, _, _, heq⟩ := Sound.removeRouteLocked_eq e l'
    refine h.of_routes howner (heq ▸ le_rfl) (heq ▸ le_rfl) (heq ▸ fun ha => ha) ?_
    intro r' hr' hserial
    rw [Sound.get_routes_removeRouteLocked] at hr'
    split_ifs at hr'
    exact hsame r' hr' hserial
  | move hget =>
    refine h.of_routes howner le_rfl le_rfl (fun ha => ha) (hset ?_)
    rintro r'' rfl hserial rfl
    exact ⟨_, hget, hserial, fun key hkey _ _ => Finset.mem_insert_of_mem hkey⟩
  | drop hget hgone =>
    refine h.of_routes howner le_rfl le_rfl (fun ha => ha) (hset ?_)
    rintro r'' rfl hserial rfl
    refine ⟨_, hget, hserial, fun key hkey hadapter hattached => Finset.mem_filter.mpr ⟨hkey, ?_⟩⟩
    rw [hadapter]
    rintro rfl
    exact hgone hattached
  | openRoute | admitRoute =>
    refine h.of_routes howner (Nat.le_succ _) le_rfl (fun ha => ha) (hset ?_)
    rintro r'' rfl hserial
    exact absurd h.serial_lt (hserial ▸ Nat.lt_irrefl _)
  | detach =>
    refine h.of_routes howner le_rfl le_rfl (fun ha => ?_) hsame
    exact (get_delete_eq_some.mp ha).2
  | shut => exact h.of_routes howner le_rfl le_rfl (fun ha => nomatch ha) hsame
  | clean | forgetAck | forgetIncoming | observe | takeFrameId | alloc | clear =>
    exact h.of_routes howner le_rfl le_rfl (fun ha => ha) hsame

theorem Owned.keeps (h : Owned e) (hchange : Change w e e') (hbounded : Bounded e') : Keeps e e' :=
  ⟨fun _ _ => h.kept hchange hbounded, fun _ _ _ _ hold => hold.change h hchange hbounded⟩

theorem Keeps.refl (e : DualFrameRelayEndpoint) : Keeps e e := ⟨fun _ _ => id, fun _ _ _ _ => id⟩

theorem Keeps.trans {e'' : DualFrameRelayEndpoint} (h : Keeps e e') (h' : Keeps e' e'') :
    Keeps e e'' :=
  ⟨fun id l hget => h'.owner id l (h.owner id l hget), fun adapter id l serial hbound =>
    h'.bound adapter id l serial (h.bound adapter id l serial hbound)⟩

/-! ## Routes lead where their messages belong -/

section Tracked

variable {R R' : ℕ → FrameEndpointKey → Prop} {A A' : ℕ → Prop}

/-- A frame that may be written for a message: an ACK of a message that came in, or a part of a
message that goes out. -/
def Carries (R : ℕ → FrameEndpointKey → Prop) (A : ℕ → Prop) (l : ℕ) (f : Frame) : Prop :=
  if f.frameType = frameTypeAck then ∃ key, R l key else A l

/-- A ticket of a message leads where the message belongs. -/
def Known (R : ℕ → FrameEndpointKey → Prop) (A : ℕ → Prop) (e : DualFrameRelayEndpoint)
    (t : Ticket) : Prop :=
  (∃ key, R t.logicalID key ∧ t.endpoint = key.adapter ∧ t.dstID = key.messageID) ∨
    (A t.logicalID ∧ Bound e t.endpoint t.dstID t.logicalID t.serial)

/-- All routes lead where their messages belong. -/
structure Tracked (R : ℕ → FrameEndpointKey → Prop) (A : ℕ → Prop) (e : DualFrameRelayEndpoint) :
    Prop where
  owned : Owned e
  incoming : ∀ l route key, e.routes.get l = some route → route.sourceKey = some key →
    R l key ∧ route.endpoint = key.adapter ∧ route.dstID = key.messageID
  outgoing : ∀ l route, e.routes.get l = some route → route.sourceKey = none →
    A l ∧ Bound e route.endpoint route.dstID l route.serial
  cached : ∀ l route seq f, e.routes.get l = some route → route.framesBySeq.get seq = some f →
    Carries R A l f
  indexed : ∀ key l, e.ackIDs.get key = some l →
    e.owners.get (key.adapter.stream, key.messageID) = some l

/-- What a warrant allows fits what is known. -/
structure Grants (w : Warrant) (R : ℕ → FrameEndpointKey → Prop) (A : ℕ → Prop) : Prop where
  moves : ∀ route, w.moves route → Warrant.strict.moves route
  caches : ∀ l f, w.caches l f → Carries R A l f
  admits : ∀ l key, w.admits l key → R l key
  opens : ∀ l, w.opens l → A l

theorem Grants.strict (R : ℕ → FrameEndpointKey → Prop) (A : ℕ → Prop) : Grants .strict R A :=
  ⟨fun _ => id, fun _ _ => False.elim, fun _ _ => False.elim, fun _ => False.elim⟩

/-- A route that knows its message. -/
theorem Tracked.known (h : Tracked R A e) (hget : e.routes.get l = some route) :
    Known R A e (route.ticket l) := by
  cases hsource : route.sourceKey with
  | none => exact .inr (h.outgoing l route hget hsource)
  | some key => exact .inl ⟨key, h.incoming l route key hget hsource⟩

/-- The message had a route that leads to the same place, and what it did not cache may be
written. -/
def Version (R : ℕ → FrameEndpointKey → Prop) (A : ℕ → Prop) (e : DualFrameRelayEndpoint) (l : ℕ)
    (route : DualFrameRoute) : Prop :=
  ∃ r, e.routes.get l = some r ∧ route.serial = r.serial ∧ route.endpoint = r.endpoint ∧
    route.dstID = r.dstID ∧ route.sourceKey = r.sourceKey ∧
    ∀ seq f, route.framesBySeq.get seq = some f → r.framesBySeq.get seq = some f ∨ Carries R A l f

theorem version_self (l : ℕ) (r : DualFrameRoute) (hget : e.routes.get l = some r) :
    Version R A e l r :=
  ⟨r, hget, rfl, rfl, rfl, rfl, fun _ _ => .inl⟩

/-- A change after which every route is a version of one that was there. -/
theorem Tracked.of_same (h : Tracked R A e) (howned : Owned e') (hkeeps : Keeps e e')
    (hroutes : ∀ l r, e'.routes.get l = some r → Version R A e l r)
    (hacks : ∀ key l, e'.ackIDs.get key = some l → e.ackIDs.get key = some l)
    (howners : e'.owners = e.owners) : Tracked R A e' where
  owned := howned
  incoming l r' key hget hkey := by
    obtain ⟨r, hr, -, hendpoint, hdst, hsource, -⟩ := hroutes l r' hget
    rw [hendpoint, hdst]
    exact h.incoming l r key hr (hsource ▸ hkey)
  outgoing l r' hget hnone := by
    obtain ⟨r, hr, hserial, hendpoint, hdst, hsource, -⟩ := hroutes l r' hget
    obtain ⟨hA, hold⟩ := h.outgoing l r hr (hsource ▸ hnone)
    rw [hendpoint, hdst, hserial]
    exact ⟨hA, hkeeps.bound _ _ _ _ hold⟩
  cached l r' seq f hget hf := by
    obtain ⟨r, hr, -, -, -, -, hframes⟩ := hroutes l r' hget
    exact (hframes seq f hf).elim (h.cached l r seq f hr) id
  indexed key l hget := howners ▸ h.indexed key l (hacks key l hget)

/-- A message that goes out gets a new id. -/
theorem Tracked.bind {n dstID : ℕ} (h : Tracked R A e) (hregistered : Registered e)
    (hnext : dstID = FrameIdGenerator.next (e.frameIdGen adapter.stream))
    (he' : e' = { e.takeFrameId adapter.stream with routeCount := n }.bindAckKeyLocked l route kind
      adapter dstID) (hbounded : Bounded e') (howned : Owned e') (hkeeps : Keeps e e')
    (hserial : route.serial < n) (hattached : e.adapters.get kind = some adapter) (hA : A l)
    (hsource : route.sourceKey = none) (hendpoint : route.endpoint = adapter)
    (hdst : route.dstID = dstID)
    (hframes : ∀ seq f, route.framesBySeq.get seq = some f → Carries R A l f) :
    Tracked R A e' := by
  obtain ⟨rfl, hadapter⟩ := hregistered.adapter_known kind adapter hattached
  have hroutes : e'.routes = e.routes.set l { route with
      ackKeys := insert ⟨adapter.kind, adapter, [], dstID⟩ route.ackKeys } := by
    rw [he']
    rfl
  have howners : e'.owners = e.owners.set (adapter.stream, dstID) l := by
    rw [he']
    rfl
  -- the id is new because its counter has not wrapped
  have hlt : e.frameIdGen adapter.stream + 1 < 2 ^ 64 := by
    refine @Sound.taken_lt e e' hbounded adapter.stream dstID ?_ ?_
    · rw [he']
      rfl
    · rw [howners]
      exact Finset.mem_insert_self _ _
  constructor
  · exact howned
  · rw [hroutes]
    intro l' r key hget
    refine forall_set ?_
      (fun l' r hr => h.incoming l' r key hr) l' r hget
    intro hkey
    rw [show _ = none from hsource] at hkey
    cases hkey
  · rw [hroutes]
    refine forall_set (fun _ => ⟨hA, ?_⟩) fun l' r hr hnone =>
        (h.outgoing l' r hr hnone).imp_right (hkeeps.bound _ _ _ _)
    show Bound e' route.endpoint route.dstID l route.serial
    rw [hendpoint, hdst]
    refine ⟨?_, ?_, ?_, ?_⟩
    · rw [howners, get_set_self]
    · rw [he']
      exact hserial
    · rw [he']
      exact hadapter
    · rw [hroutes, get_set_self]
      rintro r ⟨rfl⟩ - -
      exact Finset.mem_insert_self _ _
  · rw [hroutes]
    intro l' r seq f hget
    refine forall_set ?_
      (fun l' r hr => h.cached l' r seq f hr) l' r hget
    exact hframes seq f
  · intro key l' hget
    have hacks : e'.ackIDs = e.ackIDs.set ⟨adapter.kind, adapter, [], dstID⟩ l := by
      rw [he']
      rfl
    rw [hacks, get_set] at hget
    rw [howners]
    split_ifs at hget with heq
    · rw [heq, ← hget]
      exact get_set_self
    · -- an older id of the adapter differs from the next one
      have hold := h.indexed key l' hget
      exact (get_set_ne (hnext ▸ h.owned.ne_next hlt hold)).trans hold

/-- Every change that a fitting warrant allows keeps the routes where they belong. -/
theorem Tracked.change (hgrants : Grants w R A) (hsound : Sound e) (hregistered : Registered e)
    (h : Tracked R A e) (hchange : Change w e e') (hbounded : Bounded e') : Tracked R A e' := by
  have howned := h.owned.change hchange
  have hkeeps := h.owned.keeps hchange hbounded
  cases hchange with
  | @revise l route route' q bytes hget hplace hframes =>
    refine h.of_same howned hkeeps (forall_set ?_ version_self) (fun _ _ => id) rfl
    exact ⟨route, hget, hplace.serial, hplace.endpoint, hplace.dstID, hplace.sourceKey,
      fun seq f hf => (hframes seq f hf).imp id (hgrants.caches l f)⟩
  | @remove l route hget =>
    refine h.of_same howned hkeeps (fun l' r hr => ?_) (fun key l' hkey => ?_) ?_
    · rw [Sound.get_routes_removeRouteLocked] at hr
      split_ifs at hr
      exact version_self l' r hr
    · rw [hsound.get_ackIDs_removeRouteLocked hget] at hkey
      split_ifs at hkey
      exact hkey
    · obtain ⟨_, _, _, _, _, heq⟩ := Sound.removeRouteLocked_eq e l
      rw [heq]
  | @move l route kind adapter now hget hattached hsource hmoves =>
    -- a message that came in is where it came from, so only outgoing messages move
    have hnone : route.sourceKey = none := by
      rw [Option.eq_none_iff_forall_ne_some]
      intro key hkey
      exact hgrants.moves route hmoves key hkey (h.incoming l route key hget hkey).2.1.symm
    obtain ⟨hA, hold⟩ := h.outgoing l route hget hnone
    exact @Tracked.bind e _ l _ kind adapter R A e.routeCount _ h hregistered rfl rfl hbounded howned
      hkeeps hold.serial_lt hattached hA hnone rfl rfl fun seq f hf => h.cached l route seq f hget hf
  | @drop l route adapter hget =>
    refine h.of_same howned hkeeps (forall_set ?_ version_self) (fun key l' hkey => ?_) rfl
    · exact ⟨route, hget, rfl, rfl, rfl, rfl, fun _ _ => .inl⟩
    · replace hkey : (e.ackIDs.retain _).get key = some l' := hkey
      rw [get_retain] at hkey
      split_ifs at hkey
      exact hkey
  | clean hclear =>
    rwa [hsound.dropAdapterIndexesLocked_eq hclear]
  | @openRoute frame kind adapter now hnone hslot hattached hopens =>
    exact @Tracked.bind e _ frame.messageId _ kind adapter R A (e.routeCount + 1) _ h hregistered rfl
      rfl hbounded howned hkeeps (Nat.lt_succ_self _) hattached (hgrants.opens _ hopens) rfl rfl rfl
      fun _ _ hf => nomatch hf
  | @admitRoute key totalFrames now hnone hslot hattached hadmits =>
    have hR := hgrants.admits _ _ hadmits
    constructor
    · exact howned
    · intro l r k hget
      refine forall_set ?_ (fun l r hr => h.incoming l r k hr) l r hget
      rintro ⟨rfl⟩
      exact ⟨hR, rfl, rfl⟩
    · refine forall_set (nofun) fun l r hr hsource =>
          (h.outgoing l r hr hsource).imp_right (hkeeps.bound _ _ _ _)
    · intro l r seq f hget
      exact forall_set
        (fun hf => by cases hf) (fun l r hr => h.cached l r seq f hr) l r hget
    · exact h.indexed
  | forgetAck =>
    refine h.of_same howned hkeeps version_self (fun key l hkey => ?_) rfl
    exact (get_delete_eq_some.mp hkey).2
  | clear => exact h.of_same howned hkeeps version_self (fun _ _ hkey => nomatch hkey) rfl
  | forgetIncoming | observe | takeFrameId | alloc | detach | shut =>
    exact h.of_same howned hkeeps version_self (fun _ _ => id) rfl

/-- A sequence of changes keeps the routes where they belong, and what is bound stays bound. -/
theorem Tracked.changes (hgrants : Grants w R A) (hopens : ∀ l, w.opens l → l ≤ e.logicalGen)
    (hsound : Sound e) (hregistered : Registered e) (h : Tracked R A e)
    (hchanges : Changes w e e') (hbounded : Bounded e') : Tracked R A e' ∧ Keeps e e' := by
  induction hchanges with
  | refl => exact ⟨h, .refl e⟩
  | tail hbefore hchange ih =>
    have hboundedBefore := hchange.bounded hbounded
    obtain ⟨htracked, hkeeps⟩ := ih hboundedBefore
    exact ⟨htracked.change hgrants (hsound.changes hopens hbefore hboundedBefore)
      (hregistered.changes hbefore) hchange hbounded,
      hkeeps.trans (htracked.owned.keeps hchange hbounded)⟩

/-- A new adapter has no ids and no routes. -/
theorem Bound.enterAdapter (h : Bound e adapter id l serial) (stream : ℕ) :
    Bound (e.enterAdapter kind stream) adapter id l serial := by
  refine h.of_routes h.owner le_rfl (Nat.le_succ _) (fun hattached => ?_) fun r hr hserial =>
    ⟨r, hr, hserial, fun _ hkey _ _ => hkey⟩
  replace hattached : (e.adapters.set kind (e.nextAdapter kind stream)).get adapter.kind =
      some adapter := hattached
  rcases get_set_eq_some.mp hattached with ⟨-, rfl⟩ | ⟨-, hold⟩
  · exact absurd h.adapter_lt (Nat.lt_irrefl _)
  · exact hold

theorem Keeps.enterAdapter (e : DualFrameRelayEndpoint) (kind : LegID) (stream : ℕ) :
    Keeps e (e.enterAdapter kind stream) :=
  ⟨fun _ _ => id, fun _ _ _ _ hold => hold.enterAdapter stream⟩

theorem Tracked.enterAdapter (h : Tracked R A e) (kind : LegID) (stream : ℕ) :
    Tracked R A (e.enterAdapter kind stream) :=
  h.of_same h.owned (.enterAdapter e kind stream) version_self (fun _ _ => id) rfl

section

variable (hR : ∀ l key, R l key → R' l key) (hA : ∀ l, A l → A' l)
include hR hA

theorem Carries.mono {f : Frame} (h : Carries R A l f) : Carries R' A' l f := by
  unfold Carries at h ⊢
  split_ifs at h ⊢
  · exact h.imp (hR l)
  · exact hA l h

theorem Known.mono {t : Ticket} (hkeeps : Keeps e e') (h : Known R A e t) : Known R' A' e' t :=
  h.imp (fun ⟨key, hkey, hplace⟩ => ⟨key, hR _ key hkey, hplace⟩) fun ⟨hsent, hold⟩ =>
    ⟨hA _ hsent, hkeeps.bound _ _ _ _ hold⟩

theorem Tracked.mono (h : Tracked R A e) :
    Tracked R' A' e where
  owned := h.owned
  incoming l route key hget hkey := (h.incoming l route key hget hkey).imp (hR l key) id
  outgoing l route hget hsource := (h.outgoing l route hget hsource).imp (hA l) id
  cached l route seq f hget hf := (h.cached l route seq f hget hf).mono hR hA
  indexed := h.indexed

end

/-- The routes that a loop takes along lead where their messages belong, and so do their frames. -/
theorem Tracked.born {job : ReplayJob} (hgrants : Grants w R A)
    (hopens : ∀ l, ¬ w.opens l) (hsound : Sound e) (hregistered : Registered e)
    (h : Tracked R A e) (hborn : Born w e e' job) (hbounded : Bounded e') :
    Known R A e' job.ticket ∧ ∀ f ∈ job.frames, Carries R A job.ticket.logicalID f := by
  obtain ⟨between, l, hfirst, hsecond, hmem⟩ := hborn
  have hvacuous : ∀ {n l}, w.opens l → l ≤ n := fun hl => absurd hl (hopens _)
  have hboundedBetween := Changes.bounded hsecond hbounded
  obtain ⟨htracked, -⟩ := h.changes hgrants (fun _ => hvacuous) hsound hregistered hfirst
    hboundedBetween
  have hkeeps := (htracked.changes hgrants (fun _ => hvacuous)
    (hsound.changes (fun _ => hvacuous) hfirst hboundedBetween) (hregistered.changes hfirst) hsecond
    hbounded).2
  unfold replayJob at hmem
  split at hmem
  · cases hmem
  · next route hget =>
    obtain rfl := List.mem_singleton.mp hmem
    refine ⟨(htracked.known hget).mono (fun _ _ => id) (fun _ => id) hkeeps, fun f hf => ?_⟩
    obtain ⟨seq, -, hseq⟩ := List.mem_filterMap.mp hf
    exact htracked.cached l route seq f hget hseq

end Tracked

end NatP2P.Network.DualFrameRelayEndpoint
