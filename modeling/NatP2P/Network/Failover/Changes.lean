import NatP2P.Network.Failover.Endpoint
import Mathlib.Logic.Relation

/-!
# What the endpoint does to its tables

Every function of the endpoint is a sequence of few kinds of changes to its tables. `Change` lists
them with the conditions under which the functions make them, and `Sound` is what all of them keep:
the two byte counters are sums, the indexes agree with the routes, and the limits hold. They keep it
as long as every id is a new one, that is, until a generator comes round.

`Placed` says where routes lead. It has a list of adapters that are exempt, because a new adapter is
entered before the routes of the one that it replaces are moved.
-/

namespace NatP2P.Network.DualFrameRelayEndpoint

open GoMap Option

variable {e e' : DualFrameRelayEndpoint} {l l' : ℕ} {route route' : DualFrameRoute}
  {key : FrameEndpointKey} {kind : LegID} {adapter : TcpFrameAdapter} {m : GoMap ℕ DualFrameRoute}
  {P : DualFrameRoute → Prop} {A : TcpFrameAdapter → Prop}

/-- Two versions of a route that lead to the same place. -/
structure SamePlace (route route' : DualFrameRoute) : Prop where
  serial : route'.serial = route.serial
  kind : route'.kind = route.kind
  endpoint : route'.endpoint = route.endpoint
  dstID : route'.dstID = route.dstID
  sourceKey : route'.sourceKey = route.sourceKey
  ackKeys : route'.ackKeys = route.ackKeys

/-- The byte counters are sums. -/
structure Balanced (e : DualFrameRelayEndpoint) : Prop where
  cachedBytes_eq : e.cachedBytes = e.routes.total DualFrameRoute.cachedBytes
  route_eq : ∀ l route, e.routes.get l = some route →
    route.cachedBytes = route.framesBySeq.total cachedFrameBytes

/-- A route may change, and the byte counter of the endpoint with it. -/
structure Accounts (e : DualFrameRelayEndpoint) (route route' : DualFrameRoute) (bytes : ℤ) :
    Prop where
  route_eq : route'.cachedBytes = route'.framesBySeq.total cachedFrameBytes
  bytes_eq : bytes = e.cachedBytes - route.cachedBytes + route'.cachedBytes
  route_le : route'.cachedBytes ≤ max route.cachedBytes e.limits.maxRouteBytes
  bytes_le : bytes ≤ max e.cachedBytes e.limits.maxBytes

/-- No index entry of a route belongs to an adapter. -/
structure Clear (adapter : TcpFrameAdapter) (route : DualFrameRoute) : Prop where
  ackKeys : ∀ key ∈ route.ackKeys, key.adapter ≠ adapter
  sourceKey : ∀ key, route.sourceKey = some key → key.adapter ≠ adapter

/-- What a call is entitled to do with routes. -/
structure Warrant where
  /-- which routes may move to another adapter -/
  moves : DualFrameRoute → Prop
  /-- which frames may go into the cache of a message -/
  caches : ℕ → Frame → Prop
  /-- which messages may come in under which key -/
  admits : ℕ → FrameEndpointKey → Prop
  /-- which messages may go out -/
  opens : ℕ → Prop

/-- A call that moves outgoing routes only, and those that have already left the leg that their
message came from. -/
def Warrant.strict : Warrant where
  moves route := ∀ key, route.sourceKey = some key → key.adapter ≠ route.endpoint
  caches _ _ := False
  admits _ _ := False
  opens _ := False

/-- A change of the tables. -/
inductive Change (w : Warrant) : DualFrameRelayEndpoint → DualFrameRelayEndpoint → Prop where
  /-- a route changes where it is, together with the byte counter -/
  | revise {e : DualFrameRelayEndpoint} {l : ℕ} {route route' : DualFrameRoute} {q : LegQuality}
      {bytes : ℤ} (hget : e.routes.get l = some route) (hplace : SamePlace route route')
      (hframes : ∀ seq f, route'.framesBySeq.get seq = some f →
        route.framesBySeq.get seq = some f ∨ w.caches l f)
      (haccounts : Balanced e → Accounts e route route' bytes) :
      Change w e { e with quality := q, cachedBytes := bytes, routes := e.routes.set l route' }
  | remove {e : DualFrameRelayEndpoint} {l : ℕ} {route : DualFrameRoute}
      (hget : e.routes.get l = some route) : Change w e (e.removeRouteLocked l)
  /-- a route moves, and the adapter that its message came from is gone -/
  | move {e : DualFrameRelayEndpoint} {l : ℕ} {route : DualFrameRoute} {kind : LegID}
      {adapter : TcpFrameAdapter} {now : ℤ} (hget : e.routes.get l = some route)
      (hattached : e.adapters.get kind = some adapter)
      (hsource : ∀ key, route.sourceKey = some key → e.adapters.get key.kind ≠ some key.adapter)
      (hmoves : w.moves route) : Change w e (e.moveRoute l route kind adapter now)
  /-- a route forgets the ids of an adapter that is gone -/
  | drop {e : DualFrameRelayEndpoint} {l : ℕ} {route : DualFrameRoute} {adapter : TcpFrameAdapter}
      (hget : e.routes.get l = some route) (hgone : e.adapters.get adapter.kind ≠ some adapter) :
      Change w e (e.dropAdapterAckKeysLocked l route adapter)
  /-- the indexes forget an adapter -/
  | clean {e : DualFrameRelayEndpoint} {adapter : TcpFrameAdapter}
      (hclear : ∀ l route, e.routes.get l = some route → Clear adapter route) :
      Change w e (e.dropAdapterIndexesLocked adapter)
  | openRoute {e : DualFrameRelayEndpoint} {frame : Frame} {kind : LegID}
      {adapter : TcpFrameAdapter} {now : ℤ} (hnone : e.routes.get frame.messageId = none)
      (hslot : e.routes.len < e.limits.maxRoutes) (hattached : e.adapters.get kind = some adapter)
      (hopens : w.opens frame.messageId) : Change w e (e.openRoute frame kind adapter now)
  | admitRoute {e : DualFrameRelayEndpoint} {key : FrameEndpointKey} {totalFrames : ℕ} {now : ℤ}
      (hnone : e.incomingIDs.get key = none) (hslot : e.routes.len < e.limits.maxRoutes)
      (hattached : e.adapters.get key.kind = some key.adapter)
      (hadmits : w.admits (FrameIdGenerator.next e.logicalGen) key) :
      Change w e (e.admitRoute key totalFrames now)
  | forgetAck {e : DualFrameRelayEndpoint} {key : FrameEndpointKey} {l : ℕ}
      (hget : e.ackIDs.get key = some l) (hnone : e.routes.get l = none) :
      Change w e { e with ackIDs := e.ackIDs.delete key }
  | forgetIncoming {e : DualFrameRelayEndpoint} {key : FrameEndpointKey}
      (hnone : ∀ l, e.incomingIDs.get key = some l → e.routes.get l = none) :
      Change w e { e with incomingIDs := e.incomingIDs.delete key }
  | observe {e : DualFrameRelayEndpoint} {q : LegQuality} : Change w e { e with quality := q }
  | takeFrameId {e : DualFrameRelayEndpoint} {stream : ℕ} : Change w e (e.takeFrameId stream)
  | alloc {e : DualFrameRelayEndpoint} : Change w e { e with logicalGen := e.logicalGen + 1 }
  | detach {e : DualFrameRelayEndpoint} {id : LegID} :
      Change w e { e with adapters := e.adapters.delete id }
  | shut {e : DualFrameRelayEndpoint} : Change w e { e with closed := true, adapters := .empty }
  /-- the indexes of a table without routes -/
  | clear {e : DualFrameRelayEndpoint} {q : LegQuality} (hnone : ∀ l, e.routes.get l = none) :
      Change w e { e with
        incomingIDs := .empty, ackIDs := .empty, quality := q, cachedBytes := 0 }

/-- A sequence of changes. -/
abbrev Changes (w : Warrant) : DualFrameRelayEndpoint → DualFrameRelayEndpoint → Prop :=
  Relation.ReflTransGen (Change w)

/-! ## The tables agree -/

/-- The tables agree with each other. -/
structure Sound (e : DualFrameRelayEndpoint) : Prop where
  balanced : Balanced e
  routeBytes_le : ∀ l route, e.routes.get l = some route →
    route.cachedBytes ≤ e.limits.maxRouteBytes
  bytes_le : e.cachedBytes ≤ e.limits.maxBytes
  routes_le : e.routes.len ≤ e.limits.maxRoutes
  ackIDs_iff : ∀ key l, e.ackIDs.get key = some l ↔
    ∃ route, e.routes.get l = some route ∧ key ∈ route.ackKeys
  incomingIDs_iff : ∀ key l, e.incomingIDs.get key = some l ↔
    ∃ route, e.routes.get l = some route ∧ route.sourceKey = some key
  logical_le : ∀ l route, e.routes.get l = some route → l ≤ e.logicalGen
  ackID_le : ∀ key l, e.ackIDs.get key = some l → key.messageID ≤ e.frameIdGen key.adapter.stream

/-- No generator has come round: not the one of the logical ids, and not the one of a stream from
which an id was taken for a message. -/
def Bounded (e : DualFrameRelayEndpoint) : Prop :=
  e.logicalGen < 2 ^ 64 ∧ ∀ id ∈ e.owners.keys, e.frameIdGen id.1 < 2 ^ 64

instance (e : DualFrameRelayEndpoint) : Decidable (Bounded e) :=
  inferInstanceAs (Decidable (_ ∧ _))

theorem Balanced.route_nonneg (h : Balanced e) (hget : e.routes.get l = some route) :
    0 ≤ route.cachedBytes := by
  rw [h.route_eq l route hget]
  exact total_nonneg fun _ f _ => by unfold cachedFrameBytes; positivity

theorem Balanced.route_le (h : Balanced e) (hget : e.routes.get l = some route) :
    route.cachedBytes ≤ e.cachedBytes := by
  rw [h.cachedBytes_eq]
  exact le_total (fun _ _ h' => h.route_nonneg h') hget

/-- What is said of the route under an id when one route has changed. -/
theorem exists_set_iff :
    (∃ r, (m.set l route).get l' = some r ∧ P r) ↔
      (l' = l ∧ P route) ∨ (l' ≠ l ∧ ∃ r, m.get l' = some r ∧ P r) := by
  by_cases h : l' = l
  · subst h
    simp
  · simp [h]

/-- What holds of a changed route and of all routes before holds of all routes. -/
theorem forall_set {P : ℕ → DualFrameRoute → Prop} (hroute : P l route)
    (h : ∀ l' r, m.get l' = some r → P l' r) (l' : ℕ) (r : DualFrameRoute)
    (hget : (m.set l route).get l' = some r) : P l' r := by
  rcases get_set_eq_some.mp hget with ⟨rfl, rfl⟩ | ⟨-, hold⟩
  · exact hroute
  · exact h l' r hold

/-- The byte counters behind a change of one route. -/
theorem Balanced.set (h : Balanced e) (hget : e.routes.get l = some route)
    (hroutes : e'.routes = e.routes.set l route')
    (hroute : route'.cachedBytes = route'.framesBySeq.total cachedFrameBytes)
    (hbytes : e'.cachedBytes = e.cachedBytes - route.cachedBytes + route'.cachedBytes) :
    Balanced e' := by
  constructor
  · have htotal := @GoMap.total_set _ _ ℤ _ e.routes l route' DualFrameRoute.cachedBytes _
    rw [hget, elim_some, ← h.cachedBytes_eq] at htotal
    rw [hroutes]
    omega
  · rw [hroutes]
    exact forall_set hroute h.route_eq

/-- A new route without frames leaves the byte counters as they are. -/
theorem Balanced.set_new (h : Balanced e) (hnone : e.routes.get l = none)
    (hroutes : e'.routes = e.routes.set l route') (hzero : route'.cachedBytes = 0)
    (hframes : route'.framesBySeq = .empty) (hbytes : e'.cachedBytes = e.cachedBytes) :
    Balanced e' := by
  constructor
  · have htotal := @GoMap.total_set _ _ ℤ _ e.routes l route' DualFrameRoute.cachedBytes _
    rw [hnone, elim_none, ← h.cachedBytes_eq] at htotal
    rw [hroutes]
    omega
  · rw [hroutes]
    refine forall_set ?_ h.route_eq
    rw [hzero, hframes]
    rfl

/-- A change of a route that leads to the same place keeps the indexes. -/
theorem indexed_set (hget : e.routes.get l = some route) (hP : P route' ↔ P route) (l' : ℕ) :
    (∃ r, (e.routes.set l route').get l' = some r ∧ P r) ↔ ∃ r, e.routes.get l' = some r ∧ P r := by
  by_cases h : l' = l
  · subst h
    simp [hget, hP]
  · simp [h]

namespace Sound

variable {q : LegQuality} {now : ℤ}

theorem revise (h : Sound e) {bytes : ℤ} (hget : e.routes.get l = some route)
    (hplace : SamePlace route route') (haccounts : Accounts e route route' bytes) :
    Sound { e with quality := q, cachedBytes := bytes, routes := e.routes.set l route' } where
  balanced := h.balanced.set hget rfl haccounts.route_eq haccounts.bytes_eq
  routeBytes_le := by
    refine forall_set ?_ h.routeBytes_le
    exact haccounts.route_le.trans (max_le (h.routeBytes_le l route hget) le_rfl)
  bytes_le := haccounts.bytes_le.trans (max_le h.bytes_le le_rfl)
  routes_le := (len_set_of_get hget route').trans_le h.routes_le
  ackIDs_iff key l' := (h.ackIDs_iff key l').trans
    (indexed_set hget (by rw [hplace.ackKeys]) l').symm
  incomingIDs_iff key l' := (h.incomingIDs_iff key l').trans
    (indexed_set hget (by rw [hplace.sourceKey]) l').symm
  logical_le := forall_set (h.logical_le l route hget) h.logical_le
  ackID_le := h.ackID_le

/-! ### Removal -/

/-- The route behind a removal. -/
theorem get_routes_removeRouteLocked :
    (e.removeRouteLocked l).routes.get l' = if l' = l then none else e.routes.get l' := by
  unfold removeRouteLocked
  cases hget : e.routes.get l with
  | none =>
    split_ifs with h
    · rw [h, hget]
    · rfl
  | some route =>
    show ((e.routes.set l _).delete l).get l' = _
    rw [delete_set, get_delete]

/-- A removal changes the routes, the indexes, the byte counter and what is known of the legs. -/
theorem removeRouteLocked_eq (e : DualFrameRelayEndpoint) (l : ℕ) :
    ∃ incomingIDs ackIDs quality cachedBytes routes, e.removeRouteLocked l =
      { e with incomingIDs, ackIDs, quality, cachedBytes, routes } := by
  unfold removeRouteLocked
  cases e.routes.get l with
  | none | some => exact ⟨_, _, _, _, _, rfl⟩

theorem get_ackIDs_removeRouteLocked (h : Sound e) (hget : e.routes.get l = some route) :
    (e.removeRouteLocked l).ackIDs.get key =
      if e.ackIDs.get key = some l then none else e.ackIDs.get key := by
  have hiff : e.ackIDs.get key = some l ↔ key ∈ route.ackKeys := by
    rw [h.ackIDs_iff, hget]
    simp
  unfold removeRouteLocked
  rw [hget]
  show (if decide (¬ (key ∈ route.ackKeys ∧ e.ackIDs.get key = some l)) then _ else none) = _
  by_cases hkey : e.ackIDs.get key = some l
  · simp [hkey, hiff.mp hkey]
  · simp [hkey]
    rfl

theorem get_incomingIDs_removeRouteLocked (h : Sound e) (hget : e.routes.get l = some route) :
    (e.removeRouteLocked l).incomingIDs.get key =
      if e.incomingIDs.get key = some l then none else e.incomingIDs.get key := by
  have hiff : e.incomingIDs.get key = some l ↔ route.sourceKey = some key := by
    rw [h.incomingIDs_iff, hget]
    simp
  unfold removeRouteLocked
  rw [hget]
  cases hsource : route.sourceKey with
  | none =>
    rw [if_neg fun hkey => by simp [hiff.mp hkey] at hsource]
    simp only [hsource]
    rfl
  | some source =>
    have hentry : e.incomingIDs.get source = some l :=
      (h.incomingIDs_iff source l).mpr ⟨route, hget, hsource⟩
    simp only [hsource]
    show (if e.incomingIDs.get source = some l then e.incomingIDs.delete source
      else e.incomingIDs).get key = _
    rw [if_pos hentry, get_delete]
    by_cases hkey : key = source
    · rw [if_pos hkey, if_pos (hkey ▸ hentry)]
    · rw [if_neg hkey, if_neg fun hl => ?_]
      rw [hiff.mp hl] at hsource
      exact hkey (some.inj hsource)

/-- An index without the entries of an id agrees with the routes without that id. -/
theorem indexed_delete {K : Type*} {m m' : GoMap K ℕ} {P : K → DualFrameRoute → Prop}
    (h : ∀ key l', m.get key = some l' ↔ ∃ r, e.routes.get l' = some r ∧ P key r)
    (hm : ∀ key, m'.get key = if m.get key = some l then none else m.get key) (key : K) (l' : ℕ) :
    m'.get key = some l' ↔ ∃ r, (e.removeRouteLocked l).routes.get l' = some r ∧ P key r := by
  rw [hm, get_routes_removeRouteLocked]
  by_cases hl : l' = l
  · subst hl
    rw [if_pos rfl]
    split_ifs with hget
    · simp
    · simp [hget]
  · rw [if_neg hl, ← h]
    split_ifs with hget
    · simp [hget, Ne.symm hl]
    · rfl

theorem removeRouteLocked (h : Sound e) (hget : e.routes.get l = some route) :
    Sound (e.removeRouteLocked l) := by
  have hroutes : ∀ {P : ℕ → DualFrameRoute → Prop}, (∀ l' r, e.routes.get l' = some r → P l' r) →
      ∀ l' r, (e.removeRouteLocked l).routes.get l' = some r → P l' r := by
    intro P hP l' r hr
    rw [get_routes_removeRouteLocked] at hr
    split_ifs at hr
    exact hP l' r hr
  have hdelete : (e.removeRouteLocked l).routes = e.routes.delete l := by
    ext1 l'
    rw [get_routes_removeRouteLocked, get_delete]
  have hlen : (e.removeRouteLocked l).routes.len + 1 = e.routes.len := by
    rw [hdelete]
    exact len_delete_of_get hget
  have hbytes : (e.removeRouteLocked l).cachedBytes = e.cachedBytes - route.cachedBytes := by
    have hle := h.balanced.route_le hget
    unfold DualFrameRelayEndpoint.removeRouteLocked
    rw [hget]
    exact max_eq_right (by omega)
  have hkept : (e.removeRouteLocked l).limits = e.limits ∧
      (e.removeRouteLocked l).logicalGen = e.logicalGen ∧
      (e.removeRouteLocked l).frameIdGen = e.frameIdGen := by
    obtain ⟨_, _, _, _, _, heq⟩ := removeRouteLocked_eq e l
    rw [heq]
    exact ⟨rfl, rfl, rfl⟩
  obtain ⟨hlimits, hlogical, hgen⟩ := hkept
  constructor
  · constructor
    · have htotal := @GoMap.total_delete _ _ ℤ _ e.routes l DualFrameRoute.cachedBytes _
      rw [hget, elim_some, ← h.balanced.cachedBytes_eq] at htotal
      rw [hdelete]
      omega
    · exact hroutes h.balanced.route_eq
  · rw [hlimits]
    exact hroutes h.routeBytes_le
  · have hnonneg := h.balanced.route_nonneg hget
    have hle := h.bytes_le
    rw [hlimits]
    omega
  · have hle := h.routes_le
    rw [hlimits]
    omega
  · exact indexed_delete h.ackIDs_iff fun key => get_ackIDs_removeRouteLocked h hget
  · exact indexed_delete h.incomingIDs_iff fun key => get_incomingIDs_removeRouteLocked h hget
  · rw [hlogical]
    exact hroutes h.logical_le
  · intro key l' hkey
    rw [get_ackIDs_removeRouteLocked h hget] at hkey
    rw [hgen]
    split_ifs at hkey
    exact h.ackID_le key l' hkey

/-! ### New ids and new routes -/

/-- Until the generator comes round, the next id of a stream is not in use. -/
theorem fresh_ackKey (h : Sound e) (kind : LegID) (adapter : TcpFrameAdapter)
    (hlt : e.frameIdGen adapter.stream + 1 < 2 ^ 64) :
    e.ackIDs.get ⟨kind, adapter, [],
      FrameIdGenerator.next (e.frameIdGen adapter.stream)⟩ = none := by
  rw [eq_none_iff_forall_ne_some]
  intro l hl
  have hle := h.ackID_le _ l hl
  simp [FrameIdGenerator.next, add64_eq hlt] at hle

theorem frameIdGen_le_takeFrameId (e : DualFrameRelayEndpoint) (stream s : ℕ) :
    e.frameIdGen s ≤ (e.takeFrameId stream).frameIdGen s := by
  show _ ≤ Function.update e.frameIdGen stream (e.frameIdGen stream + 1) s
  rw [Function.update_apply]
  split_ifs with h
  · rw [h]
    omega
  · exact le_rfl

theorem takeFrameId_self (e : DualFrameRelayEndpoint) (stream : ℕ) :
    e.frameIdGen stream + 1 ≤ (e.takeFrameId stream).frameIdGen stream := by
  show _ ≤ Function.update e.frameIdGen stream (e.frameIdGen stream + 1) stream
  rw [Function.update_self]

theorem next_le_takeFrameId (e : DualFrameRelayEndpoint) (stream : ℕ) :
    FrameIdGenerator.next (e.frameIdGen stream) ≤ (e.takeFrameId stream).frameIdGen stream :=
  (Nat.mod_le _ _).trans (takeFrameId_self e stream)

/-- The generator has not come round for an id that belongs to a message. -/
theorem taken_lt (hbounded : Bounded e') {stream id : ℕ}
    (hgen : e'.frameIdGen = (e.takeFrameId stream).frameIdGen)
    (howner : (stream, id) ∈ e'.owners.keys) : e.frameIdGen stream + 1 < 2 ^ 64 := by
  have hlt := hbounded.2 _ howner
  rw [hgen] at hlt
  exact (takeFrameId_self e stream).trans_lt hlt

variable (h : Sound e)
include h

theorem takeFrameId (stream : ℕ) : Sound (e.takeFrameId stream) :=
  { h with
    balanced := { h.balanced with }
    ackID_le := fun key l hkey => (h.ackID_le key l hkey).trans (frameIdGen_le_takeFrameId e stream _) }

/-- An id becomes an id of a route. `hkeys` and `hsource` compare the new route with what was under
its logical id before. -/
theorem bindAckKeyLocked {dstID : ℕ} (hfresh : e.ackIDs.get ⟨kind, adapter, [], dstID⟩ = none)
    (hle : dstID ≤ e.frameIdGen adapter.stream)
    (hbalanced : Balanced (e.bindAckKeyLocked l route kind adapter dstID))
    (hbytes : route.cachedBytes ≤ e.limits.maxRouteBytes)
    (hlen : (e.routes.set l route).len ≤ e.limits.maxRoutes)
    (hkeys : ∀ key, key ∈ route.ackKeys ↔ ∃ r, e.routes.get l = some r ∧ key ∈ r.ackKeys)
    (hsource : ∀ key, route.sourceKey = some key ↔
      ∃ r, e.routes.get l = some r ∧ r.sourceKey = some key)
    (hl : l ≤ e.logicalGen) : Sound (e.bindAckKeyLocked l route kind adapter dstID) where
  balanced := hbalanced
  routeBytes_le := forall_set hbytes h.routeBytes_le
  bytes_le := h.bytes_le
  routes_le := hlen
  ackIDs_iff key k := by
    show (e.ackIDs.set _ l).get key = some k ↔
      ∃ r, (e.routes.set l _).get k = some r ∧ key ∈ r.ackKeys
    rw [exists_set_iff, get_set]
    by_cases hkey : key = ⟨kind, adapter, [], dstID⟩
    · rw [← h.ackIDs_iff, hkey, hfresh]
      simp [eq_comm]
    · rw [if_neg hkey, ← h.ackIDs_iff]
      by_cases hk : k = l
      · subst hk
        simp [hkey, hkeys, h.ackIDs_iff]
      · simp [hk]
  incomingIDs_iff key k := by
    show e.incomingIDs.get key = some k ↔
      ∃ r, (e.routes.set l _).get k = some r ∧ r.sourceKey = some key
    rw [h.incomingIDs_iff]
    by_cases hk : k = l
    · subst hk
      simp [hsource]
    · simp [hk]
  logical_le := forall_set hl h.logical_le
  ackID_le key k hkey := by
    replace hkey : (e.ackIDs.set _ l).get key = some k := hkey
    rcases get_set_eq_some.mp hkey with ⟨rfl, -⟩ | ⟨-, hold⟩
    · exact hle
    · exact h.ackID_le key k hold

theorem moveRoute (hget : e.routes.get l = some route)
    (hbounded : Bounded (e.moveRoute l route kind adapter now)) :
    Sound (e.moveRoute l route kind adapter now) := by
  have hlt := taken_lt hbounded rfl (Finset.mem_insert_self _ _)
  refine (h.takeFrameId adapter.stream).bindAckKeyLocked (h.fresh_ackKey kind adapter hlt) ?_ ?_
    (h.routeBytes_le l route hget) ((len_set_of_get hget _).trans_le h.routes_le) ?_ ?_
    (h.logical_le l route hget)
  · exact next_le_takeFrameId e adapter.stream
  · exact h.balanced.set hget rfl (h.balanced.route_eq l route hget) (by
      show e.cachedBytes = e.cachedBytes - route.cachedBytes + route.cachedBytes
      omega)
  · intro key
    show key ∈ route.ackKeys ↔ ∃ r, e.routes.get l = some r ∧ key ∈ r.ackKeys
    simp [hget]
  · intro key
    show route.sourceKey = some key ↔ ∃ r, e.routes.get l = some r ∧ r.sourceKey = some key
    simp [hget]

theorem openRoute {frame : Frame}
    (hnone : e.routes.get frame.messageId = none) (hslot : e.routes.len < e.limits.maxRoutes)
    (hle : frame.messageId ≤ e.logicalGen) (hbounded : Bounded (e.openRoute frame kind adapter now)) :
    Sound (e.openRoute frame kind adapter now) := by
  have hlt := taken_lt hbounded rfl (Finset.mem_insert_self _ _)
  have hcounted : Sound { e.takeFrameId adapter.stream with routeCount := e.routeCount + 1 } :=
    { h.takeFrameId adapter.stream with
      balanced := { h.balanced with } }
  refine hcounted.bindAckKeyLocked (h.fresh_ackKey kind adapter hlt) ?_ ?_ ?_ ?_ ?_ ?_ hle
  · exact next_le_takeFrameId e adapter.stream
  · exact h.balanced.set_new hnone rfl rfl rfl rfl
  · exact Int.natCast_nonneg _
  · exact (len_set_of_none hnone _).trans_le hslot
  · intro key
    show key ∈ (∅ : Finset FrameEndpointKey) ↔
      ∃ r, e.routes.get frame.messageId = some r ∧ key ∈ r.ackKeys
    simp [hnone]
  · intro key
    show none = some key ↔ ∃ r, e.routes.get frame.messageId = some r ∧ r.sourceKey = some key
    simp [hnone]

/-- Until the generator comes round, the next logical id is not in use. -/
theorem fresh_logical (hlt : e.logicalGen + 1 < 2 ^ 64) :
    e.routes.get (FrameIdGenerator.next e.logicalGen) = none := by
  rw [FrameIdGenerator.next, add64_eq hlt, eq_none_iff_forall_ne_some]
  intro route hroute
  have hle := h.logical_le _ route hroute
  omega

theorem admitRoute {totalFrames : ℕ} (hnone : e.incomingIDs.get key = none)
    (hslot : e.routes.len < e.limits.maxRoutes) (hlt : e.logicalGen + 1 < 2 ^ 64) :
    Sound (e.admitRoute key totalFrames now) where
  balanced := h.balanced.set_new (h.fresh_logical hlt) rfl rfl rfl rfl
  routeBytes_le := forall_set (Int.natCast_nonneg _) h.routeBytes_le
  bytes_le := h.bytes_le
  routes_le := (len_set_of_none (h.fresh_logical hlt) _).trans_le hslot
  ackIDs_iff k l := by
    show e.ackIDs.get k = some l ↔ ∃ r, (e.routes.set _ _).get l = some r ∧ k ∈ r.ackKeys
    rw [h.ackIDs_iff]
    by_cases hl : l = FrameIdGenerator.next e.logicalGen
    · simp [hl, h.fresh_logical hlt]
    · simp [hl]
  incomingIDs_iff k l := by
    show (e.incomingIDs.set key _).get k = some l ↔
      ∃ r, (e.routes.set _ _).get l = some r ∧ r.sourceKey = some k
    rw [exists_set_iff, get_set]
    by_cases hk : k = key
    · subst hk
      rw [← h.incomingIDs_iff, hnone]
      simp [eq_comm]
    · rw [if_neg hk, h.incomingIDs_iff]
      by_cases hl : l = FrameIdGenerator.next e.logicalGen
      · simp [hl, h.fresh_logical hlt, Ne.symm hk]
      · simp [hl]
  logical_le := forall_set (Nat.mod_le _ _) fun l r hr =>
    (h.logical_le l r hr).trans (Nat.le_succ _)
  ackID_le := h.ackID_le

/-! ### Ids that are forgotten -/

theorem dropAdapterAckKeysLocked (hget : e.routes.get l = some route) :
    Sound (e.dropAdapterAckKeysLocked l route adapter) where
  balanced := h.balanced.set hget rfl (h.balanced.route_eq l route hget) (by
    show e.cachedBytes = e.cachedBytes - route.cachedBytes + route.cachedBytes
    omega)
  routeBytes_le := forall_set
    (h.routeBytes_le l route hget) h.routeBytes_le
  bytes_le := h.bytes_le
  routes_le := (len_set_of_get hget _).trans_le h.routes_le
  ackIDs_iff key k := by
    show (e.ackIDs.retain _).get key = some k ↔
      ∃ r, (e.routes.set l _).get k = some r ∧ key ∈ r.ackKeys
    rw [exists_set_iff, get_retain, ← h.ackIDs_iff]
    have hown : key ∈ route.ackKeys ↔ e.ackIDs.get key = some l := by
      rw [h.ackIDs_iff, hget]
      simp
    by_cases hkey : key ∈ route.ackKeys
    · have hentry := hown.mp hkey
      by_cases hk : k = l
      · simp [hkey, hentry, hk]
      · simp [hkey, hentry, hk, Ne.symm hk]
    · have hentry : e.ackIDs.get key ≠ some l := fun hentry => hkey (hown.mpr hentry)
      by_cases hk : k = l <;> simp [hkey, hentry, hk]
  incomingIDs_iff key k := by
    refine (h.incomingIDs_iff key k).trans (Iff.symm ?_)
    refine indexed_set hget ?_ k
    exact Iff.rfl
  logical_le := forall_set (h.logical_le l route hget) h.logical_le
  ackID_le key k hkey := by
    replace hkey : (e.ackIDs.retain _).get key = some k := hkey
    rw [get_retain] at hkey
    split_ifs at hkey
    exact h.ackID_le key k hkey

/-- The indexes have nothing of an adapter that no route names. -/
theorem dropAdapterIndexesLocked_eq
    (hclear : ∀ l route, e.routes.get l = some route → Clear adapter route) :
    e.dropAdapterIndexesLocked adapter = e := by
  unfold DualFrameRelayEndpoint.dropAdapterIndexesLocked
  rw [retain_eq_self fun key l hget => ?_, retain_eq_self fun key l hget => ?_]
  · obtain ⟨route, hroute, hkey⟩ := (h.ackIDs_iff key l).mp hget
    simp [(hclear l route hroute).ackKeys key hkey]
  · obtain ⟨route, hroute, hkey⟩ := (h.incomingIDs_iff key l).mp hget
    simp [(hclear l route hroute).sourceKey key hkey]

/-- An id of an incoming message without a route is not in the index. -/
theorem delete_incoming_eq (hnone : ∀ l, e.incomingIDs.get key = some l → e.routes.get l = none) :
    { e with incomingIDs := e.incomingIDs.delete key } = e := by
  have habsent : e.incomingIDs.get key = none := by
    rw [eq_none_iff_forall_ne_some]
    intro l hl
    obtain ⟨route, hroute, -⟩ := (h.incomingIDs_iff key l).mp hl
    rw [hnone l hl] at hroute
    cases hroute
  rw [delete_of_none habsent]

/-! ### Every change -/

/-- Only the quality, the adapters, `closed` and the generator change. -/
theorem of_same_tables {adapters : GoMap LegID TcpFrameAdapter} {closed : Bool} {n m : ℕ}
    (hle : e.logicalGen ≤ n) :
    Sound { e with
      quality := q, adapters := adapters, closed := closed, logicalGen := n, adapterCount := m } :=
  { h with
    balanced := { h.balanced with }
    logical_le := fun l route hget => (h.logical_le l route hget).trans hle }

end Sound

variable {w : Warrant}

/-- Every change keeps the tables sound, until a generator comes round. -/
theorem Sound.change (hopens : ∀ l, w.opens l → l ≤ e.logicalGen) (h : Sound e)
    (hchange : Change w e e') (hbounded : Bounded e') : Sound e' := by
  cases hchange with
  | revise hget hplace hframes haccounts =>
    exact h.revise hget hplace (haccounts h.balanced)
  | remove hget => exact h.removeRouteLocked hget
  | move hget => exact h.moveRoute hget hbounded
  | drop hget => exact h.dropAdapterAckKeysLocked hget
  | clean hclear => rwa [h.dropAdapterIndexesLocked_eq hclear]
  | openRoute hnone hslot hattached hallowed =>
    exact h.openRoute hnone hslot (hopens _ hallowed) hbounded
  | admitRoute hnone hslot => exact h.admitRoute hnone hslot hbounded.1
  | forgetAck hget hnone =>
    obtain ⟨route, hroute, -⟩ := (h.ackIDs_iff _ _).mp hget
    rw [hnone] at hroute
    cases hroute
  | forgetIncoming hnone => rwa [h.delete_incoming_eq hnone]
  | observe | detach | shut => exact h.of_same_tables le_rfl
  | takeFrameId => exact h.takeFrameId _
  | alloc => exact h.of_same_tables (Nat.le_succ _)
  | clear hnone =>
    exact
      { h with
        balanced := ⟨(total_eq_zero fun l route hget => by
          rw [hnone l] at hget; cases hget).symm, h.balanced.route_eq⟩
        bytes_le := Int.natCast_nonneg _
        ackIDs_iff := fun key l => by simp [hnone l]
        incomingIDs_iff := fun key l => by simp [hnone l]
        ackID_le := nofun }

/-- The generators only go up, and an id that was taken for a message stays taken. No change makes
an adapter. -/
theorem Change.generators (h : Change w e e') :
    e.logicalGen ≤ e'.logicalGen ∧ (∀ s, e.frameIdGen s ≤ e'.frameIdGen s) ∧
      e.owners.keys ⊆ e'.owners.keys ∧ e'.adapterCount = e.adapterCount := by
  cases h with
  | @remove l =>
    obtain ⟨_, _, _, _, _, heq⟩ := Sound.removeRouteLocked_eq e l
    rw [heq]
    exact ⟨le_rfl, fun _ => le_rfl, subset_rfl, rfl⟩
  | move | openRoute =>
    exact ⟨le_rfl, Sound.frameIdGen_le_takeFrameId e _, Finset.subset_insert _ _, rfl⟩
  | takeFrameId => exact ⟨le_rfl, Sound.frameIdGen_le_takeFrameId e _, subset_rfl, rfl⟩
  | admitRoute | alloc => exact ⟨Nat.le_succ _, fun _ => le_rfl, subset_rfl, rfl⟩
  | revise | drop | clean | forgetAck | forgetIncoming | observe | detach | shut | clear =>
    exact ⟨le_rfl, fun _ => le_rfl, subset_rfl, rfl⟩

/-- A generator that has not come round had not come round before. -/
theorem Change.bounded (h : Change w e e') (hbounded : Bounded e') : Bounded e := by
  obtain ⟨hlogical, hframes, howners, -⟩ := h.generators
  exact ⟨hlogical.trans_lt hbounded.1, fun id hid =>
    (hframes id.1).trans_lt (hbounded.2 id (howners hid))⟩

theorem Changes.bounded (h : Changes w e e') (hbounded : Bounded e') : Bounded e := by
  induction h with
  | refl => exact hbounded
  | tail _ hchange ih => exact ih (hchange.bounded hbounded)

theorem Changes.logicalGen_le (h : Changes w e e') : e.logicalGen ≤ e'.logicalGen := by
  induction h with
  | refl => exact le_rfl
  | tail _ hchange ih => exact ih.trans hchange.generators.1

/-- A sequence of changes keeps the tables sound, until a generator comes round. -/
theorem Sound.changes (hopens : ∀ l, w.opens l → l ≤ e.logicalGen) (h : Sound e)
    (hchanges : Changes w e e') (hbounded : Bounded e') : Sound e' := by
  induction hchanges with
  | refl => exact h
  | tail hbefore hchange ih =>
    exact (ih (hchange.bounded hbounded)).change
      (fun l hl => (hopens l hl).trans (Changes.logicalGen_le hbefore)) hchange hbounded

/-! ## Where routes lead -/

/-- The adapters that the tables name were made, and each for the leg that it is named with. -/
structure Registered (e : DualFrameRelayEndpoint) : Prop where
  adapter_known : ∀ kind adapter, e.adapters.get kind = some adapter →
    adapter.kind = kind ∧ adapter.serial < e.adapterCount
  endpoint_known : ∀ l route, e.routes.get l = some route →
    route.endpoint.kind = route.kind ∧ route.endpoint.serial < e.adapterCount
  source_known : ∀ l route key, e.routes.get l = some route → route.sourceKey = some key →
    key.adapter.kind = key.kind ∧ key.adapter.serial < e.adapterCount

namespace Registered

variable (h : Registered e)
include h

/-- The adapters of the routes and of the table were there before. -/
theorem of_same (hcount : e'.adapterCount = e.adapterCount)
    (hadapters : ∀ kind adapter, e'.adapters.get kind = some adapter →
      e.adapters.get kind = some adapter)
    (hroutes : ∀ l r', e'.routes.get l = some r' → ∃ r, e.routes.get l = some r ∧
      r'.kind = r.kind ∧ r'.endpoint = r.endpoint ∧ r'.sourceKey = r.sourceKey) :
    Registered e' where
  adapter_known kind adapter hget := hcount ▸ h.adapter_known kind adapter (hadapters _ _ hget)
  endpoint_known l r' hr' := by
    obtain ⟨r, hr, hkind, hendpoint, -⟩ := hroutes l r' hr'
    rw [hcount, hkind, hendpoint]
    exact h.endpoint_known l r hr
  source_known l r' key hr' hkey := by
    obtain ⟨r, hr, -, -, hsource⟩ := hroutes l r' hr'
    rw [hcount]
    exact h.source_known l r key hr (hsource ▸ hkey)

/-- A route gets an adapter that was there before. -/
theorem set (hcount : e'.adapterCount = e.adapterCount) (hadapters : e'.adapters = e.adapters)
    (hroutes : e'.routes = e.routes.set l route)
    (hattached : e.adapters.get route.kind = some route.endpoint)
    (hsource : ∀ key, route.sourceKey = some key →
      key.adapter.kind = key.kind ∧ key.adapter.serial < e.adapterCount) : Registered e' where
  adapter_known := by
    rw [hcount, hadapters]
    exact h.adapter_known
  endpoint_known := by
    rw [hcount, hroutes]
    exact forall_set (h.adapter_known _ _ hattached) h.endpoint_known
  source_known l' r key hr := by
    rw [hroutes] at hr
    rw [hcount]
    exact forall_set (hsource key) (fun l' r hr => h.source_known l' r key hr) l' r hr

/-- Every change keeps the adapters known. -/
theorem change (hchange : Change w e e') : Registered e' := by
  have hcount := hchange.generators.2.2.2
  cases hchange with
  | revise hget hplace =>
    refine h.of_same hcount (fun _ _ => id) (forall_set ?_ fun l r hr => ⟨r, hr, rfl, rfl, rfl⟩)
    exact ⟨_, hget, hplace.kind, hplace.endpoint, hplace.sourceKey⟩
  | @remove l route hget =>
    refine h.of_same hcount (fun kind adapter hattached => ?_) fun l' r hr => ?_
    · obtain ⟨_, _, _, _, _, heq⟩ := Sound.removeRouteLocked_eq e l
      rwa [heq] at hattached
    · rw [Sound.get_routes_removeRouteLocked] at hr
      split_ifs at hr
      exact ⟨r, hr, rfl, rfl, rfl⟩
  | move hget hattached =>
    exact h.set hcount rfl rfl hattached fun key hkey => h.source_known _ _ key hget hkey
  | drop hget =>
    refine h.of_same hcount (fun _ _ => id) (forall_set ?_ fun l r hr => ⟨r, hr, rfl, rfl, rfl⟩)
    exact ⟨_, hget, rfl, rfl, rfl⟩
  | openRoute hnone hslot hattached =>
    exact h.set hcount rfl rfl hattached fun key hkey => nomatch hkey
  | admitRoute hnone hslot hattached =>
    refine h.set hcount rfl rfl hattached fun k hk => ?_
    obtain rfl := some.inj hk
    exact h.adapter_known _ _ hattached
  | detach =>
    refine h.of_same hcount (fun kind adapter hget => ?_) fun l r hr => ⟨r, hr, rfl, rfl, rfl⟩
    exact (get_delete_eq_some.mp hget).2
  | shut =>
    exact h.of_same hcount (fun _ _ hget => nomatch hget) fun l r hr => ⟨r, hr, rfl, rfl, rfl⟩
  | clean | forgetAck | forgetIncoming | observe | takeFrameId | alloc | clear =>
    exact h.of_same hcount (fun _ _ => id) fun l r hr => ⟨r, hr, rfl, rfl, rfl⟩

theorem changes (hchanges : Changes w e e') : Registered e' := by
  induction hchanges with
  | refl => exact h
  | tail _ hchange ih => exact ih.change hchange

end Registered

/-- A route leads to the adapter of its leg, or the leg has no adapter and the route waits for one.
Routes to `stale` adapters are exempt. A message whose leg has still the adapter that it came from
has its route there. -/
structure Placed (stale : List TcpFrameAdapter) (e : DualFrameRelayEndpoint) : Prop
    extends Registered e where
  endpoint : ∀ l route, e.routes.get l = some route → route.endpoint ∈ stale ∨
    e.adapters.get route.kind = some route.endpoint ∨ e.adapters.get route.kind = none
  source : ∀ l route key, e.routes.get l = some route → route.sourceKey = some key →
    e.adapters.get key.kind = some key.adapter → route.endpoint = key.adapter

namespace Placed

variable {stale : List TcpFrameAdapter}

section

variable (h : Placed stale e)
include h

/-- Routes that stay where they are stay placed, also when an adapter leaves. -/
theorem of_same (hregistered : Registered e')
    (hroutes : ∀ l r', e'.routes.get l = some r' → ∃ r, e.routes.get l = some r ∧
      r'.kind = r.kind ∧ r'.endpoint = r.endpoint ∧ r'.sourceKey = r.sourceKey)
    (hadapters : ∀ k, e'.adapters.get k = e.adapters.get k ∨ e'.adapters.get k = none) :
    Placed stale e' := by
  refine ⟨hregistered, ?_, ?_⟩
  · intro l r' hr'
    obtain ⟨r, hr, hkind, hendpoint, -⟩ := hroutes l r' hr'
    rw [hkind, hendpoint]
    rcases hadapters r.kind with hsame | hnone
    · rw [hsame]
      exact h.endpoint l r hr
    · exact .inr (.inr hnone)
  · intro l r' key hr' hkey hattached
    obtain ⟨r, hr, -, hendpoint, hsource⟩ := hroutes l r' hr'
    rw [hendpoint]
    refine h.source l r key hr (hsource ▸ hkey) ?_
    rcases hadapters key.kind with hsame | hnone
    · rwa [hsame] at hattached
    · rw [hnone] at hattached
      cases hattached

/-- A route is replaced by one in the same place. -/
theorem revise (hregistered : Registered e') (hroutes : e'.routes = e.routes.set l route')
    (hadapters : e'.adapters = e.adapters) (hget : e.routes.get l = some route)
    (hkind : route'.kind = route.kind) (hendpoint : route'.endpoint = route.endpoint)
    (hsource : route'.sourceKey = route.sourceKey) : Placed stale e' := by
  refine h.of_same hregistered (fun l' r' hr' => ?_) fun _ => .inl (by rw [hadapters])
  rw [hroutes, get_set] at hr'
  split_ifs at hr' with hl
  · obtain rfl := some.inj hr'
    exact ⟨route, hl ▸ hget, hkind, hendpoint, hsource⟩
  · exact ⟨r', hr', rfl, rfl, rfl⟩

/-- A route that leads to the adapter of its leg. -/
theorem set (hregistered : Registered e')
    (hroutes : e'.routes = e.routes.set l route) (hadapters : e'.adapters = e.adapters)
    (hattached : e.adapters.get route.kind = some route.endpoint)
    (hsource : ∀ key, route.sourceKey = some key →
      e.adapters.get key.kind = some key.adapter → route.endpoint = key.adapter) :
    Placed stale e' := by
  refine ⟨hregistered, ?_, ?_⟩
  · rw [hroutes, hadapters]
    exact forall_set (.inr (.inl hattached)) h.endpoint
  · intro l' r key hr hkey
    rw [hadapters]
    rw [hroutes] at hr
    exact forall_set (hsource key)
      (fun l' r hr => h.source l' r key hr) l' r hr hkey

/-- Every change keeps routes placed. -/
theorem change (hchange : Change w e e') : Placed stale e' := by
  have hregistered := h.toRegistered.change hchange
  cases hchange with
  | revise hget hplace =>
    exact h.revise hregistered rfl rfl hget hplace.kind hplace.endpoint hplace.sourceKey
  | remove hget =>
    refine h.of_same hregistered (fun l r' hr' => ?_) fun _ => .inl ?_
    · rw [Sound.get_routes_removeRouteLocked] at hr'
      split_ifs at hr'
      exact ⟨r', hr', rfl, rfl, rfl⟩
    · unfold removeRouteLocked
      rw [hget]
      rfl
  | move hget hattached hsource =>
    exact h.set hregistered rfl rfl hattached fun key hkey hkeyAttached =>
      absurd hkeyAttached (hsource key hkey)
  | drop hget =>
    exact h.revise hregistered rfl rfl hget rfl rfl rfl
  | openRoute hnone hslot hattached =>
    exact h.set hregistered rfl rfl hattached fun key hkey => nomatch hkey
  | admitRoute hnone hslot hattached =>
    refine h.set hregistered rfl rfl hattached fun k hk _ => ?_
    obtain rfl := some.inj hk
    rfl
  | detach =>
    refine h.of_same hregistered (fun l r hr => ⟨r, hr, rfl, rfl, rfl⟩) fun k => ?_
    rw [get_delete]
    split_ifs
    · exact .inr rfl
    · exact .inl rfl
  | shut => exact h.of_same hregistered (fun l r hr => ⟨r, hr, rfl, rfl, rfl⟩) fun k => .inr rfl
  | clean | forgetAck | forgetIncoming | observe | takeFrameId | alloc | clear =>
    exact h.of_same hregistered (fun l r hr => ⟨r, hr, rfl, rfl, rfl⟩) fun _ => .inl rfl

theorem changes (hchanges : Changes w e e') : Placed stale e' := by
  induction hchanges with
  | refl => exact h
  | tail _ hchange ih => exact ih.change hchange

end

/-- Without routes to it, an adapter need not be exempt. -/
theorem of_cons (h : Placed (adapter :: stale) e)
    (hgone : ∀ l route, e.routes.get l = some route → route.endpoint ≠ adapter) :
    Placed stale e where
  toRegistered := h.toRegistered
  endpoint l route hget := by
    rcases h.endpoint l route hget with hmem | hplaced
    · rcases List.mem_cons.mp hmem with heq | hmem
      · exact absurd heq (hgone l route hget)
      · exact .inl hmem
    · exact .inr hplaced
  source := h.source

end Placed

/-! ## Messages that are where they came from -/

/-- Messages that came from certain adapters have their routes there. -/
def Home (A : TcpFrameAdapter → Prop) (e : DualFrameRelayEndpoint) : Prop :=
  ∀ l route key, e.routes.get l = some route → route.sourceKey = some key → A key.adapter →
    route.endpoint = key.adapter

variable
  (hmoves : ∀ route, w.moves route → ∀ key, route.sourceKey = some key → key.adapter ≠ route.endpoint)
  (h : Home A e)
include hmoves h

/-- A call that moves only routes that have left keeps the others where they are. -/
theorem Home.change (hchange : Change w e e') : Home A e' := by
  have hset : ∀ {l r}, (∀ key, r.sourceKey = some key → A key.adapter → r.endpoint = key.adapter) →
      ∀ l' route key, (e.routes.set l r).get l' = some route → route.sourceKey = some key →
        A key.adapter → route.endpoint = key.adapter := by
    intro l r hr l' route key hget
    exact forall_set (hr key) (fun l' route hget => h l' route key hget) l' route hget
  cases hchange with
  | revise hget hplace =>
    refine hset fun key hkey hA => ?_
    rw [hplace.endpoint]
    exact h _ _ key hget (hplace.sourceKey ▸ hkey) hA
  | remove hget =>
    intro l' route key hroute
    rw [Sound.get_routes_removeRouteLocked] at hroute
    split_ifs at hroute
    exact h l' route key hroute
  | move hget hattached hsource hallowed =>
    refine hset fun key hkey hA => ?_
    exact absurd (h _ _ key hget hkey hA).symm (hmoves _ hallowed key hkey)
  | drop hget =>
    refine hset fun key hkey hA => ?_
    have hold := h _ _ key hget hkey hA
    exact hold
  | openRoute => exact hset fun key hkey => nomatch hkey
  | admitRoute =>
    refine hset fun key hkey _ => ?_
    obtain rfl := some.inj hkey
    rfl
  | clean | forgetAck | forgetIncoming | observe | takeFrameId | alloc | detach | shut | clear =>
    exact h

theorem Home.changes (hchanges : Changes w e e') : Home A e' := by
  induction hchanges with
  | refl => exact h
  | tail _ hchange ih => exact ih.change hmoves hchange

end NatP2P.Network.DualFrameRelayEndpoint
