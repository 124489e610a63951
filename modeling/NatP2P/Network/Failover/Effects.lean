import NatP2P.Network.Failover.Changes
import Mathlib.Data.Option.Basic

/-!
# The functions of the endpoint as changes

For every function of the endpoint that runs under its lock there is a lemma that it is a sequence
of changes. The loops that move routes from one adapter to another need the invariants on the way:
that an index has nothing of an adapter any more is only known when all routes have been visited.
-/

namespace NatP2P.Network.DualFrameRelayEndpoint

open List GoMap Option

variable {w : Warrant} {e e' : DualFrameRelayEndpoint} {l l' : ℕ} {route route' : DualFrameRoute}
  {key : FrameEndpointKey} {kind : LegID} {adapter : TcpFrameAdapter} {order : GoMap.Order ℕ}
  {now : ℤ} {q : LegQuality} {view : LegView} {fraction : ℤ → ℤ} {t : Ticket} {frame first : Frame}
  {rest : List Frame}

/-! ## One route -/

theorem SamePlace.refl (route : DualFrameRoute) : SamePlace route route :=
  ⟨rfl, rfl, rfl, rfl, rfl, rfl⟩

section

variable (hget : e.routes.get l = some route) (hplace : SamePlace route route')
include hget hplace

/-- A route changes in what is not its place and not its cache. -/
theorem change_put (hframes : route'.framesBySeq = route.framesBySeq)
    (hbytes : route'.cachedBytes = route.cachedBytes) :
    Change w e ({ e with quality := q }.put l route') := by
  refine .revise hget hplace ?_ fun hbalanced => ⟨?_, ?_, ?_, le_max_left _ _⟩
  · intro seq f hf
    rw [hframes] at hf
    exact .inl hf
  · rw [hbytes, hframes]
    exact hbalanced.route_eq l route hget
  · show e.cachedBytes = _
    omega
  · rw [hbytes]
    exact le_max_left _ _

theorem change_release {r : DualFrameRoute} (hframes : route'.framesBySeq = .empty)
    (hbytes : route'.cachedBytes = 0) (hold : r.cachedBytes = route.cachedBytes) :
    Change w e ({ e with
      quality := q, cachedBytes := max 0 (e.cachedBytes - r.cachedBytes) }.put l route') := by
  refine .revise hget hplace ?_ fun hbalanced => ?_
  · intro seq f hf
    rw [hframes] at hf
    cases hf
  · have hle := hbalanced.route_le hget
    have hnonneg := hbalanced.route_nonneg hget
    constructor
    · rw [hbytes, hframes]
      rfl
    · show max 0 (e.cachedBytes - r.cachedBytes) = _
      omega
    · rw [hbytes]
      exact le_max_of_le_right (Int.natCast_nonneg _)
    · show max 0 (e.cachedBytes - r.cachedBytes) ≤ _
      omega

theorem change_releaseRouteFramesLocked (hbytes : route'.cachedBytes = route.cachedBytes) :
    Change w e ({ e with quality := q }.releaseRouteFramesLocked l route') := by
  refine change_release hget ?_ rfl rfl hbytes
  exact { hplace with }

end

theorem changes_completeRouteLocked : Changes w e (e.completeRouteLocked l fraction view now) := by
  unfold completeRouteLocked
  cases hget : e.routes.get l with
  | none => exact .refl
  | some route =>
    exact .single (change_releaseRouteFramesLocked hget ⟨rfl, rfl, rfl, rfl, rfl, rfl⟩ rfl)

theorem changes_completeWritten : Changes w e (e.completeWritten t fraction view now) := by
  unfold completeWritten
  split
  · exact .refl
  · split_ifs
    · exact changes_completeRouteLocked
    · exact .refl

/-! ## The cache -/

/-- What `dropCached` takes out of the two counters and of the cache. -/
theorem dropCached_eq (e : DualFrameRelayEndpoint) (route : DualFrameRoute) (seqId : ℕ) :
    e.dropCached route seqId = ({ e with cachedBytes :=
          e.cachedBytes - (route.framesBySeq.get seqId).elim 0 cachedFrameBytes },
        { route with
          cachedBytes := route.cachedBytes - (route.framesBySeq.get seqId).elim 0 cachedFrameBytes
          framesBySeq := route.framesBySeq.delete seqId }) := by
  unfold dropCached
  split
  · next hget =>
    rw [hget, elim_none, sub_zero, sub_zero, delete_of_none hget]
  · next existing hget => rw [hget, elim_some]

/-- A frame goes into the cache of a route, or the route gives up its cache. -/
theorem change_cacheFrameLocked (hcaches : w.caches l frame)
    (hget : e.routes.get l = some route) (hplace : SamePlace route route')
    (hframes : route'.framesBySeq = route.framesBySeq)
    (hbytes : route'.cachedBytes = route.cachedBytes) :
    Change w e (e.cacheFrameLocked l route' frame) := by
  unfold cacheFrameLocked
  split
  · exact change_put hget hplace hframes hbytes
  rw [dropCached_eq, hframes, hbytes]
  set old := (route.framesBySeq.get frame.seqId).elim 0 cachedFrameBytes with hold
  have hplace' : ∀ {frames cachedBytes replayOff quality}, SamePlace route
      { route' with framesBySeq := frames, cachedBytes, replayOff, quality } :=
    { hplace with }
  have hfull : max 0 (e.cachedBytes - old - (route.cachedBytes - old)) =
      max 0 (e.cachedBytes - route'.cachedBytes) := by
    rw [hbytes, sub_sub_sub_cancel_right]
  dsimp only
  split
  · rw [hfull]
    exact change_release hget hplace' rfl rfl hbytes
  · next hlimit =>
    refine .revise hget hplace' ?_ fun hbalanced => ?_
    · intro seq f hf
      rcases get_set_eq_some.mp hf with ⟨-, rfl⟩ | ⟨-, hold⟩
      · exact .inr hcaches
      · exact .inl (get_delete_eq_some.mp hold).2
    · have htotal := hbalanced.route_eq l route hget
      rw [total_delete (k := frame.seqId)] at htotal
      have hnew := @GoMap.total_set _ _ ℤ _ (route.framesBySeq.delete frame.seqId) frame.seqId frame
        cachedFrameBytes _
      rw [get_delete_self, elim_none] at hnew
      constructor
      · show route.cachedBytes - old + cachedFrameBytes frame =
          ((route.framesBySeq.delete frame.seqId).set frame.seqId frame).total cachedFrameBytes
        omega
      · show e.cachedBytes - old + cachedFrameBytes frame =
          e.cachedBytes - route.cachedBytes + (route.cachedBytes - old + cachedFrameBytes frame)
        omega
      · show route.cachedBytes - old + cachedFrameBytes frame ≤ _
        omega
      · show e.cachedBytes - old + cachedFrameBytes frame ≤ _
        omega

/-- Changes of the rounds of a loop make a change of the loop. -/
theorem changes_foldl {α : Type*} {f : DualFrameRelayEndpoint → α → DualFrameRelayEndpoint}
    (items : List α) (hround : ∀ item ∈ items, ∀ e, Changes w e (f e item))
    (e : DualFrameRelayEndpoint) : Changes w e (items.foldl f e) := by
  induction items generalizing e with
  | nil => exact .refl
  | cons item items ih =>
    refine (hround item mem_cons_self e).trans (ih ?_ (f e item))
    intro other hother
    exact hround other (mem_cons_of_mem _ hother)

theorem samePlace_markRouteFrameSubmittedLocked :
    SamePlace route (markRouteFrameSubmittedLocked route frame now) ∧
      (markRouteFrameSubmittedLocked route frame now).framesBySeq = route.framesBySeq ∧
      (markRouteFrameSubmittedLocked route frame now).cachedBytes = route.cachedBytes := by
  unfold markRouteFrameSubmittedLocked
  split_ifs
  · exact ⟨.refl route, rfl, rfl⟩
  · exact ⟨⟨rfl, rfl, rfl, rfl, rfl, rfl⟩, rfl, rfl⟩

theorem changes_submitFrame (hcaches : w.caches l frame) :
    Changes w e (submitFrame l now e frame) := by
  unfold submitFrame
  cases hget : e.routes.get l with
  | none => exact .refl
  | some route =>
    obtain ⟨hplace, hframes, hbytes⟩ := @samePlace_markRouteFrameSubmittedLocked route now frame
    exact .single (change_cacheFrameLocked hcaches hget hplace hframes hbytes)

theorem changes_observeSubmitted : Changes w e (e.observeSubmitted l now) := by
  unfold observeSubmitted
  cases hget : e.routes.get l with
  | none => exact .refl
  | some route =>
    dsimp only
    split
    · exact .single (change_put hget ⟨rfl, rfl, rfl, rfl, rfl, rfl⟩ rfl rfl)
    · exact .refl

theorem changes_submitFrames {frames : List Frame} (hcaches : ∀ f ∈ frames, w.caches l f) :
    Changes w e (e.submitFrames l frames now) := by
  unfold submitFrames
  cases hget : e.routes.get l with
  | none => exact .refl
  | some route =>
    have hactive : Change w e (e.put l { route with lastActive := now }) :=
      change_put hget ⟨rfl, rfl, rfl, rfl, rfl, rfl⟩ rfl rfl
    dsimp only
    split
    · refine .head hactive (.trans ?_ changes_observeSubmitted)
      exact changes_foldl frames (fun f hf e => changes_submitFrame (hcaches f hf)) _
    · exact .single hactive

/-! ## Removals -/

/-- Routes are removed, and nothing else happens. -/
abbrev Removals : DualFrameRelayEndpoint → DualFrameRelayEndpoint → Prop :=
  Relation.ReflTransGen fun e e' =>
    ∃ l route, e.routes.get l = some route ∧ e' = e.removeRouteLocked l

theorem Removals.changes (h : Removals e e') : Changes w e e' := by
  induction h with
  | refl => exact .refl
  | tail _ hstep ih =>
    obtain ⟨l, route, hget, rfl⟩ := hstep
    exact ih.tail (.remove hget)

/-- What removals leave as it is. -/
structure Steady (e e' : DualFrameRelayEndpoint) : Prop where
  adapters : e'.adapters = e.adapters
  limits : e'.limits = e.limits
  logicalGen : e'.logicalGen = e.logicalGen
  incomingIDs : ∀ key, e.incomingIDs.get key = none → e'.incomingIDs.get key = none
  routes : ∀ l, e.routes.get l = none → e'.routes.get l = none

theorem steady_removeRouteLocked : Steady e (e.removeRouteLocked l) := by
  obtain ⟨_, _, _, _, _, heq⟩ := Sound.removeRouteLocked_eq e l
  refine ⟨by rw [heq], by rw [heq], by rw [heq], fun key hnone => ?_, fun l' hnone => ?_⟩
  · unfold removeRouteLocked
    cases hget : e.routes.get l with
    | none => exact hnone
    | some route =>
      cases hsource : route.sourceKey with
      | none =>
        simp only [hsource]
        exact hnone
      | some source =>
        simp only [hsource]
        show (if e.incomingIDs.get source = some l then e.incomingIDs.delete source
          else e.incomingIDs).get key = none
        split_ifs
        · rw [get_delete, hnone, ite_self]
        · exact hnone
  · rw [Sound.get_routes_removeRouteLocked]
    split_ifs
    · rfl
    · exact hnone

theorem Removals.steady (h : Removals e e') : Steady e e' := by
  induction h with
  | refl => exact ⟨rfl, rfl, rfl, fun _ => id, fun _ => id⟩
  | tail _ hstep ih =>
    obtain ⟨l, route, -, rfl⟩ := hstep
    have hsteady := @steady_removeRouteLocked
    exact
      { adapters := hsteady.adapters.trans ih.adapters
        limits := hsteady.limits.trans ih.limits
        logicalGen := hsteady.logicalGen.trans ih.logicalGen
        incomingIDs := fun key hnone => hsteady.incomingIDs key (ih.incomingIDs key hnone)
        routes := fun l hnone => hsteady.routes l (ih.routes l hnone) }

theorem removals_removeRouteLocked : Removals e (e.removeRouteLocked l) := by
  cases hget : e.routes.get l with
  | none =>
    unfold removeRouteLocked
    rw [hget]
  | some route => exact .single ⟨l, route, hget, rfl⟩

theorem removals_sweepExpiredLocked : Removals e (e.sweepExpiredLocked order now) := by
  unfold sweepExpiredLocked
  generalize order.visit e.routes.keys = ids
  induction ids generalizing e with
  | nil => exact .refl
  | cons id ids ih =>
    refine .trans ?_ ih
    unfold sweepRoute
    split
    · exact .refl
    · split_ifs
      · exact removals_removeRouteLocked
      · exact .refl

theorem removals_freeSlot (order : GoMap.Order ℕ) (fuel : ℕ) (e : DualFrameRelayEndpoint) :
    Removals e (freeSlot order fuel e).2 ∧ ((freeSlot order fuel e).1 = true →
        (freeSlot order fuel e).2.routes.len < (freeSlot order fuel e).2.limits.maxRoutes) := by
  induction fuel generalizing e with
  | zero => exact ⟨.refl, fun h => of_decide_eq_true h⟩
  | succ fuel ih =>
    unfold freeSlot
    dsimp only
    split_ifs with hlen hnone
    · exact ⟨.refl, fun _ => hlen⟩
    · exact ⟨.refl, nofun⟩
    · obtain ⟨hremovals, hslot⟩ := ih (e.removeRouteLocked _)
      exact ⟨removals_removeRouteLocked.trans hremovals, hslot⟩

/-- `ensureRouteSlotLocked` removes routes, and its answer means that there is room. -/
theorem removals_ensureRouteSlotLocked :
    Removals e (e.ensureRouteSlotLocked order now).2 ∧
      ((e.ensureRouteSlotLocked order now).1 = true →
        (e.ensureRouteSlotLocked order now).2.routes.len <
          (e.ensureRouteSlotLocked order now).2.limits.maxRoutes) := by
  unfold ensureRouteSlotLocked
  split_ifs with hzero hlen
  · exact ⟨.refl, nofun⟩
  · exact ⟨.refl, fun _ => hlen⟩
  · obtain ⟨hremovals, hslot⟩ := removals_freeSlot order
      (e.sweepExpiredLocked order now).routes.len (e.sweepExpiredLocked order now)
    exact ⟨removals_sweepExpiredLocked.trans hremovals, hslot⟩

/-! ## Frames in -/

theorem change_observeAckProgressLocked (hget : e.routes.get l = some route)
    (hplace : SamePlace route route') (hframes : route'.framesBySeq = route.framesBySeq)
    (hbytes : route'.cachedBytes = route.cachedBytes) :
    Change w e (e.observeAckProgressLocked l route' frame now) := by
  have hquality : ∀ {quality}, SamePlace route { route' with quality } := { hplace with }
  unfold observeAckProgressLocked
  dsimp only
  split
  · exact change_put hget hplace hframes hbytes
  · split <;> exact change_put hget hquality hframes hbytes

/-- Where a frame that came in belongs. Behind it, `taken` logical ids were taken. -/
structure Resolves (e : DualFrameRelayEndpoint) (taken : ℕ) (adapter : TcpFrameAdapter)
    (frame : Frame) (logicalID : ℕ) : Prop where
  ack : frame.frameType = frameTypeAck →
    e.ackIDs.get ⟨adapter.kind, adapter, [], frame.messageId⟩ = some logicalID
  data : frame.frameType ≠ frameTypeAck → isRelayBatchDataFrame frame = true ∧
    ((∃ route, e.routes.get logicalID = some route ∧
        route.sourceKey = some ⟨adapter.kind, adapter, frame.connectionId, frame.messageId⟩) ∨
      (logicalID = FrameIdGenerator.next e.logicalGen ∧ e.logicalGen < taken))
  logicalID_le : logicalID ≤ taken

theorem Resolves.mono {taken taken' logicalID : ℕ} (h : Resolves e taken adapter frame logicalID)
    (hle : taken ≤ taken') : Resolves e taken' adapter frame logicalID where
  ack := h.ack
  data hack := (h.data hack).imp_right (Or.imp_right (And.imp_right hle.trans_lt'))
  logicalID_le := h.logicalID_le.trans hle

/-- `resolveIncomingFrameLocked` is a sequence of changes. It admits a message only for the frame,
under the logical id that it returns. -/
theorem changes_resolveIncomingFrameLocked
    (hsound : Sound e) (hregistered : Registered e)
    (hattached : e.adapters.get kind = some adapter)
    (hadmits : frame.frameType ≠ frameTypeAck →
      (e.resolveIncomingFrameLocked kind adapter frame order now).1 =
        .ok (some (FrameIdGenerator.next e.logicalGen)) →
      w.admits (FrameIdGenerator.next e.logicalGen)
        ⟨kind, adapter, frame.connectionId, frame.messageId⟩) :
    Changes w e (e.resolveIncomingFrameLocked kind adapter frame order now).2 ∧
      ∀ logicalID, (e.resolveIncomingFrameLocked kind adapter frame order now).1 =
        .ok (some logicalID) →
          Resolves e (e.resolveIncomingFrameLocked kind adapter frame order now).2.logicalGen adapter
            frame logicalID := by
  obtain ⟨rfl, -⟩ := hregistered.adapter_known kind adapter hattached
  unfold resolveIncomingFrameLocked at hadmits ⊢
  dsimp only at hadmits ⊢
  by_cases hack : frame.frameType = frameTypeAck
  · rw [if_pos hack]
    split
    · exact ⟨.refl, nofun⟩
    · next logicalID hkey =>
      split
      · next hnone => exact ⟨.single (.forgetAck hkey hnone), nofun⟩
      · next route hget =>
        have hchange : Change w e (e.observeAckProgressLocked logicalID
            { route with lastActive := now } frame now) :=
          change_observeAckProgressLocked hget ⟨rfl, rfl, rfl, rfl, rfl, rfl⟩ rfl rfl
        refine ⟨.single hchange, ?_⟩
        rintro _ ⟨rfl⟩
        exact ⟨fun _ => hkey, fun h => absurd hack h,
          (hsound.logical_le _ route hget).trans hchange.generators.1⟩
  replace hadmits := hadmits hack
  rw [if_neg hack] at hadmits ⊢
  by_cases hdata : isRelayBatchDataFrame frame = true
  case neg =>
    rw [if_pos hdata]
    exact ⟨.refl, nofun⟩
  rw [if_neg (not_not.mpr hdata)] at hadmits ⊢
  set key : FrameEndpointKey := ⟨adapter.kind, adapter, frame.connectionId, frame.messageId⟩
    with hkeyDef
  by_cases hseq : frame.totalFrames = 0 ∨ frame.seqId ≥ frame.totalFrames
  · rw [if_pos hseq]
    exact ⟨.refl, nofun⟩
  rw [if_neg hseq] at hadmits ⊢
  split
  · next logicalID route hknown =>
    obtain ⟨_, hkey, hroute⟩ := bind_eq_some_iff.mp hknown
    obtain ⟨r, hget, heq⟩ := map_eq_some_iff.mp hroute
    obtain ⟨rfl, rfl⟩ := Prod.mk.inj heq
    split_ifs
    · exact ⟨.refl, nofun⟩
    · refine ⟨.single (change_put hget ⟨rfl, rfl, rfl, rfl, rfl, rfl⟩ rfl rfl), ?_⟩
      rintro _ ⟨rfl⟩
      refine ⟨fun h => absurd h hack, fun _ => ⟨hdata, .inl ⟨r, hget, ?_⟩⟩,
        hsound.logical_le _ r hget⟩
      obtain ⟨r', hget', hsource⟩ := (hsound.incomingIDs_iff _ _).mp hkey
      obtain rfl := mem_unique hget hget'
      exact hsource
  · next hknown =>
    -- the id was not in use, so the endpoint is as before when a slot is looked for
    have hforget : { e with incomingIDs := e.incomingIDs.delete key } = e := by
      refine hsound.delete_incoming_eq fun l hl => ?_
      rw [hl, bind_some, map_eq_none_iff] at hknown
      exact hknown
    have hnone : e.incomingIDs.get key = none := by
      rw [← hforget]
      exact get_delete_self
    rw [hknown, hforget] at hadmits
    rw [hforget]
    obtain ⟨hremovals, hslot⟩ := @removals_ensureRouteSlotLocked e order now
    have hsteady := hremovals.steady
    split_ifs with hfull
    · exact ⟨hremovals.changes, nofun⟩
    · constructor
      · refine hremovals.changes.tail (.admitRoute (hsteady.incomingIDs _ hnone)
          (hslot (by simpa using hfull)) ?_ ?_)
        · rw [hsteady.adapters]
          exact hattached
        · rw [hsteady.logicalGen]
          exact hadmits (by simp only [if_neg hfull, hsteady.logicalGen])
      · rintro _ ⟨rfl⟩
        refine ⟨fun h => absurd h hack, fun _ => ⟨hdata, .inr ?_⟩, Nat.mod_le _ _⟩
        rw [← hsteady.logicalGen]
        exact ⟨rfl, Nat.lt_succ_self _⟩

/-- What `collect` passes on: a close notice as it came, and any other frame under the logical id
of its message. -/
theorem changes_collectLocked (hsound : Sound e) (hregistered : Registered e)
    (hadmits : frame.frameType ≠ frameTypeAck → frame.frameType ≠ frameTypeConnectionClose →
      (e.collectLocked kind adapter frame fraction view order now).1 =
        .passed { frame with messageId := FrameIdGenerator.next e.logicalGen } →
      w.admits (FrameIdGenerator.next e.logicalGen)
        ⟨kind, adapter, frame.connectionId, frame.messageId⟩) :
    Changes w e (e.collectLocked kind adapter frame fraction view order now).2 ∧
      ∀ out, (e.collectLocked kind adapter frame fraction view order now).1 = .passed out →
        frame.frameType ≠ frameTypeConnectionClose →
          Resolves e (e.collectLocked kind adapter frame fraction view order now).2.logicalGen adapter
            frame out.messageId := by
  unfold collectLocked at hadmits ⊢
  by_cases hdetached : e.closed ∨ e.adapters.get kind ≠ some adapter
  · rw [if_pos hdetached]
    exact ⟨.refl, nofun⟩
  rw [if_neg hdetached] at hadmits ⊢
  have hattached : e.adapters.get kind = some adapter := not_not.mp fun hne => hdetached (.inr hne)
  by_cases hclose : frame.frameType = frameTypeConnectionClose
  · rw [if_pos hclose]
    exact ⟨.refl, fun _ _ hne => absurd hclose hne⟩
  rw [if_neg hclose] at hadmits ⊢
  obtain ⟨hchanges, hresolves⟩ := @changes_resolveIncomingFrameLocked w e kind adapter order now
    frame hsound hregistered hattached (fun hack hresult => hadmits hack hclose (by simp only [hresult]))
  dsimp only
  split
  · exact ⟨hchanges, nofun⟩
  · exact ⟨hchanges, nofun⟩
  · next logicalID hresult =>
    have hresolved := hresolves logicalID hresult
    split_ifs
    · refine ⟨hchanges.trans changes_completeRouteLocked, ?_⟩
      rintro _ ⟨rfl⟩ -
      exact hresolved.mono (Changes.logicalGen_le (w := .strict) changes_completeRouteLocked)
    · refine ⟨hchanges, ?_⟩
      rintro _ ⟨rfl⟩ -
      exact hresolved

/-! ## Frames out -/

theorem get_of_firstAttached {ids : List LegID} {p : LegID → Bool}
    (h : e.firstAttached ids p = some (kind, adapter)) : e.adapters.get kind = some adapter := by
  obtain ⟨id, -, hid⟩ := exists_of_findSome?_eq_some h
  split_ifs at hid
  obtain ⟨a, ha, heq⟩ := map_eq_some_iff.mp hid
  obtain ⟨rfl, rfl⟩ := Prod.mk.inj heq
  exact ha

theorem get_of_chooseAdapterLocked {exclude : Option LegID}
    (h : e.chooseAdapterLocked view exclude = some (kind, adapter)) :
    e.adapters.get kind = some adapter := by
  rcases (orElse_eq_some _ _ _).mp h with hcool | ⟨-, h⟩
  · split_ifs at hcool
    exact get_of_firstAttached hcool
  rcases (orElse_eq_some _ _ _).mp h with hpreferred | ⟨-, h⟩
  · unfold preferredAdapter at hpreferred
    split_ifs at hpreferred
    obtain ⟨id, -, hid⟩ := bind_eq_some_iff.mp hpreferred
    obtain ⟨a, ha, heq⟩ := map_eq_some_iff.mp hid
    obtain ⟨rfl, rfl⟩ := Prod.mk.inj heq
    exact ha
  · exact get_of_firstAttached h

theorem changes_findRoute (hopens : isRelayBatchDataFrame frame = true → w.opens frame.messageId) :
    Changes w e (e.findRoute frame view order now).2 := by
  unfold findRoute
  split
  · split_ifs <;> exact .refl
  · next hnone =>
    obtain ⟨hremovals, hslot⟩ := @removals_ensureRouteSlotLocked e order now
    dsimp only
    split_ifs with hack hdata hseq hfull
    · exact .refl
    · exact .refl
    · exact hremovals.changes
    · split
      · exact hremovals.changes
      · next kind adapter hchosen =>
        exact hremovals.changes.tail (.openRoute (hremovals.steady.routes _ hnone)
          (hslot (by simpa using hfull)) (get_of_chooseAdapterLocked hchosen) (hopens hdata))
    · exact .refl

/-- `handleFrameRun` is a sequence of changes up to its write. -/
theorem changes_handleFrameRunLocked
    (hopens : isRelayBatchDataFrame first = true → w.opens first.messageId)
    (hcaches : ∀ f ∈ first :: rest, w.caches first.messageId f) :
    Changes w e (e.handleFrameRunLocked first rest view order now).2 := by
  unfold handleFrameRunLocked
  split
  · exact .refl
  · split_ifs
    · exact .refl
    have hfound : Changes w e (e.findRoute first view order now).2 := changes_findRoute hopens
    dsimp only
    split
    · exact hfound
    · exact hfound
    · exact hfound.trans (changes_submitFrames hcaches)

/-- The ticket of a run is the route of its message. -/
theorem handleFrameRunLocked_ticket
    (h : (e.handleFrameRunLocked first rest view order now).1 = .ok (some t)) :
    ∃ route, (e.handleFrameRunLocked first rest view order now).2.routes.get first.messageId =
      some route ∧ t = route.ticket first.messageId := by
  unfold handleFrameRunLocked at h ⊢
  split at h
  · cases h
  · split_ifs at h ⊢
    dsimp only at h ⊢
    split at h
    · cases h
    · cases h
    · obtain ⟨route, hget, heq⟩ := map_eq_some_iff.mp (Except.ok.inj h)
      exact ⟨route, hget, heq.symm⟩

theorem changes_handleCloseLocked : Changes w e (e.handleCloseLocked frame view).2 := by
  unfold handleCloseLocked
  split_ifs
  · exact .refl
  · exact .refl
  · split
    · exact .refl
    · exact .single .takeFrameId

/-! ## Loops that move routes -/

/-- A job was the route of its message at some point between two states. -/
def Born (w : Warrant) (e e' : DualFrameRelayEndpoint) (job : ReplayJob) : Prop :=
  ∃ between l, Changes w e between ∧ Changes w between e' ∧ job ∈ between.replayJob l

theorem Born.trans {job : ReplayJob} (hfirst : Changes w e₀ e) (h : Born w e e' job)
    (hlast : Changes w e' e₁) : Born w e₀ e₁ job := by
  obtain ⟨between, l, hbefore, hbehind, hmem⟩ := h
  exact ⟨between, l, hfirst.trans hbefore, hbehind.trans hlast, hmem⟩

/-- What a loop over the routes keeps. -/
structure Loop (w : Warrant) (stale : List TcpFrameAdapter) (e : DualFrameRelayEndpoint)
    (done : DualFrameRelayEndpoint × List ReplayJob) : Prop where
  changes : Changes w e done.1
  placed : Placed stale done.1
  adapters : done.1.adapters = e.adapters
  adapterCount : done.1.adapterCount = e.adapterCount
  born : ∀ job ∈ done.2, Born w e done.1 job

section Loops

variable {stale : List TcpFrameAdapter} {done : DualFrameRelayEndpoint × List ReplayJob}
  {f : DualFrameRelayEndpoint × List ReplayJob → ℕ → DualFrameRelayEndpoint × List ReplayJob}
  {replacement previous : TcpFrameAdapter} {views : ℕ → LegView} {low : List LegID}
  {rate : ℤ → ℤ → ℤ} {legs : GoMap.Order LegID}

theorem Loop.start (hplaced : Placed stale e) : Loop w stale e (e, []) :=
  ⟨.refl, hplaced, rfl, rfl, nofun⟩

/-- The loop goes on with changes that leave the adapters alone. -/
theorem Loop.step (h : Loop w stale e done) (hchanges : Changes w done.1 e')
    (hadapters : e'.adapters = done.1.adapters)
    (hcount : e'.adapterCount = done.1.adapterCount) : Loop w stale e (e', done.2) where
  changes := h.changes.trans hchanges
  placed := h.placed.changes hchanges
  adapters := hadapters.trans h.adapters
  adapterCount := hcount.trans h.adapterCount
  born job hjob := (h.born job hjob).trans .refl hchanges

theorem Loop.observe (h : Loop w stale e done) (q : LegQuality) :
    Loop w stale e ({ done.1 with quality := q }, done.2) :=
  h.step (.single .observe) rfl rfl

/-- The loop puts the route of a message on its list. -/
theorem Loop.add (h : Loop w stale e done) (l : ℕ) :
    Loop w stale e (done.1, done.2 ++ done.1.replayJob l) :=
  { h with
    born := forall_mem_append.mpr
      ⟨h.born, fun _ hnew => ⟨done.1, l, h.changes, .refl, hnew⟩⟩ }

/-- What a round of a loop does with the route of one message. -/
structure Round (w : Warrant) (stale : List TcpFrameAdapter) (e : DualFrameRelayEndpoint)
    (P : DualFrameRoute → Prop) (done : DualFrameRelayEndpoint × List ReplayJob) (l : ℕ)
    (done' : DualFrameRelayEndpoint × List ReplayJob) : Prop where
  loop : Loop w stale e done'
  others : ∀ l', l' ≠ l → done'.1.routes.get l' = done.1.routes.get l'
  treated : ∀ route, done'.1.routes.get l = some route → P route

/-- A loop that treats one route in a round treats all of them. -/
theorem Loop.foldl {P : DualFrameRoute → Prop}
    (hround : ∀ done l, Loop w stale e done → Round w stale e P done l (f done l))
    (ids : List ℕ) (h : Loop w stale e done) :
    Loop w stale e (ids.foldl f done) ∧
      (∀ l, l ∉ ids → (ids.foldl f done).1.routes.get l = done.1.routes.get l) ∧
      ∀ l ∈ ids, ∀ route, (ids.foldl f done).1.routes.get l = some route → P route := by
  induction ids generalizing done with
  | nil => exact ⟨h, fun _ _ => rfl, nofun⟩
  | cons id ids ih =>
    obtain ⟨hloop, hother, hdone⟩ := hround done id h
    obtain ⟨hrest, hkept, htreated⟩ := ih hloop
    refine ⟨hrest, fun l hl => ?_, fun l hl route hget => ?_⟩
    · rw [mem_cons, not_or] at hl
      exact (hkept l hl.2).trans (hother l hl.1)
    · by_cases hmem : l ∈ ids
      · exact htreated l hmem route hget
      · obtain rfl | hmem' := mem_cons.mp hl
        · rw [foldl_cons, hkept l hmem] at hget
          exact hdone route hget
        · exact absurd hmem' hmem

/-- A loop over all routes treats every route that is there afterwards. -/
theorem Loop.visit {P : DualFrameRoute → Prop}
    (hround : ∀ done l, Loop w stale e done → Round w stale e P done l (f done l))
    (order : GoMap.Order ℕ) (hplaced : Placed stale e) :
    Loop w stale e ((order.visit e.routes.keys).foldl f (e, [])) ∧
      ∀ l route, ((order.visit e.routes.keys).foldl f (e, [])).1.routes.get l = some route →
        P route := by
  obtain ⟨hloop, hkept, htreated⟩ :=
    Loop.foldl hround (order.visit e.routes.keys) (.start hplaced)
  refine ⟨hloop, fun l route hget => ?_⟩
  by_cases hmem : l ∈ order.visit e.routes.keys
  · exact htreated l hmem route hget
  · rw [hkept l hmem] at hget
    rw [order.mem_visit, e.routes.mem_keys, hget] at hmem
    exact absurd rfl hmem

/-! ### A route forgets an adapter -/

theorem get_dropAdapterAckKeysLocked (hne : l' ≠ l) :
    (e.dropAdapterAckKeysLocked l route adapter).routes.get l' = e.routes.get l' :=
  get_set_ne hne

theorem get_dropAdapterAckKeysLocked_self :
    (e.dropAdapterAckKeysLocked l route adapter).routes.get l =
      some { route with ackKeys := route.ackKeys.filter fun key => key.adapter ≠ adapter } :=
  get_set_self

theorem get_removeRouteLocked_self : (e.removeRouteLocked l).routes.get l = none := by
  rw [Sound.get_routes_removeRouteLocked, if_pos rfl]

theorem removeRouteLocked_adapterCount : (e.removeRouteLocked l).adapterCount = e.adapterCount := by
  obtain ⟨_, _, _, _, _, heq⟩ := Sound.removeRouteLocked_eq e l
  rw [heq]

theorem adapter_ne_of_mem_filter {key : FrameEndpointKey}
    (h : key ∈ route.ackKeys.filter fun key => key.adapter ≠ adapter) : key.adapter ≠ adapter := by
  simpa using (Finset.mem_filter.mp h).2

/-- A route that is done with an adapter. -/
def Left (adapter : TcpFrameAdapter) (route : DualFrameRoute) : Prop :=
  Clear adapter route ∧ route.endpoint ≠ adapter

section Rounds

variable {P : DualFrameRoute → Prop}

theorem Round.absent (h : Loop w stale e done) (hget : done.1.routes.get l = none) :
    Round w stale e P done l done :=
  ⟨h, fun _ _ => rfl, fun route hroute => by rw [hget] at hroute; cases hroute⟩

theorem Round.removed
    (hdrop : Loop w stale e (done.1.dropAdapterAckKeysLocked l route adapter, done.2)) :
    Round w stale e P done l
      ((done.1.dropAdapterAckKeysLocked l route adapter).removeRouteLocked l, done.2) := by
  refine ⟨hdrop.step (.single (.remove get_dropAdapterAckKeysLocked_self))
    steady_removeRouteLocked.adapters removeRouteLocked_adapterCount, fun l' hl' => ?_,
    fun r hr => ?_⟩
  · rw [Sound.get_routes_removeRouteLocked, if_neg hl', get_dropAdapterAckKeysLocked hl']
  · rw [get_removeRouteLocked_self] at hr
    cases hr

theorem Round.kept
    (hdrop : Loop w stale e (done.1.dropAdapterAckKeysLocked l route adapter, done.2))
    (hroute : P { route with ackKeys := route.ackKeys.filter fun key => key.adapter ≠ adapter }) :
    Round w stale e P done l (done.1.dropAdapterAckKeysLocked l route adapter, done.2) := by
  refine ⟨hdrop, fun l' hl' => get_dropAdapterAckKeysLocked hl', fun r hr => ?_⟩
  obtain rfl := mem_unique get_dropAdapterAckKeysLocked_self hr
  exact hroute

theorem Round.moved {jobs : List ReplayJob} {next : TcpFrameAdapter}
    (hmove : Loop w stale e ((done.1.dropAdapterAckKeysLocked l route adapter).moveRoute l
      { route with ackKeys := route.ackKeys.filter fun key => key.adapter ≠ adapter } kind next now,
      jobs))
    (hne : next ≠ adapter) (hsource : ∀ key, route.sourceKey = some key → key.adapter ≠ adapter)
    (hleft : ∀ r, Left adapter r → P r) :
    Round w stale e P done l ((done.1.dropAdapterAckKeysLocked l route adapter).moveRoute l
      { route with ackKeys := route.ackKeys.filter fun key => key.adapter ≠ adapter } kind next now,
      jobs) := by
  refine ⟨hmove, fun l' hl' => (get_set_ne hl').trans (get_dropAdapterAckKeysLocked hl'),
    fun r hr => hleft r ?_⟩
  obtain rfl := mem_unique get_set_self hr
  refine ⟨⟨?_, hsource⟩, hne⟩
  exact (Finset.forall_mem_insert ..).mpr ⟨hne, fun _ => adapter_ne_of_mem_filter⟩

end Rounds

section

variable (hreplacement : e.adapters.get kind = some replacement)
  (hgone : e.adapters.get previous.kind ≠ some previous) (hne : replacement ≠ previous)
include hreplacement hgone hne

theorem Round.replaceRoute
    (done : DualFrameRelayEndpoint × List ReplayJob) (l : ℕ) (h : Loop .strict stale e done) :
    Round .strict stale e (Left previous) done l
      (replaceRoute kind previous replacement now done l) := by
  unfold DualFrameRelayEndpoint.replaceRoute
  cases hget : done.1.routes.get l with
  | none => exact .absent h hget
  | some route =>
    have hdrop := h.step (.single (.drop hget (by rwa [h.adapters]))) rfl rfl
    have hself := @get_dropAdapterAckKeysLocked_self done.1 l route previous
    dsimp only
    split
    · exact .removed hdrop
    next hremove =>
    have hsource : ∀ key, route.sourceKey = some key → key.adapter ≠ previous :=
      fun key hkey heq => hremove (.inl ⟨key, hkey, heq⟩)
    split
    · next hstays =>
      exact .kept hdrop ⟨⟨fun _ => adapter_ne_of_mem_filter, hsource⟩, hstays⟩
    · -- the route leads to the adapter that is replaced, and its message came from another one
      next hstays =>
      have hendpoint : route.endpoint = previous := not_not.mp hstays
      have hmove := hdrop.step (.single (@Change.move .strict _ l _ kind replacement
        now hself (by rw [hdrop.adapters]; exact hreplacement)
        (fun key hkey hattached => hsource key hkey
          ((hdrop.placed.source l _ key hself hkey hattached).symm.trans hendpoint))
        (fun key hkey heq => hsource key hkey (heq.trans hendpoint)))) rfl rfl
      refine .moved ?_ hne hsource fun _ hleft => hleft
      split
      · exact hmove
      · exact hmove.add l

/-- `replaceAdapterLocked` leaves no trace of the adapter that it replaces. -/
theorem Loop.replaceAdapterLocked (hplaced : Placed (previous :: stale) e) :
    Loop .strict stale e (e.replaceAdapterLocked kind previous replacement order now) := by
  unfold DualFrameRelayEndpoint.replaceAdapterLocked
  rw [if_neg hne.symm]
  obtain ⟨hloop, hleft⟩ := Loop.visit
    (Round.replaceRoute hreplacement hgone hne) order hplaced
  have hclean := hloop.step (.single (.clean fun l route hget =>
    (hleft l route hget).1)) rfl rfl
  exact { hclean with placed := hclean.placed.of_cons fun l route hget => (hleft l route hget).2 }

end

/-! ### A new adapter -/

theorem Sound.enterAdapter (h : Sound e) (kind : LegID) (stream : ℕ) :
    Sound (e.enterAdapter kind stream) :=
  h.of_same_tables le_rfl

theorem Registered.enterAdapter (h : Registered e) (kind : LegID) (stream : ℕ) :
    Registered (e.enterAdapter kind stream) where
  adapter_known kind' adapter hget := by
    replace hget : (e.adapters.set kind (e.nextAdapter kind stream)).get kind' = some adapter :=
      hget
    rcases get_set_eq_some.mp hget with ⟨rfl, rfl⟩ | ⟨-, hold⟩
    · exact ⟨rfl, Nat.lt_succ_self _⟩
    · obtain ⟨hkind, hserial⟩ := h.adapter_known kind' adapter hold
      exact ⟨hkind, hserial.trans (Nat.lt_succ_self _)⟩
  endpoint_known l route hget :=
    ⟨(h.endpoint_known l route hget).1,
      (h.endpoint_known l route hget).2.trans (Nat.lt_succ_self _)⟩
  source_known l route key hget hkey :=
    ⟨(h.source_known l route key hget hkey).1,
      (h.source_known l route key hget hkey).2.trans (Nat.lt_succ_self _)⟩

/-- The adapters that a new one replaces were made before it, for the same leg. -/
theorem previousAdapters_known (h : Registered e) (hmem : previous ∈ e.previousAdapters kind order) :
    previous.kind = kind ∧ previous.serial < e.adapterCount := by
  unfold previousAdapters at hmem
  split at hmem
  · next current hget =>
    obtain rfl := mem_singleton.mp hmem
    exact h.adapter_known kind previous hget
  · rw [mem_eraseDups, mem_filterMap] at hmem
    obtain ⟨l, -, hmem⟩ := hmem
    obtain ⟨route, hget, hroute⟩ := bind_eq_some_iff.mp hmem
    split_ifs at hroute with hkind
    obtain rfl := some.inj hroute
    rw [← hkind]
    exact h.endpoint_known l route hget

/-- The new adapter is in the table, and the routes that are not placed lead to adapters that it
replaces. -/
theorem Placed.enterAdapter (h : Placed [] e) (stream : ℕ) :
    Placed (e.previousAdapters kind order) (e.enterAdapter kind stream) := by
  have hget : ∀ k, (e.enterAdapter kind stream).adapters.get k =
      if k = kind then some (e.nextAdapter kind stream) else e.adapters.get k :=
    fun k => get_set
  refine ⟨h.toRegistered.enterAdapter kind stream, ?_, ?_⟩
  · intro l route hroute
    replace hroute : e.routes.get l = some route := hroute
    have hplaced := h.endpoint l route hroute
    rw [hget]
    by_cases hkind : route.kind = kind
    · refine .inl ?_
      unfold previousAdapters
      split
      · next current hcurrent =>
        rw [hkind, hcurrent] at hplaced
        rcases hplaced with hmem | heq | hnone
        · cases hmem
        · exact mem_singleton.mpr (some.inj heq).symm
        · cases hnone
      · rw [mem_eraseDups, mem_filterMap]
        refine ⟨l, ?_, ?_⟩
        · rw [order.mem_visit, e.routes.mem_keys, hroute]
          rfl
        · rw [hroute, bind_some, if_pos hkind]
    · rw [if_neg hkind]
      exact .inr (hplaced.resolve_left not_mem_nil)
  · intro l route key hroute hkey hattached
    rw [hget] at hattached
    split_ifs at hattached with hkind
    · have hserial := (h.source_known l route key hroute hkey).2
      rw [← some.inj hattached] at hserial
      exact absurd hserial (Nat.lt_irrefl _)
    · exact h.source l route key hroute hkey hattached

theorem Loop.trans {stale' : List TcpFrameAdapter}
    {done' : DualFrameRelayEndpoint × List ReplayJob} (h : Loop w stale e done)
    (h' : Loop w stale' done.1 done') : Loop w stale' e (done'.1, done.2 ++ done'.2) where
  changes := h.changes.trans h'.changes
  placed := h'.placed
  adapters := h'.adapters.trans h.adapters
  adapterCount := h'.adapterCount.trans h.adapterCount
  born := forall_mem_append.mpr ⟨fun job hold => (h.born job hold).trans .refl h'.changes,
    fun job hnew => (h'.born job hnew).trans h.changes .refl⟩

/-- A new adapter takes over the routes of the adapters before it, one adapter after another. -/
theorem Loop.replaceAll
    (hreplacement : e.adapters.get kind = some replacement) (previous : List TcpFrameAdapter)
    (hprevious : ∀ p ∈ previous, p.kind = kind ∧ p ≠ replacement)
    (done : DualFrameRelayEndpoint × List ReplayJob) (h : Loop .strict previous e done) :
    Loop .strict [] e (previous.foldl (fun done previous =>
      let replaced := done.1.replaceAdapterLocked kind previous replacement order now
      (replaced.1, done.2 ++ replaced.2)) done) := by
  induction previous generalizing done with
  | nil => exact h
  | cons p previous ih =>
    obtain ⟨hkind, hne⟩ := hprevious p mem_cons_self
    refine ih (fun q hq => hprevious q (mem_cons_of_mem _ hq)) _ (h.trans ?_)
    refine Loop.replaceAdapterLocked ?_ ?_ hne.symm h.placed
    · rw [h.adapters]
      exact hreplacement
    · rw [h.adapters, hkind, hreplacement]
      exact fun heq => hne (some.inj heq).symm

/-- `AttachStream` enters the new adapter and moves the routes of its leg there. -/
theorem Loop.installLocked (hplaced : Placed [] e) (kind : LegID) (stream : ℕ) :
    Loop .strict [] (e.enterAdapter kind stream) (e.installLocked kind stream order now) := by
  refine Loop.replaceAll get_set_self _ (fun p hp => ?_) _ (.start (hplaced.enterAdapter stream))
  obtain ⟨hkind, hserial⟩ := previousAdapters_known hplaced.toRegistered hp
  refine ⟨hkind, fun heq => ?_⟩
  rw [heq] at hserial
  exact Nat.lt_irrefl _ hserial

/-! ### A leg that is gone -/

theorem Round.detachRoute {failed : TcpFrameAdapter}
    (hgone : e.adapters.get failed.kind ≠ some failed) (hhome : Home (· = failed) e)
    (done : DualFrameRelayEndpoint × List ReplayJob) (l : ℕ) (h : Loop .strict stale e done) :
    Round .strict stale e (Clear failed) done l (detachRoute failed.kind failed views done l) := by
  unfold DualFrameRelayEndpoint.detachRoute
  cases hget : done.1.routes.get l with
  | none => exact .absent h hget
  | some route =>
    have hdrop := h.step (.single (.drop hget (by rwa [h.adapters]))) rfl rfl
    have hself := @get_dropAdapterAckKeysLocked_self done.1 l route failed
    dsimp only
    split
    · next hstays =>
      refine .kept hdrop ⟨fun _ => adapter_ne_of_mem_filter, fun key hkey heq => ?_⟩
      -- a message that came from the failed adapter has its route there
      have hendpoint : route.endpoint = failed :=
        (hhome.changes (fun _ hmoves => hmoves) h.changes l route key hget hkey heq).trans heq
      have hkind := (h.placed.endpoint_known l route hget).1
      rw [hendpoint] at hkind
      exact hstays.elim (fun hne => hne hkind.symm) fun hne => hne hendpoint
    split
    · exact .removed hdrop
    next houtgoing =>
    have hsource : ∀ key, route.sourceKey ≠ some key := by
      intro key hkey
      exact houtgoing (.inl (by rw [hkey]; rfl))
    split
    · exact .kept hdrop ⟨fun _ => adapter_ne_of_mem_filter, fun key hkey => absurd hkey (hsource key)⟩
    · next kind adapter hchosen =>
      have hattached := get_of_chooseAdapterLocked hchosen
      have hne : adapter ≠ failed := by
        rintro rfl
        have hkind := (hdrop.placed.adapter_known kind adapter hattached).1
        rw [hdrop.adapters, ← hkind] at hattached
        exact hgone hattached
      have hmove := hdrop.step (.single (@Change.move .strict _ l _ kind adapter
        (views l).now hself hattached (fun key hkey => absurd hkey (hsource key))
        fun key hkey => absurd hkey (hsource key))) rfl rfl
      exact .moved (hmove.add l) hne (fun key hkey => absurd hkey (hsource key)) fun _ => And.left

/-- What the endpoint is like behind a loop, and that the jobs of the loop come from it. -/
structure LoopDone (w : Warrant) (e : DualFrameRelayEndpoint)
    (done : DualFrameRelayEndpoint × List ReplayJob) : Prop where
  changes : Changes w e done.1
  placed : Placed [] done.1
  born : ∀ job ∈ done.2, Born w e done.1 job

theorem Loop.finished (h : Loop w [] e done) : LoopDone w e done :=
  ⟨h.changes, h.placed, h.born⟩

/-- A function of which a loop is the last part. -/
theorem LoopDone.head (hchange : Changes w e e') (h : LoopDone w e' done) : LoopDone w e done :=
  { h with
    changes := hchange.trans h.changes
    born := fun job hjob => (h.born job hjob).trans hchange .refl }

/-- A function of which a loop is the first part. -/
theorem LoopDone.tail (h : LoopDone w e done) (hchanges : Changes w done.1 e') :
    LoopDone w e (e', done.2) where
  changes := h.changes.trans hchanges
  placed := h.placed.changes hchanges
  born job hjob := (h.born job hjob).trans .refl hchanges

theorem loopDone_onLegDetachedLocked {id : LegID} {stream : ℕ} (hplaced : Placed [] e) :
    LoopDone .strict e (e.onLegDetachedLocked id stream views order) := by
  have hsame : LoopDone .strict e (e, []) := ⟨.refl, hplaced, nofun⟩
  unfold onLegDetachedLocked
  split_ifs
  · exact hsame
  split
  · exact hsame
  · next failed hget =>
    split_ifs
    · exact hsame
    obtain ⟨rfl, -⟩ := hplaced.adapter_known id failed hget
    have hdetach : Change .strict e { e with adapters := e.adapters.delete failed.kind } := .detach
    have hgone : (e.adapters.delete failed.kind).get failed.kind ≠ some failed := by
      rw [get_delete_self]
      exact nofun
    have hhome : Home (· = failed) { e with adapters := e.adapters.delete failed.kind } := by
      rintro l route key hroute hkey heq
      refine hplaced.source l route key hroute hkey ?_
      rw [← (hplaced.source_known l route key hroute hkey).1, heq]
      exact hget
    obtain ⟨hloop, hclear⟩ := Loop.visit
      (@Round.detachRoute { e with adapters := e.adapters.delete failed.kind } [] views failed hgone
        hhome) order (hplaced.change hdetach)
    exact .head (.single hdetach)
      (hloop.step (.single (.clean hclear)) rfl rfl).finished

/-- The jobs that `replayRoute` goes on with. -/
def ReplayOutcome.jobs : ReplayOutcome → List ReplayJob
  | .failed _ => []
  | .settled => []
  | .moved jobs => jobs

theorem get_of_replayTarget
    (h : e.replayTarget t view = some (kind, adapter)) : e.adapters.get kind = some adapter := by
  unfold replayTarget at h
  split at h
  · next current hcurrent =>
    split_ifs at h
    · obtain ⟨rfl, rfl⟩ := Prod.mk.inj (some.inj h)
      exact hcurrent
    · exact get_of_chooseAdapterLocked h
  · exact get_of_chooseAdapterLocked h

/-- `replayRoute` under the lock. The failed adapter is gone when the route moves, so the message
did not come from an adapter that is still there. -/
theorem loopDone_replayRouteLocked (hplaced : Placed [] e) (hkind : t.endpoint.kind = t.kind)
    (hmoves : ∀ route, e.routes.get t.logicalID = some route →
      (e.replayRouteLocked t view).1.jobs ≠ [] → w.moves route) :
    LoopDone w e ((e.replayRouteLocked t view).2, (e.replayRouteLocked t view).1.jobs) := by
  have hforget : Changes w e (e.forgetAdapter t.kind t.endpoint) ∧
      (e.forgetAdapter t.kind t.endpoint).adapters.get t.kind ≠ some t.endpoint := by
    unfold forgetAdapter
    split_ifs with hcurrent
    · refine ⟨.single .detach, ?_⟩
      show (e.adapters.delete t.kind).get t.kind ≠ _
      rw [get_delete_self]
      exact nofun
    · exact ⟨.refl, hcurrent⟩
  obtain ⟨hchanges, hgone⟩ := hforget
  have hroutes : (e.forgetAdapter t.kind t.endpoint).routes = e.routes := by
    unfold forgetAdapter
    split_ifs <;> rfl
  have hplaced' := hplaced.changes hchanges
  have hsame : LoopDone w e (e.forgetAdapter t.kind t.endpoint, []) :=
    ⟨hchanges, hplaced', nofun⟩
  unfold replayRouteLocked at hmoves ⊢
  dsimp only at hmoves ⊢
  split
  · exact hsame
  · next route hget =>
    split_ifs with hstale hoff hcompleted
    -- a route that has moved on or is done is left alone
    iterate 3 exact hsame
    have hendpoint : route.endpoint = t.endpoint := by
      by_contra hne
      exact hstale (.inr hne)
    split
    · exact hsame
    · next kind adapter htarget =>
      have hattached := get_of_replayTarget htarget
      have hmove : Change w (e.forgetAdapter t.kind t.endpoint)
          ((e.forgetAdapter t.kind t.endpoint).moveRoute t.logicalID route kind adapter
            view.now) := by
        refine .move hget hattached (fun key hkey hkeyAttached => ?_) ?_
        · -- the source would be on the adapter that was forgotten
          have hkeyEndpoint := hplaced'.source _ route key hget hkey hkeyAttached
          rw [← (hplaced'.source_known _ route key hget hkey).1, ← hkeyEndpoint, hendpoint,
            hkind] at hkeyAttached
          exact hgone hkeyAttached
        · rw [hget] at hmoves
          simp only [if_neg hstale, if_neg hoff, if_neg hcompleted, htarget] at hmoves
          refine hmoves route (hroutes ▸ hget) ?_
          simp only [ReplayOutcome.jobs, replayJob]
          rw [show ((e.forgetAdapter t.kind t.endpoint).moveRoute t.logicalID route kind adapter
            view.now).routes.get t.logicalID = some _ from get_set_self]
          simp
      have hdone := hchanges.tail hmove
      exact ⟨hdone, hplaced.changes hdone, fun job hjob => ⟨_, t.logicalID, hdone, .refl, hjob⟩⟩

/-! ### Maintenance -/

/-- All routes are removed one after another. -/
theorem removals_foldl (ids : List ℕ) (e : DualFrameRelayEndpoint) :
    Removals e (ids.foldl removeRouteLocked e) ∧ ∀ l, e.routes.get l = none ∨ l ∈ ids →
        (ids.foldl removeRouteLocked e).routes.get l = none := by
  induction ids generalizing e with
  | nil =>
    refine ⟨.refl, fun l hl => ?_⟩
    exact hl.resolve_right not_mem_nil
  | cons id ids ih =>
    obtain ⟨hremovals, hnone⟩ := ih (e.removeRouteLocked id)
    refine ⟨removals_removeRouteLocked.trans hremovals, fun l hl => hnone l ?_⟩
    rcases hl with hl | hl
    · exact .inl (steady_removeRouteLocked.routes l hl)
    · rcases mem_cons.mp hl with rfl | hl
      · exact .inl get_removeRouteLocked_self
      · exact .inr hl

theorem changes_close : Changes w e (e.close order) := by
  obtain ⟨hremovals, hnone⟩ := removals_foldl (order.visit e.routes.keys)
    { e with closed := true, adapters := .empty }
  refine .head .shut (hremovals.changes.tail (.clear fun l => hnone l ?_))
  show e.routes.get l = none ∨ _
  rw [order.mem_visit, e.routes.mem_keys]
  cases e.routes.get l with
  | none => exact .inl rfl
  | some route => exact .inr rfl

/-- Only an outgoing message is slow. -/
theorem sourceKey_of_isSlow
    (h : isSlow route low fraction now = true) : route.sourceKey = none := by
  unfold isSlow at h
  split_ifs at h with hnot
  all_goals
    cases hsource : route.sourceKey with
    | none => rfl
    | some key => exact absurd (.inl (by rw [hsource]; rfl)) hnot

theorem Loop.prepareLoop {tcpKind : LegID}
    {tcpAdapter : TcpFrameAdapter} (hattached : e.adapters.get tcpKind = some tcpAdapter)
    (ids : List ℕ) (done : DualFrameRelayEndpoint × List ReplayJob)
    (h : Loop .strict stale e done) :
    Loop .strict stale e (prepareLoop low fraction tcpKind tcpAdapter now ids done).1 := by
  induction ids generalizing done with
  | nil => exact h
  | cons id ids ih =>
    unfold DualFrameRelayEndpoint.prepareLoop
    split
    · exact ih done h
    · next route hget =>
      split_ifs with hslow hempty
      · exact ih done h
      · exact { h with born := fun _ hjob => nomatch hjob }
      · have hsource : ∀ key, route.sourceKey ≠ some key := by
          intro key hkey
          rw [sourceKey_of_isSlow (by simpa using hslow)] at hkey
          cases hkey
        have hmove := h.step (.single (@Change.move .strict _ id route tcpKind tcpAdapter now
          hget (by rw [h.adapters]; exact hattached) (fun key hkey => absurd hkey (hsource key))
          fun key hkey => absurd hkey (hsource key))) rfl rfl
        exact ih _ ((hmove.observe _).add id)

theorem loopDone_prepareQualityReplayLocked (hplaced : Placed [] e) :
    LoopDone .strict e (e.prepareQualityReplayLocked rate fraction legs order view now).1 := by
  have hsame : LoopDone .strict e (e, []) := ⟨.refl, hplaced, nofun⟩
  unfold prepareQualityReplayLocked
  split_ifs
  · exact hsame
  split
  · exact hsame
  · next tcpKind tcpAdapter hfirst =>
    have hobserve : Changes .strict e
        { e with quality := (e.quality.observeKCPGoodputWindowsLocked rate legs now).1 } :=
      .single .observe
    have hloop := @Loop.prepareLoop
      { e with quality := (e.quality.observeKCPGoodputWindowsLocked rate legs now).1 } now fraction
      [] (e.quality.observeKCPGoodputWindowsLocked rate legs now).2 tcpKind tcpAdapter
      (get_of_firstAttached hfirst) (order.visit e.routes.keys) _
      (.start (hplaced.changes hobserve))
    dsimp only
    split_ifs
    · exact .head hobserve (hloop.observe _).finished
    · exact .head hobserve hloop.finished

theorem loopDone_maintainRoutesLocked (hplaced : Placed [] e) :
    LoopDone .strict e (e.maintainRoutesLocked rate fraction legs order view now) := by
  have hprepared := @loopDone_prepareQualityReplayLocked e order now view fraction rate legs hplaced
  unfold maintainRoutesLocked
  dsimp only
  split_ifs
  · exact { hprepared.tail changes_close with born := nofun }
  · exact hprepared.tail removals_sweepExpiredLocked.changes

end Loops

end NatP2P.Network.DualFrameRelayEndpoint
