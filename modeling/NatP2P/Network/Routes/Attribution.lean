import NatP2P.Network.Routes.Pumps

/-!
# Whose acknowledgement

A route joins a leg and an id on it with another leg and another id. Read the other way round, it
takes an acknowledgement back to the message that was forwarded with it (`Carries.symm`). The rest
is that the route which is found for an ACK is the one its message took.

`pumpRelayToClients` makes a route for every frame that has none, also for an ACK. An ACK whose
route is gone is therefore written to the client under an id that the relay has just allocated, and
that may be the id of another message of the client.
-/

namespace NatP2P.Network.RelayLegs

open List FrameRouteRegistry

variable {s s' : RelayLegs} {leg dst src : Leg} {f : Incoming} {ρ : Route Leg} {pump : Pump}
  {clients : List Bytes} {a i id : ℕ} {log' log : List Written} {entry : FrameRouteEntry Leg}
  {found boundary : Bool} {b : Binding Leg} {stage : PumpStage} {now : ℤ} {m : PumpMoment}

/-! ## Routes in both directions -/

/-- The frame is an ACK. -/
def IsAck (f : Frame) : Prop := f.frameType = frameTypeAck

/-- A route takes id `a` of leg `src` to id `b` of leg `dst`. -/
def Carries (ρ : Route Leg) (src : Leg) (a : ℕ) (dst : Leg) (b : ℕ) : Prop :=
  match src with
  | .relay => a = ρ.relayID ∧ dst = ρ.relayEntry.dest ∧ b = ρ.relayEntry.dstID
  | .client n => ρ.relayEntry.dest = .client n ∧ a = ρ.clientKey.messageID ∧
      dst = ρ.clientEntry.dest ∧ b = ρ.clientEntry.dstID

/-- A route joins the relay with a client leg, under the connection id of that leg. -/
def Shaped (clients : List Bytes) (ρ : Route Leg) : Prop :=
  ∃ n < clients.length, ρ.relayEntry.dest = .client n ∧
    ρ.clientKey.connectionID = clients.getD n [] ∧ ρ.relayEntry.dstID = ρ.clientKey.messageID ∧
    ρ.clientEntry.dest = .relay ∧ ρ.clientEntry.dstID = ρ.relayID

theorem Carries.symm (hshaped : Shaped clients ρ) {b : ℕ}
    (h : Carries ρ src a dst b) : Carries ρ dst b src a := by
  obtain ⟨n, -, hdest, -, hdstID, hrelay, hback⟩ := hshaped
  cases src with
  | relay =>
    obtain ⟨rfl, rfl, rfl⟩ := h
    rw [hdest]
    exact ⟨hdest, hdstID, hrelay.symm, hback.symm⟩
  | client k =>
    obtain ⟨hclient, rfl, rfl, rfl⟩ := h
    rw [hrelay]
    exact ⟨hback, hclient.symm, hdstID.symm⟩

theorem Carries.unique {dst' : Leg} {b b' : ℕ} (h : Carries ρ src a dst b)
    (h' : Carries ρ src a dst' b') : dst = dst' ∧ b = b' := by
  cases src with
  | relay => exact ⟨h.2.1.trans h'.2.1.symm, h.2.2.trans h'.2.2.symm⟩
  | client k => exact ⟨h.2.2.1.trans h'.2.2.1.symm, h.2.2.2.trans h'.2.2.2.symm⟩

theorem Shaped.append (h : Shaped clients ρ) (more : List Bytes) : Shaped (clients ++ more) ρ := by
  obtain ⟨n, hn, hdest, hconnection, hrest⟩ := h
  refine ⟨n, by rw [length_append]; omega, hdest, ?_, hrest⟩
  rw [hconnection, getD_append _ _ _ _ hn]

/-! ## What the loops keep -/

/-- An ACK acknowledges a data frame that was written to its leg under its id. -/
def Honest (log : List Written) (leg : Leg) (f : Incoming) : Prop :=
  IsAck f.frame → ∃ j d, f.of = some j ∧ log[j]? = some d ∧ isRelayBatchDataFrame d.frame ∧
    d.dst = leg ∧ d.frame.messageId = f.frame.messageId

/-- The frame that an ACK of a leg acknowledges came from leg `dst`, where it had id `id`. -/
def Acknowledges (log : List Written) (leg : Leg) (f : Incoming) (dst : Leg) (id : ℕ) : Prop :=
  ∃ j d, f.of = some j ∧ log[j]? = some d ∧ isRelayBatchDataFrame d.frame ∧ d.dst = leg ∧
    d.frame.messageId = f.frame.messageId ∧ d.src = dst ∧ d.source.frame.messageId = id

/-- A frame with its route: data goes where the route takes it, and an ACK goes back to the message
that it acknowledges. -/
structure ItemOk (log : List Written) (routes : List (Route Leg)) (leg : Leg) (f : Incoming)
    (entry : FrameRouteEntry Leg) (found : Bool) : Prop where
  data : isRelayBatchDataFrame f.frame → ∃ ρ, routes[entry.pair]? = some ρ ∧
    Carries ρ leg f.frame.messageId entry.dest entry.dstID
  ack : IsAck f.frame → found = true ∧ Acknowledges log leg f entry.dest entry.dstID

/-- The arguments of `bindPair` for a frame. -/
structure BindingOk (clients : List Bytes) (leg : Leg) (f : Incoming) (b : Binding Leg) : Prop where
  noAck : ¬ IsAck f.frame
  shaped : ∀ i, Shaped clients (b.pair i).route
  relay : leg = .relay → b.relayID = f.frame.messageId
  client : ∀ n, leg = .client n → b.clientKey.messageID = f.frame.messageId
  dest : ∀ n, leg = .client n → b.relayDest = .client n

/-- What is known of the frame that a loop has in hand. -/
def StageOk (s : RelayLegs) (leg : Leg) : PumpStage → Prop
  | .closing f => f.frame.frameType = frameTypeConnectionClose
  | .closed f _ => f.frame.frameType = frameTypeConnectionClose
  | .hook f _ => Honest s.log leg f
  | .looking f _ => Honest s.log leg f
  | .binding f _ b => BindingOk s.clients leg f b
  | .routed f _ entry found => ItemOk s.log s.registry.routes leg f entry found
  | .adding f _ entry found => ItemOk s.log s.registry.routes leg f entry found
  | .flushing after => s.StageOk leg after
  | .completing after => s.StageOk leg after
  | _ => True

/-- What is known of a loop. -/
structure PumpOk (s : RelayLegs) (pump : Pump) : Prop where
  leg : ∀ n, pump.leg = .client n → n < s.clients.length
  received : ∀ f ∈ pump.received, Honest s.log pump.leg f
  frames : ∀ f ∈ pump.frames, Honest s.log pump.leg f
  authorized : ∀ f ∈ pump.authorized, Honest s.log pump.leg f
  stage : s.StageOk pump.leg pump.stage
  empty : pump.batch.entry = none → pump.batch.items = []
  items : ∀ entry, pump.batch.entry = some entry → ∀ item ∈ pump.batch.items,
    ItemOk s.log s.registry.routes pump.leg item.source entry item.found ∧
      item.forwarded = { item.source.frame with messageId := entry.dstID }
  joins : ∀ f boundary entry found, pump.stage = .adding f boundary entry found →
    pump.batch.items = [] ∨ pump.batch.entry = some entry

/-- What is known of a frame that was written as number `k`. -/
structure WrittenOk (s : RelayLegs) (k : ℕ) (w : Written) : Prop where
  data : isRelayBatchDataFrame w.frame → ∃ i ρ, w.pair = some i ∧
    s.registry.routes[i]? = some ρ ∧
    Carries ρ w.src w.source.frame.messageId w.dst w.frame.messageId
  ack : IsAck w.frame → w.found = true ∧
    Acknowledges (s.log.take k) w.src w.source w.dst w.frame.messageId

/-- What the loops keep. -/
structure Inv (s : RelayLegs) : Prop where
  sound : s.registry.Sound
  shaped : ∀ ρ ∈ s.registry.routes, Shaped s.clients ρ
  lookup : ∀ c n, s.lookup.get c = some n → n < s.clients.length
  log : ∀ k w, s.log[k]? = some w → s.WrittenOk k w
  pumps : ∀ pump ∈ s.pumps, s.PumpOk pump

theorem inv_new (ttl maxPairs : ℤ) : (new ttl maxPairs).Inv where
  sound := sound_new ttl maxPairs
  shaped ρ hρ := by simp [new, newWithLimits, routes] at hρ
  lookup c n hn := by simp [new] at hn
  log k w hw := by simp [new] at hw
  pumps pump hpump := by
    obtain rfl := mem_singleton.mp hpump
    refine ⟨?_, ?_, ?_, ?_, trivial, fun _ => rfl, ?_, ?_⟩ <;>
    · intros
      contradiction

/-! ## The past stays -/

/-- What is written, routed or attached stays. -/
structure Grows (s s' : RelayLegs) : Prop where
  log : s.log <+: s'.log
  routes : s.registry.routes <+: s'.registry.routes
  clients : s.clients <+: s'.clients

theorem getElem?_of_isPrefix {α : Type*} {l l' : List α} {a : α} (h : l <+: l')
    (ha : l[i]? = some a) : l'[i]? = some a := by
  obtain ⟨rest, rfl⟩ := h
  exact getElem?_append_of_some ha rest

theorem Honest.mono (h : Honest log leg f) (hlog : log <+: log') : Honest log' leg f := by
  intro hack
  obtain ⟨j, d, hof, hd, hrest⟩ := h hack
  exact ⟨j, d, hof, getElem?_of_isPrefix hlog hd, hrest⟩

theorem Acknowledges.mono (h : Acknowledges log leg f dst id) (hlog : log <+: log') :
    Acknowledges log' leg f dst id := by
  obtain ⟨j, d, hof, hd, hrest⟩ := h
  exact ⟨j, d, hof, getElem?_of_isPrefix hlog hd, hrest⟩

theorem ItemOk.mono {routes routes' : List (Route Leg)} (h : ItemOk log routes leg f entry found)
    (hlog : log <+: log') (hroutes : routes <+: routes') :
    ItemOk log' routes' leg f entry found where
  data hdata := by
    obtain ⟨ρ, hρ, hcarries⟩ := h.data hdata
    exact ⟨ρ, getElem?_of_isPrefix hroutes hρ, hcarries⟩
  ack hack := ⟨(h.ack hack).1, (h.ack hack).2.mono hlog⟩

theorem BindingOk.mono {clients' : List Bytes}
    (h : BindingOk clients leg f b) (hclients : clients <+: clients') :
    BindingOk clients' leg f b := by
  obtain ⟨more, rfl⟩ := hclients
  exact { h with shaped := fun i => (h.shaped i).append more }

theorem StageOk.mono (hgrows : s.Grows s') (h : s.StageOk leg stage) : s'.StageOk leg stage := by
  induction stage with
  | hook | looking => exact Honest.mono h hgrows.log
  | binding f boundary b => exact BindingOk.mono h hgrows.clients
  | routed | adding => exact ItemOk.mono h hgrows.log hgrows.routes
  | flushing after ih => exact ih h
  | completing after ih => exact ih h
  | _ => exact h

theorem PumpOk.mono (hgrows : s.Grows s') (h : s.PumpOk pump) : s'.PumpOk pump where
  leg n hn := (h.leg n hn).trans_le hgrows.clients.length_le
  received f hf := (h.received f hf).mono hgrows.log
  frames f hf := (h.frames f hf).mono hgrows.log
  authorized f hf := (h.authorized f hf).mono hgrows.log
  stage := h.stage.mono hgrows
  empty := h.empty
  items entry hentry item hitem :=
    ⟨(h.items entry hentry item hitem).1.mono hgrows.log hgrows.routes,
      (h.items entry hentry item hitem).2⟩
  joins := h.joins

theorem WrittenOk.mono (hgrows : s.Grows s') {k : ℕ} {w : Written} (h : s.WrittenOk k w) :
    s'.WrittenOk k w where
  data hdata := by
    obtain ⟨i, ρ, hi, hρ, hcarries⟩ := h.data hdata
    exact ⟨i, ρ, hi, getElem?_of_isPrefix hgrows.routes hρ, hcarries⟩
  ack hack := ⟨(h.ack hack).1, (h.ack hack).2.mono (hgrows.log.take k)⟩

/-- A larger state keeps the invariant if what is new in it is in order. -/
theorem Inv.extend (h : s.Inv) (hgrows : s.Grows s') (hsound : s'.registry.Sound)
    (hshaped : ∀ ρ ∈ s'.registry.routes, Shaped s'.clients ρ)
    (hlookup : ∀ c n, s'.lookup.get c = some n → n < s'.clients.length)
    (hlog : ∀ k w, s'.log[k]? = some w → s.log[k]? = some w ∨ s'.WrittenOk k w)
    (hpumps : ∀ pump ∈ s'.pumps, pump ∈ s.pumps ∨ s'.PumpOk pump) : s'.Inv where
  sound := hsound
  shaped := hshaped
  lookup := hlookup
  log k w hw := (hlog k w hw).elim (fun hold => (h.log k w hold).mono hgrows) id
  pumps pump hpump := (hpumps pump hpump).elim (fun hold => (h.pumps pump hold).mono hgrows) id

theorem Inv.put (h : s.Inv) (k : ℕ) (hpump : s.PumpOk pump) : (s.put k pump).Inv := by
  have hgrows : s.Grows (s.put k pump) := ⟨prefix_rfl, prefix_rfl, prefix_rfl⟩
  refine h.extend hgrows h.sound h.shaped h.lookup (fun _ _ => .inl) ?_
  intro other hother
  rcases mem_or_eq_of_mem_set hother with hold | rfl
  · exact .inl hold
  · exact .inr (hpump.mono hgrows)

/-- The registry changes and keeps its routes. -/
theorem Inv.registry (h : s.Inv) {r : FrameRouteRegistry Leg} (hsound : r.Sound)
    (hroutes : r.routes = s.registry.routes) :
    Inv { s with registry := r } ∧ s.Grows { s with registry := r } := by
  have hgrows : s.Grows { s with registry := r } := ⟨prefix_rfl, hroutes ▸ prefix_rfl, prefix_rfl⟩
  exact ⟨h.extend hgrows hsound (hroutes ▸ h.shaped) h.lookup (fun _ _ => .inl) fun _ => .inl,
    hgrows⟩

theorem PumpOk.stage_of (h : s.PumpOk pump) (hstage : pump.stage = stage) :
    s.StageOk pump.leg stage :=
  hstage ▸ h.stage

theorem PumpOk.next (h : s.PumpOk pump) (hstage : s.StageOk pump.leg stage)
    (hjoins : ∀ f boundary entry found, stage = .adding f boundary entry found →
      pump.batch.items = [] ∨ pump.batch.entry = some entry) :
    s.PumpOk { pump with stage } :=
  { h with stage := hstage, joins := hjoins }

theorem PumpOk.go (hpump : s.PumpOk pump) (k : ℕ) (h : s'.Inv ∧ s.Grows s')
    (hstage : s'.StageOk pump.leg stage)
    (hjoins : ∀ f boundary entry found, stage ≠ .adding f boundary entry found) :
    (s'.put k { pump with stage }).Inv :=
  h.1.put k ((hpump.mono h.2).next hstage fun _ _ _ _ heq => (hjoins _ _ _ _ heq).elim)

theorem PumpOk.reset (h : s.PumpOk pump) (hstage : s.StageOk pump.leg stage) :
    s.PumpOk { pump with batch := ⟨none, []⟩, stage } :=
  { h with
    stage := hstage
    empty := fun _ => rfl
    items := nofun
    joins := fun _ _ _ _ _ => .inl rfl }

/-! ## Writes -/

/-- Items of a batch reach the log. -/
theorem Inv.write (h : s.Inv) {items : List BatchItem}
    (hitems : ∀ item ∈ items, ItemOk s.log s.registry.routes leg item.source entry item.found ∧
      item.forwarded = { item.source.frame with messageId := entry.dstID }) :
    Inv { s with log := s.log ++ records leg entry items } ∧
      s.Grows { s with log := s.log ++ records leg entry items } := by
  have hgrows : s.Grows { s with log := s.log ++ records leg entry items } :=
    ⟨prefix_append _ _, prefix_rfl, prefix_rfl⟩
  refine ⟨h.extend hgrows h.sound h.shaped h.lookup ?_ fun _ => .inl, hgrows⟩
  intro k w hw
  rcases Nat.lt_or_ge k s.log.length with hlt | hge
  · rw [getElem?_append_left hlt] at hw
    exact .inl hw
  · have hmem : w ∈ records leg entry items := by
      rw [getElem?_append_right hge] at hw
      exact mem_of_getElem? hw
    obtain ⟨item, hitem, rfl⟩ := mem_map.mp hmem
    obtain ⟨hok, hforwarded⟩ := hitems item hitem
    have htype : item.forwarded.frameType = item.source.frame.frameType := by rw [hforwarded]
    have hid : item.forwarded.messageId = entry.dstID := by rw [hforwarded]
    refine .inr ⟨?_, ?_⟩
    · intro hdata
      have hsource : isRelayBatchDataFrame item.source.frame := by
        rw [isRelayBatchDataFrame, ← htype]
        exact hdata
      obtain ⟨ρ, hρ, hcarries⟩ := hok.data hsource
      exact ⟨entry.pair, ρ, rfl, hρ, hid ▸ hcarries⟩
    · intro hack
      obtain ⟨hfound, hacknowledges⟩ := hok.ack (htype.symm.trans hack)
      refine ⟨hfound, ?_⟩
      rw [← hid] at hacknowledges
      refine hacknowledges.mono ?_
      -- the frame that is acknowledged was in the log before
      rw [take_append, take_of_length_le hge]
      exact prefix_append _ _

/-- A close notice reaches the log. It is neither data nor an ACK. -/
theorem Inv.sendClose (h : s.Inv) (leg destination : Leg) (m : PumpMoment)
    (hclose : f.frame.frameType = frameTypeConnectionClose) :
    (s.sendClose leg destination f m).Inv ∧ s.Grows (s.sendClose leg destination f m) := by
  unfold RelayLegs.sendClose
  split
  · have hgrows : s.Grows { s with log := s.log ++
        [⟨destination, { f.frame with messageId := m.id }, leg, f, false, none⟩] } :=
      ⟨prefix_append _ _, prefix_rfl, prefix_rfl⟩
    refine ⟨h.extend hgrows h.sound h.shaped h.lookup ?_ fun _ => .inl, hgrows⟩
    intro k w hw
    rcases getElem?_append_cases hw with ⟨-, rfl⟩ | ⟨-, hold⟩
    · refine .inr ⟨?_, ?_⟩
      · intro hdata
        simp [isRelayBatchDataFrame, hclose, frameTypeConnectionClose, frameTypeData,
          frameTypeRetransmit] at hdata
      · intro hack
        simp [IsAck, hclose, frameTypeConnectionClose, frameTypeAck] at hack
    · exact .inl hold
  · exact ⟨h, prefix_rfl, prefix_rfl, prefix_rfl⟩

theorem Inv.purgeConnection (h : s.Inv) (connectionID : Bytes) (order : GoMap.Order ℕ) :
    Inv { s with registry := s.registry.purgeConnection connectionID order } ∧
      s.Grows { s with registry := s.registry.purgeConnection connectionID order } := by
  obtain ⟨hsound, hroutes⟩ := h.sound.purgeConnection connectionID order
  exact h.registry hsound hroutes

theorem Inv.purgeFailed (h : s.Inv) (entry : FrameRouteEntry Leg) (m : PumpMoment) :
    Inv { s with registry := s.purgeFailed entry m } ∧
      s.Grows { s with registry := s.purgeFailed entry m } := by
  have hsame : Inv { s with registry := s.registry } ∧ s.Grows { s with registry := s.registry } :=
    ⟨h, prefix_rfl, prefix_rfl, prefix_rfl⟩
  unfold RelayLegs.purgeFailed
  split
  · exact hsame
  · split
    · exact h.purgeConnection _ _
    · exact hsame

theorem Inv.completeAcks (h : s.Inv) (batch : RelayFrameWriteBatch) (now : ℤ) :
    Inv { s with registry := s.completeAcks batch now } ∧
      s.Grows { s with registry := s.completeAcks batch now } := by
  have hregistry : (s.completeAcks batch now).Sound ∧
      (s.completeAcks batch now).routes = s.registry.routes := by
    unfold RelayLegs.completeAcks
    split
    · exact ⟨h.sound, rfl⟩
    · next entry _ =>
      refine foldlRecOn batch.items _ (motive := fun r : FrameRouteRegistry Leg =>
        r.Sound ∧ r.routes = s.registry.routes) ⟨h.sound, rfl⟩ ?_
      intro r hr item _
      split
      · exact hr
      · split
        · obtain ⟨hsound, hroutes⟩ := hr.1.complete entry.pair now
          exact ⟨hsound, hroutes.trans hr.2⟩
        · exact hr
  exact h.registry hregistry.1 hregistry.2

theorem Inv.flush (h : s.Inv) (k : ℕ) (hpump : s.PumpOk pump) {after : PumpStage}
    (hafter : s.StageOk pump.leg after) (m : PumpMoment) :
    (s.flush k pump after m).Inv := by
  unfold RelayLegs.flush
  split
  · next hentry => exact h.put k (hpump.next hafter fun _ _ _ _ _ => .inl (hpump.empty hentry))
  next entry hentry =>
  split
  · next hitems => exact h.put k (hpump.next hafter fun _ _ _ _ _ => .inl hitems)
  split
  · obtain ⟨hinv, hgrows⟩ := h.write (hpump.items entry hentry)
    exact hinv.put k ((hpump.mono hgrows).next (hafter.mono hgrows) nofun)
  · have htaken : ∀ item ∈ pump.batch.items.take m.written,
        ItemOk s.log s.registry.routes pump.leg item.source entry item.found ∧
          item.forwarded = { item.source.frame with messageId := entry.dstID } :=
      fun item hitem => hpump.items entry hentry item (mem_of_mem_take hitem)
    obtain ⟨hinv, hgrows⟩ := h.write htaken
    have hpump' := hpump.mono hgrows
    split
    · obtain ⟨hpurged, hmore⟩ := hinv.purgeFailed entry m
      exact hpurged.put k ((hpump'.mono hmore).reset ((hafter.mono hgrows).mono hmore))
    · exact hinv.put k (hpump'.reset trivial)

/-! ## Lookups -/

/-- The entry of a route that a loop uses. -/
def entryFor (leg : Leg) (ρ : Route Leg) : FrameRouteEntry Leg :=
  match leg with
  | .relay => ρ.relayEntry
  | .client _ => ρ.clientEntry

/-- The ids of a route are those of a frame of a leg. -/
def Fits (s : RelayLegs) (leg : Leg) (ρ : Route Leg) (id : ℕ) : Prop :=
  match leg with
  | .relay => ρ.relayID = id
  | .client _ => ρ.clientKey = ⟨s.connectionId leg, id⟩

/-- A route that fits a frame of a leg takes it to the other side, provided that it was made for
that leg and not for another one with its connection id. -/
theorem Fits.carries (h : s.Fits leg ρ id)
    (howned : ∀ n, leg = .client n → ρ.relayEntry.dest = .client n) :
    Carries ρ leg id (entryFor leg ρ).dest (entryFor leg ρ).dstID := by
  cases leg with
  | relay => exact ⟨Eq.symm h, rfl, rfl⟩
  | client n =>
    have hkey : ρ.clientKey = ⟨s.connectionId (.client n), id⟩ := h
    refine ⟨howned n rfl, ?_, rfl, rfl⟩
    rw [hkey]

/-- A lookup keeps the routes, and what it finds is a route that fits. -/
theorem Inv.get (h : s.Inv) (leg : Leg) (f : Incoming) (now : ℤ) :
    (s.get leg f now).2.Sound ∧ (s.get leg f now).2.routes = s.registry.routes ∧
      ∀ entry, (s.get leg f now).1 = some entry → ∃ ρ, s.registry.routes[entry.pair]? = some ρ ∧
        entry = entryFor leg ρ ∧ s.Fits leg ρ f.frame.messageId := by
  have hexpired := h.sound.expireLocked now
  have hroute : ∀ i p, (s.registry.expireLocked now).Live i p →
      s.registry.routes[i]? = some p.route := by
    intro i p hp
    rw [← hexpired.2, routes, getElem?_map, hp.1]
    rfl
  cases leg with
  | relay =>
    obtain ⟨hsound, hroutes⟩ := h.sound.relayGet f.frame.messageId now
    refine ⟨hsound, hroutes, ?_⟩
    intro entry hentry
    simp only [RelayLegs.get, FrameRouteRegistry.relayGet] at hentry
    split at hentry
    · cases hentry
    · next hget =>
      cases hentry
      obtain ⟨p, hp, hid, rfl⟩ := hexpired.1.consistent.relay _ _ hget
      exact ⟨p.route, hroute _ p hp, rfl, hid⟩
  | client n =>
    obtain ⟨hsound, hroutes⟩ := h.sound.clientGet
      ⟨s.connectionId (.client n), f.frame.messageId⟩ now
    refine ⟨hsound, hroutes, ?_⟩
    intro entry hentry
    simp only [RelayLegs.get, FrameRouteRegistry.clientGet] at hentry
    split at hentry
    · cases hentry
    · next hget =>
      cases hentry
      obtain ⟨p, hp, hkey, rfl⟩ := hexpired.1.consistent.client _ _ hget
      exact ⟨p.route, hroute _ p hp, rfl, hkey⟩

theorem Inv.get_of_live (h : s.Inv) {p : FrameRoutePair Leg}
    (hp : (s.registry.expireLocked now).Live i p) (hfits : s.Fits leg p.route f.frame.messageId) :
    (s.get leg f now).1 = some (entryFor leg p.route) := by
  have hconsistent := (h.sound.expireLocked now).1.consistent
  cases leg with
  | relay =>
    have hid : p.relayID = f.frame.messageId := hfits
    simp only [RelayLegs.get, FrameRouteRegistry.relayGet, ← hid, hp.2]
    rfl
  | client n =>
    have hkey : p.clientKey = ⟨s.connectionId (.client n), f.frame.messageId⟩ := hfits
    simp only [RelayLegs.get, FrameRouteRegistry.clientGet, ← hkey, hconsistent.both i p hp]
    rfl

/-- A route that takes an id of a leg somewhere fits the frames with that id. -/
theorem Carries.fits (hshaped : Shaped s.clients ρ) {b : ℕ}
    (h : Carries ρ leg a dst b) : s.Fits leg ρ a := by
  obtain ⟨n, -, hdest, hconnection, -⟩ := hshaped
  cases leg with
  | relay => exact h.1.symm
  | client k =>
    obtain ⟨hclient, rfl, -⟩ := h
    obtain rfl : n = k := by
      rw [hdest] at hclient
      exact Leg.client.inj hclient
    show ρ.clientKey = ⟨s.clients.getD n [], ρ.clientKey.messageID⟩
    rw [← hconnection]

/-- The message that an ACK acknowledges has a route in the registry. -/
def Alive (s : RelayLegs) (f : Incoming) (now : ℤ) : Prop :=
  ∃ j d i p, f.of = some j ∧ s.log[j]? = some d ∧ d.pair = some i ∧
    (s.registry.expireLocked now).Live i p

/-- An ACK whose message still has its route goes back to that message. -/
theorem Inv.acknowledges (h : s.Inv) (hhonest : Honest s.log leg f) (hack : IsAck f.frame)
    (halive : s.Alive f now) : ∃ entry, (s.get leg f now).1 = some entry ∧
      Acknowledges s.log leg f entry.dest entry.dstID := by
  obtain ⟨j, d, hof, hd, hdata, hdst, hid⟩ := hhonest hack
  obtain ⟨j', d', i, p, hof', hd', hpair, hp⟩ := halive
  rw [hof] at hof'
  cases hof'
  rw [hd] at hd'
  cases hd'
  obtain ⟨i', ρ, hpair', hρ, hcarries⟩ := (h.log j d hd).data hdata
  rw [hpair] at hpair'
  cases hpair'
  -- the route of the message is the one of the live pair, so reading it backwards finds the message
  have hroute : p.route = ρ := by
    rw [← (h.sound.expireLocked now).2, routes, getElem?_map, hp.1] at hρ
    exact Option.some.inj hρ
  subst hroute
  have hshaped := h.shaped _ (mem_of_getElem? hρ)
  have hback := hcarries.symm hshaped
  rw [hdst, hid] at hback
  have hfits : s.Fits leg p.route f.frame.messageId := hback.fits hshaped
  have howned : ∀ n, leg = .client n → p.route.relayEntry.dest = .client n := by
    rintro n rfl
    exact hback.1
  obtain ⟨hsrc, hsrcID⟩ := hback.unique (hfits.carries howned)
  exact ⟨_, h.get_of_live hp hfits, j, d, hof, hd, hdata, hdst, hid, hsrc, hsrcID⟩

/-! ## Steps -/

/-- A route serves a leg: it leads from the relay to all clients, and it was made for the client. -/
def Serves (ρ : Route Leg) : Leg → Prop
  | .relay => True
  | .client n => ρ.relayEntry.dest = .client n

/-- A pair serves a leg. -/
def Owned (r : FrameRouteRegistry Leg) (leg : Leg) (i : ℕ) : Prop :=
  ∀ ρ ∈ r.routes[i]?, Serves ρ leg

/-- The pair that `bindPair` finds for a message serves a leg. -/
def Reusable (r : FrameRouteRegistry Leg) (leg : Leg) (b : Binding Leg) : Prop :=
  ∀ entry ∈ r.relaySide.get b.relayID, ∀ p ∈ r.pairs[entry.pair]?,
    p.clientKey = b.clientKey → p.totalFrames = b.totalFrames → Serves p.route leg

/-- The condition under which a step of a loop attributes ACKs to the right messages.

* An ACK acknowledges a data frame that was written to its leg under its id.
* When an ACK is looked up, the message that it acknowledges still has its route, or no route is
  found; and for an ACK of the relay without a route, no leg has its connection id.
* Data of a client leg takes only routes that were made for that leg.
-/
def Attributable (s : RelayLegs) (m : PumpMoment) (pump : Pump) : Prop :=
  match pump.stage with
  | .reading => ∀ frames ∈ m.read, ∀ f ∈ frames, Honest s.log pump.leg f
  | .looking f _ =>
    (IsAck f.frame → s.Alive f m.now ∨ (s.get pump.leg f m.now).1 = none) ∧
    (isRelayBatchDataFrame f.frame → ∀ entry ∈ (s.get pump.leg f m.now).1,
      Owned s.registry pump.leg entry.pair)
  | .missing f _ => IsAck f.frame → pump.leg = .relay →
      f.frame.connectionId = [] ∨ s.lookup.get f.frame.connectionId = none
  | .binding f _ b =>
    isRelayBatchDataFrame f.frame → Reusable (s.registry.expireLocked m.now) pump.leg b
  | _ => True

/-- The condition on an event. -/
def Event.attributable (s : RelayLegs) : Event → Prop
  | .step k m => ∀ pump ∈ s.pumps[k]?, s.Attributable m pump
  | _ => True

theorem Inv.looking (h : s.Inv) (k : ℕ) (hpump : s.PumpOk pump)
    (hstage : pump.stage = .looking f boundary)
    (hack : IsAck f.frame → s.Alive f m.now ∨ (s.get pump.leg f m.now).1 = none)
    (hdata : isRelayBatchDataFrame f.frame → ∀ entry ∈ (s.get pump.leg f m.now).1,
      Owned s.registry pump.leg entry.pair) :
    (s.pumpStep k pump m).Inv := by
  obtain ⟨hsound, hroutes, hfound⟩ := h.get pump.leg f m.now
  have hregistry := h.registry hsound hroutes
  have hhonest : Honest s.log pump.leg f := hpump.stage_of hstage
  simp only [pumpStep, hstage]
  cases hget : (s.get pump.leg f m.now).1 with
  | none => exact hpump.go k hregistry trivial nofun
  | some entry =>
    refine hpump.go k hregistry ⟨fun hisData => ?_, fun hisAck => ⟨rfl, ?_⟩⟩ nofun
    · obtain ⟨ρ, hρ, rfl, hfits⟩ := hfound entry hget
      refine ⟨ρ, ?_, hfits.carries ?_⟩
      · simp only [hroutes]
        exact hρ
      · intro n hleg
        have hserves := hdata hisData _ hget ρ hρ
        rw [hleg] at hserves
        exact hserves
    · rcases hack hisAck with halive | hnone
      · obtain ⟨entry', hentry, hacknowledges⟩ := h.acknowledges hhonest hisAck halive
        rw [hget] at hentry
        cases hentry
        exact hacknowledges
      · rw [hget] at hnone
        cases hnone

theorem Inv.bindingOf (h : s.Inv) (hleg : ∀ n, leg = .client n → n < s.clients.length)
    (hack : IsAck f.frame → leg = .relay →
      f.frame.connectionId = [] ∨ s.lookup.get f.frame.connectionId = none)
    (hb : s.bindingOf leg f id = some b) : BindingOk s.clients leg f b := by
  cases leg with
  | relay =>
    simp only [RelayLegs.bindingOf] at hb
    split at hb
    · cases hb
    · next hnamed =>
      obtain ⟨n, hn, rfl⟩ := Option.map_eq_some_iff.mp hb
      refine ⟨fun hisAck => ?_, ?_, fun _ => rfl, nofun, nofun⟩
      · rcases hack hisAck rfl with hempty | hnone
        · exact hnamed hempty
        · rw [hnone] at hn
          cases hn
      intro i
      exact ⟨n, h.lookup _ n hn, rfl, rfl, rfl, rfl, rfl⟩
  | client n =>
    simp only [RelayLegs.bindingOf] at hb
    split at hb
    · cases hb
    · next hdata =>
      cases hb
      refine ⟨fun hisAck => hdata (.inl hisAck), ?_, nofun, fun _ _ => rfl, fun _ hleg => hleg⟩
      intro i
      exact ⟨n, hleg n rfl, rfl, rfl, rfl, rfl, rfl⟩

section

variable (h : s.Inv) (k : ℕ) (hpump : s.PumpOk pump)
include h k hpump

theorem Inv.binding (hstage : pump.stage = .binding f boundary b)
    (hdata : isRelayBatchDataFrame f.frame →
      Reusable (s.registry.expireLocked m.now) pump.leg b) :
    (s.pumpStep k pump m).Inv := by
  have hok : BindingOk s.clients pump.leg f b := hpump.stage_of hstage
  obtain ⟨hsound, hroutes, hbound⟩ := h.sound.bindPair b m.now
  have hprefix : s.registry.routes <+: (s.registry.bindPair b m.now).2.routes := by
    rcases hroutes with heq | heq
    · rw [heq]
    · rw [heq]
      exact prefix_append _ _
  have hgrows : s.Grows { s with registry := (s.registry.bindPair b m.now).2 } :=
    ⟨prefix_rfl, hprefix, prefix_rfl⟩
  -- one route is added, or the routes stay
  have hinv : Inv { s with registry := (s.registry.bindPair b m.now).2 } := by
    refine h.extend hgrows hsound ?_ h.lookup (fun _ _ => .inl) fun _ => .inl
    intro ρ hρ
    rcases hroutes with heq | heq
    · exact h.shaped ρ (heq ▸ hρ)
    · simp only [heq, mem_append, mem_singleton] at hρ
      rcases hρ with hold | rfl
      · exact h.shaped ρ hold
      · exact hok.shaped _
  simp only [pumpStep, hstage]
  split
  · exact hpump.go k ⟨hinv, hgrows⟩ trivial nofun
  next p hp =>
  obtain ⟨i, hi, hget⟩ := Option.bind_eq_some_iff.mp hp
  obtain ⟨hrelay, hclient, hid, hkey, hnew⟩ := hbound i p hi hget
  refine hpump.go k ⟨hinv, hgrows⟩ ⟨?_, fun hisAck => absurd hisAck hok.noAck⟩ nofun
  intro hisData
  have hroute : (s.registry.bindPair b m.now).2.routes[i]? = some p.route := by
    rw [routes, getElem?_map, hget]
    rfl
  cases hleg : pump.leg with
  | relay =>
    refine ⟨p.route, ?_, ?_, rfl, rfl⟩
    · rw [entryOf, hrelay]
      exact hroute
    · rw [← hok.relay hleg, ← hid]
      rfl
  | client n =>
    have hserves : p.route.relayEntry.dest = .client n := by
      rcases hnew with hnew | ⟨q, hq, hqkey, hqtotal, hqroute⟩
      · -- a new pair is made for the leg of the loop
        rw [hnew]
        exact hok.dest n hleg
      · -- a pair that is found again already serves this leg
        have hpair := ((h.sound.expireLocked m.now).1.consistent.own i q hq.1).1
        have hqid : q.relayID = b.relayID := (congrArg Route.relayID hqroute).trans hid
        have hserves := hdata hisData q.relayEntry (hqid ▸ hq.2) q (hpair ▸ hq.1) hqkey hqtotal
        rwa [hleg, hqroute] at hserves
    refine ⟨p.route, ?_, hserves, ?_, rfl, rfl⟩
    · rw [entryOf, hclient]
      exact hroute
    · rw [← hok.client n hleg, ← hkey]
      rfl

theorem Inv.forwarding
    (hstage : pump.stage = .forwarding) (m : PumpMoment) : (s.pumpStep k pump m).Inv := by
  simp only [pumpStep, hstage]
  split
  · split
    · exact h.put k (hpump.next trivial nofun)
    · exact h.put k { hpump with stage := trivial, joins := nofun }
  next first rest hauthorized =>
  have hhonest := hpump.authorized
  rw [hauthorized] at hhonest
  have hfirst : Honest s.log pump.leg first := hhonest first mem_cons_self
  have hrest : ∀ f ∈ rest, Honest s.log pump.leg f := fun f hf =>
    hhonest f (mem_cons_of_mem first hf)
  split <;> exact h.put k { hpump with authorized := hrest, stage := hfirst, joins := nofun }

/-- The step that puts a frame into the batch. Its entry is the one of the batch. -/
theorem Inv.adding (hstage : pump.stage = .adding f boundary entry found)
    (m : PumpMoment) : (s.pumpStep k pump m).Inv := by
  have hok : ItemOk s.log s.registry.routes pump.leg f entry found := hpump.stage_of hstage
  simp only [pumpStep, hstage]
  refine h.put k { hpump with stage := ?_, empty := nofun, items := ?_, joins := ?_ }
  · split <;> trivial
  · rintro entry' hentry item hitem
    cases hentry
    rcases mem_append.mp hitem with hold | hnew
    · rcases hpump.joins f boundary entry found hstage with hempty | hsame
      · rw [hempty] at hold
        exact absurd hold not_mem_nil
      · exact hpump.items entry hsame item hold
    · obtain rfl := mem_singleton.mp hnew
      exact ⟨hok, rfl⟩
  · intro f' boundary' entry' found' hadding
    split at hadding <;> cases hadding

end

theorem Inv.pumpStep (h : s.Inv) (k : ℕ) (hget : s.pumps[k]? = some pump) (m : PumpMoment)
    (hattributable : Event.attributable s (.step k m)) : (s.pumpStep k pump m).Inv := by
  have hpump := h.pumps pump (mem_of_getElem? hget)
  have hok := hpump.stage
  have hallowed : s.Attributable m pump := hattributable pump hget
  unfold Attributable at hallowed
  generalize hstage : pump.stage = stage at hok hallowed
  cases stage with
  | reading =>
    simp only [RelayLegs.pumpStep, hstage]
    -- behind a read that fails the loop flushes and stops
    split
    · exact h.put k (hpump.next trivial nofun)
    · next frames hread =>
      have hhonest := hallowed frames hread
      refine h.put k { hpump with received := ?_, frames := hhonest, stage := trivial, joins := nofun }
      exact forall_mem_append.mpr ⟨hpump.received, hhonest⟩
  | taking =>
    simp only [RelayLegs.pumpStep, hstage]
    split
    · exact h.put k (hpump.next trivial nofun)
    next first rest hframes =>
    have hhonest := hpump.frames
    rw [hframes] at hhonest
    have hrest : ∀ f ∈ rest, Honest s.log pump.leg f := fun f hf =>
      hhonest f (mem_cons_of_mem first hf)
    split
    · next hclose => exact h.put k { hpump with frames := hrest, stage := hclose, joins := nofun }
    split
    · refine h.put k { hpump with frames := hrest, authorized := ?_, stage := trivial, joins := nofun }
      -- what is authorized is among the frames that were read
      intro f hf
      obtain ⟨i, -, hi⟩ := mem_filterMap.mp hf
      exact hpump.received f (mem_of_getElem? hi)
    · refine h.put k { hpump with frames := hrest, authorized := ?_, stage := trivial, joins := nofun }
      intro f hf
      obtain rfl := mem_singleton.mp hf
      exact hhonest f mem_cons_self
  | closing f =>
    simp only [RelayLegs.pumpStep, hstage]
    split
    · exact hpump.go k (h.purgeConnection _ _) hok nofun
    · -- a client leg tells the relay leg first
      have hsent := h.sendClose pump.leg .relay m hok
      split
      · exact hpump.go k hsent hok nofun
      · exact hpump.go k hsent trivial nofun
  | closed f destination =>
    simp only [RelayLegs.pumpStep, hstage]
    have hpurged : (RelayLegs.put { s with
        registry := s.registry.purgeConnection (s.connectionId pump.leg) m.order } k
        { pump with stage := .taking }).Inv := hpump.go k (h.purgeConnection _ _) trivial nofun
    cases destination with
    | none =>
      split
      · exact h.put k (hpump.next trivial nofun)
      · contradiction
      · exact hpurged
    | some destination =>
      split
      · contradiction
      · next heq =>
        exact hpump.go k (h.sendClose _ _ m hok) trivial nofun
      · exact hpurged
  | forwarding => exact h.forwarding k hpump hstage m
  | hook f boundary =>
    simp only [RelayLegs.pumpStep, hstage]
    split
    · exact h.put k (hpump.next hok nofun)
    · exact h.put k (hpump.next trivial nofun)
  | looking f boundary => exact h.looking k hpump hstage hallowed.1 hallowed.2
  | missing f boundary =>
    simp only [RelayLegs.pumpStep, hstage]
    split
    · exact h.put k (hpump.next trivial nofun)
    · next b hb => exact h.put k (hpump.next (h.bindingOf hpump.leg hallowed hb) nofun)
  | binding f boundary b => exact h.binding k hpump hstage hallowed
  | routed f boundary entry found =>
    simp only [RelayLegs.pumpStep, hstage]
    split
    · exact h.put k (hpump.next hok nofun)
    · next hsame =>
      refine h.put k (hpump.next hok ?_)
      rintro f' boundary' entry' found' ⟨⟩
      -- without a flush the batch is empty or has the same destination
      by_cases hitems : pump.batch.items = []
      · exact .inl hitems
      · exact .inr (by_contra fun hne => hsame ⟨hitems, hne⟩)
  | adding f boundary entry found => exact h.adding k hpump hstage m
  | flushing after =>
    have hafter : s.StageOk pump.leg after := hok
    simp only [RelayLegs.pumpStep, hstage]
    exact h.flush k hpump hafter m
  | completing after =>
    simp only [RelayLegs.pumpStep, hstage]
    obtain ⟨hinv, hgrows⟩ := h.completeAcks pump.batch m.now
    exact hinv.put k ((hpump.mono hgrows).reset (StageOk.mono hgrows hok))
  | rejecting f =>
    simp only [RelayLegs.pumpStep, hstage]
    split
    · exact h.put k (hpump.next trivial nofun)
    · exact hpump.go k (h.purgeConnection _ _) trivial nofun
  | stopped =>
    simp only [RelayLegs.pumpStep, hstage]
    exact h

theorem Inv.step (h : s.Inv) (event : Event) (hattributable : event.attributable s) :
    (s.step event).Inv := by
  cases event with
  | step k m =>
    simp only [RelayLegs.step]
    split
    · exact h
    · next pump hget => exact h.pumpStep k hget m hattributable
  | attach connectionID =>
    have hgrows : s.Grows (s.step (.attach connectionID)) :=
      ⟨prefix_rfl, prefix_rfl, prefix_append _ _⟩
    refine h.extend hgrows h.sound (fun ρ hρ => (h.shaped ρ hρ).append _) ?_ (fun _ _ => .inl) ?_
    · intro c n hn
      simp only [RelayLegs.step, GoMap.get_set, length_append, length_singleton] at hn ⊢
      split_ifs at hn
      · cases hn
        omega
      · exact (h.lookup c n hn).trans (Nat.lt_succ_self _)
    · intro pump hpump
      rcases mem_append.mp hpump with hold | hnew
      · exact .inl hold
      · obtain rfl := mem_singleton.mp hnew
        refine .inr ⟨?_, ?_, ?_, ?_, trivial, fun _ => rfl, nofun, nofun⟩
        · intro n hn
          cases hn
          simp [RelayLegs.step]
        all_goals exact nofun
  | detach connectionID =>
    have hgrows : s.Grows (s.step (.detach connectionID)) := ⟨prefix_rfl, prefix_rfl, prefix_rfl⟩
    refine h.extend hgrows h.sound h.shaped ?_ (fun _ _ => .inl) fun _ => .inl
    intro c n hn
    simp only [RelayLegs.step, GoMap.get_delete] at hn
    split_ifs at hn
    exact h.lookup c n hn
  | purge connectionID order => exact (h.purgeConnection connectionID order).1

/-! ## Attribution -/

/-- Every ACK was written for a message: its destination had sent a data frame under its id, that
frame was written to the leg that the ACK comes from, and it is the one that the ACK acknowledges.
No ACK was written without a route that was there before. -/
def Attributed (log : List Written) : Prop :=
  ∀ (k : ℕ) (w : Written), log[k]? = some w → IsAck w.frame → w.found = true ∧
    ∃ (j : ℕ) (d : Written), j < k ∧ log[j]? = some d ∧ isRelayBatchDataFrame d.frame ∧
      w.source.of = some j ∧
      d.dst = w.src ∧ d.frame.messageId = w.source.frame.messageId ∧
      d.src = w.dst ∧ d.source.frame.messageId = w.frame.messageId

theorem Inv.attributed (h : s.Inv) : Attributed s.log := by
  intro k w hw hack
  obtain ⟨hfound, j, d, hof, hd, hdata, hdst, hid, hsrc, hsrcID⟩ := (h.log k w hw).ack hack
  have hlt : j < k := by
    have hlength := lt_of_getElem? hd
    rw [length_take] at hlength
    omega
  rw [getElem?_take_of_lt hlt] at hd
  exact ⟨hfound, j, d, hlt, hd, hdata, hof, hdst, hid, hsrc, hsrcID⟩

/-- As long as every ACK acknowledges a message whose route is still there when it is looked up,
ACKs are attributed to the right messages. -/
theorem acks_attributed (ttl maxPairs : ℤ) (events : List Event)
    (hattributable : Along (fun s event => (step s event, ())) (fun s event => event.attributable s)
      (new ttl maxPairs) events) : Attributed (run ttl maxPairs events).log := by
  have hinv := runSteps_along hattributable (inv_new ttl maxPairs)
    fun s event hevent hs => hs.step event hevent
  exact hinv.attributed

/-- The order of the numbers. -/
def sampleOrder : GoMap.Order ℕ := .numbers

/-- A data frame of a message of one frame. -/
def sampleData : Incoming := ⟨⟨1, 0, 1, 0, frameTypeData, [9], []⟩, none⟩

/-- An ACK for the first frame of the log, under the id of that frame. -/
def sampleAck : Incoming := ⟨⟨1, 0, 1, 0, frameTypeAck, [9], []⟩, some 0⟩

/-- Surroundings in which everything succeeds and one frame can be read. -/
def sampleMoment (f : Incoming) : PumpMoment where
  now := 0
  read := some [f]
  authorized := [0]
  rejected := false
  boundary := false
  allowed := true
  id := 1
  ok := true
  written := 0
  purge := false
  order := sampleOrder

/-- A client sends a message, which the relay forwards under id 1. -/
def sampleForward : List Event :=
  .attach [9] :: List.replicate 13 (.step 1 (sampleMoment sampleData))

/-- The connection is purged and a new leg comes under its id before the ACK of the message is read.
The ACK has no route any more, gets a new one, and goes to the new leg under the id that was just
allocated there, although nothing was sent under it. -/
theorem ack_without_route_forwarded :
    let log := (run 10 10 (sampleForward ++ [.purge [9] sampleOrder, .attach [9]] ++
      List.replicate 10 (.step 0 (sampleMoment sampleAck)))).log
    log = [⟨.relay, sampleData.frame, .client 0, sampleData, false, some 0⟩,
        ⟨.client 1, sampleAck.frame, .relay, sampleAck, false, some 1⟩] ∧ ¬ Attributed log := by
  have hlog : (run 10 10 (sampleForward ++ [.purge [9] sampleOrder, .attach [9]] ++
      replicate 10 (.step 0 (sampleMoment sampleAck)))).log =
        [⟨.relay, sampleData.frame, .client 0, sampleData, false, some 0⟩,
          ⟨.client 1, sampleAck.frame, .relay, sampleAck, false, some 1⟩] := by
    decide +kernel
  refine ⟨hlog, ?_⟩
  rw [hlog]
  intro h
  obtain ⟨hfound, -⟩ := h 1 _ rfl rfl
  cases hfound

/-! The condition can be checked. -/

instance (f : Frame) : Decidable (IsAck f) := inferInstanceAs (Decidable (_ = _))

instance (log : List Written) (leg : Leg) (f : Incoming) : Decidable (Honest log leg f) :=
  decidable_of_iff (IsAck f.frame → ∃ d ∈ f.of.bind fun j => log[j]?,
      isRelayBatchDataFrame d.frame ∧ d.dst = leg ∧ d.frame.messageId = f.frame.messageId) <| by
    refine imp_congr_right fun _ => ?_
    simp only [Option.mem_def, Option.bind_eq_some_iff]
    grind

instance (s : RelayLegs) (f : Incoming) (now : ℤ) : Decidable (s.Alive f now) :=
  decidable_of_iff (∃ d ∈ f.of.bind fun j => s.log[j]?, ∃ i ∈ d.pair,
      ∃ p ∈ (s.registry.expireLocked now).pairs[i]?,
        (s.registry.expireLocked now).relaySide.get p.relayID = some p.relayEntry) <| by
    simp only [Alive, Live, Option.mem_def, Option.bind_eq_some_iff]
    grind

instance (ρ : Route Leg) (leg : Leg) : Decidable (Serves ρ leg) :=
  match leg with
  | .relay => .isTrue trivial
  | .client _ => inferInstanceAs (Decidable (_ = _))

instance (r : FrameRouteRegistry Leg) (leg : Leg) (i : ℕ) : Decidable (Owned r leg i) :=
  inferInstanceAs (Decidable (∀ ρ ∈ r.routes[i]?, Serves ρ leg))

instance (r : FrameRouteRegistry Leg) (leg : Leg) (b : Binding Leg) : Decidable (Reusable r leg b) :=
  inferInstanceAs (Decidable (∀ entry ∈ r.relaySide.get b.relayID, ∀ p ∈ r.pairs[entry.pair]?, _))

instance (s : RelayLegs) (m : PumpMoment) (pump : Pump) : Decidable (s.Attributable m pump) := by
  unfold Attributable
  split <;> infer_instance

instance (s : RelayLegs) (event : Event) : Decidable (event.attributable s) :=
  match event with
  | .step k m => inferInstanceAs (Decidable (∀ pump ∈ s.pumps[k]?, s.Attributable m pump))
  | .attach _ => .isTrue trivial
  | .detach _ => .isTrue trivial
  | .purge _ _ => .isTrue trivial

theorem acks_attributed_sample :
    Attributed (run 10 10 (sampleForward ++
      List.replicate 10 (.step 0 (sampleMoment sampleAck)))).log :=
  acks_attributed 10 10 _ (by decide +kernel)

end NatP2P.Network.RelayLegs
