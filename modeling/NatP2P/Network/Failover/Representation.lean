import NatP2P.Network.Failover.Calls

/-!
# The tables of the endpoint describe one set of routes

In every state that the threads of an endpoint can reach, the byte counters are the sums that they
stand for, the limits hold, the two indexes are exactly the keys of the routes, and every route
leads to the adapter of its leg or waits until its leg has one. This holds for every order of the
calls, and also when `replayRoute` moves the route of a message that came in.

The endpoint does not check the ids that it is handed, and it does not look whether an id that it
takes from its own generator is free. A route is written over when the callers use an id that the
generator gives to a message that comes in later, or when the generator comes round; its bytes then
stay in the counter (`overwritten_route`). So the callers have to take the ids of the messages that
they hand over from the generator of the endpoint, and the generators must not come round.
-/

namespace NatP2P.Network.LegSystem

open List DualFrameRelayEndpoint

/-- The tables of an endpoint describe one set of routes. -/
structure Represented (e : DualFrameRelayEndpoint) : Prop where
  cachedBytes_eq : e.cachedBytes = e.routes.total DualFrameRoute.cachedBytes
  routeBytes_eq : ∀ l route, e.routes.get l = some route →
    route.cachedBytes = route.framesBySeq.total cachedFrameBytes
  cachedBytes_le : e.cachedBytes ≤ e.limits.maxBytes
  routeBytes_le : ∀ l route, e.routes.get l = some route →
    route.cachedBytes ≤ e.limits.maxRouteBytes
  routes_le : e.routes.len ≤ e.limits.maxRoutes
  ackIDs_iff : ∀ key l, e.ackIDs.get key = some l ↔
    ∃ route, e.routes.get l = some route ∧ key ∈ route.ackKeys
  incomingIDs_iff : ∀ key l, e.incomingIDs.get key = some l ↔
    ∃ route, e.routes.get l = some route ∧ route.sourceKey = some key
  /-- A route whose leg has no adapter is taken over by the next one. -/
  attached_or_waits : ∀ l route, e.routes.get l = some route →
    e.adapters.get route.kind = some route.endpoint ∨ e.adapters.get route.kind = none

theorem represented_of_sound {e : DualFrameRelayEndpoint} (hsound : Sound e)
    (hplaced : Placed [] e) : Represented e where
  cachedBytes_eq := hsound.balanced.cachedBytes_eq
  routeBytes_eq := hsound.balanced.route_eq
  cachedBytes_le := hsound.bytes_le
  routeBytes_le := hsound.routeBytes_le
  routes_le := hsound.routes_le
  ackIDs_iff := hsound.ackIDs_iff
  incomingIDs_iff := hsound.incomingIDs_iff
  attached_or_waits l route hget := (hplaced.endpoint l route hget).resolve_left not_mem_nil

/-- The id of a message was taken from the generator. -/
def HasIssuedID (logicalGen : ℕ) (f : Frame) : Prop :=
  isRelayBatchDataFrame f = true → f.messageId ≤ logicalGen

instance (logicalGen : ℕ) (f : Frame) : Decidable (HasIssuedID logicalGen f) :=
  inferInstanceAs (Decidable (_ → _))

/-- Data that is handed to the endpoint has an id from its generator. -/
def Issued (s : LegSystem) : Event → Prop
  | .handle frames => ∀ f ∈ frames, HasIssuedID s.endpoint.logicalGen f
  | _ => True

instance (s : LegSystem) : (event : Event) → Decidable (Issued s event)
  | .handle frames => inferInstanceAs (Decidable (∀ f ∈ frames, HasIssuedID _ f))
  | .step .. | .attach .. | .detach .. | .fail .. | .maintain | .close _ | .allocMessageId
  | .takeFrameId _ | .leg .. => instDecidableTrue

/-- No generator has come round behind an event. -/
def Unwrapped (s : LegSystem) (event : Event) : Prop := Bounded (s.step event).endpoint

instance (s : LegSystem) (event : Event) : Decidable (Unwrapped s event) :=
  inferInstanceAs (Decidable (Bounded _))

/-! ## Every state -/

/-- What a call may still do fits the tables. -/
def Fits (logicalGen : ℕ) (stage : FailoverStage) : Prop :=
  stage.All (fun t => t.endpoint.kind = t.kind) (fun _ _ => True) (HasIssuedID logicalGen)

/-- What holds in every state. -/
structure Inv (s : LegSystem) : Prop where
  sound : Sound s.endpoint
  placed : Placed [] s.endpoint
  calls : ∀ stage ∈ s.calls, Fits s.endpoint.logicalGen stage

section Steps

variable {s s' : LegSystem} {w : Warrant} {e e' : DualFrameRelayEndpoint}

theorem Fits.mono {stage : FailoverStage} {n n' : ℕ} (hle : n ≤ n') (h : Fits n stage) :
    Fits n' stage :=
  FailoverStage.All.mono (fun _ => id) (fun _ _ => id) (fun _ hf hdata => (hf hdata).trans hle) h

/-- The routes that a loop takes along have the leg of their adapter. -/
theorem kind_of_born {job : ReplayJob} (hregistered : Registered e) (h : Born w e e' job) :
    job.ticket.endpoint.kind = job.ticket.kind := by
  obtain ⟨between, l, hchanges, -, hmem⟩ := h
  unfold replayJob at hmem
  split at hmem
  · cases hmem
  · next route hget =>
    obtain rfl := mem_singleton.mp hmem
    exact ((hregistered.changes hchanges).endpoint_known l route hget).1

/-- What a call does when it goes on keeps the tables sound, and what is left of it fits them. -/
theorem Inv.resumes {m : FailoverMoment} {stage stage' : FailoverStage} (h : Inv s)
    (hstage : Fits s.endpoint.logicalGen stage) (hresumes : Resumes s m stage (s', stage'))
    (hbounded : Bounded s'.endpoint) : Inv s' ∧ Fits s'.endpoint.logicalGen stage' := by
  cases hresumes with
  | stays hpart => exact ⟨{ h with }, hpart _ _ _ hstage⟩
  | wrote hpart => exact ⟨{ h with }, (hpart _ _ _ hstage).2⟩
  | changed hwarrant hdone hpart =>
    have hle := Changes.logicalGen_le hdone.changes
    have hsound := h.sound.changes (fun l hl => absurd hl (hwarrant.opens l)) hdone.changes hbounded
    refine ⟨⟨hsound, hdone.placed, fun c hc => (h.calls c hc).mono hle⟩, ?_⟩
    refine hpart _ _ _ (hstage.mono hle) fun job hjob => ⟨?_, fun _ _ => trivial⟩
    exact kind_of_born h.placed.toRegistered (hdone.born job hjob)
  | handled hchanges hframes hclose hsame hpart =>
    have hle := Changes.logicalGen_le hchanges
    have hsound := h.sound.changes (fun l hl => by
      rw [hl.1]
      exact hframes _ _ _ hstage _ mem_cons_self hl.2) hchanges hbounded
    have hplaced := h.placed.changes hchanges
    refine ⟨⟨hsound, hplaced, fun c hc => (h.calls c hc).mono hle⟩, ?_⟩
    exact hpart _ _ _ (hstage.mono hle) fun route hget =>
      ⟨(hplaced.endpoint_known _ route hget).1, fun _ _ => trivial⟩
  | collected hchanges hresolves hpart =>
    have hle := Changes.logicalGen_le hchanges
    exact ⟨⟨h.sound.changes (fun _ hl => False.elim hl) hchanges hbounded,
      h.placed.changes hchanges, fun c hc => (h.calls c hc).mono hle⟩, hpart _ _ _⟩
  | @installed kind stream e jobs stage' hdone hpart =>
    have hle : (s.endpoint.enterAdapter kind stream).logicalGen ≤ e.logicalGen :=
      Changes.logicalGen_le hdone.changes
    have hsound := (h.sound.enterAdapter kind stream).changes (fun _ hl => False.elim hl)
      hdone.changes hbounded
    refine ⟨⟨hsound, hdone.placed, ?_⟩, ?_⟩
    · exact forall_mem_append.mpr
        ⟨fun c hc => (h.calls c hc).mono hle, forall_mem_singleton.mpr trivial⟩
    · refine hpart _ _ _ fun job hjob => ⟨?_, fun _ _ => trivial⟩
      exact kind_of_born (h.placed.toRegistered.enterAdapter kind stream) (hdone.born job hjob)

theorem Inv.begin (h : Inv s) {stage : FailoverStage} (hstage : Fits s.endpoint.logicalGen stage) :
    Inv (s.begin stage) :=
  { h with
    calls := forall_mem_append.mpr ⟨h.calls, forall_mem_singleton.mpr hstage⟩ }

/-- Something changes the tables without a call. -/
theorem Inv.changes (h : Inv s) (hendpoint : Changes .strict s.endpoint s'.endpoint)
    (hcalls : s'.calls = s.calls) (hbounded : Bounded s'.endpoint) : Inv s' where
  sound := h.sound.changes (fun _ hl => False.elim hl) hendpoint hbounded
  placed := h.placed.changes hendpoint
  calls c hc := (h.calls c (hcalls ▸ hc)).mono (Changes.logicalGen_le hendpoint)

theorem Inv.step (h : Inv s) {event : Event} (hissued : Issued s event)
    (hbounded : Unwrapped s event) : Inv (s.step event) := by
  unfold Unwrapped at hbounded
  cases event with
  | step i m =>
    cases hget : s.calls[i]? with
    | none => exact (step_no_call hget).symm ▸ h
    | some stage =>
      rw [step_call hget] at hbounded ⊢
      have hstage := h.calls stage (mem_of_getElem? hget)
      obtain ⟨hinv, hfits⟩ := h.resumes hstage (resume_cases h.sound h.placed
        (FailoverStage.All.mono (fun _ => id) (fun _ _ => id) (fun _ _ => trivial) hstage)) hbounded
      refine ⟨hinv.sound, hinv.placed, fun c hc => ?_⟩
      rcases mem_or_eq_of_mem_set hc with hold | rfl
      · exact hinv.calls c hold
      · exact hfits
  | handle frames => exact h.begin hissued
  | attach | detach | fail | maintain => exact h.begin trivial
  | close order => exact h.changes changes_close rfl hbounded
  | allocMessageId => exact h.changes (.single .alloc) rfl hbounded
  | takeFrameId stream => exact h.changes (.single .takeFrameId) rfl hbounded
  | leg id stream => exact { h with }

end Steps

theorem Inv.new (limits : RouteLimits) (frameIdGen : ℕ → ℕ) : Inv (new limits frameIdGen) where
  sound :=
    { balanced := ⟨rfl, fun _ _ hget => nomatch hget⟩
      routeBytes_le := fun _ _ hget => nomatch hget
      bytes_le := Int.natCast_nonneg _
      routes_le := Nat.zero_le _
      ackIDs_iff := fun _ _ => ⟨(nomatch ·), fun ⟨_, hget, _⟩ => nomatch hget⟩
      incomingIDs_iff := fun _ _ => ⟨(nomatch ·), fun ⟨_, hget, _⟩ => nomatch hget⟩
      logical_le := fun _ _ hget => nomatch hget
      ackID_le := fun _ _ hget => nomatch hget }
  placed :=
    { adapter_known := fun _ _ hget => nomatch hget
      endpoint_known := fun _ _ hget => nomatch hget
      source_known := fun _ _ _ hget => nomatch hget
      endpoint := fun _ _ hget => nomatch hget
      source := fun _ _ _ hget => nomatch hget }
  calls _ hc := nomatch hc

theorem inv_run (limits : RouteLimits) (frameIdGen : ℕ → ℕ) (events : List Event)
    (hissued : Along stepOutput Issued (new limits frameIdGen) events)
    (hbounded : Along stepOutput Unwrapped (new limits frameIdGen) events) :
    Inv (run limits frameIdGen events) :=
  runSteps_along (along_and hissued hbounded) (Inv.new limits frameIdGen) fun _ _ hevent h =>
    h.step hevent.1 hevent.2

/-- In every state that the calls of an endpoint reach, in any order and with any failures, its
tables describe one set of routes, if the callers hand over data under ids of its generator and no
generator comes round. -/
theorem run_represented (limits : RouteLimits) (frameIdGen : ℕ → ℕ) (events : List Event)
    (hissued : Along stepOutput Issued (new limits frameIdGen) events)
    (hbounded : Along stepOutput Unwrapped (new limits frameIdGen) events) :
    Represented (run limits frameIdGen events).endpoint := by
  have h := inv_run limits frameIdGen events hissued hbounded
  exact represented_of_sound h.sound h.placed

/-! ## A leg that fails -/

/-- Loops meet keys in the order of numbers for them. -/
def sortedBy {K : Type*} (number : K → ℕ) (hnumber : Function.Injective number) : GoMap.Order K :=
  letI := LinearOrder.lift' number hnumber
  { visit := fun keys => keys.sort (· ≤ ·)
    nodup := fun _ => Finset.sort_nodup ..
    mem_visit := fun _ _ => Finset.mem_sort _ }

/-- A number for each leg. -/
def legNumber : LegID → ℕ
  | ⟨.tcp, n⟩ => 2 * n
  | ⟨.kcp, n⟩ => 2 * n + 1

theorem legNumber_injective : Function.Injective legNumber := by
  rintro ⟨_ | _, n⟩ ⟨_ | _, n'⟩ h
  all_goals
    simp only [legNumber] at h
    first
      | omega
      | rw [show n = n' by omega]

/-- A TCP leg. -/
def sampleLeg (number : ℕ) : LegID := ⟨.tcp, number⟩

/-- A moment at which the first leg is preferred to the second one. -/
def sampleMoment (ok : Bool) (read : Option Frame) : FailoverMoment where
  now := 0
  read
  cancelled := false
  ok
  written := 0
  views _ := ⟨some (sampleLeg 0), [sampleLeg 0, sampleLeg 1], 0⟩
  order := sortedBy id Function.injective_id
  legs := sortedBy legNumber legNumber_injective
  rate _ _ := 0
  fraction _ := 0

/-- The first leg is on stream 0 and the second one on stream 1. Their `AttachStream` are calls 0
and 2, their `collect` calls 1 and 3. -/
def sampleLegs : List Event :=
  [.leg (sampleLeg 0) (some 0), .attach (sampleLeg 0) 0] ++
    List.replicate 4 (.step 0 (sampleMoment true none)) ++
  [.leg (sampleLeg 1) (some 1), .attach (sampleLeg 1) 1] ++
    List.replicate 4 (.step 2 (sampleMoment true none))

/-- A data frame of a message of one frame. -/
def sampleData (messageId : ℕ) : Frame := ⟨messageId, 0, 1, 0, frameTypeData, [9], [5]⟩

/-- A message goes out over the first leg, which fails, and then over the second one. -/
def sampleFailure : List Event :=
  sampleLegs ++ [.allocMessageId, .handle [sampleData 1], .step 4 (sampleMoment true none)] ++
    List.replicate 4 (.step 4 (sampleMoment false none)) ++
    List.replicate 4 (.step 4 (sampleMoment true none))

/-- The route of the message has moved to the second leg, the frame was written there, and the
tables agree. -/
theorem run_represented_failure :
    ((run .default (fun _ => 0) sampleFailure).endpoint.routes.get 1).map
        (fun route => route.endpoint.stream) = some 1 ∧
      (run .default (fun _ => 0) sampleFailure).written.map (fun w => w.adapter.stream) = [1] ∧
      Represented (run .default (fun _ => 0) sampleFailure).endpoint :=
  ⟨by decide +kernel, by decide +kernel, run_represented _ _ _ (by decide +kernel) (by decide +kernel)⟩

/-! ## A route that is written over -/

/-- A message goes out under id 1, and behind it one comes in over the first leg. -/
def sampleOverwritten : List Event :=
  sampleLegs ++ [.handle [sampleData 1], .step 4 (sampleMoment true none),
    .step 1 (sampleMoment true (some (sampleData 7)))]

theorem runSteps_allocMessageId (s : LegSystem) (n : ℕ) :
    (runSteps stepOutput s (replicate n .allocMessageId)).1 =
      { s with
        endpoint := { s.endpoint with logicalGen := s.endpoint.logicalGen + n }
        allocated := s.allocated ++
          (range n).map fun i => FrameIdGenerator.next (s.endpoint.logicalGen + i) } := by
  induction n with
  | zero =>
    rw [range_zero, map_nil, append_nil]
    rfl
  | succ n ih =>
    rw [replicate_succ', runSteps_concat, ih, range_succ, map_append, ← append_assoc]
    rfl

/-- The bytes of the message that went out are counted, and no route has them. In the first run
nobody has called `AllocMessageId`, so the endpoint gives id 1 to the message that comes in. In the
second one id 1 was allocated, but with it all other ids, and id 1 is the next one. -/
theorem overwritten_route :
    let s := run .default (fun _ => 0) sampleOverwritten
    let s' := run .default (fun _ => 0) (replicate (2 ^ 64) .allocMessageId ++ sampleOverwritten)
    (Along stepOutput Unwrapped (new .default fun _ => 0) sampleOverwritten ∧
      s.endpoint.cachedBytes = 169 ∧ s.endpoint.routes.total DualFrameRoute.cachedBytes = 0) ∧
    (Along stepOutput Issued (new .default fun _ => 0)
        (replicate (2 ^ 64) .allocMessageId ++ sampleOverwritten) ∧
      s'.endpoint.cachedBytes = 169 ∧
        s'.endpoint.routes.total DualFrameRoute.cachedBytes = 0) := by
  refine ⟨⟨by decide +kernel, by decide +kernel, by decide +kernel⟩, ?_, ?_, ?_⟩
  · rw [along_append, runSteps_allocMessageId]
    refine ⟨along_of_forall fun event hevent _ => ?_, by decide +kernel⟩
    rw [eq_of_mem_replicate hevent]
    trivial
  · rw [run, runSteps_append, runSteps_allocMessageId]
    decide +kernel
  · rw [run, runSteps_append, runSteps_allocMessageId]
    decide +kernel

end NatP2P.Network.LegSystem
