import NatP2P.Common.Slots
import NatP2P.Network.Failover.Effects
import NatP2P.Network.Failover.Machine

/-!
# What a call of the endpoint does in a step

A call that goes on does one of few things: it leaves the tables alone, it writes frames of a route,
or it changes the tables under the lock and may take routes along to write to. `resume_cases` says
this once for all stages, with the changes that each kind of step may make.

What a call may still do is in its stage. `FailoverStage.All` says of all routes and frames in a
stage, however deep, that they have a property.
-/

namespace NatP2P.Network

open List DualFrameRelayEndpoint

/-- All that a stage may still do: `P` of the routes that it may write to or move, `W` of the frames
that it may write there, and `Q` of the frames that it was handed and has not looked at. -/
def FailoverStage.All (P : Ticket → Prop) (W : Ticket → Frame → Prop) (Q : Frame → Prop) :
    FailoverStage → Prop
  | .done => True
  | .handing frames => ∀ f ∈ frames, Q f
  | .noticing rest => ∀ f ∈ rest, Q f
  | .writing t frames next failed =>
    (P t ∧ ∀ f ∈ frames, W t f) ∧ next.All P W Q ∧ failed.All P W Q
  | .completing t next => P t ∧ next.All P W Q
  | .replaying t next failed => P t ∧ next.All P W Q ∧ failed.All P W Q
  | .rebinding t next failed => P t ∧ next.All P W Q ∧ failed.All P W Q
  | .sending t frames next failed =>
    (P t ∧ ∀ f ∈ frames, W t f) ∧ next.All P W Q ∧ failed.All P W Q
  | .checking t frames next failed =>
    (P t ∧ ∀ f ∈ frames, W t f) ∧ next.All P W Q ∧ failed.All P W Q
  | .checked t frame frames next failed =>
    (P t ∧ ∀ f ∈ frame :: frames, W t f) ∧ next.All P W Q ∧ failed.All P W Q
  | .leaving _ _ next => next.All P W Q
  | .detached _ _ next => next.All P W Q
  | .attaching _ _ => True
  | .looking _ _ => True
  | .installing _ _ => True
  | .attached _ _ => True
  | .abandoning _ _ => True
  | .collecting _ _ => True
  | .delivering _ _ _ => True
  | .maintaining => True

variable {stage next : FailoverStage}

section All

variable {P P' : Ticket → Prop} {W W' : Ticket → Frame → Prop} {Q Q' : Frame → Prop}
  {jobs : List ReplayJob}

theorem FailoverStage.All.mono (hP : ∀ t, P t → P' t)
    (hW : ∀ t f, W t f → W' t f) (hQ : ∀ f, Q f → Q' f) (h : stage.All P W Q) :
    stage.All P' W' Q' := by
  have hframes : ∀ {t} {frames : List Frame}, (P t ∧ ∀ f ∈ frames, W t f) → P' t ∧ ∀ f ∈ frames, W' t f :=
    fun h => ⟨hP _ h.1, fun f hf => hW _ f (h.2 f hf)⟩
  induction stage with
  | handing frames | noticing frames => exact fun f hf => hQ f (h f hf)
  | writing t frames next failed ihnext ihfailed | sending t frames next failed ihnext ihfailed
  | checking t frames next failed ihnext ihfailed =>
    exact ⟨hframes h.1, ihnext h.2.1, ihfailed h.2.2⟩
  | replaying t next failed ihnext ihfailed | rebinding t next failed ihnext ihfailed =>
    exact ⟨hP t h.1, ihnext h.2.1, ihfailed h.2.2⟩
  | checked t frame frames next failed ihnext ihfailed =>
    exact ⟨hframes h.1, ihnext h.2.1, ihfailed h.2.2⟩
  | completing t next ih => exact ⟨hP t h.1, ih h.2⟩
  | leaving id stream next ih | detached id stream next ih => exact ih h
  | done | attaching | looking | installing | attached | abandoning | collecting | delivering
  | maintaining => trivial

theorem all_sendAll {failed : FailoverStage → FailoverStage}
    (hjobs : ∀ job ∈ jobs, P job.ticket ∧ ∀ f ∈ job.frames, W job.ticket f) (hnext : next.All P W Q)
    (hfailed : ∀ stage : FailoverStage, stage.All P W Q → (failed stage).All P W Q) :
    (LegSystem.sendAll jobs failed next).All P W Q := by
  induction jobs with
  | nil => exact hnext
  | cons job jobs ih =>
    have hrest := ih fun other hother => hjobs other (mem_cons_of_mem _ hother)
    exact ⟨hjobs job mem_cons_self, hrest, hfailed _ hrest⟩

theorem all_checkAll {failed : Ticket → FailoverStage → FailoverStage}
    (hjobs : ∀ job ∈ jobs, P job.ticket ∧ ∀ f ∈ job.frames, W job.ticket f) (hnext : next.All P W Q)
    (hfailed : ∀ t, P t → ∀ stage : FailoverStage, stage.All P W Q → (failed t stage).All P W Q) :
    (LegSystem.checkAll jobs failed next).All P W Q := by
  induction jobs with
  | nil => exact hnext
  | cons job jobs ih =>
    have hjob := hjobs job mem_cons_self
    have hrest := ih fun other hother => hjobs other (mem_cons_of_mem _ hother)
    exact ⟨hjob, hrest, hfailed job.ticket hjob.1 _ hrest⟩

end All

namespace LegSystem

/-- What `handleFrameRun` may do with the tables for a run. -/
def handleWarrant (first : Frame) (run : List Frame) : Warrant where
  moves _ := False
  caches l f := l = first.messageId ∧ f ∈ first :: run
  admits _ _ := False
  opens l := l = first.messageId ∧ isRelayBatchDataFrame first = true

/-- What `collect` may do with the tables for a frame: if it admits a message, then this one. -/
def collectWarrant (adapter : TcpFrameAdapter) (frame : Frame) (logicalID : ℕ)
    (outcome : CollectOutcome) : Warrant where
  moves _ := False
  caches _ _ := False
  admits l key := l = logicalID ∧ frame.frameType ≠ frameTypeAck ∧
    frame.frameType ≠ frameTypeConnectionClose ∧
    outcome = .passed { frame with messageId := l } ∧
    key = ⟨adapter.kind, adapter, frame.connectionId, frame.messageId⟩
  opens _ := False

/-- The frame that `collect` passes on for a message. -/
def collectedFrames (adapter : TcpFrameAdapter) (frame : Frame) :
    CollectOutcome → List CollectedFrame
  | .passed out =>
    if frame.frameType = frameTypeConnectionClose then [] else [⟨adapter, frame, out.messageId⟩]
  | _ => []

/-- What a step that moves routes may do with the tables. -/
structure Rebinds (s : LegSystem) (m : FailoverMoment) (stage : FailoverStage) (w : Warrant) :
    Prop where
  moves : ∀ route, w.moves route → Warrant.strict.moves route ∨ s.reboundRoute m stage = some route
  caches : ∀ l f, ¬ w.caches l f
  admits : ∀ l key, ¬ w.admits l key
  opens : ∀ l, ¬ w.opens l

theorem Rebinds.strict (s : LegSystem) (m : FailoverMoment) (stage : FailoverStage) :
    Rebinds s m stage .strict :=
  ⟨fun _ => .inl, fun _ _ => id, fun _ _ => id, fun _ => id⟩

/-- What a call does when it goes on. -/
inductive Resumes (s : LegSystem) (m : FailoverMoment) (stage : FailoverStage) :
    LegSystem × FailoverStage → Prop where
  /-- the tables stay, and the call goes on with a part of what it had to do -/
  | stays {legs : GoMap LegID ℕ} {delivered : List Frame} {stage' : FailoverStage}
      (hstage : ∀ P W Q, stage.All P W Q → stage'.All P W Q) :
      Resumes s m stage ({ s with legs, delivered }, stage')
  /-- frames are written -/
  | wrote {t : Ticket} {frames : List Frame} {stage' : FailoverStage}
      (hstage : ∀ P W Q, stage.All P W Q →
        (P t ∧ ∀ f ∈ frames, W t f) ∧ stage'.All P W Q) :
      Resumes s m stage (s.write t frames, stage')
  /-- the tables change, and the call takes routes along -/
  | changed {w : Warrant} {e : DualFrameRelayEndpoint} {jobs : List ReplayJob}
      {stage' : FailoverStage} (hwarrant : Rebinds s m stage w)
      (hdone : LoopDone w s.endpoint (e, jobs))
      (hstage : ∀ P W Q, stage.All P W Q →
        (∀ job ∈ jobs, P job.ticket ∧ ∀ f ∈ job.frames, W job.ticket f) → stage'.All P W Q) :
      Resumes s m stage ({ s with endpoint := e }, stage')
  /-- a run of frames has got its route -/
  | handled {first : Frame} {run : List Frame} {e : DualFrameRelayEndpoint} {stage' : FailoverStage}
      (hchanges : Changes (handleWarrant first run) s.endpoint e)
      (hframes : ∀ P W Q, stage.All P W Q → ∀ f ∈ first :: run, Q f)
      (hclose : ∀ f ∈ first :: run, f.frameType ≠ frameTypeConnectionClose)
      (hsame : ∀ f ∈ first :: run, f.messageId = first.messageId)
      (hstage : ∀ P W Q, stage.All P W Q →
        (∀ route, e.routes.get first.messageId = some route →
          P (route.ticket first.messageId) ∧
            ∀ f ∈ first :: run, W (route.ticket first.messageId) f) → stage'.All P W Q) :
      Resumes s m stage ({ s with endpoint := e }, stage')
  /-- a frame was read -/
  | collected {adapter : TcpFrameAdapter} {frame : Frame} {outcome : CollectOutcome}
      {e : DualFrameRelayEndpoint} {stage' : FailoverStage}
      (hchanges : Changes (collectWarrant adapter frame
        (FrameIdGenerator.next s.endpoint.logicalGen) outcome) s.endpoint e)
      (hresolves : ∀ out, outcome = .passed out → frame.frameType ≠ frameTypeConnectionClose →
        Resolves s.endpoint e.logicalGen adapter frame out.messageId)
      (hstage : ∀ P W Q, stage'.All P W Q) :
      Resumes s m stage
        ({ s with
          endpoint := e
          collected := s.collected ++ collectedFrames adapter frame outcome }, stage')
  /-- a leg has a new adapter -/
  | installed {kind : LegID} {stream : ℕ} {e : DualFrameRelayEndpoint} {jobs : List ReplayJob}
      {stage' : FailoverStage}
      (hdone : LoopDone .strict (s.endpoint.enterAdapter kind stream) (e, jobs))
      (hstage : ∀ P W Q, (∀ job ∈ jobs, P job.ticket ∧ ∀ f ∈ job.frames, W job.ticket f) →
        stage'.All P W Q) :
      Resumes s m stage
        ({ s with
          endpoint := e
          calls := s.calls ++ [.collecting kind (s.endpoint.nextAdapter kind stream)] }, stage')

section Cases

variable {s : LegSystem} {m : FailoverMoment} {i : ℕ} {f : Frame}

theorem step_call (hget : s.calls[i]? = some stage) :
    s.step (.step i m) = { (s.resume m stage).1 with
      calls := (s.resume m stage).1.calls.set i (s.resume m stage).2 } := by
  rw [step]
  simp only [hget]

theorem step_no_call (hget : s.calls[i]? = none) : s.step (.step i m) = s := by
  rw [step]
  simp only [hget]

/-- A step without routes to take along. -/
theorem Resumes.changes {stage' : FailoverStage} {e : DualFrameRelayEndpoint}
    (hplaced : Placed [] s.endpoint) (hchanges : Changes .strict s.endpoint e)
    (hstage : ∀ P W Q, stage.All P W Q → stage'.All P W Q) :
    Resumes s m stage ({ s with endpoint := e }, stage') :=
  .changed (.strict s m stage)
    (⟨hchanges, hplaced.changes hchanges, nofun⟩ : LoopDone .strict s.endpoint (e, []))
    fun P W Q h _ => hstage P W Q h

/-- Behind the first one, the frames of a run are data under the message id of the first one. -/
theorem frontRun_cases {first : Frame} {rest : List Frame} (h : f ∈ frontRun first rest) :
    f ∈ rest ∧ isRelayBatchDataFrame f = true ∧ f.messageId = first.messageId := by
  unfold frontRun at h
  split_ifs at h
  · have hrun := mem_takeWhile_imp h
    unfold sameRelayFrameRun at hrun
    simp only [decide_eq_true_eq] at hrun
    exact ⟨(takeWhile_sublist _).mem h, hrun.1, hrun.2.1.symm⟩
  · cases h

theorem not_close_of_data (h : isRelayBatchDataFrame f = true) :
    f.frameType ≠ frameTypeConnectionClose := by
  rcases of_decide_eq_true h with heq | heq
  · rw [heq]
    decide
  · rw [heq]
    decide

theorem resumes_handing (hplaced : Placed [] s.endpoint) (frames : List Frame) :
    Resumes s m (.handing frames) (s.resume m (.handing frames)) := by
  cases frames with
  | nil => exact .stays fun _ _ _ _ => trivial
  | cons first rest =>
    rw [resume]
    split_ifs with hclose
    · refine .changes hplaced changes_handleCloseLocked fun P W Q h => ?_
      split
      · trivial
      · exact fun f hf => h f (mem_cons_of_mem _ hf)
    · have hrun : ∀ f ∈ first :: frontRun first rest, f ∈ first :: rest :=
        forall_mem_cons.mpr ⟨mem_cons_self, fun _ hf => mem_cons_of_mem _ (frontRun_cases hf).1⟩
      have hchanges : Changes (handleWarrant first (frontRun first rest)) s.endpoint
          (s.endpoint.handleFrameRunLocked first (frontRun first rest) (m.views first.messageId)
            m.order m.now).2 :=
        changes_handleFrameRunLocked (fun hdata => ⟨rfl, hdata⟩) fun f hf => ⟨rfl, hf⟩
      refine .handled hchanges ?_ ?_ ?_ ?_
      · exact fun P W Q h f hf => h f (hrun f hf)
      · exact forall_mem_cons.mpr
          ⟨hclose, fun _ hf => not_close_of_data (frontRun_cases hf).2.1⟩
      · exact forall_mem_cons.mpr ⟨rfl, fun _ hf => (frontRun_cases hf).2.2⟩
      · intro P W Q h hticket
        have hrest : ∀ f ∈ rest.drop (frontRun first rest).length, Q f :=
          fun f hf => h f (mem_cons_of_mem _ (mem_of_mem_drop hf))
        split
        · trivial
        · exact hrest
        · next t hresult =>
          obtain ⟨route, hget, rfl⟩ := handleFrameRunLocked_ticket hresult
          have hroute := hticket route hget
          refine ⟨hroute, ?_, hroute.1, hrest, trivial⟩
          split_ifs
          · exact ⟨hroute.1, hrest⟩
          · exact hrest

/-- `replayRoute` goes on under its lock. -/
theorem resumes_rebinding (hplaced : Placed [] s.endpoint) {t : Ticket}
    {failed : FailoverStage} (hkind : t.endpoint.kind = t.kind) :
    Resumes s m (.rebinding t next failed) (s.resume m (.rebinding t next failed)) := by
  let w : Warrant :=
    { moves := fun route => s.reboundRoute m (.rebinding t next failed) = some route
      caches := fun _ _ => False
      admits := fun _ _ => False
      opens := fun _ => False }
  have hdone := @loopDone_replayRouteLocked w s.endpoint (m.views t.logicalID) t
    hplaced hkind fun route hget hjobs => by
      show s.reboundRoute m (.rebinding t next failed) = some route
      rw [reboundRoute]
      cases hmoved : (s.endpoint.replayRouteLocked t (m.views t.logicalID)).1 with
      | failed | settled =>
        rw [hmoved] at hjobs
        exact absurd rfl hjobs
      | moved jobs => exact hget
  refine .changed ⟨fun _ h => .inr h, fun _ _ => id, fun _ _ => id, fun _ => id⟩ hdone
    fun P W Q h hjobs => ?_
  cases hmoved : (s.endpoint.replayRouteLocked t (m.views t.logicalID)).1 with
  | failed => exact h.2.2
  | settled => exact h.2.1
  | moved jobs =>
    rw [hmoved] at hjobs
    exact all_sendAll hjobs h.2.1 fun _ _ => h.2.2

theorem resumes_collecting (hsound : Sound s.endpoint) (hregistered : Registered s.endpoint)
    (kind : LegID) (adapter : TcpFrameAdapter) :
    Resumes s m (.collecting kind adapter) (s.resume m (.collecting kind adapter)) := by
  rw [resume]
  split
  · refine .stays fun _ _ _ _ => ?_
    split_ifs
    · trivial
    · trivial
  · next frame _ =>
    unfold collect
    set collected := s.endpoint.collectLocked kind adapter frame m.fraction
      (m.views frame.messageId) m.order m.now with hcollected
    by_cases hattached : s.endpoint.adapters.get kind = some adapter
    case neg =>
      -- nothing happens for an adapter that is gone
      have hdetached : collected = (.detached, s.endpoint) := by
        rw [hcollected, collectLocked, if_pos (.inr hattached)]
      rw [hdetached]
      exact .stays fun _ _ _ _ => trivial
    obtain ⟨rfl, -⟩ := hregistered.adapter_known kind adapter hattached
    have hcollect := @changes_collectLocked
      (collectWarrant adapter frame (FrameIdGenerator.next s.endpoint.logicalGen) collected.1)
      s.endpoint adapter.kind adapter m.order m.now (m.views frame.messageId) m.fraction frame hsound
      hregistered fun hack hclose hpassed => ⟨rfl, hack, hclose, hpassed, rfl⟩
    rw [← hcollected] at hcollect
    obtain ⟨outcome, e⟩ := collected
    have hresumes := fun stage' => @Resumes.collected s m (.collecting adapter.kind adapter) adapter
      frame outcome e stage' hcollect.1 hcollect.2
    cases outcome with
    | detached | refused =>
      simpa [collectedFrames] using hresumes .done fun _ _ _ => trivial
    | dropped =>
      simpa [collectedFrames] using hresumes (.collecting adapter.kind adapter) fun _ _ _ => trivial
    | passed out =>
      have hresult := hresumes (.delivering out adapter.kind adapter) fun _ _ _ => trivial
      unfold collectedFrames at hresult
      split_ifs at hresult ⊢
      · simpa using hresult
      · exact hresult

/-- `AttachStream` goes on under its second lock. -/
theorem resumes_installing (hplaced : Placed [] s.endpoint) (kind : LegID) (stream : ℕ) :
    Resumes s m (.installing kind stream) (s.resume m (.installing kind stream)) := by
  rw [resume, install]
  split_ifs
  · exact .stays fun _ _ _ _ => trivial
  · exact .stays fun _ _ _ _ => trivial
  · refine .installed (Loop.installLocked hplaced kind stream).finished ?_
    exact fun P W Q hjobs => all_checkAll hjobs trivial fun _ _ _ _ => trivial

theorem mem_cons_of_mem_singleton {frame : Frame} {frames : List Frame} (h : f ∈ [frame]) :
    f ∈ frame :: frames :=
  mem_singleton.mp h ▸ mem_cons_self

/-- What a call does when it goes on, whatever it is doing. -/
theorem resume_cases (hsound : Sound s.endpoint) (hplaced : Placed [] s.endpoint)
    (hkind : stage.All (fun t => t.endpoint.kind = t.kind) (fun _ _ => True) fun _ => True) :
    Resumes s m stage (s.resume m stage) := by
  cases stage with
  | done => exact .stays fun _ _ _ _ => trivial
  | handing frames => exact resumes_handing hplaced frames
  | noticing rest =>
    refine .stays fun P W Q h => ?_
    split_ifs
    · exact h
    · trivial
  | writing t frames next failed =>
    rw [resume]
    split_ifs
    · exact .wrote fun P W Q h => ⟨h.1, h.2.1⟩
    · exact .wrote fun P W Q h => ⟨⟨h.1.1, fun f hf => h.1.2 f (mem_of_mem_take hf)⟩, h.2.2⟩
  | completing t next =>
    exact .changes hplaced changes_completeWritten fun P W Q h => h.2
  | replaying t next failed =>
    refine .stays fun P W Q h => ?_
    split_ifs
    · exact h
    · exact h
  | rebinding t next failed => exact resumes_rebinding hplaced hkind.1
  | sending t frames next failed =>
    cases frames with
    | nil => exact .stays fun P W Q h => h.2.1
    | cons frame frames =>
      rw [resume]
      split_ifs
      · exact .wrote fun P W Q h => ⟨⟨h.1.1, fun f hf => h.1.2 f (mem_cons_of_mem_singleton hf)⟩,
          ⟨h.1.1, fun f hf => h.1.2 f (mem_cons_of_mem _ hf)⟩, h.2⟩
      · exact .wrote fun P W Q h => ⟨⟨h.1.1, fun f hf =>
          h.1.2 f (mem_cons_of_mem_singleton (mem_of_mem_take hf))⟩, h.2.2⟩
  | checking t frames next failed =>
    cases frames with
    | nil => exact .stays fun P W Q h => h.2.1
    | cons frame frames =>
      refine .stays fun P W Q h => ?_
      split_ifs
      · exact h
      · exact h.2.1
  | checked t frame frames next failed =>
    rw [resume]
    split_ifs
    · exact .wrote fun P W Q h => ⟨⟨h.1.1, fun f hf => h.1.2 f (mem_cons_of_mem_singleton hf)⟩,
        ⟨h.1.1, fun f hf => h.1.2 f (mem_cons_of_mem _ hf)⟩, h.2⟩
    · exact .wrote fun P W Q h => ⟨⟨h.1.1, fun f hf =>
        h.1.2 f (mem_cons_of_mem_singleton (mem_of_mem_take hf))⟩, h.2.2⟩
  | leaving id stream next =>
    rw [resume]
    split_ifs <;> exact .stays fun P W Q h => h
  | detached id stream next =>
    refine .changed (.strict s m _) (loopDone_onLegDetachedLocked hplaced) ?_
    exact fun P W Q h hjobs => all_sendAll hjobs h fun _ hstage => hstage
  | attaching | looking | attached | abandoning =>
    refine .stays fun P W Q h => ?_
    split_ifs <;> trivial
  | installing kind stream => exact resumes_installing hplaced kind stream
  | collecting kind adapter => exact resumes_collecting hsound hplaced.toRegistered kind adapter
  | delivering frame kind adapter =>
    rw [resume]
    split_ifs <;> exact .stays fun _ _ _ _ => trivial
  | maintaining =>
    refine .changed (.strict s m _) (loopDone_maintainRoutesLocked hplaced) ?_
    exact fun P W Q _ hjobs => all_checkAll hjobs trivial fun t ht stage hstage =>
      ⟨ht, hstage, hstage⟩

end Cases

end LegSystem

end NatP2P.Network
