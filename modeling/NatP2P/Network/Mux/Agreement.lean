import NatP2P.Network.Mux.Incarnations

/-!
# The two ends agree

For one incarnation the two ends of a session are the parties of a `Lifecycle`: the half of an end
is its table entry, OPEN frames are announcements and CLOSE frames are notices, and what the
goroutines have still to write or to drop are the duties. As long as the sessions are open and ids
are opened with care, every step of the machine is one that a party may take. When nothing is left
to do, both ends have the stream or none of them has it.
-/

namespace NatP2P.Network

open List GoMap MuxSession MuxStream MuxAction Lifecycle

/-- What a frame tells the other end about its stream. -/
def MuxFrameType.signal : MuxFrameType → Option Signal
  | .muxFrameOpen => some .announcement
  | .muxFrameData => none
  | .muxFrameClose => some .notice

/-- The duty to write a frame. -/
def MuxFrameType.duty : MuxFrameType → Option Duty
  | .muxFrameOpen => some .announce
  | .muxFrameData => none
  | .muxFrameClose => some .notify

/-- The duty to drop a stream. -/
def DropCause.duty : DropCause → Duty
  | .openFailed => .undo
  | .closing => .withdraw
  | .closedByPeer => .follow

/-- What a goroutine has to do for an incarnation. -/
def MuxAction.duty (x : Incarnation) : MuxAction → Option Duty
  | .write frame => if frame.stream = x then frame.typ.duty else none
  | .physicalWrite frame => if frame.stream = x then frame.typ.duty else none
  | .dropStream y cause => if y = x then some cause.duty else none
  | _ => none

/-- The signals about an incarnation. -/
def signals (x : Incarnation) (frames : List MuxFrame) : List Signal :=
  frames.filterMap fun frame => if frame.stream = x then frame.typ.signal else none

namespace MuxSession

variable {m m' n : MuxSession} {task : ℕ} {x y : Incarnation} {frame : MuxFrame} {q : Party}
  {action : MuxAction} {rest rest' : List MuxAction} {ok : Bool} {w frames : List MuxFrame}
  {stage : Stage} {cause : DropCause}

/-- How often the goroutines have a duty for an incarnation. -/
def duties (m : MuxSession) (x : Incarnation) (d : Duty) : ℕ :=
  m.tasks.flatten.countP fun action => action.duty x = some d

/-- An end as a party, with the frames it has sent. -/
def party (m : MuxSession) (x : Incarnation) (sent : List MuxFrame) : Party where
  stage := (m.objects.get x).map MuxStream.stage
  present := m.streams.get x.id = some x
  wire := signals x sent
  duties := m.duties x

/-! ## Duties -/

theorem countP_singleton_duty (a : MuxAction) (d : Duty) :
    [a].countP (·.duty x = some d) = weight (a.duty x) d := by
  simp [weight, countP_cons]

/-- A goroutine does what it has to do next and then has `new` to do before the rest. -/
theorem moves_setTask {next : Option Duty} (new : List MuxAction)
    (hget : m.tasks[task]? = some (action :: rest)) (htasks : m'.tasks = m.tasks)
    (hrest : ∀ d, rest'.countP (·.duty x = some d) = rest.countP (·.duty x = some d))
    (hnew : ∀ d, new.countP (·.duty x = some d) = weight next d) :
    Moves (m.duties x) ((m'.setTask task (new ++ rest')).duties x) (action.duty x) next := by
  intro d
  have hmove := countP_flatten_set hget (new ++ rest') (·.duty x = some d)
  rw [countP_append, hnew, hrest, ← singleton_append, countP_append,
    countP_singleton_duty, ← htasks] at hmove
  simp only [duties, setTask, ← htasks]
  omega

/-- Leaving out chunks of a `Write` changes no duty. -/
theorem countP_dropWhile_writesData (rest : List MuxAction) (d : Duty) :
    (rest.dropWhile MuxAction.writesData).countP (·.duty x = some d) =
      rest.countP (·.duty x = some d) := by
  have hzero : (rest.takeWhile writesData).countP (·.duty x = some d) = 0 := by
    refine countP_eq_zero.mpr fun a ha => ?_
    have hdata := mem_takeWhile_imp ha
    cases a with
    | write frame => simp_all [writesData, duty, MuxFrameType.duty]
    | _ => cases hdata
  conv_rhs => rw [← takeWhile_append_dropWhile (p := writesData) (l := rest)]
  rw [countP_append, hzero, Nat.zero_add]

theorem duties_spawn (todo : List MuxAction) (d : Duty) (htasks : m'.tasks = m.tasks) :
    (m'.spawn todo).duties x d = m.duties x d + todo.countP (·.duty x = some d) := by
  simp only [duties, spawn, htasks, flatten_append, countP_append, flatten_singleton]

/-! ## The steps of a goroutine -/

theorem stage_modifyStream {f : MuxStream → MuxStream} (hf : ∀ o, (f o).stage = o.stage) :
    ((m.modifyStream y f).objects.get x).map MuxStream.stage = (m.objects.get x).map MuxStream.stage := by
  rw [get_modifyStream]
  split_ifs with hx
  · rw [Option.map_map, hx]
    exact congrArg (Option.map · _) (funext hf)
  · rfl

/-- The stage of a stream is noted when its OPEN frame is done with. -/
theorem stage_note : ((m.note frame stage).objects.get x).map MuxStream.stage =
    if x = frame.stream ∧ frame.typ = .muxFrameOpen then
      ((m.objects.get x).map MuxStream.stage).map fun _ => stage
    else (m.objects.get x).map MuxStream.stage := by
  unfold note
  by_cases htyp : frame.typ = .muxFrameOpen
  · rw [if_pos htyp, get_modifyStream]
    by_cases hx : x = frame.stream
    · simp only [hx, htyp, and_self, if_true, Option.map_map]
      rfl
    · simp only [hx, false_and, if_false]
  · simp only [htyp, and_false, if_false]

theorem Steady.present (h : Steady m m') :
    m'.streams.get x.id = some x ↔ m.streams.get x.id = some x := by
  rw [h.streams]

theorem evolves_same (new : List MuxAction) (frames : List MuxFrame)
    (hget : m.tasks[task]? = some (action :: rest)) (htasks : m'.tasks = m.tasks)
    (hstage : (m'.objects.get x).map MuxStream.stage = (m.objects.get x).map MuxStream.stage)
    (hpresent : m'.streams.get x.id = some x ↔ m.streams.get x.id = some x)
    (hrest : ∀ d, rest'.countP (·.duty x = some d) = rest.countP (·.duty x = some d))
    (hnew : ∀ d, new.countP (·.duty x = some d) = weight (action.duty x) d)
    (hframes : signals x frames = []) :
    Evolves (m.party x w) q ((m'.setTask task (new ++ rest')).party x (w ++ frames)) q := by
  refine .inl ⟨Party.ext hstage (propext hpresent) ?_ (funext fun d => ?_), rfl⟩
  · show signals x (w ++ frames) = signals x w
    rw [signals, filterMap_append]
    exact (congrArg _ hframes).trans (append_nil _)
  · exact Nat.add_right_cancel (moves_setTask new hget htasks hrest hnew d)

/-- The steps that concern no incarnation as a whole. -/
theorem evolves_quiet (new : List MuxAction) (hget : m.tasks[task]? = some (action :: rest))
    (h : Steady m m')
    (hstage : (m'.objects.get x).map MuxStream.stage = (m.objects.get x).map MuxStream.stage)
    (hnew : ∀ d, new.countP (·.duty x = some d) = weight (action.duty x) d) :
    Evolves (m.party x w) q ((m'.setTask task (new ++ rest)).party x (w ++ [])) q :=
  evolves_same new [] hget h.tasks hstage h.present (fun _ => rfl) hnew rfl

/-- A frame waits for the write gate, gets it, or is given up. A CLOSE frame is not given up. -/
theorem evolves_beginWrite (hget : m.tasks[task]? = some (.write frame :: rest))
    (hclose : ok = false → frame.typ ≠ .muxFrameClose) :
    Evolves (m.party x w) q (((m.beginWrite frame ok rest).session.setTask task
      (m.beginWrite frame ok rest).todo).party x (w ++ (m.beginWrite frame ok rest).sent)) q := by
  unfold beginWrite
  split_ifs with hok
  · exact evolves_quiet [.write frame] hget (.refl m) rfl (countP_singleton_duty _)
  · exact evolves_quiet [.physicalWrite frame] hget ⟨rfl, rfl, rfl, .refl m⟩ rfl
      (countP_singleton_duty _)
  · cases htyp : frame.typ with
    | muxFrameClose => exact absurd htyp (hclose (by simpa using hok))
    | muxFrameData =>
      simp only [Outcome.quiet, afterError, htyp]
      exact evolves_same [] [] hget steady_note.tasks (by simp [stage_note, htyp])
        steady_note.present        (countP_dropWhile_writesData rest) (by simp [duty, htyp, MuxFrameType.duty]) rfl
    | muxFrameOpen =>
      simp only [Outcome.quiet, afterError, htyp]
      by_cases hx : frame.stream = x
      · subst hx
        have hduty : (write frame).duty frame.stream = some .announce := by
          simp [duty, htyp, MuxFrameType.duty]
        refine .inr (.fail ?_ steady_note.present (by simp [party]) ?_)
        · intro hopening
          show ((m.note frame .failed).objects.get frame.stream).map stage = _
          rw [stage_note, if_pos ⟨rfl, htyp⟩, show (m.objects.get frame.stream).map _ = _ from hopening]
          rfl
        · rw [← hduty]
          exact moves_setTask [.dropStream frame.stream .openFailed] hget steady_note.tasks (fun _ => rfl)
            fun d => (countP_singleton_duty _ d).trans (by rw [duty, if_pos rfl]; rfl)
      · exact evolves_same [.dropStream frame.stream .openFailed] [] hget steady_note.tasks
          (by simp [stage_note, Ne.symm hx]) steady_note.present (fun _ => rfl) (by simp [duty, hx]) rfl

theorem evolves_finishWrite (hget : m.tasks[task]? = some (.physicalWrite frame :: rest)) :
    Evolves (m.party x w) q
      (((m.note frame .established).releaseGate.setTask task rest).party x (w ++ [frame])) q := by
  have hsteady : Steady m (m.note frame .established).releaseGate := steady_note.releaseGate
  have hpresent := hsteady.present (x := x)
  have hstage : ((m.note frame .established).releaseGate.objects.get x).map stage = _ :=
    stage_note
  by_cases hx : frame.stream = x
  · subst hx
    have hmoves : Moves (m.duties frame.stream) _ ((physicalWrite frame).duty frame.stream) none :=
      moves_setTask [] hget hsteady.tasks (fun _ => rfl) fun _ => rfl
    rw [duty, if_pos rfl] at hmoves
    cases htyp : frame.typ with
    | muxFrameOpen =>
      rw [htyp] at hmoves
      refine .inr (.announce (fun hopening => ?_) hpresent ?_ hmoves)
      · rw [if_pos ⟨rfl, htyp⟩, show (m.objects.get frame.stream).map _ = _ from hopening] at hstage
        exact hstage
      · simp [party, signals, htyp, MuxFrameType.signal]
    | muxFrameClose =>
      rw [htyp] at hmoves
      refine .inr (.notify ?_ hpresent ?_ hmoves)
      · exact hstage.trans (if_neg (by simp [htyp]))
      · simp [party, signals, htyp, MuxFrameType.signal]
    | muxFrameData =>
      exact evolves_same [] [frame] hget hsteady.tasks (hstage.trans (if_neg (by simp [htyp]))) hpresent
        (fun _ => rfl) (by simp [duty, htyp, MuxFrameType.duty])
        (by simp [signals, htyp, MuxFrameType.signal])
  · exact evolves_same [] [frame] hget hsteady.tasks (hstage.trans (if_neg fun h => hx h.1.symm)) hpresent
      (fun _ => rfl) (by simp [duty, hx]) (by simp [signals, hx])

/-- What a duty leads to when a stream is dropped. -/
theorem countP_afterDrop (d : Duty) : (afterDrop x cause).countP (·.duty x = some d) =
    weight (if cause.duty = .withdraw then some .notify else none) d := by
  cases cause <;> simp [afterDrop, DropCause.duty, duty, MuxFrameType.duty, weight,
    countP_cons]

/-- A stream is dropped. The one that has the id is the one that is meant. -/
theorem evolves_dropStream (h : m.Sound) (hget : m.tasks[task]? = some (.dropStream y cause :: rest))
    (hsingle : ∀ z, m.Mentions z → z.id = y.id → z = y) :
    Evolves (m.party x w) q (((m.dropStream y cause rest).session.setTask task
      (m.dropStream y cause rest).todo).party x (w ++ (m.dropStream y cause rest).sent)) q := by
  -- in both cases the entry is gone afterwards, and nothing else has changed
  obtain ⟨m', first, effects, hout, hfirst, htasks, hobjects, hpresent⟩ :
      ∃ (m' : MuxSession) (first : List MuxAction) (effects : List MuxEffect),
      m.dropStream y cause rest = ⟨m', first ++ afterDrop y cause ++ rest, [], effects⟩ ∧
      (∀ z d, first.countP (·.duty z = some d) = 0) ∧ m'.tasks = m.tasks ∧ m'.objects = m.objects ∧
      ∀ z, m'.streams.get z.id = some z ↔ m.streams.get z.id = some z ∧ z ≠ y := by
    unfold dropStream
    cases hy : m.streams.get y.id with
    | none =>
      refine ⟨m, [], [], rfl, fun _ _ => rfl, rfl, rfl, fun z => (and_iff_left_of_imp ?_).symm⟩
      rintro hz rfl
      rw [hy] at hz
      cases hz
    | some z =>
      obtain rfl := hsingle z (h.mentions_of_get hy) (h.table _ z hy)
      refine ⟨{ m with streams := m.streams.delete z.id }, [.closeLocal z], [⟨z, z⟩], rfl,
        by simp [MuxAction.duty], rfl, rfl, fun z' => ?_⟩
      rw [get_delete]
      by_cases hid : z'.id = z.id
      · simp only [hid, if_true, hy, Option.some.injEq, reduceCtorEq, false_iff, not_and, not_not]
        exact Eq.symm
      · rw [if_neg hid]
        exact (and_iff_left fun heq => hid (congrArg Incarnation.id heq)).symm
  simp only [hout]
  have hstage : ∀ z, (m'.objects.get z).map stage = (m.objects.get z).map stage :=
    fun _ => by rw [hobjects]
  by_cases hx : y = x
  · subst hx
    have hmoves := moves_setTask (first ++ afterDrop y cause) hget htasks (fun _ => rfl) fun d => by
      rw [countP_append, hfirst, Nat.zero_add, countP_afterDrop]
    have hgone : ¬ m'.streams.get y.id = some y := fun hp => ((hpresent y).mp hp).2 rfl
    rw [show (MuxAction.dropStream y cause).duty y = some cause.duty from if_pos rfl] at hmoves
    have hwire : signals y (w ++ []) = signals y w := by rw [append_nil]
    cases cause with
    | openFailed => exact .inr (.undo (hstage y) hgone hwire hmoves)
    | closing => exact .inr (.withdraw (hstage y) hgone hwire hmoves)
    | closedByPeer => exact .inr (.follow (hstage y) hgone hwire hmoves)
  · refine evolves_same _ [] hget htasks (hstage x) ?_ (fun _ => rfl) (fun d => ?_) rfl
    · rw [hpresent x]
      exact and_iff_left (Ne.symm hx)
    · rw [countP_append, hfirst]
      cases cause <;> simp [afterDrop, MuxAction.duty, hx]

/-- Every step of a goroutine, as long as nobody closes the session and no CLOSE frame is given
up. -/
theorem evolves_perform (h : m.Sound) (hopen : m.Open)
    (hget : m.tasks[task]? = some (action :: rest)) (order : GoMap.Order Bytes)
    (hsingle : ∀ y z, m.Mentions y → m.Mentions z → y.id = z.id → y = z)
    (hclose : ∀ frame, action = .write frame → ok = false → frame.typ ≠ .muxFrameClose)
    (hopen' : ((m.perform order ok rest action).session.setTask task
      (m.perform order ok rest action).todo).Open) :
    Evolves (m.party x w) q (((m.perform order ok rest action).session.setTask task
      (m.perform order ok rest action).todo).party x (w ++ (m.perform order ok rest action).sent)) q := by
  -- an action that has no duty to this stream
  have hdone : ∀ {m' : MuxSession}, action.duty x = none → Steady m m' →
      (m'.objects.get x).map stage = (m.objects.get x).map stage →
      Evolves (m.party x w) q ((m'.setTask task rest).party x (w ++ [])) q :=
    fun hduty hsteady hstage => evolves_quiet [] hget hsteady hstage (by simp [hduty])
  cases action with
  | write frame => exact evolves_beginWrite hget (hclose frame rfl)
  | physicalWrite frame =>
    cases ok with
    | true => exact evolves_finishWrite hget
    | false =>
      -- a failed write would close the session
      have htask : (m.note frame .failed).releaseGate.tasks[task]? = some (.physicalWrite frame :: rest) :=
        (congrArg (·[task]?) steady_note.releaseGate.tasks).trans hget
      exact absurd (mem_flatten_of_getElem? (getElem?_set_of_some htask) mem_cons_self) hopen'.2
  | dropStream y cause =>
    exact evolves_dropStream h hget fun z hz hid => hsingle z y hz (mentions_of_pending hget rfl) hid
  | closeLocal y => exact hdone rfl steady_closeLocal (stage_modifyStream fun _ => rfl)
  | offer y =>
    unfold perform
    split_ifs
    · exact hdone rfl ⟨rfl, rfl, rfl, .refl m⟩ rfl
    · exact hdone rfl (.refl m) rfl
    · exact evolves_quiet [.offer y] hget (.refl m) rfl fun _ => rfl
  | deliverSeq y frame =>
    simp only [perform, deliverSeq]
    split
    · exact hdone rfl (.refl m) rfl
    · split_ifs
      · exact hdone rfl (.refl m) rfl
      · exact hdone rfl (steady_modifyStream fun _ => id) (stage_modifyStream fun _ => rfl)
      · exact hdone rfl (.refl m) rfl
      · exact evolves_quiet [.appendBuf y frame] hget (.refl m) rfl fun _ => rfl
  | appendBuf y frame =>
    simp only [perform, appendBuf]
    split_ifs
    · exact hdone rfl (.refl m) rfl
    · exact hdone rfl (steady_modifyStream fun _ => id) (stage_modifyStream fun _ => rfl)
  | closeSession => exact absurd (mem_flatten_of_getElem? hget mem_cons_self) hopen.2

/-! ## Calls and frames that arrive -/

theorem evolves_writeData (y : Incarnation) (data : List (ℕ × Bytes)) :
    Evolves (m.party x w) q ((m.writeData y data).party x w) q := by
  unfold writeData
  split_ifs
  · refine .inl ⟨Party.ext rfl rfl rfl (funext fun d => (duties_spawn _ d rfl).trans ?_), rfl⟩
    rw [countP_eq_zero.mpr]
    · rfl
    · rw [forall_mem_map]
      simp [duty, MuxFrameType.duty]
  · exact .inl ⟨rfl, rfl⟩

theorem evolves_closeStream (y : Incarnation) :
    Evolves (m.party x w) q ((m.closeStream y).party x w) q := by
  unfold closeStream
  split_ifs with husable
  · have hduties : ∀ d, ((m.closeLocal y).spawn [.dropStream y .closing]).duties x d =
        m.duties x d + weight (if y = x then some .withdraw else none) d := fun d =>
      (duties_spawn _ d tasks_modifyStream).trans (congrArg _ (countP_singleton_duty _ d))
    have hstage : ((m.closeLocal y).objects.get x).map stage =
        (m.objects.get x).map stage := stage_modifyStream fun _ => rfl
    by_cases hx : y = x
    · subst hx
      obtain ⟨o, ho, hstages⟩ := (Option.any_eq_true _ _).mp husable
      simp only [usable, Bool.not_eq_true, decide_eq_true_eq] at hstages
      refine .inr (.decide ?_ hstage steady_closeLocal.present rfl fun d => ?_)
      · simpa [party, ho] using hstages.1
      · exact (hduties d).trans (by rw [if_pos rfl]; rfl)
    · refine .inl ⟨Party.ext hstage (propext steady_closeLocal.present) rfl
        (funext fun d => (hduties d).trans ?_), rfl⟩
      rw [if_neg hx]
      rfl
  · exact .inl ⟨rfl, rfl⟩

theorem get_addStream {info : MuxOpenInfo} (hfree : m.streams.get y.id = none) (hx : y ≠ x) :
    ((m.addStream y stage info).objects.get x).map MuxStream.stage =
        (m.objects.get x).map MuxStream.stage ∧
      ((m.addStream y stage info).streams.get x.id = some x ↔ m.streams.get x.id = some x) := by
  refine ⟨congrArg _ (get_set_ne (Ne.symm hx)), ?_⟩
  rw [addStream, get_set]
  split_ifs with hid
  · rw [hid, hfree]
    simp [hx]
  · rfl

theorem evolves_receive {tail : List MuxFrame} (hidle : m.tasks[0]? = some []) (hopen : m.closed = false)
    (hsound : m.Sound) (hsingle : ∀ y, m.Mentions y → y.id = frame.stream.id → y = frame.stream)
    (hp : (m.party frame.stream w).Ok (n.party frame.stream (frame :: tail)))
    (hq : (n.party frame.stream (frame :: tail)).Ok (m.party frame.stream w)) :
    Evolves (m.party x w) (n.party x (frame :: tail)) ((m.receive frame).party x w)
      (n.party x tail) := by
  have hduties : ∀ (m' : MuxSession) (a : MuxAction), m'.tasks = m.tasks → ∀ d,
      (m'.setTask 0 [a]).duties x d = m.duties x d + weight (a.duty x) d := by
    intro m' a htasks d
    have hset := countP_flatten_set hidle [a] (·.duty x = some d)
    rw [countP_singleton_duty, countP_nil, Nat.add_zero] at hset
    simpa only [duties, setTask, htasks] using hset
  have hwire : frame.stream ≠ x ∨ frame.typ = .muxFrameData →
      n.party x tail = n.party x (frame :: tail) := by
    intro hother
    refine Party.ext rfl rfl (?_ : signals x tail = signals x (frame :: tail)) rfl
    rcases hother with hne | hdata
    · simp [signals, hne]
    · simp [signals, hdata, MuxFrameType.signal]
  cases htyp : frame.typ with
  | muxFrameData =>
    refine .inl ⟨?_, hwire (.inr htyp)⟩
    simp only [receive, htyp]
    split
    · rfl
    · exact Party.ext rfl rfl rfl (funext (hduties m _ rfl))
  | muxFrameClose =>
    simp only [receive, htyp]
    by_cases hx : frame.stream = x
    · refine .inr (.learn ?_ rfl Iff.rfl rfl (fun d => ?_) rfl Iff.rfl rfl)
      · simp [party, signals, hx, htyp, MuxFrameType.signal]
      · exact (hduties m _ rfl d).trans (by rw [duty, if_pos hx]; rfl)
    · refine .inl ⟨Party.ext rfl rfl rfl (funext fun d => (hduties m _ rfl d).trans ?_), hwire (.inl hx)⟩
      rw [duty, if_neg hx]
      rfl
  | muxFrameOpen =>
    -- nothing of the incarnation is at this end, so the id is free
    have hsignals : (n.party frame.stream (frame :: tail)).wire =
        .announcement :: (n.party frame.stream tail).wire := by
      simp [party, signals, htyp, MuxFrameType.signal]
    have habsent := (hq.absent_of_announcement hsignals).2.1
    have hfree : m.streams.get frame.stream.id = none := by
      refine Option.eq_none_iff_forall_ne_some.mpr fun y hy => (hp.absent habsent).1 ?_
      exact hsingle y (hsound.mentions_of_get hy) (hsound.table _ y hy) ▸ hy
    simp only [receive, htyp, handleOpen, hopen, hfree, Option.isSome_none, Bool.false_eq_true,
      or_false, if_false]
    have hsame : ∀ d, ((m.addStream frame.stream .accepted (.decodeMuxOpen frame.payload)).setTask 0
        [.offer frame.stream]).duties x d = m.duties x d := hduties _ _ rfl
    by_cases hx : frame.stream = x
    · subst hx
      refine .inr (.accept hsignals ?_ get_set_self rfl (funext hsame) rfl Iff.rfl rfl)
      exact congrArg (Option.map stage) get_set_self
    · obtain ⟨hstage, hpresent⟩ := get_addStream hfree hx
      exact .inl ⟨Party.ext hstage (propext hpresent) rfl (funext hsame), hwire (.inl hx)⟩

end MuxSession

/-! ## The pair -/

namespace MuxPair

variable {s : MuxPair} {e : Bool} {x : Incarnation} {event : MuxEvent} {order : Bool → GoMap.Order Bytes}
  {m' : MuxSession} {sent' : Bool → List MuxFrame} {opened' : ℕ} {effects' : List MuxEffect}

/-- An end as a party. -/
def party (s : MuxPair) (e : Bool) (x : Incarnation) : Party := (s.session e).party x (s.sent e)

/-- The incarnations are where a lifecycle can be. -/
structure Agrees (s : MuxPair) : Prop where
  numbers : ∀ e x, (s.party e x).stage ≠ none → x.number ≤ s.opened
  ok : ∀ e x, (s.party e x).Ok (s.party (!e) x)

/-- What holds of the parties, seen from one end. -/
theorem Agrees.of_end (e : Bool) (hnumbers : ∀ e' x, (s.party e' x).stage ≠ none → x.number ≤ s.opened)
    (hok : ∀ x, (s.party e x).Ok (s.party (!e) x) ∧ (s.party (!e) x).Ok (s.party e x)) : s.Agrees := by
  refine ⟨hnumbers, fun e' x => ?_⟩
  by_cases he : e' = e
  · exact he ▸ (hok x).1
  · obtain rfl : e' = !e := Bool.eq_not_of_ne he
    simpa using (hok x).2

theorem Agrees.pair (h : s.Agrees) (e : Bool) (x : Incarnation) :
    (s.party e x).Ok (s.party (!e) x) ∧ (s.party (!e) x).Ok (s.party e x) :=
  ⟨h.ok e x, by simpa using h.ok (!e) x⟩

theorem party_update_self :
    party ⟨Function.update s.session e m', sent', opened', effects'⟩ e x = m'.party x (sent' e) := by
  simp [party]

theorem party_update_not :
    party ⟨Function.update s.session e m', sent', opened', effects'⟩ (!e) x =
      (s.session (!e)).party x (sent' (!e)) := by
  simp [party]

/-- One end takes a step in which every incarnation evolves; frames are sent or read. -/
theorem Agrees.evolve (h : s.Agrees) (e : Bool)
    (hevolves : ∀ x, Evolves (s.party e x) (s.party (!e) x) (m'.party x (sent' e))
      ((s.session (!e)).party x (sent' (!e)))) :
    Agrees ⟨Function.update s.session e m', sent', s.opened, effects'⟩ := by
  refine .of_end e (fun e' x hx => ?_) fun x => ?_
  · by_cases he : e' = e
    · rw [he, party_update_self] at hx
      rcases (hevolves x).stage (h.pair e x).1 (h.pair e x).2 hx with hx | hx
      · exact h.numbers e x hx
      · exact h.numbers (!e) x hx
    · obtain rfl : e' = !e := Bool.eq_not_of_ne he
      rw [party_update_not] at hx
      exact h.numbers (!e) x hx
  · rw [party_update_self, party_update_not]
    exact (hevolves x).ok (h.pair e x).1 (h.pair e x).2

theorem Agrees.openStreamLeg (h : s.Agrees) {streamID payload : Bytes} :
    (s.openStreamLeg e streamID payload).Agrees := by
  unfold MuxPair.openStreamLeg
  split_ifs with hrefuse
  · exact h
  simp only [not_or, Bool.not_eq_true, Option.isSome_eq_false_iff, Option.isNone_iff_eq_none] at hrefuse
  -- the number of the new incarnation was never used
  obtain ⟨y, hy⟩ : ∃ y : Incarnation, y = ⟨streamID, s.opened + 1⟩ := ⟨_, rfl⟩
  have hfree : (s.session e).streams.get y.id = none := by rw [hy]; exact hrefuse.2
  have hnone : ∀ e', (s.party e' y).stage = none := by
    intro e'
    by_contra hne
    have hle := h.numbers e' y hne
    rw [hy] at hle
    exact absurd hle (by simp)
  rw [← hy]
  have hduties : ∀ x d, ((s.session e).openStreamLeg y payload).duties x d =
      (s.session e).duties x d + weight (if y = x then some .announce else none) d := fun x d =>
    (duties_spawn _ d rfl).trans (congrArg _ (countP_singleton_duty _ d))
  have hothers : ∀ x, y ≠ x →
      ((s.session e).openStreamLeg y payload).party x (s.sent e) = s.party e x := by
    intro x hx
    obtain ⟨hstage, hpresent⟩ := get_addStream hfree hx
    refine Party.ext hstage (propext hpresent) rfl (funext fun d => (hduties x d).trans ?_)
    rw [if_neg hx]
    rfl
  refine .of_end e (fun e' x hx => ?_) fun x => ?_
  · show x.number ≤ s.opened + 1
    by_cases hx' : y = x
    · rw [← hx', hy]
    · refine (h.numbers e' x ?_).trans (Nat.le_succ _)
      by_cases he : e' = e
      · rw [he, party_update_self, hothers x hx'] at hx
        exact he ▸ hx
      · obtain rfl : e' = !e := Bool.eq_not_of_ne he
        rwa [party_update_not] at hx
  · rw [party_update_self, party_update_not]
    by_cases hx : y = x
    · subst hx
      refine (h.pair e y).1.make (h.pair e y).2 (hnone e) (hnone (!e)) ?_ get_set_self rfl
        fun d => ?_
      · exact congrArg (Option.map stage) get_set_self
      · exact (hduties y d).trans (by rw [if_pos rfl]; rfl)
    · rw [hothers x hx]
      exact h.pair e x

theorem Agrees.readFrame (h : s.Agrees) (hsep : s.Separate) (hopen : s.Open) :
    (s.readFrame e).Agrees := by
  unfold MuxPair.readFrame
  split
  · exact h
  next hbusy =>
    rw [not_or, not_not] at hbusy
    split
    · split
      next hclosed => exact absurd (hclosed.symm.trans (hopen (!e)).1) nofun
      · exact h
    next frame rest hsent =>
      have hframe : s.Mentions frame.stream := mentions_of_sent (hsent ▸ mem_cons_self)
      obtain ⟨hp, hq⟩ := h.pair e frame.stream
      refine h.evolve e fun x => ?_
      rw [Function.update_self, Function.update_of_ne (by simp)]
      simp only [party, hsent] at hp hq ⊢
      exact evolves_receive hbusy.1 (hopen e).1 (hsep.sound e)
        (fun y hy hid => hsep.single y frame.stream ⟨e, .inl hy⟩ hframe hid) hp hq

theorem Agrees.advance {task : ℕ} {ok : Bool} (h : s.Agrees) (hsep : s.Separate) (hopen : s.Open)
    (hcareful : s.Careful (.advance e task ok)) (hopen' : (s.advance order e task ok).Open) :
    (s.advance order e task ok).Agrees := by
  unfold MuxPair.advance at hopen' ⊢
  split
  next action rest hget =>
    simp only [hget] at hopen'
    have hself := hopen' e
    simp only [Function.update_self] at hself
    have hsent : s.transmit e ((s.session e).perform (order e) ok rest action).session.closed
        ((s.session e).perform (order e) ok rest action).sent = fun e' =>
          if e' = e then s.sent e ++ ((s.session e).perform (order e) ok rest action).sent
          else s.sent e' := by
      funext e'
      have hclosed : ((s.session e).perform (order e) ok rest action).session.closed = false := hself.1
      simp [transmit, (hopen (!e)).1, hclosed]
    simp only [hsent]
    refine h.evolve e fun x => ?_
    rw [if_pos rfl, if_neg (by simp)]
    refine evolves_perform (hsep.sound e) (hopen e) hget (order e)
      (fun y z hy hz => hsep.single y z ⟨e, .inl hy⟩ ⟨e, .inl hz⟩) ?_ hself
    rintro frame rfl hok
    rcases hcareful with htrue | hclosed | hframe
    · exact absurd (htrue.symm.trans hok) nofun
    · exact absurd (hclosed.symm.trans (hopen e).1) nofun
    · exact hframe frame (by simp [waitingFrame, hget])
  · exact h

/-! ## Whole runs -/

/-- What holds of the pair at any time. -/
structure Inv (s : MuxPair) : Prop extends s.Separate where
  agrees : s.Open → s.Agrees

theorem inv_new : new.Inv where
  toSeparate := separate_new
  agrees _ := ⟨nofun, fun _ _ => ⟨fun _ => ⟨nofun, rfl, fun _ => rfl⟩, nofun, nofun, nofun, nofun, nofun, by
    simp [Party.Notifies, party, MuxSession.party, new, MuxSession.new, signals, MuxSession.duties]⟩⟩

theorem Inv.step (h : s.Inv) (hcareful : s.Careful event) : (s.step order event).1.Inv := by
  have hkeeps : s.Keeps (s.step order event).1 := h.toSeparate.step hcareful
  refine ⟨hkeeps.separate, fun hopen' => ?_⟩
  have hopen := hkeeps.opened hopen'
  have hagrees := h.agrees hopen
  have hin_place : ∀ e x (f : MuxStream → MuxStream), (∀ o, (f o).stage = o.stage) →
      (s.modify e (·.modifyStream x f)).Agrees := by
    intro e x f hf
    refine hagrees.evolve e fun y => .inl ⟨Party.ext (MuxSession.stage_modifyStream hf) ?_ rfl ?_, rfl⟩
    · exact congrArg (fun streams : GoMap Bytes Incarnation => streams.get y.id = some y)
        MuxSession.streams_modifyStream
    · funext d
      simp only [MuxSession.party, MuxSession.duties, MuxSession.tasks_modifyStream]
      rfl
  cases event with
  | openStreamLeg e streamID _ _ _ _ _ => exact hagrees.openStreamLeg
  | accept e => exact hagrees.evolve e fun _ => .inl ⟨rfl, rfl⟩
  | write e x p => exact hagrees.evolve e fun _ => MuxSession.evolves_writeData x _
  | writeChunkSeq e x seq chunk => exact hagrees.evolve e fun _ => MuxSession.evolves_writeData x _
  | close e x => exact hagrees.evolve e fun _ => MuxSession.evolves_closeStream x
  | setDeliverHook e x => exact hin_place e x _ fun _ => rfl
  | read e x size => exact hin_place e x _ fun _ => rfl
  | closeSession e =>
    refine absurd ?_ (hopen' e).2
    simp [MuxPair.step, modify, MuxSession.spawn]
  | readFrame e => exact hagrees.readFrame h.toSeparate hopen
  | advance e task ok => exact hagrees.advance h.toSeparate hopen hcareful hopen'

/-- Nothing that was sent on an incarnation of an id, and no `Close` of it, has changed a later
one. -/
def Isolated (s : MuxPair) : Prop := ∀ effect ∈ s.effects, ¬ effect.cause.number < effect.target.number

/-- All frames are delivered, the end of the input included, and no call is in progress. -/
def Quiescent (s : MuxPair) : Prop :=
  (∀ e, s.sent e = [] ∧ (s.session e).tasks.flatten = []) ∧
    (s.session true).closed = (s.session false).closed

instance (s : MuxPair) : Decidable s.Isolated := by
  unfold Isolated
  infer_instance

instance (s : MuxPair) : Decidable s.Quiescent := by
  unfold Quiescent
  infer_instance

/-- When nothing is left to do, what one end has in its table the other one has too. -/
theorem Inv.present_of_quiescent {id : Bytes} (h : s.Inv) (hquiet : s.Quiescent)
    (hopen : ∀ e, (s.session e).closed = false) (hget : (s.session e).streams.get id = some x) :
    (s.session (!e)).streams.get id = some x := by
  have hidle : ∀ e, (s.party e x).Idle := by
    intro e
    obtain ⟨hsent, htasks⟩ := hquiet.1 e
    simp [Party.Idle, party, MuxSession.party, MuxSession.duties, hsent, htasks, signals]
  have hagrees := h.agrees fun e => ⟨hopen e, by simp [(hquiet.1 e).2]⟩
  obtain rfl := (h.sound e).table id x hget
  exact (hagrees.pair e x).1.present_of_idle (hagrees.pair e x).2 (hidle e) (hidle (!e)) hget

/-- The two ends as long as ids are opened with care and no CLOSE frame is given up: an earlier
incarnation of an id never affects a later one, and when nothing is left to do both ends have the
same ids. -/
theorem run_isolated (order : Bool → GoMap.Order Bytes) (events : List MuxEvent)
    (h : Along (step order) Careful new events) :
    (run order events).Isolated ∧ ((run order events).Quiescent → ∀ id,
      (((run order events).session true).streams.get id).isSome =
        (((run order events).session false).streams.get id).isSome) := by
  have hinv : (run order events).Inv := runSteps_along h inv_new fun _ _ hcareful hs => hs.step hcareful
  refine ⟨fun effect hmem => (hinv.isolated effect hmem ▸ Nat.lt_irrefl _), fun hquiet id => ?_⟩
  generalize run order events = s at hinv hquiet
  cases hclosed : (s.session true).closed with
  | true =>
    rw [(hinv.sound true).empty hclosed, (hinv.sound false).empty (hquiet.2 ▸ hclosed)]
  | false =>
    have hopen : ∀ e, (s.session e).closed = false := by
      rintro (_ | _)
      · exact hquiet.2 ▸ hclosed
      · exact hclosed
    rw [Bool.eq_iff_iff, Option.isSome_iff_exists, Option.isSome_iff_exists]
    constructor <;> exact fun ⟨x, hx⟩ => ⟨x, hinv.present_of_quiescent hquiet hopen hx⟩

/-- `Close` of a session meets its streams by ascending ids. -/
def sampleIds : Bool → GoMap.Order Bytes := fun _ => .bytes

/-- One end opens a stream with the id 1, and the other one accepts it. -/
def sampleOpen : List MuxEvent :=
  [.openStreamLeg true [1] [] [] 0 1 [], .advance true 1 true, .advance true 1 true, .readFrame false,
    .advance false 0 true, .accept false]

/-- The end that has opened it closes it: `dropStream`, `closeLocal` and the CLOSE frame. -/
def sampleClose : List MuxEvent := .close true ⟨[1], 1⟩ :: List.replicate 4 (.advance true 2 true)

/-- The id is opened again. -/
def sampleReopen : List MuxEvent :=
  [.openStreamLeg true [1] [] [] 0 1 [], .advance true 3 true, .advance true 3 true]

/-- The other end reads the CLOSE frame before the id is opened again. -/
def sampleReuse : List MuxEvent :=
  sampleOpen ++ sampleClose ++ [.readFrame false, .advance false 0 true, .advance false 0 true] ++
    sampleReopen ++ [.readFrame false, .advance false 0 true]

theorem run_isolated_reused :
    (run sampleIds sampleReuse).opened = 2 ∧ (run sampleIds sampleReuse).Isolated ∧
      (((run sampleIds sampleReuse).session true).streams.get [1]).isSome =
        (((run sampleIds sampleReuse).session false).streams.get [1]).isSome := by
  have h := run_isolated sampleIds sampleReuse (by decide +kernel)
  exact ⟨by decide +kernel, h.1, h.2 (by decide +kernel) [1]⟩

/-- A frame of the other end is on its way when the stream is closed and its id is opened again. -/
def sampleLateData : List MuxEvent :=
  sampleOpen ++ [.write false ⟨[1], 1⟩ [5], .advance false 1 true, .advance false 1 true] ++
    sampleClose ++ sampleReopen ++ [.readFrame true, .advance true 0 true, .advance true 0 true]

/-- Its bytes come out of the second stream. -/
theorem late_data_reaches_next_incarnation :
    ¬ (run sampleIds sampleLateData).Isolated ∧
      (((run sampleIds sampleLateData).session true).objects.get ⟨[1], 2⟩).map MuxStream.buf =
        some [5] := by
  decide +kernel

end MuxPair

end NatP2P.Network
