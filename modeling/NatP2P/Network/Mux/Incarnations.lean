import Mathlib.Data.List.TakeWhile
import NatP2P.Common.Slots
import NatP2P.Network.Mux.Session

/-!
# The incarnations of a stream id

An incarnation is mentioned as long as a table has its stream, one of its streams is not closed, a
frame of it is on its way or a goroutine has something to do with it. Nothing but `OpenStreamLeg`
brings up an incarnation that is not mentioned. When an id is opened only while no incarnation of it
is mentioned, at most one is mentioned at any time, and whatever a frame or a `Close` changes
belongs to its own incarnation.
-/

namespace NatP2P.Network

open List MuxSession

/-- The incarnation a goroutine works on. -/
def MuxAction.subject : MuxAction → Option Incarnation
  | .write frame => some frame.stream
  | .physicalWrite frame => some frame.stream
  | .dropStream x _ => some x
  | .closeLocal x => some x
  | .offer x => some x
  | .deliverSeq x _ => some x
  | .appendBuf x _ => some x
  | .closeSession => none

/-- The bytes of a frame go to a stream of its own incarnation. -/
def MuxAction.Matched : MuxAction → Prop
  | .deliverSeq x frame => frame.stream = x
  | .appendBuf x frame => frame.stream = x
  | _ => True

namespace MuxSession

variable {m m' : MuxSession} {task : ℕ} {o o' : MuxStream} {x y : Incarnation} {frame : MuxFrame}
  {action a : MuxAction} {rest todo old : List MuxAction} {ok : Bool} {known : Incarnation → Prop}
  {stage : Lifecycle.Stage} {f : MuxStream → MuxStream}

/-- An end still knows an incarnation. -/
def Mentions (m : MuxSession) (x : Incarnation) : Prop :=
  m.streams.get x.id = some x ∨ (∃ o, m.objects.get x = some o ∧ o.closed = false) ∨
    ∃ a ∈ m.tasks.flatten, a.subject = some x

/-- The session is not closed, and nobody is about to close it. -/
def Open (m : MuxSession) : Prop := m.closed = false ∧ .closeSession ∉ m.tasks.flatten

/-- What holds of an end at any time. -/
structure Sound (m : MuxSession) : Prop where
  table : ∀ id x, m.streams.get id = some x → x.id = id
  matched : ∀ a ∈ m.tasks.flatten, a.Matched
  empty : m.closed = true → ∀ id, m.streams.get id = none

theorem Sound.mentions_of_get {id : Bytes} (h : m.Sound) (hget : m.streams.get id = some x) :
    m.Mentions x :=
  .inl ((h.table id x hget).symm ▸ hget)

theorem mentions_of_pending (hget : m.tasks[task]? = some (action :: rest))
    (hsubject : action.subject = some x) : m.Mentions x :=
  .inr (.inr ⟨action, mem_flatten.mpr ⟨_, mem_of_getElem? hget, mem_cons_self⟩, hsubject⟩)

/-! ## Streams change in place -/

theorem get_modifyStream : (m.modifyStream x f).objects.get y =
    if y = x then (m.objects.get x).map f else m.objects.get y := by
  unfold modifyStream
  split
  · next h => split_ifs with hy <;> simp [hy, h]
  · next h => rw [GoMap.get_set, h]; rfl

@[simp] theorem streams_modifyStream : (m.modifyStream x f).streams = m.streams := by
  unfold modifyStream
  split <;> rfl

@[simp] theorem tasks_modifyStream : (m.modifyStream x f).tasks = m.tasks := by
  unfold modifyStream
  split <;> rfl

@[simp] theorem closed_modifyStream : (m.modifyStream x f).closed = m.closed := by
  unfold modifyStream
  split <;> rfl

/-- No stream is made, and a closed one stays closed. -/
def StaysClosed (m m' : MuxSession) : Prop :=
  ∀ x o', m'.objects.get x = some o' → o'.closed = false →
    ∃ o, m.objects.get x = some o ∧ o.closed = false

theorem StaysClosed.refl (m : MuxSession) : StaysClosed m m := fun _ o ho hopen => ⟨o, ho, hopen⟩

theorem staysClosed_modifyStream
    (hf : ∀ o, (f o).closed = false → o.closed = false) : StaysClosed m (m.modifyStream x f) := by
  intro y o' ho' hopen
  rw [get_modifyStream] at ho'
  split_ifs at ho' with hy
  · obtain ⟨o, ho, rfl⟩ := Option.map_eq_some_iff.mp ho'
    exact ⟨o, hy ▸ ho, hf o hopen⟩
  · exact ⟨o', ho', hopen⟩

/-- A step that changes nothing but what streams hold. -/
structure Steady (m m' : MuxSession) : Prop where
  streams : m'.streams = m.streams
  tasks : m'.tasks = m.tasks
  closed : m'.closed = m.closed
  objects : StaysClosed m m'

theorem Steady.refl (m : MuxSession) : Steady m m := ⟨rfl, rfl, rfl, .refl m⟩

theorem steady_modifyStream
    (hf : ∀ o, (f o).closed = false → o.closed = false) : Steady m (m.modifyStream x f) :=
  ⟨streams_modifyStream, tasks_modifyStream, closed_modifyStream, staysClosed_modifyStream hf⟩

theorem steady_closeLocal : Steady m (m.closeLocal x) := steady_modifyStream nofun

theorem Steady.releaseGate (h : Steady m m') : Steady m m'.releaseGate := { h with }

theorem steady_note : Steady m (m.note frame stage) := by
  unfold note
  split_ifs
  · exact steady_modifyStream fun _ => id
  · exact .refl m

/-! ## What a step keeps -/

/-- What a step of one end may do: the streams it makes and the work it begins are about known
incarnations. -/
structure Follows (known : Incarnation → Prop) (m m' : MuxSession) : Prop where
  streams : ∀ id x, m'.streams.get id = some x →
    m.streams.get id = some x ∨ (x.id = id ∧ known x ∧ m'.closed = false)
  objects : ∀ x o', m'.objects.get x = some o' → o'.closed = false →
    (∃ o, m.objects.get x = some o ∧ o.closed = false) ∨ known x
  pending : ∀ a ∈ m'.tasks.flatten, a ∈ m.tasks.flatten ∨ (a.Matched ∧ ∀ x, a.subject = some x → known x)
  closed : m'.closed = m.closed ∨ (m'.closed = true ∧ ∀ id, m'.streams.get id = none)
  ends : .closeSession ∈ m.tasks.flatten → .closeSession ∈ m'.tasks.flatten ∨ m'.closed = true

theorem Follows.sound (h : Follows known m m') (hsound : m.Sound) : m'.Sound where
  table id x hget := (h.streams id x hget).elim (hsound.table id x) And.left
  matched a ha := (h.pending a ha).elim (hsound.matched a) And.left
  empty hclosed id := by
    rcases h.closed with heq | ⟨-, hempty⟩
    · refine Option.eq_none_iff_forall_ne_some.mpr fun x hx => ?_
      rcases h.streams id x hx with hold | ⟨-, -, hopen⟩
      · rw [hsound.empty (heq ▸ hclosed) id] at hold
        cases hold
      · exact absurd (hclosed.symm.trans hopen) nofun
    · exact hempty id

theorem Follows.open (h : Follows known m m') (hopen : m'.Open) : m.Open := by
  have hclosed := hopen.1
  refine ⟨?_, fun hpending => ?_⟩
  · rcases h.closed with heq | ⟨htrue, -⟩
    · exact heq ▸ hclosed
    · exact absurd (htrue.symm.trans hclosed) nofun
  · rcases h.ends hpending with hstill | htrue
    · exact hopen.2 hstill
    · exact absurd (htrue.symm.trans hclosed) nofun

theorem Follows.mentions (h : Follows known m m') (hknown : ∀ x, m.Mentions x → known x)
    (hx : m'.Mentions x) : known x := by
  rcases hx with hget | ⟨o, ho, hopen⟩ | ⟨a, ha, hsubject⟩
  · exact (h.streams _ x hget).elim (fun hold => hknown x (.inl hold)) fun hnew => hnew.2.1
  · exact (h.objects x o ho hopen).elim (fun hold => hknown x (.inr (.inl hold))) id
  · rcases h.pending a ha with hold | ⟨-, hnew⟩
    · exact hknown x (.inr (.inr ⟨a, hold, hsubject⟩))
    · exact hnew x hsubject

theorem follows_setTask (hget : m.tasks[task]? = some old) (htasks : m'.tasks = m.tasks)
    (hstreams : ∀ id x, m'.streams.get id = some x → m.streams.get id = some x)
    (hobjects : StaysClosed m m')
    (hclosed : m'.closed = m.closed ∨ (m'.closed = true ∧ ∀ id, m'.streams.get id = none))
    (htodo : ∀ a ∈ todo, a ∈ old ∨ (a.Matched ∧ ∀ x, a.subject = some x → known x))
    (hends : .closeSession ∈ old → .closeSession ∈ todo ∨ m'.closed = true) :
    Follows known m (m'.setTask task todo) := by
  have hflatten : (m'.setTask task todo).tasks.flatten = (m.tasks.set task todo).flatten := by
    rw [setTask, htasks]
  refine ⟨fun id x hx => .inl (hstreams id x hx), fun x o ho hopen => .inl (hobjects x o ho hopen), ?_,
    hclosed, ?_⟩
  · intro a ha
    rw [hflatten] at ha
    rcases mem_flatten_of_set ha with hold | hnew
    · exact .inl hold
    · exact (htodo a hnew).imp_left (mem_flatten_of_getElem? hget)
  · rw [hflatten]
    intro hmem
    rcases mem_flatten_set hget todo hmem with hstill | hold
    · exact .inl hstill
    · exact (hends hold).imp_left (mem_flatten_of_getElem? (getElem?_set_of_some hget))

/-- A goroutine does a step that leaves the table alone. -/
theorem Steady.follows (h : Steady m m') (hget : m.tasks[task]? = some old)
    (htodo : ∀ a ∈ todo, a ∈ old ∨ (a.Matched ∧ ∀ x, a.subject = some x → known x))
    (hends : .closeSession ∈ old → .closeSession ∈ todo) :
    Follows known m (m'.setTask task todo) :=
  follows_setTask hget h.tasks (fun _ _ hx => h.streams ▸ hx) h.objects (.inl h.closed) htodo
    fun hmem => .inl (hends hmem)

theorem Steady.follows_calls {calls : List (List MuxAction)} (h : Steady m m')
    (hcalls : ∀ a ∈ calls.flatten, a.Matched ∧ ∀ x, a.subject = some x → known x) :
    Follows known m { m' with tasks := m'.tasks ++ calls } where
  streams _ _ hx := .inl (h.streams ▸ hx)
  objects x o ho hopen := .inl (h.objects x o ho hopen)
  pending a ha := by
    rw [flatten_append, h.tasks] at ha
    exact (mem_append.mp ha).imp_right (hcalls a)
  closed := .inl h.closed
  ends hmem := .inl (by
    rw [flatten_append, h.tasks]
    exact mem_append_left _ hmem)

/-- Nothing but what streams hold changes. -/
theorem Follows.of_steady (h : Steady m m') : Follows known m m' where
  streams _ _ hx := .inl (h.streams ▸ hx)
  objects x o ho hopen := .inl (h.objects x o ho hopen)
  pending _ ha := .inl (h.tasks ▸ ha)
  closed := .inl h.closed
  ends hmem := .inl (h.tasks ▸ hmem)

theorem Follows.mono {known' : Incarnation → Prop} (h : Follows known m m')
    (hknown : ∀ x, known x → known' x) : Follows known' m m' where
  streams id x hx := (h.streams id x hx).imp_right fun hnew => ⟨hnew.1, hknown x hnew.2.1, hnew.2.2⟩
  objects x o ho hopen := (h.objects x o ho hopen).imp_right (hknown x)
  pending a ha := (h.pending a ha).imp_right fun hnew => ⟨hnew.1, fun x hx => hknown x (hnew.2 x hx)⟩
  closed := h.closed
  ends := h.ends

/-! ## The steps of a goroutine -/

/-- After an error a goroutine does what it had to do anyway, or drops the stream it has opened. -/
theorem mem_afterError (h : a ∈ afterError frame rest) :
    a ∈ rest ∨ a = .dropStream frame.stream .openFailed := by
  unfold afterError at h
  split at h
  · grind
  · exact .inl ((dropWhile_sublist _).subset h)
  · exact .inl h

theorem closeSession_mem_afterError (h : .closeSession ∈ rest) :
    .closeSession ∈ afterError frame rest := by
  unfold afterError
  split
  · exact mem_cons_of_mem _ h
  · rw [← takeWhile_append_dropWhile (p := MuxAction.writesData) (l := rest)] at h
    rcases mem_append.mp h with htake | hdrop
    · cases mem_takeWhile_imp htake
    · exact hdrop
  · exact h

/-- What a step of a goroutine does to the incarnations: it brings up no new one, and what it
changes has the id of the one it works on. -/
structure Behaves (m : MuxSession) (task : ℕ) (out : Outcome) : Prop where
  follows : Follows m.Mentions m (out.session.setTask task out.todo)
  sent : ∀ frame ∈ out.sent, m.Mentions frame.stream
  effects : ∀ effect ∈ out.effects, m.Mentions effect.cause ∧ m.Mentions effect.target ∧
    effect.cause.id = effect.target.id

/-- A step that leaves the table alone and is about the incarnation the goroutine works on. -/
theorem behaves_of_steady {out : Outcome} (h : Steady m out.session)
    (hget : m.tasks[task]? = some (action :: rest)) (hx : action.subject = some x)
    (htodo : ∀ a ∈ out.todo, a ∈ action :: rest ∨ (a.Matched ∧ ∀ y ∈ a.subject, y = x))
    (hends : .closeSession ∈ rest → .closeSession ∈ out.todo)
    (hsent : ∀ frame ∈ out.sent, frame.stream = x)
    (heffects : ∀ effect ∈ out.effects, effect = ⟨x, x⟩) : m.Behaves task out := by
  have hmentions := mentions_of_pending hget hx
  refine ⟨h.follows hget (fun a ha => (htodo a ha).imp_right fun ⟨hmatched, hsubject⟩ =>
    ⟨hmatched, fun y hy => hsubject y hy ▸ hmentions⟩) fun hmem => hends ?_, ?_, ?_⟩
  · refine (mem_cons.mp hmem).resolve_left fun heq => ?_
    rw [← heq] at hx
    cases hx
  · intro frame hmem
    rwa [hsent frame hmem]
  · intro effect hmem
    rw [heffects effect hmem]
    exact ⟨hmentions, hmentions, rfl⟩

/-- The goroutine goes on with the rest, or waits. -/
theorem behaves_quiet (h : Steady m m') (hget : m.tasks[task]? = some (action :: rest))
    (hx : action.subject = some x) : m.Behaves task (.quiet m' rest) :=
  behaves_of_steady h hget hx (fun _ ha => .inl (mem_cons_of_mem _ ha)) id nofun nofun

theorem behaves_cons (h : Steady m m') (hget : m.tasks[task]? = some (action :: rest))
    (hx : action.subject = some x) (hmatched : a.Matched) (ha : a.subject = some x) :
    m.Behaves task (.quiet m' (a :: rest)) :=
  behaves_of_steady h hget hx
    (forall_mem_cons.mpr ⟨.inr ⟨hmatched, fun _ hy => Option.mem_unique hy ha⟩,
      fun _ hmem => .inl (mem_cons_of_mem _ hmem)⟩) (mem_cons_of_mem _) nofun nofun

theorem behaves_write (hget : m.tasks[task]? = some (action :: rest))
    (hx : action.subject = some frame.stream) :
    m.Behaves task (m.beginWrite frame ok rest) ∧ m.Behaves task (m.finishWrite frame ok rest) := by
  have herror : ∀ a ∈ afterError frame rest,
      a ∈ action :: rest ∨ (a.Matched ∧ ∀ y ∈ a.subject, y = frame.stream) := by
    intro a ha
    rcases mem_afterError ha with hrest | rfl
    · exact .inl (mem_cons_of_mem _ hrest)
    · exact .inr ⟨trivial, by simp [MuxAction.subject]⟩
  constructor
  · unfold beginWrite
    split_ifs
    · exact behaves_cons (.refl m) hget hx trivial rfl
    · exact behaves_cons ⟨rfl, rfl, rfl, .refl m⟩ hget hx trivial rfl
    · exact behaves_of_steady steady_note hget hx herror closeSession_mem_afterError nofun nofun
  · unfold finishWrite
    split_ifs
    · exact behaves_of_steady steady_note.releaseGate hget hx
        (fun _ ha => .inl (mem_cons_of_mem _ ha)) id (by simp) nofun
    · exact behaves_of_steady steady_note.releaseGate hget hx
        (forall_mem_cons.mpr ⟨.inr ⟨trivial, nofun⟩, herror⟩) (fun _ => mem_cons_self) nofun nofun

theorem Sound.behaves_dropStream {cause : DropCause} (h : m.Sound)
    (hget : m.tasks[task]? = some (.dropStream x cause :: rest)) :
    m.Behaves task (m.dropStream x cause rest) := by
  have hafter : ∀ a ∈ afterDrop x cause ++ rest,
      a ∈ MuxAction.dropStream x cause :: rest ∨ (a.Matched ∧ ∀ y ∈ a.subject, y = x) := by
    cases cause <;> simp +contextual [afterDrop, MuxAction.Matched, MuxAction.subject]
  unfold dropStream
  split
  · exact behaves_of_steady (.refl m) hget rfl hafter (mem_append_right _) nofun nofun
  next y hy =>
    have hcause := mentions_of_pending hget rfl
    have htarget := h.mentions_of_get hy
    refine ⟨follows_setTask hget rfl ?_ (.refl m) (.inl rfl) ?_ ?_, nofun, ?_⟩
    · intro id z hz
      exact (GoMap.get_delete_eq_some.mp hz).2
    · refine forall_mem_cons.mpr ⟨.inr ⟨trivial, fun z hz => Option.some.inj hz ▸ htarget⟩, ?_⟩
      exact fun a ha => (hafter a ha).imp_right fun ⟨hmatched, hsubject⟩ =>
        ⟨hmatched, fun z hz => hsubject z hz ▸ hcause⟩
    · exact fun hmem => .inl (mem_cons_of_mem _
        (mem_append_right _ ((mem_cons.mp hmem).resolve_left nofun)))
    · exact forall_mem_singleton.mpr ⟨hcause, htarget, (h.table _ y hy).symm⟩

theorem behaves_deliver (hget : m.tasks[task]? = some (action :: rest)) (hx : action.subject = some x)
    (hmatched : frame.stream = x) :
    m.Behaves task (m.deliverSeq x frame rest) ∧ m.Behaves task (m.appendBuf x frame rest) := by
  have heffect : ∀ {m' : MuxSession}, Steady m m' → m.Behaves task ⟨m', rest, [], [⟨frame.stream, x⟩]⟩ :=
    fun h => behaves_of_steady h hget hx (fun _ ha => .inl (mem_cons_of_mem _ ha)) id nofun
      (by simp [hmatched])
  constructor
  · unfold deliverSeq
    split
    · exact behaves_quiet (.refl m) hget hx
    · split_ifs
      · exact behaves_quiet (.refl m) hget hx
      · exact heffect (steady_modifyStream fun _ => id)
      · exact heffect (.refl m)
      · exact behaves_cons (.refl m) hget hx hmatched rfl
  · unfold appendBuf
    split_ifs
    · exact behaves_quiet (.refl m) hget hx
    · exact heffect (steady_modifyStream fun _ => id)

theorem Sound.behaves_close (h : m.Sound) (hget : m.tasks[task]? = some (.closeSession :: rest))
    (order : GoMap.Order Bytes) : m.Behaves task (m.close order rest) := by
  unfold close
  split_ifs with hclosed
  · exact ⟨follows_setTask hget rfl (fun _ _ => id) (.refl m) (.inl rfl)
      (fun _ ha => .inl (mem_cons_of_mem _ ha)) fun _ => .inr hclosed, nofun, nofun⟩
  · refine ⟨follows_setTask hget rfl nofun (.refl m) (.inr ⟨rfl, fun _ => rfl⟩) ?_ fun _ => .inr rfl,
      nofun, nofun⟩
    intro a ha
    rcases mem_append.mp ha with hmem | hmem
    · obtain ⟨x, hx, rfl⟩ := mem_map.mp hmem
      obtain ⟨id, hid⟩ := GoMap.mem_values.mp hx
      exact .inr ⟨trivial, fun y hy => Option.some.inj hy ▸ h.mentions_of_get hid⟩
    · exact .inl (mem_cons_of_mem _ hmem)

/-- Every step of a goroutine. -/
theorem Sound.behaves (h : m.Sound) (hget : m.tasks[task]? = some (action :: rest))
    (order : GoMap.Order Bytes) (ok : Bool) : m.Behaves task (m.perform order ok rest action) := by
  have hmatched := h.matched action (mem_flatten_of_getElem? hget mem_cons_self)
  cases action with
  | write frame => exact (behaves_write hget rfl).1
  | physicalWrite frame => exact (behaves_write hget rfl).2
  | dropStream x cause => exact h.behaves_dropStream hget
  | closeLocal x => exact behaves_quiet steady_closeLocal hget rfl
  | offer x =>
    unfold perform
    split_ifs
    · exact behaves_quiet ⟨rfl, rfl, rfl, .refl m⟩ hget rfl
    · exact behaves_quiet (.refl m) hget rfl
    · exact behaves_cons (.refl m) hget rfl trivial rfl
  | deliverSeq x frame => exact (behaves_deliver hget rfl hmatched).1
  | appendBuf x frame => exact (behaves_deliver hget rfl hmatched).2
  | closeSession => exact h.behaves_close hget order

/-! ## Calls and frames that arrive -/

/-- Somebody can call the methods of a stream only as long as its incarnation is mentioned. -/
theorem mentions_of_usable (h : (m.objects.get x).any MuxStream.usable) : m.Mentions x := by
  obtain ⟨o, ho, husable⟩ := (Option.any_eq_true _ _).mp h
  refine .inr (.inl ⟨o, ho, ?_⟩)
  simp only [MuxStream.usable, Bool.not_eq_true, decide_eq_true_eq] at husable
  exact husable.2

theorem follows_writeData (x : Incarnation) (data : List (ℕ × Bytes)) :
    Follows m.Mentions m (m.writeData x data) := by
  unfold writeData
  split_ifs with husable
  · refine (Steady.refl m).follows_calls ?_
    simp only [flatten_singleton, forall_mem_map]
    exact fun _ _ => ⟨trivial, fun y hy => Option.some.inj hy ▸ mentions_of_usable husable⟩
  · exact .of_steady (.refl m)

theorem follows_closeStream (x : Incarnation) : Follows m.Mentions m (m.closeStream x) := by
  unfold closeStream
  split_ifs with husable
  · refine steady_closeLocal.follows_calls (forall_mem_singleton.mpr ⟨trivial, ?_⟩)
    exact fun y hy => Option.some.inj hy ▸ mentions_of_usable husable
  · exact .of_steady (.refl m)

/-- A stream of a known incarnation is added, and a goroutine goes on with it. -/
theorem Follows.addStream {info : MuxOpenInfo} {tasks : List (List MuxAction)} (hopen : m.closed = false)
    (hx : known x)
    (hpending : ∀ a ∈ tasks.flatten, a ∈ m.tasks.flatten ∨ (a.Matched ∧ ∀ y, a.subject = some y → known y))
    (hends : .closeSession ∈ m.tasks.flatten → .closeSession ∈ tasks.flatten) :
    Follows known m ⟨m.streams.set x.id x, m.objects.set x (newMuxStream stage info), m.accept, m.closed,
      m.writeGate, tasks⟩ where
  streams id y hy := by
    rcases GoMap.get_set_eq_some.mp hy with ⟨rfl, rfl⟩ | ⟨-, hold⟩
    · exact .inr ⟨rfl, hx, hopen⟩
    · exact .inl hold
  objects y o ho hclosed := by
    rcases GoMap.get_set_eq_some.mp ho with ⟨rfl, -⟩ | ⟨-, hold⟩
    · exact .inr hx
    · exact .inl ⟨o, hold, hclosed⟩
  pending := hpending
  closed := .inl rfl
  ends hmem := .inl (hends hmem)

theorem follows_openStreamLeg (hopen : m.closed = false) (payload : Bytes) :
    Follows (fun y => m.Mentions y ∨ y = x) m (m.openStreamLeg x payload) := by
  refine .addStream hopen (.inr rfl) ?_ ?_
  · intro a ha
    rw [flatten_append] at ha
    refine (mem_append.mp ha).imp_right fun hnew => ?_
    obtain rfl := mem_singleton.mp hnew
    exact ⟨trivial, fun y hy => .inr (Option.some.inj hy).symm⟩
  · rw [flatten_append]
    exact mem_append_left _

/-- The read loop gets a frame. No other incarnation of its id may be known at this end. -/
theorem Sound.follows_receive (h : m.Sound) (hidle : m.tasks[0]? = some [])
    (hsingle : ∀ y, m.Mentions y → y.id = frame.stream.id → y = frame.stream) :
    Follows (fun y => m.Mentions y ∨ y = frame.stream) m (m.receive frame) := by
  unfold receive
  split
  · unfold handleOpen
    split_ifs with hrefuse
    · exact .of_steady (.refl m)
    · refine .addStream (by simpa using fun hc => hrefuse (.inl hc)) (.inr rfl) ?_ ?_
      · intro a ha
        refine (mem_flatten_of_set ha).imp_right fun hnew => ?_
        obtain rfl := mem_singleton.mp hnew
        exact ⟨trivial, fun y hy => .inr (Option.some.inj hy).symm⟩
      · exact fun hmem => (mem_flatten_set hidle _ hmem).resolve_right not_mem_nil
  · split
    · exact .of_steady (.refl m)
    next y hy =>
      -- the stream in the table is one of the same incarnation as the frame
      obtain rfl := hsingle y (h.mentions_of_get hy) (h.table _ y hy)
      exact (Steady.refl m).follows hidle (forall_mem_singleton.mpr
        (.inr ⟨rfl, fun z hz => .inr (Option.some.inj hz).symm⟩)) nofun
  · exact (Steady.refl m).follows hidle (forall_mem_singleton.mpr
      (.inr ⟨trivial, fun y hy => .inr (Option.some.inj hy).symm⟩)) nofun

end MuxSession

/-! ## The pair -/

namespace MuxPair

variable {s s' : MuxPair} {e e' : Bool} {x y : Incarnation} {event : MuxEvent}
  {order : Bool → GoMap.Order Bytes}

/-- An incarnation is known at one of the ends, or a frame of it is on its way. -/
def Mentions (s : MuxPair) (x : Incarnation) : Prop :=
  ∃ e, (s.session e).Mentions x ∨ ∃ frame ∈ s.sent e, frame.stream = x

/-- Neither end has the id in its table, a stream with it that is not closed, or a goroutine that
works on one, and no frame with it is on its way. -/
def Unused (s : MuxPair) (id : Bytes) : Prop :=
  ∀ e, (s.session e).streams.get id = none ∧ (∀ frame ∈ s.sent e, frame.stream.id ≠ id) ∧
    (∀ x ∈ (s.session e).objects.keys, x.id = id → ((s.session e).objects.get x).all MuxStream.closed) ∧
    ∀ a ∈ (s.session e).tasks.flatten, ∀ x ∈ a.subject, x.id ≠ id

instance (s : MuxPair) (id : Bytes) : Decidable (s.Unused id) := by
  unfold Unused
  infer_instance

theorem Unused.not_mentions (h : s.Unused x.id) : ¬ s.Mentions x := by
  rintro ⟨e, (hget | ⟨o, ho, hopen⟩ | ⟨a, ha, hsubject⟩) | ⟨frame, hmem, rfl⟩⟩
  · rw [(h e).1] at hget
    cases hget
  · have hclosed := (h e).2.2.1 x (((s.session e).objects.mem_keys x).mpr (ho ▸ rfl)) rfl
    rw [ho] at hclosed
    exact absurd (hclosed.symm.trans hopen) nofun
  · exact (h e).2.2.2 a ha x hsubject rfl
  · exact (h e).2.1 frame hmem rfl

/-- At most one incarnation of an id is mentioned, and nothing has changed a stream of another
incarnation. -/
structure Separate (s : MuxPair) : Prop where
  sound : ∀ e, (s.session e).Sound
  single : ∀ x y, s.Mentions x → s.Mentions y → x.id = y.id → x = y
  isolated : ∀ effect ∈ s.effects, effect.cause = effect.target

/-- Nobody has closed a session, or is about to. -/
def Open (s : MuxPair) : Prop := ∀ e, (s.session e).Open

/-- What a step keeps. -/
structure Keeps (s s' : MuxPair) : Prop where
  separate : s'.Separate
  opened : s'.Open → s.Open

/-- One end changes, frames are sent or read, and streams change. The incarnations that are
mentioned afterwards are among `known`, which are the ones that were mentioned, or more. -/
theorem Separate.update (h : s.Separate) {m' : MuxSession} {sent' : Bool → List MuxFrame} {opened' : ℕ}
    {effects' : List MuxEffect} (known : Incarnation → Prop) (hknown : ∀ x, s.Mentions x → known x)
    (hsingle : ∀ x y, known x → known y → x.id = y.id → x = y)
    (hfollows : MuxSession.Follows known (s.session e) m')
    (hsent : ∀ e', ∀ frame ∈ sent' e', known frame.stream)
    (heffects : ∀ effect ∈ effects', effect.cause = effect.target) :
    s.Keeps ⟨Function.update s.session e m', sent', opened', effects'⟩ := by
  have hback : ∀ x, MuxPair.Mentions ⟨Function.update s.session e m', sent', opened', effects'⟩ x →
      known x := by
    rintro x ⟨e', hx | ⟨frame, hmem, rfl⟩⟩
    · by_cases he : e' = e
      · subst he
        exact hfollows.mentions (fun y hy => hknown y ⟨e', .inl hy⟩) (by simpa using hx)
      · exact hknown x ⟨e', .inl (by simpa [Function.update_of_ne he] using hx)⟩
    · exact hsent e' frame hmem
  refine ⟨⟨fun e' => ?_, fun x y hx hy hid => hsingle x y (hback x hx) (hback y hy) hid, heffects⟩,
    fun hopen e' => ?_⟩
  all_goals by_cases he : e' = e
  · subst he
    simpa using hfollows.sound (h.sound e')
  · simpa [Function.update_of_ne he] using h.sound e'
  · subst he
    exact hfollows.open (by simpa using hopen e')
  · simpa [Function.update_of_ne he] using hopen e'

theorem mentions_of_sent {frame : MuxFrame} (h : frame ∈ s.sent e') : s.Mentions frame.stream :=
  ⟨e', .inr ⟨frame, h, rfl⟩⟩

/-- One end takes a step that makes no stream. -/
theorem Separate.modify (h : s.Separate) (e : Bool) (f : MuxSession → MuxSession)
    (hf : MuxSession.Follows (s.session e).Mentions (s.session e) (f (s.session e))) :
    s.Keeps (s.modify e f) :=
  h.update _ (fun _ => id) h.single (hf.mono fun _ hx => ⟨e, .inl hx⟩) (fun _ _ => mentions_of_sent)
    h.isolated

theorem Separate.openStreamLeg (h : s.Separate) {streamID payload : Bytes}
    (hunused : (s.session e).closed = false → (s.session e).streams.get streamID = none →
      s.Unused streamID) :
    s.Keeps (s.openStreamLeg e streamID payload) := by
  unfold MuxPair.openStreamLeg
  split_ifs with hrefuse
  · exact ⟨h, id⟩
  · simp only [not_or, Bool.not_eq_true, Option.isSome_eq_false_iff, Option.isNone_iff_eq_none] at hrefuse
    have hnew := hunused hrefuse.1 hrefuse.2
    refine h.update (fun x => s.Mentions x ∨ x = ⟨streamID, s.opened + 1⟩) (fun _ => .inl) ?_
      ((follows_openStreamLeg hrefuse.1 payload).mono fun _ hx =>
        hx.imp_left fun hx => ⟨e, .inl hx⟩) (fun _ _ hmem => .inl (mentions_of_sent hmem)) h.isolated
    -- an incarnation of the id that is mentioned is the new one
    rintro x y (hx | rfl) (hy | rfl) hid
    · exact h.single x y hx hy hid
    · exact absurd hx (Unused.not_mentions (hid ▸ hnew))
    · exact absurd hy (Unused.not_mentions (hid ▸ hnew))
    · rfl

theorem Separate.readFrame (h : s.Separate) (e : Bool) : s.Keeps (s.readFrame e) := by
  unfold MuxPair.readFrame
  split
  · exact ⟨h, id⟩
  next hbusy =>
    rw [not_or, not_not] at hbusy
    split
    · split
      · exact h.modify e _ ((MuxSession.Steady.refl _).follows hbusy.1
          (forall_mem_singleton.mpr (.inr ⟨trivial, nofun⟩)) nofun)
      · exact ⟨h, id⟩
    next frame rest hsent =>
      have hframe : s.Mentions frame.stream := mentions_of_sent (hsent ▸ mem_cons_self)
      have hfollows := (h.sound e).follows_receive hbusy.1 fun y hy hid =>
        h.single y frame.stream ⟨e, .inl hy⟩ hframe hid
      refine h.update _ (fun _ => id) h.single (hfollows.mono ?_) ?_ h.isolated
      · rintro x (hx | rfl)
        · exact ⟨e, .inl hx⟩
        · exact hframe
      · intro e' frame' hmem
        rw [Function.update_apply] at hmem
        split_ifs at hmem with he
        · exact mentions_of_sent (hsent ▸ mem_cons_of_mem _ hmem)
        · exact mentions_of_sent hmem

theorem mem_transmit {closed : Bool} {frames : List MuxFrame} {frame : MuxFrame}
    (h : frame ∈ s.transmit e closed frames e') : frame ∈ s.sent e' ∨ frame ∈ frames := by
  unfold transmit at h
  grind

theorem Separate.advance (h : s.Separate) (e : Bool) (task : ℕ) (ok : Bool) :
    s.Keeps (s.advance order e task ok) := by
  unfold MuxPair.advance
  split
  next action rest hget =>
    have hstep := (h.sound e).behaves hget (order e) ok
    refine h.update _ (fun _ => id) h.single (hstep.follows.mono fun _ hx => ⟨e, .inl hx⟩) ?_ ?_
    · intro e' frame hmem
      rcases mem_transmit hmem with hold | hnew
      · exact mentions_of_sent hold
      · exact ⟨e, .inl (hstep.sent frame hnew)⟩
    · refine forall_mem_append.mpr ⟨h.isolated, fun effect hnew => ?_⟩
      obtain ⟨hcause, htarget, hid⟩ := hstep.effects effect hnew
      exact h.single _ _ ⟨e, .inl hcause⟩ ⟨e, .inl htarget⟩ hid
  · exact ⟨h, id⟩

/-- The frame that a goroutine is about to write, or to give up. -/
def waitingFrame (s : MuxPair) (e : Bool) (task : ℕ) : Option MuxFrame :=
  match (s.session e).tasks[task]? with
  | some (.write frame :: _) => some frame
  | _ => none

/-- An id is opened only while it is not used at either end, and no CLOSE frame is given up while
the session is open. -/
def Careful (s : MuxPair) : MuxEvent → Prop
  | .openStreamLeg e streamID _ _ _ _ _ =>
    (s.session e).closed = false → (s.session e).streams.get streamID = none → s.Unused streamID
  | .advance e task ok => ok = true ∨ (s.session e).closed = true ∨
      ∀ frame ∈ s.waitingFrame e task, frame.typ ≠ .muxFrameClose
  | _ => True

instance (s : MuxPair) (event : MuxEvent) : Decidable (s.Careful event) := by
  unfold Careful
  split <;> infer_instance

theorem separate_new : new.Separate where
  sound _ := ⟨nofun, by simp [new, MuxSession.new], nofun⟩
  single x _ hx := by simp [Mentions, MuxSession.Mentions, new, MuxSession.new] at hx
  isolated := nofun

theorem Separate.step (h : s.Separate) (hcareful : s.Careful event) :
    s.Keeps (s.step order event).1 := by
  cases event with
  | openStreamLeg e streamID _ _ _ _ _ => exact h.openStreamLeg hcareful
  | accept e => exact h.modify e _ (.of_steady ⟨rfl, rfl, rfl, .refl _⟩)
  | write e x _ | writeChunkSeq e x _ _ => exact h.modify e (·.writeData x _) (follows_writeData x _)
  | close e x => exact h.modify e (·.closeStream x) (follows_closeStream x)
  | setDeliverHook e x | read e x _ =>
    exact h.modify e (·.modifyStream x _) (.of_steady (steady_modifyStream fun _ => id))
  | closeSession e =>
    exact h.modify e (·.spawn _) ((MuxSession.Steady.refl _).follows_calls
      (forall_mem_singleton.mpr ⟨trivial, nofun⟩))
  | readFrame e => exact h.readFrame e
  | advance e task ok => exact h.advance e task ok

end MuxPair

end NatP2P.Network
