import Mathlib.Data.List.Basic

/-!
# Something that two parties share

One party makes a thing and announces it to the other, which then makes its own half. Either party
may take its half away and tell the other, which then takes its own away. Announcements and notices
travel in order, and what a party has still to do is done by somebody at some later time. Nothing is
made twice and no notice is forgotten. Then the two halves agree as soon as nothing is left to do.
-/

namespace NatP2P.Lifecycle

/-- How a half was made. -/
inductive Stage where
  /-- its party has not announced it yet -/
  | opening
  /-- it could not be announced -/
  | failed
  /-- it was announced -/
  | established
  /-- it was made for an announcement of the other party -/
  | accepted
deriving DecidableEq

/-- What a party sends. -/
inductive Signal where
  | announcement
  | notice
deriving DecidableEq

/-- What a party has still to do. -/
inductive Duty where
  /-- to announce the thing -/
  | announce
  /-- to take its half away because it could not be announced -/
  | undo
  /-- to take its half away, and to send a notice then -/
  | withdraw
  /-- to send a notice -/
  | notify
  /-- to take its half away because it got a notice -/
  | follow
deriving DecidableEq

/-- A party: its half, the signals the other party has not got yet, and how often it has each
duty. -/
@[ext]
structure Party where
  stage : Option Stage
  present : Prop
  wire : List Signal
  duties : Duty → ℕ

/-- How often an optional duty is the given one. -/
def weight (duty : Option Duty) (d : Duty) : ℕ := if duty = some d then 1 else 0

@[simp] theorem weight_none (d : Duty) : weight none d = 0 := rfl

@[simp] theorem weight_self (d : Duty) : weight (some d) d = 1 := if_pos rfl

/-- One duty is done, and another one may follow from it. -/
def Moves (duties duties' : Duty → ℕ) (done next : Option Duty) : Prop :=
  ∀ d, duties' d + weight done d = duties d + weight next d

/-- What one party may do with a thing that was made; `p` acts and `q` is the other party. -/
inductive Act : Party → Party → Party → Party → Prop where
  | announce {p q p' : Party} (hstage : p.stage = some .opening → p'.stage = some .established)
      (hpresent : p'.present ↔ p.present) (hwire : p'.wire = p.wire ++ [.announcement])
      (hduties : Moves p.duties p'.duties (some .announce) none) : Act p q p' q
  /-- it cannot be announced -/
  | fail {p q p' : Party} (hstage : p.stage = some .opening → p'.stage = some .failed)
      (hpresent : p'.present ↔ p.present) (hwire : p'.wire = p.wire)
      (hduties : Moves p.duties p'.duties (some .announce) (some .undo)) : Act p q p' q
  | undo {p q p' : Party} (hstage : p'.stage = p.stage) (hpresent : ¬ p'.present)
      (hwire : p'.wire = p.wire) (hduties : Moves p.duties p'.duties (some .undo) none) : Act p q p' q
  /-- somebody decides to take a half away -/
  | decide {p q p' : Party} (hp : p.stage = some .established ∨ p.stage = some .accepted)
      (hstage : p'.stage = p.stage) (hpresent : p'.present ↔ p.present) (hwire : p'.wire = p.wire)
      (hduties : Moves p.duties p'.duties none (some .withdraw)) : Act p q p' q
  | withdraw {p q p' : Party} (hstage : p'.stage = p.stage) (hpresent : ¬ p'.present)
      (hwire : p'.wire = p.wire)
      (hduties : Moves p.duties p'.duties (some .withdraw) (some .notify)) : Act p q p' q
  | notify {p q p' : Party} (hstage : p'.stage = p.stage) (hpresent : p'.present ↔ p.present)
      (hwire : p'.wire = p.wire ++ [.notice])
      (hduties : Moves p.duties p'.duties (some .notify) none) : Act p q p' q
  /-- an announcement arrives -/
  | accept {p q p' q' : Party} (hq : q.wire = .announcement :: q'.wire)
      (hstage : p'.stage = some .accepted) (hpresent : p'.present) (hwire : p'.wire = p.wire)
      (hduties : p'.duties = p.duties) (hqstage : q'.stage = q.stage)
      (hqpresent : q'.present ↔ q.present) (hqduties : q'.duties = q.duties) : Act p q p' q'
  /-- a notice arrives -/
  | learn {p q p' q' : Party} (hq : q.wire = .notice :: q'.wire)
      (hstage : p'.stage = p.stage) (hpresent : p'.present ↔ p.present) (hwire : p'.wire = p.wire)
      (hduties : Moves p.duties p'.duties none (some .follow)) (hqstage : q'.stage = q.stage)
      (hqpresent : q'.present ↔ q.present) (hqduties : q'.duties = q.duties) : Act p q p' q'
  | follow {p q p' : Party} (hstage : p'.stage = p.stage) (hpresent : ¬ p'.present)
      (hwire : p'.wire = p.wire) (hduties : Moves p.duties p'.duties (some .follow) none) :
      Act p q p' q

namespace Party

/-- The thing was announced. -/
def Shared (p : Party) : Prop := p.stage = some .established ∨ p.stage = some .accepted

/-- A party has sent a notice, or is about to; `q` has not acted on it yet. -/
def Notifies (p q : Party) : Prop :=
  0 < p.duties .notify ∨ .notice ∈ p.wire ∨ 0 < q.duties .follow

/-- What holds of a party `p` with respect to the other party `q`. -/
structure Ok (p q : Party) : Prop where
  absent : p.stage = none → ¬ p.present ∧ p.wire = [] ∧ ∀ d, p.duties d = 0
  opening : p.stage = some .opening →
    p.present ∧ p.wire = [] ∧ (∀ d, p.duties d = weight (some .announce) d) ∧ q.stage = none
  failed : p.stage = some .failed → (p.present → 0 < p.duties .undo) ∧ p.wire = [] ∧
    (∀ d, d ≠ .undo → p.duties d = 0) ∧ q.stage = none
  established : p.stage = some .established → p.duties .announce = 0 ∧ p.duties .undo = 0 ∧
    ((q.stage = some .accepted ∧ .announcement ∉ p.wire) ∨
      (q.stage = none ∧ ∃ rest, p.wire = .announcement :: rest ∧ .announcement ∉ rest))
  accepted : p.stage = some .accepted → p.duties .announce = 0 ∧ p.duties .undo = 0 ∧
    q.stage = some .established ∧ .announcement ∉ p.wire
  /-- Who has taken its half away tells the other, or the other has taken its own away. -/
  gone : p.Shared → ¬ p.present → p.Notifies q ∨ (q.Shared ∧ ¬ q.present)
  /-- A notice is sent only by who has taken its half away. -/
  told : p.Notifies q → p.Shared ∧ ¬ p.present

end Party

/-! ## What the parties do keeps it -/

variable {p q p' q' : Party} {d : Duty} {done next : Option Duty}

theorem Moves.pos (h : Moves p.duties p'.duties (some d) next) (hne : next ≠ some d) :
    0 < p.duties d := by
  have hd := h d
  rw [weight_self, weight, if_neg hne] at hd
  omega

namespace Party.Ok

/-- What a party has to do tells how its half was made. -/
theorem stage_of_duty (h : Ok p q) (hd : 0 < p.duties d) :
    (p.stage = some .opening ∧ d = .announce) ∨ (p.stage = some .failed ∧ d = .undo) ∨
      (p.Shared ∧ d ≠ .announce ∧ d ≠ .undo) := by
  rcases hs : p.stage with - | - | - | - | -
  · have hzero := (h.absent hs).2.2 d
    omega
  · have hweight := (h.opening hs).2.2.1 d
    grind [weight]
  · have hzero := (h.failed hs).2.2.1 d
    grind
  · have hzero := h.established hs
    grind [Party.Shared]
  · have hzero := h.accepted hs
    grind [Party.Shared]

/-- An announcement arrives where nothing is. -/
theorem absent_of_announcement {rest : List Signal} (h : Ok q p)
    (hwire : q.wire = .announcement :: rest) :
    q.stage = some .established ∧ p.stage = none ∧ .announcement ∉ rest := by
  rcases hs : q.stage with - | - | - | - | -
  · rw [(h.absent hs).2.1] at hwire
    cases hwire
  · rw [(h.opening hs).2.1] at hwire
    cases hwire
  · rw [(h.failed hs).2.1] at hwire
    cases hwire
  · obtain ⟨-, -, ⟨-, hnot⟩ | ⟨hp, rest', hrest, hnot⟩⟩ := h.established hs
    · exact absurd (hwire ▸ List.mem_cons_self) hnot
    · rw [hwire] at hrest
      cases hrest
      exact ⟨rfl, hp, hnot⟩
  · exact absurd (hwire ▸ List.mem_cons_self) (h.accepted hs).2.2.2

end Party.Ok

/-- A party makes the thing. -/
theorem Party.Ok.make (hp : p.Ok q) (hq : q.Ok p) (hpnone : p.stage = none) (hqnone : q.stage = none)
    (hstage : p'.stage = some .opening) (hpresent : p'.present) (hwire : p'.wire = p.wire)
    (hduties : Moves p.duties p'.duties none (some .announce)) : p'.Ok q ∧ q.Ok p' := by
  have hblank := hp.absent hpnone
  have hblank' := hq.absent hqnone
  simp only [Moves, weight] at hduties
  constructor <;> constructor <;> grind [Party.Shared, Party.Notifies, weight]

/-- Whatever a party does keeps what holds of the two. -/
theorem Act.ok (h : Act p q p' q') (hp : p.Ok q) (hq : q.Ok p) : p'.Ok q' ∧ q'.Ok p' := by
  cases h with
  | announce hstage hpresent hwire hduties | fail hstage hpresent hwire hduties =>
    have hst : p.stage = some .opening := by
      simpa using hp.stage_of_duty (hduties.pos (by decide))
    replace hstage := hstage hst
    have hopening := hp.opening hst
    have hblank := hq.absent hopening.2.2.2
    simp only [Moves, weight] at hduties
    constructor <;> constructor <;> grind [Party.Shared, Party.Notifies, weight]
  | undo hstage hpresent hwire hduties =>
    have hst : p.stage = some .failed := by
      simpa using hp.stage_of_duty (hduties.pos (by decide))
    have hfailed := hp.failed hst
    have hblank := hq.absent hfailed.2.2.2
    simp only [Moves, weight] at hduties
    constructor <;> constructor <;> grind [Party.Shared, Party.Notifies, weight]
  | decide hshared hstage hpresent hwire hduties =>
    simp only [Moves, weight] at hduties
    constructor <;> constructor <;> grind [Party.Shared, Party.Notifies, Party.Ok, weight]
  | withdraw hstage hpresent hwire hduties =>
    have hshared : p.Shared := by simpa using hp.stage_of_duty (hduties.pos (by decide))
    simp only [Moves, weight] at hduties
    constructor <;> constructor <;> grind [Party.Shared, Party.Notifies, Party.Ok, weight]
  | notify hstage hpresent hwire hduties =>
    simp only [Moves, weight] at hduties
    constructor <;> constructor <;> grind [Party.Shared, Party.Notifies, Party.Ok, weight]
  | accept hqwire hstage hpresent hwire hduties hqstage hqpresent hqduties =>
    have harrives := hq.absent_of_announcement hqwire
    have hblank := hp.absent harrives.2.1
    have hzero : ∀ d, p'.duties d = 0 := by
      intro d
      rw [hduties]
      exact hblank.2.2 d
    constructor <;> constructor <;> grind [Party.Shared, Party.Notifies, Party.Ok, weight]
  | learn hqwire hstage hpresent hwire hduties hqstage hqpresent hqduties =>
    simp only [Moves, weight] at hduties
    constructor <;> constructor <;> grind [Party.Shared, Party.Notifies, Party.Ok, weight]
  | follow hstage hpresent hwire hduties =>
    simp only [Moves, weight] at hduties
    constructor <;> constructor <;> grind [Party.Shared, Party.Notifies, Party.Ok, weight]

/-- Nothing changes, or one party does something. -/
def Evolves (p q p' q' : Party) : Prop := (p' = p ∧ q' = q) ∨ Act p q p' q'

theorem Evolves.ok (h : Evolves p q p' q') (hp : p.Ok q) (hq : q.Ok p) : p'.Ok q' ∧ q'.Ok p' := by
  rcases h with ⟨rfl, rfl⟩ | hact
  · exact ⟨hp, hq⟩
  · exact hact.ok hp hq

/-- Nobody but the party that makes the thing brings it up. -/
theorem Evolves.stage (h : Evolves p q p' q') (hp : p.Ok q) (hq : q.Ok p) (hsome : p'.stage ≠ none) :
    p.stage ≠ none ∨ q.stage ≠ none := by
  rcases h with ⟨rfl, rfl⟩ | hact
  · exact .inl hsome
  · cases hact with
    | announce _ _ _ hduties | fail _ _ _ hduties =>
      have hst : p.stage = some .opening := by
        simpa using hp.stage_of_duty (hduties.pos (by decide))
      exact .inl (by simp [hst])
    | accept hwire => exact .inr (by simp [(hq.absent_of_announcement hwire).1])
    | undo hstage | withdraw hstage | notify hstage | follow hstage => exact .inl (hstage ▸ hsome)
    | decide _ hstage | learn _ hstage => exact .inl (hstage ▸ hsome)

/-- Nothing is on its way from a party and it has nothing to do. -/
def Party.Idle (p : Party) : Prop := p.wire = [] ∧ ∀ d, p.duties d = 0

/-- When nothing is left to do, who has its half is right to expect the other half. -/
theorem Party.Ok.present_of_idle (hp : p.Ok q) (hq : q.Ok p) (hidle : p.Idle) (hidle' : q.Idle)
    (hpresent : p.present) : q.present := by
  have hshared : q.Shared := by
    rcases hs : p.stage with - | - | - | - | -
    · exact absurd hpresent (hp.absent hs).1
    · have hannounce := (hp.opening hs).2.2.1 .announce
      rw [hidle.2] at hannounce
      cases hannounce
    · exact absurd ((hp.failed hs).1 hpresent) (by rw [hidle.2]; exact Nat.lt_irrefl 0)
    · obtain ⟨-, -, ⟨hq, -⟩ | ⟨-, rest, hrest, -⟩⟩ := hp.established hs
      · exact .inr hq
      · rw [hidle.1] at hrest
        cases hrest
    · exact .inl (hp.accepted hs).2.2.1
  by_contra hgone
  rcases hq.gone hshared hgone with (hnotify | hnotice | hfollow) | ⟨-, hgone'⟩
  · rw [hidle'.2] at hnotify
    exact Nat.lt_irrefl 0 hnotify
  · rw [hidle'.1] at hnotice
    cases hnotice
  · rw [hidle.2] at hfollow
    exact Nat.lt_irrefl 0 hfollow
  · exact hgone' hpresent

end NatP2P.Lifecycle
