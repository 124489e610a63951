import Mathlib.Data.List.Basic

/-!
# Runs

A machine takes a state and an event to a next state and an output. Its run over a list of events
collects the outputs in order. What holds at the beginning and is kept by every step holds at the
end of every run; the statement may be about the state together with everything that was put out so
far, and the events may be required to meet a condition in the states in which they happen.
-/

namespace NatP2P

variable {S E O : Type*}

/-- The state behind a list of events, and the outputs on the way. -/
def runSteps (step : S → E → S × O) (state : S) : List E → S × List O
  | [] => (state, [])
  | event :: events =>
    let (next, output) := step state event
    let (final, outputs) := runSteps step next events
    (final, output :: outputs)

theorem runSteps_cons (step : S → E → S × O) (state : S) (event : E) (events : List E) :
    runSteps step state (event :: events) = ((runSteps step (step state event).1 events).1,
        (step state event).2 :: (runSteps step (step state event).1 events).2) := rfl

theorem runSteps_concat (step : S → E → S × O) (state : S) (events : List E) (event : E) :
    runSteps step state (events ++ [event]) = ((step (runSteps step state events).1 event).1,
        (runSteps step state events).2 ++ [(step (runSteps step state events).1 event).2]) := by
  induction events generalizing state with
  | nil => rfl
  | cons first events ih =>
    rw [List.cons_append, runSteps_cons, ih]
    rfl

/-- Every event of a run meets `allowed` in the state in which it happens. -/
def Along (step : S → E → S × O) (allowed : S → E → Prop) (state : S) : List E → Prop
  | [] => True
  | event :: events => allowed state event ∧ Along step allowed (step state event).1 events

instance Along.decidable (step : S → E → S × O) (allowed : S → E → Prop)
    [∀ state event, Decidable (allowed state event)] (state : S) (events : List E) :
    Decidable (Along step allowed state events) :=
  match events with
  | [] => .isTrue trivial
  | event :: events =>
    have := Along.decidable step allowed (step state event).1 events
    inferInstanceAs (Decidable (_ ∧ _))

section Induction

variable {step : S → E → S × O} {allowed : S → E → Prop}

/-- A condition that depends on the event only may be checked event by event. -/
theorem along_of_forall {state : S} {events : List E}
    (h : ∀ event ∈ events, ∀ state, allowed state event) : Along step allowed state events := by
  induction events generalizing state with
  | nil => trivial
  | cons event events ih =>
    refine ⟨h event List.mem_cons_self state, ih ?_⟩
    intro other hother
    exact h other (List.mem_cons_of_mem _ hother)

/-- A condition may be weakened at the events of the run. -/
theorem along_mono {allowed' : S → E → Prop} {state : S} {events : List E}
    (himp : ∀ state, ∀ event ∈ events, allowed state event → allowed' state event)
    (h : Along step allowed state events) : Along step allowed' state events := by
  induction events generalizing state with
  | nil => trivial
  | cons event events ih =>
    refine ⟨himp state event List.mem_cons_self h.1, ih ?_ h.2⟩
    intro state other hother
    exact himp state other (List.mem_cons_of_mem _ hother)

theorem along_and {allowed' : S → E → Prop} {state : S} {events : List E}
    (h : Along step allowed state events) (h' : Along step allowed' state events) :
    Along step (fun state event => allowed state event ∧ allowed' state event) state events := by
  induction events generalizing state with
  | nil => trivial
  | cons event events ih => exact ⟨⟨h.1, h'.1⟩, ih h.2 h'.2⟩

/-- A run of two parts meets a condition when both parts do. -/
theorem along_append {state : S} {first second : List E} :
    Along step allowed state (first ++ second) ↔
      Along step allowed state first ∧ Along step allowed (runSteps step state first).1 second := by
  induction first generalizing state with
  | nil => exact ⟨fun h => ⟨trivial, h⟩, fun h => h.2⟩
  | cons event first ih =>
    show _ ∧ Along step allowed _ (first ++ second) ↔ _
    rw [ih, ← and_assoc]
    rfl

theorem runSteps_append (state : S) (first second : List E) :
    (runSteps step state (first ++ second)).1 =
      (runSteps step (runSteps step state first).1 second).1 := by
  induction first generalizing state with
  | nil => rfl
  | cons event first ih => exact ih (step state event).1

theorem runSteps_append_outputs (state : S) (first second : List E) :
    (runSteps step state (first ++ second)).2 =
      (runSteps step state first).2 ++ (runSteps step (runSteps step state first).1 second).2 := by
  induction first generalizing state with
  | nil => rfl
  | cons event first ih => exact congrArg ((step state event).2 :: ·) (ih (step state event).1)

/-- What every step keeps, a run keeps. The induction is on the events; the outputs of the steps
that are already taken are part of the statement. -/
theorem runSteps_induction {motive : S → List O → Prop}
    (hstep : ∀ state history event, allowed state event → motive state history →
      motive (step state event).1 (history ++ [(step state event).2]))
    {state : S} {history : List O} {events : List E} (halong : Along step allowed state events)
    (hstart : motive state history) :
    motive (runSteps step state events).1 (history ++ (runSteps step state events).2) := by
  induction events generalizing state history with
  | nil => simpa [runSteps] using hstart
  | cons event events ih =>
    have hrun := ih halong.2 (hstep state history event halong.1 hstart)
    rw [List.append_assoc] at hrun
    exact hrun

/-- What every step that meets a condition keeps of a state holds behind every run that meets it. -/
theorem runSteps_along {motive : S → Prop} {state : S} {events : List E}
    (halong : Along step allowed state events) (hstart : motive state)
    (hstep : ∀ state event, allowed state event → motive state → motive (step state event).1) :
    motive (runSteps step state events).1 := by
  induction events generalizing state with
  | nil => exact hstart
  | cons event events ih => exact ih halong.2 (hstep state event halong.1 hstart)

/-- What every step keeps of a state holds behind every run. -/
theorem runSteps_invariant {motive : S → Prop} {state : S} (hstart : motive state)
    (hstep : ∀ state event, motive state → motive (step state event).1) (events : List E) :
    motive (runSteps step state events).1 := by
  induction events generalizing state with
  | nil => exact hstart
  | cons event events ih => exact ih (hstep state event hstart)

end Induction

end NatP2P
