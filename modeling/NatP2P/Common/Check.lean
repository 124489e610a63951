import Mathlib.Tactic.Common

/-!
# Early returns

Most functions of the program are a list of checks, each of which returns its own error, followed
by a result. In the model such a function is a `do` block over `Except` whose checks are written
`check bad err`. The lemmas below turn "the function succeeded" into the conjunction of the negated
conditions, so no proof ever unfolds a chain of early returns by hand.
-/

namespace NatP2P

/-- `if bad { return err }`. -/
def check {ε : Type*} (bad : Prop) [Decidable bad] (err : ε) : Except ε Unit :=
  if bad then .error err else .ok ()

@[simp]
theorem check_ok_iff {ε : Type*} {bad : Prop} [Decidable bad] {err : ε} {u : Unit} :
    check bad err = .ok u ↔ ¬ bad := by
  by_cases h : bad <;> simp [check, h]

/-- A sequence of two fallible computations succeeds exactly when the first one yields a value on
which the second succeeds. -/
@[simp]
theorem except_bind_ok_iff {ε : Type*} {α β : Type*} {first : Except ε α} {next : α → Except ε β}
    {b : β} : first.bind next = .ok b ↔ ∃ a, first = .ok a ∧ next a = .ok b := by
  constructor
  · intro h
    match first, h with
    | .ok a, h => exact ⟨a, rfl, h⟩
  · rintro ⟨a, rfl, h⟩
    exact h

@[simp]
theorem bind_ok_iff {ε : Type*} {α β : Type} {first : Except ε α} {next : α → Except ε β}
    {b : β} : (first >>= next) = .ok b ↔ ∃ a, first = .ok a ∧ next a = .ok b :=
  except_bind_ok_iff

/-- A computation that only checks hands nothing on. -/
@[simp]
theorem exists_unit_iff {p : Unit → Prop} : (∃ u, p u) ↔ p () :=
  ⟨fun ⟨(), h⟩ => h, fun h => ⟨(), h⟩⟩

/-- A check passes if its condition does not hold. -/
theorem check_bind_ok_iff {ε : Type*} {β : Type} {bad : Prop} [Decidable bad] {err : ε}
    {next : Unit → Except ε β} {b : β} :
    (check bad err >>= next) = .ok b ↔ ¬ bad ∧ next () = .ok b := by
  rw [bind_ok_iff, exists_unit_iff, check_ok_iff]

@[simp]
theorem pure_ok_iff {ε : Type*} {α : Type} {a b : α} : (pure a : Except ε α) = .ok b ↔ a = b :=
  Except.ok.injEq a b ▸ Iff.rfl

@[simp]
theorem mapError_ok_iff {ε ε' α : Type*} {wrap : ε → ε'} {x : Except ε α} {a : α} :
    x.mapError wrap = .ok a ↔ x = .ok a := by
  cases x <;> simp [Except.mapError]

/-- Two computations that make the same checks agree if they agree behind them. -/
theorem check_bind_congr {ε α β : Type} {bad bad' : Prop} [Decidable bad] [Decidable bad'] {e : ε}
    {k : Except ε α} {k' : Except ε β} {f : α → β} (hbad : bad ↔ bad') (hk : ¬ bad → k.map f = k') :
    (do check bad e; k).map f = (do check bad' e; k') := by
  by_cases h : bad
  · have h' := hbad.mp h
    simp only [check, h, h', if_true]
    rfl
  · have h' : ¬ bad' := fun h' => h (hbad.mpr h')
    simp only [check, h, h', if_false]
    exact hk h

end NatP2P
