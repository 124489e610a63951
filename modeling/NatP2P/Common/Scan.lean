import Mathlib.Data.List.Basic

/-!
# Scanning a log block by block

A log is read by a step function that looks at the unread rest and either fails, stops, or takes
one block off the front and moves the reader's state. `scan` runs the step until it stops. `Scans`
says that a stretch of the log is a sequence of whole blocks; it composes with what is appended
later, which is what recovery arguments need, while `scan` itself only ever sees one file.
-/

namespace NatP2P

open List

section Scan

variable {σ α ε : Type} (step : σ → List α → Except ε (Option (σ × List α)))

/-- Run `step` until it stops, at most `fuel` times. -/
def scan : ℕ → σ → List α → Except ε σ
  | 0, s, _ => .ok s
  | fuel + 1, s, rest =>
    match step s rest with
    | .error e => .error e
    | .ok none => .ok s
    | .ok (some (s', rest')) => scan fuel s' rest'

/-- `block` is taken off the front whatever follows it. -/
def Takes (s : σ) (block : List α) (s' : σ) : Prop :=
  block ≠ [] ∧ ∀ tail, step s (block ++ tail) = .ok (some (s', tail))

/-- The step never looks behind the block it takes. -/
def Consumes : Prop :=
  ∀ s rest s' rest', step s rest = .ok (some (s', rest')) →
    ∃ block, rest = block ++ rest' ∧ Takes step s block s'

/-- `Scans step s bs s'`: the bytes `bs` are whole blocks that lead from `s` to `s'`. -/
inductive Scans : σ → List α → σ → Prop
  | nil (s : σ) : Scans s [] s
  | cons {s s' s'' : σ} {block rest : List α} (head : Takes step s block s')
      (tail : Scans s' rest s'') : Scans s (block ++ rest) s''

variable {step}

variable {s' s : σ} {block : List α}

theorem Scans.single (h : Takes step s block s') : Scans step s block s' := by
  have hscan := Scans.cons h (Scans.nil s')
  rwa [append_nil] at hscan

variable {front : List α} {s'' : σ}

theorem Scans.append {back : List α} (hfront : Scans step s front s')
    (hback : Scans step s' back s'') : Scans step s (front ++ back) s'' := by
  induction hfront with
  | nil s => exact hback
  | cons head _ ih =>
    rw [append_assoc]
    exact .cons head (ih hback)

/-- One more block at the end of the log. -/
theorem Scans.snoc (hfront : Scans step s front s')
    (hblock : Takes step s' block s'') : Scans step s (front ++ block) s'' :=
  hfront.append (.single hblock)

variable {bs : List α}

/-- What every step preserves holds behind the scanned stretch. -/
theorem Scans.invariant {P : σ → Prop} (h : Scans step s bs s')
    (hP : ∀ s block s', P s → Takes step s block s' → P s') (hs : P s) : P s' := by
  induction h with
  | nil s => exact hs
  | cons head _ ih => exact ih (hP _ _ _ hs head)

variable {fuel : ℕ}

/-- Whole blocks followed by a rest at which the step stops are scanned to the state behind the
blocks. -/
theorem scan_of_scans {tail : List α} (h : Scans step s bs s')
    (hstop : step s' tail = .ok none) (hfuel : bs.length < fuel) :
    scan step fuel s (bs ++ tail) = .ok s' := by
  induction h generalizing fuel with
  | nil s =>
    obtain ⟨fuel, rfl⟩ : ∃ k, fuel = k + 1 := ⟨fuel - 1, by omega⟩
    rw [nil_append, scan, hstop]
  | @cons s s₁ s₂ block rest head _ ih =>
    obtain ⟨hne, htake⟩ := head
    have hpos := length_pos_iff.mpr hne
    rw [length_append] at hfuel
    obtain ⟨fuel, rfl⟩ : ∃ k, fuel = k + 1 := ⟨fuel - 1, by omega⟩
    rw [append_assoc, scan, htake]
    exact ih hstop (by omega)

/-- A successful scan splits the log into whole blocks and a rest at which the step stops. -/
theorem scans_of_scan (hstep : Consumes step) {rest : List α}
    (h : scan step fuel s rest = .ok s') (hfuel : rest.length < fuel) :
    ∃ bs tail, rest = bs ++ tail ∧ Scans step s bs s' ∧ step s' tail = .ok none := by
  induction fuel generalizing s rest with
  | zero => omega
  | succ fuel ih =>
    rw [scan] at h
    split at h
    · cases h
    · next hstop =>
      obtain rfl : s = s' := by simpa using h
      exact ⟨[], rest, rfl, .nil s, hstop⟩
    · next s₁ rest₁ htake =>
      obtain ⟨block, rfl, hblock⟩ := hstep _ _ _ _ htake
      have hpos := length_pos_iff.mpr hblock.1
      rw [length_append] at hfuel
      obtain ⟨bs, tail, rfl, hscans, hstop⟩ := ih h (by omega)
      exact ⟨block ++ bs, tail, by rw [append_assoc], .cons hblock hscans, hstop⟩

end Scan

end NatP2P
