import Mathlib.Data.List.Basic

/-!
# Lists with slots

The threads of a program, or its calls, are a list in which a step changes one element in place.
Counting the elements with a property then changes by what the old and the new element contribute.
-/

namespace NatP2P

open List Option

variable {α : Type*} {l : List α} {i j : ℕ} {a b : α} {p : α → Bool}

theorem lt_of_getElem? (h : l[i]? = some a) : i < l.length := (List.getElem?_eq_some_iff.mp h).1

/-- Changing one element exchanges its contribution to a count. -/
theorem countP_set_add (h : l[i]? = some a) (b : α) (p : α → Bool) :
    (l.set i b).countP p + (if p a then 1 else 0) = l.countP p + (if p b then 1 else 0) := by
  obtain ⟨hlt, rfl⟩ := List.getElem?_eq_some_iff.mp h
  have hle := List.boole_getElem_le_countP (p := p) hlt
  rw [List.countP_set hlt]
  omega

variable {ls : List (List α)}

/-- The same for the elements of the lists in a list. -/
theorem countP_flatten_set (h : ls[i]? = some l) (l' : List α) (p : α → Bool) :
    (ls.set i l').flatten.countP p + l.countP p = ls.flatten.countP p + l'.countP p := by
  induction ls generalizing i with
  | nil => cases h
  | cons head ls ih =>
    cases i with
    | zero =>
      obtain rfl := some.inj h
      simp only [set_cons_zero, flatten_cons, countP_append]
      omega
    | succ i =>
      have htail := ih h
      simp only [set_cons_succ, flatten_cons, countP_append]
      omega

theorem mem_flatten_of_getElem? (h : ls[i]? = some l) (ha : a ∈ l) : a ∈ ls.flatten :=
  mem_flatten.mpr ⟨l, mem_of_getElem? h, ha⟩

theorem mem_flatten_of_set (h : a ∈ (ls.set i l).flatten) : a ∈ ls.flatten ∨ a ∈ l := by
  obtain ⟨l', hmem, ha⟩ := mem_flatten.mp h
  rcases mem_or_eq_of_mem_set hmem with hold | rfl
  · exact .inl (mem_flatten.mpr ⟨l', hold, ha⟩)
  · exact .inr ha

theorem mem_flatten_set (h : ls[i]? = some l) (l' : List α) (ha : a ∈ ls.flatten) :
    a ∈ (ls.set i l').flatten ∨ a ∈ l := by
  obtain ⟨l₁, hmem, ha⟩ := mem_flatten.mp ha
  obtain ⟨j, hj⟩ := mem_iff_getElem?.mp hmem
  by_cases hij : i = j
  · subst hij
    exact .inr (mem_unique hj h ▸ ha)
  · exact .inl (mem_flatten_of_getElem? ((getElem?_set_ne hij).trans hj) ha)

theorem getElem?_set_of_some (h : l[i]? = some a) : (l.set i b)[i]? = some b :=
  getElem?_set_self (lt_of_getElem? h)

theorem getElem?_set_cases (h : (l.set i b)[j]? = some a) :
    (j = i ∧ a = b) ∨ (j ≠ i ∧ l[j]? = some a) := by
  rw [getElem?_set] at h
  split_ifs at h with hij hlt
  · exact .inl ⟨hij.symm, (some.inj h).symm⟩
  · exact .inr ⟨fun heq => hij heq.symm, h⟩

variable {f : α → α}

theorem getElem?_modify_cases (h : (l.modify i f)[j]? = some b) :
    ∃ a, l[j]? = some a ∧ b = if i = j then f a else a := by
  rw [getElem?_modify, Option.map_eq_map, Option.map_eq_some_iff] at h
  obtain ⟨a, ha, rfl⟩ := h
  exact ⟨a, ha, by split_ifs <;> rfl⟩

theorem getElem?_modify_of_some (h : l[j]? = some a) (i : ℕ) :
    (l.modify i f)[j]? = some (if i = j then f a else a) := by
  rw [getElem?_modify, h]
  split_ifs <;> rfl

theorem getElem?_append_cases (h : (l ++ [b])[j]? = some a) :
    (j = l.length ∧ a = b) ∨ (j < l.length ∧ l[j]? = some a) := by
  rcases Nat.lt_trichotomy j l.length with hlt | rfl | hgt
  · rw [getElem?_append_left hlt] at h
    exact .inr ⟨hlt, h⟩
  · exact .inl ⟨rfl, by simpa using h.symm⟩
  · rw [getElem?_eq_none (by simp; omega)] at h
    cases h

theorem getElem?_append_of_some (h : l[i]? = some a) (rest : List α) :
    (l ++ rest)[i]? = some a := by
  rw [getElem?_append_left (lt_of_getElem? h), h]

/-- A change that a map does not see. -/
theorem map_set_of_eq {β : Type*} {f : α → β} (h : l[i]? = some a) (hf : f b = f a) :
    (l.set i b).map f = l.map f := by
  apply ext_getElem?
  intro j
  rcases Nat.decEq i j with hne | rfl
  · rw [getElem?_map, getElem?_set_ne hne, getElem?_map]
  · have hlt : i < l.length := lt_of_getElem? h
    rw [getElem?_map, getElem?_set_self hlt, getElem?_map, h, map_some, map_some, hf]

/-- What some element has after one of them was changed, the changed one has, or some element had it
before. -/
theorem exists_mem_of_modify {p : α → Prop} (h : ∃ x ∈ l.modify i f, p x) :
    (∃ x, l[i]? = some x ∧ p (f x)) ∨ ∃ x ∈ l, p x := by
  obtain ⟨y, hmem, hy⟩ := h
  obtain ⟨j, hj⟩ := mem_iff_getElem?.mp hmem
  rw [getElem?_modify] at hj
  obtain ⟨x, hx, rfl⟩ := map_eq_some_iff.mp hj
  by_cases hij : i = j
  · subst hij
    rw [if_pos rfl] at hy
    exact .inl ⟨x, hx, hy⟩
  · rw [if_neg hij] at hy
    exact .inr ⟨x, mem_of_getElem? hx, hy⟩

/-- What some element has, some element has after a change that keeps it. -/
theorem exists_mem_modify {p : α → Prop}
    (hkeep : ∀ x, l[i]? = some x → p x → p (f x)) (h : ∃ x ∈ l, p x) : ∃ x ∈ l.modify i f, p x := by
  obtain ⟨x, hmem, hx⟩ := h
  obtain ⟨j, hj⟩ := mem_iff_getElem?.mp hmem
  have hget : (l.modify i f)[j]? = some (if i = j then f x else x) := by
    rw [getElem?_modify, hj]
    split_ifs <;> rfl
  refine ⟨_, mem_of_getElem? hget, ?_⟩
  split_ifs with hij
  · subst hij
    exact hkeep x hj hx
  · exact hx

/-- What all elements have, all have after a change that keeps it. -/
theorem forall_mem_modify {p : α → Prop} (h : ∀ x ∈ l, p x) (hkeep : ∀ x, p x → p (f x)) :
    ∀ x ∈ l.modify i f, p x := by
  intro y hmem
  obtain ⟨j, hj⟩ := mem_iff_getElem?.mp hmem
  obtain ⟨x, hx, rfl⟩ := getElem?_modify_cases hj
  split_ifs
  · exact hkeep x (h x (mem_of_getElem? hx))
  · exact h x (mem_of_getElem? hx)

/-- A changed element exchanges its contribution to a list that is put together from all of them. -/
theorem flatMap_modify_perm {β : Type*} {g : α → List β} (h : l[i]? = some a) :
    ((l.modify i f).flatMap g ++ g a).Perm (l.flatMap g ++ g (f a)) := by
  induction l generalizing i with
  | nil => cases h
  | cons head l ih =>
    cases i with
    | zero =>
      obtain rfl := some.inj h
      simp only [modify_zero_cons, flatMap_cons]
      refine perm_append_comm.trans ?_
      rw [append_assoc]
      exact perm_append_comm.append_left _
    | succ i =>
      simp only [modify_succ_cons, flatMap_cons, append_assoc]
      exact (ih h).append_left _

/-- Taking one element out of a list leaves the others. -/
theorem mem_eraseIdx_or (h : l[i]? = some a) (hb : b ∈ l) : b ∈ l.eraseIdx i ∨ b = a := by
  obtain ⟨j, hj⟩ := mem_iff_getElem?.mp hb
  by_cases hij : j = i
  · subst hij
    exact .inr (mem_unique hj h)
  · exact .inl (mem_eraseIdx_iff_getElem?.mpr ⟨j, hij, hj⟩)

theorem mem_modify_of_getElem? (h : l[i]? = some a) : f a ∈ l.modify i f := by
  apply mem_of_getElem?
  rw [getElem?_modify, h]
  exact congrArg some (if_pos rfl)

end NatP2P
