import Mathlib.Data.List.Forall2
/-!
# Results that may be errors

When a computation that may fail has a result, its steps have results. What
is carried through a list has one exactly if each member has
(`exists_mapM_eq_ok`), and the results then stand side by side with what they
come from (`mapM_eq_ok_iff`).
-/


namespace DocQuery

variable {ε α β : Type}

/-- A computation of two steps succeeds through its first. -/
theorem bind_eq_ok {x : Except ε α} {f : α → Except ε β} {b : β} (h : (x >>= f) = .ok b) :
    ∃ a, x = .ok a ∧ f a = .ok b := by
  cases x with
  | error e => cases h
  | ok a => exact ⟨a, rfl, h⟩

/-- A value that a function makes of a result. -/
theorem map_eq_ok {x : Except ε α} {f : α → β} {b : β} (h : x.map f = .ok b) :
    ∃ a, x = .ok a ∧ f a = b := by
  cases x with
  | error e => cases h
  | ok a => exact ⟨a, rfl, Except.ok.inj h⟩

/-- A function of a result changes nothing about whether there is one. -/
theorem exists_map_eq_ok {x : Except ε α} {g : α → β} :
    (∃ b, g <$> x = .ok b) ↔ ∃ a, x = .ok a := by
  cases x with
  | error e =>
    constructor
    · rintro ⟨_, h⟩
      cases h
    · rintro ⟨_, h⟩
      cases h
  | ok a => exact ⟨fun _ => ⟨a, rfl⟩, fun _ => ⟨g a, rfl⟩⟩

/-! ## Going through a list -/

variable {f : α → Except ε β}

/-- The results of going through a list are those of its members. -/
theorem mapM_eq_ok_iff {xs : List α} {ys : List β} :
    xs.mapM f = .ok ys ↔ List.Forall₂ (fun x y => f x = .ok y) xs ys := by
  induction xs generalizing ys with
  | nil =>
    rw [List.mapM_nil, List.forall₂_nil_left_iff]
    exact ⟨fun h => (Except.ok.inj h).symm, fun h => h ▸ rfl⟩
  | cons x rest ih =>
    rw [List.mapM_cons]
    constructor
    · intro h
      obtain ⟨y, hx, h⟩ := bind_eq_ok h
      obtain ⟨ys', hrest, h⟩ := bind_eq_ok h
      cases h
      exact .cons hx (ih.1 hrest)
    · intro h
      cases h with
      | cons hx hrest =>
        rw [hx, ih.2 hrest]
        rfl

/-- Going through a list succeeds exactly if it does on each member. -/
theorem exists_mapM_eq_ok {xs : List α} :
    (∃ ys, xs.mapM f = .ok ys) ↔ ∀ x ∈ xs, ∃ y, f x = .ok y := by
  induction xs with
  | nil => exact ⟨fun _ _ h => absurd h List.not_mem_nil, fun _ => ⟨[], rfl⟩⟩
  | cons x rest ih =>
    simp only [mapM_eq_ok_iff, List.forall₂_cons_left_iff] at ih ⊢
    rw [List.forall_mem_cons, ← ih]
    constructor
    · rintro ⟨_, y, ys, hy, hys, rfl⟩
      exact ⟨⟨y, hy⟩, ys, hys⟩
    · rintro ⟨⟨y, hy⟩, ys, hys⟩
      exact ⟨_, y, ys, hy, hys, rfl⟩

/-- What is among the results is a result of some member. -/
theorem mem_of_mapM_eq_ok {xs : List α} {ys : List β} (h : xs.mapM f = .ok ys) {y : β} :
    y ∈ ys ↔ ∃ x ∈ xs, f x = .ok y := by
  have hread := mapM_eq_ok_iff.1 h
  clear h
  induction hread with
  | nil => simp
  | @cons x y' rest ys' hx _ ih =>
    simp only [List.mem_cons, ih, exists_eq_or_imp, hx, Except.ok.injEq]
    exact or_congr_left eq_comm

end DocQuery
