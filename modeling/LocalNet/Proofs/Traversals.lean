import Mathlib.Data.List.Forall2

/-!
# Traversals that may fail

When a traversal of a list succeeds, and what it fails with.

- `mapM_eq_ok_iff`, `mapM_eq_error_iff`: all steps succeed, or the first that does not gives its
  fault;
- `mapM_eq_some_iff`, `mapM_map_eq_some`, `mapM_eq_none`: the same for steps that give no reason;
- `length_of_mapM_eq_some`: a traversal that succeeds gives a result for each element;
- `lookup_filter`: a search by key does not miss entries with other keys.
-/

namespace LocalNet

/-! ## Traversals with a fault -/

section Faults

variable {α β ε : Type} {f : α → Except ε β}

/-- A traversal succeeds if every step does. -/
theorem mapM_eq_ok_iff {xs : List α} {ys : List β} :
    xs.mapM f = .ok ys ↔ List.Forall₂ (fun x y => f x = .ok y) xs ys := by
  induction xs generalizing ys with
  | nil => cases ys <;> simp [pure, Except.pure]
  | cons x xs ih =>
    rw [List.mapM_cons]
    cases hx : f x with
    | error e => cases ys <;> simp [bind, Except.bind, hx]
    | ok y =>
      cases hxs : xs.mapM f with
      | error e => cases ys <;> simp [bind, Except.bind, hx, ← ih, hxs]
      | ok zs => cases ys <;> simp [bind, Except.bind, pure, Except.pure, hx, ← ih, hxs]

/-- A traversal fails with the fault of the first step that fails. -/
theorem mapM_eq_error_iff {xs : List α} {e : ε} :
    xs.mapM f = .error e ↔ ∃ before x after, xs = before ++ x :: after ∧
      (∀ b ∈ before, ∃ y, f b = .ok y) ∧ f x = .error e := by
  induction xs with
  | nil => simp [pure, Except.pure]
  | cons x xs ih =>
    rw [List.mapM_cons]
    constructor
    · intro h
      cases hx : f x with
      | error e' =>
        simp only [hx, bind, Except.bind, Except.error.injEq] at h
        exact ⟨[], x, xs, rfl, by simp, h ▸ hx⟩
      | ok y =>
        cases hxs : xs.mapM f with
        | error e' =>
          simp only [hx, hxs, bind, Except.bind, Except.error.injEq] at h
          obtain ⟨before, z, after, rfl, hbefore, hz⟩ := ih.mp (h ▸ hxs)
          exact ⟨x :: before, z, after, rfl, List.forall_mem_cons.mpr ⟨⟨y, hx⟩, hbefore⟩, hz⟩
        | ok ys => simp [hx, hxs, bind, Except.bind, pure, Except.pure] at h
    · rintro ⟨before, z, after, hxs, hbefore, hz⟩
      cases before with
      | nil =>
        obtain ⟨rfl, rfl⟩ := List.cons.inj hxs
        simp [hz, bind, Except.bind]
      | cons b before =>
        obtain ⟨rfl, rfl⟩ := List.cons.inj hxs
        obtain ⟨⟨y, hy⟩, hbefore⟩ := List.forall_mem_cons.mp hbefore
        have hrest := ih.mpr ⟨before, z, after, rfl, hbefore, hz⟩
        simp only [hy, hrest, bind, Except.bind]

/-- A traversal whose steps check an element and map it succeeds if all elements pass. -/
theorem mapM_eq_ok_iff_of_step {p : α → Prop} {g : α → β} {xs : List α} {ys : List β}
    (hstep : ∀ x ∈ xs, ∀ y, f x = .ok y ↔ p x ∧ g x = y) :
    xs.mapM f = .ok ys ↔ (∀ x ∈ xs, p x) ∧ xs.map g = ys := by
  rw [mapM_eq_ok_iff]
  induction xs generalizing ys with
  | nil => simp [eq_comm]
  | cons x xs ih =>
    obtain ⟨hx, hxs⟩ := List.forall_mem_cons.mp hstep
    simp only [List.forall₂_cons_left_iff, hx, ih hxs, List.forall_mem_cons, List.map_cons]
    constructor
    · rintro ⟨_, _, ⟨hp, rfl⟩, ⟨hps, rfl⟩, rfl⟩
      exact ⟨⟨hp, hps⟩, rfl⟩
    · rintro ⟨⟨hp, hps⟩, rfl⟩
      exact ⟨_, _, ⟨hp, rfl⟩, ⟨hps, rfl⟩, rfl⟩

end Faults

/-! ## Traversals without a reason -/

section Absence

variable {α β γ : Type}

/-- A traversal succeeds if every step does. -/
theorem mapM_eq_some_iff {f : α → Option β} {xs : List α} {ys : List β} :
    xs.mapM f = some ys ↔ List.Forall₂ (fun x y => f x = some y) xs ys := by
  induction xs generalizing ys with
  | nil => cases ys <;> simp
  | cons x xs ih =>
    rw [List.mapM_cons]
    cases hx : f x with
    | none => cases ys <;> simp [hx]
    | some y =>
      cases hxs : xs.mapM f with
      | none => cases ys <;> simp [hx, ← ih, hxs]
      | some zs => cases ys <;> simp [hx, ← ih, hxs]

/-- A traversal of a mapped list, if each step succeeds. -/
theorem mapM_map_eq_some {f : β → Option γ} {g : α → β} {k : α → γ} {xs : List α}
    (h : ∀ x ∈ xs, f (g x) = some (k x)) : (xs.map g).mapM f = some (xs.map k) := by
  induction xs with
  | nil => rfl
  | cons x xs ih =>
    obtain ⟨hx, hxs⟩ := List.forall_mem_cons.mp h
    rw [List.map_cons, List.mapM_cons, hx, ih hxs]
    rfl

/-- A traversal gives as many results as there are elements. -/
theorem length_of_mapM_eq_some {f : α → Option β} {xs : List α} {ys : List β}
    (h : xs.mapM f = some ys) : ys.length = xs.length := by
  induction xs generalizing ys with
  | nil =>
    cases h
    rfl
  | cons x xs ih =>
    rw [List.mapM_cons] at h
    obtain ⟨y, -, h⟩ := Option.bind_eq_some_iff.mp h
    obtain ⟨ys, hys, h⟩ := Option.bind_eq_some_iff.mp h
    cases h
    rw [List.length_cons, List.length_cons, ih hys]

/-- A traversal with a step that fails. -/
theorem mapM_eq_none {f : α → Option β} {x : α} {xs : List α} (hmem : x ∈ xs) (hx : f x = none) :
    xs.mapM f = none := by
  induction hmem with
  | head => simp [hx]
  | tail y _ ih => cases hy : f y <;> simp [hy, ih]

end Absence

/-! ## Searches by key -/

/-- Leaving out entries with other keys does not change what is found under a key. -/
theorem lookup_filter {α β : Type} [BEq α] [LawfulBEq α] {p : α × β → Bool} {key : α}
    (hp : ∀ value, p (key, value) = true) (entries : List (α × β)) :
    (entries.filter p).lookup key = entries.lookup key := by
  -- An entry is either left out, and then it has another key, or stays where it was.
  induction entries with
  | nil => rfl
  | cons entry entries ih =>
    obtain ⟨other, value⟩ := entry
    cases hother : p (other, value) with
    | true => rw [List.filter_cons_of_pos hother, List.lookup_cons, List.lookup_cons, ih]
    | false =>
      have hne : (key == other) = false := by
        rw [beq_eq_false_iff_ne]
        rintro rfl
        rw [hp] at hother
        cases hother
      rw [List.filter_cons_of_neg (by simp [hother]), ih, List.lookup_cons, hne]

end LocalNet
