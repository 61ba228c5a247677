import Mathlib.Data.List.Forall2

/-!
# Outcomes that were put together

A result that is put together from others succeeds if all of them do, and fails as the first of
them that fails.

## Main definitions

* `Settles`: what a result succeeds with, and what it fails with, are of given sorts.

## Main results

* `bind_eq_ok_iff`, `bind_eq_error_iff`: two results one after the other.
* `mapM_eq_ok_iff`, `mapM_eq_error_iff`: results over a list.
* `exists_ok_iff`: when a result succeeds, from what holds after a success and after a failure.
-/

namespace DocGraph

variable {ε ε' α β : Type}

theorem bind_eq_ok_iff {x : Except ε α} {f : α → Except ε β} {b : β} :
    (x >>= f) = .ok b ↔ ∃ a, x = .ok a ∧ f a = .ok b := by
  cases x <;> simp [bind, Except.bind]

theorem bind_eq_error_iff {x : Except ε α} {f : α → Except ε β} {e : ε} :
    (x >>= f) = .error e ↔ x = .error e ∨ ∃ a, x = .ok a ∧ f a = .error e := by
  cases x <;> simp [bind, Except.bind]

theorem map_eq_ok_iff {x : Except ε α} {f : α → β} {b : β} :
    x.map f = .ok b ↔ ∃ a, x = .ok a ∧ f a = b := by
  cases x <;> simp [Except.map]

theorem map_eq_error_iff {x : Except ε α} {f : α → β} {e : ε} :
    x.map f = .error e ↔ x = .error e := by
  cases x <;> simp [Except.map]

theorem mapError_eq_ok_iff {x : Except ε α} {f : ε → ε'} {a : α} :
    x.mapError f = .ok a ↔ x = .ok a := by
  cases x <;> simp [Except.mapError]

theorem mapError_eq_error_iff {x : Except ε α} {f : ε → ε'} {e : ε'} :
    x.mapError f = .error e ↔ ∃ fault, x = .error fault ∧ f fault = e := by
  cases x <;> simp [Except.mapError]

/-- A result succeeds exactly if something holds, where it holds after every success and after no
failure. -/
theorem exists_ok_iff {x : Except ε α} {P : Prop} (accepted : ∀ a, x = .ok a → P)
    (refused : ∀ e, x = .error e → ¬ P) : (∃ a, x = .ok a) ↔ P := by
  cases x with
  | ok a => exact iff_of_true ⟨a, rfl⟩ (accepted a rfl)
  | error e => exact iff_of_false nofun (refused e rfl)

theorem toOption_eq_some_iff {x : Except ε α} {a : α} : x.toOption = some a ↔ x = .ok a := by
  cases x <;> simp [Except.toOption]

/-- Taking results over a list succeeds with one value for every member, in order. -/
theorem mapM_eq_ok_iff (f : α → Except ε β) (xs : List α) (ys : List β) :
    xs.mapM f = .ok ys ↔ List.Forall₂ (fun x y => f x = .ok y) xs ys := by
  induction xs generalizing ys with
  | nil => cases ys <;> simp [pure, Except.pure]
  | cons x xs ih =>
    rw [List.mapM_cons]
    cases h : f x with
    | error fault => cases ys <;> simp [bind, Except.bind, h]
    | ok y =>
      cases rest : xs.mapM f with
      | error fault => cases ys <;> simp [bind, Except.bind, ← ih, rest, h]
      | ok others =>
        cases ys <;> simp [bind, Except.bind, pure, Except.pure, ← ih, rest, h]

/-- Results that are changed after they are taken over a list. -/
theorem mapM_map_eq {γ : Type} (f : α → Except ε β) (g : β → γ) (xs : List α) :
    (xs.mapM fun x => (f x).map g) = (xs.mapM f).map (·.map g) := by
  induction xs with
  | nil => rfl
  | cons x xs ih =>
    rw [List.mapM_cons, List.mapM_cons, ih]
    cases f x with
    | error fault => rfl
    | ok y => cases xs.mapM f <;> rfl

/-- Taking results over a list fails as the first member that fails. -/
theorem mapM_eq_error_iff (f : α → Except ε β) (xs : List α) (e : ε) :
    xs.mapM f = .error e ↔ ∃ before x later, xs = before ++ x :: later ∧
      (∀ y ∈ before, ∃ b, f y = .ok b) ∧ f x = .error e := by
  induction xs with
  | nil => simp [pure, Except.pure]
  | cons x xs ih =>
    rw [List.mapM_cons, bind_eq_error_iff]
    constructor
    · rintro (failed | ⟨b, first, further⟩)
      · exact ⟨[], x, xs, rfl, by simp, failed⟩
      · obtain failed | ⟨_, -, ⟨⟩⟩ := bind_eq_error_iff.mp further
        obtain ⟨before, y, later, rfl, passed, failed⟩ := ih.mp failed
        exact ⟨x :: before, y, later, rfl, List.forall_mem_cons.mpr ⟨⟨b, first⟩, passed⟩, failed⟩
    · rintro ⟨before, y, later, split, passed, failed⟩
      rcases List.cons_eq_append_iff.mp split with ⟨rfl, ⟨⟩⟩ | ⟨before, rfl, rfl⟩
      · exact .inl failed
      · obtain ⟨⟨b, first⟩, passed⟩ := List.forall_mem_cons.mp passed
        have rest := ih.mpr ⟨before, y, later, rfl, passed, failed⟩
        exact .inr ⟨b, first, bind_eq_error_iff.mpr (.inl rest)⟩

theorem exists_error_of_mapM {f : α → Except ε β} {xs : List α} {e : ε}
    (h : xs.mapM f = .error e) : ∃ x ∈ xs, f x = .error e := by
  obtain ⟨before, x, later, rfl, -, failed⟩ := (mapM_eq_error_iff f xs e).mp h
  exact ⟨x, by simp, failed⟩

theorem exists_left_of_forall₂ {R : α → β → Prop} {as : List α} {bs : List β}
    (h : List.Forall₂ R as bs) {b : β} (mem : b ∈ bs) : ∃ a ∈ as, R a b := by
  induction h with
  | nil => cases mem
  | @cons a _ _ _ related _ ih =>
    rcases List.mem_cons.mp mem with rfl | mem
    · exact ⟨a, by simp, related⟩
    · obtain ⟨a, among, related⟩ := ih mem
      exact ⟨a, by simp [among], related⟩

/-- Every value that is taken over a list is that of a member. -/
theorem exists_of_mem_mapM {f : α → Except ε β} {xs : List α} {ys : List β}
    (h : xs.mapM f = .ok ys) {y : β} (mem : y ∈ ys) : ∃ x ∈ xs, f x = .ok y :=
  exists_left_of_forall₂ ((mapM_eq_ok_iff f xs ys).mp h) mem

/-- Members that are related by what they have in common. -/
theorem map_eq_map_of_forall₂ {γ : Type} {f : α → γ} {g : β → γ} {xs : List α} {ys : List β}
    (h : List.Forall₂ (fun x y => f x = g y) xs ys) : xs.map f = ys.map g := by
  have same : List.Forall₂ (· = ·) (xs.map f) (ys.map g) := by
    rwa [List.forall₂_map_left_iff, List.forall₂_map_right_iff]
  rwa [List.forall₂_eq_eq_eq] at same

/-! ## Sorts of results -/

/-- A result succeeds with something of one sort, or fails with something of another. -/
def Settles (sort : α → Prop) (faults : ε → Prop) : Except ε α → Prop
  | .ok a => sort a
  | .error e => faults e

namespace Settles

variable {sort : α → Prop} {other : β → Prop} {faults : ε → Prop} {x : Except ε α}

theorem of_any (x : Except ε α) : Settles (fun _ => True) (fun _ => True) x := by
  cases x <;> trivial

theorem of_ok {a : α} (h : Settles sort faults x) (succeeds : x = .ok a) : sort a := by
  rwa [succeeds] at h

theorem of_error {e : ε} (h : Settles sort faults x) (fails : x = .error e) : faults e := by
  rwa [fails] at h

theorem imp {sort' : α → Prop} {faults' : ε → Prop} (h : Settles sort faults x)
    (ok : ∀ a, sort a → sort' a) (error : ∀ e, faults e → faults' e) :
    Settles sort' faults' x := by
  cases x with
  | ok a => exact ok a h
  | error e => exact error e h

theorem bind {next : α → Except ε β} (h : Settles sort faults x)
    (further : ∀ a, sort a → Settles other faults (next a)) :
    Settles other faults (x >>= next) := by
  cases x with
  | ok a => exact further a h
  | error e => exact h

/-- What the first result succeeds with makes no difference. -/
theorem andThen {next : α → Except ε β} (h : Settles (fun _ => True) faults x)
    (further : ∀ a, Settles other faults (next a)) : Settles other faults (x >>= next) :=
  h.bind fun a _ => further a

theorem map {f : α → β} (h : Settles sort faults x) (further : ∀ a, sort a → other (f a)) :
    Settles other faults (f <$> x) := by
  cases x with
  | ok a => exact further a h
  | error e => exact h

theorem mapError {f : ε → ε'} {faults' : ε' → Prop} (h : Settles sort faults x)
    (further : ∀ e, faults e → faults' (f e)) : Settles sort faults' (x.mapError f) := by
  cases x with
  | ok a => exact h
  | error e => exact further e h

/-- A state that is carried along a list stays of its sort. -/
theorem foldlM {step : β → α → Except ε β} {as : List α}
    (each : ∀ a ∈ as, ∀ b, other b → Settles other faults (step b a)) {b : β} (start : other b) :
    Settles other faults (as.foldlM step b) := by
  induction as generalizing b with
  | nil => exact start
  | cons a rest ih =>
    obtain ⟨first, further⟩ := List.forall_mem_cons.mp each
    rw [List.foldlM_cons]
    exact (first b start).bind fun b' within => ih further within

end Settles

end DocGraph
