import Mathlib.Data.List.Forall2

/-!
# Computations that can fail

What a computation in several parts says about its parts if it does not fail.
-/

set_option autoImplicit false

namespace HttpTelemetry

theorem exists_of_bind_eq_ok {α β ε : Type} {x : Except ε α} {f : α → Except ε β} {b : β}
    (h : (x >>= f) = .ok b) : ∃ a, x = .ok a ∧ f a = .ok b := by
  cases x with
  | error e => cases h
  | ok a => exact ⟨a, rfl, h⟩

theorem eq_ok_of_mapError {α ε ε' : Type} {x : Except ε α} {f : ε → ε'} {a : α}
    (h : x.mapError f = .ok a) : x = .ok a := by
  cases x with
  | error e => cases h
  | ok b => exact congrArg Except.ok (Except.ok.inj h)

/-- A list that is read to its end has had each of its parts accepted. -/
theorem map_eq_of_mapM_eq_ok {α β ε : Type} {f : α → Except ε β} {l : List α} {results : List β}
    (h : l.mapM f = .ok results) : l.map f = results.map .ok := by
  induction l generalizing results with
  | nil =>
    obtain rfl := Except.ok.inj h
    rfl
  | cons a rest ih =>
    rw [List.mapM_cons] at h
    obtain ⟨b, hb, h⟩ := exists_of_bind_eq_ok h
    obtain ⟨more, hmore, h⟩ := exists_of_bind_eq_ok h
    obtain rfl := Except.ok.inj h
    rw [List.map_cons, List.map_cons, hb, ih hmore]

theorem mapM_eq_ok_iff {α β ε : Type} {f : α → Except ε β} {l : List α} {results : List β} :
    l.mapM f = .ok results ↔ List.Forall₂ (fun a b => f a = .ok b) l results := by
  constructor
  · intro h
    have heq := map_eq_of_mapM_eq_ok h
    rw [← List.forall₂_eq_eq_eq, List.forall₂_map_left_iff, List.forall₂_map_right_iff] at heq
    exact heq
  · intro h
    induction h with
    | nil => rfl
    | cons hfirst hrest ih =>
      rw [List.mapM_cons, hfirst, ih]
      rfl

/-! ### Failures -/

/-- Why a computation fails, if it does. -/
def failure? {α ε : Type} : Except ε α → Option ε
  | .error e => some e
  | .ok _ => none

section Failures

variable {α β ε ε' : Type} {x : Except ε α} {f : α → Except ε β}

theorem failure?_eq_none_iff : failure? x = none ↔ ∃ a, x = .ok a := by
  cases x with
  | error e => simp [failure?]
  | ok a => simp [failure?]

theorem failure?_eq_some_iff {e : ε} : failure? x = some e ↔ x = .error e := by
  cases x with
  | error e' => simp [failure?]
  | ok a => simp [failure?]

theorem failure?_mapError (g : ε → ε') : failure? (x.mapError g) = (failure? x).map g := by
  cases x with
  | error e => rfl
  | ok a => rfl

/-- The first of two failures counts, where the second does not hang on the result of the first
part. -/
theorem failure?_bind {later : Option ε} (h : ∀ a, failure? (f a) = later) :
    failure? (x >>= f) = (failure? x).or later := by
  cases x with
  | error e => rfl
  | ok a => exact h a

theorem failure?_mapM (f : α → Except ε β) (l : List α) :
    failure? (l.mapM f) = l.findSome? fun a => failure? (f a) := by
  induction l with
  | nil => rfl
  | cons a rest ih =>
    rw [List.mapM_cons, List.findSome?_cons]
    cases h : f a with
    | error e => rfl
    | ok b =>
      have hrest : failure? (rest.mapM f >>= fun bs => pure (b :: bs)) =
          (failure? (rest.mapM f)).or none := failure?_bind fun _ => rfl
      exact hrest.trans (Option.or_none.trans ih)

end Failures

end HttpTelemetry
