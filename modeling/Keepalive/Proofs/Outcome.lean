import Keepalive.Journal

/-!
# Outcomes of steps in a row

A computation that may fail gives a value exactly when each of its steps does; these lemmas take it apart step by step.
-/

namespace Keepalive.Outcome

variable {ε ε' α β : Type}

/-- Steps in a row give a value exactly when the first gives one and the rest does from there. -/
theorem bind_eq_ok {x : Except ε α} {f : α → Except ε β} {b : β} :
    x >>= f = .ok b ↔ ∃ a, x = .ok a ∧ f a = .ok b := by
  cases x with
  | error e => simp [bind, Except.bind]
  | ok a => simp [bind, Except.bind]

/-- Steps in a row fail exactly when the first does or the rest does from there. -/
theorem bind_eq_error {x : Except ε α} {f : α → Except ε β} {e : ε} :
    x >>= f = .error e ↔ x = .error e ∨ ∃ a, x = .ok a ∧ f a = .error e := by
  cases x with
  | error e' => simp [bind, Except.bind]
  | ok a => simp [bind, Except.bind]

/-- A last step that only gives its value. -/
theorem pure_eq_ok {a b : α} : (pure a : Except ε α) = .ok b ↔ a = b := by
  simp [pure, Except.pure]

/-- Renaming faults changes no value. -/
theorem mapError_eq_ok {x : Except ε α} {f : ε → ε'} {a : α} : x.mapError f = .ok a ↔ x = .ok a := by
  cases x with
  | error e =>
    constructor
    · intro h
      cases h
    · intro h
      cases h
  | ok b =>
    constructor
    · intro h
      exact congrArg Except.ok (Except.ok.inj h)
    · intro h
      exact congrArg Except.ok (Except.ok.inj h)

/-- Renaming faults apart keeps outcomes apart. -/
theorem mapError_inj {f : ε → ε'} (hf : ∀ e e', f e = f e' → e = e') {x y : Except ε α} (h : x.mapError f = y.mapError f) :
    x = y := by
  cases x with
  | error e =>
    cases y with
    | error e' => exact congrArg Except.error (hf e e' (Except.error.inj h))
    | ok b => nomatch h
  | ok a =>
    cases y with
    | error e' => nomatch h
    | ok b => exact congrArg Except.ok (Except.ok.inj h)

/-- A value seen as something else comes from a value. -/
theorem map_eq_ok {x : Except ε α} {f : α → β} {b : β} : x.map f = .ok b ↔ ∃ a, x = .ok a ∧ f a = b := by
  cases x with
  | error e => simp [Except.map]
  | ok a => simp [Except.map]

/-- A value seen as something else fails as it does itself. -/
theorem map_eq_error {x : Except ε α} {f : α → β} {e : ε} : x.map f = .error e ↔ x = .error e := by
  cases x with
  | error e' => simp [Except.map]
  | ok a => simp [Except.map]

/-- A step that is known to give a value goes on with it. -/
theorem ok_bind (a : α) (f : α → Except ε β) : (Except.ok a >>= f) = f a := rfl

/-- The fault of an outcome, if it has one. -/
def fault? : Except ε α → Option ε
  | .ok _ => none
  | .error e => some e

theorem fault?_eq_some {x : Except ε α} {e : ε} : fault? x = some e ↔ x = .error e := by
  cases x with
  | error e' => simp [fault?]
  | ok a => simp [fault?]

/-- Steps in a row have the fault of the first that fails, when the later ones fail alike whatever the first gives. -/
theorem fault?_bind {x : Except ε α} {f : α → Except ε β} {later : Option ε} (h : ∀ a, fault? (f a) = later) :
    fault? (x >>= f) = (fault? x).or later := by
  cases x with
  | error e => rfl
  | ok a => exact h a

/-- The first that a list has to give is that of its first item, if it gives anything, and else that of the others. -/
theorem findSome?_cons_eq_or (f : α → Option β) (a : α) (as : List α) :
    (a :: as).findSome? f = (f a).or (as.findSome? f) := by
  rw [List.findSome?_cons]
  cases f a <;> rfl

end Keepalive.Outcome
