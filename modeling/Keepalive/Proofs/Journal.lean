import Keepalive.Journal

/-!
# Work and its records

Work that comes to a value goes on with it, and work that fails stops or is caught; the records of what was done stay in front.
What holds of the records of each part holds of all of them (`Leaves`).
-/

namespace Keepalive.Logged

variable {ε ε' α β : Type}

/-- Work that comes to a value goes on with it. -/
theorem bind_of_ok {first : Logged ε α} {a : α} (h : first.outcome = .ok a) (next : α → Logged ε β) :
    first >>= next = ⟨first.records ++ (next a).records, (next a).outcome⟩ := by
  show andThen first next = _
  rw [andThen, h]

/-- Work that fails does not go on. -/
theorem bind_of_error {first : Logged ε α} {fault : ε} (h : first.outcome = .error fault) (next : α → Logged ε β) :
    first >>= next = ⟨first.records, .error fault⟩ := by
  show andThen first next = _
  rw [andThen, h]

/-- An outcome that is a value is gone on with, and leaves no record. -/
theorem ofExcept_bind_ok {outcome : Except ε α} {a : α} (h : outcome = .ok a) (next : α → Logged ε β) :
    ofExcept outcome >>= next = next a := by
  subst h
  rfl

/-- An outcome that is a fault is not gone on with, and leaves no record. -/
theorem ofExcept_bind_error {outcome : Except ε α} {fault : ε} (h : outcome = .error fault) (next : α → Logged ε β) :
    ofExcept outcome >>= next = ⟨[], .error fault⟩ := by
  subst h
  rfl

/-- Work that is seen as something else ends as itself, seen so. -/
theorem outcome_map (f : α → β) (work : Logged ε α) : (f <$> work).outcome = work.outcome.map f := by
  show (andThen work fun a => pure (f a)).outcome = _
  unfold andThen
  cases work.outcome <;> rfl

/-- A record that is left stands before those of what comes after it. -/
theorem log_bind (level : Level) (text : String) (next : Unit → Logged ε β) :
    log level text >>= next = ⟨⟨level, text⟩ :: (next ()).records, (next ()).outcome⟩ := rfl

/-- Work that comes to a value needs no handler. -/
theorem tryCatch_of_ok {work : Logged ε α} {a : α} (h : work.outcome = .ok a) (handler : ε → Logged ε α) :
    tryCatch work handler = work := by
  obtain ⟨records, outcome⟩ := work
  have ho : outcome = .ok a := h
  subst ho
  rfl

/-- Work that fails is gone on with by the handler. -/
theorem tryCatch_of_error {work : Logged ε α} {fault : ε} (h : work.outcome = .error fault) (handler : ε → Logged ε α) :
    tryCatch work handler = ⟨work.records ++ (handler fault).records, (handler fault).outcome⟩ := by
  obtain ⟨records, outcome⟩ := work
  have ho : outcome = .error fault := h
  subst ho
  rfl

/-! ## What is left in the journal -/

/-- All records of the work have a property. -/
def Leaves (p : Record → Prop) (work : Logged ε α) : Prop := ∀ record ∈ work.records, p record

variable {p : Record → Prop}

theorem leaves_pure (a : α) : Leaves p (pure a : Logged ε α) := fun _ h => nomatch h

theorem leaves_ofExcept (outcome : Except ε α) : Leaves p (ofExcept outcome) := fun _ h => nomatch h

theorem leaves_log {level : Level} {text : String} (h : p ⟨level, text⟩) : Leaves p (log level text : Logged ε Unit) := by
  intro record hr
  rw [List.mem_singleton.mp hr]
  exact h

theorem Leaves.mapError {work : Logged ε α} (h : Leaves p work) (f : ε → ε') : Leaves p (work.mapError f) := h

/-- Records with a property have every property that follows from it. -/
theorem Leaves.mono {q : Record → Prop} {work : Logged ε α} (h : Leaves p work) (hpq : ∀ record, p record → q record) :
    Leaves q work := fun record hr => hpq record (h record hr)

/-- Work and then more work leaves the records of both. -/
theorem Leaves.bind {first : Logged ε α} {next : α → Logged ε β} (h : Leaves p first) (h' : ∀ a, Leaves p (next a)) :
    Leaves p (first >>= next) := by
  intro record hr
  rw [records_bind, List.mem_append] at hr
  rcases hr with hr | hr
  · exact h record hr
  · cases ho : first.outcome with
    | ok a =>
      rw [ho] at hr
      exact h' a record hr
    | error fault =>
      rw [ho] at hr
      nomatch hr

end Keepalive.Logged
