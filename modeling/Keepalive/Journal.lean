/-!
# The journal

Work leaves records behind, each a level and a text, in the order of the work. `Logged` is work that may fail: its records
are kept whether it fails or not (`records_bind`), and nothing after a failure leaves any.
-/

namespace Keepalive

/-- How much a record matters. -/
inductive Level where
  | debug
  | info
  | warning
  | error
  deriving DecidableEq, Repr

/-- The name of a level. -/
def Level.name : Level → String
  | debug => "DEBUG"
  | info => "INFO"
  | warning => "WARNING"
  | error => "ERROR"

/-- A line of the journal. -/
structure Record where
  level : Level
  text : String
  deriving DecidableEq, Repr

/-- Work with the records it left and how it ended. -/
structure Logged (ε α : Type) where
  records : List Record
  outcome : Except ε α

namespace Logged

variable {ε ε' α β : Type}

/-- Work that leaves no records. -/
def ofExcept (outcome : Except ε α) : Logged ε α := ⟨[], outcome⟩

/-- Leaves one record. -/
def log (level : Level) (text : String) : Logged ε Unit := ⟨[⟨level, text⟩], .ok ()⟩

/-- Work and then, unless it failed, more work. -/
def andThen (first : Logged ε α) (next : α → Logged ε β) : Logged ε β :=
  match first.outcome with
  | .ok a => ⟨first.records ++ (next a).records, (next a).outcome⟩
  | .error e => ⟨first.records, .error e⟩

instance : Monad (Logged ε) where
  pure a := ⟨[], .ok a⟩
  bind := andThen

instance : MonadExcept ε (Logged ε) where
  throw e := ⟨[], .error e⟩
  tryCatch work handler :=
    match work.outcome with
    | .ok _ => work
    | .error e => ⟨work.records ++ (handler e).records, (handler e).outcome⟩

/-- The same work with its fault seen as one of another kind. -/
def mapError (f : ε → ε') (work : Logged ε α) : Logged ε' α := ⟨work.records, work.outcome.mapError f⟩

@[simp] theorem outcome_ofExcept (outcome : Except ε α) : (ofExcept outcome).outcome = outcome := rfl

/-- Records add up in order, as far as the work went. -/
theorem records_bind (first : Logged ε α) (next : α → Logged ε β) :
    (first >>= next).records = first.records ++ (match first.outcome with | .ok a => (next a).records | .error _ => []) := by
  show (andThen first next).records = _
  unfold andThen
  cases first.outcome <;> simp

/-- The work ends as its parts do, one after the other. -/
theorem outcome_bind (first : Logged ε α) (next : α → Logged ε β) :
    (first >>= next).outcome = (first.outcome >>= fun a => (next a).outcome) := by
  show (andThen first next).outcome = _
  unfold andThen
  cases first.outcome <;> rfl

end Logged

end Keepalive
