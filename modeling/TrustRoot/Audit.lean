import TrustRoot.Error

/-!
# Audit trail

Operations on configurations leave events. A trail is a result together with the events in order, so
that a failure keeps the events that led to it.
-/

namespace TrustRoot

inductive Level where
  | debug
  | info
  | warn
  | error
  deriving DecidableEq, Repr

def Level.name : Level → String
  | .debug => "DEBUG"
  | .info => "INFO"
  | .warn => "WARN"
  | .error => "ERROR"

/-- Something that happened. -/
inductive Event where
  | parsed (isd : UInt16) (version : UInt64) (signatures : Nat)
  | oversized (size limit : Nat)
  | signed (isd : UInt16) (version : UInt64) (signer : String)
  | foreign (isd : UInt16) (version : UInt64) (signers : List String)
  | mismatch (signer : String)
  | schemeFault (signer : String) (fault : Error)
  | tallied (isd : UInt16) (version : UInt64) (valid : Nat) (required : UInt32)
  | quorumNotMet (isd : UInt16) (version : UInt64) (required : UInt32) (achieved : Nat)
  | rotationRejected (isd : UInt16) (previous candidate : UInt64) (reason : Error)
  | rotationAccepted (isd : UInt16) (version : UInt64) (signers : Nat)
  | notCoreSigner (signer : String)

namespace Event

def level : Event → Level
  | .parsed .. | .signed .. | .tallied .. => .debug
  | .rotationAccepted .. => .info
  | .oversized .. | .foreign .. | .mismatch .. | .schemeFault .. | .notCoreSigner .. => .warn
  | .quorumNotMet .. | .rotationRejected .. => .error

def message : Event → String
  | .parsed .. => "[trc] parsed TRC"
  | .oversized .. => "[trc] rejecting oversized TRC payload"
  | .signed .. => "[trc] added signature"
  | .foreign .. => "[trc] candidate carries signatures from non-core ASes"
  | .mismatch .. => "[trc] signature verification failed"
  | .schemeFault .. => "[trc] signature primitive fault"
  | .tallied .. => "[trc] quorum tally complete"
  | .quorumNotMet .. => "[trc] quorum not met"
  | .rotationRejected .. => "[trc] rotation rejected"
  | .rotationAccepted .. => "[trc] rotation accepted"
  | .notCoreSigner .. => "[trc] signer is not a core AS of this TRC"

def fields : Event → List (String × String)
  | .parsed isd version signatures =>
    [("isd", toString isd), ("version", toString version), ("signatures", toString signatures)]
  | .oversized size limit => [("size", toString size), ("limit", toString limit)]
  | .signed isd version signer =>
    [("isd", toString isd), ("version", toString version), ("signer", signer)]
  | .foreign isd version signers =>
    [("isd", toString isd), ("version", toString version), ("foreign", Text.quoteSet signers)]
  | .mismatch signer => [("signer", signer)]
  | .schemeFault signer fault => [("signer", signer), ("error", fault.message)]
  | .tallied isd version valid required =>
    [("isd", toString isd), ("version", toString version), ("valid", toString valid),
      ("required", toString required)]
  | .quorumNotMet isd version required achieved =>
    [("isd", toString isd), ("version", toString version), ("required", toString required),
      ("achieved", toString achieved)]
  | .rotationRejected isd previous candidate reason =>
    [("isd", toString isd), ("previous_version", toString previous),
      ("candidate_version", toString candidate), ("error", reason.message)]
  | .rotationAccepted isd version signers =>
    [("isd", toString isd), ("version", toString version), ("signers", toString signers)]
  | .notCoreSigner signer => [("signer", signer)]

end Event

def Event.toJson (event : Event) : Json :=
  .object [
    ("fields", .ofDict (.ofList (event.fields.map fun (name, value) => (name, .string value)))),
    ("level", .string event.level.name), ("message", .string event.message)]

/-- A value or an error of type `ε`, and the events on the way to it. -/
structure Trail (ε α : Type) where
  result : Except ε α
  events : List Event

/-- The trail of an operation of the library. -/
abbrev Audited (α : Type) := Trail Error α

namespace Trail

variable {ε δ α β : Type}

def ofResult (result : Except ε α) : Trail ε α := ⟨result, []⟩

def emit (event : Event) : Trail ε Unit := ⟨.ok (), [event]⟩

def emitAll (events : List Event) : Trail ε Unit := ⟨.ok (), events⟩

def fail (error : ε) : Trail ε α := ⟨.error error, []⟩

def mapError (f : ε → δ) (trail : Trail ε α) : Trail δ α := ⟨trail.result.mapError f, trail.events⟩

/-- The trail whose value is the result, so that an error does not end what follows. -/
def attempt (trail : Trail ε α) : Trail δ (Except ε α) := ⟨.ok trail.result, trail.events⟩

/-- One computation after another; an error ends both. -/
def andThen (first : Trail ε α) (next : α → Trail ε β) : Trail ε β :=
  match first.result with
  | .ok value => ⟨(next value).result, first.events ++ (next value).events⟩
  | .error error => ⟨.error error, first.events⟩

instance : Monad (Trail ε) where
  pure value := ⟨.ok value, []⟩
  bind := andThen

@[simp] theorem result_pure (value : α) : (pure value : Trail ε α).result = .ok value := rfl

@[simp] theorem result_ofResult (result : Except ε α) : (ofResult result).result = result := rfl

@[simp] theorem result_mapError (f : ε → δ) (trail : Trail ε α) :
    (trail.mapError f).result = trail.result.mapError f := rfl

theorem result_bind (first : Trail ε α) (next : α → Trail ε β) :
    (first >>= next).result = first.result >>= fun value => (next value).result := by
  obtain ⟨result, events⟩ := first
  cases result <;> rfl

/-- After a value the events of both computations follow each other. -/
theorem events_bind_of_ok {first : Trail ε α} {value : α} (next : α → Trail ε β)
    (succeeds : first.result = .ok value) :
    (first >>= next).events = first.events ++ (next value).events := by
  obtain ⟨result, events⟩ := first
  cases succeeds
  rfl

/-- After an error nothing happens any more. -/
theorem events_bind_of_error {first : Trail ε α} {error : ε} (next : α → Trail ε β)
    (fails : first.result = .error error) : (first >>= next).events = first.events := by
  obtain ⟨result, events⟩ := first
  cases fails
  rfl

instance : LawfulMonad (Trail ε) := LawfulMonad.mk' (Trail ε)
  (by
    intro α trail
    obtain ⟨result, events⟩ := trail
    cases result with
    | error error => rfl
    | ok value =>
      change (⟨.ok value, events ++ []⟩ : Trail ε α) = ⟨.ok value, events⟩
      rw [List.append_nil])
  (by
    intro α β value next
    rfl)
  (by
    intro α β γ first second third
    obtain ⟨result, events⟩ := first
    cases result with
    | error error => rfl
    | ok value =>
      change andThen (andThen ⟨.ok value, events⟩ second) third =
        andThen ⟨.ok value, events⟩ fun value => andThen (second value) third
      cases outcome : (second value).result with
      | error error => simp [andThen, outcome]
      | ok middle => simp [andThen, outcome, List.append_assoc])

end Trail

end TrustRoot
