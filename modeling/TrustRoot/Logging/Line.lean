import TrustRoot.Audit
import TrustRoot.Logging.Filter
import TrustRoot.Logging.Settings

/-!
# Log lines

What happens is logged as one line if the filter lets it through. A line names the level, the target
if that is asked for, the message and the details. Details that come from outside may hold line
ends, and only some of them are put into quotes.
-/

namespace TrustRoot.Logging

def rank : Level → Nat
  | .error => 1
  | .warn => 2
  | .info => 3
  | .debug => 4

structure Entry where
  level : Level
  target : String
  message : String
  details : List (String × String)
  deriving DecidableEq, Repr

def targetOf : Event → String
  | .parsed .. | .signed .. => "trc_core::domain::document"
  | .foreign .. | .mismatch .. | .schemeFault .. | .tallied .. | .quorumNotMet .. =>
    "trc_core::domain::quorum"
  | .rotationRejected .. | .rotationAccepted .. => "trc_core::domain::rotation"
  | .oversized .. => "trc_core::service"
  | .notCoreSigner .. => "trc_tool::commands"

/-- The details of an event as they are written: a signer that is under suspicion stands in
quotes. -/
def detailsOf : Event → List (String × String)
  | .mismatch signer => [("signer", Text.quote signer)]
  | .schemeFault signer fault => [("signer", Text.quote signer), ("error", fault.message)]
  | .notCoreSigner signer => [("signer", Text.quote signer)]
  | event => event.fields

def Entry.ofEvent (event : Event) : Entry :=
  ⟨event.level, targetOf event, event.message, detailsOf event⟩

/-- The entry that comes first: how events are logged. -/
def Entry.ofSettings (settings : Settings) : Entry where
  level := .debug
  target := "trc_telemetry::logging"
  message := "[trc] logging initialized"
  details := [("service", settings.serviceName), ("level", settings.filter),
    ("json_logs", toString settings.json)]

def color : Level → Nat
  | .error => 31
  | .warn => 33
  | .info => 32
  | .debug => 34

/-- A text in a style, which is switched on by number and off by zero. -/
def styled (style : Nat) (text : String) : String := s!"\x1b[{style}m{text}\x1b[0m"

namespace Entry

def detail (name value : String) : String := " " ++ styled 3 name ++ styled 2 "=" ++ value

def text (settings : Settings) (entry : Entry) : String :=
  let level := styled (color entry.level) entry.level.name
  let place := if settings.targets then " " ++ styled 2 entry.target ++ styled 2 ":" else ""
  let details := entry.details.map fun (name, value) => detail name value
  s!"{level}{place} {entry.message}" ++ String.join details

def toJson (settings : Settings) (entry : Entry) : Json :=
  let fields := ("message", entry.message) :: entry.details
  let place := if settings.targets then [("target", Json.string entry.target)] else []
  .object <| [("level", .string entry.level.name),
    ("fields", .ofDict (.ofList (fields.map fun (name, value) => (name, .string value))))] ++ place

/-- An entry in one line, if no detail has line ends. -/
def line (settings : Settings) (entry : Entry) : String :=
  if settings.json then (entry.toJson settings).render .compact else entry.text settings

def passes (filter : Filter) (entry : Entry) : Bool :=
  filter.lets (rank entry.level) entry.target ("message" :: entry.details.map Prod.fst)

end Entry

def lines (settings : Settings) (filter : Filter) (events : List Event) : List String :=
  ((Entry.ofSettings settings :: events.map Entry.ofEvent).filter (Entry.passes filter)).map
    (Entry.line settings)

end TrustRoot.Logging
