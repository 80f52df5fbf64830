import TrustRoot.Logging.Line
import TrustRoot.Tool.Help

/-!
# The program

A run of the program reads the command line and the environment, carries out the command on the
files that it names, and ends with an exit code. The program is generic in the library of frames and
in the monad in which files are read and written.
-/

namespace TrustRoot.Tool

/-- Access to files by path; a failure is a reason in words. -/
structure Files (m : Type → Type) where
  read : (path : String) → m (Except String Bytes)
  write : (path : String) → (contents : Bytes) → m (Except String Unit)

structure Outcome where
  exitCode : UInt8
  output : Bytes
  diagnostics : List String
  deriving DecidableEq, Repr

def Verdict.exitCode : Verdict → UInt8
  | .accepted => 0
  | .rejected => 1

/-- The exit code of a run without a verdict. -/
def failureCode : UInt8 := 2

/-- The exit code of a run that breaks off. -/
def abortCode : UInt8 := 101

/-- The end of a run whose command line asks for no command. -/
def Notice.outcome (notice : Notice) : Outcome :=
  match notice.answer? with
  | some lines => ⟨0, textLines lines, []⟩
  | none => ⟨failureCode, [], notice.complaint⟩

namespace Request

variable {m : Type → Type} [Monad m]

def service (library : FrameLibrary) (request : Request) : Service Ed25519.KeyPair :=
  let settings : Settings := {}
  .ed25519 library { settings with maxPayload := request.maxPayload?.getD settings.maxPayload }

def logging (request : Request) (environment : Dict String) : Logging.Settings :=
  let settings := Logging.Settings.ofEnvironment environment.get?
  if request.verbose then settings.withFilter "debug" else settings

/-- The command with the contents of its files; the first file that cannot be read counts. -/
def load (files : Files m) (request : Request) : ExceptT Failure m (Command Bytes) :=
  request.command.traverse fun path =>
    ExceptT.mk (do return (← files.read path).mapError (.reading path))

/-- The report with its output in the file that the request names, if it names one. -/
def deliver (files : Files m) (request : Request) (report : Report) : ExceptT Failure m Report :=
  match request.out? with
  | none => return report
  | some path => ExceptT.mk do
    return (← files.write path report.output).mapError (.writing path)
      |>.map fun _ => { report with output := [] }

/-- The report of a request with the events on the way to it. -/
def perform (library : FrameLibrary) (files : Files m) (request : Request) :
    m (Trail Failure Report) := do
  match ← (request.load files).run with
  | .error failure => return .fail failure
  | .ok command =>
    let trail := command.run (request.service library) request.compressed
    match trail.result with
    | .error failure => return ⟨.error failure, trail.events⟩
    | .ok report => return ⟨← (request.deliver files report).run, trail.events⟩

end Request

def outcomeOf (diagnostics : List String) : Except Failure Report → Outcome
  | .ok report => ⟨report.verdict.exitCode, report.output, diagnostics⟩
  | .error failure =>
    if failure.breaksOff then ⟨abortCode, [], diagnostics⟩
    else ⟨failureCode, [], diagnostics ++ [s!"Error: {failure.message}"]⟩

/-- A run of the program. A malformed log filter switches logging off, but one with a place within a
character ends the run before anything is done. -/
def run {m : Type → Type} [Monad m] (library : FrameLibrary) (files : Files m)
    (environment : Dict String) (arguments : List String) : m Outcome :=
  match Request.ofArguments arguments with
  | .error notice => return notice.outcome
  | .ok request =>
    let settings := request.logging environment
    let finish (log : List Event → List String) : m Outcome := do
      let trail ← request.perform library files
      return outcomeOf (log trail.events) trail.result
    match Logging.Filter.ofText settings.filter with
    | .ok filter => finish (Logging.lines settings filter)
    | .error .malformed =>
      let reason := Logging.Directive.Fault.malformed.message
      finish fun _ => [s!"Warning: logging disabled: Invalid configuration: {reason}"]
    | .error fault => return ⟨abortCode, [], [fault.message]⟩

end TrustRoot.Tool
