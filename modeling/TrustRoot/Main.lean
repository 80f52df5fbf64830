import TrustRoot.Tool.Program
import TrustRoot.Zstandard.Library

/-!
# Entry point

Runs the program on the files, the environment and the standard streams of its process.
-/

namespace TrustRoot.Tool

def systemReason : IO.Error → String
  | .noFileOrDirectory _ code details | .interrupted _ code details
  | .alreadyExists _ code details | .invalidArgument _ code details
  | .permissionDenied _ code details | .resourceExhausted _ code details
  | .inappropriateType _ code details | .noSuchThing _ code details
  | .otherError code details | .resourceBusy code details | .resourceVanished code details
  | .unsupportedOperation code details | .hardwareFault code details
  | .unsatisfiedConstraints code details | .illegalOperation code details
  | .protocolError code details | .timeExpired code details => s!"{details} (os error {code})"
  | .unexpectedEof => "unexpected end of file"
  | .userError message => message

def orReason {α : Type} (action : IO α) : IO (Except String α) := do
  match ← action.toBaseIO with
  | .ok value => return .ok value
  | .error error => return .error (systemReason error)

def systemFiles : Files IO where
  read path := orReason do
    let contents ← IO.FS.withFile path .read fun handle => handle.readBinToEnd
    return contents.toList
  write path contents := orReason (IO.FS.writeBinFile path ⟨contents.toArray⟩)

def systemEnvironment : IO (Dict String) := do
  let values ← Logging.variableNames.filterMapM fun name => do
    return (← IO.getEnv name).map fun value => (name, value)
  return .ofList values

end TrustRoot.Tool

def main (arguments : List String) : IO UInt32 := do
  let environment ← TrustRoot.Tool.systemEnvironment
  let outcome ←
    TrustRoot.Tool.run TrustRoot.Zstandard.library TrustRoot.Tool.systemFiles environment arguments
  outcome.diagnostics.forM fun line => IO.eprintln line
  let output ← IO.getStdout
  output.write ⟨outcome.output.toArray⟩
  output.flush
  return outcome.exitCode.toUInt32
