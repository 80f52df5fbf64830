/-!
# Parameters of the command line

The command line names a verb and gives values to parameters. An option is given by its name, and
an operand by its place. The parameters of a scope are those of the tool as a whole or those of one
verb; three options have a meaning in every scope.
-/

namespace TrustRoot.Tool

inductive Form where
  /-- Nothing; the tool explains itself and stops. -/
  | notice
  /-- Nothing; the parameter is on when it is given. -/
  | switch
  | text
  /-- The path of a file, which is not empty. -/
  | path
  /-- A natural number below 2^64. -/
  | number
  deriving DecidableEq, Repr

def Form.Value : Form → Type
  | .notice | .switch => Unit
  | .text | .path => String
  | .number => UInt64

inductive Parameter where
  | help
  | version
  | verbose
  | compressed
  | maxPayload
  | withoutSignatures
  | withSignatures
  | signer
  | seed
  | out
  | reference
  | file
  | candidate
  | predecessor
  | successor
  deriving DecidableEq, Repr

namespace Parameter

def form : Parameter → Form
  | .help | .version => .notice
  | .verbose | .compressed | .withoutSignatures | .withSignatures => .switch
  | .maxPayload => .number
  | .signer | .seed => .text
  | .out | .reference | .file | .candidate | .predecessor | .successor => .path

def isOperand : Parameter → Bool
  | .file | .candidate | .predecessor | .successor => true
  | _ => false

def name : Parameter → String
  | .help => "help"
  | .version => "version"
  | .verbose => "verbose"
  | .compressed => "compressed"
  | .maxPayload => "max-payload-bytes"
  | .withoutSignatures => "no-signatures"
  | .withSignatures => "with-signatures"
  | .signer => "signer"
  | .seed => "seed-hex"
  | .out => "out"
  | .reference => "reference"
  | .file => "file"
  | .candidate => "candidate"
  | .predecessor => "old"
  | .successor => "new"

def letter? : Parameter → Option Char
  | .help => some 'h'
  | .version => some 'V'
  | .verbose => some 'v'
  | .compressed => some 'z'
  | .out => some 'o'
  | _ => none

def purpose : Parameter → String
  | .help => "Print help"
  | .version => "Print version"
  | .verbose => "Log at debug level, overriding TRC_LOG_LEVEL"
  | .compressed => "Input files are zstd envelopes"
  | .maxPayload => "Largest input file accepted, in bytes"
  | .withoutSignatures => "Leave out the Signatures field"
  | .withSignatures => "Include the Signatures field"
  | .signer => "Signer AS identifier, e.g. 1-ff00:0:110"
  | .seed => "32-byte Ed25519 seed as 64 hex characters"
  | .out => "Output file; stdout if absent"
  | .reference => "TRC whose core ASes and quorum apply"
  | .file | .candidate | .predecessor | .successor => ""

def shared : List Parameter := [.verbose, .compressed, .maxPayload]

end Parameter

inductive Verb where
  | display
  | fingerprint
  | canonical
  | sign
  | verify
  | rotate
  deriving DecidableEq, Repr

namespace Verb

def all : List Verb := [.display, .fingerprint, .canonical, .sign, .verify, .rotate]

def name : Verb → String
  | .display => "show"
  | .fingerprint => "fingerprint"
  | .canonical => "canonical"
  | .sign => "sign"
  | .verify => "verify"
  | .rotate => "rotate"

def ofName? (name : String) : Option Verb := all.find? fun verb => verb.name == name

def purpose : Verb → String
  | .display => "Print a TRC as sorted, indented text"
  | .fingerprint => "Print the hex SHA-256 of the unsigned signing input"
  | .canonical => "Write the signing-input bytes to stdout"
  | .sign => "Add an Ed25519 signature"
  | .verify => "Check a TRC's signatures against a reference TRC"
  | .rotate => "Check that NEW may supersede OLD"

def options : Verb → List Parameter
  | .display => [.withoutSignatures]
  | .fingerprint | .rotate => []
  | .canonical => [.withSignatures]
  | .sign => [.signer, .seed, .out]
  | .verify => [.reference]

def operands : Verb → List Parameter
  | .display | .fingerprint | .canonical | .sign => [.file]
  | .verify => [.candidate]
  | .rotate => [.predecessor, .successor]

end Verb

/-- A part of the command line with parameters of its own. -/
inductive Scope where
  | whole
  | after (verb : Verb)
  deriving DecidableEq, Repr

namespace Scope

def options : Scope → List Parameter
  | .whole => Parameter.shared ++ [.help, .version]
  | .after verb => verb.options ++ Parameter.shared ++ [.help]

def option? (scope : Scope) (name : String) : Option Parameter :=
  scope.options.find? fun parameter => parameter.name == name

def optionOfLetter? (scope : Scope) (letter : Char) : Option Parameter :=
  scope.options.find? fun parameter => parameter.letter? == some letter

end Scope

end TrustRoot.Tool
