import TrustRoot.Text.Numeral
import TrustRoot.Tool.Command
import TrustRoot.Tool.Parameter

/-!
# Reading the command line

The command line is read word by word: options of the tool, a verb, and then options and operands
of the verb. What a parameter is given is checked when the next parameter turns up or the words end,
so that an unknown option is noticed before an unusable value right in front of it. The words after
the verb are complete before a value in front of the verb is checked.
-/

namespace TrustRoot.Tool

/-- Why the words of a command line ask for no command. -/
inductive Notice where
  | help (scope : Scope)
  | version
  | nothing
  | noVerb
  | unknownVerb (word : String)
  | unexpected (word : String)
  | missing (parameter : Parameter)
  | noValue (parameter : Parameter)
  | badValue (parameter : Parameter) (value : String)
  | repeated (parameter : Parameter)
  | needlessValue (parameter : Parameter) (value : String)
  deriving DecidableEq, Repr

/-- The shape of a word, by the hyphens in front. -/
inductive Word where
  /-- The word after which all words are operands. -/
  | separator
  | option (name : String) (value? : Option String)
  | letters (letters : List Char)
  | plain
  deriving DecidableEq, Repr

/-- The characters before and after the first equals sign, if there is one. -/
def splitEquals : List Char → List Char × Option (List Char)
  | [] => ([], none)
  | '=' :: rest => ([], some rest)
  | character :: rest => (character :: (splitEquals rest).1, (splitEquals rest).2)

def Word.ofText (word : String) : Word :=
  match word.toList with
  | ['-', '-'] => .separator
  | '-' :: '-' :: rest =>
    .option (String.ofList (splitEquals rest).1) ((splitEquals rest).2.map String.ofList)
  | '-' :: letter :: rest => .letters (letter :: rest)
  | _ => .plain

structure Given where
  parameter : Parameter
  value : parameter.form.Value

/-- How far the words of a scope have been read. -/
structure Reading where
  operands : List Parameter
  given : List Given := []
  /-- A parameter that is not checked yet, with its value if that has come. -/
  pending : Option (Parameter × Option String) := none
  onlyOperands : Bool := false

namespace Reading

def value? (reading : Reading) (parameter : Parameter) : Option parameter.form.Value :=
  reading.given.findSome? fun entry =>
    if same : entry.parameter = parameter then some (same ▸ entry.value) else none

def has (reading : Reading) (parameter : Parameter) : Bool :=
  reading.given.any fun entry => entry.parameter == parameter

def require (reading : Reading) (parameter : Parameter) : Except Notice parameter.form.Value :=
  match reading.value? parameter with
  | some value => .ok value
  | none => .error (.missing parameter)

def readValue (parameter : Parameter) (text : String) :
    (form : Form) → Except Notice form.Value
  | .notice | .switch => .ok ()
  | .text => .ok text
  | .path => if text.isEmpty then .error (.noValue parameter) else .ok text
  | .number =>
    match Numeral.decimalBelow? (2 ^ 64) text.toList with
    | some number => .ok (UInt64.ofNat number)
    | none => .error (.badValue parameter text)

/-- The reading with a parameter that has not been given before. -/
def give (reading : Reading) (parameter : Parameter) (text : String) : Except Notice Reading :=
  if reading.has parameter then .error (.repeated parameter)
  else do
    let value ← readValue parameter text parameter.form
    return { reading with given := reading.given ++ [⟨parameter, value⟩] }

/-- The reading with nothing left to check. -/
def settle (reading : Reading) : Except Notice Reading :=
  match reading.pending with
  | none => .ok reading
  | some (parameter, none) => .error (.noValue parameter)
  | some (parameter, some text) => give { reading with pending := none } parameter text

/-- The reading with a parameter to check later. -/
def hold (reading : Reading) (parameter : Parameter) (text? : Option String) :
    Except Notice Reading := do
  let settled ← reading.settle
  return { settled with pending := some (parameter, text?) }

/-- The reading with a parameter whose value is part of the same word. -/
def attach (reading : Reading) (parameter : Parameter) (text : String) : Except Notice Reading := do
  let settled ← reading.settle
  settled.give parameter text

def switchOn (scope : Scope) (reading : Reading) (parameter : Parameter) :
    Except Notice Reading := do
  let settled ← reading.settle
  match parameter with
  | .help => .error (.help scope)
  | .version => .error .version
  | parameter => settled.give parameter ""

def readOption (scope : Scope) (reading : Reading) (word name : String) (value? : Option String) :
    Except Notice Reading :=
  match scope.option? name with
  | none => .error (.unexpected word)
  | some parameter =>
    match parameter.form, value? with
    | .notice, none | .switch, none => reading.switchOn scope parameter
    | .notice, some value | .switch, some value => .error (.needlessValue parameter value)
    | _, none => reading.hold parameter none
    | _, some value => reading.attach parameter value

/-- The reading after letters of options. What follows a letter that takes a value is that value,
with or without an equals sign in between. -/
def readLetters (scope : Scope) (word : String) (reading : Reading) :
    List Char → Except Notice Reading
  | [] => .ok reading
  | letter :: rest =>
    match scope.optionOfLetter? letter with
    | none => .error (.unexpected word)
    | some parameter =>
      match parameter.form, rest with
      | .notice, _ | .switch, _ =>
        match reading.switchOn scope parameter with
        | .ok reading => reading.readLetters scope word rest
        | .error notice => .error notice
      | _, [] => reading.hold parameter none
      | _, '=' :: value => reading.attach parameter (String.ofList value)
      | _, value => reading.attach parameter (String.ofList value)

/-- What is wrong with a word for which there is no operand. -/
def refuse (scope : Scope) (reading : Reading) (word : String) : Notice :=
  match scope with
  | .after _ => .unexpected word
  | .whole =>
    if reading.onlyOperands && ((Verb.ofName? word).isSome || word == "help")
    then .unexpected word else .unknownVerb word

def readOperand (scope : Scope) (reading : Reading) (word : String) : Except Notice Reading :=
  match reading.operands with
  | [] => .error (reading.refuse scope word)
  | parameter :: later => hold { reading with operands := later } parameter (some word)

/-- Whether the next word may be a verb. -/
def mayBeVerb (reading : Reading) : Bool :=
  match reading.pending with
  | some (_, none) => false
  | _ => !reading.onlyOperands

def readPlain (scope : Scope) (reading : Reading) (word : String) : Except Notice Reading :=
  match reading.pending with
  | some (parameter, none) => .ok { reading with pending := some (parameter, some word) }
  | _ => reading.readOperand scope word

def readWord (scope : Scope) (reading : Reading) (word : String) : Except Notice Reading :=
  if reading.onlyOperands then reading.readOperand scope word
  else
    match Word.ofText word with
    | .separator => .ok { reading with onlyOperands := true }
    | .option name value? => reading.readOption scope word name value?
    | .letters letters => reading.readLetters scope word letters
    | .plain => reading.readPlain scope word

end Reading

/-- What the words of a command line ask for. -/
structure Request where
  verbose : Bool
  compressed : Bool
  /-- The size of the largest file, unless it is the usual one. -/
  maxPayload? : Option UInt64
  command : Command String
  /-- Where the output goes, unless it is printed. -/
  out? : Option String
  deriving DecidableEq, Repr

namespace Verb

def readWords (verb : Verb) (words : List String) : Except Notice Reading := do
  let reading ← words.foldlM (Reading.readWord (.after verb)) { operands := verb.operands }
  reading.settle

def command (verb : Verb) (reading : Reading) : Except Notice (Command String) :=
  match verb with
  | .display => do
    return .display (← reading.require .file) (!reading.has .withoutSignatures)
  | .fingerprint => do return .fingerprint (← reading.require .file)
  | .canonical => do return .canonical (← reading.require .file) (reading.has .withSignatures)
  | .sign => do
    let file ← reading.require .file
    let signer ← reading.require .signer
    let seed ← reading.require .seed
    return .sign file signer seed
  | .verify => do
    let candidate ← reading.require .candidate
    let reference ← reading.require .reference
    return .verify candidate reference
  | .rotate => do
    let predecessor ← reading.require .predecessor
    let successor ← reading.require .successor
    return .rotate predecessor successor

/-- The request of a verb with the words after it, where `before` is the reading of the words in
front of it. What is given after the verb goes first. -/
def request (verb : Verb) (before : Reading) (words : List String) : Except Notice Request := do
  let after ← verb.readWords words
  let command ← verb.command after
  let before ← before.settle
  return {
    verbose := after.has .verbose || before.has .verbose
    compressed := after.has .compressed || before.has .compressed
    maxPayload? := (after.value? .maxPayload).or (before.value? .maxPayload)
    command := command
    out? := after.value? .out }

end Verb

def helpNotice : List String → Notice
  | [] => .help .whole
  | word :: rest =>
    let scope? := if word = "help" then some .whole else (Verb.ofName? word).map .after
    match scope?, rest with
    | none, _ => .unknownVerb word
    | some scope, [] => .help scope
    | some _, other :: _ => .unknownVerb other

def noVerbNotice (reading : Reading) : Notice :=
  match reading.settle with
  | .error notice => notice
  | .ok settled => if settled.given.isEmpty then .nothing else .noVerb

namespace Request

def read (reading : Reading) : List String → Except Notice Request
  | [] => .error (noVerbNotice reading)
  | word :: rest =>
    if reading.mayBeVerb && word == "help" then .error (helpNotice rest)
    else
      match if reading.mayBeVerb then Verb.ofName? word else none with
      | some verb => verb.request reading rest
      | none =>
        match reading.readWord .whole word with
        | .ok reading => read reading rest
        | .error notice => .error notice

/-- The request that the words of a command line make. -/
def ofArguments (arguments : List String) : Except Notice Request := read { operands := [] } arguments

end Request

end TrustRoot.Tool
