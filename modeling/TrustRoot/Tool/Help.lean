import TrustRoot.Tool.Arguments

/-!
# Help

The tool explains its verbs and parameters, and what is wrong with a command line.
-/

namespace TrustRoot.Tool

def toolName : String := "trc-tool"

def toolVersion : String := "0.1.0"

def toolPurpose : String := "Inspect, sign and verify Trust Root Configuration files"

namespace Parameter

def placeholder (parameter : Parameter) : String :=
  let letters := parameter.name.toList.map fun letter => if letter = '-' then '_' else letter.toUpper
  s!"<{String.ofList letters}>"

def usage (parameter : Parameter) : String :=
  if parameter.isOperand then parameter.placeholder
  else
    match parameter.form with
    | .notice | .switch => s!"--{parameter.name}"
    | _ => s!"--{parameter.name} {parameter.placeholder}"

def usageWithLetter (parameter : Parameter) : String :=
  if parameter.isOperand then parameter.usage
  else
    match parameter.letter? with
    | some letter => s!"-{letter}, {parameter.usage}"
    | none => s!"    {parameter.usage}"

/-- Whether a verb does nothing without this parameter. -/
def isRequired : Parameter → Bool
  | .signer | .seed | .reference => true
  | parameter => parameter.isOperand

end Parameter

def table (title : String) (rows : List (String × String)) : List String :=
  let width := rows.foldl (fun width row => max width row.1.length) 0
  title :: rows.map fun (left, right) =>
    "  " ++ left ++ String.ofList (List.replicate (width + 2 - left.length) ' ') ++ right

def parameterRows (parameters : List Parameter) : List (String × String) :=
  parameters.map fun parameter => (parameter.usageWithLetter, parameter.purpose)

def verbRows : List (String × String) :=
  Verb.all.map (fun verb => (verb.name, verb.purpose)) ++
    [("help", "Print this message or the help of the given subcommand(s)")]

namespace Scope

def usage : Scope → String
  | .whole => s!"{toolName} [OPTIONS] <COMMAND>"
  | .after verb =>
    let required := (verb.options.filter Parameter.isRequired ++ verb.operands).map Parameter.usage
    String.intercalate " " (toolName :: verb.name :: "[OPTIONS]" :: required)

def purpose : Scope → String
  | .whole => toolPurpose
  | .after verb => verb.purpose

def help (scope : Scope) : List String :=
  let choices := match scope with
    | .whole => table "Commands:" verbRows
    | .after verb => table "Arguments:" (parameterRows verb.operands)
  [scope.purpose, "", s!"Usage: {scope.usage}", ""] ++ choices ++ [""] ++
    table "Options:" (parameterRows scope.options)

end Scope

namespace Notice

def message : Notice → String
  | .help scope => scope.purpose
  | .version => s!"{toolName} {toolVersion}"
  | .nothing | .noVerb => s!"'{toolName}' requires a subcommand but one was not provided"
  | .unknownVerb word => s!"unrecognized subcommand '{word}'"
  | .unexpected word => s!"unexpected argument '{word}' found"
  | .missing parameter => s!"the required argument '{parameter.usage}' was not provided"
  | .noValue parameter => s!"a value is required for '{parameter.usage}' but none was supplied"
  | .badValue parameter value => s!"invalid value '{value}' for '{parameter.usage}'"
  | .repeated parameter => s!"the argument '{parameter.usage}' cannot be used multiple times"
  | .needlessValue parameter value => s!"unexpected value '{value}' for '{parameter.usage}' found"

/-- The lines to print for a notice that the user has asked for. -/
def answer? : Notice → Option (List String)
  | .help scope => some scope.help
  | .version => some [message .version]
  | _ => none

/-- The lines for a notice that the user has not asked for. -/
def complaint : Notice → List String
  | .nothing => Scope.whole.help
  | notice => [s!"error: {notice.message}", "", "For more information, try '--help'."]

end Notice

end TrustRoot.Tool
