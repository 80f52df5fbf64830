import TrustRoot.Logging.Field
import TrustRoot.Text.Alphanumeric
import TrustRoot.Text.Blank
import TrustRoot.Text.Numeral

/-!
# Directives of log filters

A directive is a level, a target, or a target and a span, with a field in braces, followed by an
equals sign and a level. It is scanned without the blanks around it, but its parts are taken from
the directive as it stands, at the places in octets that the scan has found. So blanks in front move
all parts, and a part may then start or end within a character, which is a fault of its own.
-/

namespace TrustRoot.Logging

/-! ## Levels -/

/-- The names of levels, from the one that lets nothing through to the one that lets through all. -/
def levelNames : List String := ["off", "error", "warn", "info", "debug", "trace"]

def errorRank : Nat := 1

def highestRank : Nat := 5

/-- The place of a level among all: by its name in any letter case or by number. No name stands for
errors. -/
def levelRank? (text : String) : Option Nat :=
  if text.isEmpty then some errorRank
  else (levelNames.idxOf? text.toLower).or (Numeral.decimalBelow? (highestRank + 1) text.toList)

/-! ## Directives -/

/-- Which events are let through up to which level. -/
structure Directive where
  target? : Option String := none
  /-- The span in which the events are to happen. -/
  span? : Option String := none
  field? : Option FieldTest := none
  rank : Nat := highestRank
  deriving DecidableEq, Repr

inductive Directive.Fault where
  | malformed
  | withinCharacter (directive : String)
  deriving DecidableEq, Repr

def Directive.Fault.message : Directive.Fault → String
  | .malformed => "invalid filter directive"
  | .withinCharacter directive => "place within a character of `" ++ directive ++ "`"

/-- The part of a directive between two places, which are counted in octets. -/
def cut (directive : String) (first last : Nat) : Except Directive.Fault String :=
  match directive.pos? ⟨first⟩, directive.pos? ⟨last⟩ with
  | some first, some last => .ok (directive.extract first last)
  | _, _ => .error (.withinCharacter directive)

/-! ## Scanning -/

/-- How far the scan of a directive has come. A part that is being read starts after `first`
octets. -/
inductive Scan where
  | start
  | name
  | span (target? : Option String) (first : Nat)
  | field (directive : Directive) (first : Nat)
  | afterField (directive : Directive)
  | afterSpan (directive : Directive)
  | level (directive : Directive) (first : Nat)
  deriving DecidableEq, Repr

/-- The scan of a directive after one more character, which starts after `position` octets. -/
def Scan.next (text : String) (scan : Scan) (position : Nat) (character : Char) :
    Except Directive.Fault Scan :=
  match scan with
  | .start =>
    if character = '[' then .ok (.span none (position + 1))
    else if character ∈ ['-', ':', '_'] ∨ Text.isAlphanumeric character then .ok .name
    else .error .malformed
  | .name =>
    if character = '=' then do
      return .level { target? := some (← cut text 0 position) } (position + 1)
    else if character = '[' then do
      return .span (some (← cut text 0 position)) (position + 1)
    else .ok .name
  | .span target? first =>
    if character = ']' then do
      return .afterSpan { target?, span? := some (← cut text first position) }
    else if character = '\x7b' then do
      let span ← cut text first position
      return .field { target?, span? := if span.isEmpty then none else some span } (position + 1)
    else .ok (.span target? first)
  | .field directive first =>
    if character = '\x7d' then do
      match FieldTest.ofText? (← cut text first position) with
      | some test => return .afterField { directive with field? := some test }
      | none => .error .malformed
    else .ok (.field directive first)
  | .afterField directive =>
    if character = ']' then .ok (.afterSpan directive) else .error .malformed
  | .afterSpan directive =>
    if character = '=' then .ok (.level directive (position + 1)) else .error .malformed
  | .level directive first => .ok (.level directive first)

/-- The scan of a directive after some characters, of which the first starts after `position`
octets. -/
def Scan.run (text : String) (scan : Scan) (position : Nat) :
    List Char → Except Directive.Fault Scan
  | [] => .ok scan
  | character :: rest =>
    match scan.next text position character with
    | .ok scan => scan.run text (position + character.utf8Size) rest
    | .error fault => .error fault

def Directive.ofText (text : String) : Except Directive.Fault Directive := do
  match ← Scan.start.run text 0 (Text.trim text.toList) with
  | .name =>
    match levelRank? text with
    | some rank => return { rank }
    | none => return { target? := some text }
  | .afterSpan directive => return directive
  | .level directive first =>
    let level ← cut text first text.utf8ByteSize
    if level.isEmpty then return directive
    else
      match levelRank? level with
      | some rank => return { directive with rank }
      | none => .error .malformed
  | _ => .error .malformed

end TrustRoot.Logging
