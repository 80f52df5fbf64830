import TrustRoot.Logging.Directive

/-!
# Log filters

A log filter is a list of directives between commas. Of the directives that cover an event the most
specific one decides whether the event is logged, and of equally specific ones the last. Events that
no directive covers are not logged.
-/

namespace TrustRoot.Logging

/-- Directives in order. -/
structure Filter where
  directives : List Directive
  deriving DecidableEq, Repr

/-- The filter in a text, where empty directives are passed over. A filter without directives lets
errors through. -/
def Filter.ofText (text : String) : Except Directive.Fault Filter := do
  let texts := (text.splitOn ",").filter fun directive => !directive.isEmpty
  let directives ← texts.mapM Directive.ofText
  return ⟨if directives.isEmpty then [{ rank := errorRank }] else directives⟩

namespace Directive

/-- Whether a directive covers an event: there are no spans, values of fields are not looked at, and
so it must ask for neither, the target of the event must start as it says, and the event must have
its field. -/
def covers (directive : Directive) (target : String) (fieldNames : List String) : Bool :=
  directive.span?.isNone &&
    (directive.target?.all fun start => start.toList.isPrefixOf target.toList) &&
    directive.field?.all fun field => !field.hasValue && fieldNames.contains field.name

def extent (directive : Directive) : Nat :=
  match directive.target? with
  | some start => start.utf8ByteSize + 1
  | none => 0

/-- Whether a directive is at most as specific as another one: a longer target is more specific, then
a field, and then a field whose name comes later. -/
def yieldsTo (first second : Directive) : Bool :=
  if first.extent = second.extent then
    match first.field?, second.field? with
    | none, _ => true
    | some _, none => false
    | some first, some second => first.name ≤ second.name
  else first.extent < second.extent

end Directive

/-- The more specific one of two directives, and the second of equally specific ones. -/
def moreSpecific (best? : Option Directive) (directive : Directive) : Option Directive :=
  match best? with
  | none => some directive
  | some best => if best.yieldsTo directive then some directive else some best

namespace Filter

def deciding? (filter : Filter) (target : String) (fieldNames : List String) : Option Directive :=
  (filter.directives.filter fun directive => directive.covers target fieldNames).foldl
    moreSpecific none

def lets (filter : Filter) (rank : Nat) (target : String) (fieldNames : List String) : Bool :=
  (filter.deciding? target fieldNames).any fun directive => rank ≤ directive.rank

end Filter

end TrustRoot.Logging
