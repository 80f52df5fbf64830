import TrustRoot.Logging.Pattern

/-!
# Fields of log filters

A directive of a log filter may name a field, and after an equals sign the value that the field is
to have. The value is a number or a search pattern. What follows a second equals sign is not
looked at.
-/

namespace TrustRoot.Logging

def isExponent : List Char → Bool
  | [] => true
  | mark :: rest =>
    let digits :=
      match rest with
      | '+' :: digits => digits
      | '-' :: digits => digits
      | digits => digits
    (mark = 'e' || mark = 'E') && !digits.isEmpty && digits.all Char.isDigit

/-- Whether a text is a decimal number: digits on at least one side of an optional point, and an
optional exponent. -/
def isDecimal (text : List Char) : Bool :=
  let whole := text.takeWhile Char.isDigit
  match text.drop whole.length with
  | '.' :: rest =>
    let fraction := rest.takeWhile Char.isDigit
    !(whole.isEmpty && fraction.isEmpty) && isExponent (rest.drop fraction.length)
  | rest => !whole.isEmpty && isExponent rest

def numberNames : List String := ["inf", "infinity", "nan"]

/-- Whether a text is a number, by digits or by name in any letter case, after an optional sign. -/
def isNumber (text : String) : Bool :=
  let unsigned :=
    match text.toList with
    | '+' :: rest => rest
    | '-' :: rest => rest
    | rest => rest
  isDecimal unsigned || numberNames.contains (String.ofList unsigned).toLower

def isFieldValue (text : String) : Bool := isNumber text || isPattern text

structure FieldTest where
  name : String
  hasValue : Bool
  deriving DecidableEq, Repr

def FieldTest.ofText? (text : String) : Option FieldTest :=
  match text.splitOn "=" with
  | [] => none
  | [name] => if name.isEmpty then none else some ⟨name, false⟩
  | name :: value :: _ => if isFieldValue value then some ⟨name, true⟩ else none

end TrustRoot.Logging
