import TrustRoot.Power
import TrustRoot.Text.Numeral
import TrustRoot.Text.Quoted

/-!
# Identifiers of autonomous systems

An autonomous system is named by its isolation domain and its number, as in `1-ff00:0:110`. Numbers
of the BGP range, up to 32 bits, are written in decimal and larger ones as three hexadecimal groups
of 16 bits.
-/

namespace TrustRoot

/-- An isolation domain and the number of an autonomous system in it. -/
structure AsIdentifier where
  isd : UInt16
  number : UInt64
  deriving DecidableEq, Repr

namespace AsIdentifier

/-- Why a text or a pair of numbers is no identifier. -/
inductive Fault where
  | noSeparator
  /-- The isolation domain is no decimal number below 2^16. -/
  | isolationDomain
  /-- The groups are not three hexadecimal numbers of up to four characters. -/
  | groups
  /-- The number is no decimal number below 2^64. -/
  | number
  | outsideBgpRange
  | tooLarge
  deriving DecidableEq, Repr

def Fault.message : Fault → String
  | .noSeparator => "missing '-' separator"
  | .isolationDomain => "invalid ISD number"
  | .groups => "invalid hex AS number"
  | .number => "invalid AS number"
  | .outsideBgpRange => "decimal AS number outside BGP range"
  | .tooLarge => "AS number exceeds 48 bits"

def bgpLimit : Nat := 2 ^ 32 - 1

def numberLimit : Nat := 2 ^ 48 - 1

/-- The parts of a text before and after the first separator. -/
def splitFirst (separator : Char) : List Char → Option (List Char × List Char)
  | [] => none
  | character :: rest =>
    if character = separator then some ([], rest)
    else (splitFirst separator rest).map fun (before, after) => (character :: before, after)

/-- The number of a hexadecimal group, which has at most four characters. -/
def group? (text : List Char) : Option Nat :=
  if text.length ≤ 4 then Numeral.signedValue? 16 text else none

def groupedNumber? (text : List Char) : Option Nat := do
  let (high, rest) ← splitFirst ':' text
  let (middle, low) ← splitFirst ':' rest
  let high ← group? high
  let middle ← group? middle
  let low ← group? low
  return (high * 65536 + middle) * 65536 + low

/-- The number of an autonomous system in either notation. -/
def readNumber (text : List Char) : Except Fault UInt64 :=
  if ':' ∈ text then
    match groupedNumber? text with
    | some number => .ok (UInt64.ofNat number)
    | none => .error .groups
  else
    match Numeral.decimalBelow? (2 ^ 64) text with
    | some number =>
      if bgpLimit < number then .error .outsideBgpRange else .ok (UInt64.ofNat number)
    | none => .error .number

def read (text : List Char) : Except Fault AsIdentifier :=
  match splitFirst '-' text with
  | none => .error .noSeparator
  | some (domain, number) =>
    match Numeral.decimalBelow? (2 ^ 16) domain with
    | none => .error .isolationDomain
    | some isd => (readNumber number).map fun number => ⟨UInt16.ofNat isd, number⟩

/-- The identifier that a text denotes. -/
def parse (text : String) : Except Fault AsIdentifier := read text.toList

def ofParts (isd : UInt16) (number : UInt64) : Except Fault AsIdentifier :=
  if numberLimit < number.toNat then .error .tooLarge else .ok ⟨isd, number⟩

def numberChars (number : Nat) : List Char :=
  if number ≤ bgpLimit then Nat.toDigits 10 number
  else
    Nat.toDigits 16 (number / 2 ^ 32 % 2 ^ 16) ++ ':' :: Nat.toDigits 16 (number / 2 ^ 16 % 2 ^ 16)
      ++ ':' :: Nat.toDigits 16 (number % 2 ^ 16)

def chars (identifier : AsIdentifier) : List Char :=
  Nat.toDigits 10 identifier.isd.toNat ++ '-' :: numberChars identifier.number.toNat

def text (identifier : AsIdentifier) : String := String.ofList identifier.chars

def before (first second : AsIdentifier) : Bool :=
  first.isd < second.isd || first.isd == second.isd && first.number ≤ second.number

def sorted (identifiers : List AsIdentifier) : List AsIdentifier := identifiers.mergeSort before

def distinct (identifiers : List AsIdentifier) : List AsIdentifier := (sorted identifiers).eraseDups

end AsIdentifier

end TrustRoot
