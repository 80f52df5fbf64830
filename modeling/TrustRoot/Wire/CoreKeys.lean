import TrustRoot.Json.Writer
import TrustRoot.Text.Base64
import TrustRoot.Text.Quoted

/-!
# Keys of a core system

The record of a core system holds an online and an offline key, each with the name of its
algorithm. It is written as an object with four members, and may also be read from a list of the
four values. Keys are Base64 texts, whose padding may be left out on reading.
-/

namespace TrustRoot

/-- The key material of one core system. -/
structure CoreKeys where
  onlineAlgorithm : String
  onlineKey : Bytes
  offlineAlgorithm : String
  offlineKey : Bytes
  deriving DecidableEq

namespace CoreKeys

inductive Part where
  | onlineAlgorithm
  | onlineKey
  | offlineAlgorithm
  | offlineKey
  deriving DecidableEq, Repr

def Part.all : List Part := [.onlineAlgorithm, .onlineKey, .offlineAlgorithm, .offlineKey]

def Part.name : Part → String
  | .onlineAlgorithm => "OnlineKeyAlg"
  | .onlineKey => "OnlineKey"
  | .offlineAlgorithm => "OfflineKeyAlg"
  | .offlineKey => "OfflineKey"

def Part.ofName? (name : String) : Option Part := Part.all.find? fun part => part.name == name

inductive Expectation where
  | record
  | text
  | key
  deriving DecidableEq, Repr

def Expectation.message : Expectation → String
  | .record => "struct CoreAsEntry"
  | .text => "a string"
  | .key => "a base64 encoded string"

inductive Fault where
  | unexpected (found : Json) (expectation : Expectation)
  | unknownField (name : String)
  | missingField (part : Part)
  | tooShort (length : Nat)
  | tooLong (length : Nat)
  | base64 (fault : Base64.Fault)

/-- A JSON value in a diagnostic: its form, with the value unless it is compound. -/
def describe : Json → String
  | .null => "null"
  | .bool value => s!"boolean `{value}`"
  | .number (.real value) => s!"floating point `{Json.Number.text (.real value)}`"
  | .number value => s!"integer `{value.text}`"
  | .string value => s!"string {Text.quote value}"
  | .array _ => "sequence"
  | .object _ => "map"

def ticked (name : String) : String := s!"`{name}`"

def Fault.message : Fault → String
  | .unexpected found expectation =>
    s!"invalid type: {describe found}, expected {expectation.message}"
  | .unknownField name =>
    let names := String.intercalate ", " (Part.all.map fun part => ticked part.name)
    s!"unknown field {ticked name}, expected one of {names}"
  | .missingField part => s!"missing field {ticked part.name}"
  | .tooShort length =>
    s!"invalid length {length}, expected {Expectation.message .record} with 4 elements"
  | .tooLong length => s!"invalid length {length}, expected fewer elements in array"
  | .base64 fault => fault.detailedMessage

def readText : Json → Except Fault String
  | .string text => .ok text
  | found => .error (.unexpected found .text)

def readKey : Json → Except Fault Bytes
  | .string text => (Base64.decode .optional (Bytes.ofText text)).mapError .base64
  | found => .error (.unexpected found .key)

def Part.check (part : Part) (value : Json) : Except Fault Unit :=
  match part with
  | .onlineAlgorithm | .offlineAlgorithm => (readText value).map fun _ => ()
  | .onlineKey | .offlineKey => (readKey value).map fun _ => ()

def checkMember (member : String × Json) : Except Fault Unit :=
  match Part.ofName? member.1 with
  | some part => part.check member.2
  | none => .error (.unknownField member.1)

def memberOf (members : List (String × Json)) (part : Part) : Except Fault Json :=
  match findEntry part.name members with
  | some value => .ok value
  | none => .error (.missingField part)

/-- The record of an object. All members are looked at, by ascending name, before one is missed. -/
def ofMembers (members : List (String × Json)) : Except Fault CoreKeys := do
  members.forM checkMember
  let onlineAlgorithm ← readText (← memberOf members .onlineAlgorithm)
  let onlineKey ← readKey (← memberOf members .onlineKey)
  let offlineAlgorithm ← readText (← memberOf members .offlineAlgorithm)
  let offlineKey ← readKey (← memberOf members .offlineKey)
  return { onlineAlgorithm, onlineKey, offlineAlgorithm, offlineKey }

def itemAt (items : List Json) (position : Nat) : Except Fault Json :=
  match items[position]? with
  | some value => .ok value
  | none => .error (.tooShort items.length)

def ofItems (items : List Json) : Except Fault CoreKeys := do
  let onlineAlgorithm ← readText (← itemAt items 0)
  let onlineKey ← readKey (← itemAt items 1)
  let offlineAlgorithm ← readText (← itemAt items 2)
  let offlineKey ← readKey (← itemAt items 3)
  if 4 < items.length then .error (.tooLong items.length)
  else return { onlineAlgorithm, onlineKey, offlineAlgorithm, offlineKey }

/-- The record that a JSON value writes. -/
def ofJson : Json → Except Fault CoreKeys
  | .object members => ofMembers members
  | .array items => ofItems items
  | found => .error (.unexpected found .record)

def toJson (keys : CoreKeys) : Json :=
  .object [
    ("OfflineKey", .string (Base64.encodeText keys.offlineKey)),
    ("OfflineKeyAlg", .string keys.offlineAlgorithm),
    ("OnlineKey", .string (Base64.encodeText keys.onlineKey)),
    ("OnlineKeyAlg", .string keys.onlineAlgorithm)]

end CoreKeys

end TrustRoot
