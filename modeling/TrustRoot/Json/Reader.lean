import TrustRoot.Json.Basic
import TrustRoot.Json.Token

/-!
# Reading JSON

The reader accepts one JSON value between blanks, with arrays and objects nested at most 127 deep.
Of several members under one name the last counts, and the members of every object come out by
ascending name.
-/

namespace TrustRoot.Json

/-- A way to read a value from the front of any text. -/
abbrev ValueReader := (text : Bytes) → Except Fault (Parsed Json text.length)

/-- The items of an array up to its closing bracket; `read` holds the items before this point,
latest first. -/
def readItems (value : ValueReader) (bound : Nat) (read : List Json) (text : Bytes)
    (fits : text.length ≤ bound) : Except Fault (Parsed (List Json) bound) :=
  match nextOctet? text.length text (Nat.le_refl _) with
  | none => .error (.next .endInArray [])
  | some ⟨octet, rest, shorter⟩ =>
    if octet = 0x5D then .ok ⟨read.reverse, rest, by omega⟩
    else if read.isEmpty then
      match value (octet :: rest) with
      | .error fault => .error fault
      | .ok ⟨item, rest', shorter'⟩ =>
        have : rest'.length < text.length := by simp only [List.length_cons] at shorter'; omega
        readItems value bound (item :: read) rest' (by omega)
    else if octet = 0x2C then
      match nextOctet? rest.length rest (Nat.le_refl _) with
      | none => .error (.next .endInValue [])
      | some ⟨first, others, shorter'⟩ =>
        if first = 0x5D then .error (.next .trailingComma (first :: others))
        else
          match value (first :: others) with
          | .error fault => .error fault
          | .ok ⟨item, rest', shorter''⟩ =>
            have : rest'.length < text.length := by simp only [List.length_cons] at shorter''; omega
            readItems value bound (item :: read) rest' (by omega)
    else .error (.next .expectedCommaInArray (octet :: rest))
termination_by text.length

/-- A member after the opening quote of its name. -/
def readMember (value : ValueReader) (text : Bytes) :
    Except Fault (Parsed (String × Json) text.length) :=
  match readString text with
  | .error fault => .error fault
  | .ok ⟨name, rest, shorter⟩ =>
    match nextOctet? rest.length rest (Nat.le_refl _) with
    | none => .error (.next .endInObject [])
    | some ⟨octet, rest', shorter'⟩ =>
      if octet = 0x3A then
        match value rest' with
        | .error fault => .error fault
        | .ok ⟨member, rest'', shorter''⟩ => .ok ⟨(name, member), rest'', by omega⟩
      else .error (.next .expectedColon (octet :: rest'))

/-- The members of an object up to its closing brace; `read` holds the members before this point,
latest first. -/
def readMembers (value : ValueReader) (bound : Nat) (read : List (String × Json)) (text : Bytes)
    (fits : text.length ≤ bound) : Except Fault (Parsed (List (String × Json)) bound) :=
  match nextOctet? text.length text (Nat.le_refl _) with
  | none => .error (.next .endInObject [])
  | some ⟨octet, rest, shorter⟩ =>
    if octet = 0x7D then .ok ⟨read.reverse, rest, by omega⟩
    else if read.isEmpty then
      if octet = quoteOctet then
        match readMember value rest with
        | .error fault => .error fault
        | .ok ⟨member, rest', shorter'⟩ =>
          have : rest'.length < text.length := by omega
          readMembers value bound (member :: read) rest' (by omega)
      else .error (.next .expectedName (octet :: rest))
    else if octet = 0x2C then
      match nextOctet? rest.length rest (Nat.le_refl _) with
      | none => .error (.next .endInValue [])
      | some ⟨first, others, shorter'⟩ =>
        if first = quoteOctet then
          match readMember value others with
          | .error fault => .error fault
          | .ok ⟨member, rest', shorter''⟩ =>
            have : rest'.length < text.length := by omega
            readMembers value bound (member :: read) rest' (by omega)
        else if first = 0x7D then .error (.next .trailingComma (first :: others))
        else .error (.next .expectedName (first :: others))
    else .error (.next .expectedCommaInObject (octet :: rest))
termination_by text.length

def readConstant (expected : Bytes) (value : Json) (text : Bytes) :
    Except Fault (Parsed Json (text.length + 1)) :=
  match readLiteral expected text with
  | .error fault => .error fault
  | .ok ⟨rest, fits⟩ => .ok ⟨value, rest, Nat.lt_succ_of_le fits⟩

/-- A value that is neither an array nor an object, from its first octet on. -/
def readScalar (octet : UInt8) (rest : Bytes) :
    Except Fault (Parsed Json (octet :: rest).length) :=
  if octet = 0x6E then readConstant [0x75, 0x6C, 0x6C] .null rest
  else if octet = 0x74 then readConstant [0x72, 0x75, 0x65] (.bool true) rest
  else if octet = 0x66 then readConstant [0x61, 0x6C, 0x73, 0x65] (.bool false) rest
  else if octet = quoteOctet then
    match readString rest with
    | .error fault => .error fault
    | .ok ⟨text, rest', shorter⟩ =>
      .ok ⟨.string text, rest', by simp only [List.length_cons]; omega⟩
  else if octet = 0x2D ∨ isDigit octet then
    match readNumber (octet :: rest) with
    | .error fault => .error fault
    | .ok ⟨value, rest', shorter⟩ => .ok ⟨.number value, rest', shorter⟩
  else .error (.next .expectedValue (octet :: rest))

/-- A value that may hold arrays and objects nested up to `depth` levels. -/
def readValue : (depth : Nat) → ValueReader
  | depth, text =>
    match nextOctet? text.length text (Nat.le_refl _) with
    | none => .error (.next .endInValue [])
    | some ⟨octet, rest, shorter⟩ =>
      if octet = 0x5B ∨ octet = 0x7B then
        match depth with
        | 0 => .error (.next .tooDeep (octet :: rest))
        | depth + 1 =>
          if octet = 0x5B then
            match readItems (readValue depth) rest.length [] rest (Nat.le_refl _) with
            | .error fault => .error fault
            | .ok ⟨items, rest', shorter'⟩ => .ok ⟨.array items, rest', length_lt_trans shorter' shorter⟩
          else
            match readMembers (readValue depth) rest.length [] rest (Nat.le_refl _) with
            | .error fault => .error fault
            | .ok ⟨members, rest', shorter'⟩ =>
              .ok ⟨.ofDict (.ofList members), rest', length_lt_trans shorter' shorter⟩
      else
        match readScalar octet rest with
        | .error fault => .error fault
        | .ok ⟨value, rest', shorter'⟩ =>
          .ok ⟨value, rest', by simp only [List.length_cons] at shorter'; omega⟩

def depthLimit : Nat := 127

def readWhole (text : Bytes) : Except Fault Json :=
  match readValue depthLimit text with
  | .error fault => .error fault
  | .ok ⟨value, rest, _⟩ =>
    match nextOctet? rest.length rest (Nat.le_refl _) with
    | none => .ok value
    | some ⟨octet, rest', _⟩ => .error (.next .trailingCharacters (octet :: rest'))

/-- The value of a JSON text, or a report of its first fault. -/
def parse (text : Bytes) : Except Report Json :=
  match readWhole text with
  | .ok value => .ok value
  | .error fault => .error (fault.report text)

end TrustRoot.Json
