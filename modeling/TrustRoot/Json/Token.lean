import TrustRoot.Json.Fault
import TrustRoot.Json.Number
import TrustRoot.Text.Hex

/-!
# Tokens of JSON texts

Reading a token consumes at least one octet, and the result carries the proof, so that the reader
of whole values needs no other measure than the length of what is left. This module reads strings,
numbers and literal names, and finds the next octet that is not blank.
-/

namespace TrustRoot.Json

/-- Something read from fewer than `bound` octets, with what follows it. -/
structure Parsed (α : Type) (bound : Nat) where
  value : α
  rest : Bytes
  shorter : rest.length < bound

/-- What is left of a rest is shorter still. -/
theorem length_lt_trans {text rest left : Bytes} (less : left.length < rest.length)
    (shorter : rest.length < text.length) : left.length < text.length :=
  Nat.lt_trans less shorter

def Parsed.weaken {α : Type} {bound larger : Nat} (parsed : Parsed α bound)
    (weaker : bound ≤ larger) : Parsed α larger :=
  ⟨parsed.value, parsed.rest, Nat.lt_of_lt_of_le parsed.shorter weaker⟩

/-- Blank octets: space, tab, line feed and carriage return. -/
def isBlank (octet : UInt8) : Bool :=
  octet == 0x20 || octet == 0x09 || octet == 0x0A || octet == 0x0D

def nextOctet? (bound : Nat) : (text : Bytes) → text.length ≤ bound → Option (Parsed UInt8 bound)
  | [], _ => none
  | octet :: rest, fits =>
    if isBlank octet then nextOctet? bound rest (Nat.le_of_succ_le fits)
    else some ⟨octet, rest, fits⟩

/-! ## Strings -/

def quoteOctet : UInt8 := 0x22

def backslash : UInt8 := 0x5C

def letterEscape? (letter : UInt8) : Option UInt8 :=
  if letter = 0x22 then some 0x22
  else if letter = 0x5C then some 0x5C
  else if letter = 0x2F then some 0x2F
  else if letter = 0x62 then some 0x08
  else if letter = 0x66 then some 0x0C
  else if letter = 0x6E then some 0x0A
  else if letter = 0x72 then some 0x0D
  else if letter = 0x74 then some 0x09
  else none

def unitOf? (first second third fourth : UInt8) : Option Nat := do
  let first ← Hex.value? first
  let second ← Hex.value? second
  let third ← Hex.value? third
  let fourth ← Hex.value? fourth
  return first * 4096 + second * 256 + third * 16 + fourth

/-- The UTF-16 unit of the four hexadecimal digits at the front. -/
def readUnit : (text : Bytes) → Except Fault (Parsed Nat text.length)
  | first :: second :: third :: fourth :: rest =>
    match unitOf? first second third fourth with
    | some unit => .ok ⟨unit, rest, by simp only [List.length_cons]; omega⟩
    | none => .error (.after .invalidEscape rest)
  | _ => .error (.after .endInString [])

def isTrailing (unit : Nat) : Bool := 0xDC00 ≤ unit && unit ≤ 0xDFFF

def isLeading (unit : Nat) : Bool := 0xD800 ≤ unit && unit ≤ 0xDBFF

def codePointOctets (code : Nat) : Bytes := String.utf8EncodeChar (Char.ofNat code)

/-- The second unit of a surrogate pair, which is another escape. -/
def readTrailing : (text : Bytes) → Except Fault (Parsed Nat text.length)
  | [] => .error (.after .endInString [])
  | octet :: rest =>
    if octet ≠ backslash then .error (.after .endOfSurrogate rest)
    else match rest with
      | [] => .error (.after .endInString [])
      | letter :: digits =>
        if letter ≠ 0x75 then .error (.after .endOfSurrogate digits)
        else match readUnit digits with
          | .error fault => .error fault
          | .ok ⟨unit, rest, shorter⟩ =>
            if isTrailing unit then
              .ok ⟨unit, rest, by simp only [List.length_cons]; omega⟩
            else .error (.after .loneSurrogate rest)

/-- The octets that a `\u` escape stands for, read after the letter. -/
def readUnicodeEscape (text : Bytes) : Except Fault (Parsed Bytes text.length) :=
  match readUnit text with
  | .error fault => .error fault
  | .ok ⟨unit, rest, shorter⟩ =>
    if isTrailing unit then .error (.after .loneSurrogate rest)
    else if isLeading unit then
      match readTrailing rest with
      | .error fault => .error fault
      | .ok ⟨trailing, rest', shorter'⟩ =>
        let code := 0x10000 + (unit - 0xD800) * 1024 + (trailing - 0xDC00)
        .ok ⟨codePointOctets code, rest', by omega⟩
    else .ok ⟨codePointOctets unit, rest, shorter⟩

/-- The octets that an escape stands for, read after the backslash. -/
def readEscape : (text : Bytes) → Except Fault (Parsed Bytes text.length)
  | [] => .error (.after .endInString [])
  | letter :: rest =>
    if letter = 0x75 then
      (readUnicodeEscape rest).map (·.weaken (Nat.le_succ rest.length))
    else match letterEscape? letter with
      | some octet => .ok ⟨[octet], rest, Nat.lt_succ_self rest.length⟩
      | none => .error (.after .invalidEscape rest)

/-- The octets of a string up to its closing quote; `read` holds those before this point, latest
first. -/
def readOctets (bound : Nat) (read text : Bytes) (fits : text.length ≤ bound) :
    Except Fault (Parsed Bytes bound) :=
  match text with
  | [] => .error (.after .endInString [])
  | octet :: rest =>
    if octet = quoteOctet then .ok ⟨read.reverse, rest, fits⟩
    else if octet = backslash then
      match readEscape rest with
      | .error fault => .error fault
      | .ok ⟨octets, rest', shorter⟩ =>
        readOctets bound (octets.reverse ++ read) rest' (by
          simp only [List.length_cons] at fits
          omega)
    else if octet < 0x20 then .error (.after .controlCharacter rest)
    else readOctets bound (octet :: read) rest (Nat.le_of_succ_le fits)
termination_by text.length

/-- The text of a string, read after its opening quote. An ill-formed text is reported as many
octets before the end of the string as it has from the first ill-formed sequence on. -/
def readString (text : Bytes) : Except Fault (Parsed String text.length) :=
  match readOctets text.length [] text (Nat.le_refl _) with
  | .error fault => .error fault
  | .ok ⟨octets, rest, shorter⟩ =>
    match Bytes.toText? octets with
    | some value => .ok ⟨value, rest, shorter⟩
    | none =>
      .error ⟨.invalidCodePoint, rest.length + (octets.length - Bytes.wellFormedSize octets)⟩

/-! ## Numbers -/

def isDigit (octet : UInt8) : Bool := 0x30 ≤ octet && octet ≤ 0x39

def leadingDigits (text : Bytes) : Bytes := text.takeWhile isDigit

def afterDigits (text : Bytes) : Bytes := text.dropWhile isDigit

theorem length_afterDigits_le (text : Bytes) : (afterDigits text).length ≤ text.length :=
  (List.dropWhile_suffix _).length_le

/-- The integer that digits form after those worth `high`, as far as it stays below 2^64, and the
digits left over from there. -/
def significand (high : Nat) : Bytes → Nat × Bytes
  | [] => (high, [])
  | digit :: rest =>
    let next := high * 10 + (digit.toNat - 0x30)
    if next < 2 ^ 64 then significand next rest else (high, digit :: rest)

def powerOfTen (exponent : Nat) : Float := Float.ofScientific 1 false exponent

/-- The value scaled by `10 ^ (-exponent)`; a scale beyond 10^-308 is applied in several steps. -/
def scaleDown (value : Float) (exponent : Nat) : Float :=
  if exponent ≤ 308 then value / powerOfTen exponent
  else if value == 0 then value
  else scaleDown (value / powerOfTen 308) (exponent - 308)
termination_by exponent

/-- The value scaled by a power of ten, unless that is too large for the binary64 format. -/
def scale? (value : Float) (exponent : Int) : Option Float :=
  if exponent < 0 then some (scaleDown value exponent.natAbs)
  else if exponent ≤ 308 then
    let scaled := value * powerOfTen exponent.toNat
    if scaled.isInf then none else some scaled
  else if value == 0 then some value
  else none

/-- The number `integer * 10 ^ exponent` with a sign, in the binary64 format. -/
def real? (negative : Bool) (integer : Nat) (exponent : Int) : Option Number :=
  (scale? (UInt64.ofNat integer).toFloat exponent).map fun value =>
    .real (if negative then -value else value)

/-- The integer with a sign; negative zero and integers below -2^63 take the binary64 format. -/
def integer (negative : Bool) (magnitude : Nat) : Number :=
  if negative then
    if small : magnitude ≠ 0 ∧ magnitude - 1 < 9223372036854775808 then
      .negative ⟨magnitude - 1, small.2⟩
    else .real (-(UInt64.ofNat magnitude).toFloat)
  else .natural (UInt64.ofNat magnitude)

def exponentLimit : Nat := 2 ^ 31

/-- The exponent that digits form, or the digits after the one that makes it too large. -/
def exponentOf (high : Nat) : Bytes → Except Bytes Nat
  | [] => .ok high
  | digit :: rest =>
    let next := high * 10 + (digit.toNat - 0x30)
    if next < exponentLimit then exponentOf next rest else .error rest

/-- A number whose exponent starts after the letter `e`; its digits so far form
`integer * 10 ^ exponent`. -/
def readExponent (negative : Bool) (integer : Nat) (exponent : Int) (text : Bytes) :
    Except Fault (Parsed Number text.length) :=
  let down : Bool := text.head? == some 0x2D
  let digits := if down || text.head? == some 0x2B then text.drop 1 else text
  match chosen : digits with
  | [] => .error (.after .endInValue [])
  | first :: rest =>
    if isDigit first = false then .error (.after .invalidNumber rest)
    else
      have shorter : (afterDigits rest).length < text.length := by
        have tail := length_afterDigits_le rest
        have whole : digits.length ≤ text.length := by
          simp only [digits]
          split
          · simp only [List.length_drop]; omega
          · exact Nat.le_refl _
        rw [chosen] at whole
        simp only [List.length_cons] at whole
        omega
      match exponentOf 0 (first :: leadingDigits rest) with
      | .error beyond =>
        if integer ≠ 0 ∧ down = false then
          .error ⟨.numberOutOfRange, beyond.length + (afterDigits rest).length⟩
        else .ok ⟨.real (if negative then -0.0 else 0.0), afterDigits rest, shorter⟩
      | .ok power =>
        match real? negative integer (if down then exponent - power else exponent + power) with
        | some value => .ok ⟨value, afterDigits rest, shorter⟩
        | none => .error (.after .numberOutOfRange (afterDigits rest))

def isExponentMark (octet : UInt8) : Bool := octet == 0x65 || octet == 0x45

/-- A number after its fraction; its digits so far form `integer * 10 ^ exponent`. -/
def readAfterFraction (bound : Nat) (negative : Bool) (integer : Nat) (exponent : Int)
    (text : Bytes) (fits : text.length < bound) : Except Fault (Parsed Number bound) :=
  match text with
  | [] => finish []
  | mark :: rest =>
    if isExponentMark mark then
      match readExponent negative integer exponent rest with
      | .error fault => .error fault
      | .ok parsed => .ok (parsed.weaken (by simp only [List.length_cons] at fits; omega))
    else finish (mark :: rest)
where
  finish (rest : Bytes) : Except Fault (Parsed Number bound) :=
    match real? negative integer exponent with
    | some value => .ok ⟨value, text, fits⟩
    | none => .error (.after .numberOutOfRange rest)

/-- A number whose fraction starts here, after the point. -/
def readFraction (negative : Bool) (high : Nat) (exponent : Nat) (text : Bytes) :
    Except Fault (Parsed Number (text.length + 1)) :=
  let digits := leadingDigits text
  let rest := afterDigits text
  if digits = [] then
    match text with
    | [] => .error (.next .endInValue [])
    | _ => .error (.next .invalidNumber text)
  else
    let (integer, dropped) := significand high digits
    let places : Int := (digits.length : Int) - dropped.length
    readAfterFraction (text.length + 1) negative integer ((exponent : Int) - places) rest
      (Nat.lt_succ_of_le (length_afterDigits_le text))

/-- A number after its integer digits, which form `high * 10 ^ exponent`; the exponent is not zero
if digits had to be dropped. -/
def readAfterInteger (bound : Nat) (negative : Bool) (high : Nat) (exponent : Nat)
    (text : Bytes) (fits : text.length < bound) : Except Fault (Parsed Number bound) :=
  match text with
  | [] => finish []
  | mark :: rest =>
    if mark = 0x2E then
      match readFraction negative high exponent rest with
      | .error fault => .error fault
      | .ok parsed => .ok (parsed.weaken (by simp only [List.length_cons] at fits; omega))
    else if isExponentMark mark then
      match readExponent negative high exponent rest with
      | .error fault => .error fault
      | .ok parsed => .ok (parsed.weaken (by simp only [List.length_cons] at fits; omega))
    else finish (mark :: rest)
where
  finish (rest : Bytes) : Except Fault (Parsed Number bound) :=
    if exponent = 0 then .ok ⟨integer negative high, text, fits⟩
    else match real? negative high exponent with
      | some value => .ok ⟨value, text, fits⟩
      | none => .error (.after .numberOutOfRange rest)

def readMagnitude (negative : Bool) :
    (text : Bytes) → Except Fault (Parsed Number text.length)
  | [] => .error (.after .endInValue [])
  | first :: rest =>
    if first = 0x30 then
      match rest with
      | [] => readAfterInteger _ negative 0 0 [] (by simp)
      | second :: others =>
        if isDigit second then .error (.next .invalidNumber (second :: others))
        else readAfterInteger _ negative 0 0 (second :: others) (by simp)
    else if isDigit first then
      let (high, dropped) := significand 0 (first :: leadingDigits rest)
      readAfterInteger _ negative high dropped.length (afterDigits rest)
        (Nat.lt_succ_of_le (length_afterDigits_le rest))
    else .error (.after .invalidNumber rest)

def readNumber : (text : Bytes) → Except Fault (Parsed Number text.length)
  | [] => .error (.after .endInValue [])
  | first :: rest =>
    if first = 0x2D then
      match readMagnitude true rest with
      | .error fault => .error fault
      | .ok parsed => .ok (parsed.weaken (Nat.le_succ rest.length))
    else readMagnitude false (first :: rest)

/-! ## Literal names -/

def readLiteral (expected text : Bytes) : Except Fault {rest : Bytes // rest.length ≤ text.length} :=
  match expected, text with
  | [], text => .ok ⟨text, Nat.le_refl _⟩
  | _ :: _, [] => .error (.after .endInValue [])
  | octet :: others, first :: rest =>
    if first = octet then
      (readLiteral others rest).map fun ⟨left, fits⟩ => ⟨left, by simp only [List.length_cons]; omega⟩
    else .error (.after .expectedLiteral rest)

end TrustRoot.Json
