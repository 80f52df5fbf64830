import TrustRoot.Bytes

/-!
# Base64 text

The standard alphabet with padding. Four symbols carry three octets; the last group may carry one
or two, and is then filled up with padding. Reading checks, in this order: a stray octet after
complete groups, symbols left to right, the number of symbols in the last group, the padding where
it is required, and that the unused bits of the last symbol are zero.
-/

namespace TrustRoot.Base64

/-- Whether the last group must be filled up with padding. -/
inductive Padding where
  /-- The last group has exactly the padding that makes it four octets long. -/
  | required
  | optional
  deriving DecidableEq, Repr

inductive Fault where
  /-- This octet at this offset is no symbol, or is padding in a wrong place. -/
  | symbol (octet : UInt8) (offset : Nat)
  /-- The last group has a single symbol; the length counts symbols up to there. -/
  | length (symbols : Nat)
  | padding
  /-- The symbol at this offset, worth this value, has unused bits that are not zero. -/
  | lastSymbol (octet : UInt8) (offset : Nat) (value : Nat)
  deriving DecidableEq, Repr

def pad : UInt8 := 0x3D

def symbol (value : Nat) : UInt8 :=
  if value < 26 then UInt8.ofNat (0x41 + value)
  else if value < 52 then UInt8.ofNat (0x61 + (value - 26))
  else if value < 62 then UInt8.ofNat (0x30 + (value - 52))
  else if value = 62 then 0x2B
  else 0x2F

def value? (octet : UInt8) : Option Nat :=
  if 0x41 ≤ octet ∧ octet ≤ 0x5A then some (octet.toNat - 0x41)
  else if 0x61 ≤ octet ∧ octet ≤ 0x7A then some (octet.toNat - 0x61 + 26)
  else if 0x30 ≤ octet ∧ octet ≤ 0x39 then some (octet.toNat - 0x30 + 52)
  else if octet = 0x2B then some 62
  else if octet = 0x2F then some 63
  else none

def isSymbol (octet : UInt8) : Bool := (value? octet).isSome

def encode : Bytes → Bytes
  | [] => []
  | [first] =>
    let bits := first.toNat * 65536
    [symbol (bits / 262144), symbol (bits / 4096 % 64), pad, pad]
  | [first, second] =>
    let bits := first.toNat * 65536 + second.toNat * 256
    [symbol (bits / 262144), symbol (bits / 4096 % 64), symbol (bits / 64 % 64), pad]
  | first :: second :: third :: rest =>
    let bits := first.toNat * 65536 + second.toNat * 256 + third.toNat
    symbol (bits / 262144) :: symbol (bits / 4096 % 64) :: symbol (bits / 64 % 64) ::
      symbol (bits % 64) :: encode rest

def encodeText (octets : Bytes) : String :=
  String.ofList ((encode octets).map fun octet => Char.ofNat octet.toNat)

def octetsOf (first second third fourth : Nat) : Bytes :=
  let bits := first * 262144 + second * 4096 + third * 64 + fourth
  [UInt8.ofNat (bits / 65536), UInt8.ofNat (bits / 256 % 256), UInt8.ofNat (bits % 256)]

/-- The symbols at the front of the last group, with their values and their number of pads; fails
at the first octet that is out of place. The group starts at `offset` and `read` holds the symbols
before this point, latest first. -/
def lastGroup (offset : Nat) (read : List (UInt8 × Nat)) (pads : Nat) :
    Bytes → Except Fault (List (UInt8 × Nat) × Nat)
  | [] => .ok (read.reverse, pads)
  | octet :: rest =>
    if octet = pad then
      if read.length + pads < 2 then .error (.symbol octet (offset + read.length + pads))
      else lastGroup offset read (pads + 1) rest
    else if pads ≠ 0 then .error (.symbol pad (offset + read.length))
    else match value? octet with
      | none => .error (.symbol octet (offset + read.length))
      | some value => lastGroup offset ((octet, value) :: read) pads rest

/-- The octets of the last group, which has at most four octets and starts at `offset`. -/
def decodeLast (padding : Padding) (offset : Nat) (group : Bytes) : Except Fault Bytes := do
  let (symbols, pads) ← lastGroup offset [] 0 group
  let complete : Bool := padding == .optional || (symbols.length + pads) % 4 == 0
  match symbols with
  | [] => if group = [] then .ok [] else .error (.length offset)
  | [_] => .error (.length (offset + 1))
  | [(_, first), (octet, second)] =>
    if !complete then .error .padding
    else if second % 16 ≠ 0 then .error (.lastSymbol octet (offset + 1) second)
    else .ok ((octetsOf first second 0 0).take 1)
  | [(_, first), (_, second), (octet, third)] =>
    if !complete then .error .padding
    else if third % 4 ≠ 0 then .error (.lastSymbol octet (offset + 2) third)
    else .ok ((octetsOf first second third 0).take 2)
  | (_, first) :: (_, second) :: (_, third) :: (_, fourth) :: _ =>
    .ok (octetsOf first second third fourth)

def valueAt (offset : Nat) (octet : UInt8) : Except Fault Nat :=
  match value? octet with
  | some value => .ok value
  | none => .error (.symbol octet offset)

/-- The octets of groups that start at `offset`, all but the last of which are four symbols. -/
def decodeGroups (padding : Padding) (offset : Nat) : Bytes → Except Fault Bytes
  | first :: second :: third :: fourth :: next :: rest => do
    let first ← valueAt offset first
    let second ← valueAt (offset + 1) second
    let third ← valueAt (offset + 2) third
    let fourth ← valueAt (offset + 3) fourth
    let others ← decodeGroups padding (offset + 4) (next :: rest)
    .ok (octetsOf first second third fourth ++ others)
  | group => decodeLast padding offset group

def decode (padding : Padding) (text : Bytes) : Except Fault Bytes :=
  match text.getLast? with
  | some last =>
    if text.length % 4 = 1 ∧ last ≠ pad ∧ isSymbol last = false then
      .error (.symbol last (text.length - 1))
    else decodeGroups padding 0 text
  | none => .ok []

def Fault.message : Fault → String
  | .symbol octet offset => s!"Invalid symbol {octet}, offset {offset}."
  | .length symbols => s!"Invalid input length: {symbols}"
  | .padding => "Invalid padding"
  | .lastSymbol octet offset _ => s!"Invalid last symbol {octet}, offset {offset}."

/-- A number in binary with at least eight digits. -/
def binaryOctet (value : Nat) : String :=
  let digits := Nat.toDigits 2 value
  String.ofList (List.replicate (8 - digits.length) '0' ++ digits)

/-- The fault in words, with a last symbol given by its octet, character and bits. -/
def Fault.detailedMessage : Fault → String
  | .lastSymbol octet offset value =>
    let hex := String.ofList (Nat.toDigits 16 octet.toNat)
    let character := Char.ofNat octet.toNat
    let bits := binaryOctet value
    s!"Invalid last symbol 0x{hex} ('{character}') at offset {offset}, decoded as 0b{bits}."
  | fault => fault.message

theorem value?_symbol (value : Nat) (small : value < 64) : value? (symbol value) = some value := by
  have all : ∀ value : Fin 64, value? (symbol value.val) = some value.val := by decide
  exact all ⟨value, small⟩

end TrustRoot.Base64
