import TrustRoot.Zstandard.PrefixCode

/-!
# Literals of coded blocks

A coded block starts with its literals: the octets that are told and not copied. They are told as
they are, as one octet to be repeated, or in a prefix code that is described in front of them. A
long text in a prefix code is cut into four bit strings.
-/

namespace TrustRoot.Zstandard.Literals

/-! ## Headers -/

inductive Form where
  | plain
  | uniform
  | described
  | inherited
  deriving DecidableEq, Repr

def Form.ofBits (number : Nat) : Form :=
  match number % 4 with
  | 0 => .plain
  | 1 => .uniform
  | 2 => .described
  | _ => .inherited

/-- What is told in front of literals. -/
structure Header where
  form : Form
  size : Nat
  extent : Nat
  streams : Nat
  deriving DecidableEq, Repr

def plainHeader (size : Nat) : Bytes :=
  if size < 32 then Bytes.ofNatLittle 1 (8 * size)
  else if size < 4096 then Bytes.ofNatLittle 2 (16 * size + 4)
  else Bytes.ofNatLittle 3 (16 * size + 12)

def describedHeader (streams size extent : Nat) : Bytes :=
  let largest := max size extent
  if streams = 1 ∧ largest < 1024 then Bytes.ofNatLittle 3 (2 + 16 * (size + 1024 * extent))
  else if largest < 1024 then Bytes.ofNatLittle 3 (6 + 16 * (size + 1024 * extent))
  else if largest < 16384 then Bytes.ofNatLittle 4 (10 + 16 * (size + 16384 * extent))
  else Bytes.ofNatLittle 5 (14 + 16 * (size + 262144 * extent))

/-- The header at the front, and the octets after it. -/
def readHeader? (text : Bytes) : Option (Header × Bytes) :=
  match text with
  | [] => none
  | first :: _ =>
    let form := Form.ofBits first.toNat
    let shape := first.toNat / 4 % 4
    let number (octets : Nat) : Nat := Bytes.toNatLittle (text.take octets)
    let (octets, header) : Nat × Header :=
      match form with
      | .plain | .uniform =>
        let (octets, size) :=
          match shape with
          | 1 => (2, number 2 / 16)
          | 3 => (3, number 3 / 16)
          | _ => (1, number 1 / 8)
        (octets, ⟨form, size, if form = .plain then size else 1, 1⟩)
      | .described | .inherited =>
        let (octets, width) : Nat × Nat :=
          match shape with
          | 2 => (4, 14)
          | 3 => (5, 18)
          | _ => (3, 10)
        let sizes := number octets / 16
        (octets, ⟨form, sizes % 2 ^ width, sizes / 2 ^ width, if shape = 0 then 1 else 4⟩)
    if text.length < octets then none else some (header, text.drop octets)

/-! ## Bit strings -/

def quarter (size : Nat) : Nat := (size + 3) / 4

def leastQuartered : Nat := 256

/-- Literals in a prefix code as one bit string or as four, where the sizes of the first three go in
front. -/
def writeStreams (code : PrefixCode) (literals : Bytes) : Nat × Bytes :=
  if literals.length < leastQuartered then (1, Bits.pack (code.write literals))
  else
    let part (number : Nat) : Bytes :=
      let rest := literals.drop (number * quarter literals.length)
      Bits.pack (code.write (if number = 3 then rest else rest.take (quarter literals.length)))
    let (first, second, third) := (part 0, part 1, part 2)
    let sizes := [first, second, third].flatMap fun stream => Bytes.ofNatLittle 2 stream.length
    (4, sizes ++ first ++ second ++ third ++ part 3)

/-- The literals in one bit string, if there are `size` of them. -/
def readStream? (tree : PrefixCode.Tree) (size : Nat) (stream : Bytes) : Option Bytes :=
  ((Bits.unpack? stream).bind tree.read?).filter fun literals => literals.length == size

def readStreams? (code : PrefixCode) (streams size : Nat) (told : Bytes) : Option Bytes := do
  let tree := code.tree
  if streams = 1 then readStream? tree size told
  else if told.length < 6 ∨ size < 3 * quarter size then none
  else
    let extent (number : Nat) : Nat := Bytes.toNatLittle ((told.drop (2 * number)).take 2)
    let first := told.drop 6
    let second := first.drop (extent 0)
    let third := second.drop (extent 1)
    let fourth := third.drop (extent 2)
    let part := quarter size
    return (← readStream? tree part (first.take (extent 0))) ++
      (← readStream? tree part (second.take (extent 1))) ++
      (← readStream? tree part (third.take (extent 2))) ++
      (← readStream? tree (size - 3 * part) fourth)

/-! ## Literals -/

def writePlain (literals : Bytes) : Bytes := plainHeader literals.length ++ literals

/-- Literals in a prefix code of their own, if there is one. -/
def writeDescribed? (literals : Bytes) : Option Bytes := do
  let code ← PrefixCode.ofOctets? literals
  let description ← code.describe?
  let (streams, told) := writeStreams code literals
  let extent := description.length + told.length
  return describedHeader streams literals.length extent ++ description ++ told

def write (literals : Bytes) : Bytes :=
  let plain := writePlain literals
  match writeDescribed? literals with
  | some described => if described.length < plain.length then described else plain
  | none => plain

/-- The literals at the front, of which there may be at most `limit`, and the octets after them. -/
def read? (limit : Nat) (text : Bytes) : Option (Bytes × Bytes) := do
  let (header, rest) ← readHeader? text
  let told := rest.take header.extent
  if limit < header.size ∨ told.length < header.extent then none
  else
    let literals ←
      match header.form with
      | .plain => some told
      | .uniform => some (told.flatMap (List.replicate header.size))
      | .described => do
        let (code, streams) ← PrefixCode.ofDescription? told
        readStreams? code header.streams header.size streams
      | .inherited => none
    return (literals, rest.drop header.extent)

end TrustRoot.Zstandard.Literals
