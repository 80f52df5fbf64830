import TrustRoot.Zstandard.Automaton
import TrustRoot.Zstandard.BitString
import TrustRoot.Zstandard.CodeRange
import TrustRoot.Zstandard.Sequence

/-!
# Sequences in code

Behind the literals of a coded block stand its sequences: their number, and one bit string for all of
them. Each number of a sequence is told by a state of an automaton, which stands for a range of
numbers, and by bits for the place in the range. The bit string starts with the states for the first
sequence, and behind each sequence but the last stand the bits that lead to the states for the next
one. Since the states lead from the first sequence to the last, they are chosen from the last to the
first.
-/

namespace TrustRoot.Zstandard

/-! ## Numbers -/

/-- A code for one of the numbers of sequences. -/
structure NumberCode where
  ranges : Array CodeRange
  automaton : Automaton

namespace NumberCode

def literals : NumberCode := ⟨CodeRange.literals, Automaton.literals⟩

def copies : NumberCode := ⟨CodeRange.copies, Automaton.copies⟩

def offsets : NumberCode := ⟨CodeRange.offsets, Automaton.offsets⟩

structure Word where
  state : Nat
  place : Bits
  way : Bits

/-- A number in a code, if it has one, where the next number has a certain state. -/
def word? (code : NumberCode) (number : Nat) (next? : Option Nat) : Option Word := do
  let symbol ← code.ranges.findIdx? fun range => range.covers number
  let range ← code.ranges[symbol]?
  let index ← code.automaton.state? symbol next?
  let state ← code.automaton.states[index]?
  return ⟨index, .ofNat range.width (number - range.base),
    ((next?.map fun next => Bits.ofNat state.width (next - state.base)).getD [])⟩

def start (code : NumberCode) (state : Nat) : Bits := .ofNat code.automaton.width state

def readStart? (code : NumberCode) (bits : Bits) : Option (Nat × Bits) :=
  bits.read? code.automaton.width

/-- The number that a state and the bits at the front stand for. -/
def read? (code : NumberCode) (state : Nat) (bits : Bits) : Option (Nat × Bits) := do
  let range ← code.ranges[(← code.automaton.states[state]?).symbol]?
  let (place, bits) ← bits.read? range.width
  return (range.base + place, bits)

/-- The state that comes next by the bits at the front. -/
def advance? (code : NumberCode) (state : Nat) (bits : Bits) : Option (Nat × Bits) := do
  let state ← code.automaton.states[state]?
  let (way, bits) ← bits.read? state.width
  return (state.base + way, bits)

end NumberCode

/-! ## Sequences -/

/-- The states that stand for the numbers of a sequence. -/
structure States where
  literals : Nat
  offset : Nat
  copied : Nat
  deriving DecidableEq, Repr

/-- Offsets up to this one stand for distances of earlier sequences, which are not used here. A
distance is told as an offset that is larger by as much. -/
def repeatedOffsets : Nat := 3

namespace Sequence

/-- A sequence in front of those that have been written. -/
def prepend? (sequence : Sequence) (later? : Option (States × Bits)) :
    Option (States × Bits) := do
  let next? := later?.map Prod.fst
  let offset ← NumberCode.offsets.word? (sequence.distance + repeatedOffsets)
    (next?.map States.offset)
  let copied ← NumberCode.copies.word? sequence.copied (next?.map States.copied)
  let literals ← NumberCode.literals.word? sequence.literals (next?.map States.literals)
  let bits := (later?.map Prod.snd).getD []
  return (⟨literals.state, offset.state, copied.state⟩,
    offset.place ++ copied.place ++ literals.place ++ literals.way ++ copied.way ++ offset.way ++
      bits)

/-- The sequence that some states and the bits at the front stand for. -/
def read? (states : States) (bits : Bits) : Option (Sequence × Bits) := do
  let (offset, bits) ← NumberCode.offsets.read? states.offset bits
  let (copied, bits) ← NumberCode.copies.read? states.copied bits
  let (literals, bits) ← NumberCode.literals.read? states.literals bits
  if offset ≤ repeatedOffsets then none
  else return (⟨literals, copied, offset - repeatedOffsets⟩, bits)

/-- The states for the next sequence, by the bits at the front. -/
def advance? (states : States) (bits : Bits) : Option (States × Bits) := do
  let (literals, bits) ← NumberCode.literals.advance? states.literals bits
  let (copied, bits) ← NumberCode.copies.advance? states.copied bits
  let (offset, bits) ← NumberCode.offsets.advance? states.offset bits
  return (⟨literals, offset, copied⟩, bits)

def readStates? (bits : Bits) : Option (States × Bits) := do
  let (literals, bits) ← NumberCode.literals.readStart? bits
  let (offset, bits) ← NumberCode.offsets.readStart? bits
  let (copied, bits) ← NumberCode.copies.readStart? bits
  return (⟨literals, offset, copied⟩, bits)

/-- A sequence with these states and `more` others after it, up to the end of the bits. `found` are
those before it, latest first. -/
def readAll? (found : List Sequence) (states : States) (bits : Bits) :
    (more : Nat) → Option (List Sequence)
  | 0 => do
    let (sequence, bits) ← read? states bits
    if bits.isEmpty then some (sequence :: found).reverse else none
  | more + 1 => do
    let (sequence, bits) ← read? states bits
    let (states, bits) ← advance? states bits
    readAll? (sequence :: found) states bits more

/-! ## Counts -/

def writeCount (count : Nat) : Bytes :=
  if count < 128 then [UInt8.ofNat count]
  else if count < 0x7F00 then [UInt8.ofNat (count / 256 + 128), UInt8.ofNat count]
  else 255 :: Bytes.ofNatLittle 2 (count - 0x7F00)

/-- The number of sequences at the front, and the octets after it. -/
def readCount? (text : Bytes) : Option (Nat × Bytes) :=
  match text with
  | [] => none
  | first :: rest =>
    if first < 128 then some (first.toNat, rest)
    else if first < 255 then
      rest.head?.map fun second => ((first.toNat - 128) * 256 + second.toNat, rest.drop 1)
    else if rest.length < 2 then none
    else some (Bytes.toNatLittle (rest.take 2) + 0x7F00, rest.drop 2)

/-- What stands behind the number of sequences: all three codes are the usual ones. -/
def usualCodes : UInt8 := 0

/-- Sequences in octets, if their numbers have codes. -/
def write? (sequences : List Sequence) : Option Bytes := do
  let count := writeCount sequences.length
  match ← sequences.reverse.foldlM (fun later? sequence => some <$> sequence.prepend? later?) none
  with
  | none => return count
  | some (states, bits) =>
    let starts := NumberCode.literals.start states.literals ++
      NumberCode.offsets.start states.offset ++ NumberCode.copies.start states.copied
    return count ++ usualCodes :: Bits.pack (starts ++ bits)

def readText? (text : Bytes) : Option (List Sequence) := do
  let (count, rest) ← readCount? text
  if count = 0 then (if rest.isEmpty then some [] else none)
  else
    match rest with
    | [] => none
    | codes :: stream =>
      if codes = usualCodes then do
        let (states, bits) ← readStates? (← Bits.unpack? stream)
        readAll? [] states bits (count - 1)
      else none

end Sequence

end TrustRoot.Zstandard
