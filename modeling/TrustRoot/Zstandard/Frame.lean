import TrustRoot.Zstandard.Basic

/-!
# Zstandard frame headers

A frame starts with a number that tells a frame with content from one to be skipped. In front of the
blocks a frame with content states how far back its blocks may reach, the size of its content if
that is known, and the dictionary that it needs.
-/

namespace TrustRoot.Zstandard

structure Frame where
  window : Nat
  /-- The size of the content, if known. -/
  contentSize : Option Nat
  dictionary : Nat
  deriving DecidableEq, Repr

def Frame.blockLimit (frame : Frame) : Nat := min frame.window largestBlock

def frameNumber : Nat := 0xFD2FB528

def isSkippable (number : Nat) : Bool := number / 16 == 0x184D2A5

def largestExponent : Nat := 31

def unknownSize : Nat := 2 ^ 64 - 1

/-- The number in the first `count` octets, and the octets after them. -/
def readField (count : Nat) (text : Bytes) :
    Except Fault (Nat × {rest : Bytes // rest.length ≤ text.length}) :=
  let field := text.take count
  if field.length = count then
    .ok (Bytes.toNatLittle field, ⟨text.drop count, by simp only [List.length_drop]; omega⟩)
  else .error .truncated

def dictionaryOctets (flag : Nat) : Nat := if flag = 3 then 4 else flag

def contentSizeOctets (flag : Nat) (singleSegment : Bool) : Nat :=
  if flag = 0 then (if singleSegment then 1 else 0) else 2 ^ flag

/-- The window that a descriptor states: an exponent and eighths to be added. -/
def windowOf (descriptor : Nat) : Except Fault Nat :=
  let exponent := descriptor / 8 + 10
  if largestExponent < exponent then .error .windowTooLarge
  else .ok (2 ^ exponent + 2 ^ exponent / 8 * (descriptor % 8))

def readFrame (text : Bytes) :
    Except Fault (Frame × {rest : Bytes // rest.length ≤ text.length}) := do
  let (descriptor, ⟨text₁, fits₁⟩) ← readField 1 text
  let singleSegment : Bool := descriptor / 32 % 2 == 1
  let (windowField, ⟨text₂, fits₂⟩) ← readField (if singleSegment then 0 else 1) text₁
  let (dictionary, ⟨text₃, fits₃⟩) ← readField (dictionaryOctets (descriptor % 4)) text₂
  let flag := descriptor / 64
  let (sizeField, ⟨text₄, fits₄⟩) ← readField (contentSizeOctets flag singleSegment) text₃
  let size := if flag = 1 then sizeField + 256 else sizeField
  let stated : Bool := (singleSegment || flag != 0) && size != unknownSize
  if descriptor / 8 % 2 = 1 ∨ descriptor / 4 % 2 = 1 then .error .unsupported
  else
    let window ← if singleSegment then .ok size else windowOf windowField
    .ok (⟨window, if stated then some size else none, dictionary⟩, ⟨text₄, by omega⟩)

end TrustRoot.Zstandard
