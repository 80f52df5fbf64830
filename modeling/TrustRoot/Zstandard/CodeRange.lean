import TrustRoot.Power

/-!
# Ranges of numbers with one code

Lengths and distances are told by a code for a range of numbers and by bits that tell the place
within the range. Ranges follow each other without gaps, so the numbers of bits say it all.
-/

namespace TrustRoot.Zstandard

structure CodeRange where
  base : Nat
  width : Nat
  deriving DecidableEq, Repr

namespace CodeRange

def bound (range : CodeRange) : Nat := range.base + 2 ^ range.width

def covers (range : CodeRange) (number : Nat) : Bool :=
  range.base ≤ number && number < range.bound

def row (base : Nat) : (widths : List Nat) → List CodeRange
  | [] => []
  | width :: widths => ⟨base, width⟩ :: row (base + 2 ^ width) widths

/-- The ranges for how many octets are told before a copy. -/
def literals : Array CodeRange :=
  (row 0 (List.replicate 16 0 ++
    [1, 1, 1, 1, 2, 2, 3, 3, 4, 6, 7, 8, 9, 10, 11, 12, 13, 14, 15, 16])).toArray

def copies : Array CodeRange :=
  (row 3 (List.replicate 32 0 ++
    [1, 1, 1, 1, 2, 2, 3, 3, 4, 4, 5, 7, 8, 9, 10, 11, 12, 13, 14, 15, 16])).toArray

def offsets : Array CodeRange := (row 1 (List.range 29)).toArray

end CodeRange

end TrustRoot.Zstandard
