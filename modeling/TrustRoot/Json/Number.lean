import TrustRoot.Decimal.Shortest

/-!
# JSON numbers

A number is a natural number below 2^64, a negative integer of at least -2^63, or a finite
binary64 number. A negative integer is held as the natural number one below its magnitude, so
that no value has two forms.
-/

namespace TrustRoot.Json

inductive Number where
  /-- An integer from 0 to 2^64 - 1. -/
  | natural (value : UInt64)
  /-- The integer `-1 - magnitude`. -/
  | negative (magnitude : Fin 9223372036854775808)
  | real (value : Float)
  deriving DecidableEq

/-- Numbers agree when they have the same form and the same value; the two zeros of the binary64
format have the same value. -/
def Number.agrees : Number → Number → Bool
  | .natural first, .natural second => first == second
  | .negative first, .negative second => first == second
  | .real first, .real second => first == second
  | _, _ => false

/-- A binary64 number is written with the fewest digits that read back, with a point when its first
digit counts 10^-5 to 10^15, and otherwise with a power of ten. -/
def realChars (value : Float) : List Char :=
  let bits := value.toBits.toNat
  let sign := if 2 ^ 63 ≤ bits then ['-'] else []
  if bits % 2 ^ 63 = 0 then sign ++ ['0', '.', '0']
  else
    let decimal := (Decimal.Binary.ofBits bits).shortest
    if -5 ≤ decimal.leading ∧ decimal.leading ≤ 15 then sign ++ decimal.positional
    else sign ++ decimal.scientific

def Number.chars : Number → List Char
  | .natural value => Nat.toDigits 10 value.toNat
  | .negative magnitude => '-' :: Nat.toDigits 10 (magnitude.val + 1)
  | .real value => realChars value

def Number.text (number : Number) : String := String.ofList number.chars

end TrustRoot.Json
