import TrustRoot.Power

/-!
# Shortest decimals of binary floating-point numbers

A finite number of the binary64 format is `significand * 2 ^ exponent`. The reals that round to it
form an interval around it, which holds its ends when the significand is even. Its shortest
decimal is a point of the coarsest decimal grid that meets the interval, and of several such
points the nearest to the number, an even one in a tie. For every grid only the two neighbours of
the number have to be tried: if any point of the grid lies in the interval, one of them does.
-/

namespace TrustRoot.Decimal

/-- A positive finite number of the binary64 format. -/
structure Binary where
  significand : Nat
  exponent : Int
  /-- The next number below is only half as far away as the next number above. -/
  narrowBelow : Bool

def Binary.ofBits (bits : Nat) : Binary :=
  let fraction : Nat := bits % 2 ^ 52
  let power : Nat := bits / 2 ^ 52 % 2 ^ 11
  if power = 0 then ⟨fraction, -1074, false⟩
  else ⟨fraction + 2 ^ 52, (power : Int) - 1075, fraction == 0 && power != 1⟩

/-- A positive rational with the ends of the interval that rounds to it, over one denominator. -/
structure Neighbourhood where
  low : Nat
  value : Nat
  high : Nat
  denominator : Nat
  closed : Bool

def Binary.neighbourhood (number : Binary) : Neighbourhood :=
  let power := number.exponent - 2
  let scale := 2 ^ power.toNat
  let below := if number.narrowBelow then 1 else 2
  { low := (4 * number.significand - below) * scale
    value := 4 * number.significand * scale
    high := (4 * number.significand + 2) * scale
    denominator := 2 ^ (-power).toNat
    closed := number.significand % 2 == 0 }

/-- The same interval with every number divided by `10 ^ power`. -/
def Neighbourhood.shift (interval : Neighbourhood) (power : Int) : Neighbourhood :=
  let scale := 10 ^ (-power).toNat
  { interval with
    low := interval.low * scale
    value := interval.value * scale
    high := interval.high * scale
    denominator := interval.denominator * 10 ^ power.toNat }

def Neighbourhood.holds (interval : Neighbourhood) (integer : Nat) : Bool :=
  let point := integer * interval.denominator
  if interval.closed then interval.low ≤ point && point ≤ interval.high
  else interval.low < point && point < interval.high

/-- The integer nearest to the number among its two integer neighbours in the interval. -/
def Neighbourhood.nearest? (interval : Neighbourhood) : Option Nat :=
  let below := interval.value / interval.denominator
  let above := below + 1
  match interval.holds below, interval.holds above with
  | false, false => none
  | true, false => some below
  | false, true => some above
  | true, true =>
    let down := interval.value - below * interval.denominator
    let up := above * interval.denominator - interval.value
    if down < up ∨ (down = up ∧ below % 2 = 0) then some below else some above

def leadingPower (numerator denominator : Nat) : Int :=
  if denominator ≤ numerator then
    ((Nat.toDigits 10 (numerator / denominator)).length : Int) - 1
  else
    let quotient := (denominator + numerator - 1) / numerator
    (-((Nat.toDigits 10 (quotient - 1)).length : Int))

/-- Significant digits, first to last, and the power of ten of the last one. -/
structure Digits where
  digits : List Char
  power : Int

def Digits.ofScaled (integer : Nat) (power : Int) : Digits :=
  let reversed := (Nat.toDigits 10 integer).reverse
  let zeros := reversed.takeWhile (· == '0')
  ⟨(reversed.drop zeros.length).reverse, power + zeros.length⟩

def Binary.shortest (number : Binary) : Digits :=
  let interval := number.neighbourhood
  let leading := leadingPower interval.value interval.denominator
  let found? := (List.range 17).findSome? fun (places : Nat) =>
    let power := leading - (places : Int)
    (interval.shift power).nearest?.map fun integer => Digits.ofScaled integer power
  found?.getD ⟨[], 0⟩

def Digits.leading (decimal : Digits) : Int := decimal.power + (decimal.digits.length : Int) - 1

/-- The digits with a decimal point, and at least one digit on either side of it. -/
def Digits.positional (decimal : Digits) : List Char :=
  if 0 ≤ decimal.power then
    decimal.digits ++ List.replicate decimal.power.toNat '0' ++ ['.', '0']
  else
    let fraction := (-decimal.power).toNat
    if fraction < decimal.digits.length then
      let whole := decimal.digits.length - fraction
      decimal.digits.take whole ++ '.' :: decimal.digits.drop whole
    else
      '0' :: '.' :: List.replicate (fraction - decimal.digits.length) '0' ++ decimal.digits

/-- One digit before the point, and the power of ten with its sign after the letter `e`. -/
def Digits.scientific (decimal : Digits) : List Char :=
  let mantissa := match decimal.digits with
    | [] => ['0']
    | [digit] => [digit]
    | first :: rest => first :: '.' :: rest
  let sign := if decimal.leading < 0 then '-' else '+'
  mantissa ++ 'e' :: sign :: Nat.toDigits 10 decimal.leading.natAbs

end TrustRoot.Decimal
