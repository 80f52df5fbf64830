import TrustRoot.Bytes

/-!
# The curve of Ed25519

Arithmetic modulo 2^255 - 19 and on the twisted Edwards curve `y² - x² = 1 + d x² y²`. Points are
held in extended coordinates, for which one addition law has no exceptions. A point is encoded by
its `y` with the parity of `x` in the highest bit; decoding takes `y` modulo the prime and accepts
every sign bit for `x = 0`.
-/

namespace TrustRoot.Ed25519

def prime : Nat := 2 ^ 255 - 19

instance : @NeZero Nat Zero.ofOfNat0 prime := ⟨by decide⟩

abbrev Element := Fin prime

def order : Nat := 2 ^ 252 + 27742317777372353535851937790883648493

def Element.power (base : Element) (exponent : Nat) : Element :=
  if exponent = 0 then 1
  else
    let root := power (base * base) (exponent / 2)
    if exponent % 2 = 1 then base * root else root
termination_by exponent

def Element.inverse (element : Element) : Element := element.power (prime - 2)

def coefficient : Element :=
  Fin.ofNat prime 37095705934669439343138083508754565189542113879843219016388785533085940283555

def rootOfMinusOne : Element :=
  Fin.ofNat prime 19681161376707505956807079304988542015446066515923890162744021073123829784752

/-- A point of the curve with `X = x Z`, `Y = y Z` and `X Y = T Z`. -/
structure Point where
  X : Element
  Y : Element
  Z : Element
  T : Element

namespace Point

def zero : Point := ⟨0, 1, 1, 0⟩

def ofAffine (x y : Element) : Point := ⟨x, y, 1, x * y⟩

def base : Point :=
  ofAffine
    (Fin.ofNat prime 15112221349535400772501151409588531511454012693041857206046113283949847762202)
    (Fin.ofNat prime 46316835694926478169428394003475163141307993866256225615783033603165251855960)

/-- The sum of two points. -/
def add (first second : Point) : Point :=
  let a := (first.Y - first.X) * (second.Y - second.X)
  let b := (first.Y + first.X) * (second.Y + second.X)
  let c := 2 * coefficient * first.T * second.T
  let d := 2 * first.Z * second.Z
  let e := b - a
  let f := d - c
  let g := d + c
  let h := b + a
  ⟨e * f, g * h, f * g, e * h⟩

def negate (point : Point) : Point := ⟨0 - point.X, point.Y, point.Z, 0 - point.T⟩

/-- A multiple of a point, by repeated doubling. -/
def multiply (point : Point) (scalar : Nat) : Point :=
  if scalar = 0 then zero
  else
    let double := (add point point).multiply (scalar / 2)
    if scalar % 2 = 1 then add point double else double
termination_by scalar

def encode (point : Point) : Bytes :=
  let inverse := point.Z.inverse
  let x := point.X * inverse
  let y := point.Y * inverse
  Bytes.ofNatLittle 32 (y.val + x.val % 2 * 2 ^ 255)

/-- A square root of `numerator / denominator`, if there is one. -/
def root? (numerator denominator : Element) : Option Element :=
  let cube := denominator * denominator * denominator
  let seventh := cube * cube * denominator
  let candidate := numerator * cube * (numerator * seventh).power ((prime - 5) / 8)
  let check := denominator * candidate * candidate
  if check = numerator then some candidate
  else if check = 0 - numerator then some (candidate * rootOfMinusOne)
  else none

/-- The point that 32 octets encode, if their `y` belongs to the curve. -/
def decode? (octets : Bytes) : Option Point :=
  let bits := Bytes.toNatLittle octets
  let y : Element := Fin.ofNat prime (bits % 2 ^ 255)
  let odd := bits / 2 ^ 255 % 2
  let square := y * y
  (root? (square - 1) (coefficient * square + 1)).map fun x =>
    ofAffine (if x.val % 2 = odd then x else 0 - x) y

end Point

end TrustRoot.Ed25519
