import TrustRoot.Power

/-!
# Octet strings

Payloads, keys, digests and signatures are lists of octets. This module relates them to text
through UTF-8 and to natural numbers through little-endian and big-endian digits. A text is
recovered from its own octets (`toText?_ofText`).
-/

namespace TrustRoot

abbrev Bytes := List UInt8

namespace Bytes

def ofText (text : String) : Bytes := text.toByteArray.data.toList

/-- The text with these UTF-8 octets, if they are well formed. -/
def toText? (bytes : Bytes) : Option String := String.fromUTF8? ⟨bytes.toArray⟩

theorem toText?_ofText (text : String) : toText? (ofText text) = some text := by
  have same : toText? (ofText text) = String.fromUTF8? text.toByteArray := rfl
  rw [same, String.fromUTF8?, dif_pos text.isValidUTF8]
  rfl

theorem ofText_append (first second : String) :
    ofText (first ++ second) = ofText first ++ ofText second := by
  simp [ofText, String.toByteArray_append, ByteArray.data_append]

def isContinuation (octet : UInt8) : Bool := 0x80 ≤ octet && octet ≤ 0xBF

/-- The number of octets in the well-formed UTF-8 sequence at the front, or 0 without one. -/
def leadingSize : Bytes → Nat
  | [] => 0
  | first :: rest =>
    if first < 0x80 then 1
    else if 0xC2 ≤ first && first ≤ 0xDF then
      match rest with
      | second :: _ => if isContinuation second then 2 else 0
      | _ => 0
    else if 0xE0 ≤ first && first ≤ 0xEF then
      match rest with
      | second :: third :: _ =>
        let low : UInt8 := if first = 0xE0 then 0xA0 else 0x80
        let high : UInt8 := if first = 0xED then 0x9F else 0xBF
        if low ≤ second && second ≤ high && isContinuation third then 3 else 0
      | _ => 0
    else if 0xF0 ≤ first && first ≤ 0xF4 then
      match rest with
      | second :: third :: fourth :: _ =>
        let low : UInt8 := if first = 0xF0 then 0x90 else 0x80
        let high : UInt8 := if first = 0xF4 then 0x8F else 0xBF
        if low ≤ second && second ≤ high && isContinuation third && isContinuation fourth
        then 4 else 0
      | _ => 0
    else 0

/-- The number of octets before the first ill-formed UTF-8 sequence. -/
def wellFormedSize : Bytes → Nat
  | [] => 0
  | first :: rest =>
    let size := leadingSize (first :: rest)
    if size = 0 then 0 else size + wellFormedSize (rest.drop (size - 1))
termination_by bytes => bytes.length

/-- The number whose base-256 digits these are, least significant first. -/
def toNatLittle : Bytes → Nat
  | [] => 0
  | octet :: rest => octet.toNat + 256 * toNatLittle rest

/-- The low `width` base-256 digits of a number, least significant first. -/
def ofNatLittle : (width : Nat) → Nat → Bytes
  | 0, _ => []
  | width + 1, number => UInt8.ofNat number :: ofNatLittle width (number / 256)

/-- The low `width` base-256 digits of a number, most significant first. -/
def ofNatBig (width number : Nat) : Bytes := (ofNatLittle width number).reverse

@[simp] theorem length_ofNatLittle (width number : Nat) :
    (ofNatLittle width number).length = width := by
  induction width generalizing number with
  | zero => rfl
  | succ width ih => simp [ofNatLittle, ih]

@[simp] theorem length_ofNatBig (width number : Nat) : (ofNatBig width number).length = width := by
  simp [ofNatBig]

theorem toNatLittle_ofNatLittle (width number : Nat) (fits : number < 256 ^ width) :
    toNatLittle (ofNatLittle width number) = number := by
  induction width generalizing number with
  | zero => simp at fits; simp [ofNatLittle, toNatLittle, fits]
  | succ width ih =>
      have quotient : number / 256 < 256 ^ width :=
        Nat.div_lt_of_lt_mul (by rw [Nat.pow_succ] at fits; omega)
      simp only [ofNatLittle, toNatLittle, ih _ quotient, UInt8.toNat_ofNat']
      omega

end Bytes

end TrustRoot
