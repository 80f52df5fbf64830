import TrustRoot.Bytes
import TrustRoot.Text.Quoted

/-!
# Hexadecimal text

Two digits stand for one octet. Writing uses lower case; reading accepts either case and reports
an odd number of digits before any stray octet. Reading gives back what was written
(`Hex.decode_encode`).
-/

namespace TrustRoot.Hex

/-- Why a text is not the hexadecimal form of an octet string. -/
inductive Fault where
  | oddLength
  | notADigit (octet : UInt8) (position : Nat)
  deriving DecidableEq, Repr

def Fault.message : Fault → String
  | .oddLength => "Odd number of digits"
  | .notADigit octet position =>
    s!"Invalid character {Text.quoteCharacter (Char.ofNat octet.toNat)} at position {position}"

def digit (value : Nat) : UInt8 :=
  if value < 10 then UInt8.ofNat (0x30 + value) else UInt8.ofNat (0x61 + (value - 10))

def value? (octet : UInt8) : Option Nat :=
  if 0x30 ≤ octet ∧ octet ≤ 0x39 then some (octet.toNat - 0x30)
  else if 0x61 ≤ octet ∧ octet ≤ 0x66 then some (octet.toNat - 0x61 + 10)
  else if 0x41 ≤ octet ∧ octet ≤ 0x46 then some (octet.toNat - 0x41 + 10)
  else none

def encode (octets : Bytes) : Bytes :=
  octets.flatMap fun octet => [digit (octet.toNat / 16), digit (octet.toNat % 16)]

def encodeText (octets : Bytes) : String :=
  String.ofList ((encode octets).map fun octet => Char.ofNat octet.toNat)

/-- The octets of digit pairs, where the first digit stands at `position`. -/
def decodePairs (position : Nat) : Bytes → Except Fault Bytes
  | high :: low :: rest =>
    match value? high, value? low with
    | none, _ => .error (.notADigit high position)
    | _, none => .error (.notADigit low (position + 1))
    | some first, some second =>
      (decodePairs (position + 2) rest).map (UInt8.ofNat (16 * first + second) :: ·)
  | _ => .ok []

def decode (text : Bytes) : Except Fault Bytes :=
  if text.length % 2 = 1 then .error .oddLength else decodePairs 0 text

theorem value?_digit (value : Nat) (small : value < 16) : value? (digit value) = some value := by
  have all : ∀ value : Fin 16, value? (digit value.val) = some value.val := by decide
  exact all ⟨value, small⟩

theorem decodePairs_encode (octets : Bytes) (position : Nat) :
    decodePairs position (encode octets) = .ok octets := by
  induction octets generalizing position with
  | nil => rfl
  | cons octet rest ih =>
      have low : octet.toNat % 16 < 16 := Nat.mod_lt _ (by decide)
      have high : octet.toNat / 16 < 16 := by
        have := octet.toNat_lt
        omega
      have whole : 16 * (octet.toNat / 16) + octet.toNat % 16 = octet.toNat := Nat.div_add_mod ..
      have step := ih (position + 2)
      simp only [encode] at step
      simp [encode, decodePairs, value?_digit _ low, value?_digit _ high, step, whole, Except.map]

@[simp] theorem length_encode (octets : Bytes) : (encode octets).length = 2 * octets.length := by
  induction octets with
  | nil => rfl
  | cons octet rest ih =>
      simp only [encode] at ih
      simp only [encode, List.flatMap_cons, List.length_append, List.length_cons, ih]
      simp only [List.length_nil]
      omega

theorem decode_encode (octets : Bytes) : decode (encode octets) = .ok octets := by
  simp [decode, decodePairs_encode]

end TrustRoot.Hex
