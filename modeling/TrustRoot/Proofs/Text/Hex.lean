import Mathlib.Data.List.Induction
import TrustRoot.Proofs.Audit
import TrustRoot.Proofs.Text.Positional
import TrustRoot.Text.Hex

/-!
# Hexadecimal texts

A text spells octets in hexadecimal if it has two digits for each of them, the high one first, in
either case.  Exactly these texts are read, and as the octets that they spell
(`decode_eq_ok_iff`).  Digits are ASCII, and no octet of any other character is one.
-/

namespace TrustRoot.Hex

open Numeral (IsDigit)

/-- Two digits for each octet. -/
inductive Spells : List Char → Bytes → Prop where
  | nil : Spells [] []
  | cons {high low : Char} {first second : Nat} {digits : List Char} {octets : Bytes}
      (isHigh : IsDigit 16 high first) (isLow : IsDigit 16 low second)
      (rest : Spells digits octets) :
      Spells (high :: low :: digits) (UInt8.ofNat (16 * first + second) :: octets)

/-! ## Digits -/

theorem ascii_of_value? {octet : UInt8} {value : Nat} (read : value? octet = some value) :
    octet.toNat < 128 := by
  have below {last : UInt8} (bound : octet ≤ last) (ascii : last.toNat < 128) :
      octet.toNat < 128 := Nat.lt_of_le_of_lt (UInt8.le_iff_toNat_le.mp bound) ascii
  unfold value? at read
  split at read
  · rename_i decimal
    exact below decimal.2 (by decide)
  · split at read
    · rename_i lower
      exact below lower.2 (by decide)
    · split at read
      · rename_i upper
        exact below upper.2 (by decide)
      · cases read

/-- An octet is read like the character that has it as its only octet. -/
theorem value?_eq_some_iff {character : Char} (ascii : character.toNat < 128) {value : Nat} :
    value? (UInt8.ofNat character.toNat) = some value ↔ IsDigit 16 character value := by
  have all : ∀ code : Fin 128,
      value? (UInt8.ofNat code.val) = Numeral.digitValue? 16 (Char.ofNat code.val) := by
    decide
  have same := all ⟨character.toNat, ascii⟩
  simp only [Char.ofNat_toNat] at same
  rw [same, Numeral.digitValue?_eq_some_iff (Nat.le_refl 16)]

theorem ascii_of_isDigit {digit : Char} {value : Nat} (isDigit : IsDigit 16 digit value) :
    digit.toNat < 128 :=
  Numeral.ascii_of_digitValue? ((Numeral.digitValue?_eq_some_iff (Nat.le_refl 16)).mpr isDigit)

/-! ## Pairs of digits -/

theorem decodePairs_cons_cons_eq_ok_iff {position : Nat} {high low : UInt8} {rest octets : Bytes} :
    decodePairs position (high :: low :: rest) = .ok octets ↔
      ∃ first second others, value? high = some first ∧ value? low = some second ∧
        decodePairs (position + 2) rest = .ok others ∧
        octets = UInt8.ofNat (16 * first + second) :: others := by
  rw [decodePairs]
  split
  · rename_i noDigit
    simp [noDigit]
  · rename_i noDigit _
    simp [noDigit]
  · rename_i first second isHigh isLow
    cases decodePairs (position + 2) rest with
    | error fault => simp [Except.map]
    | ok others => simp [Except.map, isHigh, isLow, eq_comm]

/-- Whatever is read in pairs is made of digits. -/
theorem exists_value?_of_decodePairs {position : Nat} {text octets : Bytes}
    (even : text.length % 2 = 0) (read : decodePairs position text = .ok octets) :
    ∀ octet ∈ text, ∃ value, value? octet = some value := by
  induction text using List.twoStepInduction generalizing position octets with
  | nil => exact fun _ member => absurd member List.not_mem_nil
  | singleton octet => cases even
  | cons_cons high low rest ih _ =>
      obtain ⟨first, second, others, isHigh, isLow, later, -⟩ :=
        decodePairs_cons_cons_eq_ok_iff.mp read
      have even : rest.length % 2 = 0 := by
        rw [List.length_cons, List.length_cons] at even
        omega
      simp only [List.forall_mem_cons]
      exact ⟨⟨first, isHigh⟩, ⟨second, isLow⟩, ih even later⟩

theorem decodePairs_utf8_eq_ok_iff {position : Nat} {characters : List Char} {octets : Bytes}
    (ascii : ∀ character ∈ characters, character.toNat < 128)
    (even : characters.length % 2 = 0) :
    decodePairs position (utf8 characters) = .ok octets ↔ Spells characters octets := by
  induction characters using List.twoStepInduction generalizing position octets with
  | nil =>
      constructor
      · rintro ⟨⟩
        exact .nil
      · rintro ⟨⟩
        rfl
  | singleton character => cases even
  | cons_cons high low rest ih _ =>
      obtain ⟨highAscii, lowAscii, restAscii⟩ : _ ∧ _ ∧ _ := by
        simpa only [List.forall_mem_cons] using ascii
      have even : rest.length % 2 = 0 := by
        rw [List.length_cons, List.length_cons] at even
        omega
      rw [utf8_cons_of_ascii highAscii, utf8_cons_of_ascii lowAscii,
        decodePairs_cons_cons_eq_ok_iff]
      constructor
      · rintro ⟨first, second, others, isHigh, isLow, later, rfl⟩
        exact .cons ((value?_eq_some_iff highAscii).mp isHigh)
          ((value?_eq_some_iff lowAscii).mp isLow) ((ih restAscii even).mp later)
      · rintro (_ | ⟨isHigh, isLow, spells⟩)
        exact ⟨_, _, _, (value?_eq_some_iff highAscii).mpr isHigh,
          (value?_eq_some_iff lowAscii).mpr isLow, (ih restAscii even).mpr spells, rfl⟩

/-! ## Texts -/

namespace Spells

variable {characters : List Char} {octets : Bytes}

theorem exists_isDigit (spells : Spells characters octets) :
    ∀ character ∈ characters, ∃ value, IsDigit 16 character value := by
  induction spells with
  | nil => exact fun _ member => absurd member List.not_mem_nil
  | cons isHigh isLow rest ih =>
      simp only [List.forall_mem_cons]
      exact ⟨⟨_, isHigh⟩, ⟨_, isLow⟩, ih⟩

theorem length_eq (spells : Spells characters octets) :
    characters.length = 2 * octets.length := by
  induction spells with
  | nil => rfl
  | cons isHigh isLow rest ih =>
      simp only [List.length_cons, ih]
      omega

end Spells

/-- Reading a text gives the octets that it spells, and only such texts are read. -/
theorem decode_eq_ok_iff {characters : List Char} {octets : Bytes} :
    decode (utf8 characters) = .ok octets ↔ Spells characters octets := by
  rw [decode]
  constructor
  · intro read
    split at read
    · cases read
    · rename_i notOdd
      have even : (utf8 characters).length % 2 = 0 := by omega
      have digits := exists_value?_of_decodePairs even read
      have ascii : ∀ character ∈ characters, character.toNat < 128 := by
        intro character member
        by_contra beyond
        have nonempty : String.utf8EncodeChar character ≠ [] := String.utf8EncodeChar_ne_nil
        obtain ⟨octet, encoded⟩ := List.exists_mem_of_ne_nil _ nonempty
        obtain ⟨value, read⟩ := digits octet (List.mem_flatMap.mpr ⟨character, member, encoded⟩)
        exact absurd (ascii_of_value? read)
          (Nat.not_lt.mpr (toNat_octet_of_not_ascii (Nat.not_lt.mp beyond) encoded))
      rw [length_utf8_of_ascii ascii] at even
      exact (decodePairs_utf8_eq_ok_iff ascii even).mp read
  · intro spells
    have ascii : ∀ character ∈ characters, character.toNat < 128 := by
      intro character member
      obtain ⟨value, isDigit⟩ := spells.exists_isDigit character member
      exact ascii_of_isDigit isDigit
    have even : characters.length % 2 = 0 := by
      rw [spells.length_eq]
      exact Nat.mul_mod_right 2 _
    rw [length_utf8_of_ascii ascii, if_neg (by omega)]
    exact (decodePairs_utf8_eq_ok_iff ascii even).mpr spells

/-- The octets of the digits that are written are these digits. -/
theorem utf8_encodeText (octets : Bytes) : utf8 (encodeText octets).toList = encode octets := by
  have ascii : ∀ octet ∈ encode octets, octet.toNat < 128 := by
    intro octet member
    have even : (encode octets).length % 2 = 0 := by rw [length_encode, Nat.mul_mod_right]
    obtain ⟨value, read⟩ :=
      exists_value?_of_decodePairs even (decodePairs_encode octets 0) octet member
    exact ascii_of_value? read
  rw [encodeText, String.toList_ofList]
  generalize encode octets = digits at ascii
  induction digits with
  | nil => rfl
  | cons digit rest ih =>
      obtain ⟨small, others⟩ := List.forall_mem_cons.mp ascii
      have valid : digit.toNat.isValidChar := .inl (Nat.lt_trans small (by decide))
      have same : (Char.ofNat digit.toNat).toNat = digit.toNat := by
        rw [Char.ofNat, dif_pos valid]
        exact UInt32.toNat_ofNatLT
      rw [← same] at small
      rw [List.map_cons, utf8_cons_of_ascii small, same, UInt8.ofNat_toNat, ih others]

/-- What is written in hexadecimal spells the octets. -/
theorem spells_encodeText (octets : Bytes) : Spells (encodeText octets).toList octets := by
  rw [← decode_eq_ok_iff, utf8_encodeText, decode_encode]

end TrustRoot.Hex
