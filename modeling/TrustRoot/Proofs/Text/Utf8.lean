import TrustRoot.Bytes

/-!
# Octets of characters

A text is spelled character by character: the octets of a list of characters are those of its
members in a row.  An ASCII character has itself as its only octet, and every octet of any other
character lies above the ASCII range, so no octet of it can be taken for a delimiter.
-/

namespace TrustRoot

/-- The UTF-8 octets of a list of characters. -/
def utf8 (characters : List Char) : Bytes :=
  characters.flatMap String.utf8EncodeChar

@[simp]
theorem utf8_nil : utf8 [] = [] :=
  rfl

theorem utf8_cons (character : Char) (rest : List Char) :
    utf8 (character :: rest) = String.utf8EncodeChar character ++ utf8 rest := by
  simp [utf8]

@[simp]
theorem utf8_append (first second : List Char) :
    utf8 (first ++ second) = utf8 first ++ utf8 second := by
  simp [utf8]

theorem Bytes.ofText_ofList (characters : List Char) :
    Bytes.ofText (String.ofList characters) = utf8 characters := by
  have encoded : (String.ofList characters).toByteArray = characters.utf8Encode := rfl
  rw [Bytes.ofText, encoded, List.utf8Encode, List.toList_data_toByteArray, utf8]

theorem Bytes.ofText_injective {first second : String}
    (same : Bytes.ofText first = Bytes.ofText second) : first = second := by
  have read := congrArg Bytes.toText? same
  rw [Bytes.toText?_ofText, Bytes.toText?_ofText] at read
  exact Option.some.inj read

/-- The octets of characters are read as the text of the characters. -/
theorem Bytes.toText?_utf8 (characters : List Char) :
    Bytes.toText? (utf8 characters) = some (String.ofList characters) := by
  rw [← Bytes.ofText_ofList, Bytes.toText?_ofText]

theorem utf8EncodeChar_of_ascii {character : Char} (ascii : character.toNat < 128) :
    String.utf8EncodeChar character = [UInt8.ofNat character.toNat] := by
  have small : character.val.toNat ≤ 0x7f := Nat.le_of_lt_succ ascii
  simp only [String.utf8EncodeChar, small, if_true]
  rfl

theorem utf8_cons_of_ascii {character : Char} (ascii : character.toNat < 128)
    (rest : List Char) :
    utf8 (character :: rest) = UInt8.ofNat character.toNat :: utf8 rest := by
  rw [utf8_cons, utf8EncodeChar_of_ascii ascii, List.singleton_append]

theorem length_utf8_of_ascii {characters : List Char}
    (ascii : ∀ character ∈ characters, character.toNat < 128) :
    (utf8 characters).length = characters.length := by
  induction characters with
  | nil => rfl
  | cons character rest ih =>
      obtain ⟨first, others⟩ := List.forall_mem_cons.mp ascii
      rw [utf8_cons_of_ascii first, List.length_cons, List.length_cons, ih others]

theorem toNat_octet_of_ascii {character : Char} (ascii : character.toNat < 128) :
    (UInt8.ofNat character.toNat).toNat = character.toNat := by
  rw [UInt8.toNat_ofNat']
  omega

/-- Every octet of a character outside ASCII is outside ASCII. -/
theorem toNat_octet_of_not_ascii {character : Char} (beyond : 128 ≤ character.toNat)
    {octet : UInt8} (member : octet ∈ String.utf8EncodeChar character) :
    128 ≤ octet.toNat := by
  have large : ¬ character.val.toNat ≤ 0x7f := Nat.not_le_of_lt beyond
  simp only [String.utf8EncodeChar, large, if_false] at member
  split at member
  · simp only [List.mem_cons, List.not_mem_nil, or_false] at member
    rcases member with rfl | rfl <;> simp only [UInt8.toNat_ofNat'] <;> omega
  · split at member <;>
      simp only [List.mem_cons, List.not_mem_nil, or_false] at member
    · rcases member with rfl | rfl | rfl <;> simp only [UInt8.toNat_ofNat'] <;> omega
    · rcases member with rfl | rfl | rfl | rfl <;>
        simp only [UInt8.toNat_ofNat'] <;> omega

end TrustRoot
