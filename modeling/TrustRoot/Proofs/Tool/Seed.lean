import TrustRoot.Proofs.Audit
import TrustRoot.Proofs.Text.Hex
import TrustRoot.Tool.Command

/-!
# Seeds of signers

A signer brings a seed as a text.  The text is taken exactly if it spells 32 octets in hexadecimal,
with blanks on either side or without, and the key is the one of these octets
(`keyOfSeed_eq_ok_iff`).
-/

namespace TrustRoot.Tool

/-- The text spells the seed in hexadecimal, and there may be blanks on either side. -/
inductive SpellsSeed (seedHex : String) (seed : Bytes) : Prop where
  | digits {before digits after : List Char}
      (text : seedHex.toList = before ++ digits ++ after) (blankBefore : Text.Blank before)
      (blankAfter : Text.Blank after) (spells : Hex.Spells digits seed) : SpellsSeed seedHex seed

theorem isBlank_eq_false_of_isDigit {digit : Char} {value : Nat}
    (isDigit : Numeral.IsDigit 16 digit value) : Text.isBlank digit = false := by
  have all : ∀ code : Fin 128, Numeral.digitValue? 16 (Char.ofNat code.val) ≠ none →
      Text.isBlank (Char.ofNat code.val) = false := by
    decide
  have read := (Numeral.digitValue?_eq_some_iff (Nat.le_refl 16)).mpr isDigit
  have solid := all ⟨digit.toNat, Hex.ascii_of_isDigit isDigit⟩
  simp only [Char.ofNat_toNat, read] at solid
  exact solid nofun

/-- Of a text that spells a seed, the digits are left without the blanks. -/
theorem spellsSeed_iff_trim {seedHex : String} {seed : Bytes} (nonempty : seed ≠ []) :
    SpellsSeed seedHex seed ↔ Hex.Spells (Text.trim seedHex.toList) seed := by
  constructor
  · rintro @⟨before, digits, after, text, blankBefore, blankAfter, spells⟩
    have someDigit : digits ≠ [] := by
      rintro rfl
      cases spells
      exact nonempty rfl
    rw [text, Text.trim_append_blanks blankBefore blankAfter someDigit]
    · exact spells
    · intro character member
      obtain ⟨value, isDigit⟩ := spells.exists_isDigit character member
      exact isBlank_eq_false_of_isDigit isDigit
  · intro spells
    obtain ⟨before, after, text, blankBefore, blankAfter⟩ :=
      Text.exists_blanks_around_trim seedHex.toList
    exact .digits text blankBefore blankAfter spells

theorem ofSeed_eq_ok_iff {seed : Bytes} {key : Ed25519.KeyPair} :
    Ed25519.KeyPair.ofSeed seed = .ok key ↔ seed = key.seed := by
  rw [Ed25519.KeyPair.ofSeed]
  constructor
  · intro made
    split at made
    · rw [← Except.ok.inj made]
    · cases made
  · rintro rfl
    exact dif_pos key.length_seed

/-- A seed is taken exactly if it spells 32 octets, and as the key of these octets. -/
theorem keyOfSeed_eq_ok_iff {seedHex : String} {key : Ed25519.KeyPair} :
    keyOfSeed seedHex = .ok key ↔ SpellsSeed seedHex key.seed := by
  have nonempty : key.seed ≠ [] := by
    intro empty
    have length := key.length_seed
    rw [empty] at length
    cases length
  rw [spellsSeed_iff_trim nonempty, ← Hex.decode_eq_ok_iff]
  simp only [keyOfSeed, Bytes.ofText_ofList, bind_eq_ok_iff, mapError_eq_ok_iff, ofSeed_eq_ok_iff,
    exists_eq_right]

theorem SpellsSeed.key_unique {seedHex : String} {key key' : Ed25519.KeyPair}
    (spells : SpellsSeed seedHex key.seed) (spells' : SpellsSeed seedHex key'.seed) : key = key' :=
  Except.ok.inj ((keyOfSeed_eq_ok_iff.mpr spells).symm.trans (keyOfSeed_eq_ok_iff.mpr spells'))

/-- Every seed has a text. -/
theorem spellsSeed_encodeText (seed : Bytes) : SpellsSeed (Hex.encodeText seed) seed := by
  have blank : Text.Blank [] := fun _ member => absurd member List.not_mem_nil
  exact .digits (List.append_nil _).symm blank blank (Hex.spells_encodeText seed)

end TrustRoot.Tool
