import TrustRoot.Proofs.AsIdentifier.Grammar

/-!
# The notation of identifiers

An identifier may be spelled in many ways, with zeros or a sign in front of its numbers and small
numbers in groups, but it is written in one.  What is written is read back, in decimal up to the
BGP range and in groups beyond it, and whatever is read fits into 48 bits.  So the written text of
what has been read is a normal form: two spellings have the same one exactly if they denote the same
identifier (`text_canonical`).
-/

namespace TrustRoot.AsIdentifier

/-! ## Numbers in groups -/

theorem isGroup_toDigits {number : Nat} (small : number < 2 ^ 16) :
    IsGroup (Nat.toDigits 16 number) number := by
  have short : (Nat.toDigits 16 number).length ≤ 4 :=
    (Nat.length_toDigits_le_iff (by decide) (by decide)).mpr small
  exact isGroup_iff.mpr ⟨short, Numeral.signedDenotes_toDigits (by decide) (by decide) number⟩

/-- Three groups are one number, the first of them in front. -/
theorem grouped_toDigits {high middle low : Nat} (highSmall : high < 2 ^ 16)
    (middleSmall : middle < 2 ^ 16) (lowSmall : low < 2 ^ 16) :
    Grouped (Nat.toDigits 16 high ++ ':' :: Nat.toDigits 16 middle ++ ':' :: Nat.toDigits 16 low)
      (high * 2 ^ 32 + middle * 2 ^ 16 + low) := by
  have isHigh := isGroup_toDigits highSmall
  have isMiddle := isGroup_toDigits middleSmall
  have isLow := isGroup_toDigits lowSmall
  refine .groups ((splitOn_groups_iff isHigh isMiddle isLow).mpr ?_) isHigh isMiddle isLow
  rw [List.append_assoc, List.cons_append]

/-! ## Either notation -/

theorem colon_notMem_toDigits (number : Nat) : ':' ∉ Nat.toDigits 10 number :=
  Numeral.notMem_toDigits (by decide) (by decide) rfl number

theorem colon_mem_numberChars_iff {number : Nat} :
    ':' ∈ numberChars number ↔ bgpLimit < number := by
  unfold numberChars
  split
  · rename_i decimal
    simp only [colon_notMem_toDigits number, false_iff, Nat.not_lt]
    exact decimal
  · rename_i grouped
    simp only [List.append_assoc, List.cons_append, List.mem_append, List.mem_cons, true_or,
      or_true, true_iff]
    exact Nat.lt_of_not_le grouped

theorem denotesSystem_numberChars {number : Nat} (small : number ≤ numberLimit) :
    DenotesSystem (numberChars number) number := by
  unfold numberChars
  split
  · rename_i decimal
    exact .decimal (colon_notMem_toDigits number)
      (Numeral.signedDenotes_toDigits (by decide) (by decide) number) decimal
  · have grouped := grouped_toDigits (Nat.mod_lt (number / 2 ^ 32) (by decide))
      (Nat.mod_lt (number / 2 ^ 16) (by decide)) (Nat.mod_lt number (by decide))
    -- The groups are the high, middle and low 16 bits, and there are no others.
    have whole : number / 2 ^ 32 % 2 ^ 16 * 2 ^ 32 + number / 2 ^ 16 % 2 ^ 16 * 2 ^ 16 +
        number % 2 ^ 16 = number := by
      unfold numberLimit at small
      omega
    rw [whole] at grouped
    exact .grouped grouped

/-! ## Identifiers -/

theorem spells_text {identifier : AsIdentifier} (small : identifier.number.toNat ≤ numberLimit) :
    Spells identifier.text identifier.isd.toNat identifier.number.toNat := by
  have noHyphen : '-' ∉ Nat.toDigits 10 identifier.isd.toNat :=
    Numeral.notMem_toDigits (by decide) (by decide) rfl _
  exact .parts (String.toList_ofList ..) noHyphen
    (Numeral.signedDenotes_toDigits (by decide) (by decide) _) identifier.isd.toNat_lt
    (denotesSystem_numberChars small)

theorem parse_text {identifier : AsIdentifier} (small : identifier.number.toNat ≤ numberLimit) :
    parse identifier.text = .ok identifier := by
  rw [parse_of_spells (spells_text small), UInt16.ofNat_toNat, UInt64.ofNat_toNat]

theorem le_of_parse {text : String} {identifier : AsIdentifier}
    (read : parse text = .ok identifier) : identifier.number.toNat ≤ numberLimit := by
  obtain ⟨-, -, -, -, denotesSystem⟩ := spells_of_parse read
  exact Nat.le_pred_of_lt denotesSystem.lt

theorem ofParts_of_le {isd : UInt16} {number : UInt64} (small : number.toNat ≤ numberLimit) :
    ofParts isd number = .ok ⟨isd, number⟩ :=
  if_neg (Nat.not_lt.mpr small)

theorem colon_mem_text_iff {identifier : AsIdentifier} :
    ':' ∈ identifier.text.toList ↔ bgpLimit < identifier.number.toNat := by
  rw [text, String.toList_ofList, chars, List.mem_append, List.mem_cons,
    colon_mem_numberChars_iff]
  simp only [colon_notMem_toDigits, false_or, Char.reduceEq]

/-- Every identifier of at most 48 bits is read back from its text, which has groups exactly beyond
32 bits.  Whatever is read has at most 48 bits, so it is an identifier, and its text denotes it.
Two texts that are read are written alike exactly if they denote the same identifier. -/
theorem text_canonical :
    (∀ identifier : AsIdentifier, identifier.number.toNat ≤ 2 ^ 48 - 1 →
      parse identifier.text = .ok identifier ∧
        (':' ∈ identifier.text.toList ↔ 2 ^ 32 - 1 < identifier.number.toNat)) ∧
    (∀ text identifier, parse text = .ok identifier →
      identifier.number.toNat ≤ 2 ^ 48 - 1 ∧
        ofParts identifier.isd identifier.number = .ok identifier ∧
        parse identifier.text = .ok identifier) ∧
    ∀ text text' identifier identifier',
      parse text = .ok identifier → parse text' = .ok identifier' →
      (identifier.text = identifier'.text ↔ identifier = identifier') := by
  refine ⟨fun identifier small => ⟨parse_text small, colon_mem_text_iff⟩, ?_, ?_⟩
  · intro text identifier read
    have small := le_of_parse read
    exact ⟨small, ofParts_of_le small, parse_text small⟩
  · intro text text' identifier identifier' read read'
    constructor
    · intro same
      have again := parse_text (le_of_parse read)
      rw [same, parse_text (le_of_parse read')] at again
      exact (Except.ok.inj again).symm
    · rintro rfl
      rfl

/-- The largest number in either notation, and two small ones that were spelled in other ways. -/
theorem text_canonical_limits :
    parse "65535-ffff:ffff:ffff" = .ok ⟨65535, 0xffffffffffff⟩ ∧
      parse "0-4294967295" = .ok ⟨0, 0xffffffff⟩ ∧
      ofParts 65535 0xffffffffffff = .ok ⟨65535, 0xffffffffffff⟩ ∧
      parse "2-0:0:10" = .ok ⟨2, 16⟩ ∧ parse "+2-017" = .ok ⟨2, 17⟩ ∧
      text ⟨2, 16⟩ ≠ text ⟨2, 17⟩ := by
  obtain ⟨written, accepted, alike⟩ := text_canonical
  have groups : parse "2-0:0:10" = .ok ⟨2, 16⟩ := rfl
  have decimal : parse "+2-017" = .ok ⟨2, 17⟩ := rfl
  have largest : parse "65535-ffff:ffff:ffff" = .ok ⟨65535, 0xffffffffffff⟩ :=
    (written ⟨65535, 0xffffffffffff⟩ (by decide)).1
  exact ⟨largest, (written ⟨0, 0xffffffff⟩ (by decide)).1, (accepted _ _ largest).2.1,
    groups, decimal, mt (alike _ _ _ _ groups decimal).mp (by decide)⟩

end TrustRoot.AsIdentifier
