import TrustRoot.Proofs.Json.Spelling

/-!
# Reading strings

However its characters are spelled, a string is read as the text of the characters
(`readString_of_spells`).  The reader works on octets and decodes UTF-8 at the end, so the
invariant of its loop is that the octets read so far are those of the characters passed.
-/

namespace TrustRoot.Json

theorem readUnit_of_unitOf? {first second third fourth : UInt8} {unit : Nat}
    (code : unitOf? first second third fourth = some unit) (rest : Bytes) :
    Reads (readUnit (first :: second :: third :: fourth :: rest)) unit rest := by
  refine ⟨by simp only [List.length_cons]; omega, ?_⟩
  simp only [readUnit, code]

/-- A code point of a character is no surrogate. -/
theorem not_surrogate (character : Char) :
    isTrailing character.toNat = false ∧ isLeading character.toNat = false := by
  have valid : character.toNat < 0xD800 ∨ 0xDFFF < character.toNat := by
    rcases character.valid with low | high
    · exact .inl low
    · exact .inr high.1
  simp only [isTrailing, isLeading, Bool.and_eq_false_iff, decide_eq_false_iff_not]
  omega

theorem codePointOctets_toNat (character : Char) :
    codePointOctets character.toNat = String.utf8EncodeChar character := by
  rw [codePointOctets, Char.ofNat_toNat]

/-- Escapes by letter stand for ASCII characters. -/
theorem letterEscape?_lt {letter octet : UInt8} (escape : letterEscape? letter = some octet) :
    octet.toNat < 128 := by
  unfold letterEscape? at escape
  repeat' split at escape
  all_goals cases escape <;> decide

theorem readEscape_of_letter {letter octet : UInt8} (escape : letterEscape? letter = some octet)
    (rest : Bytes) : Reads (readEscape (letter :: rest)) [octet] rest := by
  have notUnicode : letter ≠ 0x75 := by
    rintro rfl
    have none : letterEscape? 0x75 = none := by decide
    rw [none] at escape
    cases escape
  refine ⟨by simp, ?_⟩
  rw [readEscape, if_neg notUnicode]
  simp only [escape]

theorem readEscape_of_unit {first second third fourth : UInt8} {character : Char}
    (code : unitOf? first second third fourth = some character.toNat) (rest : Bytes) :
    Reads (readEscape (0x75 :: first :: second :: third :: fourth :: rest))
      (String.utf8EncodeChar character) rest := by
  obtain ⟨shorter, unit⟩ := readUnit_of_unitOf? code rest
  obtain ⟨notTrailing, notLeading⟩ := not_surrogate character
  refine ⟨by simp only [List.length_cons]; omega, ?_⟩
  rw [readEscape, if_pos rfl, readUnicodeEscape]
  simp [unit, notTrailing, notLeading, codePointOctets_toNat, Except.map, Parsed.weaken]

theorem readEscape_of_pair {first second third fourth first' second' third' fourth' : UInt8}
    {character : Char} {leading trailing : Nat}
    (leadingUnit : unitOf? first second third fourth = some leading)
    (trailingUnit : unitOf? first' second' third' fourth' = some trailing)
    (leads : isLeading leading = true) (trails : isTrailing trailing = true)
    (code : character.toNat = 0x10000 + (leading - 0xD800) * 1024 + (trailing - 0xDC00))
    (rest : Bytes) :
    Reads (readEscape (0x75 :: first :: second :: third :: fourth ::
        backslash :: 0x75 :: first' :: second' :: third' :: fourth' :: rest))
      (String.utf8EncodeChar character) rest := by
  obtain ⟨shorter, unit⟩ := readUnit_of_unitOf? leadingUnit
    (backslash :: 0x75 :: first' :: second' :: third' :: fourth' :: rest)
  obtain ⟨shorter', unit'⟩ := readUnit_of_unitOf? trailingUnit rest
  have notTrailing : isTrailing leading = false := by
    simp only [isLeading, isTrailing, Bool.and_eq_true, decide_eq_true_eq,
      Bool.and_eq_false_iff, decide_eq_false_iff_not] at leads ⊢
    omega
  refine ⟨by simp only [List.length_cons]; omega, ?_⟩
  rw [readEscape, if_pos rfl, readUnicodeEscape]
  simp [unit, unit', notTrailing, leads, trails, readTrailing, ← code, codePointOctets_toNat,
    Except.map, Parsed.weaken]

/-- Octets that delimit nothing are taken as they are. -/
theorem readOctets_visible {bound : Nat} {octets : Bytes}
    (visible : ∀ octet ∈ octets, octet ≠ quoteOctet ∧ octet ≠ backslash ∧ ¬ octet < 0x20)
    (read rest : Bytes) (fits : (octets ++ rest).length ≤ bound) (fits' : rest.length ≤ bound) :
    readOctets bound read (octets ++ rest) fits =
      readOctets bound (octets.reverse ++ read) rest fits' := by
  induction octets generalizing read with
  | nil => rfl
  | cons octet octets ih =>
      obtain ⟨notQuote, notBackslash, notControl⟩ := visible octet List.mem_cons_self
      simp only [List.cons_append]
      rw [readOctets, if_neg notQuote, if_neg notBackslash, if_neg notControl,
        ih fun other member => visible other (List.mem_cons_of_mem _ member)]
      simp

theorem visible_of_mem_utf8EncodeChar {character : Char} (notQuote : character ≠ '"')
    (notBackslash : character ≠ '\\') (visible : 32 ≤ character.toNat) {octet : UInt8}
    (member : octet ∈ String.utf8EncodeChar character) :
    octet ≠ quoteOctet ∧ octet ≠ backslash ∧ ¬ octet < 0x20 := by
  have distinct {delimiter : Char} (other : character ≠ delimiter) :
      character.toNat ≠ delimiter.toNat := fun same => other (Char.toNat_inj.mp same)
  have quoteCode : character.toNat ≠ 0x22 := distinct notQuote
  have backslashCode : character.toNat ≠ 0x5C := distinct notBackslash
  have bounds : 32 ≤ octet.toNat ∧ octet.toNat ≠ 0x22 ∧ octet.toNat ≠ 0x5C := by
    by_cases ascii : character.toNat < 128
    · rw [utf8EncodeChar_of_ascii ascii, List.mem_singleton] at member
      have same : octet.toNat = character.toNat := by
        rw [member, toNat_octet_of_ascii ascii]
      rw [same]
      exact ⟨visible, quoteCode, backslashCode⟩
    · have high := toNat_octet_of_not_ascii (Nat.le_of_not_lt ascii) member
      omega
  refine ⟨?_, ?_, ?_⟩
  · rintro rfl
    exact bounds.2.1 rfl
  · rintro rfl
    exact bounds.2.2 rfl
  · rw [UInt8.lt_iff_toNat_lt]
    exact Nat.not_lt.mpr bounds.1

theorem readOctets_escape {bound : Nat} {read text rest octets : Bytes}
    (escape : Reads (readEscape text) octets rest)
    (fits : (backslash :: text).length ≤ bound) (fits' : rest.length ≤ bound) :
    readOctets bound read (backslash :: text) fits =
      readOctets bound (octets.reverse ++ read) rest fits' := by
  obtain ⟨shorter, result⟩ := escape
  rw [readOctets, if_neg (by decide), if_pos rfl]
  simp only [result]

/-- Reading a character puts its octets in front of those read before. -/
theorem readOctets_character {bound : Nat} {text : Bytes} {character : Char}
    (spelled : SpellsCharacter text character) (read rest : Bytes)
    (fits : (text ++ rest).length ≤ bound) (fits' : rest.length ≤ bound) :
    readOctets bound read (text ++ rest) fits =
      readOctets bound ((String.utf8EncodeChar character).reverse ++ read) rest fits' := by
  cases spelled with
  | plain notQuote notBackslash visible =>
      -- Octets outside ASCII are taken one by one, and none of them looks like a delimiter.
      exact readOctets_visible (fun _ => visible_of_mem_utf8EncodeChar notQuote notBackslash
        visible) read rest fits fits'
  | @letter letter octet _ escape same =>
      have ascii := letterEscape?_lt escape
      have encoded : String.utf8EncodeChar character = [octet] := by
        rw [utf8EncodeChar_of_ascii (same ▸ ascii), ← same, UInt8.ofNat_toNat]
      rw [encoded]
      exact readOctets_escape (readEscape_of_letter escape rest) fits fits'
  | unit code => exact readOctets_escape (readEscape_of_unit code rest) fits fits'
  | pair leadingUnit trailingUnit leads trails code =>
      exact readOctets_escape
        (readEscape_of_pair leadingUnit trailingUnit leads trails code rest) fits fits'

theorem readOctets_characters {bound : Nat} {text : Bytes} {characters : List Char}
    (spelled : SpellsCharacters text characters) (read rest : Bytes)
    (fits : (text ++ quoteOctet :: rest).length ≤ bound) :
    Reads (readOctets bound read (text ++ quoteOctet :: rest) fits)
      (read.reverse ++ utf8 characters) rest := by
  induction spelled generalizing read with
  | nil =>
      refine ⟨Nat.lt_of_succ_le fits, ?_⟩
      simp only [List.nil_append]
      rw [readOctets, if_pos rfl]
      simp
  | @cons text others character characters first _ ih =>
      have fits' : (others ++ quoteOctet :: rest).length ≤ bound := by
        simp only [List.length_append, List.length_cons] at fits ⊢
        omega
      obtain ⟨shorter, result⟩ := ih ((String.utf8EncodeChar character).reverse ++ read) fits'
      refine ⟨shorter, ?_⟩
      simp only [List.append_assoc]
      rw [readOctets_character first read _ _ fits', result, utf8_cons, List.reverse_append,
        List.reverse_reverse, List.append_assoc]

/-- A spelled string is read as its text. -/
theorem readString_of_spells {inner : Bytes} {value : String}
    (spelled : SpellsCharacters inner value.toList) (rest : Bytes) :
    Reads (readString (inner ++ quoteOctet :: rest)) value rest := by
  obtain ⟨shorter, octets⟩ := readOctets_characters spelled [] rest (Nat.le_refl _)
  refine ⟨shorter, ?_⟩
  rw [readString]
  simp only [octets, List.reverse_nil, List.nil_append, Bytes.toText?_utf8, String.ofList_toList]

end TrustRoot.Json
