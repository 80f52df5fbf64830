import TrustRoot.Json.Writer
import TrustRoot.Proofs.Json.Reading
import TrustRoot.Proofs.Json.Tree

/-!
# Writing spells

Every layout writes a text of the tree of the value, so parsing what was written gives the value
back (`parse_render`), and no two restorable values have one text (`render_injective`).  The
induction is on the value; what follows it within its row is carried along, so that the row is
written from its end.
-/

namespace TrustRoot.Json

/-! ## Strings -/

theorem value?_hexDigit {value : Nat} (small : value < 16) :
    Hex.value? (UInt8.ofNat (hexDigit value).toNat) = some value ∧
      (hexDigit value).toNat < 128 := by
  have all : ∀ value : Fin 16, Hex.value? (UInt8.ofNat (hexDigit value.val).toNat) =
      some value.val ∧ (hexDigit value.val).toNat < 128 := by decide
  exact all ⟨value, small⟩

/-- The octet of a hexadecimal digit. -/
def hexOctet (value : Nat) : UInt8 :=
  UInt8.ofNat (hexDigit value).toNat

theorem utf8_unitEscape (unit : Nat) (rest : List Char) :
    utf8 (unitEscape unit ++ rest) =
      backslash :: 0x75 :: hexOctet (unit / 4096 % 16) :: hexOctet (unit / 256 % 16) ::
        hexOctet (unit / 16 % 16) :: hexOctet (unit % 16) :: utf8 rest := by
  have ascii {value : Nat} (small : value < 16) := (value?_hexDigit small).2
  simp only [unitEscape, List.cons_append, List.nil_append]
  rw [utf8_cons_of_ascii (by decide), utf8_cons_of_ascii (by decide),
    utf8_cons_of_ascii (ascii (by omega)), utf8_cons_of_ascii (ascii (by omega)),
    utf8_cons_of_ascii (ascii (by omega)), utf8_cons_of_ascii (ascii (by omega))]
  rfl

theorem unitOf?_hexOctets {unit : Nat} (small : unit < 65536) :
    unitOf? (hexOctet (unit / 4096 % 16)) (hexOctet (unit / 256 % 16))
      (hexOctet (unit / 16 % 16)) (hexOctet (unit % 16)) = some unit := by
  have value {value : Nat} (small : value < 16) : Hex.value? (hexOctet value) = some value :=
    (value?_hexDigit small).1
  have whole : unit / 4096 % 16 * 4096 + unit / 256 % 16 * 256 + unit / 16 % 16 * 16 +
      unit % 16 = unit := by omega
  rw [unitOf?, value (by omega), value (by omega), value (by omega), value (by omega)]
  exact congrArg some whole

theorem spellsCharacter_unitEscape {character : Char} (small : character.toNat < 65536) :
    SpellsCharacter (utf8 (unitEscape character.toNat)) character := by
  have octets := utf8_unitEscape character.toNat []
  rw [List.append_nil] at octets
  rw [octets]
  exact .unit (unitOf?_hexOctets small)

theorem toNat_lt (character : Char) : character.toNat < 1114112 := by
  rcases character.valid with low | high
  · exact Nat.lt_trans low (by decide)
  · exact high.2

/-- A character outside the basic plane is the pair of its surrogates. -/
theorem spellsCharacter_codePointEscape (character : Char) :
    SpellsCharacter (utf8 (codePointEscape character.toNat)) character := by
  unfold codePointEscape
  split
  · rename_i small
    exact spellsCharacter_unitEscape small
  · rename_i large
    have bound := toNat_lt character
    have octets := utf8_unitEscape (0xDC00 + (character.toNat - 65536) % 1024) []
    rw [List.append_nil] at octets
    rw [utf8_unitEscape, octets]
    refine .pair (unitOf?_hexOctets (by omega)) (unitOf?_hexOctets (by omega)) ?_ ?_ ?_
    · simp only [isLeading, Bool.and_eq_true, decide_eq_true_eq]
      omega
    · simp only [isTrailing, Bool.and_eq_true, decide_eq_true_eq]
      omega
    · omega

/-- An escaped character spells the character. -/
theorem spellsCharacter_escape (asciiOnly : Bool) (character : Char) :
    SpellsCharacter (utf8 (escape asciiOnly character)) character := by
  unfold escape
  split
  · rename_i isQuote
    subst isQuote
    exact .letter 0x22 0x22 (by decide) (by decide)
  split
  · rename_i isBackslash
    subst isBackslash
    exact .letter 0x5C 0x5C (by decide) (by decide)
  split
  · rename_i isLineFeed
    subst isLineFeed
    exact .letter 0x6E 0x0A (by decide) (by decide)
  split
  · rename_i isReturn
    subst isReturn
    exact .letter 0x72 0x0D (by decide) (by decide)
  split
  · rename_i isTab
    subst isTab
    exact .letter 0x74 0x09 (by decide) (by decide)
  split
  · rename_i isBackspace
    exact .letter 0x62 0x08 (by decide) isBackspace.symm
  split
  · rename_i isFormFeed
    exact .letter 0x66 0x0C (by decide) isFormFeed.symm
  split
  · exact spellsCharacter_unitEscape (by omega)
  split
  · exact spellsCharacter_codePointEscape character
  · rename_i notQuote notBackslash _ _ _ _ _ visible _
    have single : utf8 [character] = String.utf8EncodeChar character := by
      rw [utf8_cons, utf8_nil, List.append_nil]
    rw [single]
    exact .plain notQuote notBackslash (Nat.le_of_not_lt visible)

theorem spellsCharacters_escape (asciiOnly : Bool) (characters : List Char) :
    SpellsCharacters (utf8 (characters.flatMap (escape asciiOnly))) characters := by
  induction characters with
  | nil => exact .nil
  | cons character characters ih =>
      rw [List.flatMap_cons, utf8_append]
      exact .cons (spellsCharacter_escape asciiOnly character) ih

theorem utf8_stringChars (asciiOnly : Bool) (text : String) (rest : List Char) :
    utf8 (stringChars asciiOnly text ++ rest) =
      quoteOctet :: (utf8 (text.toList.flatMap (escape asciiOnly)) ++ quoteOctet :: utf8 rest) := by
  have quote (rest : List Char) : utf8 ('"' :: rest) = quoteOctet :: utf8 rest :=
    utf8_cons_of_ascii (by decide) rest
  rw [stringChars, List.cons_append, List.cons_append, quote, List.append_assoc, utf8_append,
    List.singleton_append, quote]

/-! ## Rows -/

theorem blank_newLine (layout : Layout) (level : Nat) : Blank (utf8 (layout.newLine level)) := by
  have spaces (count : Nat) : Blank (utf8 (List.replicate count ' ')) := by
    induction count with
    | zero => exact blank_nil
    | succ count ih =>
        rw [List.replicate_succ, utf8_cons_of_ascii (by decide)]
        exact .cons (by decide) ih
  unfold Layout.newLine
  split
  · exact blank_nil
  · rw [utf8_cons_of_ascii (by decide)]
    exact .cons (by decide) (spaces _)

theorem utf8_colon (layout : Layout) (rest : List Char) :
    ∃ before, Blank before ∧ utf8 (layout.colon ++ rest) = 0x3A :: (before ++ utf8 rest) := by
  unfold Layout.colon
  split
  · exact ⟨[], blank_nil, utf8_cons_of_ascii (by decide) rest⟩
  · refine ⟨[0x20], .cons (by decide) blank_nil, ?_⟩
    rw [List.cons_append, utf8_cons_of_ascii (by decide), List.singleton_append,
      utf8_cons_of_ascii (by decide)]
    rfl

theorem spellsMember_chars {α : Type} {spells : Bytes → α → Prop} (layout : Layout)
    (name : String) {value : α} {characters : List Char}
    (spelled : spells (utf8 characters) value) :
    SpellsMember spells
      (utf8 (stringChars layout.asciiOnly name ++ layout.colon ++ characters)) (name, value) := by
  obtain ⟨before, blank, colon⟩ := utf8_colon layout characters
  rw [List.append_assoc, utf8_stringChars, colon]
  -- The goal does not show the empty gaps, so the spelling is put together by itself.
  have member := SpellsMember.mk (spellsCharacters_escape layout.asciiOnly name.toList) blank_nil
    blank spelled
  exact member

theorem spellsMore_close {α : Type} {element : Bytes → α → Prop} (layout : Layout) (level : Nat)
    (close : Char) (ascii : close.toNat < 128) :
    SpellsMore (UInt8.ofNat close.toNat) element (utf8 (layout.newLine level ++ [close])) [] := by
  rw [utf8_append, utf8_cons_of_ascii ascii]
  exact .close (blank_newLine layout level)

theorem spellsMore_next {α : Type} {element : Bytes → α → Prop} {close : UInt8} (layout : Layout)
    (level : Nat) {characters others : List Char} {item : α} {items : List α}
    (first : element (utf8 characters) item)
    (more : SpellsMore close element (utf8 others) items) :
    SpellsMore close element
      (utf8 (',' :: layout.newLine level ++ characters ++ others)) (item :: items) := by
  rw [List.append_assoc, List.cons_append, utf8_cons_of_ascii (by decide), utf8_append,
    utf8_append]
  -- The gap before the comma is empty here as well.
  have next := SpellsMore.next blank_nil (blank_newLine layout level) first more
  exact next

theorem spellsRow_chars {α : Type} {element : Bytes → α → Prop} {close : UInt8} (layout : Layout)
    (level : Nat) {characters others : List Char} {item : α} {items : List α}
    (first : element (utf8 characters) item)
    (more : SpellsMore close element (utf8 others) items) :
    SpellsRow close element
      (utf8 (layout.newLine level ++ characters ++ others)) (item :: items) := by
  rw [List.append_assoc, utf8_append, utf8_append]
  exact .some (blank_newLine layout level) first more

/-! ## Values -/

mutual

/-- What is written for a value is a text of its tree, with its members in their order. -/
theorem writes_chars (layout : Layout) (level bound : Nat) (value : Json)
    (integers : value.IntegersOnly) (shallow : value.depth ≤ bound) :
    Writes Eq bound (utf8 (chars layout level value)) value.tree := by
  match value with
  | .null => exact .ofScalar .null bound
  | .bool true => exact .ofScalar .boolTrue bound
  | .bool false => exact .ofScalar .boolFalse bound
  | .number held => exact .ofScalar (.number (isNumeral_chars integers)) bound
  | .string text =>
      have octets := utf8_stringChars layout.asciiOnly text []
      rw [List.append_nil] at octets
      rw [chars, octets]
      exact .ofScalar (.string (spellsCharacters_escape _ _)) bound
  | .array [] =>
      obtain ⟨inner, rfl⟩ := Nat.exists_eq_add_of_le' shallow
      have row : SpellsRow 0x5D (Writes Eq inner) [0x5D] [] := SpellsRow.empty blank_nil
      exact .array row
  | .array (item :: items) =>
      obtain ⟨inner, rfl⟩ := Nat.exists_eq_add_of_le' (Nat.le_of_add_left_le shallow)
      have bounds := Nat.max_le.mp (Nat.le_of_succ_le_succ shallow)
      have first := writes_chars layout (level + 1) inner item integers.1 bounds.1
      have more := writesMore_itemsChars layout (level + 1) inner items integers.2 bounds.2
        (spellsMore_close layout level ']' (by decide))
      have row := spellsRow_chars layout (level + 1) first more
      rw [chars]
      simp only [List.cons_append, List.append_assoc] at row ⊢
      rw [utf8_cons_of_ascii (by decide)]
      exact .array row
  | .object [] =>
      obtain ⟨inner, rfl⟩ := Nat.exists_eq_add_of_le' shallow
      have row : SpellsRow 0x7D (SpellsMember (Writes Eq inner)) [0x7D] [] :=
        SpellsRow.empty blank_nil
      exact .object rfl row
  | .object ((name, held) :: members) =>
      obtain ⟨inner, rfl⟩ := Nat.exists_eq_add_of_le' (Nat.le_of_add_left_le shallow)
      have bounds := Nat.max_le.mp (Nat.le_of_succ_le_succ shallow)
      have first := spellsMember_chars layout name
        (writes_chars layout (level + 1) inner held integers.1 bounds.1)
      have more := writesMore_membersChars layout (level + 1) inner members integers.2 bounds.2
        (spellsMore_close layout level '\x7d' (by decide))
      have row := spellsRow_chars layout (level + 1) first more
      rw [chars]
      simp only [List.cons_append, List.append_assoc] at row ⊢
      rw [utf8_cons_of_ascii (by decide)]
      exact .object rfl row

theorem writesMore_itemsChars (layout : Layout) (level bound : Nat) (items : List Json)
    (integers : ItemsIntegersOnly items) (shallow : itemsDepth items ≤ bound) {close : UInt8}
    {closing : List Char} (closes : SpellsMore close (Writes Eq bound) (utf8 closing) []) :
    SpellsMore close (Writes Eq bound) (utf8 (itemsChars layout level items ++ closing))
      (itemsTrees items) := by
  match items with
  | [] => exact closes
  | item :: items =>
      have bounds := Nat.max_le.mp shallow
      have first := writes_chars layout level bound item integers.1 bounds.1
      have more := writesMore_itemsChars layout level bound items integers.2 bounds.2 closes
      rw [itemsChars, List.append_assoc _ (itemsChars layout level items)]
      exact spellsMore_next layout level first more

theorem writesMore_membersChars (layout : Layout) (level bound : Nat)
    (members : List (String × Json)) (integers : MembersIntegersOnly members)
    (shallow : membersDepth members ≤ bound) {close : UInt8} {closing : List Char}
    (closes : SpellsMore close (SpellsMember (Writes Eq bound)) (utf8 closing) []) :
    SpellsMore close (SpellsMember (Writes Eq bound))
      (utf8 (membersChars layout level members ++ closing)) (membersTrees members) := by
  match members with
  | [] => exact closes
  | (name, held) :: members =>
      have bounds := Nat.max_le.mp shallow
      have first := spellsMember_chars layout name
        (writes_chars layout level bound held integers.1 bounds.1)
      have more := writesMore_membersChars layout level bound members integers.2 bounds.2 closes
      have row := spellsMore_next layout level first more
      rw [membersChars]
      simp only [List.append_assoc] at row ⊢
      exact row

end

theorem isTextOf_render (layout : Layout) {value : Json} (integers : value.IntegersOnly)
    (shallow : value.depth ≤ depthLimit) :
    IsTextOf (Bytes.ofText (value.render layout)) value.tree := by
  have written := writes_chars layout 0 depthLimit value integers shallow
  rw [render_eq, Bytes.ofText_ofList]
  exact ⟨[], _, [], by simp, blank_nil, written.mono fun same => same ▸ .refl _, blank_nil⟩

/-- What is written for a value spells it. -/
theorem spells_chars (layout : Layout) (level bound : Nat) (value : Json)
    (ordered : value.Ordered) (integers : value.IntegersOnly) (shallow : value.depth ≤ bound) :
    Spells bound (utf8 (chars layout level value)) value := by
  have written := writes_chars layout level bound value integers shallow
  have rearranged : Writes List.Perm bound (utf8 (chars layout level value)) value.tree :=
    written.mono fun same => same ▸ .refl _
  exact spells_of_writes rearranged (distinct_tree ordered) (value?_tree value ordered integers)

/-- What was written is read back. -/
theorem parse_render (layout : Layout) {value : Json} (restorable : value.Restorable depthLimit) :
    parse (Bytes.ofText (value.render layout)) = .ok value := by
  have spelled := spells_chars layout 0 depthLimit value restorable.ordered restorable.integers
    restorable.shallow
  have read := parse_of_spells blank_nil spelled blank_nil
  rwa [List.append_nil, List.nil_append, ← Bytes.ofText_ofList, ← render_eq] at read

/-- Different values have different texts. -/
theorem render_injective (layout : Layout) {first second : Json}
    (restorable : first.Restorable depthLimit) (restorable' : second.Restorable depthLimit)
    (same : first.render layout = second.render layout) : first = second := by
  have read := parse_render layout restorable
  rw [same, parse_render layout restorable'] at read
  exact (Except.ok.inj read).symm

end TrustRoot.Json
