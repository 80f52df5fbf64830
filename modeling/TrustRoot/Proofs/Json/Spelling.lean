import TrustRoot.Json.Reader
import TrustRoot.Proofs.Text.Utf8

/-!
# Spellings of JSON values

A value has many texts: blanks may stand between tokens, a character of a string may be escaped or
not, and members may come in any order.  This module says which octets spell which value, apart
from how they are read.  A compound value is spelled by a row of elements between brackets, so the
relation goes down one level of nesting at a time, as reading does.
-/

namespace TrustRoot.Json

/-- Octets that may stand between tokens. -/
def Blank (text : Bytes) : Prop :=
  ∀ octet ∈ text, isBlank octet = true

/-- A reader takes this value and leaves these octets. -/
def Reads {α : Type} {bound : Nat} (result : Except Fault (Parsed α bound)) (value : α)
    (rest : Bytes) : Prop :=
  ∃ shorter, result = .ok ⟨value, rest, shorter⟩

/-- A reader takes a value and leaves these octets, or refuses if there is no value. -/
def Yields {α : Type} {bound : Nat} (result : Except Fault (Parsed α bound)) (outcome : Option α)
    (rest : Bytes) : Prop :=
  match outcome with
  | some value => Reads result value rest
  | none => ∃ fault, result = .error fault

/-- Octets that do not go on with a numeral. -/
def Ends (rest : Bytes) : Prop :=
  ∀ octet, rest.head? = some octet →
    isDigit octet = false ∧ octet ≠ 0x2E ∧ isExponentMark octet = false

/-- The octets that spell a character inside a string. -/
inductive SpellsCharacter : Bytes → Char → Prop where
  | plain {character : Char} (notQuote : character ≠ '"') (notBackslash : character ≠ '\\')
      (visible : 32 ≤ character.toNat) :
      SpellsCharacter (String.utf8EncodeChar character) character
  | letter (letter octet : UInt8) {character : Char}
      (escape : letterEscape? letter = some octet)
      (same : octet.toNat = character.toNat) :
      SpellsCharacter [backslash, letter] character
  | unit {first second third fourth : UInt8} {character : Char}
      (code : unitOf? first second third fourth = some character.toNat) :
      SpellsCharacter [backslash, 0x75, first, second, third, fourth] character
  | pair {first second third fourth first' second' third' fourth' : UInt8} {character : Char}
      {leading trailing : Nat}
      (leadingUnit : unitOf? first second third fourth = some leading)
      (trailingUnit : unitOf? first' second' third' fourth' = some trailing)
      (isLeading : isLeading leading = true) (isTrailing : isTrailing trailing = true)
      (code : character.toNat = 0x10000 + (leading - 0xD800) * 1024 + (trailing - 0xDC00)) :
      SpellsCharacter
        [backslash, 0x75, first, second, third, fourth,
          backslash, 0x75, first', second', third', fourth'] character

/-- The octets that spell characters inside a string. -/
inductive SpellsCharacters : Bytes → List Char → Prop where
  | nil : SpellsCharacters [] []
  | cons {text rest : Bytes} {character : Char} {characters : List Char}
      (first : SpellsCharacter text character) (others : SpellsCharacters rest characters) :
      SpellsCharacters (text ++ rest) (character :: characters)

/-- A numeral of a number: it starts as numerals do and is read as the number, whatever follows
that does not go on with it. -/
structure SpellsNumber (text : Bytes) (number : Number) : Prop where
  starts : ∃ first others, text = first :: others ∧ (first = 0x2D ∨ isDigit first = true)
  reads : ∀ rest, Ends rest → Reads (readNumber (text ++ rest)) number rest

/-- The octets that spell a value which is neither an array nor an object. -/
inductive SpellsScalar : Bytes → Json → Prop where
  | null : SpellsScalar [0x6E, 0x75, 0x6C, 0x6C] .null
  | boolTrue : SpellsScalar [0x74, 0x72, 0x75, 0x65] (.bool true)
  | boolFalse : SpellsScalar [0x66, 0x61, 0x6C, 0x73, 0x65] (.bool false)
  | string {inner : Bytes} {value : String} (spelled : SpellsCharacters inner value.toList) :
      SpellsScalar (quoteOctet :: (inner ++ [quoteOctet])) (.string value)
  | number {numeral : Bytes} {value : Number} (spelled : SpellsNumber numeral value) :
      SpellsScalar numeral (.number value)

/-- The rest of a row after an element, up to the octet that closes the row. -/
inductive SpellsMore {α : Type} (close : UInt8) (element : Bytes → α → Prop) :
    Bytes → List α → Prop where
  | close {gap : Bytes} (blank : Blank gap) : SpellsMore close element (gap ++ [close]) []
  | next {gap before text rest : Bytes} {item : α} {items : List α} (blank : Blank gap)
      (blankBefore : Blank before) (first : element text item)
      (others : SpellsMore close element rest items) :
      SpellsMore close element (gap ++ 0x2C :: (before ++ (text ++ rest))) (item :: items)

/-- A row of elements, up to the octet that closes it. -/
inductive SpellsRow {α : Type} (close : UInt8) (element : Bytes → α → Prop) :
    Bytes → List α → Prop where
  | empty {gap : Bytes} (blank : Blank gap) : SpellsRow close element (gap ++ [close]) []
  | some {before text rest : Bytes} {item : α} {items : List α} (blankBefore : Blank before)
      (first : element text item) (others : SpellsMore close element rest items) :
      SpellsRow close element (before ++ (text ++ rest)) (item :: items)

/-- The octets that spell a member of an object. -/
inductive SpellsMember {α : Type} (value : Bytes → α → Prop) : Bytes → String × α → Prop where
  | mk {inner gap before text : Bytes} {name : String} {member : α}
      (spelled : SpellsCharacters inner name.toList) (blank : Blank gap)
      (blankBefore : Blank before) (spelledValue : value text member) :
      SpellsMember value
        (quoteOctet :: (inner ++ quoteOctet :: (gap ++ 0x3A :: (before ++ text)))) (name, member)

/-- The octets that spell a value, by those that spell the values inside. -/
inductive SpellsLevel (inside : Bytes → Json → Prop) : Bytes → Json → Prop where
  | scalar {text : Bytes} {value : Json} (spelled : SpellsScalar text value) :
      SpellsLevel inside text value
  | array {text : Bytes} {items : List Json} (row : SpellsRow 0x5D inside text items) :
      SpellsLevel inside (0x5B :: text) (.array items)
  | object {text : Bytes} {members : List (String × Json)}
      (row : SpellsRow 0x7D (SpellsMember inside) text members) :
      SpellsLevel inside (0x7B :: text) (.ofDict (.ofList members))

/-- The octets that spell a value nested at most so deep. -/
def Spells : (depth : Nat) → Bytes → Json → Prop
  | 0 => SpellsScalar
  | depth + 1 => SpellsLevel (Spells depth)

theorem yields_ok {α : Type} {bound : Nat} {value : α} {left rest : Bytes}
    (shorter : left.length < bound) (same : left = rest) :
    Yields (.ok ⟨value, left, shorter⟩ : Except Fault (Parsed α bound)) (some value) rest := by
  subst same
  exact ⟨shorter, rfl⟩

theorem yields_error {α : Type} {bound : Nat} (fault : Fault) (rest : Bytes) :
    Yields (.error fault : Except Fault (Parsed α bound)) none rest :=
  ⟨fault, rfl⟩

@[simp]
theorem blank_nil : Blank [] := by
  intro octet member
  cases member

theorem Blank.cons {octet : UInt8} {text : Bytes} (blank : isBlank octet = true)
    (others : Blank text) : Blank (octet :: text) := by
  intro other member
  rcases List.mem_cons.mp member with rfl | inText
  · exact blank
  · exact others other inText

theorem ends_nil : Ends [] := by
  intro octet found
  cases found

theorem ends_cons {octet : UInt8} (rest : Bytes)
    (ends : isDigit octet = false ∧ octet ≠ 0x2E ∧ isExponentMark octet = false) :
    Ends (octet :: rest) := by
  rintro _ ⟨⟩
  exact ends

theorem not_numeral_of_isBlank {octet : UInt8} (blank : isBlank octet = true) :
    isDigit octet = false ∧ octet ≠ 0x2E ∧ isExponentMark octet = false := by
  simp only [isBlank, Bool.or_eq_true, beq_iff_eq] at blank
  rcases blank with ((rfl | rfl) | rfl) | rfl <;> decide

/-- Blanks do not go on with a numeral. -/
theorem ends_append {gap rest : Bytes} (blank : Blank gap) (ends : Ends rest) :
    Ends (gap ++ rest) := by
  cases gap with
  | nil => exact ends
  | cons octet gap =>
      exact ends_cons _ (not_numeral_of_isBlank (blank octet List.mem_cons_self))

theorem SpellsMore.ends {α : Type} {close : UInt8} {element : Bytes → α → Prop} {text : Bytes}
    {items : List α} (more : SpellsMore close element text items)
    (closes : isDigit close = false ∧ close ≠ 0x2E ∧ isExponentMark close = false)
    (rest : Bytes) : Ends (text ++ rest) := by
  cases more with
  | close blank =>
      rw [List.append_assoc]
      exact ends_append blank (ends_cons rest closes)
  | next blank blankBefore first others =>
      rw [List.append_assoc]
      exact ends_append blank (ends_cons _ (by decide))

end TrustRoot.Json
