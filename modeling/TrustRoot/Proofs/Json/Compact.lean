import TrustRoot.Proofs.Json.Writing

/-!
# Texts on one line

A layout without indentation puts nothing between tokens.  So what holds of strings and of visible
characters, and passes from the parts of a text to the whole, holds of every text in such a layout
(`Composes.chars`).  Two such properties are that all characters are ASCII, if others are escaped,
and that nothing outside strings is blank.
-/

namespace TrustRoot.Json

/-! ## Properties of compact texts -/

/-- A visible character of ASCII that does not begin a string. -/
def IsMark (character : Char) : Prop :=
  32 < character.toNat ∧ character.toNat < 128 ∧ character ≠ '"'

instance : DecidablePred IsMark := fun character =>
  inferInstanceAs (Decidable (32 < character.toNat ∧ character.toNat < 128 ∧ character ≠ '"'))

/-- A property that compact texts have if their parts do. -/
structure Composes (asciiOnly : Bool) (property : List Char → Prop) : Prop where
  nil : property []
  append : ∀ first second, property first → property second → property (first ++ second)
  mark : ∀ mark, IsMark mark → property [mark]
  string : ∀ text, property (stringChars asciiOnly text)

theorem isMark_of_isDigit {digit : Char} (decimal : digit.isDigit = true) : IsMark digit := by
  have bounds := toNat_of_isDigit decimal
  refine ⟨by omega, by omega, ?_⟩
  rintro rfl
  exact absurd decimal (by decide)

namespace Composes

variable {property : List Char → Prop}

theorem marks {asciiOnly : Bool} (composes : Composes asciiOnly property) {characters : List Char}
    (marks : characters.all (fun character => decide (IsMark character)) = true) :
    property characters := by
  induction characters with
  | nil => exact composes.nil
  | cons character characters ih =>
      rw [List.all_cons, Bool.and_eq_true, decide_eq_true_eq] at marks
      exact composes.append [character] characters (composes.mark character marks.1) (ih marks.2)

theorem number {asciiOnly : Bool} (composes : Composes asciiOnly property) {number : Number}
    (isInteger : number.IsInteger) : property number.chars := by
  have digits (magnitude : Nat) : property (Nat.toDigits 10 magnitude) :=
    composes.marks (List.all_eq_true.mpr fun digit listed =>
      decide_eq_true (isMark_of_isDigit (isDigit_of_mem_toDigits magnitude digit listed)))
  cases number with
  | natural value => exact digits value.toNat
  | negative magnitude =>
      exact composes.append ['-'] _ (composes.mark '-' (by decide))
        (digits (magnitude.val + 1))
  | real value => exact absurd isInteger id

theorem newLine_of_compact {layout : Layout} (compact : layout.indent = none) (level : Nat) :
    layout.newLine level = [] := by
  rw [Layout.newLine, compact]

theorem colon_of_compact {layout : Layout} (compact : layout.indent = none) :
    layout.colon = [':'] := by
  rw [Layout.colon, compact]

mutual

/-- A property that composes holds of every compact text. -/
theorem chars (layout : Layout) (composes : Composes layout.asciiOnly property)
    (compact : layout.indent = none) (level : Nat) (value : Json) (integers : value.IntegersOnly) :
    property (Json.chars layout level value) := by
  match value with
  | .null | .bool true | .bool false | .array [] | .object [] => exact composes.marks rfl
  | .number held => exact composes.number integers
  | .string text => exact composes.string text
  | .array (item :: items) =>
      have first := chars layout composes compact (level + 1) item integers.1
      have others := itemsChars layout composes compact (level + 1) items integers.2
      rw [Json.chars, newLine_of_compact compact, newLine_of_compact compact, List.append_nil]
      refine composes.append _ _ (composes.append _ _ (composes.append _ _ ?_ first) others) ?_
      · exact composes.mark '[' (by decide)
      · exact composes.mark ']' (by decide)
  | .object ((name, held) :: members) =>
      have first := chars layout composes compact (level + 1) held integers.1
      have others := membersChars layout composes compact (level + 1) members integers.2
      rw [Json.chars, newLine_of_compact compact, newLine_of_compact compact,
        colon_of_compact compact, List.append_nil]
      refine composes.append _ _ (composes.append _ _ (composes.append _ _ (composes.append _ _
        (composes.append _ _ ?_ (composes.string name)) ?_) first) others) ?_
      · exact composes.mark '\x7b' (by decide)
      · exact composes.mark ':' (by decide)
      · exact composes.mark '\x7d' (by decide)

theorem itemsChars (layout : Layout) (composes : Composes layout.asciiOnly property)
    (compact : layout.indent = none) (level : Nat) (items : List Json)
    (integers : ItemsIntegersOnly items) : property (Json.itemsChars layout level items) := by
  match items with
  | [] => exact composes.nil
  | item :: items =>
      have first := chars layout composes compact level item integers.1
      have others := itemsChars layout composes compact level items integers.2
      rw [Json.itemsChars, newLine_of_compact compact]
      refine composes.append _ _ (composes.append _ _ ?_ first) others
      exact composes.mark ',' (by decide)

theorem membersChars (layout : Layout) (composes : Composes layout.asciiOnly property)
    (compact : layout.indent = none) (level : Nat) (members : List (String × Json))
    (integers : MembersIntegersOnly members) :
    property (Json.membersChars layout level members) := by
  match members with
  | [] => exact composes.nil
  | (name, held) :: members =>
      have first := chars layout composes compact level held integers.1
      have others := membersChars layout composes compact level members integers.2
      rw [Json.membersChars, newLine_of_compact compact, colon_of_compact compact]
      refine composes.append _ _ (composes.append _ _ (composes.append _ _ (composes.append _ _
        ?_ (composes.string name)) ?_) first) others
      · exact composes.mark ',' (by decide)
      · exact composes.mark ':' (by decide)

end

end Composes

/-! ## Escapes in ASCII -/

theorem ascii_unitEscape (unit : Nat) : ∀ character ∈ unitEscape unit, character.toNat < 128 := by
  have digit (value : Nat) : (hexDigit (value % 16)).toNat < 128 :=
    (value?_hexDigit (Nat.mod_lt _ (by decide))).2
  simp [unitEscape, digit]

theorem ascii_codePointEscape (code : Nat) :
    ∀ character ∈ codePointEscape code, character.toNat < 128 := by
  unfold codePointEscape
  split
  · exact ascii_unitEscape code
  · exact List.forall_mem_append.mpr ⟨ascii_unitEscape _, ascii_unitEscape _⟩

theorem ascii_escape (character : Char) :
    ∀ written ∈ escape true character, written.toNat < 128 := by
  have letter {letter : Char} (ascii : letter.toNat < 128) :
      ∀ written ∈ ['\\', letter], written.toNat < 128 := by
    simpa using ascii
  unfold escape
  split
  · exact letter (by decide)
  split
  · exact letter (by decide)
  split
  · exact letter (by decide)
  split
  · exact letter (by decide)
  split
  · exact letter (by decide)
  split
  · exact letter (by decide)
  split
  · exact letter (by decide)
  split
  · exact ascii_unitEscape _
  split
  · exact ascii_codePointEscape _
  · rename_i ascii
    simpa using ascii

theorem ascii_stringChars (text : String) :
    ∀ character ∈ stringChars true text, character.toNat < 128 := by
  have inside : ∀ character ∈ text.toList.flatMap (escape true), character.toNat < 128 := by
    intro character listed
    obtain ⟨source, -, written⟩ := List.mem_flatMap.mp listed
    exact ascii_escape source character written
  have quote : '"'.toNat < 128 := by decide
  simpa [stringChars, quote, or_imp, forall_and] using inside

theorem composes_ascii : Composes true fun characters => ∀ character ∈ characters,
    character.toNat < 128 where
  nil := by simp
  append _ _ first second := List.forall_mem_append.mpr ⟨first, second⟩
  mark _ isMark := by simpa using isMark.2.1
  string := ascii_stringChars

theorem utf8_ascii {characters : List Char}
    (ascii : ∀ character ∈ characters, character.toNat < 128) :
    ∀ octet ∈ utf8 characters, octet.toNat < 128 := by
  induction characters with
  | nil => simp
  | cons character characters ih =>
      obtain ⟨first, others⟩ := List.forall_mem_cons.mp ascii
      rw [utf8_cons_of_ascii first, List.forall_mem_cons]
      refine ⟨?_, ih others⟩
      rwa [toNat_octet_of_ascii first]

/-- Texts in ASCII on one line have no octet beyond ASCII. -/
theorem ascii_render {value : Json} (integers : value.IntegersOnly) :
    ∀ octet ∈ Bytes.ofText (value.render .ascii), octet.toNat < 128 := by
  have ascii : ∀ character ∈ chars .ascii 0 value, character.toNat < 128 :=
    Composes.chars .ascii composes_ascii rfl 0 value integers
  rw [render_eq, Bytes.ofText_ofList]
  exact utf8_ascii ascii

/-- A character outside the basic plane is escaped as two units. -/
example : render .ascii (.string "é\n😀") = "\"\\u00e9\\n\\ud83d\\ude00\"" := by
  decide +kernel

/-! ## Blanks outside strings -/

/-- Where a scan of a text stands. -/
inductive Place where
  | outside
  | inside
  | escaped

def Place.next (place : Place) (octet : UInt8) : Place :=
  match place with
  | .outside => if octet = quoteOctet then .inside else .outside
  | .inside =>
    if octet = quoteOctet then .outside else if octet = backslash then .escaped else .inside
  | .escaped => .inside

/-- The place behind a text that starts at a place. -/
def Place.behind (place : Place) (text : Bytes) : Place :=
  text.foldl Place.next place

/-- The octets outside strings of a text that starts at a place; the quote that opens a string is
still outside. -/
def outsideFrom : Place → Bytes → Bytes
  | _, [] => []
  | .outside, octet :: rest => octet :: outsideFrom (Place.next .outside octet) rest
  | .inside, octet :: rest => outsideFrom (Place.next .inside octet) rest
  | .escaped, octet :: rest => outsideFrom (Place.next .escaped octet) rest

/-- The octets of a text that are outside strings. -/
def outsideStrings (text : Bytes) : Bytes :=
  outsideFrom .outside text

theorem outsideFrom_append (place : Place) (first second : Bytes) :
    outsideFrom place (first ++ second) =
      outsideFrom place first ++ outsideFrom (place.behind first) second := by
  induction first generalizing place with
  | nil => cases place <;> rfl
  | cons octet first ih => cases place <;> simp [outsideFrom, Place.behind, ih]

theorem behind_append (place : Place) (first second : Bytes) :
    place.behind (first ++ second) = (place.behind first).behind second :=
  List.foldl_append

/-- Octets that stay inside a string. -/
structure StaysInside (text : Bytes) : Prop where
  behind : Place.inside.behind text = .inside
  nothing : outsideFrom .inside text = []

namespace StaysInside

theorem nil : StaysInside [] := ⟨rfl, rfl⟩

theorem append {first second : Bytes} (stays : StaysInside first) (stays' : StaysInside second) :
    StaysInside (first ++ second) where
  behind := by rw [behind_append, stays.behind, stays'.behind]
  nothing := by rw [outsideFrom_append, stays.nothing, stays.behind, stays'.nothing]; rfl

theorem plain {octets : Bytes}
    (plain : ∀ octet ∈ octets, octet ≠ quoteOctet ∧ octet ≠ backslash) : StaysInside octets := by
  induction octets with
  | nil => exact nil
  | cons octet octets ih =>
      obtain ⟨⟨notQuote, notBackslash⟩, others⟩ := List.forall_mem_cons.mp plain
      have one : StaysInside [octet] := by
        constructor <;> simp [Place.behind, outsideFrom, Place.next, notQuote, notBackslash]
      exact one.append (ih others)

/-- Whatever follows a backslash does not end the string. -/
theorem escape (letter : UInt8) : StaysInside [backslash, letter] := ⟨rfl, rfl⟩

theorem digits {first second third fourth : UInt8} {unit : Nat}
    (code : unitOf? first second third fourth = some unit) :
    StaysInside [first, second, third, fourth] := by
  have notDelimiter {digit : UInt8} {value : Nat} (isDigit : Hex.value? digit = some value) :
      digit ≠ quoteOctet ∧ digit ≠ backslash := by
    constructor <;>
      · rintro rfl
        cases isDigit
  simp only [unitOf?, bind, pure, Option.bind_eq_some_iff] at code
  obtain ⟨_, isFirst, _, isSecond, _, isThird, _, isFourth, -⟩ := code
  apply plain
  simp only [List.forall_mem_cons, List.not_mem_nil, false_implies, implies_true, and_true]
  exact ⟨notDelimiter isFirst, notDelimiter isSecond, notDelimiter isThird, notDelimiter isFourth⟩

theorem character {text : Bytes} {character : Char} (spelled : SpellsCharacter text character) :
    StaysInside text := by
  cases spelled with
  | plain notQuote notBackslash visible =>
      apply plain
      intro octet listed
      obtain ⟨otherQuote, otherBackslash, -⟩ :=
        visible_of_mem_utf8EncodeChar notQuote notBackslash visible listed
      exact ⟨otherQuote, otherBackslash⟩
  | letter letter => exact escape letter
  | unit code => exact (escape 0x75).append (digits code)
  | pair leadingUnit trailingUnit =>
      exact (escape 0x75).append ((digits leadingUnit).append
        ((escape 0x75).append (digits trailingUnit)))

theorem characters {text : Bytes} {characters : List Char}
    (spelled : SpellsCharacters text characters) : StaysInside text := by
  induction spelled with
  | nil => exact nil
  | cons first _ ih => exact (character first).append ih

end StaysInside

/-- A text that leaves no string open and has only visible octets outside strings. -/
structure Neat (text : Bytes) : Prop where
  behind : Place.outside.behind text = .outside
  visible : ∀ octet ∈ outsideStrings text, 0x20 < octet

namespace Neat

theorem nil : Neat [] := ⟨rfl, by simp [outsideStrings, outsideFrom]⟩

theorem append {first second : Bytes} (neat : Neat first) (neat' : Neat second) :
    Neat (first ++ second) where
  behind := by rw [behind_append, neat.behind, neat'.behind]
  visible := by
    rw [outsideStrings, outsideFrom_append, neat.behind]
    exact List.forall_mem_append.mpr ⟨neat.visible, neat'.visible⟩

theorem mark {octet : UInt8} (visible : 0x20 < octet) (notQuote : octet ≠ quoteOctet) :
    Neat [octet] where
  behind := by simp [Place.behind, Place.next, notQuote]
  visible := by simpa [outsideStrings, outsideFrom] using visible

theorem quoted {inner : Bytes} (stays : StaysInside inner) :
    Neat (quoteOctet :: (inner ++ [quoteOctet])) where
  behind := by
    change Place.inside.behind (inner ++ [quoteOctet]) = .outside
    rw [behind_append, stays.behind]
    rfl
  visible := by
    change ∀ octet ∈ quoteOctet :: outsideFrom .inside (inner ++ [quoteOctet]), 0x20 < octet
    rw [outsideFrom_append, stays.nothing, stays.behind]
    simp only [outsideFrom, List.nil_append, List.forall_mem_singleton]
    decide

end Neat

theorem composes_neat (asciiOnly : Bool) :
    Composes asciiOnly fun characters => Neat (utf8 characters) where
  nil := Neat.nil
  append first second neat neat' := by
    rw [utf8_append]
    exact neat.append neat'
  mark mark isMark := by
    obtain ⟨visible, ascii, notQuote⟩ := isMark
    rw [utf8_cons_of_ascii ascii]
    have code := toNat_octet_of_ascii ascii
    have visible' : 0x20 < UInt8.ofNat mark.toNat := by
      rw [UInt8.lt_iff_toNat_lt, code]
      exact visible
    have notQuote' : UInt8.ofNat mark.toNat ≠ quoteOctet := by
      intro same
      rw [same] at code
      exact notQuote (Char.toNat_inj.mp code.symm)
    exact .mark visible' notQuote'
  string text := by
    have octets := utf8_stringChars asciiOnly text []
    rw [List.append_nil] at octets
    rw [octets]
    exact Neat.quoted (.characters (spellsCharacters_escape asciiOnly text.toList))

/-- Texts on one line have no blank outside strings. -/
theorem visible_render {value : Json} (integers : value.IntegersOnly) :
    ∀ octet ∈ outsideStrings (Bytes.ofText (value.render .ascii)), 0x20 < octet := by
  have neat : Neat (utf8 (chars .ascii 0 value)) :=
    Composes.chars .ascii (composes_neat true) rfl 0 value integers
  rw [render_eq, Bytes.ofText_ofList]
  exact neat.visible

end TrustRoot.Json
