import TrustRoot.Json.Basic

/-!
# Writing JSON

One writer covers every layout in use: on one line or indented, with characters outside ASCII
written as they are or as `\u` escapes of their UTF-16 units. Quotes, backslashes and control
characters are always escaped, by letter where JSON has one.
-/

namespace TrustRoot.Json

structure Layout where
  /-- The number of blanks per nesting level, or none for a text on one line. -/
  indent : Option Nat
  asciiOnly : Bool

def Layout.compact : Layout := ⟨none, false⟩

def Layout.indented : Layout := ⟨some 4, false⟩

def Layout.ascii : Layout := ⟨none, true⟩

def Layout.newLine (layout : Layout) (level : Nat) : List Char :=
  match layout.indent with
  | none => []
  | some width => '\n' :: List.replicate (width * level) ' '

def Layout.colon (layout : Layout) : List Char :=
  match layout.indent with
  | none => [':']
  | some _ => [':', ' ']

def hexDigit (value : Nat) : Char := Nat.digitChar value

def unitEscape (unit : Nat) : List Char :=
  ['\\', 'u', hexDigit (unit / 4096 % 16), hexDigit (unit / 256 % 16), hexDigit (unit / 16 % 16),
    hexDigit (unit % 16)]

def codePointEscape (code : Nat) : List Char :=
  if code < 65536 then unitEscape code
  else unitEscape (0xD800 + (code - 65536) / 1024) ++ unitEscape (0xDC00 + (code - 65536) % 1024)

/-- A character inside a JSON string. -/
def escape (asciiOnly : Bool) (character : Char) : List Char :=
  if character = '"' then ['\\', '"']
  else if character = '\\' then ['\\', '\\']
  else if character = '\n' then ['\\', 'n']
  else if character = '\r' then ['\\', 'r']
  else if character = '\t' then ['\\', 't']
  else if character.toNat = 8 then ['\\', 'b']
  else if character.toNat = 12 then ['\\', 'f']
  else if character.toNat < 32 then unitEscape character.toNat
  else if asciiOnly ∧ 128 ≤ character.toNat then codePointEscape character.toNat
  else [character]

def stringChars (asciiOnly : Bool) (text : String) : List Char :=
  '"' :: text.toList.flatMap (escape asciiOnly) ++ ['"']

mutual

/-- The characters of a value whose first line begins at nesting level `level`. -/
def chars (layout : Layout) (level : Nat) : Json → List Char
  | .null => ['n', 'u', 'l', 'l']
  | .bool true => ['t', 'r', 'u', 'e']
  | .bool false => ['f', 'a', 'l', 's', 'e']
  | .number value => value.chars
  | .string value => stringChars layout.asciiOnly value
  | .array [] => ['[', ']']
  | .array (item :: rest) =>
    '[' :: layout.newLine (level + 1) ++ chars layout (level + 1) item ++
      itemsChars layout (level + 1) rest ++ layout.newLine level ++ [']']
  | .object [] => ['{', '}']
  | .object ((name, value) :: rest) =>
    '{' :: layout.newLine (level + 1) ++ stringChars layout.asciiOnly name ++ layout.colon ++
      chars layout (level + 1) value ++
      membersChars layout (level + 1) rest ++ layout.newLine level ++ ['}']

/-- The items after the first, each after a comma. -/
def itemsChars (layout : Layout) (level : Nat) : List Json → List Char
  | [] => []
  | item :: rest =>
    ',' :: layout.newLine level ++ chars layout level item ++ itemsChars layout level rest

def membersChars (layout : Layout) (level : Nat) : List (String × Json) → List Char
  | [] => []
  | (name, value) :: rest =>
    ',' :: layout.newLine level ++ stringChars layout.asciiOnly name ++ layout.colon ++
      chars layout level value ++ membersChars layout level rest

end

/-! ## Writing in front of a text

Appending copies an inner value once per level of nesting. Writing in front of what follows it
copies nothing and gives the same characters (`charsBefore_eq`).
-/

mutual

/-- The characters of a value, followed by `rest`. -/
def charsBefore (layout : Layout) (level : Nat) (value : Json) (rest : List Char) : List Char :=
  match value with
  | .array (item :: items) =>
    '[' :: (layout.newLine (level + 1) ++ charsBefore layout (level + 1) item
      (itemsBefore layout (level + 1) items (layout.newLine level ++ ']' :: rest)))
  | .object ((name, value) :: members) =>
    '{' :: (layout.newLine (level + 1) ++ (stringChars layout.asciiOnly name ++ (layout.colon ++
      charsBefore layout (level + 1) value
        (membersBefore layout (level + 1) members (layout.newLine level ++ '}' :: rest)))))
  | value => chars layout level value ++ rest

/-- The items after the first, followed by `rest`. -/
def itemsBefore (layout : Layout) (level : Nat) (items : List Json) (rest : List Char) :
    List Char :=
  match items with
  | [] => rest
  | item :: items =>
    ',' :: (layout.newLine level ++
      charsBefore layout level item (itemsBefore layout level items rest))

/-- The members after the first, followed by `rest`. -/
def membersBefore (layout : Layout) (level : Nat) (members : List (String × Json))
    (rest : List Char) : List Char :=
  match members with
  | [] => rest
  | (name, value) :: members =>
    ',' :: (layout.newLine level ++ (stringChars layout.asciiOnly name ++ (layout.colon ++
      charsBefore layout level value (membersBefore layout level members rest))))

end

mutual

theorem charsBefore_eq (layout : Layout) (level : Nat) (value : Json) (rest : List Char) :
    charsBefore layout level value rest = chars layout level value ++ rest := by
  match value with
  | .array (item :: items) =>
      simp [charsBefore, chars, charsBefore_eq layout (level + 1) item,
        itemsBefore_eq layout (level + 1) items]
  | .object ((name, value) :: members) =>
      simp [charsBefore, chars, charsBefore_eq layout (level + 1) value,
        membersBefore_eq layout (level + 1) members]
  | .null | .bool _ | .number _ | .string _ | .array [] | .object [] => rfl

theorem itemsBefore_eq (layout : Layout) (level : Nat) (items : List Json) (rest : List Char) :
    itemsBefore layout level items rest = itemsChars layout level items ++ rest := by
  match items with
  | [] => rfl
  | item :: items =>
      simp [itemsBefore, itemsChars, charsBefore_eq layout level item,
        itemsBefore_eq layout level items]

theorem membersBefore_eq (layout : Layout) (level : Nat) (members : List (String × Json))
    (rest : List Char) :
    membersBefore layout level members rest = membersChars layout level members ++ rest := by
  match members with
  | [] => rfl
  | (name, value) :: members =>
      simp [membersBefore, membersChars, charsBefore_eq layout level value,
        membersBefore_eq layout level members]

end

/-- A value as a JSON text. -/
def render (layout : Layout) (value : Json) : String :=
  String.ofList (charsBefore layout 0 value [])

theorem render_eq (layout : Layout) (value : Json) :
    render layout value = String.ofList (chars layout 0 value) := by
  rw [render, charsBefore_eq, List.append_nil]

end TrustRoot.Json
