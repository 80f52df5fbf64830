import TrustRoot.Text.Unprintable

/-!
# Quoted text

Texts and characters in diagnostics stand in quotes, with the quote and the backslash escaped,
common controls by letter and every other unprintable character by its code point.
-/

namespace TrustRoot.Text

/-- A character inside quotes, where `delimiter` is the quote in use. -/
def escapeQuoted (delimiter character : Char) : List Char :=
  if character = delimiter ∨ character = '\\' then ['\\', character]
  else if character = '\x00' then ['\\', '0']
  else if character = '\t' then ['\\', 't']
  else if character = '\n' then ['\\', 'n']
  else if character = '\r' then ['\\', 'r']
  else if isUnprintable character then
    '\\' :: 'u' :: '{' :: Nat.toDigits 16 character.toNat ++ ['}']
  else [character]

def quote (text : String) : String :=
  String.ofList ('"' :: text.toList.flatMap (escapeQuoted '"') ++ ['"'])

def quoteCharacter (character : Char) : String :=
  String.ofList ('\'' :: escapeQuoted '\'' character ++ ['\''])

def quoteSet (texts : List String) : String :=
  "\x7b" ++ String.intercalate ", " (texts.map quote) ++ "\x7d"

end TrustRoot.Text
