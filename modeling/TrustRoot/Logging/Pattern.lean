import TrustRoot.Text.Alphanumeric
import TrustRoot.Text.Blank
import TrustRoot.Text.Numeral

/-!
# Search patterns

A search pattern is a regular expression. Only whether a text is one is decided here, which is what
a log filter needs to be well formed. Patterns are read without tables of Unicode properties: in
Unicode mode, which is the normal one, there are no classes such as `\d`, no word boundaries and no
letters without regard to case. In octet mode a pattern must not match half a character.

A pattern does not hold a closing brace, since the field of a log filter that it comes from ends
there. So what needs one, as a counted repetition does, is never complete.
-/

namespace TrustRoot.Logging.Pattern

/-- Something read from fewer than `bound` characters, with what follows it. -/
structure Parsed (α : Type) (bound : Nat) where
  value : α
  rest : List Char
  shorter : rest.length < bound

/-! ## Switches -/

/-- The switches that bear on what is a pattern. -/
structure Switches where
  caseless : Bool
  unicode : Bool
  spaced : Bool

def Switches.initial : Switches := ⟨false, true, false⟩

def switchLetters : List Char := ['i', 'm', 's', 'U', 'u', 'R', 'x']

def Switches.set (switches : Switches) (letter : Char) (value : Bool) : Switches :=
  if letter = 'i' then { switches with caseless := value }
  else if letter = 'u' then { switches with unicode := value }
  else if letter = 'x' then { switches with spaced := value }
  else switches

/-- Whether a pattern may hold this character by itself. An octet beyond ASCII is not a
character. -/
def Switches.allowLiteral (switches : Switches) (character : Char) (isOctet : Bool) : Bool :=
  if switches.unicode then !switches.caseless else !isOctet || character.toNat < 128

def Switches.allowMember (switches : Switches) (character : Char) : Bool :=
  if switches.unicode then !switches.caseless else character.toNat < 128

def Switches.allowNamed (switches : Switches) (negated : Bool) : Bool :=
  if switches.unicode then !switches.caseless else !negated

def Switches.allowClass (switches : Switches) (negated : Bool) : Bool :=
  !switches.unicode && !negated

def Switches.allowSet (switches : Switches) (negated : Bool) : Bool :=
  switches.unicode || !negated

def skipSpace (inComment : Bool) : List Char → List Char
  | [] => []
  | character :: rest =>
    if inComment then skipSpace (character != '\n') rest
    else if Text.isBlank character then skipSpace false rest
    else if character = '#' then skipSpace true rest
    else character :: rest

theorem length_skipSpace_le (inComment : Bool) (text : List Char) :
    (skipSpace inComment text).length ≤ text.length := by
  induction text generalizing inComment with
  | nil => exact Nat.le_refl _
  | cons character rest ih =>
      have step (inComment : Bool) : (skipSpace inComment rest).length ≤ rest.length + 1 :=
        Nat.le_succ_of_le (ih inComment)
      unfold skipSpace
      repeat' split
      all_goals first | exact step _ | exact Nat.le_refl _

def Switches.skip (switches : Switches) (text : List Char) : List Char :=
  if switches.spaced then skipSpace false text else text

theorem Switches.length_skip_le (switches : Switches) (text : List Char) :
    (switches.skip text).length ≤ text.length := by
  unfold Switches.skip
  split
  · exact length_skipSpace_le false text
  · exact Nat.le_refl _

/-- The character that follows, for telling whether a hyphen stands between two characters. It is
the first one after blanks, or after one number sign and blanks. -/
def Switches.peek (switches : Switches) (text : List Char) : Option Char :=
  if switches.spaced then
    match text.dropWhile Text.isBlank with
    | '#' :: comment => (comment.find? (!Text.isBlank ·)).or text.head?
    | character :: _ => some character
    | [] => text.head?
  else text.head?

/-! ## Escapes -/

inductive Escape where
  | literal (character : Char) (isOctet : Bool)
  | shorthand (negated : Bool)
  | anchor
  | boundary

/-- The character of a number of exactly `count` hexadecimal digits, where `high` is the number of
those before. -/
def readHex (switches : Switches) (count high bound : Nat) (text : List Char)
    (fits : text.length ≤ bound) : Option (Parsed Char bound) :=
  match text with
  | [] => none
  | digit :: rest =>
    match Numeral.digitValue? 16 digit with
    | none => none
    | some value =>
      let number := 16 * high + value
      if count ≤ 1 then
        if number.isValidChar then
          some ⟨Char.ofNat number, rest, by simp only [List.length_cons] at fits; omega⟩
        else none
      else
        readHex switches (count - 1) number bound (switches.skip rest) (by
          have := switches.length_skip_le rest
          simp only [List.length_cons] at fits
          omega)
termination_by count

def controlLetters : List (Char × Char) :=
  [('a', '\x07'), ('f', '\x0c'), ('t', '\t'), ('n', '\n'), ('r', '\r'), ('v', '\x0b')]

def hexLetters : List (Char × Nat) := [('x', 2), ('u', 4), ('U', 8)]

def readEscape (switches : Switches) (bound : Nat) (text : List Char) (fits : text.length ≤ bound) :
    Option (Parsed Escape bound) :=
  match text with
  | [] => none
  | letter :: rest =>
    have shorter : rest.length < bound := fits
    match hexLetters.lookup letter, controlLetters.lookup letter with
    | some count, _ =>
      (readHex switches count 0 bound (switches.skip rest) (by
        have := switches.length_skip_le rest
        omega)).map fun parsed =>
          ⟨.literal parsed.value (letter = 'x'), parsed.rest, parsed.shorter⟩
    | none, some character => some ⟨.literal character false, rest, shorter⟩
    | none, none =>
      if letter ∈ ['d', 's', 'w'] then some ⟨.shorthand false, rest, shorter⟩
      else if letter ∈ ['D', 'S', 'W'] then some ⟨.shorthand true, rest, shorter⟩
      else if letter ∈ ['A', 'z'] then some ⟨.anchor, rest, shorter⟩
      else if letter ∈ ['b', 'B', '<', '>'] then some ⟨.boundary, rest, shorter⟩
      else if letter.toNat < 128 ∧ !letter.isAlphanum then
        some ⟨.literal letter false, rest, shorter⟩
      else none

/-! ## Nesting -/

/-- How deep the parts of a sequence are nested. A sequence of several parts is a level. -/
structure Nesting where
  count : Nat
  deepest : Nat

def Nesting.none : Nesting := ⟨0, 0⟩

def Nesting.add (nesting : Nesting) (depth : Nat) : Nesting :=
  ⟨nesting.count + 1, max nesting.deepest depth⟩

def Nesting.depth (nesting : Nesting) : Nat :=
  if nesting.count ≤ 1 then nesting.deepest else nesting.deepest + 1

def largestDepth : Nat := 250

/-! ## Sets -/

def classNames : List String :=
  ["alnum", "alpha", "ascii", "blank", "cntrl", "digit", "graph", "lower", "print", "punct",
    "space", "upper", "word", "xdigit"]

def readNamedClass (bound : Nat) (text : List Char) (fits : text.length ≤ bound) :
    Option (Parsed Bool bound) :=
  match text with
  | ':' :: inner =>
    let negated : Bool := inner.head? == some '^'
    let start := if negated then inner.drop 1 else inner
    let name := start.takeWhile (· != ':')
    if classNames.contains (String.ofList name) ∧
        (start.drop name.length).take 2 = [':', ']'] then
      some ⟨negated, start.drop (name.length + 2), by
        have : start.length ≤ inner.length := by
          simp only [start]
          split
          · simp
          · exact Nat.le_refl _
        simp only [List.length_cons] at fits
        simp only [List.length_drop]
        omega⟩
    else none
  | _ => none

/-- A set that is open: operands of its operators so far, and the members since then. -/
structure OpenSet where
  joined : Option Nat
  members : Nesting

def OpenSet.depth (set : OpenSet) : Nat :=
  match set.joined with
  | some depth => max depth set.members.depth + 1
  | none => set.members.depth

def OpenSet.add (set : OpenSet) (depth : Nat) : OpenSet :=
  { set with members := set.members.add depth }

def OpenSet.join (set : OpenSet) : OpenSet := ⟨some set.depth, .none⟩

/-- The members at the start of a set: any number of hyphens, or one closing bracket. -/
def readFirstMembers (switches : Switches) (set : OpenSet) (bound : Nat) (text : List Char)
    (fits : text.length < bound) : Parsed OpenSet bound :=
  match text with
  | [] => ⟨set, [], fits⟩
  | first :: rest =>
    if first = '-' then
      readFirstMembers switches (set.add 0) bound (switches.skip rest) (by
        have := switches.length_skip_le rest
        simp only [List.length_cons] at fits
        omega)
    else if first = ']' ∧ set.members.count = 0 then
      ⟨set.add 0, rest, by simp only [List.length_cons] at fits; omega⟩
    else ⟨set, first :: rest, fits⟩
termination_by text.length
decreasing_by
  have := switches.length_skip_le rest
  simp only [List.length_cons]
  omega

def readSetStart (switches : Switches) (bound : Nat) (text : List Char)
    (fits : text.length < bound) : Option (Parsed OpenSet bound) :=
  let text' := switches.skip text
  have fits' : text'.length < bound := Nat.lt_of_le_of_lt (switches.length_skip_le text) fits
  let negated : Bool := text'.head? == some '^'
  let inner := if negated then switches.skip (text'.drop 1) else text'
  have innerFits : inner.length < bound := by
    simp only [inner]
    split
    · have := switches.length_skip_le (text'.drop 1)
      simp only [List.length_drop] at this
      omega
    · exact fits'
  let start := readFirstMembers switches ⟨none, .none⟩ bound inner innerFits
  if switches.allowSet negated ∧
      (start.value.members.count = 0 ∨ switches.allowMember '-') then some start
  else none

/-- A member of a set or an end of a range: a character, or a class. -/
def readMember (switches : Switches) (bound : Nat) (text : List Char)
    (fits : text.length ≤ bound) : Option (Parsed (Option Char) bound) :=
  match text with
  | [] => none
  | '\\' :: rest =>
    match readEscape switches bound rest (Nat.le_of_succ_le fits) with
    | some ⟨.literal character isOctet, rest, shorter⟩ =>
      if switches.allowMember character ∧ switches.allowLiteral character isOctet then
        some ⟨some character, rest, shorter⟩
      else none
    | some ⟨.shorthand negated, rest, shorter⟩ =>
      if switches.allowClass negated then some ⟨none, rest, shorter⟩ else none
    | _ => none
  | character :: rest =>
    if switches.allowMember character then some ⟨some character, rest, fits⟩ else none

/-- A member of a set, or a range between two characters of which the second is not the smaller. -/
def readRange (switches : Switches) (bound : Nat) (text : List Char)
    (fits : text.length ≤ bound) : Option (Parsed Unit bound) :=
  match readMember switches bound text fits with
  | none => none
  | some ⟨first, rest, shorter⟩ =>
    have skipped := switches.length_skip_le rest
    match same : switches.skip rest with
    | '-' :: inner =>
      if switches.peek inner = some ']' ∨ switches.peek inner = some '-' then
        some ⟨(), '-' :: inner, by rw [same] at skipped; omega⟩
      else
        have innerFits : (switches.skip inner).length ≤ bound := by
          have := switches.length_skip_le inner
          rw [same] at skipped
          simp only [List.length_cons] at skipped
          omega
        match first, readMember switches bound (switches.skip inner) innerFits with
        | some low, some ⟨some high, rest, shorter⟩ =>
          if low ≤ high then some ⟨(), rest, shorter⟩ else none
        | _, _ => none
    | [] => none
    | next :: inner => some ⟨(), next :: inner, by rw [same] at skipped; omega⟩

/-- The set after its first members, within the sets of `outer`; the depth of the outermost one. -/
def readSet (switches : Switches) (set : OpenSet) (outer : List OpenSet) (bound : Nat)
    (text : List Char) (fits : text.length ≤ bound) : Option (Parsed Nat bound) :=
  have skipped := switches.length_skip_le text
  match same : switches.skip text with
  | [] => none
  | '[' :: rest =>
    have shorter : rest.length < text.length := by rw [same] at skipped; exact skipped
    match readNamedClass rest.length rest (Nat.le_refl _) with
    | some ⟨negated, rest', shorter'⟩ =>
      if switches.allowNamed negated then
        readSet switches (set.add 0) outer bound rest' (by omega)
      else none
    | none =>
      match readSetStart switches text.length rest shorter with
      | some ⟨inner, rest', shorter'⟩ =>
        readSet switches inner (set :: outer) bound rest' (by omega)
      | none => none
  | ']' :: rest =>
    have shorter : rest.length < text.length := by rw [same] at skipped; exact skipped
    match outer with
    | [] => some ⟨set.depth + 1, rest, by omega⟩
    | parent :: outer =>
      readSet switches (parent.add (set.depth + 1)) outer bound rest (by omega)
  | first :: second :: rest =>
    have shorter : rest.length + 1 < text.length := by rw [same] at skipped; exact skipped
    if first = second ∧ first ∈ ['&', '-', '~'] then
      readSet switches set.join outer bound rest (by omega)
    else
      match readRange switches text.length (first :: second :: rest) (by
        simp only [List.length_cons]; omega) with
      | some ⟨(), rest', shorter'⟩ =>
        readSet switches (set.add 0) outer bound rest' (by omega)
      | none => none
  | [_] => none
termination_by text.length
decreasing_by all_goals omega

/-! ## Groups -/

structure Part where
  depth : Nat
  isRepeatable : Bool

structure OpenGroup where
  outside : Switches
  alternatives : Nesting
  parts : Nesting
  lastPart : Option Part

namespace OpenGroup

def start (outside : Switches) : OpenGroup := ⟨outside, .none, .none, none⟩

def allParts (group : OpenGroup) : Nesting :=
  match group.lastPart with
  | some part => group.parts.add part.depth
  | none => group.parts

def add (group : OpenGroup) (depth : Nat) (isRepeatable : Bool) : OpenGroup :=
  { group with parts := group.allParts, lastPart := some ⟨depth, isRepeatable⟩ }

def repeatLast? (group : OpenGroup) : Option OpenGroup :=
  match group.lastPart with
  | some ⟨depth, true⟩ => some { group with lastPart := some ⟨depth + 1, true⟩ }
  | _ => none

def allAlternatives (group : OpenGroup) : Nesting := group.alternatives.add group.allParts.depth

def alternate (group : OpenGroup) : OpenGroup :=
  { group with alternatives := group.allAlternatives, parts := .none, lastPart := none }

def depth (group : OpenGroup) : Nat := group.allAlternatives.depth

end OpenGroup

def isNameCharacter (isFirst : Bool) (character : Char) : Bool :=
  character = '_' ||
    if isFirst then Text.isLetter character
    else character ∈ ['.', '[', ']'] || Text.isAlphanumeric character

/-- The name of a group up to its closing angle bracket. The characters so far are held latest
first. -/
def readName (name : List Char) (bound : Nat) :
    (text : List Char) → text.length ≤ bound → Option (Parsed (List Char) bound)
  | [], _ => none
  | character :: rest, fits =>
    if character = '>' then (if name.isEmpty then none else some ⟨name.reverse, rest, fits⟩)
    else if isNameCharacter name.isEmpty character then
      readName (character :: name) bound rest (Nat.le_of_succ_le fits)
    else none

/-- The switches after a question mark, and whether a group starts with them. Each sign is there at
most once, and a hyphen is followed by a letter. -/
def readSwitches (switches : Switches) (signs : List Char) (bound : Nat) :
    (text : List Char) → text.length ≤ bound → Option (Parsed (Switches × Bool) bound)
  | [], _ => none
  | sign :: rest, fits =>
    if sign = ':' then
      if signs.head? = some '-' then none else some ⟨(switches, true), rest, fits⟩
    else if sign = ')' then
      if signs.isEmpty ∨ signs.head? = some '-' then none
      else some ⟨(switches, false), rest, fits⟩
    else if sign ∈ signs ∨ !(sign = '-' || switchLetters.contains sign) then none
    else
      readSwitches (if sign = '-' then switches else switches.set sign (!signs.contains '-'))
        (sign :: signs) bound rest (Nat.le_of_succ_le fits)

/-- What starts with an opening parenthesis. -/
inductive Opening where
  | group (switches : Switches) (name : Option (List Char))
  | switches (switches : Switches)

def readOpening (switches : Switches) (bound : Nat) (text : List Char)
    (fits : text.length < bound) : Option (Parsed Opening bound) :=
  have skipped := switches.length_skip_le text
  match same : switches.skip text with
  | '?' :: 'P' :: '<' :: rest =>
    have shorter : rest.length + 2 < text.length := by rw [same] at skipped; exact skipped
    (readName [] bound rest (by omega)).map fun parsed =>
      ⟨.group switches (some parsed.value), parsed.rest, parsed.shorter⟩
  | '?' :: '<' :: rest =>
    have shorter : rest.length + 1 < text.length := by rw [same] at skipped; exact skipped
    (readName [] bound rest (by omega)).map fun parsed =>
      ⟨.group switches (some parsed.value), parsed.rest, parsed.shorter⟩
  | '?' :: rest =>
    have shorter : rest.length < text.length := by rw [same] at skipped; exact skipped
    (readSwitches switches [] bound rest (by omega)).map fun parsed =>
      ⟨if parsed.value.2 then .group parsed.value.1 none else .switches parsed.value.1,
        parsed.rest, parsed.shorter⟩
  | rest => some ⟨.group switches none, rest, by rw [same] at skipped; omega⟩

/-! ## Patterns -/

structure Reading where
  switches : Switches
  group : OpenGroup
  outer : List OpenGroup
  names : List (List Char)

def Reading.start : Reading := ⟨.initial, .start .initial, [], []⟩

def Reading.add (reading : Reading) (depth : Nat) (isRepeatable : Bool) : Reading :=
  { reading with group := reading.group.add depth isRepeatable }

/-- The reading after an opening parenthesis and what belongs to it. A name is given to one
group. -/
def Reading.enter? (reading : Reading) : Opening → Option Reading
  | .switches switches => some { reading.add 0 false with switches := switches }
  | .group switches name =>
    if name.any reading.names.contains then none
    else
      some ⟨switches, .start reading.switches, reading.group :: reading.outer,
        name.toList ++ reading.names⟩

def Reading.leave? (reading : Reading) : Option Reading :=
  match reading.outer with
  | [] => none
  | parent :: outer =>
    some ⟨reading.group.outside, parent.add (reading.group.depth + 1) true, outer, reading.names⟩

def Reading.escape? (reading : Reading) (escape : Escape) : Option Reading :=
  let isAllowed :=
    match escape with
    | .literal character isOctet => reading.switches.allowLiteral character isOctet
    | .shorthand negated => reading.switches.allowClass negated
    | .anchor => true
    | .boundary => !reading.switches.unicode
  if isAllowed then some (reading.add 0 true) else none

def Reading.character? (reading : Reading) (character : Char) : Option Reading :=
  if character = ')' then reading.leave?
  else if character = '|' then some { reading with group := reading.group.alternate }
  else if character ∈ ['?', '*', '+'] then
    reading.group.repeatLast?.map fun group => { reading with group := group }
  else if character = '\x7b' then none
  else if character = '.' then
    if reading.switches.unicode then some (reading.add 0 true) else none
  else if character = '^' ∨ character = '$' then some (reading.add 0 true)
  else if reading.switches.allowLiteral character false then some (reading.add 0 true)
  else none

/-- The next step of a reading, which takes at least one character. -/
def Reading.step (reading : Reading) (character : Char) (bound : Nat) (rest : List Char)
    (fits : rest.length < bound) : Option (Parsed Reading bound) :=
  if character = '(' then
    (readOpening reading.switches bound rest fits).bind fun parsed =>
      (reading.enter? parsed.value).map fun next => ⟨next, parsed.rest, parsed.shorter⟩
  else if character = '[' then
    (readSetStart reading.switches bound rest fits).bind fun start =>
      (readSet reading.switches start.value [] bound start.rest
        (Nat.le_of_lt start.shorter)).map fun parsed =>
          ⟨reading.add parsed.value true, parsed.rest, parsed.shorter⟩
  else if character = '\\' then
    (readEscape reading.switches bound rest (Nat.le_of_lt fits)).bind fun parsed =>
      (reading.escape? parsed.value).map fun next => ⟨next, parsed.rest, parsed.shorter⟩
  else
    (reading.character? character).map fun next =>
      if character ∈ ['?', '*', '+'] ∧ rest.head? = some '?' then
        ⟨next, rest.drop 1, by simp only [List.length_drop]; omega⟩
      else ⟨next, rest, fits⟩

def Reading.run (reading : Reading) (text : List Char) : Option Reading :=
  have _skipped := reading.switches.length_skip_le text
  match _next : reading.switches.skip text with
  | [] => some reading
  | character :: rest =>
    match reading.step character (rest.length + 1) rest (Nat.lt_succ_self _) with
    | some ⟨reading, rest', _shorter⟩ => reading.run rest'
    | none => none
termination_by text.length
decreasing_by
  rw [_next] at _skipped
  exact Nat.lt_of_lt_of_le _shorter _skipped

end TrustRoot.Logging.Pattern

namespace TrustRoot.Logging

/-- Whether a text is a search pattern: all groups are closed, and it is not nested too deep. -/
def isPattern (text : String) : Bool :=
  match Pattern.Reading.start.run text.toList with
  | some reading => reading.outer.isEmpty && reading.group.depth ≤ Pattern.largestDepth
  | none => false

end TrustRoot.Logging
