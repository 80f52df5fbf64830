import TrustRoot.Proofs.Json.Strings

/-!
# Reading values

Whatever spells a value is read as that value (`parse_of_spells`).  One level of nesting is
treated at a time: if the values inside are read however they are spelled, so are rows of them,
and hence the values of the next level.  Within a row the induction is on the rest of the row, and
the elements read before are carried along.
-/

namespace TrustRoot.Json

/-- A reader reads values however they are spelled. -/
def ReadsAll (reader : ValueReader) (spells : Bytes → Json → Prop) : Prop :=
  ∀ {text : Bytes} {value : Json}, spells text value → ∀ {gap rest : Bytes}, Blank gap →
    Ends rest → Reads (reader (gap ++ (text ++ rest))) value rest

/-- Octets that neither a blank nor the end of an array begins. -/
def Begins (text : Bytes) : Prop :=
  ∃ first others, text = first :: others ∧ isBlank first = false ∧ first ≠ 0x5D

theorem nextOctet?_of_blank {bound : Nat} {gap : Bytes} {octet : UInt8} (blank : Blank gap)
    (visible : isBlank octet = false) (rest : Bytes)
    (fits : (gap ++ octet :: rest).length ≤ bound) :
    ∃ shorter, nextOctet? bound (gap ++ octet :: rest) fits = some ⟨octet, rest, shorter⟩ := by
  induction gap with
  | nil =>
      refine ⟨fits, ?_⟩
      simp only [List.nil_append]
      rw [nextOctet?, if_neg (by rw [visible]; decide)]
  | cons other gap ih =>
      have isBlank := blank other List.mem_cons_self
      obtain ⟨shorter, found⟩ :=
        ih (fun octet member => blank octet (List.mem_cons_of_mem _ member))
          (Nat.le_of_succ_le fits)
      refine ⟨shorter, ?_⟩
      simp only [List.cons_append]
      rw [nextOctet?, if_pos isBlank]
      exact found

theorem nextOctet?_eq_none {bound : Nat} {gap : Bytes} (blank : Blank gap)
    (fits : gap.length ≤ bound) : nextOctet? bound gap fits = none := by
  induction gap with
  | nil => rfl
  | cons other gap ih =>
      rw [nextOctet?, if_pos (blank other List.mem_cons_self)]
      exact ih (fun octet member => blank octet (List.mem_cons_of_mem _ member)) _

/-! ## Scalars -/

theorem numeral_start {first : UInt8} (starts : first = 0x2D ∨ isDigit first = true) :
    first ≠ 0x6E ∧ first ≠ 0x74 ∧ first ≠ 0x66 ∧ first ≠ quoteOctet ∧ first ≠ 0x5D ∧
      first ≠ 0x5B ∧ first ≠ 0x7B ∧ isBlank first = false := by
  rcases starts with rfl | decimal
  · decide
  · have blank : isBlank first = false := by
      cases blank : isBlank first with
      | false => rfl
      | true =>
          have other := (not_numeral_of_isBlank blank).1
          rw [decimal] at other
          cases other
    refine ⟨?_, ?_, ?_, ?_, ?_, ?_, ?_, blank⟩ <;>
      · rintro rfl
        exact absurd decimal (by decide)

theorem readConstant_append (expected : Bytes) (value : Json) (rest : Bytes) :
    Reads (readConstant expected value (expected ++ rest)) value rest := by
  have literal : ∃ fits, readLiteral expected (expected ++ rest) = .ok ⟨rest, fits⟩ := by
    induction expected with
    | nil => exact ⟨Nat.le_refl _, by simp [readLiteral]⟩
    | cons octet expected ih =>
        obtain ⟨fits, result⟩ := ih
        refine ⟨by simp only [List.length_append, List.length_cons]; omega, ?_⟩
        simp only [List.cons_append]
        rw [readLiteral, if_pos rfl, result]
        rfl
  obtain ⟨fits, result⟩ := literal
  refine ⟨Nat.lt_succ_of_le fits, ?_⟩
  rw [readConstant]
  simp only [result]

theorem SpellsScalar.begins {text : Bytes} {value : Json} (spelled : SpellsScalar text value) :
    ∃ first others, text = first :: others ∧ isBlank first = false ∧ first ≠ 0x5D ∧
      ¬ (first = 0x5B ∨ first = 0x7B) := by
  cases spelled with
  | null | boolTrue | boolFalse | string => exact ⟨_, _, rfl, by decide⟩
  | number spelled =>
      obtain ⟨first, others, split, starts⟩ := spelled.starts
      obtain ⟨-, -, -, -, notClose, notArray, notObject, visible⟩ := numeral_start starts
      exact ⟨first, others, split, visible, notClose, not_or.mpr ⟨notArray, notObject⟩⟩

theorem readScalar_of_spells {first : UInt8} {others rest : Bytes} {value : Json}
    (spelled : SpellsScalar (first :: others) value) (ends : Ends rest) :
    Reads (readScalar first (others ++ rest)) value rest := by
  -- A numeral is not a given list of octets, so the cases need a variable for the text.
  generalize whole : first :: others = text at spelled
  cases spelled with
  | null =>
      cases whole
      obtain ⟨shorter, result⟩ := readConstant_append [0x75, 0x6C, 0x6C] .null rest
      exact ⟨shorter, result⟩
  | boolTrue =>
      cases whole
      obtain ⟨shorter, result⟩ := readConstant_append [0x72, 0x75, 0x65] (.bool true) rest
      exact ⟨shorter, result⟩
  | boolFalse =>
      cases whole
      obtain ⟨shorter, result⟩ := readConstant_append [0x61, 0x6C, 0x73, 0x65] (.bool false) rest
      exact ⟨shorter, result⟩
  | @string inner _ spelled =>
      cases whole
      obtain ⟨shorter, result⟩ := readString_of_spells spelled rest
      have joined : inner ++ [quoteOctet] ++ rest = inner ++ quoteOctet :: rest := by simp
      rw [joined]
      refine ⟨by simp only [List.length_cons]; omega, ?_⟩
      rw [readScalar, if_neg (by decide), if_neg (by decide), if_neg (by decide), if_pos rfl]
      simp only [result]
  | number spelled =>
      subst whole
      obtain ⟨_, _, split, starts⟩ := spelled.starts
      cases split
      obtain ⟨notNull, notTrue, notFalse, notQuote, -⟩ := numeral_start starts
      obtain ⟨shorter, result⟩ := spelled.reads rest ends
      refine ⟨shorter, ?_⟩
      simp only [List.cons_append] at result
      rw [readScalar, if_neg notNull, if_neg notTrue, if_neg notFalse, if_neg notQuote,
        if_pos starts]
      simp only [result]

/-! ## Rows -/

/-- A reader makes of every text of an element the value of the element, or refuses the text if
there is none. -/
def YieldsAll {α : Type} (reader : ValueReader) (element : Bytes → α → Prop)
    (outcome : α → Option Json) : Prop :=
  ∀ text item, element text item → ∀ gap rest, Blank gap → Ends rest →
    Yields (reader (gap ++ (text ++ rest))) (outcome item) rest

theorem ReadsAll.yieldsAll {reader : ValueReader} {spells : Bytes → Json → Prop}
    (reads : ReadsAll reader spells) : YieldsAll reader spells some :=
  fun _ _ spelled _ _ blank ends => reads spelled blank ends

theorem mapM_some {α : Type} (items : List α) : items.mapM some = some items := by
  induction items with
  | nil => rfl
  | cons item items ih => simp [ih]

/-- The elements of a row have values if each of them does. -/
theorem bind_mapM_cons {α β : Type} (step : α → Option β) (item : α) (items : List α)
    (read : List β) :
    ((step item).bind fun value => (items.mapM step).map ((value :: read).reverse ++ ·)) =
      ((item :: items).mapM step).map (read.reverse ++ ·) := by
  rw [List.mapM_cons]
  cases step item with
  | none => rfl
  | some value => cases items.mapM step <;> simp

section Rows

variable {α : Type} {reader : ValueReader} {element : Bytes → α → Prop}
  {outcome : α → Option Json}

theorem bracket_ends :
    isDigit 0x5D = false ∧ (0x5D : UInt8) ≠ 0x2E ∧ isExponentMark 0x5D = false := by
  decide

theorem brace_ends :
    isDigit 0x7D = false ∧ (0x7D : UInt8) ≠ 0x2E ∧ isExponentMark 0x7D = false := by
  decide

/-- An element is read from its first octet on, which is where the rows look at it. -/
theorem YieldsAll.yields_cons (yields : YieldsAll reader element outcome) {first : UInt8}
    {others : Bytes} {item : α} (written : element (first :: others) item) {rest : Bytes}
    (ends : Ends rest) : Yields (reader (first :: (others ++ rest))) (outcome item) rest :=
  yields _ _ written _ _ blank_nil ends

theorem readItems_close (reader : ValueReader) (bound : Nat) {gap : Bytes} (blank : Blank gap)
    (read : List Json) (rest : Bytes) (fits : (gap ++ 0x5D :: rest).length ≤ bound) :
    Reads (readItems reader bound read (gap ++ 0x5D :: rest) fits) read.reverse rest := by
  have visible : isBlank 0x5D = false := by decide
  obtain ⟨shorter, found⟩ := nextOctet?_of_blank blank visible rest (Nat.le_refl _)
  refine ⟨Nat.lt_of_lt_of_le shorter fits, ?_⟩
  rw [readItems]
  simp only [found, if_true]

/-- The first item is read, and reading goes on with its value, or it is refused. -/
theorem yields_readItems_first {bound : Nat} {before text others rest after : Bytes}
    {octet : UInt8} {item : Option Json} {later : Json → Option (List Json)}
    (blank : Blank before) (visible : isBlank octet = false) (notClose : octet ≠ 0x5D)
    (itemYields : Yields (reader (octet :: others)) item rest)
    (whole : text = before ++ octet :: others) (fits : text.length ≤ bound)
    (fits' : rest.length ≤ bound)
    (goesOn : ∀ value, Yields (readItems reader bound [value] rest fits') (later value) after) :
    Yields (readItems reader bound [] text fits) (item.bind later) after := by
  subst whole
  obtain ⟨shorter, found⟩ := nextOctet?_of_blank blank visible others (Nat.le_refl _)
  cases item with
  | none =>
      obtain ⟨fault, refused⟩ := itemYields
      refine ⟨fault, ?_⟩
      rw [readItems]
      simp only [found, notClose, if_false, List.isEmpty_nil, if_true, refused]
  | some value =>
      obtain ⟨itemShorter, itemRead⟩ := itemYields
      have step : readItems reader bound [] (before ++ octet :: others) fits =
          readItems reader bound [value] rest fits' := by
        rw [readItems]
        simp only [found, notClose, if_false, List.isEmpty_nil, if_true, itemRead]
      rw [step]
      exact goesOn value

theorem yields_readItems_next {bound : Nat} {gap before text others rest after : Bytes}
    {octet : UInt8} {item : Option Json} {read : List Json} {later : Json → Option (List Json)}
    (notFirst : read.isEmpty = false) (blank : Blank gap) (blankBefore : Blank before)
    (visible : isBlank octet = false) (notClose : octet ≠ 0x5D)
    (itemYields : Yields (reader (octet :: others)) item rest)
    (whole : text = gap ++ 0x2C :: (before ++ octet :: others)) (fits : text.length ≤ bound)
    (fits' : rest.length ≤ bound)
    (goesOn : ∀ value,
      Yields (readItems reader bound (value :: read) rest fits') (later value) after) :
    Yields (readItems reader bound read text fits) (item.bind later) after := by
  subst whole
  have comma : isBlank 0x2C = false ∧ (0x2C : UInt8) ≠ 0x5D := by decide
  obtain ⟨shorter, found⟩ :=
    nextOctet?_of_blank blank comma.1 (before ++ octet :: others) (Nat.le_refl _)
  obtain ⟨shorter', found'⟩ := nextOctet?_of_blank blankBefore visible others (Nat.le_refl _)
  cases item with
  | none =>
      obtain ⟨fault, refused⟩ := itemYields
      refine ⟨fault, ?_⟩
      rw [readItems]
      simp only [found, comma.2, if_false, notFirst, Bool.false_eq_true, if_true, found', notClose,
        refused]
  | some value =>
      obtain ⟨itemShorter, itemRead⟩ := itemYields
      have step : readItems reader bound read (gap ++ 0x2C :: (before ++ octet :: others)) fits =
          readItems reader bound (value :: read) rest fits' := by
        rw [readItems]
        simp only [found, comma.2, if_false, notFirst, Bool.false_eq_true, if_true, found',
          notClose, itemRead]
      rw [step]
      exact goesOn value

/-- The items after the first are read in order behind those read before, up to one without a
value. -/
theorem yields_readItems_more (yields : YieldsAll reader element outcome)
    (begins : ∀ text item, element text item → Begins text) {bound : Nat} {text : Bytes}
    {items : List α} (more : SpellsMore 0x5D element text items) (read : List Json)
    (notFirst : read.isEmpty = false) (rest : Bytes) (fits : (text ++ rest).length ≤ bound) :
    Yields (readItems reader bound read (text ++ rest) fits)
      ((items.mapM outcome).map (read.reverse ++ ·)) rest := by
  induction more generalizing read with
  | @close gap blank =>
      have closed := readItems_close reader bound blank read rest (by simpa using fits)
      simpa [Yields] using closed
  | @next gap before text more item items blank blankBefore first others ih =>
      obtain ⟨octet, tail, rfl, visible, notClose⟩ := begins _ _ first
      have itemYields := yields.yields_cons first (others.ends bracket_ends rest)
      have moreFits : (more ++ rest).length ≤ bound := by
        simp only [List.length_append, List.length_cons] at fits ⊢
        omega
      rw [← bind_mapM_cons]
      exact yields_readItems_next notFirst blank blankBefore visible notClose itemYields (by simp)
        fits moreFits fun value => ih (value :: read) rfl moreFits

theorem yields_readItems (yields : YieldsAll reader element outcome)
    (begins : ∀ text item, element text item → Begins text) {bound : Nat} {text : Bytes}
    {items : List α} (row : SpellsRow 0x5D element text items) (rest : Bytes)
    (fits : (text ++ rest).length ≤ bound) :
    Yields (readItems reader bound [] (text ++ rest) fits) (items.mapM outcome) rest := by
  cases row with
  | @empty gap blank =>
      have closed := readItems_close reader bound blank [] rest (by simpa using fits)
      simpa [Yields] using closed
  | @some before text more item items blankBefore first others =>
      obtain ⟨octet, tail, rfl, visible, notClose⟩ := begins _ _ first
      have itemYields := yields.yields_cons first (others.ends bracket_ends rest)
      have moreFits : (more ++ rest).length ≤ bound := by
        simp only [List.length_append, List.length_cons] at fits ⊢
        omega
      have row := yields_readItems_first blankBefore visible notClose itemYields (by simp) fits
        moreFits fun value => yields_readItems_more yields begins others [value] rfl rest moreFits
      rw [bind_mapM_cons] at row
      simpa using row

/-! ## Members -/

/-- The value of a member under its name. -/
def memberOutcome (outcome : α → Option Json) (member : String × α) : Option (String × Json) :=
  (outcome member.2).map (member.1, ·)

theorem yields_readMember (yields : YieldsAll reader element outcome) {text rest : Bytes}
    {member : String × α} (written : SpellsMember element (quoteOctet :: text) member)
    (ends : Ends rest) :
    Yields (readMember reader (text ++ rest)) (memberOutcome outcome member) rest := by
  generalize whole : quoteOctet :: text = quoted at written
  cases written with
  | @mk inner gap before value name item spelled blank blankBefore writtenValue =>
      cases whole
      have joined : inner ++ quoteOctet :: (gap ++ 0x3A :: (before ++ value)) ++ rest =
          inner ++ quoteOctet :: (gap ++ 0x3A :: (before ++ (value ++ rest))) := by simp
      rw [joined]
      have colon : isBlank 0x3A = false := by decide
      obtain ⟨nameShorter, nameRead⟩ :=
        readString_of_spells spelled (gap ++ 0x3A :: (before ++ (value ++ rest)))
      obtain ⟨shorter, found⟩ :=
        nextOctet?_of_blank blank colon (before ++ (value ++ rest)) (Nat.le_refl _)
      have valueYields := yields _ _ writtenValue _ _ blankBefore ends
      rw [memberOutcome]
      cases stands : outcome item with
      | none =>
          rw [stands] at valueYields
          obtain ⟨fault, refused⟩ := valueYields
          refine ⟨fault, ?_⟩
          rw [readMember]
          simp only [nameRead, found, if_true, refused]
      | some held =>
          rw [stands] at valueYields
          obtain ⟨valueShorter, valueRead⟩ := valueYields
          refine ⟨by omega, ?_⟩
          rw [readMember]
          simp only [nameRead, found, if_true, valueRead]

theorem SpellsMember.begins {text : Bytes} {member : String × α}
    (spelled : SpellsMember element text member) : ∃ others, text = quoteOctet :: others := by
  cases spelled
  exact ⟨_, rfl⟩

theorem readMembers_close (reader : ValueReader) (bound : Nat) {gap : Bytes} (blank : Blank gap)
    (read : List (String × Json)) (rest : Bytes) (fits : (gap ++ 0x7D :: rest).length ≤ bound) :
    Reads (readMembers reader bound read (gap ++ 0x7D :: rest) fits) read.reverse rest := by
  have visible : isBlank 0x7D = false := by decide
  obtain ⟨shorter, found⟩ := nextOctet?_of_blank blank visible rest (Nat.le_refl _)
  refine ⟨Nat.lt_of_lt_of_le shorter fits, ?_⟩
  rw [readMembers]
  simp only [found, if_true]

/-- The first member is read, and reading goes on with it, or it is refused. -/
theorem yields_readMembers_first {bound : Nat} {before text others rest after : Bytes}
    {member : Option (String × Json)} {later : String × Json → Option (List (String × Json))}
    (blank : Blank before) (memberYields : Yields (readMember reader others) member rest)
    (whole : text = before ++ quoteOctet :: others) (fits : text.length ≤ bound)
    (fits' : rest.length ≤ bound)
    (goesOn : ∀ value,
      Yields (readMembers reader bound [value] rest fits') (later value) after) :
    Yields (readMembers reader bound [] text fits) (member.bind later) after := by
  subst whole
  have quote : isBlank quoteOctet = false ∧ quoteOctet ≠ 0x7D := by decide
  obtain ⟨shorter, found⟩ := nextOctet?_of_blank blank quote.1 others (Nat.le_refl _)
  cases member with
  | none =>
      obtain ⟨fault, refused⟩ := memberYields
      refine ⟨fault, ?_⟩
      rw [readMembers]
      simp only [found, quote.2, if_false, List.isEmpty_nil, if_true, refused]
  | some value =>
      obtain ⟨memberShorter, memberRead⟩ := memberYields
      have step : readMembers reader bound [] (before ++ quoteOctet :: others) fits =
          readMembers reader bound [value] rest fits' := by
        rw [readMembers]
        simp only [found, quote.2, if_false, List.isEmpty_nil, if_true, memberRead]
      rw [step]
      exact goesOn value

theorem yields_readMembers_next {bound : Nat} {gap before text others rest after : Bytes}
    {member : Option (String × Json)} {read : List (String × Json)}
    {later : String × Json → Option (List (String × Json))} (notFirst : read.isEmpty = false)
    (blank : Blank gap) (blankBefore : Blank before)
    (memberYields : Yields (readMember reader others) member rest)
    (whole : text = gap ++ 0x2C :: (before ++ quoteOctet :: others))
    (fits : text.length ≤ bound) (fits' : rest.length ≤ bound)
    (goesOn : ∀ value,
      Yields (readMembers reader bound (value :: read) rest fits') (later value) after) :
    Yields (readMembers reader bound read text fits) (member.bind later) after := by
  subst whole
  have comma : isBlank 0x2C = false ∧ (0x2C : UInt8) ≠ 0x7D := by decide
  have quote : isBlank quoteOctet = false := by decide
  obtain ⟨shorter, found⟩ :=
    nextOctet?_of_blank blank comma.1 (before ++ quoteOctet :: others) (Nat.le_refl _)
  obtain ⟨shorter', found'⟩ := nextOctet?_of_blank blankBefore quote others (Nat.le_refl _)
  cases member with
  | none =>
      obtain ⟨fault, refused⟩ := memberYields
      refine ⟨fault, ?_⟩
      rw [readMembers]
      simp only [found, comma.2, if_false, notFirst, Bool.false_eq_true, if_true, found', refused]
  | some value =>
      obtain ⟨memberShorter, memberRead⟩ := memberYields
      have step : readMembers reader bound read
          (gap ++ 0x2C :: (before ++ quoteOctet :: others)) fits =
            readMembers reader bound (value :: read) rest fits' := by
        rw [readMembers]
        simp only [found, comma.2, if_false, notFirst, Bool.false_eq_true, if_true, found',
          memberRead]
      rw [step]
      exact goesOn value

/-- The members after the first are read in order behind those read before, up to one without a
value. -/
theorem yields_readMembers_more (yields : YieldsAll reader element outcome) {bound : Nat}
    {text : Bytes} {members : List (String × α)}
    (more : SpellsMore 0x7D (SpellsMember element) text members) (read : List (String × Json))
    (notFirst : read.isEmpty = false) (rest : Bytes) (fits : (text ++ rest).length ≤ bound) :
    Yields (readMembers reader bound read (text ++ rest) fits)
      ((members.mapM (memberOutcome outcome)).map (read.reverse ++ ·)) rest := by
  induction more generalizing read with
  | @close gap blank =>
      have closed := readMembers_close reader bound blank read rest (by simpa using fits)
      simpa [Yields] using closed
  | @next gap before text more member members blank blankBefore first others ih =>
      obtain ⟨tail, rfl⟩ := first.begins
      have memberYields := yields_readMember yields first (others.ends brace_ends rest)
      have moreFits : (more ++ rest).length ≤ bound := by
        simp only [List.length_append, List.length_cons] at fits ⊢
        omega
      rw [← bind_mapM_cons]
      exact yields_readMembers_next notFirst blank blankBefore memberYields (by simp) fits moreFits
        fun value => ih (value :: read) rfl moreFits

theorem yields_readMembers (yields : YieldsAll reader element outcome) {bound : Nat}
    {text : Bytes} {members : List (String × α)}
    (row : SpellsRow 0x7D (SpellsMember element) text members) (rest : Bytes)
    (fits : (text ++ rest).length ≤ bound) :
    Yields (readMembers reader bound [] (text ++ rest) fits)
      (members.mapM (memberOutcome outcome)) rest := by
  cases row with
  | @empty gap blank =>
      have closed := readMembers_close reader bound blank [] rest (by simpa using fits)
      simpa [Yields] using closed
  | @some before text more member members blankBefore first others =>
      obtain ⟨tail, rfl⟩ := first.begins
      have memberYields := yields_readMember yields first (others.ends brace_ends rest)
      have moreFits : (more ++ rest).length ≤ bound := by
        simp only [List.length_append, List.length_cons] at fits ⊢
        omega
      have row := yields_readMembers_first blankBefore memberYields (by simp) fits moreFits
        fun value => yields_readMembers_more yields others [value] rfl rest moreFits
      rw [bind_mapM_cons] at row
      simpa using row

end Rows

/-! ## Values -/

theorem Spells.begins {depth : Nat} {text : Bytes} {value : Json}
    (spelled : Spells depth text value) : Begins text := by
  have ofScalar {text : Bytes} {value : Json} (scalar : SpellsScalar text value) :
      Begins text := by
    obtain ⟨first, others, split, visible, notClose, -⟩ := scalar.begins
    exact ⟨first, others, split, visible, notClose⟩
  cases depth with
  | zero => exact ofScalar spelled
  | succ depth =>
      cases spelled with
      | scalar scalar => exact ofScalar scalar
      | array row => exact ⟨_, _, rfl, by decide⟩
      | object row => exact ⟨_, _, rfl, by decide⟩

theorem readValue_of_scalar (depth : Nat) : ReadsAll (readValue depth) SpellsScalar := by
  intro text value scalar gap rest blank ends
  obtain ⟨first, others, rfl, visible, -, notCompound⟩ := scalar.begins
  obtain ⟨shorter, found⟩ :=
    nextOctet?_of_blank blank visible (others ++ rest) (Nat.le_refl _)
  obtain ⟨scalarShorter, scalarRead⟩ := readScalar_of_spells scalar ends
  refine ⟨?_, ?_⟩
  · simp only [List.length_append, List.length_cons] at scalarShorter ⊢
    omega
  · cases depth <;>
      · rw [readValue]
        simp only [List.cons_append, found, notCompound, if_false, scalarRead]

/-- Values of bounded nesting are read however they are spelled. -/
theorem readValue_of_spells (depth : Nat) : ReadsAll (readValue depth) (Spells depth) := by
  induction depth with
  | zero => exact readValue_of_scalar 0
  | succ depth ih =>
      intro text value spelled gap rest blank ends
      cases spelled with
      | scalar scalar => exact readValue_of_scalar (depth + 1) scalar blank ends
      | @array inner items row =>
          have bracket : isBlank 0x5B = false := by decide
          obtain ⟨shorter, found⟩ :=
            nextOctet?_of_blank blank bracket (inner ++ rest) (Nat.le_refl _)
          have yields := yields_readItems (ReadsAll.yieldsAll ih) (fun _ _ => Spells.begins) row
            rest (Nat.le_refl _)
          rw [mapM_some] at yields
          obtain ⟨itemsShorter, itemsRead⟩ := yields
          refine ⟨Nat.lt_trans itemsShorter shorter, ?_⟩
          rw [readValue]
          simp only [List.cons_append, found, true_or, if_true, itemsRead]
      | @object inner members row =>
          have brace : isBlank 0x7B = false ∧ (0x7B : UInt8) ≠ 0x5B := by decide
          obtain ⟨shorter, found⟩ :=
            nextOctet?_of_blank blank brace.1 (inner ++ rest) (Nat.le_refl _)
          have yields := yields_readMembers (ReadsAll.yieldsAll ih) row rest (Nat.le_refl _)
          have same : memberOutcome some = (some : String × Json → Option (String × Json)) := rfl
          rw [same, mapM_some] at yields
          obtain ⟨membersShorter, membersRead⟩ := yields
          refine ⟨Nat.lt_trans membersShorter shorter, ?_⟩
          rw [readValue]
          simp only [List.cons_append, found, or_true, if_true, brace.2, if_false, membersRead]

/-- A whole text that spells a value between blanks is parsed as the value. -/
theorem parse_of_spells {before text after : Bytes} {value : Json} (blankBefore : Blank before)
    (spelled : Spells depthLimit text value) (blankAfter : Blank after) :
    parse (before ++ (text ++ after)) = .ok value := by
  have ends : Ends after := by
    simpa using ends_append blankAfter ends_nil
  obtain ⟨shorter, read⟩ := readValue_of_spells depthLimit spelled blankBefore ends
  have whole : readWhole (before ++ (text ++ after)) = .ok value := by
    rw [readWhole]
    simp only [read, nextOctet?_eq_none blankAfter]
  rw [parse, whole]

end TrustRoot.Json
