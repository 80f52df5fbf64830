import TrustRoot.Proofs.Json.Numerals

/-!
# Numerals of all forms

A numeral has an integer part, perhaps after a minus sign, and may have a fraction and an exponent.
Not every numeral has a value, since the binary64 format is bounded, but what becomes of it depends
on the numeral alone: whatever follows, it is read as a whole or refused
(`yields_readNumber`).  The parts of a numeral are followed in the order in which they are read, and
what is still to come is carried along.
-/

namespace TrustRoot.Json

/-- One or more digits. -/
def Digits (text : Bytes) : Prop :=
  text ≠ [] ∧ ∀ octet ∈ text, isDigit octet = true

/-- The integer part of a numeral, which has no needless zero at the front. -/
inductive WholePart : Bytes → Prop where
  | zero : WholePart [0x30]
  | digits {first : UInt8} {others : Bytes} (notZero : first ≠ 0x30)
      (allDigits : ∀ octet ∈ first :: others, isDigit octet = true) : WholePart (first :: others)

inductive FractionPart : Bytes → Prop where
  | none : FractionPart []
  | digits {digits : Bytes} (some : Digits digits) : FractionPart (0x2E :: digits)

/-- The sign of an exponent, and whether the exponent is negative. -/
inductive ExponentSign : Bytes → Bool → Prop where
  | none : ExponentSign [] false
  | plus : ExponentSign [0x2B] false
  | minus : ExponentSign [0x2D] true

inductive ExponentPart : Bytes → Prop where
  | none : ExponentPart []
  | power {mark : UInt8} {sign digits : Bytes} {down : Bool} (marks : isExponentMark mark = true)
      (signs : ExponentSign sign down) (some : Digits digits) :
      ExponentPart (mark :: (sign ++ digits))

/-- The numerals of JSON. -/
inductive IsNumeral : Bytes → Prop where
  | unsigned {whole fraction exponent : Bytes} (isWhole : WholePart whole)
      (isFraction : FractionPart fraction) (isExponent : ExponentPart exponent) :
      IsNumeral (whole ++ (fraction ++ exponent))
  | negative {whole fraction exponent : Bytes} (isWhole : WholePart whole)
      (isFraction : FractionPart fraction) (isExponent : ExponentPart exponent) :
      IsNumeral (0x2D :: (whole ++ (fraction ++ exponent)))

/-- A reader that passes on what another makes of a text. -/
theorem Yields.weaken {α : Type} {bound larger : Nat} {result : Except Fault (Parsed α bound)}
    {weaker : Except Fault (Parsed α larger)} {outcome : Option α} {rest : Bytes}
    (yields : Yields result outcome rest) (le : bound ≤ larger)
    (fails : ∀ fault, result = .error fault → weaker = .error fault)
    (goesOn : ∀ parsed, result = .ok parsed → weaker = .ok (parsed.weaken le)) :
    Yields weaker outcome rest := by
  cases outcome with
  | none =>
      obtain ⟨fault, failed⟩ := yields
      rw [fails fault failed]
      exact yields_error fault rest
  | some value =>
      obtain ⟨shorter, done⟩ := yields
      rw [goesOn _ done]
      exact yields_ok (Nat.lt_of_lt_of_le shorter le) rfl

/-! ## Parts of a numeral -/

theorem noDigit_exponent {exponent rest : Bytes} (isExponent : ExponentPart exponent)
    (ends : Ends rest) : NoDigit (exponent ++ rest) := by
  cases isExponent with
  | none => exact ends.noDigit
  | power marks =>
      rintro _ ⟨⟩
      simp only [isExponentMark, Bool.or_eq_true, beq_iff_eq] at marks
      rcases marks with rfl | rfl <;> decide

theorem noDigit_fraction {fraction exponent rest : Bytes} (isFraction : FractionPart fraction)
    (isExponent : ExponentPart exponent) (ends : Ends rest) :
    NoDigit (fraction ++ (exponent ++ rest)) := by
  cases isFraction with
  | none =>
      rw [List.nil_append]
      exact noDigit_exponent isExponent ends
  | digits =>
      rintro _ ⟨⟩
      decide

/-- What becomes of digits after the mark of an exponent. -/
def exponentOutcome (negative : Bool) (integer : Nat) (exponent : Int) (down : Bool)
    (digits : Bytes) : Option Number :=
  match exponentOf 0 digits with
  | .error _ =>
    if integer ≠ 0 ∧ down = false then none else some (.real (if negative then -0.0 else 0.0))
  | .ok power => real? negative integer (if down then exponent - power else exponent + power)

theorem yields_readExponent (negative : Bool) (integer : Nat) (exponent : Int) {sign digits : Bytes}
    {down : Bool} (signs : ExponentSign sign down) (isDigits : Digits digits) {rest : Bytes}
    (ends : NoDigit rest) :
    Yields (readExponent negative integer exponent (sign ++ (digits ++ rest)))
      (exponentOutcome negative integer exponent down digits) rest := by
  obtain ⟨nonempty, allDigits⟩ := isDigits
  obtain ⟨first, others, rfl⟩ := List.exists_cons_of_ne_nil nonempty
  obtain ⟨decimal, otherDigits⟩ := List.forall_mem_cons.mp allDigits
  obtain ⟨leading, after⟩ := leadingDigits_append otherDigits ends
  have notSign : first ≠ 0x2D ∧ first ≠ 0x2B := by
    constructor <;>
      · rintro rfl
        exact absurd decimal (by decide)
  generalize whole : sign ++ (first :: others ++ rest) = text
  -- The reader looks for the sign at the front, and goes on behind it.
  have isDown : (text.head? == some 0x2D) = down := by
    subst whole
    cases signs <;> simp [notSign]
  have behind : (if (text.head? == some 0x2D || text.head? == some 0x2B) = true
      then text.drop 1 else text) = first :: (others ++ rest) := by
    subst whole
    cases signs <;> simp [notSign]
  unfold exponentOutcome
  fun_cases readExponent negative integer exponent text with
  | case1 _ _ empty => cases empty.symm.trans behind
  | case2 _ _ _ _ chosen notDigit =>
      cases chosen.symm.trans behind
      rw [decimal] at notDigit
      cases notDigit
  | case3 looksDown _ _ _ chosen _ _ _ beyond large =>
      cases chosen.symm.trans behind
      rw [leading] at beyond
      rw [show looksDown = down from isDown] at large
      simp only [beyond, if_pos large]
      exact yields_error _ rest
  | case4 looksDown _ _ _ chosen _ _ _ beyond small =>
      cases chosen.symm.trans behind
      rw [leading] at beyond
      rw [show looksDown = down from isDown] at small
      simp only [beyond, if_neg small]
      exact yields_ok _ after
  | case5 looksDown _ _ _ chosen _ _ power isPower _ value =>
      cases chosen.symm.trans behind
      rw [leading] at isPower
      rw [show looksDown = down from isDown] at value
      simp only [isPower, value]
      exact yields_ok _ after
  | case6 looksDown _ _ _ chosen _ _ power isPower value =>
      cases chosen.symm.trans behind
      rw [leading] at isPower
      rw [show looksDown = down from isDown] at value
      simp only [isPower, value]
      exact yields_error _ rest

/-- A number ends after its fraction, if no exponent follows. -/
theorem yields_readAfterFraction (negative : Bool) (integer : Nat) (power : Int)
    {exponent : Bytes} (isExponent : ExponentPart exponent) :
    ∃ outcome, ∀ {rest : Bytes}, Ends rest → ∀ {bound : Nat}
      (fits : (exponent ++ rest).length < bound),
      Yields (readAfterFraction bound negative integer power (exponent ++ rest) fits) outcome
        rest := by
  cases isExponent with
  | none =>
      refine ⟨real? negative integer power, ?_⟩
      intro rest ends bound fits
      have finish (left : Bytes) : Yields (readAfterFraction.finish bound negative integer power
          ([] ++ rest) fits left) (real? negative integer power) rest := by
        unfold readAfterFraction.finish
        cases real? negative integer power with
        | none => exact yields_error _ rest
        | some value => exact yields_ok _ rfl
      cases rest with
      | nil => exact finish []
      | cons mark rest =>
          have notMark := (ends mark rfl).2.2
          simp only [List.nil_append]
          rw [readAfterFraction, if_neg (by rw [notMark]; decide)]
          exact finish (mark :: rest)
  | @power mark sign digits down marks signs isDigits =>
      refine ⟨exponentOutcome negative integer power down digits, ?_⟩
      intro rest ends bound fits
      have read := yields_readExponent negative integer power signs isDigits ends.noDigit
      simp only [List.cons_append, List.append_assoc] at fits ⊢
      have shorter : (sign ++ (digits ++ rest)).length ≤ bound := by
        simp only [List.length_cons] at fits
        omega
      rw [readAfterFraction, if_pos marks]
      exact read.weaken shorter (fun _ failed => by rw [failed]) (fun _ done => by rw [done])

theorem yields_readFraction (negative : Bool) (high exponent : Nat) {digits power : Bytes}
    (isDigits : Digits digits) (isExponent : ExponentPart power) :
    ∃ outcome, ∀ {rest : Bytes}, Ends rest →
      Yields (readFraction negative high exponent (digits ++ (power ++ rest))) outcome rest := by
  obtain ⟨outcome, read⟩ := yields_readAfterFraction negative (significand high digits).1
    ((exponent : Int) - ((digits.length : Int) - (significand high digits).2.length)) isExponent
  refine ⟨outcome, ?_⟩
  intro rest ends
  obtain ⟨leading, after⟩ :=
    leadingDigits_append isDigits.2 (noDigit_exponent isExponent ends)
  unfold readFraction
  simp only [leading, after, isDigits.1, if_false]
  exact read ends _

theorem yields_readAfterInteger (negative : Bool) (high dropped : Nat)
    {fraction exponent : Bytes} (isFraction : FractionPart fraction)
    (isExponent : ExponentPart exponent) :
    ∃ outcome, ∀ {rest : Bytes}, Ends rest → ∀ {bound : Nat}
      (fits : (fraction ++ (exponent ++ rest)).length < bound),
      Yields (readAfterInteger bound negative high dropped (fraction ++ (exponent ++ rest)) fits)
        outcome rest := by
  cases isFraction with
  | @digits digits isDigits =>
      obtain ⟨outcome, read⟩ := yields_readFraction negative high dropped isDigits isExponent
      refine ⟨outcome, ?_⟩
      intro rest ends bound fits
      simp only [List.cons_append] at fits ⊢
      have shorter : (digits ++ (exponent ++ rest)).length + 1 ≤ bound := by
        simp only [List.length_cons] at fits
        omega
      rw [readAfterInteger, if_pos rfl]
      exact (read ends).weaken shorter (fun _ failed => by rw [failed]) (fun _ done => by rw [done])
  | none =>
      cases isExponent with
      | none =>
          let outcome := if dropped = 0 then some (Json.integer negative high)
            else real? negative high dropped
          refine ⟨outcome, ?_⟩
          intro rest ends bound fits
          have finish (left : Bytes) : Yields (readAfterInteger.finish bound negative high dropped
              ([] ++ ([] ++ rest)) fits left) outcome rest := by
            unfold readAfterInteger.finish
            by_cases exact : dropped = 0
            · simp only [outcome, if_pos exact]
              exact yields_ok _ rfl
            · simp only [outcome, if_neg exact]
              cases real? negative high dropped with
              | none => exact yields_error _ rest
              | some value => exact yields_ok _ rfl
          cases rest with
          | nil => exact finish []
          | cons mark rest =>
              obtain ⟨-, notPoint, notMark⟩ := ends mark rfl
              simp only [List.nil_append]
              rw [readAfterInteger, if_neg notPoint, if_neg (by rw [notMark]; decide)]
              exact finish (mark :: rest)
      | @power mark sign digits down marks signs isDigits =>
          refine ⟨exponentOutcome negative high dropped down digits, ?_⟩
          intro rest ends bound fits
          have read := yields_readExponent negative high dropped signs isDigits ends.noDigit
          have notPoint : mark ≠ 0x2E := by
            rintro rfl
            exact absurd marks (by decide)
          simp only [List.nil_append, List.cons_append, List.append_assoc] at fits ⊢
          have shorter : (sign ++ (digits ++ rest)).length ≤ bound := by
            simp only [List.length_cons] at fits
            omega
          rw [readAfterInteger, if_neg notPoint, if_pos marks]
          exact read.weaken shorter (fun _ failed => by rw [failed]) (fun _ done => by rw [done])

theorem yields_readMagnitude (negative : Bool) {whole fraction exponent : Bytes}
    (isWhole : WholePart whole) (isFraction : FractionPart fraction)
    (isExponent : ExponentPart exponent) :
    ∃ outcome, ∀ {rest : Bytes}, Ends rest →
      Yields (readMagnitude negative (whole ++ (fraction ++ (exponent ++ rest)))) outcome
        rest := by
  cases isWhole with
  | zero =>
      obtain ⟨outcome, read⟩ := yields_readAfterInteger negative 0 0 isFraction isExponent
      refine ⟨outcome, ?_⟩
      intro rest ends
      have noDigit := noDigit_fraction isFraction isExponent ends
      have readRest (bound : Nat) (fits : (fraction ++ (exponent ++ rest)).length < bound) :=
        read ends fits
      rw [List.singleton_append]
      generalize fraction ++ (exponent ++ rest) = text at noDigit readRest
      cases text with
      | nil =>
          rw [readMagnitude, if_pos rfl]
          exact readRest _ _
      | cons second others =>
          have notDigit := noDigit second rfl
          rw [readMagnitude, if_pos rfl]
          simp only [notDigit, Bool.false_eq_true, if_false]
          exact readRest _ _
  | @digits first others notZero allDigits =>
      obtain ⟨decimal, otherDigits⟩ := List.forall_mem_cons.mp allDigits
      obtain ⟨outcome, read⟩ := yields_readAfterInteger negative
        (significand 0 (first :: others)).1 (significand 0 (first :: others)).2.length isFraction
        isExponent
      refine ⟨outcome, ?_⟩
      intro rest ends
      obtain ⟨leading, after⟩ :=
        leadingDigits_append otherDigits (noDigit_fraction isFraction isExponent ends)
      simp only [List.cons_append]
      rw [readMagnitude_of_digit _ _ notZero decimal]
      simp only [leading, after]
      exact read ends _

theorem WholePart.starts {whole : Bytes} (isWhole : WholePart whole) :
    ∃ first others, whole = first :: others ∧ isDigit first = true := by
  cases isWhole with
  | zero => exact ⟨_, _, rfl, by decide⟩
  | digits _ allDigits => exact ⟨_, _, rfl, allDigits _ List.mem_cons_self⟩

theorem IsNumeral.starts {numeral : Bytes} (isNumeral : IsNumeral numeral) :
    ∃ first others, numeral = first :: others ∧ (first = 0x2D ∨ isDigit first = true) := by
  cases isNumeral with
  | negative => exact ⟨_, _, rfl, .inl rfl⟩
  | unsigned isWhole =>
      obtain ⟨first, others, rfl, decimal⟩ := isWhole.starts
      exact ⟨first, _, List.cons_append, .inr decimal⟩

/-- The number that a numeral stands for, if the format holds it. -/
def numeralValue? (numeral : Bytes) : Option Number :=
  match readNumber numeral with
  | .ok parsed => some parsed.value
  | .error _ => none

/-- Whatever follows a numeral, it is read as its number, or refused if it has none. -/
theorem yields_readNumber {numeral : Bytes} (isNumeral : IsNumeral numeral) {rest : Bytes}
    (ends : Ends rest) : Yields (readNumber (numeral ++ rest)) (numeralValue? numeral) rest := by
  have settled : ∃ outcome, ∀ {rest : Bytes}, Ends rest →
      Yields (readNumber (numeral ++ rest)) outcome rest := by
    cases isNumeral with
    | unsigned isWhole isFraction isExponent =>
        obtain ⟨outcome, read⟩ := yields_readMagnitude false isWhole isFraction isExponent
        refine ⟨outcome, ?_⟩
        intro rest ends
        rw [List.append_assoc, List.append_assoc]
        obtain ⟨first, others, rfl, decimal⟩ := isWhole.starts
        have notMinus : first ≠ 0x2D := by
          rintro rfl
          exact absurd decimal (by decide)
        rw [List.cons_append, readNumber_unsigned _ notMinus]
        exact read ends
    | negative isWhole isFraction isExponent =>
        obtain ⟨outcome, read⟩ := yields_readMagnitude true isWhole isFraction isExponent
        refine ⟨outcome, ?_⟩
        intro rest ends
        rw [List.cons_append, List.append_assoc, List.append_assoc, readNumber, if_pos rfl]
        exact (read ends).weaken (Nat.le_succ _) (fun _ failed => by rw [failed])
          (fun _ done => by rw [done])
  obtain ⟨outcome, read⟩ := settled
  -- The numeral by itself says what the outcome is.
  have alone := read ends_nil
  rw [List.append_nil] at alone
  have same : numeralValue? numeral = outcome := by
    unfold numeralValue?
    cases outcome with
    | none =>
        obtain ⟨fault, refused⟩ := alone
        rw [refused]
    | some value =>
        obtain ⟨shorter, done⟩ := alone
        rw [done]
  rw [same]
  exact read ends

/-- A numeral that has a number spells it. -/
theorem spellsNumber_of_isNumeral {numeral : Bytes} (isNumeral : IsNumeral numeral)
    {value : Number} (stands : numeralValue? numeral = some value) :
    SpellsNumber numeral value := by
  refine ⟨isNumeral.starts, ?_⟩
  intro rest ends
  have read := yields_readNumber isNumeral ends
  rwa [stands] at read

/-! ## Numerals of integers -/

theorem wholePart_toDigits (number : Nat) : WholePart (utf8 (Nat.toDigits 10 number)) := by
  have allDigits : ∀ octet ∈ utf8 (Nat.toDigits 10 number), isDigit octet = true :=
    fun _ => isDigit_of_mem_utf8 (isDigit_of_mem_toDigits number)
  by_cases zero : number = 0
  · subst zero
    exact .zero
  · have notZero := head?_toDigits_ne_zero zero
    have decimal := isDigit_of_mem_toDigits number
    cases digits : Nat.toDigits 10 number with
    | nil => exact absurd digits Nat.toDigits_ne_nil
    | cons first others =>
        rw [digits] at allDigits notZero decimal
        rw [utf8_cons_digit (decimal first List.mem_cons_self)] at allDigits ⊢
        have firstNotZero : first ≠ '0' := fun same => notZero (congrArg some same)
        exact .digits (digitOctet_ne_zero (decimal first List.mem_cons_self) firstNotZero)
          allDigits

/-- The text of an integer is a numeral. -/
theorem isNumeral_chars {number : Number} (isInteger : number.IsInteger) :
    IsNumeral (utf8 number.chars) := by
  have form {whole : Bytes} : whole = whole ++ ([] ++ []) := by simp
  cases number with
  | natural value =>
      have isWhole := wholePart_toDigits value.toNat
      have isNumeral := IsNumeral.unsigned isWhole .none .none
      rwa [← form] at isNumeral
  | negative magnitude =>
      have isWhole := wholePart_toDigits (magnitude.val + 1)
      have isNumeral := IsNumeral.negative isWhole .none .none
      have minus : utf8 (Number.chars (.negative magnitude)) =
          0x2D :: utf8 (Nat.toDigits 10 (magnitude.val + 1)) :=
        utf8_cons_of_ascii (by decide) _
      rw [← form] at isNumeral
      rwa [minus]
  | real value => exact absurd isInteger id

/-- The number of the text of an integer is that integer. -/
theorem numeralValue?_chars {number : Number} (isInteger : number.IsInteger) :
    numeralValue? (utf8 number.chars) = some number := by
  have read := (spellsNumber_chars isInteger).reads [] ends_nil
  rw [List.append_nil] at read
  obtain ⟨shorter, done⟩ := read
  rw [numeralValue?, done]

end TrustRoot.Json
