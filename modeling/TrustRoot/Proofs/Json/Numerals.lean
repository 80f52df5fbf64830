import TrustRoot.Proofs.Json.Spelling

/-!
# Reading integers

The decimal digits of an integer are a numeral of that integer (`spellsNumber_chars`).  The
accumulator of the reader never reaches its bound before the last digit, since the value of a
prefix of digits is at most that of all of them.
-/

namespace TrustRoot.Json

/-- Whether a number is not held in the binary64 format. -/
def Number.IsInteger : Number → Prop
  | .real _ => False
  | _ => True

/-! ## Digits as octets -/

theorem toNat_of_isDigit {digit : Char} (decimal : digit.isDigit = true) :
    48 ≤ digit.toNat ∧ digit.toNat ≤ 57 := by
  simp only [Char.isDigit, Bool.and_eq_true, decide_eq_true_eq] at decimal
  exact decimal

theorem utf8_cons_digit {digit : Char} (decimal : digit.isDigit = true) (rest : List Char) :
    utf8 (digit :: rest) = UInt8.ofNat digit.toNat :: utf8 rest :=
  utf8_cons_of_ascii (by have := toNat_of_isDigit decimal; omega) rest

theorem toNat_digitOctet {digit : Char} (decimal : digit.isDigit = true) :
    (UInt8.ofNat digit.toNat).toNat = digit.toNat := by
  have bounds := toNat_of_isDigit decimal
  exact toNat_octet_of_ascii (by omega)

theorem isDigit_digitOctet {digit : Char} (decimal : digit.isDigit = true) :
    isDigit (UInt8.ofNat digit.toNat) = true := by
  have bounds := toNat_of_isDigit decimal
  have low : (0x30 : UInt8).toNat = 48 := rfl
  have high : (0x39 : UInt8).toNat = 57 := rfl
  simp only [isDigit, Bool.and_eq_true, decide_eq_true_eq, UInt8.le_iff_toNat_le,
    toNat_digitOctet decimal]
  omega

theorem digitOctet_ne_zero {digit : Char} (decimal : digit.isDigit = true) (notZero : digit ≠ '0') :
    UInt8.ofNat digit.toNat ≠ 0x30 := by
  intro same
  have code : digit.toNat = '0'.toNat := by
    rw [← toNat_digitOctet decimal, same]
    rfl
  exact notZero (Char.toNat_inj.mp code)

theorem isDigit_of_mem_utf8 {digits : List Char}
    (allDigits : ∀ digit ∈ digits, digit.isDigit = true) {octet : UInt8}
    (member : octet ∈ utf8 digits) : isDigit octet = true := by
  induction digits with
  | nil => simp at member
  | cons digit rest ih =>
      have decimal := allDigits digit List.mem_cons_self
      rw [utf8_cons_digit decimal] at member
      rcases List.mem_cons.mp member with rfl | inRest
      · exact isDigit_digitOctet decimal
      · exact ih (fun other inRest => allDigits other (List.mem_cons_of_mem _ inRest)) inRest

/-- Octets that do not start with a digit. -/
def NoDigit (rest : Bytes) : Prop :=
  ∀ octet, rest.head? = some octet → isDigit octet = false

theorem Ends.noDigit {rest : Bytes} (ends : Ends rest) : NoDigit rest :=
  fun octet found => (ends octet found).1

/-- The digits at the front are all there are, if no digit follows. -/
theorem leadingDigits_append {digits rest : Bytes}
    (allDigits : ∀ octet ∈ digits, isDigit octet = true) (ends : NoDigit rest) :
    leadingDigits (digits ++ rest) = digits ∧ afterDigits (digits ++ rest) = rest := by
  rw [leadingDigits, afterDigits, List.takeWhile_append_of_pos allDigits,
    List.dropWhile_append_of_pos allDigits]
  cases rest with
  | nil => simp
  | cons octet rest =>
      have stops := ends octet rfl
      simp [stops]

/-! ## The value of digits -/

theorem le_ofDigitChars (digits : List Char) (high : Nat) :
    high ≤ Nat.ofDigitChars 10 digits high := by
  induction digits generalizing high with
  | nil => simp
  | cons digit rest ih =>
      rw [Nat.ofDigitChars_cons]
      have step := ih (10 * high + (digit.toNat - '0'.toNat))
      omega

theorem significand_utf8 {digits : List Char}
    (allDigits : ∀ digit ∈ digits, digit.isDigit = true) (high : Nat)
    (fits : Nat.ofDigitChars 10 digits high < 2 ^ 64) :
    significand high (utf8 digits) = (Nat.ofDigitChars 10 digits high, []) := by
  induction digits generalizing high with
  | nil => simp [significand]
  | cons digit rest ih =>
      have decimal := allDigits digit List.mem_cons_self
      have next : high * 10 + (digit.toNat - 48) = 10 * high + (digit.toNat - '0'.toNat) := by
        have code : '0'.toNat = 48 := rfl
        omega
      rw [Nat.ofDigitChars_cons] at fits ⊢
      -- The bound is on the value of all digits, which is at least that of those read so far.
      have below := le_ofDigitChars rest (10 * high + (digit.toNat - '0'.toNat))
      rw [utf8_cons_digit decimal, significand]
      simp only [toNat_digitOctet decimal, next]
      rw [if_pos (by omega)]
      exact ih (fun other inRest => allDigits other (List.mem_cons_of_mem _ inRest)) _ fits

theorem isDigit_of_mem_toDigits (number : Nat) :
    ∀ digit ∈ Nat.toDigits 10 number, digit.isDigit = true := by
  intro digit member
  exact Nat.isDigit_of_mem_toDigits (by decide) (by decide) member

/-- A positive number is written without zeros at the front. -/
theorem head?_toDigits_ne_zero {number : Nat} (positive : number ≠ 0) :
    (Nat.toDigits 10 number).head? ≠ some '0' := by
  induction number using Nat.base_induction 10 (by decide) with
  | single number small =>
      rw [Nat.toDigits_of_lt_base small]
      have all : ∀ number : Fin 10, number.val ≠ 0 →
          [number.val.digitChar].head? ≠ some '0' := by decide
      exact all ⟨number, small⟩ positive
  | digit high low small highPositive ih =>
      rw [← Nat.toDigits_append_toDigits (by decide) highPositive small]
      have front := ih (by omega)
      cases digits : Nat.toDigits 10 high with
      | nil => exact absurd digits Nat.toDigits_ne_nil
      | cons first rest =>
          rw [digits] at front
          simpa using front

/-! ## Numerals -/

theorem readAfterInteger_of_ends (bound : Nat) {rest : Bytes} (negative : Bool) (high : Nat)
    (ends : Ends rest) (fits : rest.length < bound) :
    Reads (readAfterInteger bound negative high 0 rest fits) (integer negative high) rest := by
  refine ⟨fits, ?_⟩
  cases rest with
  | nil => simp [readAfterInteger, readAfterInteger.finish]
  | cons mark rest =>
      obtain ⟨-, notPoint, notMark⟩ := ends mark rfl
      simp [readAfterInteger, readAfterInteger.finish, notPoint, notMark]

theorem readMagnitude_of_digit (negative : Bool) {first : UInt8} (rest : Bytes)
    (notZero : first ≠ 0x30) (decimal : isDigit first = true) :
    readMagnitude negative (first :: rest) =
      readAfterInteger (first :: rest).length negative
        (significand 0 (first :: leadingDigits rest)).1
        (significand 0 (first :: leadingDigits rest)).2.length (afterDigits rest)
        (Nat.lt_succ_of_le (length_afterDigits_le rest)) := by
  cases rest <;> rw [readMagnitude, if_neg notZero, if_pos decimal]

theorem readNumber_unsigned {first : UInt8} (rest : Bytes) (notMinus : first ≠ 0x2D) :
    readNumber (first :: rest) = readMagnitude false (first :: rest) := by
  rw [readNumber, if_neg notMinus]

/-- A zero is a numeral by itself, as no digit follows it. -/
theorem readMagnitude_zero (negative : Bool) {rest : Bytes} (ends : Ends rest) :
    Reads (readMagnitude negative (0x30 :: rest)) (integer negative 0) rest := by
  obtain ⟨shorter, result⟩ :=
    readAfterInteger_of_ends (0x30 :: rest).length negative 0 ends (Nat.lt_succ_self _)
  refine ⟨shorter, ?_⟩
  cases rest with
  | nil =>
      rw [readMagnitude, if_pos rfl]
      exact result
  | cons second others =>
      have notDigit := (ends second rfl).1
      rw [readMagnitude, if_pos rfl]
      simp only [notDigit, Bool.false_eq_true, if_false]
      exact result

/-- Digits that do not start with a zero are read as the number that they form. -/
theorem readMagnitude_digits (negative : Bool) {first : Char} {others : List Char} {rest : Bytes}
    (allDigits : ∀ digit ∈ first :: others, digit.isDigit = true) (notZero : first ≠ '0')
    (fits : Nat.ofDigitChars 10 (first :: others) 0 < 2 ^ 64) (ends : Ends rest) :
    Reads (readMagnitude negative (utf8 (first :: others) ++ rest))
      (integer negative (Nat.ofDigitChars 10 (first :: others) 0)) rest := by
  have decimal := allDigits first List.mem_cons_self
  have otherDigits : ∀ digit ∈ others, digit.isDigit = true := fun digit member =>
    allDigits digit (List.mem_cons_of_mem _ member)
  obtain ⟨leading, after⟩ := leadingDigits_append
    (fun _ => isDigit_of_mem_utf8 otherDigits) ends.noDigit
  have whole := significand_utf8 allDigits 0 fits
  rw [utf8_cons_digit decimal] at whole
  rw [utf8_cons_digit decimal, List.cons_append]
  obtain ⟨shorter, result⟩ := readAfterInteger_of_ends
    (UInt8.ofNat first.toNat :: (utf8 others ++ rest)).length negative
    (Nat.ofDigitChars 10 (first :: others) 0) ends
    (by simp only [List.length_cons, List.length_append]; omega)
  refine ⟨shorter, ?_⟩
  rw [readMagnitude_of_digit _ _ (digitOctet_ne_zero decimal notZero)
    (isDigit_digitOctet decimal)]
  simp only [leading, whole, after, List.length_nil]
  exact result

/-- The digits of a number are read as the number with its sign. -/
theorem readMagnitude_toDigits (number : Nat) (fits : number < 2 ^ 64) (negative : Bool)
    {rest : Bytes} (ends : Ends rest) :
    Reads (readMagnitude negative (utf8 (Nat.toDigits 10 number) ++ rest))
      (integer negative number) rest := by
  by_cases zero : number = 0
  · subst zero
    exact readMagnitude_zero negative ends
  · have allDigits := isDigit_of_mem_toDigits number
    have value : Nat.ofDigitChars 10 (Nat.toDigits 10 number) 0 = number :=
      Nat.ofDigitChars_ten_toDigits
    have notZero := head?_toDigits_ne_zero zero
    cases digits : Nat.toDigits 10 number with
    | nil => exact absurd digits Nat.toDigits_ne_nil
    | cons first others =>
        rw [digits] at allDigits value notZero
        have firstNotZero : first ≠ '0' := fun same => notZero (congrArg some same)
        have read := readMagnitude_digits negative allDigits firstNotZero
          (by rw [value]; exact fits) ends
        rwa [value] at read

theorem starts_toDigits (number : Nat) :
    ∃ first others, utf8 (Nat.toDigits 10 number) = first :: others ∧ isDigit first = true := by
  have allDigits := isDigit_of_mem_toDigits number
  cases digits : Nat.toDigits 10 number with
  | nil => exact absurd digits Nat.toDigits_ne_nil
  | cons first others =>
      rw [digits] at allDigits
      have decimal := allDigits first List.mem_cons_self
      exact ⟨_, _, utf8_cons_digit decimal others, isDigit_digitOctet decimal⟩

/-- The text of an integer is a numeral of it. -/
theorem spellsNumber_chars {number : Number} (isInteger : number.IsInteger) :
    SpellsNumber (utf8 number.chars) number := by
  cases number with
  | natural value =>
      obtain ⟨first, others, split, decimal⟩ := starts_toDigits value.toNat
      refine ⟨⟨first, others, split, .inr decimal⟩, ?_⟩
      intro rest ends
      have notMinus : first ≠ 0x2D := by
        rintro rfl
        exact absurd decimal (by decide)
      have result := readMagnitude_toDigits value.toNat value.toNat_lt false ends
      have unsigned : integer false value.toNat = .natural value := by
        rw [integer, if_neg (by decide), UInt64.ofNat_toNat]
      rw [unsigned] at result
      change Reads (readNumber (utf8 (Nat.toDigits 10 value.toNat) ++ rest)) _ _
      generalize utf8 (Nat.toDigits 10 value.toNat) = text at split result ⊢
      subst split
      obtain ⟨shorter, result⟩ := result
      exact ⟨shorter, (readNumber_unsigned _ notMinus).trans result⟩
  | negative magnitude =>
      have minus : utf8 (Number.chars (.negative magnitude)) =
          0x2D :: utf8 (Nat.toDigits 10 (magnitude.val + 1)) :=
        utf8_cons_of_ascii (by decide) _
      refine ⟨⟨0x2D, _, minus, .inl rfl⟩, ?_⟩
      intro rest ends
      have bound := magnitude.isLt
      obtain ⟨shorter, result⟩ :=
        readMagnitude_toDigits (magnitude.val + 1) (by omega) true ends
      have signed : integer true (magnitude.val + 1) = .negative magnitude := by
        rw [integer, if_pos rfl, dif_pos ⟨by omega, by omega⟩]
        rfl
      rw [signed] at result
      rw [minus, List.cons_append]
      refine ⟨by simp only [List.length_cons]; omega, ?_⟩
      rw [readNumber, if_pos rfl]
      simp only [result]
      rfl
  | real value => exact absurd isInteger id

end TrustRoot.Json
