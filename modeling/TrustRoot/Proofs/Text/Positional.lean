import Mathlib.Data.List.Forall2
import Mathlib.Data.Nat.Digits.Defs
import TrustRoot.Power
import TrustRoot.Proofs.Text.Numeral
import TrustRoot.Proofs.Text.Utf8

/-!
# Positional notation

A numeral of a base up to 16 is a row of digits, its letters in either case, and a plus sign may
stand in front.  It denotes the sum of what its digits are worth at their places.  Reading accepts
these numerals and nothing else, however many zeros they begin with, and gives the number that they
denote (`signedValue?_eq_some_iff`).  Their characters are ASCII, so they have as many octets as
characters.
-/

namespace TrustRoot.Numeral

variable {base : Nat}

/-- What a character is worth as a digit of a base. -/
structure IsDigit (base : Nat) (digit : Char) (value : Nat) : Prop where
  small : value < base
  written : digit = value.digitChar ∨ digit = value.digitChar.toUpper

/-- The number that a row of digits denotes, the first of them at the highest place. -/
inductive Denotes (base : Nat) : List Char → Nat → Prop where
  | digits {digits : List Char} {values : List Nat} (nonempty : digits ≠ [])
      (worth : List.Forall₂ (IsDigit base) digits values) :
      Denotes base digits (Nat.ofDigits base values.reverse)

/-- The number that digits denote with a plus sign in front or without. -/
inductive SignedDenotes (base : Nat) : List Char → Nat → Prop where
  | unsigned {digits : List Char} {number : Nat} (denotes : Denotes base digits number) :
      SignedDenotes base digits number
  | plus {digits : List Char} {number : Nat} (denotes : Denotes base digits number) :
      SignedDenotes base ('+' :: digits) number

/-! ## Digits -/

theorem ascii_of_digitValue? {digit : Char} {value : Nat}
    (read : digitValue? base digit = some value) : digit.toNat < 128 := by
  have below {last : Char} (bound : digit ≤ last) (ascii : last.toNat < 128) :
      digit.toNat < 128 := Nat.lt_of_le_of_lt bound ascii
  unfold digitValue? at read
  obtain ⟨found, -⟩ := Option.filter_eq_some_iff.mp read
  split at found
  · rename_i decimal
    exact below decimal.2 (by decide)
  · split at found
    · rename_i lower
      exact below lower.2 (by decide)
    · split at found
      · rename_i upper
        exact below upper.2 (by decide)
      · cases found

/-- The base only bounds what a character is worth. -/
theorem digitValue?_eq_some_iff_of_le (hexadecimal : base ≤ 16) {digit : Char} {value : Nat} :
    digitValue? base digit = some value ↔ value < base ∧ digitValue? 16 digit = some value := by
  simp only [digitValue?, Option.filter_eq_some_iff, decide_eq_true_eq]
  constructor
  · rintro ⟨found, small⟩
    exact ⟨small, found, Nat.lt_of_lt_of_le small hexadecimal⟩
  · rintro ⟨small, found, -⟩
    exact ⟨found, small⟩

theorem digitValue?_eq_some_iff (hexadecimal : base ≤ 16) {digit : Char} {value : Nat} :
    digitValue? base digit = some value ↔ IsDigit base digit value := by
  rw [digitValue?_eq_some_iff_of_le hexadecimal]
  constructor
  · rintro ⟨small, read⟩
    have all : ∀ code : Fin 128, ∀ value ∈ digitValue? 16 (Char.ofNat code.val),
        Char.ofNat code.val = value.digitChar ∨
          Char.ofNat code.val = value.digitChar.toUpper := by
      decide
    have written := all ⟨digit.toNat, ascii_of_digitValue? read⟩ value
    simp only [Char.ofNat_toNat] at written
    exact ⟨small, written read⟩
  · rintro ⟨small, rfl | rfl⟩
    · exact ⟨small, digitValue?_digitChar (Nat.le_refl 16) (Nat.lt_of_lt_of_le small hexadecimal)⟩
    · have all : ∀ value : Fin 16,
          digitValue? 16 value.val.digitChar.toUpper = some value.val := by decide
      exact ⟨small, all ⟨value, Nat.lt_of_lt_of_le small hexadecimal⟩⟩

/-! ## Rows of digits -/

theorem ofDigits_reverse_cons (value : Nat) (values : List Nat) :
    Nat.ofDigits base (value :: values).reverse =
      value * base ^ values.length + Nat.ofDigits base values.reverse := by
  rw [List.reverse_cons, Nat.ofDigits_append, Nat.ofDigits_singleton, List.length_reverse]
  ring

/-- What was read before counts for more by a factor of the base with every further digit. -/
theorem accumulate?_eq_some_iff (hexadecimal : base ≤ 16) {high number : Nat}
    {digits : List Char} :
    accumulate? base high digits = some number ↔
      ∃ values, List.Forall₂ (IsDigit base) digits values ∧
        number = high * base ^ digits.length + Nat.ofDigits base values.reverse := by
  induction digits generalizing high with
  | nil => simp [accumulate?, eq_comm]
  | cons digit rest ih =>
      have shift (value : Nat) {values : List Nat} (same : rest.length = values.length) :
          (base * high + value) * base ^ rest.length + Nat.ofDigits base values.reverse =
            high * base ^ (digit :: rest).length +
              Nat.ofDigits base (value :: values).reverse := by
        rw [ofDigits_reverse_cons, List.length_cons, same]
        ring
      constructor
      · intro read
        simp only [accumulate?] at read
        split at read
        · rename_i value first
          obtain ⟨values, worth, rfl⟩ := ih.mp read
          exact ⟨value :: values, .cons ((digitValue?_eq_some_iff hexadecimal).mp first) worth,
            shift value worth.length_eq⟩
        · cases read
      · rintro ⟨_, _ | ⟨first, worth⟩, rfl⟩
        rw [accumulate?, (digitValue?_eq_some_iff hexadecimal).mpr first]
        exact ih.mpr ⟨_, worth, (shift _ worth.length_eq).symm⟩

theorem value?_eq_some_iff (hexadecimal : base ≤ 16) {digits : List Char} {number : Nat} :
    value? base digits = some number ↔ Denotes base digits number := by
  unfold value?
  constructor
  · intro read
    split at read
    · cases read
    · rename_i nonempty
      obtain ⟨values, worth, rfl⟩ := (accumulate?_eq_some_iff hexadecimal).mp read
      rw [Nat.zero_mul, Nat.zero_add]
      exact .digits nonempty worth
  · rintro ⟨nonempty, worth⟩
    rw [if_neg nonempty, accumulate?_eq_some_iff hexadecimal]
    exact ⟨_, worth, by rw [Nat.zero_mul, Nat.zero_add]⟩

/-! ## Signed numerals -/

/-- Reading a numeral gives the number that it denotes, and only numerals are read. -/
theorem signedValue?_eq_some_iff (hexadecimal : base ≤ 16) {text : List Char} {number : Nat} :
    signedValue? base text = some number ↔ SignedDenotes base text number := by
  constructor
  · intro read
    unfold signedValue? at read
    split at read
    · exact .plus ((value?_eq_some_iff hexadecimal).mp read)
    · exact .unsigned ((value?_eq_some_iff hexadecimal).mp read)
  · intro denotes
    cases denotes with
    | unsigned denotes =>
        exact signedValue?_of_value? ((value?_eq_some_iff hexadecimal).mpr denotes)
    | plus denotes => exact (value?_eq_some_iff hexadecimal).mpr denotes

theorem signedDenotes_toDigits (positional : 1 < base) (hexadecimal : base ≤ 16) (number : Nat) :
    SignedDenotes base (Nat.toDigits base number) number :=
  .unsigned ((value?_eq_some_iff hexadecimal).mp (value?_toDigits positional hexadecimal number))

theorem decimalBelow?_eq_some_iff {bound : Nat} {text : List Char} {number : Nat} :
    decimalBelow? bound text = some number ↔ SignedDenotes 10 text number ∧ number < bound := by
  rw [decimalBelow?, Option.filter_eq_some_iff, signedValue?_eq_some_iff (by decide),
    decide_eq_true_eq]

namespace SignedDenotes

variable {text : List Char} {number : Nat}

theorem ne_nil (denotes : SignedDenotes base text number) : text ≠ [] := by
  cases denotes with
  | unsigned denotes =>
      obtain ⟨nonempty, -⟩ := denotes
      exact nonempty
  | plus => exact List.cons_ne_nil _ _

theorem sign_or_digit (hexadecimal : base ≤ 16) (denotes : SignedDenotes base text number) :
    ∀ character ∈ text, character = '+' ∨ ∃ value, digitValue? base character = some value := by
  have digits {digits : List Char} (denotes : Denotes base digits number) :
      ∀ digit ∈ digits, ∃ value, digitValue? base digit = some value :=
    exists_digitValue?_of_mem
      (accumulate?_of_value? ((value?_eq_some_iff hexadecimal).mpr denotes))
  intro character member
  cases denotes with
  | unsigned denotes => exact .inr (digits denotes character member)
  | plus denotes =>
      rcases List.mem_cons.mp member with sign | member
      · exact .inl sign
      · exact .inr (digits denotes character member)

/-- What is neither a sign nor a digit does not occur in a numeral. -/
theorem notMem (hexadecimal : base ≤ 16) (denotes : SignedDenotes base text number) {mark : Char}
    (noSign : mark ≠ '+') (noDigit : digitValue? base mark = none) : mark ∉ text := by
  intro member
  obtain sign | ⟨value, worth⟩ := denotes.sign_or_digit hexadecimal mark member
  · exact noSign sign
  · rw [noDigit] at worth
    cases worth

theorem length_utf8 (hexadecimal : base ≤ 16) (denotes : SignedDenotes base text number) :
    (utf8 text).length = text.length := by
  apply length_utf8_of_ascii
  intro character member
  obtain rfl | ⟨value, worth⟩ := denotes.sign_or_digit hexadecimal character member
  · decide
  · exact ascii_of_digitValue? worth

end SignedDenotes

end TrustRoot.Numeral
