/-!
# Numerals

Digits of a base up to 16 and the numbers that they denote. Reading accepts digits only; a signed
numeral may begin with one plus sign. Numerals are written by `Nat.toDigits`, and reading gives back
what was written (`Numeral.value?_toDigits`).
-/

namespace TrustRoot.Numeral

/-- The value of a digit in either letter case, if it is below the base. -/
def digitValue? (base : Nat) (digit : Char) : Option Nat :=
  let value? : Option Nat :=
    if '0' ≤ digit ∧ digit ≤ '9' then some (digit.toNat - '0'.toNat)
    else if 'a' ≤ digit ∧ digit ≤ 'f' then some (digit.toNat - 'a'.toNat + 10)
    else if 'A' ≤ digit ∧ digit ≤ 'F' then some (digit.toNat - 'A'.toNat + 10)
    else none
  value?.filter (· < base)

/-- The number that `digits` denote after those already worth `high`. -/
def accumulate? (base high : Nat) : List Char → Option Nat
  | [] => some high
  | digit :: rest =>
    match digitValue? base digit with
    | some value => accumulate? base (base * high + value) rest
    | none => none

def value? (base : Nat) (digits : List Char) : Option Nat :=
  if digits = [] then none else accumulate? base 0 digits

def signedValue? (base : Nat) : List Char → Option Nat
  | '+' :: digits => value? base digits
  | digits => value? base digits

/-- The number of a signed decimal numeral below `bound`. -/
def decimalBelow? (bound : Nat) (text : List Char) : Option Nat :=
  (signedValue? 10 text).filter (· < bound)

theorem digitValue?_of_isDigit {digit : Char} (isDigit : digit.isDigit = true) :
    digitValue? 10 digit = some (digit.toNat - '0'.toNat) := by
  simp only [Char.isDigit, Bool.and_eq_true, decide_eq_true_eq] at isDigit
  have low : '0' ≤ digit := isDigit.1
  have high : digit ≤ '9' := isDigit.2
  have bound : digit.toNat ≤ 57 := isDigit.2
  have small : digit.toNat - '0'.toNat < 10 := by
    have : '0'.toNat = 48 := rfl
    omega
  simp only [digitValue?, low, high, and_self, if_true, Option.filter_some, small, decide_true]

theorem accumulate?_of_isDigit {digits : List Char} (allDigits : ∀ digit ∈ digits, digit.isDigit)
    (high : Nat) : accumulate? 10 high digits = some (Nat.ofDigitChars 10 digits high) := by
  induction digits generalizing high with
  | nil => rfl
  | cons digit rest ih =>
      have isDigit := allDigits digit List.mem_cons_self
      have others : ∀ digit ∈ rest, digit.isDigit := fun digit member =>
        allDigits digit (List.mem_cons_of_mem _ member)
      simp only [accumulate?, digitValue?_of_isDigit isDigit, ih others, Nat.ofDigitChars_cons]

theorem digitValue?_digitChar {base value : Nat} (hexadecimal : base ≤ 16) (small : value < base) :
    digitValue? base value.digitChar = some value := by
  have all : ∀ value : Fin 16, digitValue? 16 value.val.digitChar = some value.val := by decide
  have read := all ⟨value, Nat.lt_of_lt_of_le small hexadecimal⟩
  -- The base only bounds what the character is worth.
  obtain ⟨found, -⟩ := Option.filter_eq_some_iff.mp read
  exact Option.filter_eq_some_iff.mpr ⟨found, decide_eq_true small⟩

theorem accumulate?_append (base high : Nat) (front back : List Char) :
    accumulate? base high (front ++ back) =
      (accumulate? base high front).bind fun high => accumulate? base high back := by
  induction front generalizing high with
  | nil => rfl
  | cons digit rest ih =>
      simp only [List.cons_append, accumulate?]
      cases digitValue? base digit with
      | none => rfl
      | some value => exact ih _

/-- Reading the digits of a number gives the number. -/
theorem value?_toDigits {base : Nat} (positional : 1 < base) (hexadecimal : base ≤ 16)
    (number : Nat) : value? base (Nat.toDigits base number) = some number := by
  rw [value?, if_neg Nat.toDigits_ne_nil]
  induction number using Nat.base_induction base positional with
  | single digit small =>
      rw [Nat.toDigits_of_lt_base small]
      simp only [accumulate?, digitValue?_digitChar hexadecimal small, Nat.mul_zero, Nat.zero_add]
  | digit high digit small highPositive ih =>
      rw [← Nat.toDigits_append_toDigits positional highPositive small, accumulate?_append, ih,
        Nat.toDigits_of_lt_base small]
      simp only [Option.bind_some, accumulate?, digitValue?_digitChar hexadecimal small]

end TrustRoot.Numeral
