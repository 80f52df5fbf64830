import TrustRoot.Text.Numeral

/-!
# What numerals denote

A decimal numeral without a sign is read exactly if it consists of at least one digit, and then it
denotes the number that positional notation gives, however many zeros stand at its front.  In every
base a numeral consists of digits only, and its length bounds the number.
-/

namespace TrustRoot.Numeral

theorem digitValue?_lt {base value : Nat} {digit : Char}
    (read : digitValue? base digit = some value) : value < base :=
  of_decide_eq_true (Option.filter_eq_some_iff.mp read).2

theorem exists_digitValue?_of_mem {base high number : Nat} {digits : List Char}
    (read : accumulate? base high digits = some number) :
    ∀ digit ∈ digits, ∃ value, digitValue? base digit = some value := by
  induction digits generalizing high with
  | nil => simp
  | cons digit rest ih =>
      simp only [accumulate?] at read
      split at read
      · rename_i value first
        exact List.forall_mem_cons.mpr ⟨⟨value, first⟩, ih read⟩
      · cases read

theorem lt_of_accumulate? {base high number : Nat} {digits : List Char}
    (read : accumulate? base high digits = some number) :
    number < (high + 1) * base ^ digits.length := by
  induction digits generalizing high with
  | nil =>
      obtain rfl := Option.some.inj read
      simp
  | cons digit rest ih =>
      simp only [accumulate?] at read
      split at read
      · rename_i value first
        have step : base * high + value + 1 ≤ (high + 1) * base := by
          have small := digitValue?_lt first
          rw [Nat.add_mul, Nat.one_mul, Nat.mul_comm high base]
          omega
        calc
          number < (base * high + value + 1) * base ^ rest.length := ih read
          _ ≤ (high + 1) * base * base ^ rest.length := Nat.mul_le_mul_right _ step
          _ = (high + 1) * base ^ (digit :: rest).length := by
            rw [List.length_cons, Nat.pow_succ', Nat.mul_assoc]
      · cases read

theorem accumulate?_of_value? {base number : Nat} {digits : List Char}
    (read : value? base digits = some number) : accumulate? base 0 digits = some number := by
  unfold value? at read
  split at read
  · cases read
  · exact read

/-- What is no digit does not occur in the digits of a number. -/
theorem notMem_toDigits {base : Nat} (positional : 1 < base) (hexadecimal : base ≤ 16)
    {mark : Char} (noDigit : digitValue? base mark = none) (number : Nat) :
    mark ∉ Nat.toDigits base number := by
  intro member
  have read := accumulate?_of_value? (value?_toDigits positional hexadecimal number)
  obtain ⟨value, worth⟩ := exists_digitValue?_of_mem read mark member
  rw [noDigit] at worth
  cases worth

theorem toDigits_inj {base number number' : Nat} (positional : 1 < base) (hexadecimal : base ≤ 16)
    (same : Nat.toDigits base number = Nat.toDigits base number') : number = number' := by
  have read := value?_toDigits positional hexadecimal number
  rw [same, value?_toDigits positional hexadecimal] at read
  exact (Option.some.inj read).symm

theorem digitValue?_plus (base : Nat) : digitValue? base '+' = none := rfl

/-- Digits are a numeral without a sign, since a sign is no digit. -/
theorem signedValue?_of_value? {base number : Nat} {digits : List Char}
    (read : value? base digits = some number) : signedValue? base digits = some number := by
  unfold signedValue?
  split
  · obtain ⟨value, worth⟩ := exists_digitValue?_of_mem (accumulate?_of_value? read) '+'
      List.mem_cons_self
    rw [digitValue?_plus] at worth
    cases worth
  · exact read

theorem signedValue?_lt {base number : Nat} {text : List Char} (positional : 0 < base)
    (read : signedValue? base text = some number) : number < base ^ text.length := by
  unfold signedValue? at read
  split at read
  · rename_i digits
    have bound := lt_of_accumulate? (accumulate?_of_value? read)
    rw [Nat.zero_add, Nat.one_mul] at bound
    exact Nat.lt_of_lt_of_le bound
      (Nat.pow_le_pow_right positional (Nat.le_succ digits.length))
  · have bound := lt_of_accumulate? (accumulate?_of_value? read)
    rwa [Nat.zero_add, Nat.one_mul] at bound

/-! ## Decimal numerals -/

theorem isDigit_of_digitValue? {digit : Char} {value : Nat}
    (read : digitValue? 10 digit = some value) : digit.isDigit = true := by
  unfold digitValue? at read
  obtain ⟨found, small⟩ := Option.filter_eq_some_iff.mp read
  have small : value < 10 := of_decide_eq_true small
  split at found
  · rename_i bounds
    simp only [Char.isDigit, Bool.and_eq_true, decide_eq_true_eq]
    exact bounds
  · -- Letters are worth ten or more.
    split at found
    · obtain rfl := Option.some.inj found
      omega
    · split at found
      · obtain rfl := Option.some.inj found
        omega
      · cases found

theorem isDigit_of_accumulate? {high number : Nat} {digits : List Char}
    (read : accumulate? 10 high digits = some number) : ∀ digit ∈ digits, digit.isDigit := by
  intro digit member
  obtain ⟨value, worth⟩ := exists_digitValue?_of_mem read digit member
  exact isDigit_of_digitValue? worth

theorem value?_ten_eq_some_iff {digits : List Char} {number : Nat} :
    value? 10 digits = some number ↔
      digits ≠ [] ∧ (∀ digit ∈ digits, digit.isDigit) ∧ Nat.ofDigitChars 10 digits 0 = number := by
  unfold value?
  constructor
  · intro read
    split at read
    · cases read
    · rename_i nonempty
      have allDigits := isDigit_of_accumulate? read
      rw [accumulate?_of_isDigit allDigits] at read
      exact ⟨nonempty, allDigits, Option.some.inj read⟩
  · rintro ⟨nonempty, allDigits, rfl⟩
    rw [if_neg nonempty, accumulate?_of_isDigit allDigits]

end TrustRoot.Numeral
