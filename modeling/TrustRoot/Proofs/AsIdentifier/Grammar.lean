import TrustRoot.Error
import TrustRoot.Proofs.Audit
import TrustRoot.Proofs.Text.Positional
import TrustRoot.Proofs.Text.Separated

/-!
# The grammar of identifiers

A text spells an identifier if its first hyphen stands between the numeral of an isolation domain and
the number of a system, which is a decimal numeral of the BGP range or three groups of hexadecimal
digits.  Exactly these texts are read, each as the numbers that its numerals denote, and no part of a
number is lost when it is stored in a word.  Every other text is refused by an error that carries it
as it is (`ofText_exact`).
-/

namespace TrustRoot.AsIdentifier

open Numeral (SignedDenotes)

/-- The number that a group denotes: a hexadecimal numeral of one to four octets, its sign among
them. -/
structure IsGroup (group : List Char) (value : Nat) : Prop where
  size : 1 ≤ (utf8 group).length ∧ (utf8 group).length ≤ 4
  denotes : SignedDenotes 16 group value

/-- The number of a system whose high, middle and low 16 bits stand between the colons of a text. -/
inductive Grouped (text : List Char) : Nat → Prop where
  | groups {first second third : List Char} {high middle low : Nat}
      (parts : text.splitOn ':' = [first, second, third]) (isHigh : IsGroup first high)
      (isMiddle : IsGroup second middle) (isLow : IsGroup third low) :
      Grouped text (high * 2 ^ 32 + middle * 2 ^ 16 + low)

/-- The number of a system that a text denotes. -/
inductive DenotesSystem (text : List Char) (number : Nat) : Prop where
  | decimal (plain : ':' ∉ text) (denotes : SignedDenotes 10 text number)
      (inRange : number ≤ 2 ^ 32 - 1)
  | grouped (grouped : Grouped text number)

/-- The isolation domain and the number of a system that a text denotes. -/
inductive Spells (text : String) (isd number : Nat) : Prop where
  | parts {domain system : List Char} (split : text.toList = domain ++ '-' :: system)
      (first : '-' ∉ domain) (denotes : SignedDenotes 10 domain isd) (small : isd < 2 ^ 16)
      (denotesSystem : DenotesSystem system number)

/-! ## Parts of a text -/

theorem splitFirst_eq_some_iff {separator : Char} {text before after : List Char} :
    splitFirst separator text = some (before, after) ↔
      text = before ++ separator :: after ∧ separator ∉ before := by
  induction text generalizing before with
  | nil => simp [splitFirst]
  | cons character rest ih =>
      rw [splitFirst]
      by_cases isSeparator : character = separator
      · subst isSeparator
        rw [if_pos rfl]
        constructor
        · rintro ⟨⟩
          exact ⟨rfl, List.not_mem_nil⟩
        · rintro ⟨same, absent⟩
          cases before with
          | nil =>
              cases same
              rfl
          | cons first before =>
              cases same
              exact absurd List.mem_cons_self absent
      · rw [if_neg isSeparator, Option.map_eq_some_iff]
        constructor
        · rintro ⟨⟨front, back⟩, found, ⟨⟩⟩
          obtain ⟨rfl, absent⟩ := ih.mp found
          exact ⟨rfl, List.not_mem_cons_of_ne_of_not_mem (Ne.symm isSeparator) absent⟩
        · rintro ⟨same, absent⟩
          cases before with
          | nil =>
              cases same
              exact absurd rfl isSeparator
          | cons first before =>
              cases same
              exact ⟨(before, after),
                ih.mpr ⟨rfl, List.not_mem_of_not_mem_cons absent⟩, rfl⟩

/-! ## Groups -/

/-- A group has as many octets as characters. -/
theorem isGroup_iff {group : List Char} {value : Nat} :
    IsGroup group value ↔ group.length ≤ 4 ∧ SignedDenotes 16 group value := by
  constructor
  · rintro ⟨⟨-, short⟩, denotes⟩
    rw [denotes.length_utf8 (Nat.le_refl 16)] at short
    exact ⟨short, denotes⟩
  · rintro ⟨short, denotes⟩
    have nonempty : 1 ≤ group.length := List.length_pos_iff.mpr denotes.ne_nil
    rw [← denotes.length_utf8 (Nat.le_refl 16)] at short nonempty
    exact ⟨⟨nonempty, short⟩, denotes⟩

theorem group?_eq_some_iff {group : List Char} {value : Nat} :
    group? group = some value ↔ IsGroup group value := by
  rw [isGroup_iff, group?, Option.ite_none_right_eq_some,
    Numeral.signedValue?_eq_some_iff (Nat.le_refl 16)]

theorem IsGroup.lt {group : List Char} {value : Nat} (isGroup : IsGroup group value) :
    value < 2 ^ 16 := by
  obtain ⟨short, denotes⟩ := isGroup_iff.mp isGroup
  have read := (Numeral.signedValue?_eq_some_iff (Nat.le_refl 16)).mpr denotes
  calc
    value < 16 ^ group.length := Numeral.signedValue?_lt (by decide) read
    _ ≤ 16 ^ 4 := Nat.pow_le_pow_right (by decide) short
    _ = 2 ^ 16 := by decide

theorem IsGroup.colon_notMem {group : List Char} {value : Nat} (isGroup : IsGroup group value) :
    ':' ∉ group :=
  isGroup.denotes.notMem (Nat.le_refl 16) (by decide) rfl

theorem splitOn_groups_iff {text first second third : List Char} {high middle low : Nat}
    (isHigh : IsGroup first high) (isMiddle : IsGroup second middle) (isLow : IsGroup third low) :
    text.splitOn ':' = [first, second, third] ↔
      text = first ++ ':' :: (second ++ ':' :: third) := by
  have absent : ∀ group ∈ [first, second, third], ':' ∉ group := by
    simp only [List.forall_mem_cons]
    exact ⟨isHigh.colon_notMem, isMiddle.colon_notMem, isLow.colon_notMem, by simp⟩
  rw [Text.splitOn_eq_iff (List.cons_ne_nil _ _) absent]
  simp

theorem groupedNumber?_eq_some_iff {text : List Char} {number : Nat} :
    groupedNumber? text = some number ↔ Grouped text number := by
  simp only [groupedNumber?, Option.bind_eq_bind, Option.bind_eq_some_iff, Option.pure_def,
    Option.some.injEq, Prod.exists, group?_eq_some_iff, splitFirst_eq_some_iff]
  have sum (high middle low : Nat) :
      (high * 65536 + middle) * 65536 + low = high * 2 ^ 32 + middle * 2 ^ 16 + low := by omega
  constructor
  · rintro ⟨first, _, ⟨whole, -⟩, second, third, ⟨rfl, -⟩, high, isHigh, middle, isMiddle, low,
      isLow, rfl⟩
    rw [sum]
    exact .groups ((splitOn_groups_iff isHigh isMiddle isLow).mpr whole) isHigh isMiddle isLow
  · rintro ⟨parts, isHigh, isMiddle, isLow⟩
    have whole := (splitOn_groups_iff isHigh isMiddle isLow).mp parts
    exact ⟨_, _, ⟨whole, isHigh.colon_notMem⟩, _, _, ⟨rfl, isMiddle.colon_notMem⟩, _, isHigh, _,
      isMiddle, _, isLow, sum _ _ _⟩

theorem Grouped.colon_mem {text : List Char} {number : Nat} (grouped : Grouped text number) :
    ':' ∈ text := by
  obtain ⟨parts, isHigh, isMiddle, isLow⟩ := grouped
  rw [(splitOn_groups_iff isHigh isMiddle isLow).mp parts]
  exact List.mem_append_right _ List.mem_cons_self

/-! ## Systems -/

theorem DenotesSystem.lt {text : List Char} {number : Nat}
    (denotes : DenotesSystem text number) : number < 2 ^ 48 := by
  cases denotes with
  | decimal _ _ inRange => omega
  | grouped grouped =>
      obtain ⟨-, isHigh, isMiddle, isLow⟩ := grouped
      have highSmall := isHigh.lt
      have middleSmall := isMiddle.lt
      have lowSmall := isLow.lt
      omega

theorem readNumber_of_denotes {text : List Char} {number : Nat}
    (denotes : DenotesSystem text number) : readNumber text = .ok (UInt64.ofNat number) := by
  unfold readNumber
  cases denotes with
  | decimal plain denotes inRange =>
      have read : Numeral.decimalBelow? (2 ^ 64) text = some number :=
        Numeral.decimalBelow?_eq_some_iff.mpr
          ⟨denotes, Nat.lt_of_le_of_lt inRange (by decide)⟩
      have notBeyond : ¬ bgpLimit < number := Nat.not_lt.mpr inRange
      simp only [if_neg plain, read, if_neg notBeyond]
  | grouped grouped =>
      simp only [if_pos grouped.colon_mem, groupedNumber?_eq_some_iff.mpr grouped]

theorem denotes_of_readNumber {text : List Char} {number : UInt64}
    (read : readNumber text = .ok number) : DenotesSystem text number.toNat := by
  unfold readNumber at read
  split at read
  · split at read
    · rename_i value found
      have denotes : DenotesSystem text value := .grouped (groupedNumber?_eq_some_iff.mp found)
      cases read
      rwa [UInt64.toNat_ofNat_of_lt' (Nat.lt_trans denotes.lt (by decide))]
    · cases read
  · rename_i plain
    split at read
    · rename_i value found
      split at read
      · cases read
      · rename_i notBeyond
        obtain ⟨denotes, fits⟩ := Numeral.decimalBelow?_eq_some_iff.mp found
        cases read
        rw [UInt64.toNat_ofNat_of_lt' fits]
        exact .decimal plain denotes (Nat.not_lt.mp notBeyond)
    · cases read

/-! ## Identifiers -/

theorem parse_of_spells {text : String} {isd number : Nat} (spells : Spells text isd number) :
    parse text = .ok ⟨UInt16.ofNat isd, UInt64.ofNat number⟩ := by
  obtain ⟨split, first, denotes, small, denotesSystem⟩ := spells
  rw [parse, read, splitFirst_eq_some_iff.mpr ⟨split, first⟩]
  simp only [Numeral.decimalBelow?_eq_some_iff.mpr ⟨denotes, small⟩,
    readNumber_of_denotes denotesSystem, Except.map]

theorem spells_of_parse {text : String} {identifier : AsIdentifier}
    (parsed : parse text = .ok identifier) :
    Spells text identifier.isd.toNat identifier.number.toNat := by
  unfold parse read at parsed
  split at parsed
  · cases parsed
  · rename_i domain system separated
    obtain ⟨split, first⟩ := splitFirst_eq_some_iff.mp separated
    split at parsed
    · cases parsed
    · rename_i isd found
      obtain ⟨denotes, small⟩ := Numeral.decimalBelow?_eq_some_iff.mp found
      cases number : readNumber system with
      | error fault =>
          rw [number] at parsed
          cases parsed
      | ok value =>
          rw [number] at parsed
          cases parsed
          rw [← UInt16.toNat_ofNat_of_lt' small] at denotes
          exact .parts split first denotes (UInt16.toNat_lt _) (denotes_of_readNumber number)

/-- What a text spells fits into words, so it is stored as it is. -/
theorem spells_iff {text : String} {isd number : Nat} :
    Spells text isd number ↔
      ∃ identifier, ofText text = .ok identifier ∧
        identifier.isd.toNat = isd ∧ identifier.number.toNat = number := by
  constructor
  · intro spells
    refine ⟨_, mapError_eq_ok_iff.mpr (parse_of_spells spells), ?_⟩
    obtain ⟨-, -, -, small, denotesSystem⟩ := spells
    exact ⟨UInt16.toNat_ofNat_of_lt' small,
      UInt64.toNat_ofNat_of_lt' (Nat.lt_trans denotesSystem.lt (by decide))⟩
  · rintro ⟨identifier, accepted, rfl, rfl⟩
    exact spells_of_parse (mapError_eq_ok_iff.mp accepted)

/-- A text is read exactly if it spells an identifier, and then as the numbers that it spells.  Any
other text is refused, and the error carries the very text. -/
theorem ofText_exact (text : String) :
    ((∃ identifier, ofText text = .ok identifier) ↔ ∃ isd number, Spells text isd number) ∧
    (∀ isd number, Spells text isd number ↔
      ∃ identifier, ofText text = .ok identifier ∧
        identifier.isd.toNat = isd ∧ identifier.number.toNat = number) ∧
    ((∃ fault, ofText text = .error (.identifier text fault)) ↔
      ¬ ∃ isd number, Spells text isd number) := by
  refine ⟨⟨?_, ?_⟩, fun _ _ => spells_iff, ⟨?_, ?_⟩⟩
  · rintro ⟨identifier, accepted⟩
    exact ⟨_, _, spells_iff.mpr ⟨identifier, accepted, rfl, rfl⟩⟩
  · rintro ⟨_, _, spells⟩
    obtain ⟨identifier, accepted, -⟩ := spells_iff.mp spells
    exact ⟨identifier, accepted⟩
  · rintro ⟨_, refused⟩ ⟨_, _, spells⟩
    obtain ⟨_, accepted, -⟩ := spells_iff.mp spells
    rw [accepted] at refused
    cases refused
  · intro unspelled
    cases parsed : parse text with
    | ok identifier => exact absurd ⟨_, _, spells_of_parse parsed⟩ unspelled
    | error fault => exact ⟨fault, mapError_eq_error_iff.mpr ⟨fault, parsed, rfl⟩⟩

example : ofText "+01-Ff00:+0:0110" = .ok ⟨1, 0xff0000000110⟩ := rfl

example : ofText "1-0:0:00011" = .error (.identifier "1-0:0:00011" .groups) := rfl

end TrustRoot.AsIdentifier
