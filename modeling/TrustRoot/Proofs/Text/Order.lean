import TrustRoot.Proofs.Text.Utf8

/-!
# Order of texts

Texts are ordered by the code points of their characters, and that is the order of their UTF-8
octets (`Bytes.ofText_lt_iff`): where two texts differ first, the octets of the smaller character
are below those of the other at some place that both have.
-/

namespace TrustRoot

theorem cons_lt_cons_of_lt {first second : Nat} (below : first < second) (small : second < 256)
    (rest rest' : Bytes) : UInt8.ofNat first :: rest < UInt8.ofNat second :: rest' := by
  refine List.cons_lt_cons_iff.mpr (.inl ?_)
  rw [UInt8.lt_iff_toNat_lt, UInt8.toNat_ofNat', UInt8.toNat_ofNat']
  omega

/-- Only where leading octets are the same do the following ones count. -/
theorem cons_lt_cons_of_le {first second : Nat} (below : first ≤ second) (small : second < 256)
    {rest rest' : Bytes} (following : first = second → rest < rest') :
    UInt8.ofNat first :: rest < UInt8.ofNat second :: rest' := by
  rcases Nat.lt_or_eq_of_le below with less | same
  · exact cons_lt_cons_of_lt less small rest rest'
  · exact List.cons_lt_cons_iff.mpr (.inr ⟨congrArg UInt8.ofNat same, following same⟩)

/-- The octets of a smaller character are smaller, whatever follows. -/
theorem utf8EncodeChar_append_lt {first second : Char} (below : first < second)
    (rest rest' : Bytes) :
    String.utf8EncodeChar first ++ rest < String.utf8EncodeChar second ++ rest' := by
  have codes : first.val.toNat < second.val.toNat := below
  have bound : second.val.toNat < 1114112 := by
    rcases second.valid with low | high
    · exact Nat.lt_trans low (by decide)
    · exact high.2
  simp only [String.utf8EncodeChar]
  generalize first.val.toNat = code, second.val.toNat = code' at codes bound
  -- A longer form starts with a larger octet, and forms of one length are compared digit by digit.
  by_cases one : code ≤ 127
  · simp only [one, if_true]
    by_cases one' : code' ≤ 127
    · simp only [one', if_true]
      exact cons_lt_cons_of_lt codes (by omega) _ _
    · simp only [one', if_false]
      repeat' split
      all_goals exact cons_lt_cons_of_lt (by omega) (by omega) _ _
  have one' : ¬ code' ≤ 127 := by omega
  simp only [one, one', if_false]
  by_cases two : code ≤ 2047
  · simp only [two, if_true]
    by_cases two' : code' ≤ 2047
    · simp only [two', if_true]
      refine cons_lt_cons_of_le (by omega) (by omega) fun same => ?_
      exact cons_lt_cons_of_lt (by omega) (by omega) _ _
    · simp only [two', if_false]
      repeat' split
      all_goals exact cons_lt_cons_of_lt (by omega) (by omega) _ _
  have two' : ¬ code' ≤ 2047 := by omega
  simp only [two, two', if_false]
  by_cases three : code ≤ 65535
  · simp only [three, if_true]
    by_cases three' : code' ≤ 65535
    · simp only [three', if_true]
      refine cons_lt_cons_of_le (by omega) (by omega) fun same => ?_
      refine cons_lt_cons_of_le (by omega) (by omega) fun same' => ?_
      exact cons_lt_cons_of_lt (by omega) (by omega) _ _
    · simp only [three', if_false]
      exact cons_lt_cons_of_lt (by omega) (by omega) _ _
  have three' : ¬ code' ≤ 65535 := by omega
  simp only [three, three', if_false]
  refine cons_lt_cons_of_le (by omega) (by omega) fun same => ?_
  refine cons_lt_cons_of_le (by omega) (by omega) fun same' => ?_
  refine cons_lt_cons_of_le (by omega) (by omega) fun same'' => ?_
  exact cons_lt_cons_of_lt (by omega) (by omega) _ _

theorem utf8_lt {first second : List Char} (below : first < second) : utf8 first < utf8 second := by
  induction below with
  | @nil character characters =>
      rw [utf8_cons]
      cases whole : String.utf8EncodeChar character ++ utf8 characters with
      | nil => simp at whole
      | cons octet octets => exact .nil
  | @cons character first second _ ih =>
      rw [utf8_cons, utf8_cons]
      exact List.append_left_lt ih
  | @rel character first character' second less =>
      rw [utf8_cons, utf8_cons]
      exact utf8EncodeChar_append_lt less _ _

/-- Texts are ordered as their UTF-8 octets are. -/
theorem Bytes.ofText_lt_iff {first second : String} :
    Bytes.ofText first < Bytes.ofText second ↔ first < second := by
  have octets {first second : String} (below : first < second) :
      Bytes.ofText first < Bytes.ofText second := by
    have listed : utf8 first.toList < utf8 second.toList := utf8_lt below
    rwa [← Bytes.ofText_ofList, ← Bytes.ofText_ofList, String.ofList_toList,
      String.ofList_toList] at listed
  constructor
  · intro below
    rcases Std.lt_trichotomy first second with less | rfl | more
    · exact less
    · exact absurd below (List.lt_irrefl _)
    · exact absurd (octets more) (List.lt_asymm below)
  · exact octets

end TrustRoot
