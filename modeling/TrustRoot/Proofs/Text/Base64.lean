import TrustRoot.Text.Base64
import TrustRoot.Proofs.Text.Utf8

/-!
# Base64 reads back

Decoding the Base64 form of octets gives the octets again, so the form is unambiguous.  Where
padding is optional, the same holds if some of it is left out (`decode_of_spells`).  The groups of
four symbols are followed along the recursion of the encoder; its three ways to end are the last
group of the decoder.
-/

namespace TrustRoot.Base64

/-- A symbol is an ASCII octet other than the padding. -/
theorem symbol_ascii (value : Nat) :
    (symbol value).toNat < 128 ∧ symbol value ≠ pad := by
  by_cases small : value < 63
  · have all : ∀ value : Fin 63,
        (symbol value.val).toNat < 128 ∧ symbol value.val ≠ pad := by decide
    exact all ⟨value, small⟩
  · have last : symbol value = 0x2F := by
      simp only [symbol]
      rw [if_neg (by omega), if_neg (by omega), if_neg (by omega), if_neg (by omega)]
    rw [last]
    decide

/-- The last group goes on after a symbol as long as no padding has been seen. -/
theorem lastGroup_symbol (offset : Nat) (read : List (UInt8 × Nat)) (rest : Bytes)
    {value : Nat} (small : value < 64) :
    lastGroup offset read 0 (symbol value :: rest) =
      lastGroup offset ((symbol value, value) :: read) 0 rest := by
  rw [lastGroup, if_neg (symbol_ascii value).2, if_neg (by decide), value?_symbol value small]

theorem lastGroup_pad {offset : Nat} {read : List (UInt8 × Nat)} {pads : Nat} (rest : Bytes)
    (enough : 2 ≤ read.length + pads) :
    lastGroup offset read pads (pad :: rest) = lastGroup offset read (pads + 1) rest := by
  rw [lastGroup, if_pos rfl, if_neg (Nat.not_lt.mpr enough)]

/-- Padding ends the last group. -/
theorem lastGroup_pads {offset : Nat} {read : List (UInt8 × Nat)} {pads : Nat}
    (enough : 2 ≤ read.length + pads) (more : Nat) :
    lastGroup offset read pads (List.replicate more pad) = .ok (read.reverse, pads + more) := by
  induction more generalizing pads with
  | zero => rfl
  | succ more ih =>
      rw [List.replicate_succ, lastGroup_pad _ enough, ih (Nat.le_succ_of_le enough),
        Nat.add_right_comm, Nat.add_assoc]

/-- The first of the four parts of a group is the value of a symbol, as the others are. -/
theorem leading_lt {bits : Nat} (small : bits < 2 ^ 24) : bits / 262144 < 64 := by
  omega

theorem group_lt (first second third : UInt8) :
    first.toNat * 65536 + second.toNat * 256 + third.toNat < 2 ^ 24 := by
  have firstBound := first.toNat_lt
  have secondBound := second.toNat_lt
  have thirdBound := third.toNat_lt
  omega

/-- The three octets of a group of four symbols. -/
theorem octetsOf_split (first second third : UInt8) :
    let bits := first.toNat * 65536 + second.toNat * 256 + third.toNat
    octetsOf (bits / 262144) (bits / 4096 % 64) (bits / 64 % 64) (bits % 64) =
      [first, second, third] := by
  intro bits
  have firstBound := first.toNat_lt
  have secondBound := second.toNat_lt
  have thirdBound := third.toNat_lt
  have whole : bits / 262144 * 262144 + bits / 4096 % 64 * 4096 + bits / 64 % 64 * 64 +
      bits % 64 = bits := by omega
  have high : bits / 65536 = first.toNat := by omega
  have middle : bits / 256 % 256 = second.toNat := by omega
  have low : bits % 256 = third.toNat := by omega
  simp only [octetsOf, whole, high, middle, low, UInt8.ofNat_toNat]

/-- Two symbols without unused bits are a last group, with two pads or, where padding is optional,
any number of them. -/
theorem decodeLast_two_symbols {padding : Padding} (offset : Nat) {first second pads : Nat}
    (firstSmall : first < 64) (secondSmall : second < 64) (unused : second % 16 = 0)
    (complete : padding = .required → pads = 2) :
    decodeLast padding offset (symbol first :: symbol second :: List.replicate pads pad) =
      .ok ((octetsOf first second 0 0).take 1) := by
  rw [decodeLast, lastGroup_symbol _ _ _ firstSmall, lastGroup_symbol _ _ _ secondSmall,
    lastGroup_pads (by simp)]
  cases padding with
  | required => simp [bind, Except.bind, unused, complete rfl]
  | optional => simp [bind, Except.bind, unused]

theorem decodeLast_three_symbols {padding : Padding} (offset : Nat) {first second third pads : Nat}
    (firstSmall : first < 64) (secondSmall : second < 64) (thirdSmall : third < 64)
    (unused : third % 4 = 0) (complete : padding = .required → pads = 1) :
    decodeLast padding offset
        (symbol first :: symbol second :: symbol third :: List.replicate pads pad) =
      .ok ((octetsOf first second third 0).take 2) := by
  rw [decodeLast, lastGroup_symbol _ _ _ firstSmall, lastGroup_symbol _ _ _ secondSmall,
    lastGroup_symbol _ _ _ thirdSmall, lastGroup_pads (by simp)]
  cases padding with
  | required => simp [bind, Except.bind, unused, complete rfl]
  | optional => simp [bind, Except.bind, unused]

/-- Two symbols carry one octet. -/
theorem decodeLast_one {padding : Padding} (offset : Nat) (first : UInt8) {pads : Nat}
    (complete : padding = .required → pads = 2) :
    decodeLast padding offset (symbol (first.toNat * 65536 / 262144) ::
      symbol (first.toNat * 65536 / 4096 % 64) :: List.replicate pads pad) = .ok [first] := by
  have bound := first.toNat_lt
  obtain ⟨bits, sum⟩ : ∃ bits, bits = first.toNat * 65536 := ⟨_, rfl⟩
  rw [← sum]
  have high : bits / 262144 < 64 := leading_lt (by omega)
  have low : bits / 4096 % 64 < 64 := Nat.mod_lt _ (by decide)
  have unused : bits / 4096 % 64 % 16 = 0 := by omega
  have whole : bits / 262144 * 262144 + bits / 4096 % 64 * 4096 = bits := by omega
  have upper : bits / 65536 = first.toNat := by omega
  rw [decodeLast_two_symbols offset high low unused complete]
  simp [octetsOf, whole, upper]

/-- Three symbols carry two octets. -/
theorem decodeLast_two {padding : Padding} (offset : Nat) (first second : UInt8) {pads : Nat}
    (complete : padding = .required → pads = 1) :
    decodeLast padding offset
      (symbol ((first.toNat * 65536 + second.toNat * 256) / 262144) ::
        symbol ((first.toNat * 65536 + second.toNat * 256) / 4096 % 64) ::
        symbol ((first.toNat * 65536 + second.toNat * 256) / 64 % 64) ::
        List.replicate pads pad) = .ok [first, second] := by
  have firstBound := first.toNat_lt
  have secondBound := second.toNat_lt
  obtain ⟨bits, sum⟩ : ∃ bits, bits = first.toNat * 65536 + second.toNat * 256 := ⟨_, rfl⟩
  rw [← sum]
  have high : bits / 262144 < 64 := leading_lt (by omega)
  have middle : bits / 4096 % 64 < 64 := Nat.mod_lt _ (by decide)
  have low : bits / 64 % 64 < 64 := Nat.mod_lt _ (by decide)
  have unused : bits / 64 % 64 % 4 = 0 := by omega
  have whole : bits / 262144 * 262144 + bits / 4096 % 64 * 4096 + bits / 64 % 64 * 64 =
      bits := by omega
  have upper : bits / 65536 = first.toNat := by omega
  have lower : bits / 256 % 256 = second.toNat := by omega
  rw [decodeLast_three_symbols offset high middle low unused complete]
  simp [octetsOf, whole, upper, lower]

theorem decodeLast_three (padding : Padding) (offset : Nat) (first second third : UInt8) :
    decodeLast padding offset (encode [first, second, third]) = .ok [first, second, third] := by
  have split := octetsOf_split first second third
  let bits := first.toNat * 65536 + second.toNat * 256 + third.toNat
  have highest := leading_lt (group_lt first second third)
  have part (number : Nat) : number % 64 < 64 := Nat.mod_lt number (by decide)
  change decodeLast padding offset [symbol (bits / 262144), symbol (bits / 4096 % 64),
    symbol (bits / 64 % 64), symbol (bits % 64)] = _
  rw [decodeLast, lastGroup_symbol _ _ _ highest, lastGroup_symbol _ _ _ (part _),
    lastGroup_symbol _ _ _ (part _), lastGroup_symbol _ _ _ (part _), lastGroup]
  exact congrArg Except.ok split

theorem valueAt_symbol (offset : Nat) {value : Nat} (small : value < 64) :
    valueAt offset (symbol value) = .ok value := by
  rw [valueAt, value?_symbol value small]

/-! ## Padding that is left out -/

/-- A text is the Base64 form of octets, of which some padding is left out unless it is required. -/
def Spells (padding : Padding) (text octets : Bytes) : Prop :=
  ∃ missing, text ++ List.replicate missing pad = encode octets ∧
    (padding = .required → missing = 0)

theorem spells_encode (padding : Padding) (octets : Bytes) :
    Spells padding (encode octets) octets :=
  ⟨0, List.append_nil _, fun _ => rfl⟩

/-- Before a symbol no padding is left out. -/
theorem exists_tail_of_append_pads {text rest : Bytes} {octet : UInt8} {missing : Nat}
    (notPad : octet ≠ pad) (form : text ++ List.replicate missing pad = octet :: rest) :
    ∃ tail, text = octet :: tail ∧ tail ++ List.replicate missing pad = rest := by
  cases text with
  | nil =>
      have listed : octet ∈ List.replicate missing pad := by
        rw [List.nil_append] at form
        simp [form]
      exact absurd (List.eq_of_mem_replicate listed) notPad
  | cons head tail =>
      obtain ⟨rfl, rest⟩ := List.cons.inj form
      exact ⟨tail, rfl, rest⟩

/-- What is left of padding is padding. -/
theorem eq_pads_of_append_pads {tail : Bytes} {missing : Nat} (pads : Nat)
    (form : tail ++ List.replicate missing pad = List.replicate pads pad) :
    ∃ kept, tail = List.replicate kept pad ∧ kept + missing = pads := by
  have all := (List.append_eq_replicate_iff.mp form).2.1
  have count := congrArg List.length form
  rw [List.length_append, List.length_replicate, List.length_replicate] at count
  exact ⟨tail.length, all, count⟩

section Inversion

variable {padding : Padding} {text : Bytes}

theorem Spells.nil (spells : Spells padding text []) : text = [] := by
  obtain ⟨missing, form, -⟩ := spells
  exact (List.append_eq_nil_iff.mp form).1

theorem Spells.one {first : UInt8} (spells : Spells padding text [first]) :
    ∃ pads, text = symbol (first.toNat * 65536 / 262144) ::
        symbol (first.toNat * 65536 / 4096 % 64) :: List.replicate pads pad ∧
      pads ≤ 2 ∧ (padding = .required → pads = 2) := by
  obtain ⟨missing, form, complete⟩ := spells
  rw [encode] at form
  obtain ⟨afterFirst, rfl, formFirst⟩ := exists_tail_of_append_pads (symbol_ascii _).2 form
  obtain ⟨afterSecond, rfl, formSecond⟩ := exists_tail_of_append_pads (symbol_ascii _).2 formFirst
  obtain ⟨kept, rfl, total⟩ := eq_pads_of_append_pads 2 formSecond
  exact ⟨kept, rfl, by omega, fun required => by have := complete required; omega⟩

theorem Spells.two {first second : UInt8} (spells : Spells padding text [first, second]) :
    ∃ pads, text = symbol ((first.toNat * 65536 + second.toNat * 256) / 262144) ::
        symbol ((first.toNat * 65536 + second.toNat * 256) / 4096 % 64) ::
        symbol ((first.toNat * 65536 + second.toNat * 256) / 64 % 64) ::
        List.replicate pads pad ∧
      pads ≤ 1 ∧ (padding = .required → pads = 1) := by
  obtain ⟨missing, form, complete⟩ := spells
  rw [encode] at form
  obtain ⟨afterFirst, rfl, formFirst⟩ := exists_tail_of_append_pads (symbol_ascii _).2 form
  obtain ⟨afterSecond, rfl, formSecond⟩ := exists_tail_of_append_pads (symbol_ascii _).2 formFirst
  obtain ⟨afterThird, rfl, formThird⟩ := exists_tail_of_append_pads (symbol_ascii _).2 formSecond
  obtain ⟨kept, rfl, total⟩ := eq_pads_of_append_pads 1 formThird
  exact ⟨kept, rfl, by omega, fun required => by have := complete required; omega⟩

theorem Spells.three {first second third : UInt8} {rest : Bytes}
    (spells : Spells padding text (first :: second :: third :: rest)) :
    let bits := first.toNat * 65536 + second.toNat * 256 + third.toNat
    ∃ tail, text = symbol (bits / 262144) :: symbol (bits / 4096 % 64) ::
        symbol (bits / 64 % 64) :: symbol (bits % 64) :: tail ∧ Spells padding tail rest := by
  obtain ⟨missing, form, complete⟩ := spells
  rw [encode] at form
  obtain ⟨afterFirst, rfl, formFirst⟩ := exists_tail_of_append_pads (symbol_ascii _).2 form
  obtain ⟨afterSecond, rfl, formSecond⟩ := exists_tail_of_append_pads (symbol_ascii _).2 formFirst
  obtain ⟨afterThird, rfl, formThird⟩ := exists_tail_of_append_pads (symbol_ascii _).2 formSecond
  obtain ⟨afterFourth, rfl, formFourth⟩ := exists_tail_of_append_pads (symbol_ascii _).2 formThird
  exact ⟨afterFourth, rfl, missing, formFourth, complete⟩

end Inversion

/-- A single octet more than complete groups is never left. -/
theorem Spells.length_mod {padding : Padding} {text octets : Bytes}
    (spells : Spells padding text octets) : text.length % 4 ≠ 1 := by
  induction octets using encode.induct generalizing text with
  | case1 => simp [spells.nil]
  | case2 first =>
      obtain ⟨pads, rfl, few, -⟩ := spells.one
      simp only [List.length_cons, List.length_replicate]
      omega
  | case3 first second =>
      obtain ⟨pads, rfl, few, -⟩ := spells.two
      simp only [List.length_cons, List.length_replicate]
      omega
  | case4 first second third rest ih =>
      obtain ⟨tail, rfl, others⟩ := spells.three
      have shorter := ih others
      simp only [List.length_cons]
      omega

/-- In complete groups no padding is left out. -/
theorem Spells.eq_encode {padding : Padding} {text octets : Bytes}
    (spells : Spells padding text octets) (complete : text.length % 4 = 0) :
    text = encode octets := by
  induction octets using encode.induct generalizing text with
  | case1 => exact spells.nil
  | case2 first =>
      obtain ⟨pads, rfl, few, -⟩ := spells.one
      simp only [List.length_cons, List.length_replicate] at complete
      obtain rfl : pads = 2 := by omega
      rfl
  | case3 first second =>
      obtain ⟨pads, rfl, few, -⟩ := spells.two
      simp only [List.length_cons, List.length_replicate] at complete
      obtain rfl : pads = 1 := by omega
      rfl
  | case4 first second third rest ih =>
      obtain ⟨tail, rfl, others⟩ := spells.three
      simp only [List.length_cons] at complete
      rw [ih others (by omega)]
      rfl

theorem decodeGroups_of_spells {padding : Padding} {text octets : Bytes}
    (spells : Spells padding text octets) (offset : Nat) :
    decodeGroups padding offset text = .ok octets := by
  induction octets using encode.induct generalizing text offset with
  | case1 => simp [spells.nil, decodeGroups, decodeLast, lastGroup, bind, Except.bind]
  | case2 first =>
      obtain ⟨pads, rfl, few, complete⟩ := spells.one
      rw [decodeGroups.eq_2]
      · exact decodeLast_one offset first complete
      · intro _ _ _ _ _ _ longer
        have count := congrArg List.length longer
        simp only [List.length_cons, List.length_replicate] at count
        omega
  | case3 first second =>
      obtain ⟨pads, rfl, few, complete⟩ := spells.two
      rw [decodeGroups.eq_2]
      · exact decodeLast_two offset first second complete
      · intro _ _ _ _ _ _ longer
        have count := congrArg List.length longer
        simp only [List.length_cons, List.length_replicate] at count
        omega
  | case4 first second third rest ih =>
      obtain ⟨tail, rfl, others⟩ := spells.three
      have highest := leading_lt (group_lt first second third)
      have part (number : Nat) : number % 64 < 64 := Nat.mod_lt number (by decide)
      -- The decoder treats the last four symbols by themselves, complete or not.
      cases tail with
      | nil =>
          obtain rfl : rest = [] := by
            have nothing := ih others 0
            simpa [decodeGroups, decodeLast, lastGroup, bind, Except.bind] using nothing
          exact decodeLast_three padding offset first second third
      | cons next following =>
          rw [decodeGroups, valueAt_symbol _ highest, valueAt_symbol _ (part _),
            valueAt_symbol _ (part _), valueAt_symbol _ (part _), ih others]
          simp only [bind, Except.bind]
          rw [octetsOf_split]
          rfl

/-- Decoding the Base64 form of octets gives the octets, also without the padding if that is
optional. -/
theorem decode_of_spells {padding : Padding} {text octets : Bytes}
    (spells : Spells padding text octets) : decode padding text = .ok octets := by
  have groups := decodeGroups_of_spells spells 0
  unfold decode
  split
  · rw [if_neg fun stray => spells.length_mod stray.1, groups]
  · rename_i empty
    rw [List.getLast?_eq_none_iff.mp empty] at groups
    simpa [decodeGroups, decodeLast, lastGroup, bind, Except.bind] using groups

theorem decode_encode (padding : Padding) (octets : Bytes) :
    decode padding (encode octets) = .ok octets :=
  decode_of_spells (spells_encode padding octets)

theorem toNat_lt_of_mem_encode {octets : Bytes} {octet : UInt8}
    (member : octet ∈ encode octets) : octet.toNat < 128 := by
  have padBound : pad.toNat < 128 := by decide
  induction octets using encode.induct with
  | case1 => simp [encode] at member
  | case2 first =>
      simp only [encode, List.mem_cons, List.not_mem_nil, or_false] at member
      rcases member with rfl | rfl | rfl | rfl
      · exact (symbol_ascii _).1
      · exact (symbol_ascii _).1
      · exact padBound
      · exact padBound
  | case3 first second =>
      simp only [encode, List.mem_cons, List.not_mem_nil, or_false] at member
      rcases member with rfl | rfl | rfl | rfl
      · exact (symbol_ascii _).1
      · exact (symbol_ascii _).1
      · exact (symbol_ascii _).1
      · exact padBound
  | case4 first second third rest ih =>
      simp only [encode, List.mem_cons] at member
      rcases member with rfl | rfl | rfl | rfl | others
      · exact (symbol_ascii _).1
      · exact (symbol_ascii _).1
      · exact (symbol_ascii _).1
      · exact (symbol_ascii _).1
      · exact ih others

/-- The octets of the Base64 text are those of the Base64 form. -/
theorem ofText_encodeText (octets : Bytes) :
    Bytes.ofText (encodeText octets) = encode octets := by
  rw [encodeText, Bytes.ofText_ofList]
  have ascii : ∀ octet ∈ encode octets, octet.toNat < 128 := fun _ => toNat_lt_of_mem_encode
  generalize encode octets = form at ascii ⊢
  induction form with
  | nil => rfl
  | cons octet rest ih =>
      have small := ascii octet List.mem_cons_self
      have code : (Char.ofNat octet.toNat).toNat = octet.toNat := by
        rw [Char.ofNat, dif_pos (Or.inl (by omega))]
        rfl
      rw [List.map_cons, utf8_cons_of_ascii (by omega), code, UInt8.ofNat_toNat,
        ih fun octet member => ascii octet (List.mem_cons_of_mem _ member)]

theorem decode_encodeText (padding : Padding) (octets : Bytes) :
    decode padding (Bytes.ofText (encodeText octets)) = .ok octets := by
  rw [ofText_encodeText, decode_encode]

theorem encodeText_injective {first second : Bytes}
    (same : encodeText first = encodeText second) : first = second := by
  have read := decode_encodeText .required first
  rw [same, decode_encodeText] at read
  exact (Except.ok.inj read).symm

end TrustRoot.Base64
