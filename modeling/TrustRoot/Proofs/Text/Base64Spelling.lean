import TrustRoot.Proofs.Audit
import TrustRoot.Proofs.Text.Base64

/-!
# What is read as Base64

A text is read exactly if it is the Base64 form of octets, of which padding may be missing unless it
is required (`decode_eq_ok_iff`).  With required padding octets have one form only.  The decoder is
followed backwards: symbols are determined by their values, groups by their octets, and the last
group also by its padding and by the unused bits, which are zero.
-/

namespace TrustRoot.Base64

/-- A symbol is determined by its value. -/
theorem symbol_of_value? {octet : UInt8} {value : Nat} (read : value? octet = some value) :
    value < 64 ∧ symbol value = octet := by
  have all : ∀ octet : Fin 256, ∀ value ∈ value? (UInt8.ofNat octet.val),
      value < 64 ∧ symbol value = UInt8.ofNat octet.val := by decide +kernel
  have known := all ⟨octet.toNat, octet.toNat_lt⟩ value
  rw [UInt8.ofNat_toNat] at known
  exact known read

theorem symbol_of_valueAt {offset value : Nat} {octet : UInt8}
    (read : valueAt offset octet = .ok value) : value < 64 ∧ symbol value = octet := by
  unfold valueAt at read
  split at read
  · rename_i found held
    obtain rfl := Except.ok.inj read
    exact symbol_of_value? held
  · cases read

/-! ## Complete groups -/

/-- The bits of four symbols are those of three octets. -/
theorem encode_octetsOf {first second third fourth : Nat} (firstSmall : first < 64)
    (secondSmall : second < 64) (thirdSmall : third < 64) (fourthSmall : fourth < 64)
    (rest : Bytes) :
    encode (octetsOf first second third fourth ++ rest) =
      symbol first :: symbol second :: symbol third :: symbol fourth :: encode rest := by
  let bits := first * 262144 + second * 4096 + third * 64 + fourth
  have upper : bits / 65536 % 256 = bits / 65536 := by omega
  have middle : bits / 256 % 256 % 256 = bits / 256 % 256 := by omega
  have lower : bits % 256 % 256 = bits % 256 := by omega
  have whole : bits / 65536 * 65536 + bits / 256 % 256 * 256 + bits % 256 = bits := by omega
  have firstBits : bits / 262144 = first := by omega
  have secondBits : bits / 4096 % 64 = second := by omega
  have thirdBits : bits / 64 % 64 = third := by omega
  have fourthBits : bits % 64 = fourth := by omega
  change encode (UInt8.ofNat (bits / 65536) :: UInt8.ofNat (bits / 256 % 256) ::
    UInt8.ofNat (bits % 256) :: rest) = _
  simp only [encode, UInt8.toNat_ofNat', Nat.reducePow, upper, middle, lower, whole, firstBits,
    secondBits, thirdBits, fourthBits]

/-! ## The last group -/

/-- Two symbols without unused bits carry one octet. -/
theorem encode_take_one {first second : Nat} (firstSmall : first < 64) (secondSmall : second < 64)
    (unused : second % 16 = 0) :
    encode ((octetsOf first second 0 0).take 1) = [symbol first, symbol second, pad, pad] := by
  let bits := first * 262144 + second * 4096 + 0 * 64 + 0
  have upper : bits / 65536 % 256 = bits / 65536 := by omega
  have whole : bits / 65536 * 65536 = bits := by omega
  have firstBits : bits / 262144 = first := by omega
  have secondBits : bits / 4096 % 64 = second := by omega
  change encode [UInt8.ofNat (bits / 65536)] = _
  simp only [encode, UInt8.toNat_ofNat', Nat.reducePow, upper, whole, firstBits, secondBits]

/-- Three symbols without unused bits carry two octets. -/
theorem encode_take_two {first second third : Nat} (firstSmall : first < 64)
    (secondSmall : second < 64) (thirdSmall : third < 64) (unused : third % 4 = 0) :
    encode ((octetsOf first second third 0).take 2) =
      [symbol first, symbol second, symbol third, pad] := by
  let bits := first * 262144 + second * 4096 + third * 64 + 0
  have upper : bits / 65536 % 256 = bits / 65536 := by omega
  have middle : bits / 256 % 256 % 256 = bits / 256 % 256 := by omega
  have whole : bits / 65536 * 65536 + bits / 256 % 256 * 256 = bits := by omega
  have firstBits : bits / 262144 = first := by omega
  have secondBits : bits / 4096 % 64 = second := by omega
  have thirdBits : bits / 64 % 64 = third := by omega
  change encode [UInt8.ofNat (bits / 65536), UInt8.ofNat (bits / 256 % 256)] = _
  simp only [encode, UInt8.toNat_ofNat', Nat.reducePow, upper, middle, whole, firstBits,
    secondBits, thirdBits]

/-- The last group consists of symbols, after those read before, and then of padding. -/
theorem lastGroup_eq_ok {offset pads total : Nat} {read symbols : List (UInt8 × Nat)}
    {group : Bytes} (done : lastGroup offset read pads group = .ok (symbols, total)) :
    ∃ more : List (UInt8 × Nat), symbols = read.reverse ++ more ∧
      (∀ entry ∈ more, entry.2 < 64) ∧
      group = (more.map fun entry => symbol entry.2) ++ List.replicate (total - pads) pad ∧
      pads ≤ total ∧ (pads ≠ 0 → more = []) := by
  induction group generalizing read pads with
  | nil =>
      simp only [lastGroup, Except.ok.injEq, Prod.mk.injEq] at done
      obtain ⟨rfl, rfl⟩ := done
      exact ⟨[], by simp⟩
  | cons octet rest ih =>
      simp only [lastGroup] at done
      split at done
      · rename_i isPad
        split at done
        · cases done
        · -- After padding nothing but padding follows.
          obtain ⟨more, whole, -, spelled, le, nothing⟩ := ih done
          obtain rfl := nothing (Nat.succ_ne_zero pads)
          refine ⟨[], whole, by simp, ?_, by omega, fun _ => rfl⟩
          have count : total - pads = total - (pads + 1) + 1 := by omega
          rw [spelled, isPad, count, List.replicate_succ]
          rfl
      · split at done
        · cases done
        · rename_i noPads
          split at done
          · cases done
          · rename_i value found
            obtain ⟨small, same⟩ := symbol_of_value? found
            obtain ⟨more, whole, smaller, spelled, le, -⟩ := ih done
            refine ⟨(octet, value) :: more, ?_, ?_, ?_, le, fun padded => absurd padded noPads⟩
            · rw [whole, List.reverse_cons, List.append_assoc]
              rfl
            · exact List.forall_mem_cons.mpr ⟨small, smaller⟩
            · rw [spelled, ← same]
              rfl

/-- The last group is the Base64 form of its octets, perhaps without some of the padding. -/
theorem spells_of_decodeLast {padding : Padding} {offset : Nat} {group octets : Bytes}
    (short : group.length ≤ 4) (done : decodeLast padding offset group = .ok octets) :
    Spells padding group octets := by
  obtain ⟨⟨symbols, pads⟩, grouped, done⟩ := bind_eq_ok_iff.mp done
  obtain ⟨more, whole, small, spelled, -, -⟩ := lastGroup_eq_ok grouped
  obtain rfl : symbols = more := by simpa using whole
  rw [Nat.sub_zero] at spelled
  have size : symbols.length + pads ≤ 4 := by
    rw [spelled, List.length_append, List.length_map, List.length_replicate] at short
    exact short
  dsimp only at done
  -- The number of symbols decides how many octets the group carries.
  split at done
  · split at done
    · rename_i empty
      obtain rfl := Except.ok.inj done
      rw [empty]
      exact spells_encode padding []
    · cases done
  · cases done
  · simp only [List.forall_mem_cons, List.length_cons, List.length_nil] at small size done
    split at done
    · cases done
    · split at done
      · cases done
      · rename_i complete unused
        obtain rfl := Except.ok.inj done
        refine ⟨2 - pads, ?_, fun required => ?_⟩
        · rw [spelled, encode_take_one small.1 small.2.1 (by omega), List.append_assoc,
            List.replicate_append_replicate, Nat.add_sub_cancel' (by omega)]
          rfl
        · simp [required] at complete
          omega
  · simp only [List.forall_mem_cons, List.length_cons, List.length_nil] at small size done
    split at done
    · cases done
    · split at done
      · cases done
      · rename_i complete unused
        obtain rfl := Except.ok.inj done
        refine ⟨1 - pads, ?_, fun required => ?_⟩
        · rw [spelled, encode_take_two small.1 small.2.1 small.2.2.1 (by omega),
            List.append_assoc, List.replicate_append_replicate, Nat.add_sub_cancel' (by omega)]
          rfl
        · simp [required] at complete
          omega
  · rename_i rest
    simp only [List.forall_mem_cons, List.length_cons] at small size
    obtain rfl : rest = [] := List.eq_nil_of_length_eq_zero (by omega)
    obtain rfl : pads = 0 := by omega
    obtain rfl := Except.ok.inj done
    have form := encode_octetsOf small.1 small.2.1 small.2.2.1 small.2.2.2.1 []
    rw [List.append_nil] at form
    rw [spelled]
    exact ⟨0, form.symm, fun _ => rfl⟩

/-! ## The whole text -/

theorem spells_of_decodeGroups {padding : Padding} {offset : Nat} {text octets : Bytes}
    (done : decodeGroups padding offset text = .ok octets) : Spells padding text octets := by
  induction offset, text using decodeGroups.induct generalizing octets with
  | case1 offset first second third fourth next rest ih =>
      rw [decodeGroups] at done
      obtain ⟨first, firstRead, done⟩ := bind_eq_ok_iff.mp done
      obtain ⟨second, secondRead, done⟩ := bind_eq_ok_iff.mp done
      obtain ⟨third, thirdRead, done⟩ := bind_eq_ok_iff.mp done
      obtain ⟨fourth, fourthRead, done⟩ := bind_eq_ok_iff.mp done
      obtain ⟨others, othersRead, done⟩ := bind_eq_ok_iff.mp done
      obtain rfl := Except.ok.inj done
      obtain ⟨firstSmall, rfl⟩ := symbol_of_valueAt firstRead
      obtain ⟨secondSmall, rfl⟩ := symbol_of_valueAt secondRead
      obtain ⟨thirdSmall, rfl⟩ := symbol_of_valueAt thirdRead
      obtain ⟨fourthSmall, rfl⟩ := symbol_of_valueAt fourthRead
      obtain ⟨missing, form, complete⟩ := ih othersRead
      refine ⟨missing, ?_, complete⟩
      rw [encode_octetsOf firstSmall secondSmall thirdSmall fourthSmall, ← form]
      rfl
  | case2 offset group noMore =>
      rw [decodeGroups.eq_2 _ _ _ noMore] at done
      apply spells_of_decodeLast _ done
      rcases group with _ | ⟨first, _ | ⟨second, _ | ⟨third, _ | ⟨fourth, _ | ⟨next, rest⟩⟩⟩⟩⟩
      case cons.cons.cons.cons.cons =>
        exact (noMore first second third fourth next rest rfl).elim
      all_goals simp

/-- Reading accepts exactly the Base64 forms, without some of the padding if that is optional. -/
theorem decode_eq_ok_iff {padding : Padding} {text octets : Bytes} :
    decode padding text = .ok octets ↔ Spells padding text octets := by
  constructor
  · intro done
    unfold decode at done
    split at done
    · split at done
      · cases done
      · exact spells_of_decodeGroups done
    · rename_i empty
      obtain rfl := Except.ok.inj done
      rw [List.getLast?_eq_none_iff.mp empty]
      exact spells_encode padding []
  · exact decode_of_spells

/-- With required padding a text spells octets exactly if it is their Base64 form. -/
theorem spells_required_iff {text octets : Bytes} :
    Spells .required text octets ↔ text = encode octets := by
  constructor
  · rintro ⟨missing, form, complete⟩
    rwa [complete rfl, List.replicate_zero, List.append_nil] at form
  · rintro rfl
    exact spells_encode .required octets

/-- A text is read with required padding exactly if it is the Base64 text of the octets. -/
theorem decode_required_ofText_eq_ok_iff {text : String} {octets : Bytes} :
    decode .required (Bytes.ofText text) = .ok octets ↔ text = encodeText octets := by
  rw [decode_eq_ok_iff, spells_required_iff, ← ofText_encodeText]
  constructor
  · exact Bytes.ofText_injective
  · rintro rfl
    rfl

end TrustRoot.Base64
