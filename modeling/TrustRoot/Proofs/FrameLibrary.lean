import TrustRoot.FrameLibrary

/-!
# Contents are collected whole

A reader hands out its content in portions, each the beginning of what is left
(`Reads.exists_portion`).  All of it is collected in the end, or as many octets as are wanted,
however much is asked for at a time (`Reads.readUpTo_eq`).
-/

namespace TrustRoot.FrameLibrary

/-! ## Demands -/

@[simp] theorem Demand.ceiling_grown (demand : Demand) :
    demand.grown.ceiling = demand.ceiling := by
  rw [Demand.grown]
  split <;> rfl

theorem Demand.size_grown_pos {demand : Demand} (positive : 0 < demand.ceiling) :
    0 < demand.grown.size := by
  have room : 0 < leastRoom := by decide
  rw [Demand.size, ceiling_grown, Demand.grown]
  split
  · simp only
    omega
  · omega

theorem Demand.ceiling_add_pos {demand : Demand} (positive : 0 < demand.ceiling) (count : Nat) :
    0 < (demand.add count).ceiling := by
  simp only [Demand.add]
  split <;> omega

variable {library : FrameLibrary} {reader : library.Reader} {content : Bytes}

theorem take_append_of_length_le {given : Bytes} {budget : Nat} (fits : given.length ≤ budget)
    (rest : Bytes) :
    (given ++ rest).take budget = given ++ rest.take (budget - given.length) := by
  rw [List.take_append, List.take_of_length_le fits]

/-! ## Collecting -/

/-- A portion is the beginning of what is left, and it is empty only if nothing is left. -/
theorem Reads.exists_portion (reads : library.Reads reader content) {room : Nat}
    (positive : 0 < room) :
    ∃ portion rest, library.read reader room = .ok portion ∧ content = portion.octets ++ rest ∧
      (portion.octets = [] → rest = []) ∧
      (portion.octets ≠ [] → library.Reads portion.next rest) := by
  cases reads with
  | drained ends =>
      obtain ⟨portion, given, none⟩ := ends room positive
      refine ⟨portion, [], given, ?_, fun _ => rfl, fun some => absurd none some⟩
      rw [none, List.append_nil]
  | holding gives keeps =>
      obtain ⟨portion, rest, given, some, split⟩ := gives room positive
      exact ⟨portion, rest, given, split, fun none => absurd none some,
        fun _ => keeps room portion rest positive given split⟩

/-- All that is left comes out, or as much as is asked for. -/
theorem Reads.collect_eq (reads : library.Reads reader content) {demand : Demand}
    (positive : 0 < demand.ceiling) (budget : Nat) (collected : Bytes) :
    library.collect demand budget collected reader =
      .ok (collected.reverse ++ content.take budget) := by
  induction budget using Nat.strongRecOn generalizing demand collected reader content with
  | ind budget ih =>
      rw [collect]
      by_cases spent : budget = 0
      · rw [if_pos spent, spent, List.take_zero, List.append_nil]
      have room : 0 < min demand.grown.size budget :=
        Nat.lt_min.mpr ⟨Demand.size_grown_pos positive, Nat.pos_of_ne_zero spent⟩
      obtain ⟨portion, rest, given, rfl, ends, continues⟩ := reads.exists_portion room
      have affordable : portion.octets.length ≤ budget :=
        Nat.le_trans portion.fits (Nat.min_le_right _ _)
      rw [if_neg spent, take_append_of_length_le affordable]
      simp only [given, List.length_eq_zero_iff]
      by_cases none : portion.octets = []
      · rw [if_pos none, none, ends none, List.take_nil, List.nil_append, List.append_nil]
      · have smaller : budget - portion.octets.length < budget :=
          Nat.sub_lt (Nat.pos_of_ne_zero spent) (List.length_pos_iff.mpr none)
        have ceiling : 0 < (demand.grown.add portion.octets.length).ceiling :=
          Demand.ceiling_add_pos (by rwa [Demand.ceiling_grown]) _
        rw [if_neg none, ih _ smaller (continues none) ceiling, List.reverse_append,
          List.reverse_reverse, List.append_assoc]

/-- The content comes out, or as much of it as is asked for. -/
theorem Reads.readUpTo_eq (reads : library.Reads reader content) (budget : Nat) :
    library.readUpTo budget reader = .ok (content.take budget) := by
  rw [readUpTo]
  by_cases spent : budget = 0
  · rw [if_pos spent, spent, List.take_zero]
  have room : 0 < min leastRoom budget := Nat.lt_min.mpr ⟨by decide, Nat.pos_of_ne_zero spent⟩
  obtain ⟨portion, rest, given, rfl, ends, continues⟩ := reads.exists_portion room
  have affordable : portion.octets.length ≤ budget :=
    Nat.le_trans portion.fits (Nat.min_le_right _ _)
  rw [if_neg spent, take_append_of_length_le affordable]
  simp only [given, List.length_eq_zero_iff]
  by_cases none : portion.octets = []
  · rw [if_pos none, none, ends none, List.take_nil, List.nil_append]
  · have ceiling : 0 < (Demand.ofFirst portion.octets.length).ceiling := Nat.zero_lt_succ _
    rw [if_neg none, (continues none).collect_eq ceiling, List.reverse_reverse]

end TrustRoot.FrameLibrary
