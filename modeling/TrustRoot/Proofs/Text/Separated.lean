import Mathlib.Data.List.Basic
import Mathlib.Data.List.Infix

/-!
# Separated texts

Parts of a text that are set apart by marks can be told from each other if the marks do not occur in
the parts.  The names of a list are set apart by a comma and a blank, and the whole list can be read
back if no name holds a comma with a blank behind it (`intercalate_separator_inj`).
-/

namespace TrustRoot.Text

/-- What stands before the first mark, and what stands behind it. -/
theorem append_mark_inj {α : Type} {mark : α} {front front' back back' : List α}
    (absent : mark ∉ front) (absent' : mark ∉ front')
    (same : front ++ mark :: back = front' ++ mark :: back') : front = front' ∧ back = back' := by
  induction front generalizing front' with
  | nil =>
      cases front' with
      | nil => exact ⟨rfl, (List.cons.inj same).2⟩
      | cons first rest => exact absurd ((List.cons.inj same).1 ▸ List.mem_cons_self) absent'
  | cons first rest ih =>
      cases front' with
      | nil => exact absurd ((List.cons.inj same).1 ▸ List.mem_cons_self) absent
      | cons first' rest' =>
          obtain ⟨rfl, others⟩ := List.cons.inj same
          obtain ⟨rfl, rfl⟩ := ih (List.not_mem_of_not_mem_cons absent)
            (List.not_mem_of_not_mem_cons absent') others
          exact ⟨rfl, rfl⟩

/-- What stands before the last mark, and what stands behind it. -/
theorem append_last_mark_inj {α : Type} {mark : α} {front front' back back' : List α}
    (absent : mark ∉ back) (absent' : mark ∉ back')
    (same : front ++ mark :: back = front' ++ mark :: back') : front = front' ∧ back = back' := by
  have reversed := congrArg List.reverse same
  simp only [List.reverse_append, List.reverse_cons, List.append_assoc, List.singleton_append]
    at reversed
  obtain ⟨backs, fronts⟩ := append_mark_inj (by rwa [List.mem_reverse])
    (by rwa [List.mem_reverse]) reversed
  exact ⟨List.reverse_injective fronts, List.reverse_injective backs⟩

/-- The parts of a text between marks are those that the marks join to the text. -/
theorem splitOn_eq_iff {α : Type} [BEq α] [LawfulBEq α] {mark : α} {text : List α}
    {parts : List (List α)} (nonempty : parts ≠ []) (absent : ∀ part ∈ parts, mark ∉ part) :
    text.splitOn mark = parts ↔ text = [mark].intercalate parts := by
  constructor
  · rintro rfl
    exact (List.intercalate_splitOn mark).symm
  · rintro rfl
    exact List.splitOn_intercalate mark absent nonempty

/-! ## Names -/

/-- What sets the names of a list apart. -/
abbrev separator : List Char := [',', ' ']

/-- A name without a separator is not longer than a name that the same text begins with. -/
theorem eq_nil_of_separator {name middle back back' : List Char}
    (whole : ¬ separator <:+: name ++ middle)
    (same : separator ++ back = middle ++ separator ++ back') : middle = [] := by
  match middle, same with
  | [], _ => rfl
  | [_], same => exact absurd (List.cons.inj (List.cons.inj same).2).1 (by decide)
  | _ :: _ :: rest, same =>
      obtain ⟨rfl, tail⟩ := List.cons.inj same
      obtain ⟨rfl, -⟩ := List.cons.inj tail
      exact absurd ⟨name, rest, by simp⟩ whole

/-- What stands before the first separator, and what stands behind it. -/
theorem append_separator_inj {name name' back back' : List Char} (whole : ¬ separator <:+: name)
    (whole' : ¬ separator <:+: name')
    (same : name ++ separator ++ back = name' ++ separator ++ back') :
    name = name' ∧ back = back' := by
  simp only [List.append_assoc] at same
  obtain ⟨middle, rfl, behind⟩ | ⟨middle, rfl, behind⟩ := List.append_eq_append_iff.mp same
  · obtain rfl := eq_nil_of_separator whole' (behind.trans (List.append_assoc ..).symm)
    exact ⟨(List.append_nil name).symm, List.append_cancel_left behind⟩
  · obtain rfl := eq_nil_of_separator whole (behind.trans (List.append_assoc ..).symm)
    exact ⟨List.append_nil name', (List.append_cancel_left behind).symm⟩

/-- A list of names is determined by its text, but for an empty list and an empty name. -/
theorem intercalate_separator_inj {names names' : List (List Char)}
    (whole : ∀ name ∈ names, ¬ separator <:+: name)
    (whole' : ∀ name ∈ names', ¬ separator <:+: name) (empty : names = [] ↔ names' = [])
    (same : separator.intercalate names = separator.intercalate names') : names = names' := by
  induction names generalizing names' with
  | nil => exact (empty.mp rfl).symm
  | cons name rest ih =>
      cases names' with
      | nil => exact empty.mpr rfl
      | cons name' rest' =>
          rw [List.forall_mem_cons] at whole whole'
          cases rest with
          | nil =>
              cases rest' with
              | nil => simpa using same
              | cons next' others' =>
                  rw [List.intercalate_singleton, List.intercalate_cons_cons] at same
                  exact absurd ⟨name', _, same.symm⟩ whole.1
          | cons next others =>
              cases rest' with
              | nil =>
                  rw [List.intercalate_singleton, List.intercalate_cons_cons] at same
                  exact absurd ⟨name, _, same⟩ whole'.1
              | cons next' others' =>
                  rw [List.intercalate_cons_cons, List.intercalate_cons_cons] at same
                  obtain ⟨rfl, behind⟩ := append_separator_inj whole.1 whole'.1 same
                  rw [ih whole.2 whole'.2 (by simp) behind]

end TrustRoot.Text
