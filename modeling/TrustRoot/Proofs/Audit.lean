import TrustRoot.Audit

/-!
# Results of computations in sequence

A sequence succeeds exactly if its steps do, each with the value of the one before.  Inverting a
sequence step by step recovers everything that was required on the way.
-/

namespace TrustRoot

theorem bind_eq_ok_iff {ε α β : Type} {first : Except ε α} {next : α → Except ε β}
    {result : β} :
    first >>= next = .ok result ↔ ∃ value, first = .ok value ∧ next value = .ok result := by
  constructor
  · intro done
    cases first with
    | error error => cases done
    | ok value => exact ⟨value, rfl, done⟩
  · rintro ⟨value, rfl, done⟩
    exact done

theorem bind_eq_error_iff {ε α β : Type} {first : Except ε α} {next : α → Except ε β}
    {error : ε} :
    first >>= next = .error error ↔
      first = .error error ∨ ∃ value, first = .ok value ∧ next value = .error error := by
  cases first with
  | error other => simp [bind, Except.bind]
  | ok value => simp [bind, Except.bind]

theorem map_eq_error_iff {ε α β : Type} {first : Except ε α} {f : α → β} {error : ε} :
    first.map f = .error error ↔ first = .error error := by
  cases first <;> simp [Except.map]

theorem ite_error_eq_ok_iff {ε : Type} {broken : Prop} [Decidable broken] {reason : ε} :
    (if broken then .error reason else .ok () : Except ε Unit) = .ok () ↔ ¬ broken := by
  split <;> simp [*]

theorem ite_error_eq_error_iff {ε : Type} {broken : Prop} [Decidable broken]
    {reason found : ε} :
    (if broken then .error found else .ok () : Except ε Unit) = .error reason ↔
      broken ∧ reason = found := by
  split <;> simp [*, eq_comm]

/-- Steps along a list all succeed, or the first that fails is the reason. -/
theorem forM_eq_ok_iff {ε α : Type} {step : α → Except ε Unit} {items : List α} :
    items.forM step = .ok () ↔ ∀ item ∈ items, step item = .ok () := by
  induction items with
  | nil => simp [List.forM, pure, Except.pure]
  | cons item items ih =>
      change (step item >>= fun _ => items.forM step) = _ ↔ _
      rw [bind_eq_ok_iff, List.forall_mem_cons, ih]
      constructor
      · rintro ⟨_, first, others⟩
        exact ⟨first, others⟩
      · rintro ⟨first, others⟩
        exact ⟨(), first, others⟩

theorem forM_eq_error_iff {ε α : Type} {step : α → Except ε Unit} {items : List α} {error : ε} :
    items.forM step = .error error ↔
      ∃ before item after, items = before ++ item :: after ∧
        (∀ earlier ∈ before, step earlier = .ok ()) ∧ step item = .error error := by
  induction items with
  | nil => simp [List.forM, pure, Except.pure]
  | cons head items ih =>
      change (step head >>= fun _ => items.forM step) = _ ↔ _
      rw [bind_eq_error_iff, ih]
      constructor
      · rintro (failed | ⟨_, first, before, item, after, rfl, passed, failed⟩)
        · exact ⟨[], head, items, rfl, by simp, failed⟩
        · exact ⟨head :: before, item, after, rfl, List.forall_mem_cons.mpr ⟨first, passed⟩, failed⟩
      · rintro ⟨before, item, after, split, passed, failed⟩
        cases before with
        | nil =>
            cases split
            exact .inl failed
        | cons first before =>
            cases split
            obtain ⟨passes, passed⟩ := List.forall_mem_cons.mp passed
            exact .inr ⟨(), passes, before, item, after, rfl, passed, failed⟩

theorem mapError_eq_ok_iff {ε δ α : Type} {f : ε → δ} {first : Except ε α} {result : α} :
    first.mapError f = .ok result ↔ first = .ok result := by
  cases first with
  | error error =>
      constructor
      · rintro ⟨⟩
      · rintro ⟨⟩
  | ok value =>
      constructor
      · rintro ⟨⟩
        rfl
      · rintro ⟨⟩
        rfl

theorem mapError_eq_error_iff {ε δ α : Type} {f : ε → δ} {first : Except ε α} {error : δ} :
    first.mapError f = .error error ↔ ∃ cause, first = .error cause ∧ error = f cause := by
  cases first with
  | error cause =>
      constructor
      · rintro ⟨⟩
        exact ⟨cause, rfl, rfl⟩
      · rintro ⟨_, ⟨⟩, rfl⟩
        rfl
  | ok value =>
      constructor
      · rintro ⟨⟩
      · rintro ⟨_, ⟨⟩, _⟩

namespace Trail

variable {ε α β : Type}

theorem result_bind_eq_ok_iff {first : Trail ε α} {next : α → Trail ε β} {result : β} :
    (first >>= next).result = .ok result ↔
      ∃ value, first.result = .ok value ∧ (next value).result = .ok result := by
  rw [result_bind]
  exact bind_eq_ok_iff

theorem result_bind_eq_error_iff {first : Trail ε α} {next : α → Trail ε β} {error : ε} :
    (first >>= next).result = .error error ↔
      first.result = .error error ∨
        ∃ value, first.result = .ok value ∧ (next value).result = .error error := by
  rw [result_bind]
  exact bind_eq_error_iff

end Trail

end TrustRoot
