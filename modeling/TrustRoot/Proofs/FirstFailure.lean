import TrustRoot.Proofs.Audit
import TrustRoot.Proofs.Dict
import TrustRoot.Proofs.Text.Order

/-!
# The first failure along a dictionary

Entries are listed by ascending key, so whatever goes through them one by one fails at the smallest
key at which it can fail at all, in the order of the octets of keys.  This holds of checks
(`Dict.forM_entries_eq_error_iff`) and of changes of all values (`Dict.traverse_eq_error_iff`).
-/

namespace TrustRoot

variable {α β ε : Type}

/-- The step at a key fails, for this reason, and no step at a smaller key does. -/
structure Dict.FirstFailure (step : String → α → Except ε β) (dict : Dict α) (key : String)
    (error : ε) : Prop where
  cause : ∃ value, dict.get? key = some value ∧ step key value = .error error
  before : ∀ other value, dict.get? other = some value → Bytes.ofText other < Bytes.ofText key →
    ∃ result, step other value = .ok result

/-- What comes before an entry has the smaller keys. -/
theorem KeysAscend.mem_before_iff {before after : List (String × α)} {entry other : String × α}
    (ascending : KeysAscend (before ++ entry :: after)) :
    other ∈ before ↔ other ∈ before ++ entry :: after ∧ other.1 < entry.1 := by
  obtain ⟨-, following, across⟩ := List.pairwise_append.mp ascending
  constructor
  · intro listed
    exact ⟨List.mem_append_left _ listed, across _ listed _ List.mem_cons_self⟩
  · rintro ⟨listed, below⟩
    rcases List.mem_append.mp listed with listed | listed
    · exact listed
    rcases List.mem_cons.mp listed with rfl | listed
    · exact absurd below (String.lt_irrefl _)
    · have above := (List.pairwise_cons.mp following).1 _ listed
      exact absurd (String.lt_trans below above) (String.lt_irrefl _)

namespace Dict

variable (step : String → α → Except ε Unit) {dict : Dict α} {error : ε}

theorem forM_entries_eq_error_iff :
    (dict.entries.forM fun entry => step entry.1 entry.2) = .error error ↔
      ∃ key, dict.FirstFailure step key error := by
  have ascending := dict.ascending
  rw [forM_eq_error_iff]
  constructor
  · rintro ⟨before, ⟨key, value⟩, after, split, passed, failed⟩
    have held : (key, value) ∈ dict.entries := by rw [split]; simp
    rw [split] at ascending
    refine ⟨key, ⟨value, get?_eq_some_iff.mpr held, failed⟩, fun other value' held' below => ?_⟩
    have listed := get?_eq_some_iff.mp held'
    rw [split] at listed
    exact ⟨(), passed _ (ascending.mem_before_iff.mpr ⟨listed, Bytes.ofText_lt_iff.mp below⟩)⟩
  · rintro ⟨key, ⟨value, held, failed⟩, first⟩
    obtain ⟨before, after, split⟩ := List.append_of_mem (get?_eq_some_iff.mp held)
    rw [split] at ascending
    refine ⟨before, (key, value), after, split, fun ⟨other, value'⟩ listed => ?_, failed⟩
    obtain ⟨inside, below⟩ := ascending.mem_before_iff.mp listed
    rw [← split] at inside
    obtain ⟨⟨⟩, passed⟩ :=
      first other value' (get?_eq_some_iff.mpr inside) (Bytes.ofText_lt_iff.mpr below)
    exact passed

end Dict

/-- A change of all values fails where its steps do. -/
theorem traverseEntries_eq_error_iff {f : String → α → Except ε β} {entries : List (String × α)}
    {error : ε} :
    traverseEntries f entries = .error error ↔
      (entries.forM fun entry => (f entry.1 entry.2).map fun _ => ()) = .error error := by
  induction entries with
  | nil => simp [traverseEntries, List.forM, pure, Except.pure]
  | cons head rest ih =>
      obtain ⟨key, value⟩ := head
      change _ ↔ ((f key value).map fun _ => ()) >>= _ = _
      rw [traverseEntries]
      cases f key value with
      | error failed => simp [Except.map, bind, Except.bind]
      | ok changed =>
          change _ ↔ (rest.forM fun entry => (f entry.1 entry.2).map fun _ => ()) = _
          rw [← ih]
          cases traverseEntries f rest <;> simp

theorem Dict.traverse_eq_error_iff_entries {f : String → α → Except ε β} {dict : Dict α}
    {error : ε} :
    dict.traverse f = .error error ↔ traverseEntries f dict.entries = .error error := by
  unfold traverse
  split
  · rename_i other failed
    rw [failed]
    simp
  · rename_i changed done
    constructor
    · rintro ⟨⟩
    · intro failed
      cases done.symm.trans failed

/-- A failure of a step with its result left out is a failure of the step. -/
theorem Dict.firstFailure_map_iff {f : String → α → Except ε β} {dict : Dict α} {key : String}
    {error : ε} :
    dict.FirstFailure (fun key value => (f key value).map fun _ => ()) key error ↔
      dict.FirstFailure f key error := by
  have passes (first : Except ε β) :
      (∃ result, (first.map fun _ => ()) = .ok result) ↔ ∃ result, first = .ok result := by
    cases first <;> simp [Except.map]
  constructor
  · rintro ⟨⟨value, held, failed⟩, before⟩
    exact ⟨⟨value, held, map_eq_error_iff.mp failed⟩,
      fun other value' held' below => (passes _).mp (before other value' held' below)⟩
  · rintro ⟨⟨value, held, failed⟩, before⟩
    exact ⟨⟨value, held, map_eq_error_iff.mpr failed⟩,
      fun other value' held' below => (passes _).mpr (before other value' held' below)⟩

theorem Dict.firstFailure_mapError_iff {δ : Type} {f : String → α → Except ε β} {g : String → ε → δ}
    {dict : Dict α} {key : String} {error : δ} :
    dict.FirstFailure (fun key value => (f key value).mapError (g key)) key error ↔
      ∃ cause, error = g key cause ∧ dict.FirstFailure f key cause := by
  constructor
  · rintro ⟨⟨value, held, failed⟩, before⟩
    obtain ⟨cause, fails, rfl⟩ := mapError_eq_error_iff.mp failed
    refine ⟨cause, rfl, ⟨value, held, fails⟩, fun other value' held' below => ?_⟩
    obtain ⟨result, passed⟩ := before other value' held' below
    exact ⟨result, mapError_eq_ok_iff.mp passed⟩
  · rintro ⟨cause, rfl, ⟨value, held, fails⟩, before⟩
    refine ⟨⟨value, held, mapError_eq_error_iff.mpr ⟨cause, fails, rfl⟩⟩, ?_⟩
    intro other value' held' below
    obtain ⟨result, passed⟩ := before other value' held' below
    exact ⟨result, mapError_eq_ok_iff.mpr passed⟩

theorem Dict.traverse_eq_error_iff {f : String → α → Except ε β} {dict : Dict α} {error : ε} :
    dict.traverse f = .error error ↔ ∃ key, dict.FirstFailure f key error := by
  simp only [traverse_eq_error_iff_entries, traverseEntries_eq_error_iff,
    forM_entries_eq_error_iff fun key value => (f key value).map fun _ => (),
    firstFailure_map_iff]

end TrustRoot
