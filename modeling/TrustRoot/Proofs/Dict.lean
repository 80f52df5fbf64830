import TrustRoot.Dict

/-!
# Laws of dictionaries

Look-ups say everything about a dictionary, so its operations are described by what they do to
look-ups.  Entries with different keys form the same dictionary in any order, and the entries of a
dictionary form that dictionary again (`Dict.ofList_entries`).
-/

namespace TrustRoot

universe u v w

variable {α : Type u} {β : Type v} {ε : Type w}

theorem findEntry_append (key : String) (first second : List (String × α)) :
    findEntry key (first ++ second) = (findEntry key first).or (findEntry key second) := by
  induction first with
  | nil => rfl
  | cons head rest ih =>
      by_cases same : key = head.1 <;> simp [findEntry, same, ih]

theorem mem_of_findEntry {key : String} {value : α} {entries : List (String × α)}
    (found : findEntry key entries = some value) : (key, value) ∈ entries := by
  induction entries with
  | nil => simp [findEntry] at found
  | cons head rest ih =>
      by_cases same : key = head.1
      · obtain rfl : head.2 = value := by simpa [findEntry, same] using found
        simp [same]
      · have inRest : findEntry key rest = some value := by
          simpa [findEntry, same] using found
        exact List.mem_cons_of_mem _ (ih inRest)

theorem exists_findEntry_iff {key : String} {entries : List (String × α)} :
    (∃ value, findEntry key entries = some value) ↔ key ∈ entries.map Prod.fst := by
  induction entries with
  | nil => simp [findEntry]
  | cons head rest ih =>
      by_cases same : key = head.1
      · simp [findEntry, same]
      · simp [findEntry, same, ih]

/-- Among entries with different keys every entry is found under its key. -/
theorem findEntry_eq_some_iff {key : String} {value : α} {entries : List (String × α)}
    (different : (entries.map Prod.fst).Nodup) :
    findEntry key entries = some value ↔ (key, value) ∈ entries := by
  constructor
  · exact mem_of_findEntry
  · intro member
    induction entries with
    | nil => simp at member
    | cons head rest ih =>
        simp only [List.map_cons, List.nodup_cons] at different
        rcases List.mem_cons.mp member with rfl | inRest
        · simp [findEntry]
        · have other : key ≠ head.1 := by
            rintro rfl
            exact different.1 (List.mem_map.mpr ⟨_, inRest, rfl⟩)
          simp [findEntry, other, ih different.2 inRest]

theorem insertEntry_ne_nil (key : String) (value : α) (entries : List (String × α)) :
    insertEntry key value entries ≠ [] := by
  cases entries with
  | nil => exact List.cons_ne_nil _ _
  | cons head rest =>
      rw [insertEntry]
      split
      · exact List.cons_ne_nil _ _
      · split <;> exact List.cons_ne_nil _ _

theorem KeysAscend.nodup_keys {entries : List (String × α)} (ascending : KeysAscend entries) :
    (entries.map Prod.fst).Nodup := by
  apply List.Pairwise.imp _ (keysAscend_iff_keys.mp ascending)
  rintro first second below rfl
  exact String.lt_irrefl first below

namespace Dict

theorem nodup_keys (dict : Dict α) : dict.keys.Nodup :=
  dict.ascending.nodup_keys

theorem length_keys (dict : Dict α) : dict.keys.length = dict.size :=
  List.length_map _

theorem get?_eq_some_iff {dict : Dict α} {key : String} {value : α} :
    dict.get? key = some value ↔ (key, value) ∈ dict.entries :=
  findEntry_eq_some_iff dict.nodup_keys

theorem mem_keys_iff {dict : Dict α} {key : String} :
    key ∈ dict.keys ↔ ∃ value, dict.get? key = some value := by
  simp only [get?_eq_some_iff, keys, List.mem_map]
  constructor
  · rintro ⟨entry, member, rfl⟩
    exact ⟨entry.2, member⟩
  · rintro ⟨value, member⟩
    exact ⟨(key, value), member, rfl⟩

/-! ## Dictionaries of lists -/

theorem get?_foldl_insert (dict : Dict α) (entries : List (String × α)) (key : String) :
    (entries.foldl (fun dict entry => dict.insert entry.1 entry.2) dict).get? key =
      (findEntry key entries.reverse).or (dict.get? key) := by
  induction entries generalizing dict with
  | nil => rfl
  | cons head rest ih =>
      rw [List.foldl_cons, ih, List.reverse_cons, findEntry_append, get?_insert]
      by_cases same : key = head.1
      · subst same
        simp [findEntry]
      · simp [findEntry, same]

/-- Of several entries under one key the last counts. -/
theorem get?_ofList (entries : List (String × α)) (key : String) :
    (ofList entries).get? key = findEntry key entries.reverse := by
  rw [ofList, get?_foldl_insert, get?_empty, Option.or_none]

theorem mem_keys_ofList {entries : List (String × α)} {key : String} :
    key ∈ (ofList entries).keys ↔ key ∈ entries.map Prod.fst := by
  simp only [mem_keys_iff, get?_ofList]
  rw [exists_findEntry_iff, List.map_reverse, List.mem_reverse]

theorem get?_ofList_eq_some_iff {entries : List (String × α)} {key : String} {value : α}
    (different : (entries.map Prod.fst).Nodup) :
    (ofList entries).get? key = some value ↔ (key, value) ∈ entries := by
  have reversed : (entries.reverse.map Prod.fst).Nodup := by
    rw [List.map_reverse]
    exact List.pairwise_reverse.mpr (different.imp Ne.symm)
  rw [get?_ofList, findEntry_eq_some_iff reversed, List.mem_reverse]

theorem mem_of_mem_ofList {entries : List (String × α)} {entry : String × α}
    (member : entry ∈ (ofList entries).entries) : entry ∈ entries := by
  have found : (ofList entries).get? entry.1 = some entry.2 := get?_eq_some_iff.mpr member
  rw [get?_ofList] at found
  exact List.mem_reverse.mp (mem_of_findEntry found)

/-- Entries with different keys form the same dictionary in any order. -/
theorem ofList_perm {first second : List (String × α)} (perm : first.Perm second)
    (different : (first.map Prod.fst).Nodup) : ofList first = ofList second := by
  have different' := (perm.map Prod.fst).nodup_iff.mp different
  ext key value
  rw [get?_ofList_eq_some_iff different, get?_ofList_eq_some_iff different', perm.mem_iff]

/-- The entries of a dictionary form that dictionary. -/
@[simp]
theorem ofList_entries (dict : Dict α) : ofList dict.entries = dict := by
  ext key value
  rw [get?_ofList_eq_some_iff dict.nodup_keys, get?_eq_some_iff]

theorem get?_erase (dict : Dict α) (sought key : String) :
    (dict.erase key).get? sought = if sought = key then none else dict.get? sought := by
  apply Option.ext
  intro value
  rw [get?_eq_some_iff, erase, List.mem_filter]
  by_cases same : sought = key
  · simp [same]
  · simp [same, get?_eq_some_iff]

/-- If one entry only has a property, then there is no second key with the property. -/
theorem eq_of_countP_eq_one {property : String × α → Bool} {dict : Dict α}
    (single : dict.entries.countP property = 1) {first second : String} {value value' : α}
    (found : dict.get? first = some value) (holds : property (first, value) = true)
    (found' : dict.get? second = some value') (holds' : property (second, value') = true) :
    first = second := by
  rw [List.countP_eq_length_filter, List.length_eq_one_iff] at single
  obtain ⟨only, filtered⟩ := single
  have kept {key : String} {held : α} (found : dict.get? key = some held)
      (holds : property (key, held) = true) : (key, held) = only := by
    have listed := List.mem_filter.mpr ⟨get?_eq_some_iff.mp found, holds⟩
    rw [filtered] at listed
    exact List.mem_singleton.mp listed
  exact congrArg Prod.fst ((kept found holds).trans (kept found' holds').symm)

/-! ## Changing all values -/

theorem get?_mapKeyed (dict : Dict α) (f : String → α → β) (key : String) :
    (dict.mapKeyed f).get? key = (dict.get? key).map (f key) := by
  obtain ⟨entries, ascending⟩ := dict
  simp only [get?, mapKeyed]
  clear ascending
  induction entries with
  | nil => rfl
  | cons head rest ih =>
      by_cases same : key = head.1
      · subst same
        simp [findEntry]
      · simp [findEntry, same, ih]

theorem get?_map (dict : Dict α) (f : α → β) (key : String) :
    (dict.map f).get? key = (dict.get? key).map f :=
  get?_mapKeyed dict (fun _ value => f value) key

theorem map_injective {f : α → β} (injective : ∀ first second, f first = f second → first = second)
    {first second : Dict α} (same : first.map f = second.map f) : first = second := by
  apply ext_get?
  intro key
  have agree := congrArg (fun dict => dict.get? key) same
  simp only [get?_map] at agree
  exact Option.map_injective (fun _ _ => injective _ _) agree

/-! ## Changing all values by a step that may fail -/

theorem traverse_eq_ok_iff_entries {f : String → α → Except ε β} {dict : Dict α}
    {changed : Dict β} :
    dict.traverse f = .ok changed ↔ traverseEntries f dict.entries = .ok changed.entries := by
  obtain ⟨entries, ascending⟩ := changed
  unfold traverse
  split
  · rename_i error failed
    rw [failed]
    simp
  · rename_i others done
    constructor
    · rintro ⟨⟩
      exact done
    · intro same
      obtain rfl := Except.ok.inj (done.symm.trans same)
      rfl

/-- A traversal succeeds if every step does. -/
theorem exists_traverse_eq_ok {f : String → α → Except ε β} {dict : Dict α}
    (succeed : ∀ entry ∈ dict.entries, ∃ changed, f entry.1 entry.2 = .ok changed) :
    ∃ changed, dict.traverse f = .ok changed := by
  have traversed (entries : List (String × α))
      (succeed : ∀ entry ∈ entries, ∃ changed, f entry.1 entry.2 = .ok changed) :
      ∃ changed, traverseEntries f entries = .ok changed := by
    induction entries with
    | nil => exact ⟨[], rfl⟩
    | cons head rest ih =>
        obtain ⟨changed, first⟩ := succeed head List.mem_cons_self
        obtain ⟨others, following⟩ := ih fun entry member =>
          succeed entry (List.mem_cons_of_mem _ member)
        exact ⟨(head.1, changed) :: others, by simp [traverseEntries, first, following]⟩
  obtain ⟨changed, done⟩ := traversed dict.entries succeed
  have ascending := dict.ascending.of_keys_eq (keys_traverseEntries done)
  exact ⟨⟨changed, ascending⟩, traverse_eq_ok_iff_entries.mpr done⟩

/-- A traversal keeps the keys and takes every value through its step. -/
theorem get?_traverse {f : String → α → Except ε β} {dict : Dict α} {changed : Dict β}
    (done : dict.traverse f = .ok changed) (key : String) :
    Option.Rel (fun before after => f key before = .ok after) (dict.get? key)
      (changed.get? key) := by
  have traversed := traverse_eq_ok_iff_entries.mp done
  unfold get?
  generalize dict.entries = entries, changed.entries = others at traversed
  induction entries generalizing others with
  | nil =>
      obtain rfl : [] = others := by simpa [traverseEntries] using traversed
      exact .none
  | cons head rest ih =>
      obtain ⟨name, value⟩ := head
      simp only [traverseEntries] at traversed
      split at traversed
      · cases traversed
      · rename_i after first
        split at traversed
        · cases traversed
        · rename_i following restDone
          obtain rfl := Except.ok.inj traversed
          by_cases same : key = name
          · subst same
            simpa [findEntry] using Option.Rel.some first
          · simpa [findEntry, same] using ih _ restDone

theorem exists_of_rel {relation : String → α → β → Prop} {first : Dict α} {second : Dict β}
    (related : ∀ key, Option.Rel (relation key) (first.get? key) (second.get? key))
    {entry : String × α} (listed : entry ∈ first.entries) :
    ∃ after, relation entry.1 entry.2 after := by
  have step := related entry.1
  rw [get?_eq_some_iff.mpr listed] at step
  generalize second.get? entry.1 = found at step
  cases step with
  | some holds => exact ⟨_, holds⟩

/-- A traversal is determined by what its steps do at every key. -/
theorem traverse_eq_ok_iff {f : String → α → Except ε β} {dict : Dict α} {changed : Dict β} :
    dict.traverse f = .ok changed ↔
      ∀ key, Option.Rel (fun before after => f key before = .ok after) (dict.get? key)
        (changed.get? key) := by
  constructor
  · exact get?_traverse
  · intro steps
    obtain ⟨others, done⟩ := exists_traverse_eq_ok fun entry listed => exists_of_rel steps listed
    rw [done]
    congr 1
    ext1 key
    -- Both dictionaries hold what the step at the key gives.
    have step := steps key
    have step' := get?_traverse done key
    generalize dict.get? key = before, others.get? key = first, changed.get? key = second
      at step step'
    cases step with
    | none => cases step'; rfl
    | some after =>
        cases step' with
        | some after' => rw [after] at after'; cases after'; rfl

theorem size_eq_of_rel {relation : String → α → β → Prop} {first : Dict α} {second : Dict β}
    (related : ∀ key, Option.Rel (relation key) (first.get? key) (second.get? key)) :
    first.size = second.size := by
  have keys : first.keys.Perm second.keys := by
    apply (List.perm_ext_iff_of_nodup first.nodup_keys second.nodup_keys).mpr
    intro key
    rw [mem_keys_iff, mem_keys_iff]
    have step := related key
    generalize first.get? key = before, second.get? key = after at step
    cases step <;> simp
  rw [← first.length_keys, ← second.length_keys, keys.length_eq]

/-- Undoing a change of the values by a step that may fail gives the values back. -/
theorem traverse_mapKeyed {f : String → α → β} {g : String → β → Except ε α}
    (undone : ∀ key value, g key (f key value) = .ok value) (dict : Dict α) :
    (dict.mapKeyed f).traverse g = .ok dict := by
  apply traverse_eq_ok_iff.mpr
  intro key
  rw [get?_mapKeyed]
  cases dict.get? key with
  | none => exact .none
  | some value => exact .some (undone key value)

end Dict

end TrustRoot
