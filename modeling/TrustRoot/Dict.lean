/-!
# Dictionaries in key order

A dictionary maps text keys to values and lists its entries by strictly ascending key, comparing
keys by code points, which is also the order of their UTF-8 octets. Equal look-ups therefore mean
equal dictionaries (`Dict.ext`), and `Dict.get?_insert` says what an insertion changes.
-/

namespace TrustRoot

universe u v w

/-- The entries with `value` stored under `key`, in place of an earlier value. -/
def insertEntry {α : Type u} (key : String) (value : α) :
    List (String × α) → List (String × α)
  | [] => [(key, value)]
  | (other, held) :: rest =>
    if key < other then (key, value) :: (other, held) :: rest
    else if key = other then (key, value) :: rest
    else (other, held) :: insertEntry key value rest

/-- The value of the first entry under `key`. -/
def findEntry {α : Type u} (key : String) : List (String × α) → Option α
  | [] => none
  | (other, held) :: rest => if key = other then some held else findEntry key rest

/-- Keys ascend strictly along the entries. -/
def KeysAscend {α : Type u} (entries : List (String × α)) : Prop :=
  entries.Pairwise fun earlier later => earlier.1 < later.1

/-- Whether keys ascend depends on the keys alone. -/
theorem keysAscend_iff_keys {α : Type u} {entries : List (String × α)} :
    KeysAscend entries ↔ (entries.map Prod.fst).Pairwise (· < ·) :=
  List.pairwise_map.symm

/-- Entries with the keys of ascending entries ascend. -/
theorem KeysAscend.of_keys_eq {α : Type u} {β : Type v} {first : List (String × α)}
    {second : List (String × β)} (ascending : KeysAscend first)
    (same : second.map Prod.fst = first.map Prod.fst) : KeysAscend second := by
  rw [keysAscend_iff_keys] at ascending ⊢
  rwa [same]

/-- The entries with each value changed by a step that may fail; the first failure counts. -/
def traverseEntries {ε : Type w} {α : Type u} {β : Type v} (f : String → α → Except ε β) :
    List (String × α) → Except ε (List (String × β))
  | [] => .ok []
  | (key, value) :: rest =>
    match f key value with
    | .error error => .error error
    | .ok changed =>
      match traverseEntries f rest with
      | .error error => .error error
      | .ok others => .ok ((key, changed) :: others)

theorem keys_traverseEntries {ε : Type w} {α : Type u} {β : Type v} {f : String → α → Except ε β}
    {entries : List (String × α)} {changed : List (String × β)}
    (done : traverseEntries f entries = .ok changed) :
    changed.map Prod.fst = entries.map Prod.fst := by
  induction entries generalizing changed with
  | nil =>
      obtain rfl : [] = changed := by simpa [traverseEntries] using done
      rfl
  | cons head rest ih =>
      obtain ⟨key, value⟩ := head
      simp only [traverseEntries] at done
      split at done
      · simp at done
      · split at done
        · simp at done
        · rename_i others traversed
          obtain rfl := by simpa using done
          simp [ih traversed]

/-- A finite map from text keys, listed by ascending key. -/
structure Dict (α : Type u) where
  entries : List (String × α)
  ascending : KeysAscend entries

theorem key_mem_of_mem_insertEntry {α : Type u} {key : String} {value : α}
    {entry : String × α} {entries : List (String × α)}
    (member : entry ∈ insertEntry key value entries) : entry.1 = key ∨ entry ∈ entries := by
  induction entries with
  | nil => simp_all [insertEntry]
  | cons head rest ih =>
      obtain ⟨other, held⟩ := head
      simp only [insertEntry] at member
      split at member
      · simp only [List.mem_cons] at member
        rcases member with rfl | member
        · exact .inl rfl
        · exact .inr (by simpa using member)
      · split at member
        · simp only [List.mem_cons] at member
          rcases member with rfl | member
          · exact .inl rfl
          · exact .inr (List.mem_cons_of_mem _ member)
        · simp only [List.mem_cons] at member
          rcases member with rfl | member
          · exact .inr List.mem_cons_self
          · exact (ih member).imp_right (List.mem_cons_of_mem _)

theorem key_lt_of_not_lt {first second : String} (above : ¬ first < second)
    (different : first ≠ second) : second < first := by
  rcases Std.lt_trichotomy first second with below | same | beyond
  · exact absurd below above
  · exact absurd same different
  · exact beyond

theorem keysAscend_insertEntry {α : Type u} (key : String) (value : α)
    {entries : List (String × α)} (ascending : KeysAscend entries) :
    KeysAscend (insertEntry key value entries) := by
  induction entries with
  | nil => simp [insertEntry, KeysAscend]
  | cons head rest ih =>
      obtain ⟨other, held⟩ := head
      obtain ⟨headBelow, restAscends⟩ := List.pairwise_cons.mp ascending
      simp only [insertEntry]
      split
      · rename_i below
        refine List.pairwise_cons.mpr ⟨fun entry member => ?_, ascending⟩
        rcases List.mem_cons.mp member with rfl | inRest
        · exact below
        · exact String.lt_trans below (headBelow entry inRest)
      · rename_i notBelow
        split
        · rename_i same
          subst same
          exact List.pairwise_cons.mpr ⟨headBelow, restAscends⟩
        · rename_i different
          refine List.pairwise_cons.mpr ⟨fun entry member => ?_, ih restAscends⟩
          rcases key_mem_of_mem_insertEntry member with isKey | inRest
          · rw [isKey]
            exact key_lt_of_not_lt notBelow different
          · exact headBelow entry inRest

theorem findEntry_insertEntry {α : Type u} (sought key : String) (value : α)
    (entries : List (String × α)) :
    findEntry sought (insertEntry key value entries) =
      if sought = key then some value else findEntry sought entries := by
  induction entries with
  | nil => simp [insertEntry, findEntry]
  | cons head rest ih =>
      obtain ⟨other, held⟩ := head
      simp only [insertEntry]
      split
      · simp [findEntry]
      · split
        · rename_i same
          subst same
          by_cases isKey : sought = key <;> simp [findEntry, isKey]
        · rename_i different
          by_cases isOther : sought = other
          · have : sought ≠ key := fun isKey => different (isKey ▸ isOther)
            simp [findEntry, isOther, Ne.symm different]
          · simp [findEntry, isOther, ih]

namespace Dict

def empty {α : Type u} : Dict α := ⟨[], .nil⟩

/-- The dictionary with `value` stored under `key`. -/
def insert {α : Type u} (dict : Dict α) (key : String) (value : α) : Dict α :=
  ⟨insertEntry key value dict.entries, keysAscend_insertEntry key value dict.ascending⟩

/-- The dictionary of these entries; of several under one key the last counts. -/
def ofList {α : Type u} (entries : List (String × α)) : Dict α :=
  entries.foldl (fun dict entry => dict.insert entry.1 entry.2) empty

def get? {α : Type u} (dict : Dict α) (key : String) : Option α := findEntry key dict.entries

def contains {α : Type u} (dict : Dict α) (key : String) : Bool := (dict.get? key).isSome

def keys {α : Type u} (dict : Dict α) : List String := dict.entries.map Prod.fst

def size {α : Type u} (dict : Dict α) : Nat := dict.entries.length

def erase {α : Type u} (dict : Dict α) (key : String) : Dict α :=
  ⟨dict.entries.filter fun entry => entry.1 != key, dict.ascending.filter _⟩

/-- The entries whose value `f` keeps, with the value that it gives. -/
def filterMap {α : Type u} {β : Type v} (dict : Dict α) (f : String → α → Option β) : Dict β where
  entries := dict.entries.filterMap fun entry => (f entry.1 entry.2).map (entry.1, ·)
  ascending := by
    refine List.Pairwise.filterMap _ (fun first second below image member image' member' => ?_)
      dict.ascending
    simp only [Option.map_eq_some_iff] at member member'
    obtain ⟨_, _, rfl⟩ := member
    obtain ⟨_, _, rfl⟩ := member'
    exact below

/-- The same keys with each value changed by `f`, which also sees the key. -/
def mapKeyed {α : Type u} {β : Type v} (dict : Dict α) (f : String → α → β) : Dict β :=
  ⟨dict.entries.map fun entry => (entry.1, f entry.1 entry.2),
    dict.ascending.of_keys_eq (by simp)⟩

/-- The same keys with each value changed by `f`. -/
def map {α : Type u} {β : Type v} (dict : Dict α) (f : α → β) : Dict β :=
  dict.mapKeyed fun _ value => f value

/-- The same keys with each value changed by a step that may fail; the failure at the smallest
key counts. -/
def traverse {ε : Type w} {α : Type u} {β : Type v} (dict : Dict α)
    (f : String → α → Except ε β) : Except ε (Dict β) :=
  match done : traverseEntries f dict.entries with
  | .error error => .error error
  | .ok changed => .ok ⟨changed, dict.ascending.of_keys_eq (keys_traverseEntries done)⟩

instance {α : Type u} [BEq α] : BEq (Dict α) := ⟨fun first second => first.entries == second.entries⟩

instance {α : Type u} : Inhabited (Dict α) := ⟨empty⟩

@[simp] theorem get?_empty {α : Type u} (key : String) : (empty : Dict α).get? key = none := rfl

theorem get?_insert {α : Type u} (dict : Dict α) (sought key : String) (value : α) :
    (dict.insert key value).get? sought = if sought = key then some value else dict.get? sought :=
  findEntry_insertEntry sought key value dict.entries

@[simp] theorem get?_insert_self {α : Type u} (dict : Dict α) (key : String) (value : α) :
    (dict.insert key value).get? key = some value := by
  simp [get?_insert]

end Dict

/-- A key below every listed key is not found. -/
theorem findEntry_eq_none_of_below {α : Type u} {key : String} {entries : List (String × α)}
    (below : ∀ entry ∈ entries, key < entry.1) : findEntry key entries = none := by
  induction entries with
  | nil => rfl
  | cons head rest ih =>
      have different : key ≠ head.1 := fun same =>
        String.lt_irrefl key (same ▸ below head List.mem_cons_self)
      simp [findEntry, different, ih fun entry member => below entry (List.mem_cons_of_mem _ member)]

/-- Ascending entries with equal look-ups are the same. -/
theorem KeysAscend.eq_of_findEntry {α : Type u} {first second : List (String × α)}
    (firstAscends : KeysAscend first) (secondAscends : KeysAscend second)
    (agree : ∀ key, findEntry key first = findEntry key second) : first = second := by
  induction first generalizing second with
  | nil =>
      cases second with
      | nil => rfl
      | cons head rest => simpa [findEntry] using agree head.1
  | cons head rest ih =>
      cases second with
      | nil => simpa [findEntry] using agree head.1
      | cons head' rest' =>
          obtain ⟨below, ascends⟩ := List.pairwise_cons.mp firstAscends
          obtain ⟨below', ascends'⟩ := List.pairwise_cons.mp secondAscends
          have same : head.1 = head'.1 := by
            rcases Std.lt_trichotomy head.1 head'.1 with less | equal | more
            · have absent : findEntry head.1 (head' :: rest') = none :=
                findEntry_eq_none_of_below fun entry member => by
                  rcases List.mem_cons.mp member with rfl | inRest
                  · exact less
                  · exact String.lt_trans less (below' entry inRest)
              rw [← agree] at absent
              simp [findEntry] at absent
            · exact equal
            · have absent : findEntry head'.1 (head :: rest) = none :=
                findEntry_eq_none_of_below fun entry member => by
                  rcases List.mem_cons.mp member with rfl | inRest
                  · exact more
                  · exact String.lt_trans more (below entry inRest)
              rw [agree] at absent
              simp [findEntry] at absent
          have value : head.2 = head'.2 := by
            have := agree head.1
            simpa [findEntry, same] using this
          have rests : rest = rest' := ih ascends ascends' fun key => by
            by_cases isHead : key = head.1
            · rw [findEntry_eq_none_of_below fun entry member => isHead ▸ below entry member,
                findEntry_eq_none_of_below fun entry member => isHead ▸ same ▸ below' entry member]
            · have := agree key
              have isHead' : key ≠ head'.1 := same ▸ isHead
              simpa [findEntry, isHead, isHead'] using this
          rw [rests, Prod.ext same value]

/-- Dictionaries with equal look-ups are the same. -/
@[ext] theorem Dict.ext_get? {α : Type u} {first second : Dict α}
    (agree : ∀ key, first.get? key = second.get? key) : first = second := by
  obtain ⟨entries, ascending⟩ := first
  obtain ⟨entries', ascending'⟩ := second
  obtain rfl : entries = entries' := ascending.eq_of_findEntry ascending' agree
  rfl

end TrustRoot
