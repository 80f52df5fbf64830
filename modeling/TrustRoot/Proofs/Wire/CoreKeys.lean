import TrustRoot.Proofs.Document.RoundTrip
import TrustRoot.Proofs.Text.Base64Spelling

/-!
# Records of core systems

A record has four parts: names of algorithms are texts, and keys are Base64 texts.  It is accepted
as an object with exactly one member for each part, and also as the list of the four values, and in
either form some padding of a key may be missing (`CoreKeys.ofJson_eq_ok_iff`).  Only an object
whose keys have their padding is what the record is written as again.
-/

namespace TrustRoot

namespace CoreKeys

theorem Part.mem_all (part : Part) : part ∈ all := by cases part <;> decide

theorem Part.nodup_names : (all.map name).Nodup := by decide

theorem Part.ofName?_eq_some_iff {name : String} {part : Part} :
    ofName? name = some part ↔ part.name = name := by
  constructor
  · intro found
    simpa using List.find?_some found
  · rintro rfl
    cases part <;> decide

/-- A JSON value is the Base64 text of a key, of which some padding is left out unless it is
required. -/
def WritesKey (padding : Base64.Padding) (found : Json) (key : Bytes) : Prop :=
  ∃ text, found = .string text ∧ Base64.Spells padding (Bytes.ofText text) key

/-- A JSON value writes one part of a record. -/
def Part.Writes (padding : Base64.Padding) (keys : CoreKeys) : Part → Json → Prop
  | .onlineAlgorithm, found => found = .string keys.onlineAlgorithm
  | .onlineKey, found => WritesKey padding found keys.onlineKey
  | .offlineAlgorithm, found => found = .string keys.offlineAlgorithm
  | .offlineKey, found => WritesKey padding found keys.offlineKey

/-- The dictionary with one member for each part. -/
def membersOf (values : Part → Json) : Dict Json :=
  .ofList (Part.all.map fun part => (part.name, values part))

/-- A JSON value is an object with exactly the members of a record. -/
def IsRecord (padding : Base64.Padding) (found : Json) (keys : CoreKeys) : Prop :=
  ∃ values : Part → Json, found = .ofDict (membersOf values) ∧
    ∀ part : Part, part.Writes padding keys (values part)

/-- A JSON value is the list of the values of a record. -/
def IsList (padding : Base64.Padding) (found : Json) (keys : CoreKeys) : Prop :=
  ∃ values : Part → Json, found = .array (Part.all.map values) ∧
    ∀ part : Part, part.Writes padding keys (values part)

theorem get?_membersOf_eq_some_iff {values : Part → Json} {name : String} {value : Json} :
    (membersOf values).get? name = some value ↔
      ∃ part : Part, part.name = name ∧ values part = value := by
  have different : ((Part.all.map fun part => (part.name, values part)).map Prod.fst).Nodup := by
    rw [List.map_map]
    exact Part.nodup_names
  rw [membersOf, Dict.get?_ofList_eq_some_iff different]
  simp [Part.mem_all]

/-! ## Parts -/

theorem readText_eq_ok_iff {found : Json} {text : String} :
    readText found = .ok text ↔ found = .string text := by
  cases found <;> simp [readText]

theorem readKey_eq_ok_iff {found : Json} {key : Bytes} :
    readKey found = .ok key ↔ WritesKey .optional found key := by
  cases found with
  | string text =>
      rw [readKey, mapError_eq_ok_iff, Base64.decode_eq_ok_iff, WritesKey]
      simp
  | _ => simp [readKey, WritesKey]

/-- One value for each part. -/
def valuesOf (onlineAlgorithm onlineKey offlineAlgorithm offlineKey : Json) : Part → Json
  | .onlineAlgorithm => onlineAlgorithm
  | .onlineKey => onlineKey
  | .offlineAlgorithm => offlineAlgorithm
  | .offlineKey => offlineKey

/-- The record whose parts are fetched and read one after the other. -/
def ofFetched (fetch : Part → Except Fault Json) : Except Fault CoreKeys := do
  let onlineAlgorithm ← readText (← fetch .onlineAlgorithm)
  let onlineKey ← readKey (← fetch .onlineKey)
  let offlineAlgorithm ← readText (← fetch .offlineAlgorithm)
  let offlineKey ← readKey (← fetch .offlineKey)
  return { onlineAlgorithm, onlineKey, offlineAlgorithm, offlineKey }

theorem ofFetched_eq_ok_iff {fetch : Part → Except Fault Json} {keys : CoreKeys} :
    ofFetched fetch = .ok keys ↔ ∃ values : Part → Json,
      ∀ part : Part, fetch part = .ok (values part) ∧ part.Writes .optional keys (values part) := by
  constructor
  · intro done
    obtain ⟨onlineAlgorithm, onlineAlgorithmHeld, done⟩ := bind_eq_ok_iff.mp done
    obtain ⟨_, onlineAlgorithmRead, done⟩ := bind_eq_ok_iff.mp done
    obtain ⟨onlineKey, onlineKeyHeld, done⟩ := bind_eq_ok_iff.mp done
    obtain ⟨_, onlineKeyRead, done⟩ := bind_eq_ok_iff.mp done
    obtain ⟨offlineAlgorithm, offlineAlgorithmHeld, done⟩ := bind_eq_ok_iff.mp done
    obtain ⟨_, offlineAlgorithmRead, done⟩ := bind_eq_ok_iff.mp done
    obtain ⟨offlineKey, offlineKeyHeld, done⟩ := bind_eq_ok_iff.mp done
    obtain ⟨_, offlineKeyRead, done⟩ := bind_eq_ok_iff.mp done
    obtain rfl := Except.ok.inj done
    refine ⟨valuesOf onlineAlgorithm onlineKey offlineAlgorithm offlineKey, ?_⟩
    rintro (_ | _ | _ | _)
    · exact ⟨onlineAlgorithmHeld, readText_eq_ok_iff.mp onlineAlgorithmRead⟩
    · exact ⟨onlineKeyHeld, readKey_eq_ok_iff.mp onlineKeyRead⟩
    · exact ⟨offlineAlgorithmHeld, readText_eq_ok_iff.mp offlineAlgorithmRead⟩
    · exact ⟨offlineKeyHeld, readKey_eq_ok_iff.mp offlineKeyRead⟩
  · rintro ⟨values, parts⟩
    have fetched (part : Part) := (parts part).1
    have writes (part : Part) := (parts part).2
    simp only [ofFetched, fetched, readText_eq_ok_iff.mpr (writes .onlineAlgorithm),
      readKey_eq_ok_iff.mpr (writes .onlineKey), readText_eq_ok_iff.mpr (writes .offlineAlgorithm),
      readKey_eq_ok_iff.mpr (writes .offlineKey), bind, Except.bind]
    rfl

theorem Part.Writes.check {part : Part} {keys : CoreKeys} {found : Json}
    (writes : part.Writes .optional keys found) : part.check found = .ok () := by
  cases part with
  | onlineAlgorithm | offlineAlgorithm =>
      rw [Part.check, readText_eq_ok_iff.mpr writes]
      rfl
  | onlineKey | offlineKey =>
      rw [Part.check, readKey_eq_ok_iff.mpr writes]
      rfl

/-! ## Objects -/

theorem memberOf_eq_ok_iff {members : List (String × Json)} {part : Part} {value : Json} :
    memberOf members part = .ok value ↔ findEntry part.name members = some value := by
  unfold memberOf
  cases findEntry part.name members <;> simp

theorem exists_part_of_checkMember {member : String × Json}
    (passed : checkMember member = .ok ()) : ∃ part : Part, part.name = member.1 := by
  unfold checkMember at passed
  split at passed
  · rename_i part named
    exact ⟨part, Part.ofName?_eq_some_iff.mp named⟩
  · cases passed

theorem ofMembers_eq_ok_iff {members : List (String × Json)} {keys : CoreKeys} :
    ofMembers members = .ok keys ↔
      (∀ member ∈ members, checkMember member = .ok ()) ∧
        ∃ values : Part → Json, ∀ part : Part,
          findEntry part.name members = some (values part) ∧
            part.Writes .optional keys (values part) := by
  have sequence : ofMembers members =
      members.forM checkMember >>= fun _ => ofFetched (memberOf members) := rfl
  rw [sequence, bind_eq_ok_iff, ← forM_eq_ok_iff]
  simp only [ofFetched_eq_ok_iff, memberOf_eq_ok_iff]
  constructor
  · rintro ⟨_, passed, read⟩
    exact ⟨passed, read⟩
  · rintro ⟨passed, read⟩
    exact ⟨(), passed, read⟩

/-- An object is accepted exactly if it is a record. -/
theorem ofMembers_eq_ok_iff_isRecord {members : List (String × Json)} {keys : CoreKeys}
    (ascending : KeysAscend members) :
    ofMembers members = .ok keys ↔ IsRecord .optional (.object members) keys := by
  rw [ofMembers_eq_ok_iff]
  constructor
  · rintro ⟨passed, values, parts⟩
    refine ⟨values, ?_, fun part => (parts part).2⟩
    have same : (⟨members, ascending⟩ : Dict Json) = membersOf values := by
      ext name value
      rw [get?_membersOf_eq_some_iff]
      constructor
      · intro found
        obtain ⟨part, rfl⟩ := exists_part_of_checkMember (passed _ (mem_of_findEntry found))
        exact ⟨part, rfl, Option.some.inj ((parts part).1.symm.trans found)⟩
      · rintro ⟨part, rfl, rfl⟩
        exact (parts part).1
    exact congrArg Json.ofDict same
  · rintro ⟨values, same, writes⟩
    obtain rfl : members = (membersOf values).entries := Json.object.inj same
    refine ⟨?_, values, fun part => ⟨?_, writes part⟩⟩
    · intro member listed
      obtain ⟨part, named, value⟩ :=
        get?_membersOf_eq_some_iff.mp (Dict.get?_eq_some_iff.mpr listed)
      rw [checkMember, Part.ofName?_eq_some_iff.mpr named, ← value]
      exact (writes part).check
    · exact get?_membersOf_eq_some_iff.mpr ⟨part, rfl, rfl⟩

/-! ## Lists -/

theorem itemAt_eq_ok_iff {items : List Json} {position : Nat} {value : Json} :
    itemAt items position = .ok value ↔ items[position]? = some value := by
  unfold itemAt
  cases items[position]? <;> simp

/-- The place of a part in a list. -/
def Part.position : Part → Nat
  | .onlineAlgorithm => 0
  | .onlineKey => 1
  | .offlineAlgorithm => 2
  | .offlineKey => 3

theorem ofItems_eq_bind (items : List Json) :
    ofItems items = (ofFetched fun part => itemAt items part.position) >>= fun keys =>
      if 4 < items.length then .error (.tooLong items.length) else .ok keys := by
  simp only [ofItems, ofFetched, Part.position, bind_assoc, pure_bind]
  rfl

/-- Items are accepted exactly if they are the four parts of a record in their order. -/
theorem ofItems_eq_ok_iff {items : List Json} {keys : CoreKeys} :
    ofItems items = .ok keys ↔ IsList .optional (.array items) keys := by
  rw [ofItems_eq_bind]
  constructor
  · intro done
    obtain ⟨_, fetched, done⟩ := bind_eq_ok_iff.mp done
    split at done
    · cases done
    rename_i notMore
    obtain rfl := Except.ok.inj done
    obtain ⟨values, parts⟩ := ofFetched_eq_ok_iff.mp fetched
    have held (part : Part) : items[part.position]? = some (values part) :=
      itemAt_eq_ok_iff.mp (parts part).1
    refine ⟨values, congrArg Json.array (List.ext_getElem? fun position => ?_),
      fun part => (parts part).2⟩
    rcases position with _ | _ | _ | _ | more
    · exact held .onlineAlgorithm
    · exact held .onlineKey
    · exact held .offlineAlgorithm
    · exact held .offlineKey
    · rw [List.getElem?_eq_none (by omega), List.getElem?_eq_none (by simp [Part.all])]
  · rintro ⟨values, same, writes⟩
    obtain rfl : items = Part.all.map values := Json.array.inj same
    refine bind_eq_ok_iff.mpr ⟨keys, ofFetched_eq_ok_iff.mpr ⟨values, ?_⟩, rfl⟩
    intro part
    refine ⟨itemAt_eq_ok_iff.mpr ?_, writes part⟩
    cases part <;> rfl

/-- A record is accepted as an object or as a list, and only so. -/
theorem ofJson_eq_ok_iff {found : Json} (ordered : found.Ordered) {keys : CoreKeys} :
    ofJson found = .ok keys ↔ IsRecord .optional found keys ∨ IsList .optional found keys := by
  cases found with
  | object members =>
      have noList : ¬ IsList .optional (.object members) keys := by
        rintro ⟨_, ⟨⟩, -⟩
      rw [or_iff_left noList]
      exact ofMembers_eq_ok_iff_isRecord ordered.1
  | array items =>
      have noRecord : ¬ IsRecord .optional (.array items) keys := by
        rintro ⟨_, ⟨⟩, -⟩
      rw [or_iff_right noRecord]
      exact ofItems_eq_ok_iff
  | _ => simp [ofJson, IsRecord, IsList, Json.ofDict]

/-! ## Complete padding -/

theorem writesKey_required_iff {found : Json} {key : Bytes} :
    WritesKey .required found key ↔ found = .string (Base64.encodeText key) := by
  constructor
  · rintro ⟨text, rfl, spells⟩
    rw [Base64.decode_required_ofText_eq_ok_iff.mp (Base64.decode_eq_ok_iff.mpr spells)]
  · rintro rfl
    refine ⟨_, rfl, ?_⟩
    rw [Base64.ofText_encodeText]
    exact Base64.spells_encode _ _

/-- The value that a part is written as. -/
def partJson (keys : CoreKeys) : Part → Json
  | .onlineAlgorithm => .string keys.onlineAlgorithm
  | .onlineKey => .string (Base64.encodeText keys.onlineKey)
  | .offlineAlgorithm => .string keys.offlineAlgorithm
  | .offlineKey => .string (Base64.encodeText keys.offlineKey)

theorem writes_required_iff {part : Part} {keys : CoreKeys} {found : Json} :
    part.Writes .required keys found ↔ found = keys.partJson part := by
  cases part with
  | onlineAlgorithm | offlineAlgorithm => exact Iff.rfl
  | onlineKey | offlineKey => exact writesKey_required_iff

theorem ofDict_membersOf_partJson (keys : CoreKeys) :
    Json.ofDict (membersOf keys.partJson) = keys.toJson := by
  rw [toJson, ← Json.ofDict_ofList (Document.restorable_coreKeys keys).ordered.1]
  -- The order of the parts is the opposite of the order of their names.
  exact congrArg Json.ofDict (Dict.ofList_perm (List.reverse_perm _).symm Part.nodup_names)

/-- A record with complete padding is what its keys are written as. -/
theorem isRecord_required_iff {found : Json} {keys : CoreKeys} :
    IsRecord .required found keys ↔ keys.toJson = found := by
  rw [← ofDict_membersOf_partJson]
  constructor
  · rintro ⟨values, rfl, writes⟩
    rw [funext fun part => writes_required_iff.mp (writes part)]
  · rintro rfl
    exact ⟨_, rfl, fun part => writes_required_iff.mpr rfl⟩

/-- A JSON value is an object in which the texts of keys have their padding. -/
def KeysPadded (found : Json) : Prop :=
  ∃ members : Dict Json, found = .ofDict members ∧
    ∀ part ∈ [Part.onlineKey, .offlineKey], ∀ text,
      members.get? part.name = some (.string text) → (Bytes.ofText text).length % 4 = 0

theorem IsRecord.required {padding : Base64.Padding} {found : Json} {keys : CoreKeys}
    (record : IsRecord padding found keys) (padded : KeysPadded found) :
    IsRecord .required found keys := by
  obtain ⟨values, rfl, writes⟩ := record
  obtain ⟨members, same, complete⟩ := padded
  obtain rfl := Json.ofDict_injective same
  have key {part : Part} {octets : Bytes} (isKey : part ∈ [Part.onlineKey, .offlineKey])
      (written : WritesKey padding (values part) octets) :
      WritesKey .required (values part) octets := by
    obtain ⟨text, held, spells⟩ := written
    have groups := complete part isKey text (get?_membersOf_eq_some_iff.mpr ⟨part, rfl, held⟩)
    exact ⟨text, held, Base64.spells_required_iff.mpr (spells.eq_encode groups)⟩
  refine ⟨values, rfl, ?_⟩
  rintro (_ | _ | _ | _)
  · exact writes .onlineAlgorithm
  · exact key (by decide) (writes .onlineKey)
  · exact writes .offlineAlgorithm
  · exact key (by decide) (writes .offlineKey)

end CoreKeys

namespace Document

open CoreKeys

/-- A record of a core system is accepted exactly if it is an object with the four members, or a
list of the four values, where keys may lack padding.  An object with complete padding is what the
keys are written as again, and nothing else is; among the objects in which keys have their padding,
no others are accepted.  What is refused is malformed at the core systems, and whatever keys are
written as is read as these keys. -/
theorem readCoreKeys_exact (identifier : String) {found : Json} (ordered : found.Ordered) :
    (∀ keys, readCoreKeys identifier found = .ok keys ↔
      IsRecord .optional found keys ∨ IsList .optional found keys) ∧
    (∀ keys, IsRecord .required found keys ↔
      readCoreKeys identifier found = .ok keys ∧ keys.toJson = found) ∧
    (KeysPadded found → ∀ keys, readCoreKeys identifier found = .ok keys ↔
      IsRecord .required found keys) ∧
    ((∃ keys, readCoreKeys identifier found = .ok keys) ∨ ∃ fault,
      readCoreKeys identifier found = .error (.malformed "CoreCAs" (.coreKeys identifier fault))) ∧
    ∀ keys, readCoreKeys identifier keys.toJson = .ok keys := by
  have accepts keys : readCoreKeys identifier found = .ok keys ↔
      IsRecord .optional found keys ∨ IsList .optional found keys :=
    mapError_eq_ok_iff.trans (ofJson_eq_ok_iff ordered)
  have restores keys : readCoreKeys identifier keys.toJson = .ok keys :=
    mapError_eq_ok_iff.mpr (ofJson_toJson keys)
  have strict keys : IsRecord .required found keys ↔
      readCoreKeys identifier found = .ok keys ∧ keys.toJson = found := by
    rw [isRecord_required_iff]
    constructor
    · rintro rfl
      exact ⟨restores keys, rfl⟩
    · exact And.right
  refine ⟨accepts, strict, ?_, ?_, restores⟩
  · intro padded keys
    constructor
    · intro read
      rcases (accepts keys).mp read with record | ⟨_, rfl, -⟩
      · exact record.required padded
      · obtain ⟨_, ⟨⟩, -⟩ := padded
    · intro record
      exact ((strict keys).mp record).1
  · unfold readCoreKeys
    cases ofJson found with
    | ok keys => exact .inl ⟨keys, rfl⟩
    | error fault => exact .inr ⟨fault, rfl⟩

/-- Keys with one and with three octets. -/
def keysSample : CoreKeys := ⟨"ed25519", [1], "ed25519", [4, 5, 6]⟩

theorem readCoreKeys_exact_sample : keysSample.toJson.Ordered ∧
    readCoreKeys "1-11" keysSample.toJson = .ok keysSample := by
  have ordered := (restorable_coreKeys keysSample).ordered
  obtain ⟨-, strict, -, -, -⟩ := readCoreKeys_exact "1-11" ordered
  exact ⟨ordered, ((strict keysSample).mp (isRecord_required_iff.mpr rfl)).1⟩

/-- The record without the padding of its online key. -/
def unpaddedRecord : Json :=
  .object [("OfflineKey", .string "BAUG"), ("OfflineKeyAlg", .string "ed25519"),
    ("OnlineKey", .string "AQ"), ("OnlineKeyAlg", .string "ed25519")]

/-- The record as a list. -/
def listedRecord : Json :=
  .array [.string "ed25519", .string "AQ==", .string "ed25519", .string "BAUG"]

/-- A record without padding and a list are accepted, although neither is what keys are written
as. -/
theorem accepted_though_not_written :
    (readCoreKeys "1-11" unpaddedRecord = .ok keysSample ∧
      ∀ keys : CoreKeys, keys.toJson ≠ unpaddedRecord) ∧
    readCoreKeys "1-11" listedRecord = .ok keysSample ∧
      ∀ keys : CoreKeys, keys.toJson ≠ listedRecord := by
  refine ⟨⟨rfl, fun keys same => ?_⟩, rfl, ?_⟩
  · have online : "AQ" = Base64.encodeText keys.onlineKey := by
      simp only [toJson, unpaddedRecord, Json.object.injEq, List.cons.injEq, Prod.mk.injEq,
        Json.string.injEq] at same
      exact same.2.2.1.2.symm
    cases Base64.decode_required_ofText_eq_ok_iff.mpr online
  · rintro keys ⟨⟩

end Document

end TrustRoot
