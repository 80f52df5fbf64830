import TrustRoot.Proofs.Dict
import TrustRoot.Store

/-!
# Sharing in stores

A store stands for documents under names, each with signatures of its own (`Store.copies`).  Every
operation does to these documents what it would do if nothing were shared.  Bags are told apart by
their number: new bags come last, so a holder of a new bag is alone, and a bag that is changed in
place has no second holder.
-/

namespace TrustRoot.Store

/-- Every document has a bag. -/
def WellFormed (store : Store) : Prop :=
  ∀ name holder, store.holders.get? name = some holder → holder.bag < store.bags.length

/-- The documents of a store by name. -/
def copies (store : Store) : Dict Document :=
  store.holders.map store.document

theorem get?_copies (store : Store) (name : String) :
    store.copies.get? name = store.get? name :=
  Dict.get?_map _ _ name

theorem wellFormed_empty : empty.WellFormed := by
  intro name holder found
  cases found

/-! ## New documents -/

theorem signatures_append (store : Store) {bag : Nat} (inside : bag < store.bags.length)
    (holders : Dict Holder) (more : List (Dict Bytes)) :
    signatures ⟨holders, store.bags ++ more⟩ bag = store.signatures bag := by
  simp [signatures, List.getD, List.getElem?_append_left inside]

theorem WellFormed.put {store : Store} (wellFormed : store.WellFormed) (name : String)
    (document : Document) : (store.put name document).WellFormed := by
  intro other holder found
  rw [Store.put, Dict.get?_insert] at found
  simp only [Store.put, List.length_append, List.length_singleton]
  split at found
  · cases found
    exact Nat.lt_succ_self _
  · exact Nat.lt_succ_of_lt (wellFormed other holder found)

/-- A document that is put under a name changes no other. -/
theorem copies_put {store : Store} (wellFormed : store.WellFormed) (name : String)
    (document : Document) :
    (store.put name document).copies = store.copies.insert name document := by
  ext1 other
  rw [get?_copies, Dict.get?_insert, get?_copies, Store.get?, Store.put, Dict.get?_insert]
  split
  · simp [Store.document, signatures, List.getD]
  · rw [Store.get?]
    cases found : store.holders.get? other with
    | none => rfl
    | some holder =>
        have same := store.signatures_append (wellFormed other holder found)
          (store.holders.insert name ⟨document.toBody, store.bags.length⟩) [document.signatures]
        simp [Store.document, same]

/-! ## Copies and removals -/

theorem WellFormed.share {store : Store} (wellFormed : store.WellFormed) (source target : String) :
    (store.share source target).WellFormed := by
  unfold Store.share
  cases held : store.holders.get? source with
  | none => exact wellFormed
  | some shared =>
      intro other holder found
      rw [Dict.get?_insert] at found
      split at found
      · cases found
        exact wellFormed source shared held
      · exact wellFormed other holder found

/-- Sharing gives the other name a copy. -/
theorem copies_share {store : Store} {source : String} {document : Document}
    (found : store.copies.get? source = some document) (target : String) :
    (store.share source target).copies = store.copies.insert target document := by
  rw [get?_copies, Store.get?] at found
  obtain ⟨holder, held, rfl⟩ := Option.map_eq_some_iff.mp found
  have shared : store.share source target =
      { store with holders := store.holders.insert target holder } := by
    rw [Store.share, held]
  ext1 other
  rw [shared, get?_copies, Dict.get?_insert, get?_copies, Store.get?, Dict.get?_insert]
  split <;> rfl

theorem WellFormed.drop {store : Store} (wellFormed : store.WellFormed) (name : String) :
    (store.drop name).WellFormed := by
  intro other holder found
  rw [Store.drop, Dict.get?_erase] at found
  split at found
  · cases found
  · exact wellFormed other holder found

theorem copies_drop (store : Store) (name : String) :
    (store.drop name).copies = store.copies.erase name := by
  ext1 other
  rw [get?_copies, Dict.get?_erase, get?_copies, Store.get?, Store.drop, Dict.get?_erase]
  split <;> rfl

/-! ## Writes -/

section Write

variable {store : Store} {name : String} {holder : Holder}

/-- A shared bag is left alone, and the document gets a new one. -/
theorem write_of_shared (shared : store.holderCount holder.bag ≠ 1) (signatures : Dict Bytes) :
    store.write name holder signatures =
      store.put name { store.document holder with signatures } := by
  rw [Store.write, if_neg shared]
  rfl

theorem write_of_alone (alone : store.holderCount holder.bag = 1) (signatures : Dict Bytes) :
    store.write name holder signatures =
      { store with bags := store.bags.set holder.bag signatures } := by
  rw [Store.write, if_pos alone]

/-- A bag with one holder is held under one name. -/
theorem bag_ne_of_alone (held : store.holders.get? name = some holder)
    (alone : store.holderCount holder.bag = 1) {other : String} {holder' : Holder}
    (different : other ≠ name) (held' : store.holders.get? other = some holder') :
    holder'.bag ≠ holder.bag := by
  intro same
  exact different (Dict.eq_of_countP_eq_one alone held' (by simp [same]) held (by simp))

theorem WellFormed.write (wellFormed : store.WellFormed) (name : String) (holder : Holder)
    (signatures : Dict Bytes) : (store.write name holder signatures).WellFormed := by
  by_cases alone : store.holderCount holder.bag = 1
  · rw [write_of_alone alone]
    intro other holder' found
    simpa using wellFormed other holder' found
  · rw [write_of_shared alone]
    exact wellFormed.put name _

/-- Writing the signatures of one document changes no other. -/
theorem copies_write (wellFormed : store.WellFormed)
    (held : store.holders.get? name = some holder) (signatures : Dict Bytes) :
    (store.write name holder signatures).copies =
      store.copies.insert name { store.document holder with signatures } := by
  by_cases alone : store.holderCount holder.bag = 1
  · rw [write_of_alone alone]
    ext1 other
    rw [get?_copies, Dict.get?_insert, get?_copies, Store.get?, Store.get?]
    split
    · rename_i same
      subst same
      have inside := wellFormed other holder held
      simp [held, Store.document, Store.signatures, List.getD, inside]
    · rename_i different
      cases found : store.holders.get? other with
      | none => rfl
      | some holder' =>
          have otherBag := bag_ne_of_alone held alone different found
          simp [Store.document, Store.signatures, List.getD,
            List.getElem?_set_ne (Ne.symm otherBag)]
  · rw [write_of_shared alone]
    exact copies_put wellFormed name _

end Write

/-- The place of other signatures stays the same. -/
theorem holders_put {store : Store} {name other : String} (different : other ≠ name)
    (document : Document) :
    (store.put name document).holders.get? other = store.holders.get? other := by
  rw [Store.put, Dict.get?_insert, if_neg different]

theorem holders_write {store : Store} {name other : String} (different : other ≠ name)
    (holder : Holder) (signatures : Dict Bytes) :
    (store.write name holder signatures).holders.get? other = store.holders.get? other := by
  by_cases alone : store.holderCount holder.bag = 1
  · rw [write_of_alone alone]
  · rw [write_of_shared alone]
    exact holders_put different _

/-! ## Who shares with whom -/

theorem shares_eq_some_true_iff {store : Store} {first second : String} :
    store.shares first second = some true ↔
      ∃ holder holder', store.holders.get? first = some holder ∧
        store.holders.get? second = some holder' ∧ holder.bag = holder'.bag := by
  simp [Store.shares, Option.bind_eq_some_iff]

/-- Documents that share a bag have the same signatures. -/
theorem signatures_eq_of_shares {store : Store} {first second : String}
    (shared : store.shares first second = some true) :
    ∃ document document', store.get? first = some document ∧
      store.get? second = some document' ∧ document.signatures = document'.signatures := by
  obtain ⟨holder, holder', held, held', same⟩ := shares_eq_some_true_iff.mp shared
  refine ⟨store.document holder, store.document holder', ?_, ?_, ?_⟩
  · rw [Store.get?, held]
    rfl
  · rw [Store.get?, held']
    rfl
  · exact congrArg store.signatures same

/-- A new document shares with no other. -/
theorem not_shares_put {store : Store} (wellFormed : store.WellFormed) (name : String)
    (document : Document) {other : String} (different : other ≠ name) :
    (store.put name document).shares name other ≠ some true := by
  intro shared
  obtain ⟨holder, holder', held, held', same⟩ := shares_eq_some_true_iff.mp shared
  rw [Store.put, Dict.get?_insert, if_pos rfl] at held
  rw [Store.put, Dict.get?_insert, if_neg different] at held'
  cases held
  exact Nat.ne_of_lt (wellFormed other holder' held') same.symm

/-- A document that was written to shares with no other. -/
theorem not_shares_write {store : Store} (wellFormed : store.WellFormed) {name : String}
    {holder : Holder} (held : store.holders.get? name = some holder) (signatures : Dict Bytes)
    {other : String} (different : other ≠ name) :
    (store.write name holder signatures).shares name other ≠ some true := by
  by_cases alone : store.holderCount holder.bag = 1
  · rw [write_of_alone alone]
    intro shared
    obtain ⟨holder', other', found, found', same⟩ := shares_eq_some_true_iff.mp shared
    obtain rfl := Option.some.inj (held.symm.trans found)
    exact bag_ne_of_alone held alone different found' same.symm
  · rw [write_of_shared alone]
    exact not_shares_put wellFormed name _ different

end TrustRoot.Store
