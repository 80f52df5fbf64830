import TrustRoot.Proofs.Dict
import TrustRoot.Proofs.Json.Numerals

/-!
# Shapes of trees

A text determines a tree if names are in order at every level, since names come back in order, if
no number is in the binary64 format, whose digits may come back as a neighbour, and if the tree is
no deeper than reading goes.  Each of the three is decided member by member.
-/

namespace TrustRoot.Json

mutual

/-- How many arrays and objects lie within each other. -/
def depth : Json → Nat
  | .array items => itemsDepth items + 1
  | .object members => membersDepth members + 1
  | _ => 0

/-- The depth of the deepest item. -/
def itemsDepth : List Json → Nat
  | [] => 0
  | item :: rest => max (depth item) (itemsDepth rest)

/-- The depth of the deepest member. -/
def membersDepth : List (String × Json) → Nat
  | [] => 0
  | (_, value) :: rest => max (depth value) (membersDepth rest)

end

mutual

/-- No number in the tree is held in the binary64 format. -/
def IntegersOnly : Json → Prop
  | .number value => value.IsInteger
  | .array items => ItemsIntegersOnly items
  | .object members => MembersIntegersOnly members
  | _ => True

/-- Every item holds integers only. -/
def ItemsIntegersOnly : List Json → Prop
  | [] => True
  | item :: rest => IntegersOnly item ∧ ItemsIntegersOnly rest

/-- Every member holds integers only. -/
def MembersIntegersOnly : List (String × Json) → Prop
  | [] => True
  | (_, value) :: rest => IntegersOnly value ∧ MembersIntegersOnly rest

end

/-- A tree that a text determines. -/
structure Restorable (bound : Nat) (value : Json) : Prop where
  ordered : value.Ordered
  integers : value.IntegersOnly
  shallow : value.depth ≤ bound

/-- Members in order form an object of themselves. -/
theorem ofDict_ofList {members : List (String × Json)} (ascending : KeysAscend members) :
    ofDict (.ofList members) = .object members :=
  congrArg ofDict (Dict.ofList_entries ⟨members, ascending⟩)

theorem ofDict_injective {first second : Dict Json} (same : ofDict first = ofDict second) :
    first = second := by
  ext1 key
  exact congrArg (findEntry key) (object.inj same)

theorem itemsOrdered_iff {items : List Json} :
    ItemsOrdered items ↔ ∀ item ∈ items, item.Ordered := by
  induction items with
  | nil => simp [ItemsOrdered]
  | cons item items ih => simp [ItemsOrdered, ih]

theorem membersOrdered_iff {members : List (String × Json)} :
    MembersOrdered members ↔ ∀ member ∈ members, member.2.Ordered := by
  induction members with
  | nil => simp [MembersOrdered]
  | cons member members ih => simp [MembersOrdered, ih]

theorem membersIntegersOnly_iff {members : List (String × Json)} :
    MembersIntegersOnly members ↔ ∀ member ∈ members, member.2.IntegersOnly := by
  induction members with
  | nil => simp [MembersIntegersOnly]
  | cons member members ih => simp [MembersIntegersOnly, ih]

theorem itemsDepth_le_iff {items : List Json} {bound : Nat} :
    itemsDepth items ≤ bound ↔ ∀ item ∈ items, item.depth ≤ bound := by
  induction items with
  | nil => simp [itemsDepth]
  | cons item items ih => simp only [itemsDepth, Nat.max_le, ih, List.forall_mem_cons]

theorem membersDepth_le_iff {members : List (String × Json)} {bound : Nat} :
    membersDepth members ≤ bound ↔ ∀ member ∈ members, member.2.depth ≤ bound := by
  induction members with
  | nil => simp [membersDepth]
  | cons member members ih => simp only [membersDepth, Nat.max_le, ih, List.forall_mem_cons]

theorem Restorable.mono {bound bound' : Nat} {value : Json} (restorable : value.Restorable bound)
    (le : bound ≤ bound') : value.Restorable bound' :=
  { restorable with shallow := Nat.le_trans restorable.shallow le }

theorem restorable_string (bound : Nat) (text : String) : (string text).Restorable bound :=
  ⟨trivial, trivial, Nat.zero_le bound⟩

theorem restorable_natural (bound : Nat) (value : UInt64) : (natural value).Restorable bound :=
  ⟨trivial, trivial, Nat.zero_le bound⟩

theorem restorable_bool (bound : Nat) (value : Bool) : (bool value).Restorable bound :=
  ⟨trivial, trivial, Nat.zero_le bound⟩

/-- An object is one level deeper than its members. -/
theorem restorable_object {bound : Nat} {members : List (String × Json)}
    (ascending : KeysAscend members) (inside : ∀ member ∈ members, member.2.Restorable bound) :
    (object members).Restorable (bound + 1) where
  ordered := ⟨ascending, membersOrdered_iff.mpr fun member listed =>
    (inside member listed).ordered⟩
  integers := membersIntegersOnly_iff.mpr fun member listed => (inside member listed).integers
  shallow := Nat.succ_le_succ (membersDepth_le_iff.mpr fun member listed =>
    (inside member listed).shallow)

end TrustRoot.Json
