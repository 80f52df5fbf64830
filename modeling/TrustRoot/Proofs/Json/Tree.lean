import Mathlib.Data.List.Forall2
import Mathlib.Data.List.Perm.Basic
import TrustRoot.Proofs.Json.NumeralGrammar
import TrustRoot.Proofs.Json.Shape

/-!
# Trees of texts

A text says more than the value that is read from it: members have an order, and a numeral is not
rounded yet.  What it says apart from blanks and from the way in which characters are written is a
tree.  Not every tree has a value, as a numeral may be out of range.  If names are different in
every object, then a text that writes a tree up to the order of members spells the value of the tree
(`spells_of_writes`).
-/

namespace TrustRoot.Json

/-- What a JSON text says, with numerals as they are written. -/
inductive Tree where
  | null
  | bool (value : Bool)
  | number (numeral : Bytes)
  | string (value : String)
  | array (items : List Tree)
  | object (members : List (String × Tree))

namespace Tree

mutual

/-- The value of a tree, if all its numerals have one. -/
def value? : Tree → Option Json
  | .null => some .null
  | .bool value => some (.bool value)
  | .number numeral => (numeralValue? numeral).map .number
  | .string value => some (.string value)
  | .array items => (itemsValues? items).map .array
  | .object members => (membersValues? members).map fun values => .ofDict (.ofList values)

def itemsValues? : List Tree → Option (List Json)
  | [] => some []
  | item :: rest => do
    let first ← value? item
    let others ← itemsValues? rest
    return first :: others

def membersValues? : List (String × Tree) → Option (List (String × Json))
  | [] => some []
  | (name, item) :: rest => do
    let first ← value? item
    let others ← membersValues? rest
    return (name, first) :: others

end

mutual

/-- The names in every object of the tree, as they are listed, obey a rule. -/
def EveryObject (rule : List String → Prop) : Tree → Prop
  | .array items => EveryItem rule items
  | .object members => rule (members.map Prod.fst) ∧ EveryMember rule members
  | _ => True

def EveryItem (rule : List String → Prop) : List Tree → Prop
  | [] => True
  | item :: rest => EveryObject rule item ∧ EveryItem rule rest

def EveryMember (rule : List String → Prop) : List (String × Tree) → Prop
  | [] => True
  | (_, item) :: rest => EveryObject rule item ∧ EveryMember rule rest

end

/-- No name comes twice in an object of the tree. -/
def Distinct (tree : Tree) : Prop :=
  tree.EveryObject List.Nodup

theorem everyItem_iff {rule : List String → Prop} {items : List Tree} :
    EveryItem rule items ↔ ∀ item ∈ items, item.EveryObject rule := by
  induction items with
  | nil => simp [EveryItem]
  | cons item items ih => simp [EveryItem, ih]

theorem everyMember_iff {rule : List String → Prop} {members : List (String × Tree)} :
    EveryMember rule members ↔ ∀ member ∈ members, member.2.EveryObject rule := by
  induction members with
  | nil => simp [EveryMember]
  | cons member members ih => simp [EveryMember, ih]

/-! ## Values of rows -/

/-- A member has a value if the tree in it does. -/
def MemberValue (member : String × Tree) (value : String × Json) : Prop :=
  member.1 = value.1 ∧ member.2.value? = some value.2

theorem itemsValues?_eq_some_iff {items : List Tree} {values : List Json} :
    itemsValues? items = some values ↔
      List.Forall₂ (fun item value => item.value? = some value) items values := by
  induction items generalizing values with
  | nil => simp [itemsValues?, eq_comm]
  | cons item items ih =>
      simp [itemsValues?, Option.bind_eq_some_iff, List.forall₂_cons_left_iff, ih,
        @eq_comm _ values]

theorem membersValues?_eq_some_iff {members : List (String × Tree)}
    {values : List (String × Json)} :
    membersValues? members = some values ↔ List.Forall₂ MemberValue members values := by
  induction members generalizing values with
  | nil => simp [membersValues?, eq_comm]
  | cons member members ih =>
      simp [membersValues?, Option.bind_eq_some_iff, List.forall₂_cons_left_iff, MemberValue, ih,
        @eq_comm _ values]

theorem names_of_memberValues {members : List (String × Tree)} {values : List (String × Json)}
    (stand : List.Forall₂ MemberValue members values) :
    members.map Prod.fst = values.map Prod.fst := by
  induction stand with
  | nil => rfl
  | cons first _ ih => simp [first.1, ih]

end Tree

/-! ## Texts of trees -/

/-- The octets that write a tree which is neither an array nor an object. -/
inductive WritesScalar : Bytes → Tree → Prop where
  | null : WritesScalar [0x6E, 0x75, 0x6C, 0x6C] .null
  | boolTrue : WritesScalar [0x74, 0x72, 0x75, 0x65] (.bool true)
  | boolFalse : WritesScalar [0x66, 0x61, 0x6C, 0x73, 0x65] (.bool false)
  | string {inner : Bytes} {value : String} (spelled : SpellsCharacters inner value.toList) :
      WritesScalar (quoteOctet :: (inner ++ [quoteOctet])) (.string value)
  | number {numeral : Bytes} (isNumeral : IsNumeral numeral) :
      WritesScalar numeral (.number numeral)

/-- How the members that stand in a text may be arranged against those of the tree. -/
abbrev Arrangement := List (String × Tree) → List (String × Tree) → Prop

/-- The octets that write a tree, by those that write the trees inside. -/
inductive WritesLevel (order : Arrangement) (inside : Bytes → Tree → Prop) :
    Bytes → Tree → Prop where
  | scalar {text : Bytes} {tree : Tree} (written : WritesScalar text tree) :
      WritesLevel order inside text tree
  | array {text : Bytes} {items : List Tree} (row : SpellsRow 0x5D inside text items) :
      WritesLevel order inside (0x5B :: text) (.array items)
  | object {text : Bytes} {listed members : List (String × Tree)}
      (arranged : order listed members) (row : SpellsRow 0x7D (SpellsMember inside) text listed) :
      WritesLevel order inside (0x7B :: text) (.object members)

/-- The octets that write a tree nested at most so deep. -/
def Writes (order : Arrangement) : (depth : Nat) → Bytes → Tree → Prop
  | 0 => WritesScalar
  | depth + 1 => WritesLevel order (Writes order depth)

theorem Writes.ofScalar {order : Arrangement} {text : Bytes} {tree : Tree}
    (written : WritesScalar text tree) (depth : Nat) : Writes order depth text tree := by
  cases depth with
  | zero => exact written
  | succ depth => exact .scalar written

section Rows

variable {α β : Type} {close : UInt8} {first : Bytes → α → Prop} {second : Bytes → β → Prop}
  {relation : α → β → Prop}

theorem SpellsMore.related
    (step : ∀ text item other, first text item → relation item other → second text other)
    {text : Bytes} {items : List α} {others : List β} (more : SpellsMore close first text items)
    (related : List.Forall₂ relation items others) : SpellsMore close second text others := by
  induction more generalizing others with
  | close blank =>
      cases related
      exact .close blank
  | next blank blankBefore element _ ih =>
      cases related with
      | cons head tail => exact .next blank blankBefore (step _ _ _ element head) (ih tail)

/-- A row of elements is a row of what each of them is for. -/
theorem SpellsRow.related
    (step : ∀ text item other, first text item → relation item other → second text other)
    {text : Bytes} {items : List α} {others : List β} (row : SpellsRow close first text items)
    (related : List.Forall₂ relation items others) : SpellsRow close second text others := by
  cases row with
  | empty blank =>
      cases related
      exact .empty blank
  | some blankBefore element more =>
      cases related with
      | cons head tail => exact .some blankBefore (step _ _ _ element head) (more.related step tail)

/-- The elements of a row may be described in another way that holds of all of them. -/
theorem SpellsRow.imp {other : Bytes → α → Prop} {text : Bytes} {items : List α}
    (row : SpellsRow close first text items)
    (step : ∀ text item, item ∈ items → first text item → other text item) :
    SpellsRow close other text items := by
  have same : List.Forall₂ (fun item item' => item = item' ∧ item ∈ items) items items :=
    List.forall₂_same.mpr fun item listed => ⟨rfl, listed⟩
  refine row.related ?_ same
  rintro text item _ written ⟨rfl, listed⟩
  exact step text item listed written

end Rows

/-- A text in one arrangement is a text in any that allows more. -/
theorem Writes.mono {order order' : Arrangement}
    (weaker : ∀ {listed members}, order listed members → order' listed members) {depth : Nat}
    {text : Bytes} {tree : Tree} (written : Writes order depth text tree) :
    Writes order' depth text tree := by
  induction depth generalizing text tree with
  | zero => exact written
  | succ depth ih =>
      cases written with
      | scalar written => exact .scalar written
      | array row => exact .array (row.imp fun _ _ _ inside => ih inside)
      | object arranged row =>
          refine .object (weaker arranged) (row.imp ?_)
          rintro text member - ⟨spelled, blank, blankBefore, inside⟩
          exact .mk spelled blank blankBefore (ih inside)

/-- A text of a tree with different names spells the value of the tree, however the members are
arranged. -/
theorem spells_of_writes {depth : Nat} {text : Bytes} {tree : Tree} {value : Json}
    (written : Writes List.Perm depth text tree) (distinct : tree.Distinct)
    (stands : tree.value? = some value) : Spells depth text value := by
  have ofScalar {text : Bytes} {tree : Tree} (written : WritesScalar text tree) {value : Json}
      (stands : tree.value? = some value) : SpellsScalar text value := by
    cases written with
    | null => cases stands; exact .null
    | boolTrue => cases stands; exact .boolTrue
    | boolFalse => cases stands; exact .boolFalse
    | string spelled => cases stands; exact .string spelled
    | number isNumeral =>
        obtain ⟨number, isNumber, rfl⟩ := Option.map_eq_some_iff.mp stands
        exact .number (spellsNumber_of_isNumeral isNumeral isNumber)
  induction depth generalizing text tree value with
  | zero => exact ofScalar written stands
  | succ depth ih =>
      cases written with
      | scalar written => exact .scalar (ofScalar written stands)
      | @array inner items row =>
          obtain ⟨values, itemsStand, rfl⟩ := Option.map_eq_some_iff.mp stands
          have related := (List.forall₂_and_left _ _).mpr
            ⟨Tree.everyItem_iff.mp distinct, Tree.itemsValues?_eq_some_iff.mp itemsStand⟩
          refine .array (row.related ?_ related)
          rintro text item value inside ⟨itemDistinct, itemStands⟩
          exact ih inside itemDistinct itemStands
      | @object inner listed members arranged row =>
          obtain ⟨values, membersStand, rfl⟩ := Option.map_eq_some_iff.mp stands
          obtain ⟨namesDistinct, inside⟩ := distinct
          have aligned := Tree.membersValues?_eq_some_iff.mp membersStand
          -- The values go along with their members into the order of the text.
          obtain ⟨arrangedValues, listedAligned, values_perm⟩ :=
            List.perm_comp_forall₂ arranged aligned
          have listedDistinct := fun member inText =>
            Tree.everyMember_iff.mp inside member (arranged.mem_iff.mp inText)
          have related := (List.forall₂_and_left _ _).mpr ⟨listedDistinct, listedAligned⟩
          have valuesDistinct : (values.map Prod.fst).Nodup := by
            rwa [← Tree.names_of_memberValues aligned]
          rw [← Dict.ofList_perm values_perm ((values_perm.map _).nodup_iff.mpr valuesDistinct)]
          refine .object (row.related ?_ related)
          rintro text ⟨name, item⟩ ⟨name', value⟩ ⟨spelled, blank, blankBefore, inside⟩
            ⟨memberDistinct, sameName, memberStands⟩
          cases sameName
          exact .mk spelled blank blankBefore (ih inside memberDistinct memberStands)

/-- The texts of a tree: octets that write it between blanks, with members in any order. -/
def IsTextOf (text : Bytes) (tree : Tree) : Prop :=
  ∃ before inner after, text = before ++ (inner ++ after) ∧ Blank before ∧
    Writes List.Perm depthLimit inner tree ∧ Blank after

/-- An object has the same texts in whatever order its members are listed. -/
theorem IsTextOf.rearrange {text : Bytes} {listed members : List (String × Tree)}
    (perm : listed.Perm members) (isText : IsTextOf text (.object listed)) :
    IsTextOf text (.object members) := by
  obtain ⟨before, inner, after, whole, blankBefore, written, blankAfter⟩ := isText
  refine ⟨before, inner, after, whole, blankBefore, ?_, blankAfter⟩
  cases written with
  | scalar written => cases written
  | object arranged row => exact .object (arranged.trans perm) row

/-! ## The tree of a value -/

mutual

/-- The tree of the texts that are written for a value. -/
def tree : Json → Tree
  | .null => .null
  | .bool value => .bool value
  | .number value => .number (utf8 value.chars)
  | .string value => .string value
  | .array items => .array (itemsTrees items)
  | .object members => .object (membersTrees members)

def itemsTrees : List Json → List Tree
  | [] => []
  | item :: rest => tree item :: itemsTrees rest

def membersTrees : List (String × Json) → List (String × Tree)
  | [] => []
  | (name, value) :: rest => (name, tree value) :: membersTrees rest

end

theorem membersTrees_eq_map (members : List (String × Json)) :
    membersTrees members = members.map fun member => (member.1, member.2.tree) := by
  induction members with
  | nil => rfl
  | cons member members ih => simp [membersTrees, ih]

theorem names_membersTrees (members : List (String × Json)) :
    (membersTrees members).map Prod.fst = members.map Prod.fst := by
  simp [membersTrees_eq_map, Function.comp_def]

mutual

/-- The tree of a value has that value. -/
theorem value?_tree (value : Json) (ordered : value.Ordered) (integers : value.IntegersOnly) :
    value.tree.value? = some value := by
  match value with
  | .null | .bool _ | .string _ => rfl
  | .number held =>
      rw [tree, Tree.value?, numeralValue?_chars integers]
      rfl
  | .array items =>
      rw [tree, Tree.value?, itemsValues?_trees items ordered integers]
      rfl
  | .object members =>
      rw [tree, Tree.value?, membersValues?_trees members ordered.2 integers]
      exact congrArg some (ofDict_ofList ordered.1)

theorem itemsValues?_trees (items : List Json) (ordered : ItemsOrdered items)
    (integers : ItemsIntegersOnly items) : Tree.itemsValues? (itemsTrees items) = some items := by
  match items with
  | [] => rfl
  | item :: items =>
      rw [itemsTrees, Tree.itemsValues?, value?_tree item ordered.1 integers.1,
        itemsValues?_trees items ordered.2 integers.2]
      rfl

theorem membersValues?_trees (members : List (String × Json)) (ordered : MembersOrdered members)
    (integers : MembersIntegersOnly members) :
    Tree.membersValues? (membersTrees members) = some members := by
  match members with
  | [] => rfl
  | (name, value) :: members =>
      rw [membersTrees, Tree.membersValues?, value?_tree value ordered.1 integers.1,
        membersValues?_trees members ordered.2 integers.2]
      rfl

end

section Rules

variable {rule : List String → Prop}

mutual

/-- Every object of the tree of an ordered value obeys a rule, if ascending names do. -/
theorem everyObject_tree (obeys : ∀ names, names.Pairwise (· < ·) → rule names) (value : Json)
    (ordered : value.Ordered) : value.tree.EveryObject rule := by
  match value with
  | .null | .bool _ | .number _ | .string _ => trivial
  | .array items => exact everyItem_trees obeys items ordered
  | .object members =>
      have names := obeys _ (keysAscend_iff_keys.mp ordered.1)
      rw [← names_membersTrees] at names
      exact ⟨names, everyMember_trees obeys members ordered.2⟩

theorem everyItem_trees (obeys : ∀ names, names.Pairwise (· < ·) → rule names)
    (items : List Json) (ordered : ItemsOrdered items) :
    Tree.EveryItem rule (itemsTrees items) := by
  match items with
  | [] => trivial
  | item :: items =>
      exact ⟨everyObject_tree obeys item ordered.1, everyItem_trees obeys items ordered.2⟩

theorem everyMember_trees (obeys : ∀ names, names.Pairwise (· < ·) → rule names)
    (members : List (String × Json)) (ordered : MembersOrdered members) :
    Tree.EveryMember rule (membersTrees members) := by
  match members with
  | [] => trivial
  | (_, value) :: members =>
      exact ⟨everyObject_tree obeys value ordered.1, everyMember_trees obeys members ordered.2⟩

end

end Rules

theorem distinct_tree {value : Json} (ordered : value.Ordered) : value.tree.Distinct := by
  apply everyObject_tree _ value ordered
  intro names ascending
  apply ascending.imp
  rintro first second below rfl
  exact String.lt_irrefl first below

end TrustRoot.Json
