import TrustRoot.Dict
import TrustRoot.Json.Number

/-!
# JSON values

A JSON value is a tree. The members of an object are listed by strictly ascending name at every
level of an ordered tree (`Json.Ordered`), so an ordered object has one form only.
-/

namespace TrustRoot

/-- A JSON value. -/
inductive Json where
  | null
  | bool (value : Bool)
  | number (value : Json.Number)
  | string (value : String)
  | array (items : List Json)
  | object (members : List (String × Json))

namespace Json

instance : Inhabited Json := ⟨.null⟩

mutual

/-- Member names ascend strictly in every object of the tree. -/
def Ordered : Json → Prop
  | .array items => ItemsOrdered items
  | .object members => KeysAscend members ∧ MembersOrdered members
  | _ => True

def ItemsOrdered : List Json → Prop
  | [] => True
  | item :: rest => Ordered item ∧ ItemsOrdered rest

def MembersOrdered : List (String × Json) → Prop
  | [] => True
  | (_, value) :: rest => Ordered value ∧ MembersOrdered rest

end

mutual

/-- Whether two values have the same shape, names and texts, and numbers that agree. -/
def agrees : Json → Json → Bool
  | .null, .null => true
  | .bool first, .bool second => first == second
  | .number first, .number second => first.agrees second
  | .string first, .string second => first == second
  | .array first, .array second => itemsAgree first second
  | .object first, .object second => membersAgree first second
  | _, _ => false

def itemsAgree : List Json → List Json → Bool
  | [], [] => true
  | first :: rest, second :: rest' => agrees first second && itemsAgree rest rest'
  | _, _ => false

def membersAgree : List (String × Json) → List (String × Json) → Bool
  | [], [] => true
  | (name, first) :: rest, (name', second) :: rest' =>
    name == name' && agrees first second && membersAgree rest rest'
  | _, _ => false

end

instance : BEq Json := ⟨agrees⟩

def ofDict (members : Dict Json) : Json := .object members.entries

def natural (value : UInt64) : Json := .number (.natural value)

end Json

end TrustRoot
