import Provisioning.Number.Binary64

/-!
# JSON values

## Main definitions

* `Json.Value`: the values, whole numbers apart from other numbers, members in order
* `Json.Value.sorted`: the same value with the members of every object sorted by name
-/

namespace Provisioning.Json

/-- A JSON value. -/
inductive Value where
  | null
  | bool (b : Bool)
  /-- A number without fraction and exponent. -/
  | integer (n : Int)
  | real (x : Binary64)
  | string (s : String)
  | array (items : List Value)
  | object (members : List (String × Value))
deriving Inhabited

/-- A member put into a list sorted by name. -/
def insertMember {α : Type} (m : String × α) : List (String × α) → List (String × α)
  | [] => [m]
  | n :: rest => if m.1 < n.1 then m :: n :: rest else n :: insertMember m rest

namespace Value

mutual

/-- The value with the members of every object sorted by name. -/
def sorted : Value → Value
  | array items => array (sortedItems items)
  | object members => object (sortedMembers members)
  | v => v

/-- Every item sorted within. -/
def sortedItems : List Value → List Value
  | [] => []
  | v :: rest => v.sorted :: sortedItems rest

/-- The members sorted by name, each value sorted within. -/
def sortedMembers : List (String × Value) → List (String × Value)
  | [] => []
  | (name, v) :: rest => insertMember (name, v.sorted) (sortedMembers rest)

end

end Value

end Provisioning.Json
