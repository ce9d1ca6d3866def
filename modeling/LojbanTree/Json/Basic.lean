import LojbanTree.Decimal.Binary64

/-!
# JSON values

A number is an exact integer or a binary floating-point number; the two are
written differently.  The members of an object are kept in the order of their
keys, each key once.
-/

namespace LojbanTree

/-- A JSON number. -/
inductive Json.Number where
  | integer (value : Int)
  | float (value : Binary64)
  deriving DecidableEq, Repr

/-- A JSON value. -/
inductive Json where
  | null
  | boolean (value : Bool)
  | number (value : Json.Number)
  | string (value : String)
  | array (elements : List Json)
  | object (members : List (String × Json))
  deriving Repr, Inhabited

namespace Json

/-- The six kinds of JSON values. -/
inductive Kind where
  | null
  | boolean
  | number
  | string
  | array
  | object
  deriving DecidableEq, Repr

namespace Kind

/-- The name of a kind. -/
def name : Kind → String
  | .null => "null"
  | .boolean => "boolean"
  | .number => "number"
  | .string => "string"
  | .array => "array"
  | .object => "object"

end Kind

/-- The kind of a value. -/
def kind : Json → Kind
  | .null => .null
  | .boolean _ => .boolean
  | .number _ => .number
  | .string _ => .string
  | .array _ => .array
  | .object _ => .object

/--
Put a member among members that are in the order of their keys.  A member of
the same key gives way.
-/
def insertMember (key : String) (value : Json) :
    List (String × Json) → List (String × Json)
  | [] => [(key, value)]
  | (other, found) :: rest =>
      if key = other then (key, value) :: rest
      else if key < other then (key, value) :: (other, found) :: rest
      else (other, found) :: insertMember key value rest

/-- The object with the given members; of two with one key the last counts. -/
def ofMembers (members : List (String × Json)) : Json :=
  .object
    (members.foldl (fun sorted (key, value) => insertMember key value sorted) [])

/-- The value of a member, if the value is an object that has it. -/
def member? (key : String) : Json → Option Json
  | .object members => members.lookup key
  | _ => none

mutual

/-- Whether two values are the same. -/
def same : Json → Json → Bool
  | .null, .null => true
  | .boolean value, .boolean value' => value == value'
  | .number value, .number value' => value == value'
  | .string value, .string value' => value == value'
  | .array elements, .array elements' => sameAll elements elements'
  | .object members, .object members' => sameMembers members members'
  | _, _ => false

/-- Whether two lists hold the same values in the same order. -/
def sameAll : List Json → List Json → Bool
  | [], [] => true
  | value :: rest, value' :: rest' => same value value' && sameAll rest rest'
  | _, _ => false

/-- Whether two lists hold the same members in the same order. -/
def sameMembers : List (String × Json) → List (String × Json) → Bool
  | [], [] => true
  | (key, value) :: rest, (key', value') :: rest' =>
      key == key' && same value value' && sameMembers rest rest'
  | _, _ => false

end

mutual

theorem same_iff (left right : Json) : same left right = true ↔ left = right := by
  cases left <;> cases right <;> simp [same]
  · exact sameAll_iff _ _
  · exact sameMembers_iff _ _

theorem sameAll_iff (left right : List Json) :
    sameAll left right = true ↔ left = right := by
  cases left <;> cases right <;> simp [sameAll]
  rw [same_iff, sameAll_iff]

theorem sameMembers_iff (left right : List (String × Json)) :
    sameMembers left right = true ↔ left = right := by
  cases left <;> cases right <;> simp [sameMembers, Prod.ext_iff]
  rw [same_iff, sameMembers_iff]

end

instance : DecidableEq Json := fun left right =>
  decidable_of_iff _ (same_iff left right)

end Json

end LojbanTree
