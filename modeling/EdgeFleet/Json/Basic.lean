/-!
# JSON values

The value tree that requests, answers and cluster objects are written in. `Json.get?` reads a
member of an object, and `Json.compact` drops absent members, which is how objects with optional
members are written.
-/

namespace EdgeFleet

/-- A JSON value. Numbers are kept apart by what a reader may do with them: `int` is an integer
literal within the signed or unsigned 64-bit range, and `real` is any other number, with its text.
An object keeps its members in the order in which they were written. -/
inductive Json where
  | null
  | bool (value : Bool)
  | int (value : Int)
  | real (text : String)
  | string (value : String)
  | array (items : List Json)
  | object (members : List (String × Json))
  deriving Repr, BEq, Inhabited

namespace Json

instance : Coe String Json := ⟨.string⟩

instance : Coe Nat Json := ⟨fun n => .int n⟩

/-- The last value written under `key` in a list of members: a repeated key replaces. -/
def lookup (key : String) (members : List (String × Json)) : Option Json :=
  members.foldl (fun found member => if member.1 == key then some member.2 else found) none

/-- The member `key` of an object; other values have no members. -/
def get? (key : String) : Json → Option Json
  | .object members => lookup key members
  | _ => none

/-- The member `key` of an object, where an absent member and a null one read alike. -/
def present? (key : String) (value : Json) : Option Json :=
  match value.get? key with
  | some .null => none
  | other => other

/-- The text of a string value. -/
def text? : Json → Option String
  | .string value => some value
  | _ => none

/-- The value of an integer literal. -/
def int? : Json → Option Int
  | .int value => some value
  | _ => none

/-- The value of an integer literal that is not negative. -/
def nat? : Json → Option Nat
  | .int (.ofNat value) => some value
  | _ => none

/-- The truth value of a boolean. -/
def bool? : Json → Option Bool
  | .bool value => some value
  | _ => none

/-- The items of an array. -/
def items? : Json → Option (List Json)
  | .array items => some items
  | _ => none

/-- An optional value, written as null when absent. -/
def ofOption {α : Type} (encode : α → Json) : Option α → Json
  | none => .null
  | some value => encode value

/-- An array of encoded items. -/
def ofList {α : Type} (encode : α → Json) (items : List α) : Json :=
  .array (items.map encode)

/-- An array of strings. -/
def strings (items : List String) : Json :=
  ofList .string items

/-- An object without the members that are absent. -/
def compact (members : List (String × Option Json)) : Json :=
  .object (members.filterMap fun (key, value) => value.map (key, ·))

end Json

end EdgeFleet
