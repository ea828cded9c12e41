import EdgeFleet.Json.Basic

/-!
# Documents

The typed value tree that records travel in, whatever text it was written as. `Fields.ofDocument?`
opens a structure: a map with the declared names as keys, or a list of the values in the declared
order. Keys that are not declared do not count; a declared key must not come twice.
-/

namespace EdgeFleet

/-- A value of a document. A map may have keys of any kind and any key more than once; `real` is a
number that is not a 64-bit integer. -/
inductive Document where
  | null
  | bool (value : Bool)
  | int (value : Int)
  | real (text : String)
  | text (value : String)
  | list (items : List Document)
  | map (entries : List (Document × Document))
  deriving Repr, BEq, Inhabited

namespace Document

mutual

/-- The document that a JSON value is. -/
def ofJson : Json → Document
  | .null => .null
  | .bool value => .bool value
  | .int value => .int value
  | .real numeral => .real numeral
  | .string value => .text value
  | .array items => .list (ofItems items)
  | .object members => .map (ofMembers members)

/-- The documents of the items of an array. -/
def ofItems : List Json → List Document
  | [] => []
  | item :: rest => ofJson item :: ofItems rest

/-- The entries of an object. A repeated key counts once, with its last value. -/
def ofMembers : List (String × Json) → List (Document × Document)
  | [] => []
  | (key, value) :: rest =>
    if rest.any (·.1 == key) then ofMembers rest
    else (.text key, ofJson value) :: ofMembers rest

end

/-- The key of a JSON member for the key of an entry. -/
def keyText : Document → String
  | .text value => value
  | .int value => toString value
  | .bool value => toString value
  | _ => ""

mutual

/-- The JSON value of a document. -/
def toJson : Document → Json
  | .null => .null
  | .bool value => .bool value
  | .int value => .int value
  | .real numeral => .real numeral
  | .text value => .string value
  | .list items => .array (toItems items)
  | .map entries => .object (toMembers entries)

/-- The JSON values of the items of a list. -/
def toItems : List Document → List Json
  | [] => []
  | item :: rest => toJson item :: toItems rest

/-- The members of a map. -/
def toMembers : List (Document × Document) → List (String × Json)
  | [] => []
  | (key, value) :: rest => (keyText key, toJson value) :: toMembers rest

end

/-- A text. -/
def text? : Document → Option String
  | .text value => some value
  | _ => none

/-- A truth value. -/
def bool? : Document → Option Bool
  | .bool value => some value
  | _ => none

/-- An integer from zero up to, and not including, `bound`. -/
def natBelow? (bound : Nat) : Document → Option Nat
  | .int (.ofNat value) => if value < bound then some value else none
  | _ => none

/-- A list of values that are all readable. -/
def listOf? {α : Type} (read : Document → Option α) : Document → Option (List α)
  | .list items => items.mapM read
  | _ => none

/-- A list of texts. -/
def texts? : Document → Option (List String) :=
  listOf? text?

/-- Which of `names` a key stands for: its position, or nothing for a key that is not one of them.
A key is a name or a position; anything else cannot be a key of a structure. -/
def position? (names : List String) : Document → Option (Option Nat)
  | .text key => some (names.idxOf? key)
  | .int (.ofNat position) => some (if position < names.length then some position else none)
  | _ => none

/-- The position in `names` of a choice without content: its name, or a map of one entry from it
to nothing. -/
def choice? (names : List String) : Document → Option Nat
  | .text name => names.idxOf? name
  | .map [(key, .null)] => (position? names key).join
  | .map [(key, .map [])] => (position? names key).join
  | _ => none

/-- A list of texts, as a document. -/
def ofTexts (texts : List String) : Document :=
  .list (texts.map .text)

/-- A map from field names to values, without the fields that are absent. -/
def ofFields (fields : List (String × Option Document)) : Document :=
  .map (fields.filterMap fun (name, value) => value.map fun value => (.text name, value))

end Document

/-- The values given for the fields of a structure, in declared order. -/
structure Fields where
  names : List String
  values : List (Option Document)
  /-- Whether the values were given as a list, in which every field has its place. -/
  positional : Bool

namespace Fields

/-- Puts the value of one entry in its place; a place is taken once. -/
def put (names : List String) (values : List (Option Document)) (entry : Document × Document) :
    Option (List (Option Document)) :=
  match Document.position? names entry.1 with
  | none => none
  | some none => some values
  | some (some position) =>
    match values[position]? with
    | some none => some (values.set position (some entry.2))
    | _ => none

/-- The values that a document gives for the fields called `names`. -/
def ofDocument? (names : List String) : Document → Option Fields
  | .map entries =>
    (entries.foldlM (put names) (names.map fun _ => none)).map fun values =>
      ⟨names, values, false⟩
  | .list items =>
    if items.length ≤ names.length then
      some ⟨names, items.map some ++ List.replicate (names.length - items.length) none, true⟩
    else none
  | _ => none

/-- The value given for a field. -/
def get? (fields : Fields) (name : String) : Option Document :=
  ((fields.names.zip fields.values).find? (·.1 == name)).bind (·.2)

variable {α : Type}

/-- A field that must be given. -/
def required (fields : Fields) (name : String) (read : Document → Option α) : Option α :=
  (fields.get? name).bind read

/-- A field with a value of its own when it is not given. -/
def withDefault (fields : Fields) (name : String) (default : α) (read : Document → Option α) :
    Option α :=
  match fields.get? name with
  | none => some default
  | some value => read value

/-- A value that may be null. -/
def nullable? (read : Document → Option α) : Document → Option (Option α)
  | .null => some none
  | value => (read value).map some

/-- A field that need not be given, and may be null; in a list its place must be there. -/
def optional (fields : Fields) (name : String) (read : Document → Option α) : Option (Option α) :=
  match fields.get? name with
  | none => if fields.positional then none else some none
  | some value => nullable? read value

/-- A field that need not be given, and may be null; in a list it may be cut off. -/
def trailing (fields : Fields) (name : String) (read : Document → Option α) :
    Option (Option α) :=
  match fields.get? name with
  | none => some none
  | some value => nullable? read value

end Fields

end EdgeFleet
