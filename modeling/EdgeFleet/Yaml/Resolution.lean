import EdgeFleet.Document
import EdgeFleet.Yaml.Node
import EdgeFleet.Yaml.Number

/-!
# What nodes mean

A node means a value by its own looks, or by what is expected in its place. `Node.value?` is the
value that a node has by itself: a plain scalar can be nothing, a truth value or a number, and is a
text otherwise. The functions after it read a node as what is expected; a text may then look like
anything.
-/

namespace EdgeFleet.Yaml

/-- The tags of the kinds of scalars. -/
def coreTag (kind : String) : String := "tag:yaml.org,2002:" ++ kind

/-- Whether a text stands for nothing. -/
def isNull (text : String) : Bool :=
  ["null", "Null", "NULL", "~"].contains text

/-- The truth value of a text. -/
def truth? (text : String) : Option Bool :=
  if ["true", "True", "TRUE"].contains text then some true
  else if ["false", "False", "FALSE"].contains text then some false
  else none

/-- The integer of a text, if the text is one. An integer of more than 64 bits has no place in a
document, unless it is too large even for 128 bits and so no integer at all. -/
inductive Whole where
  | value (value : Int)
  | tooLarge
  | other

/-- Whether a text is an integer. -/
def whole (text : String) : Whole :=
  let cs := text.toList
  match natural? cs, negative? cs with
  | some value, _ =>
    if value < 0x10000000000000000 then .value value
    else if value < Nat.pow 2 128 then .tooLarge
    else .other
  | none, some value =>
    if value ≤ 0x8000000000000000 then .value (-(value : Int))
    else if value ≤ Nat.pow 2 127 then .tooLarge
    else .other
  | none, none => .other

/-- The value of a plain scalar without a tag. -/
def plainValue? (text : String) : Option Document :=
  if text.isEmpty || isNull text then some .null
  else
    match truth? text, whole text with
    | some value, _ => some (.bool value)
    | none, .value value => some (.int value)
    | none, .tooLarge => none
    | none, .other =>
      if !isPaddedDigits text.toList && isReal text.toList then some (.real text)
      else some (.text text)

/-- Whether a tag is of the kind that picks one of several forms of a value. -/
def isLocal (tag : Option String) : Bool :=
  (tag.map fun tag => beginsWith '!' tag.toList) == some true

/-- The value of a scalar. -/
def scalarValue? (tag : Option String) (style : Style) (text : String) : Option Document :=
  if isLocal tag then none
  else if tag == some (coreTag "bool") then (truth? text).map .bool
  else if tag == some (coreTag "int") then
    match whole text with
    | .value value => some (.int value)
    | _ => none
  else if tag == some (coreTag "float") then
    if isReal text.toList then some (.real text) else none
  else if tag == some (coreTag "null") then
    if isNull text then some .null else none
  else if tag.isNone && style = .plain then plainValue? text
  else some (.text text)

namespace Node

/-- The value of a node that is nested at most `depth` deep. -/
def value? : Nat → Node → Option Document
  | _, .scalar tag style text => scalarValue? tag style text
  | depth + 1, .sequence tag items =>
    if isLocal tag then none
    else do
      let items ← items.mapM (value? depth)
      return .list items
  | depth + 1, .mapping tag entries =>
    if isLocal tag then none
    else do
      let entries ← entries.mapM fun (entry : Node × Node) => do
        return (← value? depth entry.1, ← value? depth entry.2)
      return .map entries
  | _, _ => none

/-- A text, whatever it looks like. -/
def text? : Node → Option String
  | .scalar _ _ text => some text
  | _ => none

/-- Whether a scalar is written so that it can be of a kind: plain, or literal with its tag. -/
def canBe (kind : String) (tag : Option String) (style : Style) : Bool :=
  match style with
  | .plain => true
  | .literal => tag == some (coreTag kind)
  | .quoted => false

/-- A number from zero up to, and not including, `bound`. -/
def natBelow? (bound : Nat) : Node → Option Nat
  | .scalar tag style text =>
    if canBe "int" tag style then (natural? text.toList).filter (· < bound) else none
  | _ => none

/-- A truth value. -/
def bool? : Node → Option Bool
  | .scalar tag style text => if canBe "bool" tag style then truth? text else none
  | _ => none

/-- A value that may be missing: nothing at all, or a word for it. -/
def optional? {α : Type} (read : Node → Option α) (node : Node) : Option (Option α) :=
  match node with
  | .scalar none .plain text =>
    if text.isEmpty || isNull text then some none else (read node).map some
  | .scalar (some tag) .plain text =>
    if tag == coreTag "null" then (if isNull text then some none else none)
    else (read node).map some
  | node => (read node).map some

/-- The name of a choice without content: a text, or a tag on nothing. -/
def choice? : Node → Option String
  | .scalar tag style text =>
    match tag.map String.toList with
    | some ('!' :: name) =>
      if style = .plain && (text.isEmpty || isNull text) then some (.ofList name) else none
    | _ => some text
  | _ => none

/-- The items of a list; nothing at all is a list without items. -/
def items? : Node → Option (List Node)
  | .sequence _ items => some items
  | .scalar _ .plain "" => some []
  | _ => none

/-- The values given for the fields called `names`; nothing at all gives none. A field must not be
given twice. -/
def fields? (names : List String) : Node → Option (List (Option Node))
  | .mapping _ entries => entries.foldlM put (names.map fun _ => none)
  | .scalar _ .plain "" => some (names.map fun _ => none)
  | _ => none
where
  /-- Puts the value of one entry in its place. -/
  put (values : List (Option Node)) (entry : Node × Node) : Option (List (Option Node)) := do
    match names.idxOf? (← entry.1.text?) with
    | none => return values
    | some position =>
      match values[position]? with
      | some none => return values.set position (some entry.2)
      | _ => none

end Node

end EdgeFleet.Yaml
