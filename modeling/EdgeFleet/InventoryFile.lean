import EdgeFleet.Inventory
import EdgeFleet.Yaml.Resolution

/-!
# Inventories in a file

An inventory is written as a mapping in which `records` is a list of records.
-/

namespace EdgeFleet

namespace Inventory

/-- How deep values may be nested in a file. -/
def maxDepth : Nat := 128

/-- Reads a record of a document. Its kind is a text, whatever it looks like. -/
def recordOfNode? (node : Yaml.Node) : Option Record := do
  let kindOf (value : Yaml.Node) : Option Document := value.text?.map .text
  -- The list of records and the mapping around it take up two levels.
  let depth := maxDepth - 3
  match node with
  | .mapping tag entries =>
    if Yaml.isLocal tag then none
    let entries ← entries.mapM fun (key, value) => do
      let key ← key.value? depth
      let value ← if key == .text "kind" then kindOf value else value.value? depth
      return (key, value)
    Record.ofDocument? (.map entries)
  | .sequence tag (kind :: items) =>
    if Yaml.isLocal tag then none
    Record.ofDocument? (.list ((← kindOf kind) :: (← items.mapM fun item => item.value? depth)))
  | _ => none

/-- The records of a document. A text without a document holds none. -/
def recordsOf? (document : Option Yaml.Node) : Option (List Record) := do
  let [records] ← (document.getD .blank).fields? ["records"] | none
  match records with
  | none => return []
  | some records => (← records.items?).mapM recordOfNode?

/-- Reads an inventory. -/
def parse (text : String) : Except Error Inventory :=
  match (Yaml.document? text).bind recordsOf? with
  | some records => ofRecords records
  | none => .error .serialization

end Inventory

end EdgeFleet
