import EdgeFleet.Error
import EdgeFleet.Settings
import EdgeFleet.Yaml.Resolution

/-!
# Settings in a file

Settings are written as a mapping from their names. A setting that is not given keeps its standard
value, and names that are not known do not count.
-/

namespace EdgeFleet

namespace Settings

/-- A number of seconds. -/
def seconds? (node : Yaml.Node) : Option Nat :=
  node.natBelow? 0x10000000000000000

/-- The settings that a document gives. A text without a document gives none. -/
def ofDocument? (document : Option Yaml.Node) : Option Settings := do
  let [mode, elaPort, evaPort, authority, namespaceName, pullPolicy, requestTimeout, dialTimeout,
      insecure] ← (document.getD .blank).fields? names
    | none
  let given {α : Type} (value : Option Yaml.Node) (standard : α) (read : Yaml.Node → Option α) :
      Option α :=
    match value with
    | none => some standard
    | some node => read node
  let port (value : Option Yaml.Node) : Option (Option UInt16) :=
    given value none (Yaml.Node.optional? fun node =>
      (node.natBelow? 0x10000).map UInt16.ofNat)
  return {
    mode := ← given mode standard.mode fun node => node.choice?.bind Mode.ofName?
    elaPort := ← port elaPort
    evaPort := ← port evaPort
    authority := ← given authority standard.authority Yaml.Node.text?
    namespaceName := ← given namespaceName standard.namespaceName Yaml.Node.text?
    pullPolicy := ← given pullPolicy standard.pullPolicy Yaml.Node.text?
    requestTimeout := ← given requestTimeout standard.requestTimeout seconds?
    dialTimeout := ← given dialTimeout standard.dialTimeout seconds?
    insecure := ← given insecure standard.insecure Yaml.Node.bool? }

/-- Reads settings. -/
def parse (text : String) : Except Error Settings :=
  match (Yaml.document? text).bind ofDocument? with
  | some settings => .ok settings
  | none => .error .serialization

end Settings

end EdgeFleet
