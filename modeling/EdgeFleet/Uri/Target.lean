/-!
# What an address asks for

A target is a path and, behind a question mark, a query. A fragment behind a number sign is dropped.
-/

namespace EdgeFleet.Uri

/-- A path, and a query if there is one. -/
structure Target where
  path : String
  query : Option String
  deriving Repr, DecidableEq

namespace Target

/-- Whether a character may stand in a path. -/
def isPathChar (c : Char) : Bool :=
  let n := c.toNat
  n == 0x21 || (0x24 ≤ n && n ≤ 0x3B) || n == 0x3D || (0x40 ≤ n && n ≤ 0x5F) ||
    (0x61 ≤ n && n ≤ 0x7A) || n == 0x7C || 0x7E ≤ n || c == '"' || c == '\x7b' || c == '\x7d'

/-- Whether a character may stand in a query. -/
def isQueryChar (c : Char) : Bool :=
  let n := c.toNat
  n == 0x21 || (0x24 ≤ n && n ≤ 0x3B) || n == 0x3D || 0x3F ≤ n

/-- The most bytes of an address. -/
def maxLength : Nat := 65534

/-- Reads a target. -/
def ofChars? (cs : List Char) : Option Target :=
  let (path, rest) := cs.span fun c => !(c == '?' || c == '#')
  let query :=
    match rest with
    | '?' :: rest => some (rest.takeWhile (· != '#'))
    | _ => none
  if path.all isPathChar && (query.getD []).all isQueryChar then
    some ⟨.ofList path, query.map .ofList⟩
  else none

/-- Reads a target that stands for itself, without a scheme or an authority. -/
def parse? (text : String) : Option Target :=
  if text.utf8ByteSize ≤ maxLength then ofChars? text.toList else none

/-- The text of a target. -/
def render (target : Target) : String :=
  match target.query with
  | none => target.path
  | some query => target.path ++ "?" ++ query

end Target

end EdgeFleet.Uri
