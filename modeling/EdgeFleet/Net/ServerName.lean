import EdgeFleet.Net.Address

/-!
# Names of servers

The name that a client expects a server to prove: a host name or an address. A host name consists
of labels of letters, digits, hyphens and underscores, and its last label is not a number, so that
no address can be taken for a name.
-/

namespace EdgeFleet.Net

/-- The name of a server. -/
inductive ServerName where
  | host (name : String)
  | address (address : Address)
  deriving Repr, DecidableEq

namespace ServerName

/-- The most characters of a label of a host name. -/
def maxLabel : Nat := 63

/-- The most characters of a host name. -/
def maxName : Nat := 253

/-- Whether a character may stand in a host name, points apart. -/
def isNameChar (c : Char) : Bool :=
  c.isAlphanum || c == '-' || c == '_'

/-- Whether a text is a label: it begins with no hyphen and ends in none. -/
def isLabel (cs : List Char) : Bool :=
  !cs.isEmpty && cs.length ≤ maxLabel && cs.all isNameChar && cs.head? != some '-' &&
    cs.getLast? != some '-'

/-- The parts of a text between points. -/
def labels (cs : List Char) : List (List Char) :=
  match cs with
  | [] => [[]]
  | '.' :: rest => [] :: labels rest
  | c :: rest =>
    match labels rest with
    | [] => [[c]]
    | label :: others => (c :: label) :: others

/-- Whether a text is a host name. One point may follow the last label, which is no number. -/
def isHost (text : String) : Bool :=
  let parts := labels text.toList
  let named := if parts.length > 1 && parts.getLast? == some [] then parts.dropLast else parts
  text.utf8ByteSize ≤ maxName && named.all isLabel &&
    match named.getLast? with
    | some last => !last.all Char.isDigit
    | none => false

/-- The name of a server that a text gives. -/
def parse? (text : String) : Option ServerName :=
  if isHost text then some (.host text) else (Address.parse? text).map .address

/-- Whether a name that a certificate was issued for covers a host name: it is the same, or it has a
star in place of the first of at least three labels. -/
def covers (certified name : List Char) : Bool :=
  certified == name ||
    match certified with
    | '*' :: '.' :: rest => rest.contains '.' && name.dropWhile (· != '.') == '.' :: rest
    | _ => false

/-- A host name without the point that may follow its last label. -/
def relative (name : List Char) : List Char :=
  if name.getLast? == some '.' then name.dropLast else name

/-- Whether a certificate that was issued for a name proves the name of this server: the same
address, or a name that covers the host name in letters of either case. -/
def isProvedBy (certified : String) : ServerName → Bool
  | .address expected => Address.parse? certified == some expected
  | .host name =>
    (Address.parse? certified).isNone &&
      covers (certified.toList.map Char.toLower) (relative (name.toList.map Char.toLower))

example : (ServerName.host "a.example.net").isProvedBy "*.Example.net" = true := by decide +kernel

end ServerName

end EdgeFleet.Net
