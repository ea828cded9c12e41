import EdgeFleet.Bytes

/-!
# Hardware addresses

`Mac.isValid` recognises link-layer addresses of 6, 8 or 20 octets, written as pairs of
hexadecimal digits with colons or hyphens between them, or as groups of four digits with points
between them. The third byte says which separator a text uses.
-/

namespace EdgeFleet.Net.Mac

/-- A hexadecimal digit of either case. -/
def isHexDigit (c : Char) : Bool :=
  c.isDigit || ('a' ≤ c && c ≤ 'f') || ('A' ≤ c && c ≤ 'F')

/-- The separator that a text must use, and the number of digits between two of them. -/
def style (bytes : Bytes) : Char × Nat :=
  match bytes.drop 2 with
  | 0x3a :: _ => (':', 2)
  | 0x2d :: _ => ('-', 2)
  | _ => ('.', 4)

/-- The groups between the separators; a text without separators is one group. -/
def split (separator : Char) : List Char → List (List Char)
  | [] => [[]]
  | c :: rest =>
    if c == separator then [] :: split separator rest
    else
      match split separator rest with
      | [] => [[c]]
      | group :: groups => (c :: group) :: groups

/-- Whether a text is a hardware address. A group of digits has as many bytes as characters. -/
def isValid (text : String) : Bool :=
  let (separator, width) := style (.ofText text)
  let groups := split separator text.toList
  [6, 8, 20].contains (groups.length * width / 2) &&
    groups.all fun group => group.length == width && group.all isHexDigit

end EdgeFleet.Net.Mac
