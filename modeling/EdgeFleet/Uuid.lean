/-!
# UUIDs

`Uuid.isValid` accepts the four spellings of a UUID: 32 hexadecimal digits, the same in five
hyphenated groups, that form in braces, and that form behind `urn:uuid:`. Letters may be of either
case.
-/

namespace EdgeFleet.Uuid

/-- A hexadecimal digit of either case. -/
def isHexDigit (c : Char) : Bool :=
  c.isDigit || ('a' ≤ c && c ≤ 'f') || ('A' ≤ c && c ≤ 'F')

/-- 32 hexadecimal digits. -/
def isSimple (cs : List Char) : Bool :=
  cs.length == 32 && cs.all isHexDigit

/-- The lengths of the groups of the hyphenated form. -/
def groups : List Nat := [8, 4, 4, 4, 12]

/-- Groups of hexadecimal digits of the given lengths, with a hyphen between each two. -/
def areGroups : List Nat → List Char → Bool
  | [], cs => cs.isEmpty
  | [n], cs => cs.length == n && cs.all isHexDigit
  | n :: rest, cs =>
    (cs.take n).length == n && (cs.take n).all isHexDigit &&
      match cs.drop n with
      | '-' :: cs => areGroups rest cs
      | _ => false

/-- Five groups of digits, of 8, 4, 4, 4 and 12. -/
def isHyphenated (cs : List Char) : Bool :=
  areGroups groups cs

/-- The hyphenated form between braces. -/
def isBraced (cs : List Char) : Bool :=
  match cs with
  | '\x7b' :: rest => rest.getLast? == some '\x7d' && isHyphenated rest.dropLast
  | _ => false

/-- The hyphenated form behind its name in the URN scheme. -/
def isUrn (cs : List Char) : Bool :=
  (cs.take 9).map Char.toLower == "urn:uuid:".toList && isHyphenated (cs.drop 9)

/-- Whether a text is a UUID in one of its four spellings. -/
def isValid (text : String) : Bool :=
  let cs := text.toList
  isSimple cs || isHyphenated cs || isBraced cs || isUrn cs

end EdgeFleet.Uuid
