import EdgeFleet.Der.Reader

/-!
# Names of holders and issuers

A name is a list of parts, and each part is a set of attributes, nearly always of one. Names that
are read may hold values of any kind; those that are written (`PlainName`) have one attribute in a
part, each kind of attribute once, and only values that are text.
-/

namespace EdgeFleet.Pki

open Der

/-- An attribute of a name. -/
structure Attribute where
  kind : Oid
  value : Element
  deriving Repr, DecidableEq

/-- A name as it is read. -/
abbrev Name := List (List Attribute)

/-- The kind of attribute that names the holder. -/
def commonNameKind : Oid := .ofPath [2, 5, 4, 3]

/-- The kind of attribute that names an organization. -/
def organizationKind : Oid := .ofPath [2, 5, 4, 10]

/-- The kinds of attributes that have a short form. -/
def abbreviations : List (Oid × String) := [
  (commonNameKind, "CN"),
  (.ofPath [2, 5, 4, 6], "C"),
  (.ofPath [2, 5, 4, 7], "L"),
  (.ofPath [2, 5, 4, 8], "ST"),
  (organizationKind, "O"),
  (.ofPath [2, 5, 4, 11], "OU"),
  (.ofPath [0, 9, 2342, 19200300, 100, 1, 25], "DC"),
  (.ofPath [1, 2, 840, 113549, 1, 9, 1], "Email")]

/-- The type of texts of digits and spaces. -/
def numericString : Nat := 18

/-- The type of texts of letters, digits and a few marks. -/
def printableString : Nat := 19

/-- The type of texts for old printers. -/
def teletexString : Nat := 20

/-- The type of texts in ASCII. -/
def ia5String : Nat := 22

/-- The type of texts with four bytes for each character. -/
def universalString : Nat := 28

/-- The type of texts with two bytes for each character. -/
def bmpString : Nat := 30

namespace Attribute

/-- Reads an attribute. -/
def reader : Reader Attribute :=
  .within .sequence do
    let kind ← Reader.oid
    let value ← Reader.element
    return ⟨kind, value⟩

/-- The text of a value of one of the usual types. -/
def text? (entry : Attribute) : Option String :=
  if [numericString, printableString, Tag.utf8String.number, ia5String].contains
      entry.value.tag.number then
    entry.value.content.text?
  else none

/-- An attribute in readable form. -/
def render (entry : Attribute) : String :=
  let kind := (abbreviations.lookup entry.kind).getD entry.kind.name
  kind ++ "=" ++ (entry.value.content.text?.getD "")

end Attribute

namespace Name

/-- Reads a name. Its end is where no further part can be read. -/
def reader : Reader Name :=
  .within .sequence <| .many <| .within .set do
    let first ← Attribute.reader
    return first :: (← Reader.many Attribute.reader)

/-- All attributes in order. -/
def attributes (name : Name) : List Attribute := name.flatten

/-- The first attribute that names the holder, if it is text. -/
def commonName? (name : Name) : Option String := do
  (← name.attributes.find? fun entry => entry.kind = commonNameKind).text?

/-- A name in readable form. -/
def render (name : Name) : String :=
  ", ".intercalate (name.map fun part => " + ".intercalate (part.map Attribute.render))

end Name

/-- The characters of a text in units of a fixed number of bytes. -/
def units (width : Nat) (content : Bytes) : List Nat :=
  (List.range (content.length / width)).map fun index =>
    Bytes.toNat ((content.drop (index * width)).take width)

/-- Whether a number is a character. -/
def isScalar (unit : Nat) : Bool :=
  unit < 0xd800 || (0xe000 ≤ unit && unit < 0x110000)

/-- Whether a character may stand in the narrowest type of text. -/
def isPrintable (c : Char) : Bool :=
  c.isAlphanum || " '()+,-./:=?".contains c

/-- Whether a content is text of a type. -/
def isText (number : Nat) (content : Bytes) : Bool :=
  if number = bmpString then
    content.length % 2 == 0 && (units 2 content).all fun unit => isScalar unit && unit < 0xffff
  else if number = universalString then
    content.length % 4 == 0 && (units 4 content).all isScalar
  else
    match content.text? with
    | none => false
    | some text =>
      if number = Tag.utf8String.number then true
      else if number = printableString then text.toList.all isPrintable
      else if number = ia5String then text.toList.all fun c => c.toNat < 128
      else if number = teletexString then text.toList.all fun c => 32 ≤ c.toNat && c.toNat < 128
      else false

/-- A name to be written: kinds of attributes and values of one of the types of text. -/
abbrev PlainName := List Attribute

namespace PlainName

/-- Adds an attribute, in the place of one of its kind if there is one. -/
def insert (name : PlainName) (entry : Attribute) : PlainName :=
  if name.any fun known => known.kind = entry.kind then
    name.map fun known => if known.kind = entry.kind then entry else known
  else name ++ [entry]

/-- The name that can be written for one that was read, unless a part has several attributes or a
value is no text. -/
def ofName? (name : Name) : Option PlainName := do
  let attributes ← name.mapM fun part =>
    match part with
    | [entry] =>
      if isText entry.value.tag.number entry.value.content then
        some { entry with
          value := (Tag.plain entry.value.tag.number).element entry.value.content }
      else none
    | _ => none
  return attributes.foldl insert []

/-- A name of one attribute. -/
def single (kind : Oid) (text : String) : PlainName :=
  [⟨kind, Tag.utf8String.element (.ofText text)⟩]

/-- A name as bytes. -/
def bytes (name : PlainName) : Bytes :=
  Tag.sequence.of <| name.map fun entry =>
    Tag.set.of [Tag.sequence.of [entry.kind.bytes, entry.value.bytes]]

end PlainName

end EdgeFleet.Pki
