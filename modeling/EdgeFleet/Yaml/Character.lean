/-!
# Characters of YAML

The classes of characters that tell tokens apart, and `Cursor`, the place in a text where reading
goes on. A line can end in a carriage return, a line feed or both, and in three characters of
Unicode; of these only the last two come back as themselves, the others as a line feed.
-/

namespace EdgeFleet.Yaml

/-- Whether a character may stand in a document. -/
def isAllowed (c : Char) : Bool :=
  let n := c.toNat
  n == 9 || n == 10 || n == 13 || (0x20 ≤ n && n ≤ 0x7E) || n == 0x85 || (0xA0 ≤ n && n ≤ 0xD7FF) ||
    (0xE000 ≤ n && n ≤ 0xFFFD) || 0x10000 ≤ n

/-- Whether a character ends a line. -/
def isBreak (c : Char) : Bool :=
  c == '\n' || c == '\r' || c == '\u0085' || c == '\u2028' || c == '\u2029'

/-- Whether a character is a space or a tab. -/
def isBlank (c : Char) : Bool :=
  c == ' ' || c == '\t'

/-- Whether a character separates words. -/
def isGap (c : Char) : Bool :=
  isBlank c || isBreak c

/-- Whether a character may stand in the name of an anchor or a tag. -/
def isWord (c : Char) : Bool :=
  c.isAlphanum || c == '_' || c == '-'

/-- Whether a text begins with a separator of words, or is at its end. -/
def atGap : List Char → Bool
  | [] => true
  | c :: _ => isGap c

/-- Whether a text begins with the end of a line, or is at its end. -/
def atLineEnd : List Char → Bool
  | [] => true
  | c :: _ => isBreak c

/-- Whether a text begins with a character. -/
def beginsWith (c : Char) (cs : List Char) : Bool :=
  cs.head? == some c

/-- Whether a text begins with one of the marks around documents: three hyphens or three points. -/
def atDocumentMark : List Char → Bool
  | '-' :: '-' :: '-' :: rest => atGap rest
  | '.' :: '.' :: '.' :: rest => atGap rest
  | _ => false

/-- Takes the end of a line off a text: what it stands for, how many characters it is, and the
rest. -/
def takeBreak : List Char → List Char × Nat × List Char
  | '\r' :: '\n' :: rest => (['\n'], 2, rest)
  | '\u2028' :: rest => (['\u2028'], 1, rest)
  | '\u2029' :: rest => (['\u2029'], 1, rest)
  | c :: rest => if isBreak c then (['\n'], 1, rest) else ([], 0, c :: rest)
  | [] => ([], 0, [])

/-- A place in a text: what is still to be read, and where it is. -/
structure Cursor where
  rest : List Char
  index : Nat
  line : Nat
  column : Nat

namespace Cursor

/-- The place at the start of a text. -/
def start (cs : List Char) : Cursor :=
  ⟨cs, 0, 0, 0⟩

/-- The place some characters further on in the same line. -/
def skip (cursor : Cursor) (count : Nat) : Cursor :=
  ⟨cursor.rest.drop count, cursor.index + count, cursor.line, cursor.column + count⟩

/-- The place where only `rest` is left of the line. -/
def moveTo (cursor : Cursor) (rest : List Char) : Cursor :=
  let count := cursor.rest.length - rest.length
  ⟨rest, cursor.index + count, cursor.line, cursor.column + count⟩

/-- The place after the end of the line, with what the end stands for. -/
def takeBreak (cursor : Cursor) : List Char × Cursor :=
  let (text, count, rest) := Yaml.takeBreak cursor.rest
  if count == 0 then ([], cursor)
  else (text, ⟨rest, cursor.index + count, cursor.line + 1, 0⟩)

/-- The place after characters of the line that pass a test. -/
def skipWhile (cursor : Cursor) (test : Char → Bool) : Cursor :=
  cursor.skip (cursor.rest.takeWhile test).length

/-- The place at the end of the line if a comment begins here. -/
def skipComment (cursor : Cursor) : Cursor :=
  if beginsWith '#' cursor.rest then cursor.skipWhile fun c => !isBreak c else cursor

/-- The place on the next line, if only blanks and a comment are left of this one. -/
def endLine? (cursor : Cursor) : Option Cursor :=
  let cursor := (cursor.skipWhile isBlank).skipComment
  if atLineEnd cursor.rest then some cursor.takeBreak.2 else none

end Cursor

end EdgeFleet.Yaml
