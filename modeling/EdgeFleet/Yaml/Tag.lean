import EdgeFleet.Text.Number
import EdgeFleet.Yaml.Character

/-!
# Tags and directives of YAML

The texts of tags, and of the directives that may stand before a document: the version of the
format, and the handles that stand for the beginning of a tag.
-/

namespace EdgeFleet.Yaml

open Text

/-- Reads a handle: an exclamation mark, a word, and another exclamation mark, which may be missing
where that does not make the handle of a directive incomplete. -/
def tagHandle (directive : Bool) : List Char → Option (List Char × List Char)
  | '!' :: cs =>
    let word := cs.takeWhile isWord
    match cs.drop word.length with
    | '!' :: rest => some ('!' :: word ++ ['!'], rest)
    | rest => if directive && !word.isEmpty then none else some ('!' :: word, rest)
  | _ => none

/-- Whether a character may stand in a tag; in some places brackets and commas may. -/
def isTagChar (brackets : Bool) (c : Char) : Bool :=
  isWord c || ";/?:@&=+$.%!~*'()".toList.contains c || (brackets && [',', '[', ']'].contains c)

/-- The byte of two hexadecimal digits behind a percent sign. -/
def escapedByte? : List Char → Option (Nat × List Char)
  | '%' :: a :: b :: rest => (digits? 16 [a, b]).map (·, rest)
  | _ => none

/-- The further bytes of a character, each behind a percent sign. -/
def trailingBytes (code : Nat) : Nat → List Char → Option (Nat × List Char)
  | 0, cs => some (code, cs)
  | count + 1, cs => do
    let (byte, cs) ← escapedByte? cs
    if byte / 64 == 2 then trailingBytes (code * 64 + byte % 64) count cs else none

/-- The character that is given by its bytes, each behind a percent sign. -/
def escapedChar? (cs : List Char) : Option (Char × List Char) := do
  let (byte, cs) ← escapedByte? cs
  let (code, cs) ←
    if byte < 0x80 then some (byte, cs)
    else if byte / 32 == 6 then trailingBytes (byte % 32) 1 cs
    else if byte / 16 == 14 then trailingBytes (byte % 16) 2 cs
    else if byte / 8 == 30 then trailingBytes (byte % 8) 3 cs
    else none
  if code.isValidChar then return (Char.ofNat code, cs) else none

/-- Reads the rest of a tag. -/
def tagText (brackets : Bool) : Nat → List Char → Option (List Char × List Char)
  | 0, cs => some ([], cs)
  | steps + 1, cs =>
    match cs with
    | '%' :: _ => do
      let (char, rest) ← escapedChar? cs
      let (text, rest) ← tagText brackets steps rest
      return (char :: text, rest)
    | c :: rest =>
      if isTagChar brackets c then do
        let (text, rest) ← tagText brackets steps rest
        return (c :: text, rest)
      else some ([], cs)
    | [] => some ([], [])

/-- Reads a tag: its handle, and its text behind that. A tag between angle brackets has no handle,
and a single exclamation mark is a text without one. -/
def tag? (cs : List Char) : Option (String × String × List Char) :=
  match cs with
  | '!' :: '<' :: rest => do
    let (text, rest) ← tagText true rest.length rest
    if text.isEmpty then none
    match rest with
    | '>' :: rest => return ("", .ofList text, rest)
    | _ => none
  | cs => do
    let (handle, rest) ← tagHandle false cs
    let (text, rest) ← tagText false rest.length rest
    if handle.length > 1 && handle.getLast? == some '!' then
      if text.isEmpty then none else return (.ofList handle, .ofList text, rest)
    else
      let text := handle.drop 1 ++ text
      if text.isEmpty then return ("", "!", rest) else return ("!", .ofList text, rest)

/-- The most digits of a part of a version. -/
def maxVersionDigits : Nat := 9

/-- Reads a part of a version. -/
def versionPart? (cs : List Char) : Option (Nat × List Char) :=
  leadingNat? 10 maxVersionDigits (Nat.pow 10 maxVersionDigits) true cs

/-- Reads a version: two numbers with a point between them. -/
def version? (cs : List Char) : Option (Nat × Nat × List Char) := do
  let (major, cs) ← versionPart? (cs.dropWhile isBlank)
  match cs with
  | '.' :: cs =>
    let (minor, cs) ← versionPart? cs
    return (major, minor, cs)
  | _ => none

/-- Reads what a tag directive says: a handle, and what it stands for. -/
def tagDirective? (cs : List Char) : Option (String × String × List Char) := do
  let (handle, cs) ← tagHandle true (cs.dropWhile isBlank)
  match cs with
  | c :: _ =>
    if !isBlank c then none
    let cs := cs.dropWhile isBlank
    let (lead, cs) ← tagText true cs.length cs
    if lead.isEmpty || !atGap cs then none else return (.ofList handle, .ofList lead, cs)
  | [] => none

end EdgeFleet.Yaml
