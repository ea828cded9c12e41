import EdgeFleet.Text.Number
import EdgeFleet.Yaml.Character

/-!
# Scalars of YAML

The text of a scalar in each of the ways to write it. Where a scalar goes on over the end of a line,
one line end reads as a space and several as all but the first; `Fold` holds what lies between two
words.
-/

namespace EdgeFleet.Yaml

open Text

/-- What lies between two words of a scalar: blanks, or line ends with the blanks around them
dropped. -/
structure Fold where
  blanks : List Char
  first : List Char
  more : List Char
  broken : Bool

namespace Fold

/-- Nothing. -/
def none : Fold :=
  ⟨[], [], [], false⟩

/-- What a gap stands for in the text of a scalar. -/
def text (fold : Fold) : List Char :=
  if fold.broken then
    if fold.first == ['\n'] then (if fold.more.isEmpty then [' '] else fold.more)
    else fold.first ++ fold.more
  else fold.blanks

/-- Reads blanks and line ends. In a plain scalar a tab must not stand left of `indent` on a
continued line. -/
def read (indent : Int) : Nat → Fold → Cursor → Option (Fold × Cursor)
  | 0, fold, cursor => some (fold, cursor)
  | steps + 1, fold, cursor =>
    match cursor.rest with
    | [] => some (fold, cursor)
    | c :: _ =>
      if isBlank c then
        if fold.broken then
          if c == '\t' && cursor.column < indent then Option.none
          else read indent steps fold (cursor.skip 1)
        else read indent steps { fold with blanks := fold.blanks ++ [c] } (cursor.skip 1)
      else if isBreak c then
        let (text, next) := cursor.takeBreak
        if fold.broken then read indent steps { fold with more := fold.more ++ text } next
        else read indent steps ⟨[], text, fold.more, true⟩ next
      else some (fold, cursor)

end Fold

/-- The marks of collections within brackets. -/
def flowMarks : List Char := [',', '[', ']', '\x7b', '\x7d']

/-- The next word of a plain scalar and what follows it. A colon before a gap ends the scalar, and
within brackets so do the marks there; a colon just before such a mark is an error. -/
def plainWord (flow : Bool) : List Char → Option (List Char × List Char)
  | [] => some ([], [])
  | c :: rest =>
    if isGap c then some ([], c :: rest)
    else if flow && c == ':' &&
        (rest.head?.map fun d => d == '?' || flowMarks.contains d) == some true
    then none
    else if (c == ':' && atGap rest) || (flow && flowMarks.contains c) then some ([], c :: rest)
    else (plainWord flow rest).map fun (word, rest) => (c :: word, rest)

/-- Reads a plain scalar on from `text`. The flag tells whether a line end was read after the last
word. -/
def plainText (flow : Bool) (indent : Int) : Nat → List Char → Fold → Cursor →
    Option (List Char × Bool × Cursor)
  | 0, text, fold, cursor => some (text, fold.broken, cursor)
  | steps + 1, text, fold, cursor => do
    if (cursor.column == 0 && atDocumentMark cursor.rest) || beginsWith '#' cursor.rest then
      return (text, fold.broken, cursor)
    let (word, rest) ← plainWord flow cursor.rest
    let (text, fold) :=
      if word.isEmpty then (text, fold) else (text ++ fold.text ++ word, Fold.none)
    let cursor := cursor.moveTo rest
    if cursor.rest.isEmpty || !atGap cursor.rest then return (text, fold.broken, cursor)
    let (fold, cursor) ← Fold.read indent cursor.rest.length fold cursor
    if !flow && cursor.column < indent then return (text, fold.broken, cursor)
    plainText flow indent steps text fold cursor

/-- The character that a letter stands for behind a backslash. -/
def escaped? : Char → Option Char
  | '0' => some '\x00'
  | 'a' => some '\x07'
  | 'b' => some '\x08'
  | 't' | '\t' => some '\t'
  | 'n' => some '\n'
  | 'v' => some '\x0b'
  | 'f' => some '\x0c'
  | 'r' => some '\r'
  | 'e' => some '\x1b'
  | ' ' => some ' '
  | '"' => some '"'
  | '/' => some '/'
  | '\\' => some '\\'
  | 'N' => some '\u0085'
  | '_' => some '\u00a0'
  | 'L' => some '\u2028'
  | 'P' => some '\u2029'
  | _ => none

/-- How many digits follow a letter that stands for a code point behind a backslash. -/
def codeLength? : Char → Option Nat
  | 'x' => some 2
  | 'u' => some 4
  | 'U' => some 8
  | _ => none

/-- The character with a code point, unless it is half of a pair. -/
def character? (code : Nat) : Option Char :=
  if code.isValidChar then some (Char.ofNat code) else none

/-- The next word of a scalar in single quotation marks and what follows it. -/
def singleQuotedWord : List Char → List Char × List Char
  | [] => ([], [])
  | '\'' :: '\'' :: rest =>
    let (word, rest) := singleQuotedWord rest
    ('\'' :: word, rest)
  | c :: rest =>
    if isGap c || c == '\'' then ([], c :: rest)
    else
      let (word, rest) := singleQuotedWord rest
      (c :: word, rest)

/-- The next word of a scalar in double quotation marks and what follows it. The flag tells whether
it ends in a backslash before a line end, which is then what follows. -/
def doubleQuotedWord : Nat → List Char → Option (List Char × Bool × List Char)
  | 0, rest => some ([], false, rest)
  | steps + 1, cs =>
    match cs with
    | '\\' :: c :: rest =>
      if isBreak c then some ([], true, c :: rest)
      else
        match codeLength? c with
        | some length => do
          let digits := rest.take length
          if digits.length < length then none
          let char ← character? (← digits? 16 digits)
          let (word, broken, rest) ← doubleQuotedWord steps (rest.drop length)
          return (char :: word, broken, rest)
        | none => do
          let char ← escaped? c
          let (word, broken, rest) ← doubleQuotedWord steps rest
          return (char :: word, broken, rest)
    | '\\' :: [] => none
    | c :: rest =>
      if isGap c || c == '"' then some ([], false, c :: rest)
      else do
        let (word, broken, rest) ← doubleQuotedWord steps rest
        return (c :: word, broken, rest)
    | [] => some ([], false, [])

/-- The next word of a quoted scalar. -/
def quotedWord (single : Bool) (cs : List Char) : Option (List Char × Bool × List Char) :=
  if single then
    let (word, rest) := singleQuotedWord cs
    some (word, false, rest)
  else doubleQuotedWord cs.length cs

/-- Reads a quoted scalar on from `text`, up to and with its closing mark. -/
def quotedText (single : Bool) : Nat → List Char → Cursor → Option (List Char × Cursor)
  | 0, _, _ => none
  | steps + 1, text, cursor => do
    if cursor.rest.isEmpty || (cursor.column == 0 && atDocumentMark cursor.rest) then none
    let (word, broken, rest) ← quotedWord single cursor.rest
    let text := text ++ word
    let cursor := cursor.moveTo rest
    if !broken && beginsWith (if single then '\'' else '"') cursor.rest then
      return (text, cursor.skip 1)
    let cursor := if broken then cursor.takeBreak.2 else cursor
    let (fold, cursor) ← Fold.read 0 cursor.rest.length ⟨[], [], [], broken⟩ cursor
    quotedText single steps (text ++ fold.text) cursor

/-- What becomes of the line ends after the last line of a block scalar. -/
inductive Chomp where
  | clip
  | strip
  | keep
  deriving DecidableEq

/-- Reads the marks behind the start of a block scalar: how line ends are kept, and by how many
columns the text is indented, where that is said. -/
def blockMarks (cs : List Char) : Option (Chomp × Option Nat × List Char) :=
  let chomp? (cs : List Char) : Option (Chomp × List Char) :=
    match cs with
    | '+' :: rest => some (.keep, rest)
    | '-' :: rest => some (.strip, rest)
    | _ => none
  let digit (cs : List Char) : Option (Option Nat × List Char) :=
    match cs with
    | c :: rest =>
      if c == '0' then none
      else if c.isDigit then some (digitValue? 10 c, rest)
      else some (none, cs)
    | [] => some (none, [])
  match chomp? cs with
  | some (chomp, rest) => (digit rest).map fun (columns, rest) => (chomp, columns, rest)
  | none =>
    (digit cs).map fun (columns, rest) =>
      match columns, chomp? rest with
      | some _, some (chomp, rest) => (chomp, columns, rest)
      | _, _ => (.clip, columns, rest)

/-- Reads empty lines of a block scalar, and the indentation of the next line that is not. `indent`
is nothing as long as it is not known; `deepest` is the deepest column so far. -/
def blockBreaks (indent : Option Nat) : Nat → List Char → Nat → Cursor →
    Option (List Char × Nat × Cursor)
  | 0, breaks, deepest, cursor => some (breaks, deepest, cursor)
  | steps + 1, breaks, deepest, cursor =>
    let spaces := (cursor.rest.takeWhile (· == ' ')).length
    let room :=
      match indent with
      | none => spaces
      | some columns => min spaces (columns - cursor.column)
    let cursor := cursor.skip room
    let deepest := max deepest cursor.column
    let inside :=
      match indent with
      | none => true
      | some columns => cursor.column < columns
    if inside && beginsWith '\t' cursor.rest then none
    else if cursor.rest.isEmpty || !atLineEnd cursor.rest then some (breaks, deepest, cursor)
    else
      let (text, cursor) := cursor.takeBreak
      blockBreaks indent steps (breaks ++ text) deepest cursor

/-- Reads the lines of a block scalar on from `text`. `lead` is the end of the last line, `breaks`
are the empty lines after it, and `blank` tells whether the last line began with a blank. -/
def blockLines (literal : Bool) (indent : Nat) : Nat → List Char → List Char → List Char → Bool →
    Cursor → Option (List Char × List Char × List Char × Cursor)
  | 0, text, lead, breaks, _, cursor => some (text, lead, breaks, cursor)
  | steps + 1, text, lead, breaks, blank, cursor =>
    if cursor.column != indent || cursor.rest.isEmpty then some (text, lead, breaks, cursor)
    else do
      let nowBlank := (cursor.rest.head?.map isBlank).getD false
      let joint :=
        if !literal && lead == ['\n'] && !blank && !nowBlank then
          (if breaks.isEmpty then [' '] else breaks)
        else lead ++ breaks
      let line := cursor.rest.takeWhile fun c => !isBreak c
      let (lead, cursor) := (cursor.skip line.length).takeBreak
      let (breaks, _, cursor) ← blockBreaks (some indent) (cursor.rest.length + 1) [] 0 cursor
      blockLines literal indent steps (text ++ joint ++ line) lead breaks nowBlank cursor

/-- Reads a block scalar from behind its first mark, within a collection indented to `parent`. -/
def blockText (literal : Bool) (parent : Int) (cursor : Cursor) : Option (List Char × Cursor) := do
  let (chomp, columns, rest) ← blockMarks cursor.rest
  let cursor ← (cursor.moveTo rest).endLine?
  let least := (max (parent + 1) 1).toNat
  let given := columns.map fun columns => (max parent 0).toNat + columns
  let (breaks, deepest, cursor) ← blockBreaks given (cursor.rest.length + 1) [] 0 cursor
  let indent := given.getD (max deepest least)
  let (text, lead, breaks, cursor) ←
    blockLines literal indent (cursor.rest.length + 1) [] [] breaks false cursor
  let tail :=
    match chomp with
    | .strip => []
    | .clip => lead
    | .keep => lead ++ breaks
  return (text ++ tail, cursor)

end EdgeFleet.Yaml
