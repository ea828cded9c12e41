import EdgeFleet.Yaml.Scalar
import EdgeFleet.Yaml.Tag
import EdgeFleet.Yaml.Token

/-!
# Reading the tokens of YAML

`tokens?` splits a text into tokens. Indentation opens and closes block collections, and a colon can
turn what was read before it into a key: the tokens for that are put in where the key began. A
possible key must end on its line and within 1024 characters.
-/

namespace EdgeFleet.Yaml

/-- Where a key may have begun. -/
structure KeyMark where
  /-- How many tokens come before the key. -/
  token : Nat
  index : Nat
  line : Nat
  column : Nat
  /-- Whether nothing but a key can stand there. -/
  required : Bool

/-- The state of reading. -/
structure Lexer where
  cursor : Cursor
  tokens : Array Token
  /-- The place of a possible key in each of the open brackets, innermost first, and at last
  outside all brackets. -/
  keys : List (Option KeyMark)
  /-- The column of the present block collection, or -1. -/
  indent : Int
  /-- The columns of the block collections around it. -/
  outer : List Int
  keyAllowed : Bool

namespace Lexer

/-- The state at the start of a text. -/
def start (cs : List Char) : Lexer :=
  ⟨.start cs, #[], [none], -1, [], true⟩

/-- Whether brackets are open. -/
def inFlow (lexer : Lexer) : Bool :=
  lexer.keys.length > 1

/-- Adds a token. -/
def push (lexer : Lexer) (token : Token) : Lexer :=
  { lexer with tokens := lexer.tokens.push token }

/-- Puts a token in at a position. -/
def insert (lexer : Lexer) (position : Nat) (token : Token) : Lexer :=
  let tokens := lexer.tokens
  { lexer with
    tokens := (tokens.extract 0 position).push token ++ tokens.extract position tokens.size }

/-- Goes on some characters. -/
def skip (lexer : Lexer) (count : Nat) : Lexer :=
  { lexer with cursor := lexer.cursor.skip count }

/-- Sets whether a key may begin here. -/
def allowKey (lexer : Lexer) (allowed : Bool) : Lexer :=
  { lexer with keyAllowed := allowed }

/-- Goes on to the next token, over blanks, comments and line ends. A tab does not count as a blank
where a key may begin. -/
def skipGap : Nat → Lexer → Lexer
  | 0, lexer => lexer
  | steps + 1, lexer =>
    let cursor := lexer.cursor
    let cursor :=
      if cursor.index == 0 && beginsWith '\ufeff' cursor.rest then cursor.skip 1 else cursor
    let tabs := lexer.inFlow || !lexer.keyAllowed
    let cursor := (cursor.skipWhile fun c => c == ' ' || (tabs && c == '\t')).skipComment
    if cursor.rest.isEmpty || !atLineEnd cursor.rest then { lexer with cursor }
    else
      skipGap steps { lexer with
        cursor := cursor.takeBreak.2
        keyAllowed := lexer.keyAllowed || !lexer.inFlow }

/-- The most characters of a key that has no mark of its own. -/
def maxKeyLength : Nat := 1024

/-- Gives up the place of a possible key. -/
def forget : Option KeyMark → Option (Option KeyMark)
  | none => some none
  | some mark => if mark.required then none else some none

/-- Gives up the places of possible keys that are too far back. -/
def dropStale (lexer : Lexer) : Option Lexer := do
  let keys ← lexer.keys.mapM fun key =>
    match key with
    | none => some none
    | some mark =>
      if mark.line < lexer.cursor.line || mark.index + maxKeyLength < lexer.cursor.index then
        forget key
      else some key
  return { lexer with keys }

/-- Gives up the place of a possible key within the present brackets. -/
def dropKey (lexer : Lexer) : Option Lexer :=
  match lexer.keys with
  | [] => some lexer
  | key :: rest => do
    let key ← forget key
    return { lexer with keys := key :: rest }

/-- Notes that a key may begin here. -/
def markKey (lexer : Lexer) : Option Lexer :=
  if lexer.keyAllowed then do
    let lexer ← lexer.dropKey
    let cursor := lexer.cursor
    let mark : KeyMark := {
      token := lexer.tokens.size
      index := cursor.index
      line := cursor.line
      column := cursor.column
      required := !lexer.inFlow && lexer.indent == cursor.column }
    return { lexer with keys := some mark :: lexer.keys.drop 1 }
  else some lexer

/-- Opens a block collection if the column is further in than the present one. -/
def indentTo (lexer : Lexer) (column position : Nat) (token : Token) : Lexer :=
  if !lexer.inFlow && lexer.indent < column then
    { lexer.insert position token with
      indent := column
      outer := lexer.indent :: lexer.outer }
  else lexer

/-- Closes the block collections that are further in than a column. -/
def closeTo (column : Int) (lexer : Lexer) : Lexer :=
  if lexer.inFlow then lexer
  else
    let ended := (lexer.indent :: lexer.outer).takeWhile (· > column)
    match (lexer.indent :: lexer.outer).drop ended.length with
    | [] => lexer
    | indent :: outer =>
      { lexer with
        tokens := lexer.tokens ++ Array.replicate ended.length Token.blockEnd
        indent, outer }

/-- Closes all block collections, before something that stands between documents. -/
def closeAll (lexer : Lexer) : Option Lexer := do
  let lexer ← (lexer.closeTo (-1)).dropKey
  return lexer.allowKey false

/-- The end of the text. -/
def finish (lexer : Lexer) : Option Lexer := do
  let lexer ← lexer.closeAll
  return lexer.push .streamEnd

/-- A directive, from its percent sign to the end of the line. -/
def directive (lexer : Lexer) : Option Lexer := do
  let lexer ← lexer.closeAll
  let cs := lexer.cursor.rest.drop 1
  let name := cs.takeWhile isWord
  let rest := cs.drop name.length
  if !atGap rest then none
  let (token, rest) ←
    if name == "YAML".toList then
      (version? rest).map fun (major, minor, rest) => (Token.version major minor, rest)
    else if name == "TAG".toList then
      (tagDirective? rest).map fun (handle, lead, rest) => (Token.tagDirective handle lead, rest)
    else none
  let cursor ← (lexer.cursor.moveTo rest).endLine?
  return { lexer.push token with cursor }

/-- A mark before or after a document. -/
def documentMark (lexer : Lexer) (token : Token) : Option Lexer := do
  let lexer ← lexer.closeAll
  return (lexer.skip 3).push token

/-- An opening bracket. -/
def openFlow (lexer : Lexer) (token : Token) : Option Lexer := do
  let lexer ← lexer.markKey
  return (({ lexer with keys := none :: lexer.keys }.allowKey true).skip 1).push token

/-- A closing bracket. -/
def closeFlow (lexer : Lexer) (token : Token) : Option Lexer := do
  let lexer ← lexer.dropKey
  let keys := if lexer.inFlow then lexer.keys.drop 1 else lexer.keys
  return (({ lexer with keys }.allowKey false).skip 1).push token

/-- A comma within brackets. -/
def flowEntry (lexer : Lexer) : Option Lexer := do
  let lexer ← lexer.dropKey
  return ((lexer.allowKey true).skip 1).push .flowEntry

/-- The hyphen of a list. -/
def blockEntry (lexer : Lexer) : Option Lexer := do
  if !lexer.inFlow && !lexer.keyAllowed then none
  let lexer := lexer.indentTo lexer.cursor.column lexer.tokens.size .blockSequenceStart
  let lexer ← lexer.dropKey
  return ((lexer.allowKey true).skip 1).push .blockEntry

/-- The question mark before a key. -/
def keyMark (lexer : Lexer) : Option Lexer := do
  if !lexer.inFlow && !lexer.keyAllowed then none
  let lexer := lexer.indentTo lexer.cursor.column lexer.tokens.size .blockMappingStart
  let lexer ← lexer.dropKey
  return ((lexer.allowKey (!lexer.inFlow)).skip 1).push .key

/-- The colon before a value. It makes a key of what was noted as a possible one. -/
def valueMark (lexer : Lexer) : Option Lexer :=
  match lexer.keys with
  | some mark :: keys =>
    let lexer := lexer.insert mark.token .key
    let lexer := lexer.indentTo mark.column mark.token .blockMappingStart
    some ((({ lexer with keys := none :: keys }.allowKey false).skip 1).push .value)
  | _ => do
    if !lexer.inFlow && !lexer.keyAllowed then none
    let lexer := lexer.indentTo lexer.cursor.column lexer.tokens.size .blockMappingStart
    return ((lexer.allowKey (!lexer.inFlow)).skip 1).push .value

/-- Whether a character may follow the name of an anchor. -/
def endsName (cs : List Char) : Bool :=
  atGap cs || (cs.head?.map fun c => "?:,]\x7d%@`".toList.contains c) == some true

/-- The name of an anchor or of a reference to one. -/
def name (lexer : Lexer) (token : String → Token) : Option Lexer := do
  let lexer ← lexer.markKey
  let cs := lexer.cursor.rest.drop 1
  let word := cs.takeWhile isWord
  if word.isEmpty || !endsName (cs.drop word.length) then none
  return ((lexer.allowKey false).skip (word.length + 1)).push (token (.ofList word))

/-- A tag. -/
def tag (lexer : Lexer) : Option Lexer := do
  let lexer ← lexer.markKey
  let (handle, text, rest) ← tag? lexer.cursor.rest
  if !atGap rest && !(lexer.inFlow && beginsWith ',' rest) then none
  let cursor := lexer.cursor.moveTo rest
  return ({ lexer with cursor }.allowKey false).push (.tag handle text)

/-- A block scalar. -/
def blockScalar (lexer : Lexer) (literal : Bool) : Option Lexer := do
  let lexer ← lexer.dropKey
  let (text, cursor) ← blockText literal lexer.indent (lexer.cursor.skip 1)
  let style := if literal then Style.literal else .quoted
  return ({ lexer with cursor }.allowKey true).push (.scalar style (.ofList text))

/-- A quoted scalar. -/
def quotedScalar (lexer : Lexer) (single : Bool) : Option Lexer := do
  let lexer ← lexer.markKey
  let (text, cursor) ← quotedText single (lexer.cursor.rest.length + 1) [] (lexer.cursor.skip 1)
  return ({ lexer with cursor }.allowKey false).push (.scalar .quoted (.ofList text))

/-- A plain scalar. -/
def plainScalar (lexer : Lexer) : Option Lexer := do
  let lexer ← lexer.markKey
  let (text, broken, cursor) ←
    plainText lexer.inFlow (lexer.indent + 1) (lexer.cursor.rest.length + 1) [] .none lexer.cursor
  return ({ lexer with cursor }.allowKey broken).push (.scalar .plain (.ofList text))

/-- The marks that no plain scalar begins with. -/
def marks : List Char := "-?:,[]\x7b\x7d#&*!|>'\"%@`".toList

/-- Whether a plain scalar begins here. -/
def beginsPlain (flow : Bool) (c : Char) (rest : List Char) : Bool :=
  !(isGap c || marks.contains c) || (c == '-' && !(rest.head?.map isBlank).getD false) ||
    (!flow && (c == '?' || c == ':') && !atGap rest)

/-- Reads the token that begins with a character. -/
def read (lexer : Lexer) (c : Char) (rest : List Char) : Option Lexer :=
  let flow := lexer.inFlow
  let first := lexer.cursor.column == 0
  if first && c == '%' then lexer.directive
  else if first && atDocumentMark (c :: rest) then
    lexer.documentMark (if c == '-' then .documentStart else .documentEnd)
  else if c == '[' then lexer.openFlow .flowSequenceStart
  else if c == '\x7b' then lexer.openFlow .flowMappingStart
  else if c == ']' then lexer.closeFlow .flowSequenceEnd
  else if c == '\x7d' then lexer.closeFlow .flowMappingEnd
  else if c == ',' then lexer.flowEntry
  else if c == '-' && atGap rest then lexer.blockEntry
  else if c == '?' && (flow || atGap rest) then lexer.keyMark
  else if c == ':' && (flow || atGap rest) then lexer.valueMark
  else if c == '*' then lexer.name .reference
  else if c == '&' then lexer.name .anchor
  else if c == '!' then lexer.tag
  else if c == '|' && !flow then lexer.blockScalar true
  else if c == '>' && !flow then lexer.blockScalar false
  else if c == '\'' then lexer.quotedScalar true
  else if c == '"' then lexer.quotedScalar false
  else if beginsPlain flow c rest then lexer.plainScalar
  else none

/-- Reads tokens up to the end of the text. -/
def readAll : Nat → Lexer → Option Lexer
  | 0, _ => none
  | steps + 1, lexer => do
    let lexer ← (skipGap (lexer.cursor.rest.length + 1) lexer).dropStale
    let lexer := lexer.closeTo lexer.cursor.column
    match lexer.cursor.rest with
    | [] => lexer.finish
    | c :: rest => readAll steps (← lexer.read c rest)

end Lexer

/-- The tokens of a text. A mark of byte order at its head does not count. -/
def tokens? (text : String) : Option (List Token) := do
  let cs := text.toList
  let cs := if beginsWith '\ufeff' cs then cs.drop 1 else cs
  if !cs.all isAllowed then none
  let lexer ← Lexer.readAll (cs.length + 1) (.start cs)
  return lexer.tokens.toList

end EdgeFleet.Yaml
