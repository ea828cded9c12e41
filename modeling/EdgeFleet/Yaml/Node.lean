import EdgeFleet.Yaml.Lexer

/-!
# Nodes of YAML

The tree that the tokens of a text stand for. `document?` accepts a text with at most one document
and puts in what references refer to; a reference to a node from within that node cannot be put in
and is a `loop`.
-/

namespace EdgeFleet.Yaml

/-- A node, with its tag in full. -/
inductive Node where
  | scalar (tag : Option String) (style : Style) (text : String)
  | sequence (tag : Option String) (items : List Node)
  | mapping (tag : Option String) (entries : List (Node × Node))
  | loop
  deriving Repr, BEq, Inhabited

/-- The node that stands for nothing. -/
def Node.blank : Node :=
  .scalar none .plain ""

/-- What is known while a document is read: what handles stand for, and the nodes with anchors,
last one first. A node that is not complete is absent. -/
structure Scope where
  handles : List (String × String)
  anchors : List (String × Option Node)

namespace Scope

/-- The handles that need no directive. -/
def standardHandles : List (String × String) :=
  [("!", "!"), ("!!", "tag:yaml.org,2002:")]

/-- The full form of a tag. -/
def fullTag (scope : Scope) (handle suffix : String) : Option String :=
  if handle.isEmpty then some suffix
  else (scope.handles.find? (·.1 == handle)).map fun entry => entry.2 ++ suffix

/-- Notes a node under its anchor, if it has one. -/
def note (scope : Scope) (anchor : Option String) (node : Option Node) : Scope :=
  match anchor with
  | none => scope
  | some name => { scope with anchors := (name, node) :: scope.anchors }

end Scope

/-- What is read off the head of a list of tokens. -/
abbrev Parsed (α : Type) := α × Scope × List Token

/-- The properties of a node: an anchor and a tag, in either order. -/
def properties (scope : Scope) (tokens : List Token) :
    Option (Option String × Option String × List Token) :=
  match tokens with
  | .anchor name :: .tag handle suffix :: rest
  | .tag handle suffix :: .anchor name :: rest =>
    (scope.fullTag handle suffix).map fun tag => (some name, some tag, rest)
  | .anchor name :: rest => some (some name, none, rest)
  | .tag handle suffix :: rest =>
    (scope.fullTag handle suffix).map fun tag => (none, some tag, rest)
  | tokens => some (none, none, tokens)

/-- Whether a token ends an entry of a block sequence that has no node. -/
def endsBlockItem : Token → Bool
  | .blockEntry | .blockEnd => true
  | _ => false

/-- Whether a token ends an entry of a sequence without an indentation of its own. -/
def endsIndentlessItem : Token → Bool
  | .blockEntry | .key | .value | .blockEnd => true
  | _ => false

/-- Whether a token ends a key or a value of a block mapping. -/
def endsBlockPart : Token → Bool
  | .key | .value | .blockEnd => true
  | _ => false

/-- Whether a token ends a key within braces. -/
def endsFlowKey : Token → Bool
  | .value | .flowEntry | .flowMappingEnd => true
  | _ => false

/-- Whether a token ends a value within braces. -/
def endsFlowValue : Token → Bool
  | .flowEntry | .flowMappingEnd => true
  | _ => false

/-- Whether a token ends the key of a pair within square brackets. -/
def endsPairKey : Token → Bool
  | .value | .flowEntry | .flowSequenceEnd => true
  | _ => false

/-- Whether a token ends the value of a pair within square brackets. -/
def endsPairValue : Token → Bool
  | .flowEntry | .flowSequenceEnd => true
  | _ => false

/-- The tag of a scalar: a single exclamation mark leaves a scalar without one. -/
def scalarTag (tag : Option String) : Option String :=
  tag.filter (· != "!")

/-- A scalar in plain style keeps its meaning; behind a single exclamation mark so does any. -/
def scalarNode (tag : Option String) (style : Style) (text : String) : Node :=
  .scalar (scalarTag tag) style text

mutual

/-- Reads a node. `block` allows block collections, and `indentless` a sequence that is not
indented further than the mapping that it is in. -/
def node (block indentless : Bool) : Nat → Scope → List Token → Option (Parsed Node)
  | 0, _, _ => none
  | _ + 1, scope, .reference name :: rest =>
    (scope.anchors.find? (·.1 == name)).map fun entry => (entry.2.getD .loop, scope, rest)
  | steps + 1, scope, tokens => do
    let (anchor, tag, tokens) ← properties scope tokens
    let open_ := scope.note anchor none
    let close (node : Node) (scope : Scope) (rest : List Token) : Option (Parsed Node) :=
      some (node, scope.note anchor (some node), rest)
    match tokens with
    | .blockEntry :: rest =>
      if indentless then do
        let (items, scope, rest) ← indentlessItems steps open_ (.blockEntry :: rest)
        close (.sequence tag items) scope rest
      else if anchor.isSome || tag.isSome then
        close (.scalar tag .plain "") scope (.blockEntry :: rest)
      else none
    | .scalar style text :: rest => close (scalarNode tag style text) scope rest
    | .flowSequenceStart :: rest => do
      let (items, scope, rest) ← flowItems true steps open_ rest
      close (.sequence tag items) scope rest
    | .flowMappingStart :: rest => do
      let (entries, scope, rest) ← flowEntries true steps open_ rest
      close (.mapping tag entries) scope rest
    | .blockSequenceStart :: rest =>
      if block then do
        let (items, scope, rest) ← blockItems steps open_ rest
        close (.sequence tag items) scope rest
      else if anchor.isSome || tag.isSome then
        close (.scalar tag .plain "") scope (.blockSequenceStart :: rest)
      else none
    | .blockMappingStart :: rest =>
      if block then do
        let (entries, scope, rest) ← blockEntries steps open_ rest
        close (.mapping tag entries) scope rest
      else if anchor.isSome || tag.isSome then
        close (.scalar tag .plain "") scope (.blockMappingStart :: rest)
      else none
    | tokens =>
      if anchor.isSome || tag.isSome then close (.scalar tag .plain "") scope tokens else none

/-- Reads a node unless the next token ends the place for it. -/
def nodeUnless (ends : Token → Bool) (block indentless : Bool) :
    Nat → Scope → List Token → Option (Parsed Node)
  | 0, _, _ => none
  | steps + 1, scope, tokens =>
    match tokens with
    | [] => none
    | token :: rest =>
      if ends token then some (.blank, scope, token :: rest)
      else node block indentless steps scope (token :: rest)

/-- Reads the rest of a block sequence. -/
def blockItems : Nat → Scope → List Token → Option (Parsed (List Node))
  | 0, _, _ => none
  | steps + 1, scope, .blockEntry :: rest => do
    let (item, scope, rest) ← nodeUnless endsBlockItem true false steps scope rest
    let (items, scope, rest) ← blockItems steps scope rest
    return (item :: items, scope, rest)
  | _ + 1, scope, .blockEnd :: rest => some ([], scope, rest)
  | _ + 1, _, _ => none

/-- Reads the rest of a sequence without an indentation of its own. -/
def indentlessItems : Nat → Scope → List Token → Option (Parsed (List Node))
  | 0, _, _ => none
  | steps + 1, scope, .blockEntry :: rest => do
    let (item, scope, rest) ← nodeUnless endsIndentlessItem true false steps scope rest
    let (items, scope, rest) ← indentlessItems steps scope rest
    return (item :: items, scope, rest)
  | _ + 1, scope, tokens => some ([], scope, tokens)

/-- Reads the rest of a block mapping. -/
def blockEntries : Nat → Scope → List Token → Option (Parsed (List (Node × Node)))
  | 0, _, _ => none
  | steps + 1, scope, .key :: rest => do
    let (key, scope, rest) ← nodeUnless endsBlockPart true true steps scope rest
    let (value, scope, rest) ← blockValue steps scope rest
    let (entries, scope, rest) ← blockEntries steps scope rest
    return ((key, value) :: entries, scope, rest)
  | _ + 1, scope, .blockEnd :: rest => some ([], scope, rest)
  | _ + 1, _, _ => none

/-- Reads the value of an entry of a block mapping. -/
def blockValue : Nat → Scope → List Token → Option (Parsed Node)
  | 0, _, _ => none
  | steps + 1, scope, .value :: rest => nodeUnless endsBlockPart true true steps scope rest
  | _ + 1, scope, tokens => some (.blank, scope, tokens)

/-- Reads the rest of a sequence in square brackets. -/
def flowItems (first : Bool) : Nat → Scope → List Token → Option (Parsed (List Node))
  | 0, _, _ => none
  | _ + 1, scope, .flowSequenceEnd :: rest => some ([], scope, rest)
  | steps + 1, scope, tokens => do
    let tokens ←
      if first then some tokens
      else
        match tokens with
        | .flowEntry :: rest => some rest
        | _ => none
    match tokens with
    | .flowSequenceEnd :: rest => some ([], scope, rest)
    | .key :: rest => do
      let (item, scope, rest) ← pair steps scope rest
      let (items, scope, rest) ← flowItems false steps scope rest
      return (item :: items, scope, rest)
    | tokens => do
      let (item, scope, rest) ← node false false steps scope tokens
      let (items, scope, rest) ← flowItems false steps scope rest
      return (item :: items, scope, rest)

/-- Reads a pair within square brackets, which is a mapping of one entry. Where there is no key, the
token that shows so is passed over. -/
def pair : Nat → Scope → List Token → Option (Parsed Node)
  | 0, _, _ => none
  | steps + 1, scope, tokens => do
    let (key, scope, rest) ←
      match tokens with
      | [] => none
      | token :: rest =>
        if endsPairKey token then some (.blank, scope, rest)
        else node false false steps scope (token :: rest)
    let (value, scope, rest) ←
      match rest with
      | .value :: rest => nodeUnless endsPairValue false false steps scope rest
      | rest => some (.blank, scope, rest)
    return (.mapping none [(key, value)], scope, rest)

/-- Reads the rest of a mapping in braces. -/
def flowEntries (first : Bool) : Nat → Scope → List Token → Option (Parsed (List (Node × Node)))
  | 0, _, _ => none
  | _ + 1, scope, .flowMappingEnd :: rest => some ([], scope, rest)
  | steps + 1, scope, tokens => do
    let tokens ←
      if first then some tokens
      else
        match tokens with
        | .flowEntry :: rest => some rest
        | _ => none
    match tokens with
    | .flowMappingEnd :: rest => some ([], scope, rest)
    | .key :: rest => do
      let (key, scope, rest) ← nodeUnless endsFlowKey false false steps scope rest
      let (value, scope, rest) ←
        match rest with
        | .value :: rest => nodeUnless endsFlowValue false false steps scope rest
        | rest => some (.blank, scope, rest)
      let (entries, scope, rest) ← flowEntries false steps scope rest
      return ((key, value) :: entries, scope, rest)
    | tokens => do
      let (key, scope, rest) ← node false false steps scope tokens
      let (entries, scope, rest) ← flowEntries false steps scope rest
      return ((key, .blank) :: entries, scope, rest)

end

/-- Reads directives: at most one version, which must be known, and handles, none of them twice. -/
def directives : List Token → Bool → List (String × String) →
    Option (List (String × String) × List Token)
  | .version major minor :: rest, seen, handles =>
    if seen || major != 1 || !(minor == 1 || minor == 2) then none
    else directives rest true handles
  | .tagDirective handle lead :: rest, seen, handles =>
    if handles.any (·.1 == handle) then none
    else directives rest seen (handles ++ [(handle, lead)])
  | tokens, _, handles => some (handles, tokens)

/-- Whether a token ends a document that has no node. -/
def endsDocument : Token → Bool
  | .version _ _ | .tagDirective _ _ | .documentStart | .documentEnd | .streamEnd => true
  | _ => false

/-- Reads the tokens after a document, which must not begin another one. -/
def atStreamEnd : List Token → Bool
  | .documentEnd :: rest => atStreamEnd rest
  | .streamEnd :: _ => true
  | _ => false

/-- Reads a document behind its directives. -/
def documentNode (handles : List (String × String)) (explicit : Bool) (tokens : List Token) :
    Option Node := do
  let scope : Scope := ⟨handles ++ Scope.standardHandles, []⟩
  let steps := 4 * tokens.length + 8
  let (node, _, rest) ←
    if explicit then nodeUnless endsDocument true false steps scope tokens
    else node true false steps scope tokens
  if atStreamEnd rest then return node else none

/-- The document of a list of tokens, if there is one. -/
def documentOf (tokens : List Token) : Option (Option Node) :=
  match tokens with
  | .streamEnd :: _ => some none
  | .version _ _ :: _ | .tagDirective _ _ :: _ | .documentStart :: _ => do
    let (handles, rest) ← directives tokens false []
    match rest with
    | .documentStart :: rest => (documentNode handles true rest).map some
    | _ => none
  | tokens => (documentNode [] false tokens).map some

/-- The document of a text, if there is one. A text that cannot be read, or that has more than one
document, has none to give. -/
def document? (text : String) : Option (Option Node) :=
  (tokens? text).bind documentOf

end EdgeFleet.Yaml
