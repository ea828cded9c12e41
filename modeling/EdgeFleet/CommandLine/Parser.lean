import EdgeFleet.CommandLine.Grammar

/-!
# Reading the command line

The words are read from left to right while going down the tree of commands. Flags that all commands
take may stand at any level, but only once at each; the one furthest down counts, and a variable of
the environment counts only where the command line is silent. The value of a flag is looked at when
the next flag comes or the command has been read, so help that is asked for in between is given.
-/

namespace EdgeFleet.CommandLine

/-- Why there is nothing to be done. -/
inductive Stop where
  /-- The user asks what there is to be done. -/
  | help
  | version
  /-- What is said is no command. -/
  | misuse
  deriving Repr, DecidableEq

/-- What a word at some level is. -/
inductive Token where
  | command (grammar : Grammar)
  /-- Asks about the commands that follow. -/
  | about
  | flag (flag : Flag) (value : Option String)
  | help
  | version
  /-- No flags come after this. -/
  | closing
  | unknown

namespace Token

/-- The name after two hyphens, and the value behind an equals sign. -/
def split (cs : List Char) : String × Option String :=
  match cs.span (· != '=') with
  | (name, _ :: value) => (.ofList name, some (.ofList value))
  | (name, []) => (.ofList name, none)

/-- The flag of a name, or a request for information. Only the program as a whole has a version. -/
def named (flags : List Flag) (isProgram : Bool) (name : String) (value : Option String) : Token :=
  match flags.find? (·.name == name), value with
  | some known, value => .flag known value
  | none, some _ => .unknown
  | none, none =>
    if name == "help" then .help
    else if isProgram && name == "version" then .version
    else .unknown

/-- What a word is to a command. -/
def ofText (grammar : Grammar) (isProgram : Bool) (text : String) : Token :=
  match text.toList with
  | ['-', '-'] => .closing
  | '-' :: '-' :: cs =>
    let (name, value) := split cs
    named grammar.flags isProgram name value
  | '-' :: 'h' :: _ => .help
  | '-' :: 'V' :: _ => if isProgram then .version else .unknown
  | _ =>
    match grammar.child? text with
    | some below => .command below
    | none => if grammar.isGroup && text == Grammar.helpWord then .about else .unknown

/-- Whether a word cannot be a value. A single hyphen can. -/
def isDashed (text : String) : Bool :=
  match text.toList with
  | '-' :: _ :: _ => true
  | _ => false

end Token

/-- What has been said at one level. -/
structure Level where
  given : List (Flag × String)
  /-- A flag whose value has not been looked at. -/
  pending : Option (Flag × String)
  deriving Repr, DecidableEq

namespace Level

/-- Nothing has been said. -/
def start : Level := ⟨[], none⟩

/-- Takes a flag with its value. A flag may be given once, with a value that it admits. -/
def record (level : Level) (flag : Flag) (value : String) : Except Stop Level :=
  if (level.given.lookup flag).isSome || !flag.admits value then .error .misuse
  else .ok { level with given := level.given ++ [(flag, value)] }

/-- Takes the flag whose value has not been looked at. -/
def settle (level : Level) : Except Stop Level :=
  match level.pending with
  | some (flag, value) => record { level with pending := none } flag value
  | none => .ok level

/-- Refuses a variable whose value its flag does not admit, unless the flag is given here. -/
def checkEnvironment (level : Level) (environment : String → Option String) (flags : List Flag) :
    Except Stop Unit :=
  let isSound (flag : Flag) : Bool :=
    (level.given.lookup flag).isSome || ((flag.standIn?.bind environment).all flag.admits)
  if flags.all isSound then .ok () else .error .misuse

end Level

/-- The command that was read, and what was given, furthest down first. -/
structure Reading where
  given : List (Flag × String)
  command : (Flag → String) → Task

/-- The value for a flag, by the command line or else by a variable. -/
def valueOf? (environment : String → Option String) (given : List (Flag × String)) (flag : Flag) :
    Option String :=
  given.lookup flag <|> flag.standIn?.bind environment

namespace Grammar

/-- Ends the reading of a command. A group alone is not one, and the flags of a leaf must be
given. -/
def finish (grammar : Grammar) (environment : String → Option String) (level : Level) :
    Except Stop Reading := do
  let level ← level.settle
  level.checkEnvironment environment grammar.flags
  match grammar with
  | .group _ => throw .misuse
  | .leaf flags task =>
    if flags.all fun flag => (valueOf? environment level.given flag).isSome then
      return ⟨level.given, task⟩
    else throw .misuse

/-- Reads the words of a command and those below it. -/
def parse (environment : String → Option String) (grammar : Grammar) (isProgram : Bool)
    (level : Level) : List String → Except Stop Reading
  | [] => grammar.finish environment level
  | word :: rest =>
    match Token.ofText grammar isProgram word with
    | .command below => do
      let reading ← below.parse environment false .start rest
      let level ← level.settle
      level.checkEnvironment environment grammar.flags
      return { reading with given := reading.given ++ level.given }
    | .about => .error (if grammar.tellsAbout rest then .help else .misuse)
    | .help => do
      let _ ← level.settle
      throw .help
    | .version => do
      let _ ← level.settle
      throw .version
    | .closing => if rest.isEmpty then grammar.finish environment level else .error .misuse
    | .flag flag (some value) =>
      if flag.isSwitch then .error .misuse
      else do
        let level ← level.settle
        let level ← level.record flag value
        grammar.parse environment isProgram level rest
    | .flag flag none =>
      if flag.isSwitch then do
        let level ← level.settle
        let level ← level.record flag Flag.switchedOn
        grammar.parse environment isProgram level rest
      else
        match rest with
        | [] => .error .misuse
        | value :: rest =>
          if Token.isDashed value then .error .misuse
          else do
            let level ← level.settle
            grammar.parse environment isProgram { level with pending := some (flag, value) } rest
    | .unknown => .error .misuse

end Grammar

namespace Invocation

/-- What the values for flags say of the settings. -/
def overridesOf (value? : Flag → Option String) : Overrides where
  config := (value? .config).map .mk
  mode := (value? .mode).bind Mode.ofName?
  authority := value? .authority
  elaPort := (value? .elaPort).bind ValueForm.port?
  evaPort := (value? .evaPort).bind ValueForm.port?
  namespaceName := value? .namespaceName
  requestTimeout := (value? .timeout).bind ValueForm.seconds?
  insecure := value? .insecure == some Flag.switchedOn

/-- Reads the command line. -/
def parse (environment : String → Option String) (words : List String) :
    Except Stop Invocation := do
  let reading ← Grammar.program.parse environment true .start words
  let value? := valueOf? environment reading.given
  return ⟨overridesOf value?, reading.command fun flag => (value? flag).getD ""⟩

end Invocation

end EdgeFleet.CommandLine
