import EdgeFleet.CommandLine.Grammar

/-!
# What is told of the command line

The commands with their flags, one to a line, and the flags that all commands take.
-/

namespace EdgeFleet.CommandLine

/-- The name that the program is called by. -/
def programName : String := "edgectl"

/-- The version of the program. -/
def programVersion : String := "0.1.0"

/-- A flag as it is written in a command. -/
def Flag.shown (flag : Flag) : String :=
  if flag.isSwitch then "--" ++ flag.name else "--" ++ flag.name ++ " <" ++ flag.name ++ ">"

namespace Grammar

mutual

/-- The lines for a command, reached by some words, and for those below it. -/
def lines (words : String) : Grammar → List String
  | .leaf flags _ => [" ".intercalate (words :: flags.map Flag.shown)]
  | .group children => linesOfAll words children

/-- The lines for the commands of a group. -/
def linesOfAll (words : String) : List (String × Grammar) → List String
  | [] => []
  | (name, below) :: rest => below.lines (words ++ " " ++ name) ++ linesOfAll words rest

end

end Grammar

/-- What is told of the program. -/
def usage : String :=
  "\n".intercalate
    (["Usage:"] ++ (Grammar.program.lines programName).map ("  " ++ ·) ++
      ["", "All commands take:"] ++ Flag.shared.map ("  " ++ ·.shown)) ++ "\n"

/-- The name of the program with its version. -/
def versionLine : String :=
  programName ++ " " ++ programVersion ++ "\n"

end EdgeFleet.CommandLine
