import EdgeFleet.Bytes

/-!
# Failures of file access
-/

namespace EdgeFleet.Files

/-- Why a file or directory could not be read or written. -/
inductive Fault where
  | notFound
  | permissionDenied
  | alreadyExists
  | notADirectory
  | isADirectory
  | directoryNotEmpty
  | invalidName
  /-- The content is not text. -/
  | notText
  /-- Any other reason, in the words of the system. -/
  | other (text : String)
  deriving Repr, DecidableEq, Inhabited

namespace Fault

/-- The words for a failure. -/
def message : Fault → String
  | .notFound => "No such file or directory (os error 2)"
  | .permissionDenied => "Permission denied (os error 13)"
  | .alreadyExists => "File exists (os error 17)"
  | .notADirectory => "Not a directory (os error 20)"
  | .isADirectory => "Is a directory (os error 21)"
  | .directoryNotEmpty => "Directory not empty (os error 39)"
  | .invalidName => "file name contained an unexpected NUL byte"
  | .notText => "stream did not contain valid UTF-8"
  | .other text => text

end Fault

/-- The content of a file as text. -/
def text (content : Bytes) : Except Fault String :=
  match content.text? with
  | some text => .ok text
  | none => .error .notText

end EdgeFleet.Files
