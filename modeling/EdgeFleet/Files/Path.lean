import EdgeFleet.Files.Fault

/-!
# Paths

A path is kept as it was given, since messages repeat it, and is understood by its parts.
-/

namespace EdgeFleet.Files

/-- The place of a file or directory. -/
structure Path where
  text : String
  deriving Repr, DecidableEq

namespace Path

/-- The part that stands for the top of all places. -/
def top : String := "/"

/-- The part that leads back. -/
def back : String := ".."

/-- Goes one part further; a part may lead back, from the present directory to what is above it. -/
def step (walked : List String) (part : String) : List String :=
  if part = "" || part = "." then walked
  else if part = back then
    match walked.getLast? with
    | none => [back]
    | some last =>
      if last = back then walked ++ [back]
      else if last = top then walked
      else walked.dropLast
  else walked ++ [part]

/-- The names on the way from the present directory, or from the top of all places. -/
def parts (path : Path) : List String :=
  ((path.text.toList.splitOn '/').map String.ofList).foldl step
    (if path.text.startsWith top then [top] else [])

/-- Whether a place is the present directory, or one that it is within. -/
def isAbove (place : List String) : Bool :=
  place = [top] || place.all (· = back)

/-- Whether a place is not within the present directory. -/
def isOutside (place : List String) : Bool :=
  place.head? = some top || place.head? = some back

/-- The place of a name within a directory. -/
def child (path : Path) (name : String) : Path :=
  if path.text.isEmpty || path.text.endsWith "/" then ⟨path.text ++ name⟩
  else ⟨path.text ++ "/" ++ name⟩

/-- Whether a path can be looked up at all. -/
def check (path : Path) : Except Fault Unit :=
  if path.text.toList.contains '\x00' then .error .invalidName
  else if path.text.isEmpty then .error .notFound
  else .ok ()

end Path

end EdgeFleet.Files
