import HttpTelemetry.Text.Pieces

/-!
# Paths

Where a file or a directory is: the names on the way to it, from the root or from the directory in
which a program works.
-/

set_option autoImplicit false

namespace HttpTelemetry.Files

/-- The names on the way to a place. The name `..` leads back to the directory around. -/
structure Path where
  absolute : Bool
  names : List String
  deriving DecidableEq

def upward : String := ".."

namespace Path

/-- The path that a text stands for. Empty names and points do not lead anywhere. -/
def parse (s : String) : Path where
  absolute := s.toList.head? == some '/'
  names := (Text.pieces '/' s).filter fun name => name ≠ "" ∧ name ≠ "."

/-- The text of a path without what does not lead anywhere at its end. -/
def trimEnd (s : String) : String :=
  let names := (Text.pieces '/' s).reverse.dropWhile fun name => name = "" ∨ name = "."
  "/".intercalate names.reverse

/-- The path of something in the directory that a path leads to. -/
def below (p : Path) (name : String) : Path := { p with names := p.names ++ [name] }

end Path

def join (directory name : String) : String :=
  if directory = "" ∨ directory.toList.getLast? = some '/' then directory ++ name
  else directory ++ "/" ++ name

end HttpTelemetry.Files
