import HttpTelemetry.Config.DotEnv.Lines
import HttpTelemetry.Config.DotEnv.Value
import HttpTelemetry.Config.Environment
import HttpTelemetry.Text.Pieces

/-!
# Settings files

A file of assignments that adds to an environment. Variables that are set already stay as they are.
Lines are taken one after the other, and the first malformed line ends the reading without undoing
what came before it. A value that no variable can have ends the program instead.
-/

set_option autoImplicit false

namespace HttpTelemetry.Config.DotEnv

open Text (isBlank)

/-- What a logical line says: nothing, or that a variable gets a value not evaluated yet. -/
inductive Line where
  | nothing
  | assignment (name : List Char) (value : List Char)
  deriving DecidableEq

def isNameStart (c : Char) : Bool := c.isAlpha || c == '_'

def isNameChar (c : Char) : Bool := c.isAlphanum || c == '_' || c == '.'

def skipBlanks (cs : List Char) : List Char := cs.dropWhile isBlank

def readName (cs : List Char) : Option (List Char × List Char) :=
  match cs with
  | [] => none
  | c :: _ =>
    if isNameStart c then some (cs.takeWhile isNameChar, skipBlanks (cs.dropWhile isNameChar))
    else none

def readEquals : List Char → Option (List Char)
  | '=' :: rest => some (skipBlanks rest)
  | _ => none

/-- The word that may stand in front of an assignment. It is a name like any other if an equals sign
follows it. -/
def exportWord : List Char := ['e', 'x', 'p', 'o', 'r', 't']

/-- Reads a logical line; `none` if it is malformed. -/
def Line.parse? (cs : List Char) : Option Line :=
  let cs := skipBlanks (cs.reverse.dropWhile isBlank).reverse
  if cs.isEmpty || cs.head? = some '#' then some .nothing
  else do
    let (name, rest) ← readName cs
    match readEquals rest with
    | some value => return .assignment name value
    | none =>
      if name = exportWord then
        let (name, rest) ← readName rest
        return .assignment name (← readEquals rest)
      else none

/-- The environment and the values that earlier lines of the file gave. -/
structure Loading where
  environment : Environment
  given : List (String × String) := []

namespace Loading

/-- The value that stands for a name: that of the environment, or else the last one that the file
gave, or else nothing. -/
def lookup (l : Loading) (name : List Char) : List Char :=
  let name := String.ofList name
  match l.environment.text? name with
  | some s => s.toList
  | none => ((l.given.lookup name).getD "").toList

inductive LineError where
  | malformed
  | impossibleValue
  deriving DecidableEq, Repr

/-- The name and the text that a line assigns, if any. -/
def assigned (l : Loading) : Line → Except LineError (Option (String × String))
  | .nothing => .ok none
  | .assignment name value =>
    let text :=
      if value.isEmpty || value.head? = some '#' then some [] else evaluate l.lookup value
    match text with
    | some text => .ok (some (String.ofList name, String.ofList text))
    | none => .error .malformed

def line (l : Loading) (cs : List Char) : Except LineError Loading :=
  match Line.parse? cs with
  | none => .error .malformed
  | some line => do
    match ← l.assigned line with
    | none => return l
    | some (name, text) =>
      match l.environment.setIfUnset name text with
      | some env => return ⟨env, (name, text) :: l.given⟩
      | none => throw .impossibleValue

/-- Takes in lines up to the first malformed one; `none` if one gives a value that no variable can
have. -/
def lines (l : Loading) : List (Option (List Char)) → Option Loading
  | [] => some l
  | none :: _ => some l
  | some cs :: rest =>
    match l.line cs with
    | .ok l => lines l rest
    | .error .malformed => some l
    | .error .impossibleValue => none

end Loading

/-- Where a settings file is looked for: in a directory and then in those around it. -/
def candidates (directory : String) : List String :=
  let parts := (Text.pieces '/' directory).filter (· ≠ "")
  ((List.range (parts.length + 1)).map fun n =>
    String.join ((parts.take n).map ("/" ++ ·)) ++ "/.env").reverse

/-- An environment with what a file adds to it; `none` if the file gives a value that no variable
can have. -/
def load (env : Environment) (file : Option Bytes) : Option Environment :=
  match file with
  | some octets => (Loading.lines ⟨env, []⟩ (logicalLines octets)).map (·.environment)
  | none => some env

end HttpTelemetry.Config.DotEnv
