import HttpTelemetry.Text.Alphanumeric

/-!
# Assigned values

The value of an assignment: text with quotes, escapes and names that stand for other values. Inside
single quotes everything is literal; a name is written `$NAME` or with braces around it.
-/

set_option autoImplicit false

namespace HttpTelemetry.Config.DotEnv

/-- What the next character of a value belongs to. A name comes with the part of it that has been
read, its last character in front. -/
inductive ValueMode where
  | literal
  | escape
  | single
  | name (read : List Char)
  | braced (read : List Char)
  | ended
  deriving DecidableEq

def escaped? (c : Char) : Option Char :=
  if c = '\\' ∨ c = '\'' ∨ c = '"' ∨ c = '$' ∨ c = ' ' then some c
  else if c = 'n' then some '\n'
  else none

/-- What is left to give at the end of a value. Quotes and braces have to be closed by then. -/
def atEnd (lookup : List Char → List Char) (double : Bool) : ValueMode → Option (List Char)
  | .single | .braced _ => none
  | .name name => if double then none else some (lookup name.reverse)
  | .literal | .escape | .ended => if double then none else some []

/-- The text that the rest of a value gives, where double quotes may be open. After an unquoted
blank only blanks and a comment may follow; the character that ends a name stands for itself, unless
it begins another name. -/
def valueText (lookup : List Char → List Char) :
    ValueMode → (double : Bool) → List Char → Option (List Char)
  | mode, double, [] => atEnd lookup double mode
  | .ended, double, c :: rest =>
    if c = ' ' ∨ c = '\t' then valueText lookup .ended double rest
    else if c = '#' then some []
    else none
  | .escape, double, c :: rest => do
    let e ← escaped? c
    return e :: (← valueText lookup .literal double rest)
  | .single, double, c :: rest =>
    if c = '\'' then valueText lookup .literal double rest
    else (valueText lookup .single double rest).map (c :: ·)
  | .name name, double, c :: rest =>
    if Text.isAlphanumeric c then valueText lookup (.name (c :: name)) double rest
    else if c = '\x7b' ∧ name = [] then valueText lookup (.braced []) double rest
    else if c = '$' then (valueText lookup (.name []) double rest).map (lookup name.reverse ++ ·)
    else (valueText lookup .literal double rest).map (lookup name.reverse ++ c :: ·)
  | .braced name, double, c :: rest =>
    if c = '\x7d' then (valueText lookup .literal double rest).map (lookup name.reverse ++ ·)
    else valueText lookup (.braced (c :: name)) double rest
  | .literal, double, c :: rest =>
    if c = '$' then valueText lookup (.name []) double rest
    else if c = '\\' then valueText lookup .escape double rest
    else if c = '"' then valueText lookup .literal (!double) rest
    else if double then (valueText lookup .literal double rest).map (c :: ·)
    else if c = '\'' then valueText lookup .single double rest
    else if c = ' ' ∨ c = '\t' then valueText lookup .ended double rest
    else (valueText lookup .literal double rest).map (c :: ·)

/-- The text that a value gives, with the values of names looked up. -/
def evaluate (lookup : List Char → List Char) (cs : List Char) : Option (List Char) :=
  valueText lookup .literal false cs

end HttpTelemetry.Config.DotEnv
