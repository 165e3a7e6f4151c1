/-!
# Regular expressions

The structure of a regular expression, as far as it decides whether the expression is accepted: what
it matches is not kept where it makes no difference.
-/

set_option autoImplicit false

namespace HttpTelemetry.Log.Pattern

inductive Item where
  /-- A character. An octet is one that is given by two hexadecimal digits. -/
  | literal (c : Char) (isOctet : Bool)
  /-- A class of characters that is written with a letter. -/
  | shorthand (negated : Bool)
  /-- A class of ASCII characters that is written with its name. -/
  | namedClass (negated : Bool)
  /-- A Unicode property. -/
  | property
  /-- The beginning or the end of a text or a line. -/
  | anchor
  | wordBoundary
  deriving DecidableEq

inductive Members where
  | nothing
  | item (i : Item)
  | range (first last : Item)
  | brackets (negated : Bool) (members : Members)
  | several (all : List Members)
  /-- What two sets have in common, or in what they differ. -/
  | combined (left right : Members)

/-- A regular expression. Settings are letters with a hyphen in front of those that are switched
off; those of a group hold in the group, all others up to the end of the group around them. -/
inductive Expression where
  | nothing
  | settings (letters : List Char)
  | anyCharacter
  | item (i : Item)
  | brackets (members : Members)
  | repeated (e : Expression)
  | group (letters : List Char) (e : Expression)
  | choice (all : List Expression)
  | sequence (all : List Expression)

/-! ### Putting together -/

def Members.ofList : List Members → Members
  | [] => .nothing
  | [m] => m
  | ms => .several ms

/-- Expressions one after the other. -/
def Expression.ofList : List Expression → Expression
  | [] => .nothing
  | [e] => e
  | es => .sequence es

/-! ### Height -/

mutual

/-- How deeply brackets, their combinations and members side by side are nested. -/
def Members.height : Members → Nat
  | .nothing | .item _ | .range _ _ => 0
  | .brackets _ m => m.height + 1
  | .several ms => heightOfMembers ms + 1
  | .combined left right => max left.height right.height + 1

def heightOfMembers : List Members → Nat
  | [] => 0
  | m :: rest => max m.height (heightOfMembers rest)

end

mutual

def Expression.height : Expression → Nat
  | .nothing | .settings _ | .anyCharacter | .item _ => 0
  | .brackets m => m.height
  | .repeated e | .group _ e => e.height + 1
  | .choice es | .sequence es => heightOfExpressions es + 1

def heightOfExpressions : List Expression → Nat
  | [] => 0
  | e :: rest => max e.height (heightOfExpressions rest)

end

/-- The height up to which expressions are accepted. -/
def greatestHeight : Nat := 250

end HttpTelemetry.Log.Pattern
