import HttpTelemetry.Log.Filter.Pattern.Expression
import HttpTelemetry.Text.Alphanumeric
import HttpTelemetry.Text.Blank
import HttpTelemetry.Text.Hex

/-!
# Reading regular expressions

Expressions have groups, alternatives, bracketed sets, repetition by one character, anchors and
escapes. No brace can stand in an expression unless it is escaped or in brackets, because nothing
ever closes a count. A setting makes blanks and comments in an expression count for nothing.
-/

set_option autoImplicit false

namespace HttpTelemetry.Log.Pattern

/-! ### Blanks -/

/-- Skips blanks and comments, which reach to the end of their line. -/
def skipBlanks : (inComment : Bool) → List Char → List Char
  | _, [] => []
  | true, c :: rest => skipBlanks (c != '\n') rest
  | false, c :: rest =>
    if Text.isBlank c then skipBlanks false rest
    else if c = '#' then skipBlanks true rest
    else c :: rest

def skip (spaced : Bool) (cs : List Char) : List Char :=
  if spaced then skipBlanks false cs else cs

/-- The first character that is no blank and does not open a comment. -/
def firstSolid? : (inComment : Bool) → List Char → Option Char
  | _, [] => none
  | inComment, c :: rest =>
    if Text.isBlank c then firstSolid? inComment rest
    else if c = '#' ∧ !inComment then firstSolid? true rest
    else some c

/-- The character ahead, as far as a hyphen looks. It does not look past a comment but into it. -/
def ahead? (spaced : Bool) (cs : List Char) : Option Char :=
  if spaced then (firstSolid? false cs).or cs.head? else cs.head?

/-! ### Single characters -/

def hexDigits? (spaced : Bool) : (count : Nat) → List Char → Option (List Nat × List Char)
  | 0, cs => some ([], cs)
  | count + 1, cs =>
    match skip spaced cs with
    | [] => none
    | c :: rest => do
      let d ← Text.hexDigit? c
      let (ds, rest) ← hexDigits? spaced count rest
      return (d :: ds, rest)

/-- Reads the character that a number of hexadecimal digits stands for. -/
def hexCharacter? (spaced : Bool) (count : Nat) (cs : List Char) : Option (Char × List Char) := do
  let (digits, rest) ← hexDigits? spaced count cs
  let n := digits.foldl (fun n d => n * 16 + d) 0
  if h : n.isValidChar then some (Char.ofNatAux n h, rest) else none

/-- Reads what follows a backslash. Any ASCII character but letters, digits and angles stands for
itself. -/
def readEscape (spaced : Bool) : List Char → Option (Item × List Char)
  | [] => none
  | c :: rest =>
    let hex (count : Nat) :=
      (hexCharacter? spaced count rest).map fun (d, rest) => (Item.literal d (c == 'x'), rest)
    if c = 'x' then hex 2
    else if c = 'u' then hex 4
    else if c = 'U' then hex 8
    else if c = 'p' ∨ c = 'P' then some (.property, rest)
    else if c = 'd' ∨ c = 's' ∨ c = 'w' then some (.shorthand false, rest)
    else if c = 'D' ∨ c = 'S' ∨ c = 'W' then some (.shorthand true, rest)
    else if c = 'a' then some (.literal '\x07' false, rest)
    else if c = 'f' then some (.literal '\x0c' false, rest)
    else if c = 't' then some (.literal '\t' false, rest)
    else if c = 'n' then some (.literal '\n' false, rest)
    else if c = 'r' then some (.literal '\r' false, rest)
    else if c = 'v' then some (.literal '\x0b' false, rest)
    else if c = 'A' ∨ c = 'z' then some (.anchor, rest)
    else if c = 'b' ∨ c = 'B' ∨ c = '<' ∨ c = '>' then some (.wordBoundary, rest)
    else if c.toNat < 0x80 ∧ !c.isAlphanum then some (.literal c false, rest)
    else none

def readItem (spaced : Bool) : List Char → Option (Item × List Char)
  | [] => none
  | '\\' :: rest => readEscape spaced rest
  | c :: rest => some (.literal c false, rest)

/-! ### Brackets -/

/-- Open brackets: what the last combination in them has on its left, and the members since then or
since the beginning, the last one first. -/
structure OpenBrackets where
  negated : Bool
  /-- Nothing but hyphens has been read yet. -/
  fresh : Bool := true
  left : Option Members := none
  members : List Members := []

namespace OpenBrackets

def add (b : OpenBrackets) (m : Members) : OpenBrackets := { b with members := m :: b.members }

/-- What has been read. Combinations are read from left to right. -/
def content (b : OpenBrackets) : Members :=
  let right := Members.ofList b.members.reverse
  match b.left with
  | some left => .combined left right
  | none => right

/-- What has been read is the left side of a combination. -/
def combine (b : OpenBrackets) : OpenBrackets := { b with left := some b.content, members := [] }

end OpenBrackets

/-- Names of the classes that can be written between colons inside brackets. -/
def classNames : List String :=
  ["alnum", "alpha", "ascii", "blank", "cntrl", "digit", "graph", "lower", "print", "punct",
    "space", "upper", "word", "xdigit"]

/-- Reads a class by its name, `[:name:]` or negated `[:^name:]`, behind the opening bracket. -/
def readClassName (cs : List Char) : Option (Item × List Char) :=
  match cs with
  | ':' :: rest =>
    let (negated, rest) :=
      match rest with
      | '^' :: rest => (true, rest)
      | _ => (false, rest)
    match rest.dropWhile (· != ':') with
    | ':' :: ']' :: after =>
      if classNames.contains (String.ofList (rest.takeWhile (· != ':'))) then
        some (.namedClass negated, after)
      else none
    | _ => none
  | _ => none

def readOpening (spaced : Bool) (cs : List Char) : OpenBrackets × List Char :=
  match skip spaced cs with
  | '^' :: rest => ({ negated := true }, rest)
  | rest => ({ negated := false }, rest)

/-- Whether a hyphen comes next and what follows it ends a range. -/
def continuesRange (spaced : Bool) : List Char → Bool
  | '-' :: rest => !((ahead? spaced rest).any fun c => c == ']' || c == '-')
  | _ => false

/-- An item as a member. Anchors and word boundaries match no character. -/
def Item.member? : Item → Option Members
  | .anchor | .wordBoundary => none
  | i => some (.item i)

/-- The range between two items, which have to be characters in their order. -/
def rangeBetween? : Item → Item → Option Members
  | .literal a x, .literal b y =>
    if a ≤ b then some (.range (.literal a x) (.literal b y)) else none
  | _, _ => none

def readRange (spaced : Bool) (cs : List Char) : Option (Members × List Char) := do
  let (first, rest) ← readItem spaced cs
  let rest := skip spaced rest
  if continuesRange spaced rest then
    let (last, rest) ← readItem spaced (skip spaced (rest.drop 1))
    return (← rangeBetween? first last, rest)
  else return (← first.member?, rest)

/-- Reads the rest of brackets, of which some are open, the innermost ones first. A hyphen or a
closing bracket right at the beginning stands for itself, and doubled signs combine what stands at
either side of them. Every step takes a character at least, which bounds their number. -/
def readBrackets (spaced : Bool) :
    (steps : Nat) → OpenBrackets → List OpenBrackets → List Char → Option (Members × List Char)
  | 0, _, _, _ => none
  | steps + 1, b, around, cs =>
    let cs := skip spaced cs
    let old := { b with fresh := false }
    let one (c : Char) : Members := .item (.literal c false)
    match cs with
    | [] => none
    | '-' :: rest =>
      if b.fresh then readBrackets spaced steps (b.add (one '-')) around rest
      else
        match rest with
        | '-' :: rest => readBrackets spaced steps old.combine around rest
        | _ => do
          let (m, rest) ← readRange spaced cs
          readBrackets spaced steps (old.add m) around rest
    | ']' :: rest =>
      if b.fresh ∧ b.members.isEmpty then
        readBrackets spaced steps (old.add (one ']')) around rest
      else
        let closed := Members.brackets b.negated b.content
        match around with
        | [] => some (closed, rest)
        | outer :: around => readBrackets spaced steps (outer.add closed) around rest
    | '[' :: rest =>
      match readClassName rest with
      | some (i, rest) => readBrackets spaced steps (old.add (.item i)) around rest
      | none =>
        let (inner, rest) := readOpening spaced rest
        readBrackets spaced steps inner (old :: around) rest
    | '&' :: '&' :: rest | '~' :: '~' :: rest => readBrackets spaced steps old.combine around rest
    | _ => do
      let (m, rest) ← readRange spaced cs
      readBrackets spaced steps (old.add m) around rest

/-! ### Settings and names -/

def settingLetters : List Char := ['i', 'm', 's', 'U', 'u', 'R', 'x']

/-- No letter and no hyphen stands twice, and no hyphen at the end. -/
def areSettings (letters : List Char) : Bool :=
  letters.all (fun c => c == '-' || settingLetters.contains c) && decide letters.Nodup &&
    letters.getLast? != some '-'

def settingAfter (letters : List Char) (c : Char) (before : Bool) : Bool :=
  if (letters.takeWhile (· != '-')).contains c then true
  else if (letters.dropWhile (· != '-')).contains c then false
  else before

def spacedAfter (letters : List Char) (before : Bool) : Bool := settingAfter letters 'x' before

def isNameStart (c : Char) : Bool := c == '_' || Text.isAlphabetic c

def isNameChar (c : Char) : Bool :=
  c == '_' || c == '.' || c == '[' || c == ']' || Text.isAlphanumeric c

def readName (cs : List Char) : Option (List Char × List Char) :=
  let name := cs.takeWhile (· != '>')
  match cs.dropWhile (· != '>') with
  | _ :: rest =>
    if name.head?.any isNameStart && (name.drop 1).all isNameChar then some (name, rest) else none
  | [] => none

/-! ### Groups -/

/-- What has been read of a group: earlier alternatives, and the expressions of the current one. The
last ones come first. -/
structure Branches where
  done : List Expression := []
  current : List Expression := []

namespace Branches

def add (b : Branches) (e : Expression) : Branches := { b with current := e :: b.current }

/-- Begins another alternative. -/
def divide (b : Branches) : Branches := ⟨Expression.ofList b.current.reverse :: b.done, []⟩

def content (b : Branches) : Expression :=
  match b.done with
  | [] => Expression.ofList b.current.reverse
  | _ => .choice b.divide.done.reverse

/-- Repeats what was read last. Settings cannot be repeated. -/
def repeatLast? (b : Branches) : Option Branches :=
  match b.current with
  | [] | .nothing :: _ | .settings _ :: _ => none
  | e :: before => some { b with current := .repeated e :: before }

end Branches

/-- An open group with its settings: what stands before it in the group around it, and whether
blanks count for nothing there. -/
structure OpenGroup where
  before : Branches
  letters : List Char
  spaced : Bool

/-- What has been read of an expression. Names of groups differ from each other. -/
structure Reading where
  inside : Branches := {}
  groups : List OpenGroup := []
  spaced : Bool := false
  names : List (List Char) := []

namespace Reading

def add (r : Reading) (e : Expression) : Reading := { r with inside := r.inside.add e }

def enter (r : Reading) (letters : List Char) : Reading :=
  { r with
    inside := {}
    groups := ⟨r.inside, letters, r.spaced⟩ :: r.groups
    spaced := spacedAfter letters r.spaced }

def leave? (r : Reading) : Option Reading :=
  match r.groups with
  | [] => none
  | g :: groups =>
    some { r with
      inside := g.before.add (.group g.letters r.inside.content)
      groups := groups
      spaced := g.spaced }

/-- Reads what follows an opening parenthesis: a name, settings for the group or for what follows in
the group around, or nothing in particular. There is no looking around. -/
def group? (r : Reading) (cs : List Char) : Option (Reading × List Char) :=
  match skip r.spaced cs with
  | '?' :: rest =>
    match rest with
    | '=' :: _ | '!' :: _ | '<' :: '=' :: _ | '<' :: '!' :: _ => none
    | 'P' :: '<' :: rest | '<' :: rest => do
      let (name, rest) ← readName rest
      if r.names.contains name then none
      else some ({ r with names := name :: r.names }.enter [], rest)
    | _ =>
      let letters := rest.takeWhile fun c => c != ':' && c != ')'
      if !areSettings letters then none
      else
        match rest.dropWhile fun c => c != ':' && c != ')' with
        | ':' :: rest => some (r.enter letters, rest)
        | ')' :: rest =>
          if letters.isEmpty then none
          else
            some ({ r with spaced := spacedAfter letters r.spaced }.add (.settings letters), rest)
        | _ => none
  | rest => some (r.enter [], rest)

/-- Reads one thing. A question mark right behind a repetition makes it a reluctant one. -/
def next? (r : Reading) (cs : List Char) : Option (Reading × List Char) :=
  match cs with
  | [] => none
  | '(' :: rest => r.group? rest
  | ')' :: rest => r.leave?.map fun r => (r, rest)
  | '|' :: rest => some ({ r with inside := r.inside.divide }, rest)
  | '[' :: rest => do
    let (b, rest) := readOpening r.spaced rest
    let (m, rest) ← readBrackets r.spaced (rest.length + 1) b [] rest
    return (r.add (.brackets m), rest)
  | '?' :: rest | '*' :: rest | '+' :: rest => do
    let inside ← r.inside.repeatLast?
    let rest :=
      match rest with
      | '?' :: rest => rest
      | _ => rest
    return ({ r with inside := inside }, rest)
  | '\x7b' :: _ => none
  | '.' :: rest => some (r.add .anyCharacter, rest)
  | '^' :: rest | '$' :: rest => some (r.add (.item .anchor), rest)
  | _ => (readItem r.spaced cs).map fun (i, rest) => (r.add (.item i), rest)

/-- Reads the rest of an expression. Every step takes a character at least, which bounds their
number. -/
def rest? : (steps : Nat) → Reading → List Char → Option Expression
  | 0, _, _ => none
  | steps + 1, r, cs =>
    match skip r.spaced cs with
    | [] => if r.groups.isEmpty then some r.inside.content else none
    | cs =>
      match r.next? cs with
      | some (r, rest) => rest? steps r rest
      | none => none

end Reading

def Expression.parse? (cs : List Char) : Option Expression := Reading.rest? (cs.length + 1) {} cs

end HttpTelemetry.Log.Pattern
