import HttpTelemetry.Decimal.Numeral
import HttpTelemetry.Log.Event
import HttpTelemetry.Log.Filter.Pattern

/-!
# Rules of a filter

A rule is written `target[span{field=pattern}]=limit`, where all but one part may be missing. It
is about the events whose target begins with a text and that have a value of a name, and shows them
up to a level. A rule with a span or with a pattern is about what happens during a span instead, a
stretch of work that is marked in the log.
-/

set_option autoImplicit false

namespace HttpTelemetry.Log

/-- The value that a rule asks for: its name, and perhaps a pattern for it. -/
structure FieldCondition where
  name : String
  pattern : Option String := none
  deriving DecidableEq

/-- A rule. Without a limit none of what it is about is shown. -/
structure Rule where
  target : Option String := none
  span : Option String := none
  field : Option FieldCondition := none
  limit : Option Level
  deriving DecidableEq

/-- Why a text is no rule. Positions in a rule are counted from behind the blanks in front of it,
but texts are taken from its very beginning, which can cut a character in two. -/
inductive RuleError where
  | malformed
  | brokenCharacter
  deriving DecidableEq, Repr

namespace Rule

/-- A limit is the word of a level in any case, `off`, or a number from 0, which is off, to 5. -/
def limit? (s : String) : Option (Option Level) :=
  let word := Text.lowerAscii s
  match Decimal.numeralUpTo 5 word with
  | .ok n => some (Level.all.find? fun l => l.detail == n)
  | .error _ =>
    if word = "off" then some none
    else (Level.all.find? fun l => Text.lowerAscii l.text == word).map some

def isStart (c : Char) : Bool := Text.isAlphanumeric c || c == '-' || c == ':' || c == '_'

/-- A condition is a name, or a name and a pattern with an equals sign between them. What follows a
second equals sign does not count. -/
def field? (s : String) : Option FieldCondition :=
  match Text.pieces '=' s with
  | name :: pattern :: _ => if Pattern.isPattern pattern then some ⟨name, some pattern⟩ else none
  | [name] => if name = "" then none else some ⟨name, none⟩
  | [] => none

/-- What a character of a rule belongs to, with the position where it began. -/
inductive Part where
  | nothing
  | word (start : Nat)
  | span (start : Nat)
  | field (start : Nat)
  | afterField
  | afterSpan
  | limit (start : Nat)
  deriving DecidableEq, Repr

def textBetween (text : List Char) (start stop : Nat) : Except RuleError String :=
  match Text.between? start stop text with
  | some cs => .ok (String.ofList cs)
  | none => .error .brokenCharacter

def step (text : List Char) (r : Rule) (part : Part) (position : Nat) (c : Char) :
    Except RuleError (Rule × Part) :=
  match part with
  | .nothing =>
    if c = '[' then .ok (r, .span (position + 1))
    else if isStart c then .ok (r, .word position)
    else .error .malformed
  | .word start =>
    if c = '=' ∨ c = '[' then do
      let target ← textBetween text start position
      let next := if c = '=' then Part.limit (position + 1) else .span (position + 1)
      return ({ r with target := some target }, next)
    else .ok (r, part)
  | .span start =>
    if c = ']' then do
      return ({ r with span := some (← textBetween text start position) }, .afterSpan)
    else if c = '\x7b' then do
      let span ← textBetween text start position
      return ({ r with span := if span = "" then none else some span }, .field (position + 1))
    else .ok (r, part)
  | .field start =>
    if c = '\x7d' then do
      match field? (← textBetween text start position) with
      | some field => return ({ r with field := some field }, .afterField)
      | none => throw .malformed
    else .ok (r, part)
  | .afterField => if c = ']' then .ok (r, .afterSpan) else .error .malformed
  | .afterSpan => if c = '=' then .ok (r, .limit (position + 1)) else .error .malformed
  | .limit _ => .ok (r, part)

/-- Takes in what is left of a rule, which begins at a position. -/
def steps (text : List Char) :
    Rule → Part → Nat → List Char → Except RuleError (Rule × Part)
  | r, part, _, [] => .ok (r, part)
  | r, part, position, c :: rest => do
    let (r, part) ← step text r part position c
    steps text r part (position + c.utf8Size) rest

/-- Ends a rule. A word alone is a limit if it can be one, and else a target. Without a limit a rule
shows everything. -/
def finish (text : List Char) (r : Rule) (part : Part) : Except RuleError Rule :=
  match part with
  | .word start => do
    let word ← textBetween text start (Text.octets text)
    match limit? word with
    | some limit => return { r with limit := limit }
    | none => return { r with target := some word }
  | .limit start => do
    let word ← textBetween text start (Text.octets text)
    if word = "" then return r
    match limit? word with
    | some limit => return { r with limit := limit }
    | none => throw .malformed
  | .afterSpan => .ok r
  | .nothing | .span _ | .field _ | .afterField => .error .malformed

def parse (text : List Char) : Except RuleError Rule := do
  let (r, part) ← steps text { limit := some .trace } .nothing 0 (Text.trimChars text)
  finish text r part

def isAboutSpans (r : Rule) : Bool := r.span.isSome || r.field.any fun f => f.pattern.isSome

def fits (r : Rule) (e : Event) : Bool :=
  !r.isAboutSpans && (r.target.all fun t => t.toList.isPrefixOf e.target.toList) &&
    r.field.all fun f => e.has f.name

def shows (r : Rule) (e : Event) : Bool := r.limit.any fun l => e.level.detail ≤ l.detail

/-- Whether a rule decides about the events that another one is about too: its target is longer, or
as long and it asks for a value. Of two values the one with the greater name counts. -/
def overrules (r other : Rule) : Bool :=
  let rank (r : Rule) : Nat := (r.target.map fun t => t.length + 1).getD 0
  if rank r = rank other then
    match r.field, other.field with
    | some a, some b => b.name ≤ a.name
    | some _, none => true
    | none, some _ => false
    | none, none => true
  else rank other < rank r

end Rule

end HttpTelemetry.Log
