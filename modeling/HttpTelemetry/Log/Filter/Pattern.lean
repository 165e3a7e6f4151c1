import HttpTelemetry.Log.Filter.Pattern.Reader
import HttpTelemetry.Text.Pieces

/-!
# Patterns of values

Which texts can stand for the values of a field: numbers and regular expressions. The expressions
match without tables of Unicode properties, so that classes by letter, word boundaries and letters
in either case are there for single octets only. And they match nothing that is not UTF-8.
-/

set_option autoImplicit false

namespace HttpTelemetry.Log.Pattern

/-! ### Numbers -/

def digits (cs : List Char) : List Char × List Char :=
  (cs.takeWhile Char.isDigit, cs.dropWhile Char.isDigit)

def dropSign : List Char → List Char
  | '+' :: rest | '-' :: rest => rest
  | cs => cs

def isExponent : List Char → Bool
  | [] => true
  | c :: rest =>
    let (power, rest) := digits (dropSign rest)
    c.toLower == 'e' && !power.isEmpty && rest.isEmpty

/-- Decimals with or without a point and an exponent, and the words for what is no finite number. -/
def isNumber (cs : List Char) : Bool :=
  let cs := dropSign cs
  let (whole, rest) := digits cs
  let (part, rest) :=
    match rest with
    | '.' :: rest => digits rest
    | _ => ([], rest)
  ["inf", "infinity", "nan"].contains (Text.lowerAscii (String.ofList cs)) ||
    (!(whole.isEmpty && part.isEmpty) && isExponent rest)

/-! ### Expressions under settings -/

/-- The settings that decide what is accepted: letters match in either case, and single octets are
matched in the place of characters. -/
structure Settings where
  caseless : Bool := false
  octets : Bool := false

namespace Settings

def after (s : Settings) (letters : List Char) : Settings where
  caseless := settingAfter letters 'i' s.caseless
  octets := !settingAfter letters 'u' (!s.octets)

def accepts (s : Settings) : Item → Bool
  | .literal c isOctet => if s.octets then !isOctet || c.toNat < 0x80 else !s.caseless
  | .shorthand negated => s.octets && !negated
  | .namedClass _ | .property => false
  | .anchor => true
  | .wordBoundary => s.octets

/-- Whether an item can stand in brackets. Octets in brackets are those of ASCII characters. -/
def acceptsMember (s : Settings) : Item → Bool
  | .literal c _ => if s.octets then c.toNat < 0x80 else !s.caseless
  | .shorthand negated => s.octets && !negated
  | .namedClass negated => if s.octets then !negated else !s.caseless
  | .property | .anchor | .wordBoundary => false

mutual

/-- Whether members can stand in brackets. A negated set of octets holds some that are no UTF-8. -/
def acceptsMembers (s : Settings) : Members → Bool
  | .nothing => true
  | .item i => s.acceptsMember i
  | .range first last => s.acceptsMember first && s.acceptsMember last
  | .brackets negated m => !(s.octets && negated) && s.acceptsMembers m
  | .several ms => s.acceptsAllMembers ms
  | .combined left right => s.acceptsMembers left && s.acceptsMembers right

def acceptsAllMembers (s : Settings) : List Members → Bool
  | [] => true
  | m :: rest => s.acceptsMembers m && s.acceptsAllMembers rest

end

mutual

/-- The settings behind an expression; `none` if it is not accepted. -/
def behind? (s : Settings) : Expression → Option Settings
  | .nothing => some s
  | .settings letters => some (s.after letters)
  | .anyCharacter => if s.octets then none else some s
  | .item i => if s.accepts i then some s else none
  | .brackets m => if s.acceptsMembers m then some s else none
  | .repeated e => s.behind? e
  | .group letters e => ((s.after letters).behind? e).map fun _ => s
  | .choice es | .sequence es => s.behindAll? es

def behindAll? (s : Settings) : List Expression → Option Settings
  | [] => some s
  | e :: rest =>
    match s.behind? e with
    | some s => s.behindAll? rest
    | none => none

end

end Settings

/-! ### Patterns -/

def Expression.isAccepted (e : Expression) : Bool :=
  e.height ≤ greatestHeight && (({} : Settings).behind? e).isSome

def isPattern (s : String) : Bool :=
  isNumber s.toList || (Expression.parse? s.toList).any Expression.isAccepted

end HttpTelemetry.Log.Pattern
