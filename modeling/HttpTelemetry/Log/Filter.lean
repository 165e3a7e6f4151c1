import HttpTelemetry.Log.Filter.Rule

/-!
# Log filters

Which events a log shows. A filter is a list of rules. About an event the most specific rule of
those that are about it decides, and events that no rule is about are not shown. No span is ever
open while the events of this library are logged, so that rules about spans show none of them.
-/

set_option autoImplicit false

namespace HttpTelemetry.Log

/-- Of two rules about the same events the later one counts. -/
abbrev Filter := List Rule

namespace Filter

/-- Shows everything up to a level. -/
def upTo (limit : Level) : Filter := [{ limit := some limit }]

/-- Reads comma-separated rules, of which there may be none. One malformed rule spoils the filter,
and nothing after it is looked at. -/
def parse (s : String) : Except RuleError Filter :=
  ((s.toList.splitOn ',').filter fun part => !part.isEmpty).mapM Rule.parse

/-- Of two rules about an event the one that decides between them. -/
def closer (r : Option Rule) (next : Rule) : Option Rule :=
  match r with
  | some r => if next.overrules r then some next else some r
  | none => some next

def ruleFor? (f : Filter) (e : Event) : Option Rule :=
  (f.filter fun r => r.fits e).foldl closer none

def shows (f : Filter) (e : Event) : Bool := (f.ruleFor? e).any fun r => r.shows e

end Filter

end HttpTelemetry.Log
