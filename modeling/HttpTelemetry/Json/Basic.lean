/-!
# JSON values

Structured log records and response bodies are JSON. An object is the list of its members. The
members of a log record stand in the order of their names and no name occurs twice; `Fields.put`
keeps both. A response body lists its members in the order in which they are to be written.
-/

set_option autoImplicit false

namespace HttpTelemetry

/-- A JSON value. Whole numbers are kept exactly, apart from floating-point ones. -/
inductive Json where
  | null
  | bool (b : Bool)
  | int (n : Int)
  | float (x : Float)
  | text (s : String)
  | list (items : List Json)
  | object (members : List (String × Json))
  deriving Inhabited

namespace Json

abbrev Fields := List (String × Json)

namespace Fields

def put (fields : Fields) (name : String) (value : Json) : Fields :=
  match fields with
  | [] => [(name, value)]
  | (n, v) :: rest =>
    if name < n then (name, value) :: (n, v) :: rest
    else if name = n then (name, value) :: rest
    else (n, v) :: put rest name value

/-- Sets members one after the other. -/
def putAll (fields : Fields) (news : List (String × Json)) : Fields :=
  news.foldl (fun acc (name, value) => acc.put name value) fields

/-- The members with the given settings, of which a later one replaces an earlier one. -/
def ofList (members : List (String × Json)) : Fields := putAll [] members

def get? (fields : Fields) (name : String) : Option Json := fields.lookup name

@[simp] theorem get?_cons (n : String) (v : Json) (rest : Fields) (name : String) :
    get? ((n, v) :: rest) name = if name = n then some v else get? rest name := by
  by_cases h : name = n
  · simp [get?, h]
  · simp [get?, List.lookup_cons, h, beq_false_of_ne h]

/-- Setting a member changes what is found under its name, and nothing else. -/
theorem get?_put (fields : Fields) (name other : String) (value : Json) :
    (fields.put name value).get? other =
      if other = name then some value else fields.get? other := by
  induction fields with
  | nil => simp [put]
  | cons head rest ih =>
    obtain ⟨n, v⟩ := head
    rw [put]
    split
    · rw [get?_cons]
    · split
      · next _ h => subst h; by_cases hn : other = name <;> simp [hn]
      · next _ h =>
        rw [get?_cons, get?_cons, ih]
        by_cases hn : other = n <;> by_cases hm : other = name <;> simp_all

end Fields

def asText? : Json → Option String
  | .text s => some s
  | _ => none

def asNat? : Json → Option Nat
  | .int n => if 0 ≤ n then some n.toNat else none
  | _ => none

end Json

end HttpTelemetry
