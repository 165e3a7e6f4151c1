import HttpTelemetry.Text.Bytes

/-!
# Environments

Named values, as a process inherits them. A value that is not well-formed text counts as unset.
-/

set_option autoImplicit false

namespace HttpTelemetry.Config

/-- Variables with their values. Of two variables of one name the first counts. -/
abbrev Environment := List (String × Bytes)

namespace Environment

/-- A variable as it stands in a block: its name, an equals sign and its value. -/
def entry (name : String) (value : Bytes) : Bytes :=
  Bytes.ofText name ++ '='.toUInt8 :: value

/-- What an entry holds behind a name and an equals sign, if it begins with them. -/
def valueIn? (name : String) (entry : Bytes) : Option Bytes :=
  let front := Bytes.ofText name ++ ['='.toUInt8]
  if front.isPrefixOf entry then some (entry.drop front.length) else none

/-- The value of a variable. It is found by the beginning of its entry, so that a name with an
equals sign in it finds a variable whose value begins with the rest of the name. -/
def value? (env : Environment) (name : String) : Option Bytes :=
  env.findSome? fun (n, v) => valueIn? name (entry n v)

/-- The text of a variable, if it is set to one. -/
def text? (env : Environment) (name : String) : Option String :=
  (env.value? name).bind Bytes.toText?

def set (env : Environment) (name value : String) : Environment :=
  (name, Bytes.ofText value) :: env.filter fun (n, _) => n != name

/-- Sets a variable unless it has a text already. No variable can be given a value with a zero
character in it; the answer is then `none`. -/
def setIfUnset (env : Environment) (name value : String) : Option Environment :=
  if (env.text? name).isSome then some env
  else if value.toList.contains '\x00' then none
  else some (env.set name value)

def isName (name : String) : Bool :=
  name != "" && name.toList.all fun c => c != '=' && c != '\x00'

def isValue (value : Bytes) : Bool := value.all (· != 0)

/-- The variables of a block, in which each one reads `name=value` and ends with a zero octet. -/
def ofBlock (block : Bytes) : Environment :=
  (block.splitOn 0).filterMap fun entry =>
    match entry.dropWhile (· != '='.toUInt8) with
    | [] => none
    | _ :: value =>
      (Bytes.toText? (entry.takeWhile (· != '='.toUInt8))).map fun name => (name, value)

section Names

variable {name other : String}

theorem not_mem_ofText_of_name (h : '=' ∉ name.toList) : '='.toUInt8 ∉ Bytes.ofText name :=
  fun hmem => h (Bytes.mem_of_mem_ofText hmem (by decide))

/-- The entry of another variable holds nothing for a name. -/
theorem valueIn?_entry_of_ne (hname : '=' ∉ name.toList) (hother : '=' ∉ other.toList)
    (h : name ≠ other) (value : Bytes) : valueIn? name (entry other value) = none := by
  refine if_neg fun hprefix => h ?_
  obtain ⟨rest, hrest⟩ := List.isPrefixOf_iff_prefix.mp hprefix
  have hnames := congrArg (List.takeWhile (· != '='.toUInt8)) hrest
  have hfront {n : String} (hn : '=' ∉ n.toList) (b : UInt8) (hb : b ∈ Bytes.ofText n) :
      (b != '='.toUInt8) = true :=
    bne_iff_ne.mpr fun he => not_mem_ofText_of_name hn (he ▸ hb)
  rw [entry, List.append_assoc, List.takeWhile_append_of_pos (hfront hname),
    List.takeWhile_append_of_pos (hfront hother)] at hnames
  simpa [Bytes.ofText_inj] using hnames

theorem value?_filter_of_ne (hname : '=' ∉ name.toList) (hother : '=' ∉ other.toList)
    (h : other ≠ name) (env : Environment) :
    value? (env.filter fun (n, _) => n != name) other = env.value? other := by
  induction env with
  | nil => rfl
  | cons first rest ih =>
    obtain ⟨n, v⟩ := first
    by_cases hn : n = name
    · -- What is filtered out holds nothing for the other name.
      subst hn
      simpa [value?, valueIn?_entry_of_ne hother hname h] using ih
    · have hkeep : (n != name) = true := bne_iff_ne.mpr hn
      simp only [List.filter_cons, hkeep, if_true]
      unfold value? at ih ⊢
      rw [List.findSome?_cons, List.findSome?_cons, ih]

/-- Setting a variable leaves all others as they are. -/
theorem text?_set_of_ne (hname : '=' ∉ name.toList) (hother : '=' ∉ other.toList)
    (h : other ≠ name) (env : Environment) (value : String) :
    (env.set name value).text? other = env.text? other := by
  have hvalue : (env.set name value).value? other = env.value? other := by
    rw [← value?_filter_of_ne hname hother h env]
    simp [value?, set, valueIn?_entry_of_ne hother hname h]
  rw [text?, text?, hvalue]

/-- A variable that has a text keeps it, whichever variable is set. -/
theorem text?_of_setIfUnset {env later : Environment} {value text : String}
    (hname : '=' ∉ name.toList) (hother : '=' ∉ other.toList)
    (hset : env.setIfUnset name value = some later) (h : env.text? other = some text) :
    later.text? other = some text := by
  unfold setIfUnset at hset
  split at hset
  next =>
    obtain rfl := Option.some.inj hset
    exact h
  next hunset =>
    split at hset
    next => cases hset
    next =>
      obtain rfl := Option.some.inj hset
      have hne : other ≠ name := by
        rintro rfl
        exact hunset (Option.isSome_of_eq_some h)
      rw [text?_set_of_ne hname hother hne, h]

end Names

end Environment

end HttpTelemetry.Config
