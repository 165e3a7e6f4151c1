import HttpTelemetry.Proofs.Config.Reader
import HttpTelemetry.Proofs.Decimal.Numeral
import HttpTelemetry.Proofs.Text.Trimmed

/-!
# Which environments are accepted

Six variables have values that can be refused. An environment is accepted if none of them has such a
value, and otherwise the first of them, in a fixed order, decides the error.
-/

set_option autoImplicit false

namespace HttpTelemetry.Config

open Text (Trimmed isBlank lowerAscii pieces trim)

/-! ### Values that are not refused -/

inductive Variable where
  | port
  | logFormat
  | metricsPort
  | apiKeys
  | apiProvider
  | statsdAddress

/-- An entry `key=name`, with blanks around both at will. -/
def IsKeyEntry (entry : String) : Prop :=
  ∃ key name, entry = key ++ "=" ++ name ∧ '=' ∉ key.toList ∧
    trim key ≠ "" ∧ ' ' ∉ (trim key).toList ∧ trim name ≠ ""

namespace Variable

def name : Variable → String
  | port => "PORT"
  | logFormat => "LOG_FORMAT"
  | metricsPort => "METRICS_PORT"
  | apiKeys => "API_KEYS"
  | apiProvider => "API_PROVIDER"
  | statsdAddress => "STATSD_ADDR"

/-- The order in which variables are checked. -/
def all : List Variable := [port, logFormat, metricsPort, apiKeys, apiProvider, statsdAddress]

def Admits : Variable → String → Prop
  | port, s | metricsPort, s => ∃ n, Decimal.Denotes s n ∧ n ≤ 65535
  | logFormat, s => lowerAscii (trim s) ∈ ["", "text", "json"]
  | apiKeys, s => ∀ piece ∈ pieces ',' s, (∀ c ∈ piece.toList, isBlank c = true) ∨ IsKeyEntry piece
  | apiProvider, s => s ≠ "" ∧ ' ' ∉ s.toList
  | statsdAddress, s => (∀ c ∈ s.toList, isBlank c = true) ∨ ':' ∈ s.toList

/-- Every variable may be unset. -/
def Accepts (v : Variable) (env : Environment) : Prop :=
  ∀ s, env.text? v.name = some s → v.Admits s

end Variable

/-- The name of the variable that an error is about. -/
def SettingError.about : SettingError → String
  | .number name _ => name
  | .logFormat _ => "LOG_FORMAT"
  | .keyWithoutName | .keyEntry _ => "API_KEYS"
  | .provider _ => "API_PROVIDER"
  | .statsdAddress _ => "STATSD_ADDR"

/-! ### Failures of one variable -/

section Entries

variable {entry : String}

/-- It makes no difference whether an entry is trimmed before it is cut. -/
theorem parseKeyEntry_trim (entry : String) : parseKeyEntry (trim entry) = parseKeyEntry entry := by
  by_cases hmem : '=' ∈ entry.toList
  · obtain ⟨front, back, rfl, hfront⟩ := Text.exists_eq_append_of_mem hmem
    obtain ⟨front', back', htrim, htrimFront, htrimBack, hsub⟩ :=
      Text.exists_trim_append (c := '=') (by decide) front back
    have hfront' : '=' ∉ front'.toList := fun h => hfront (hsub '=' h)
    have hparts : parseKeyEntry (front' ++ "=" ++ back') = parseKeyEntry (front ++ "=" ++ back) := by
      rw [parseKeyEntry_append hfront', parseKeyEntry_append hfront, htrimFront, htrimBack]
    rw [htrim]
    exact hparts
  · have htrim : '=' ∉ (trim entry).toList := fun h => hmem (Text.mem_of_mem_trim h)
    rw [parseKeyEntry_of_not_mem hmem, parseKeyEntry_of_not_mem htrim]

theorem failure?_parseKeyEntry_eq_none_iff :
    failure? (parseKeyEntry entry) = none ↔ IsKeyEntry entry := by
  rw [failure?_eq_none_iff, Prod.exists, IsKeyEntry]
  simp only [parseKeyEntry_eq_ok_iff]
  constructor
  · rintro ⟨-, -, front, back, hentry, hfront, hgood, rfl, rfl⟩
    exact ⟨front, back, hentry, hfront, hgood⟩
  · rintro ⟨front, back, hentry, hfront, hgood⟩
    exact ⟨trim front, trim back, front, back, hentry, hfront, hgood, rfl, rfl⟩

theorem about_of_parseKeyEntry {e : SettingError} (h : failure? (parseKeyEntry entry) = some e) :
    e.about = "API_KEYS" := by
  rw [failure?_eq_some_iff, parseKeyEntry] at h
  split at h
  next =>
    cases h
    rfl
  next =>
    dsimp only at h
    split at h
    next =>
      cases h
      rfl
    next => cases h

end Entries

def providerFailure? (provider : String) : Option SettingError :=
  if provider = "" ∨ ' ' ∈ provider.toList then some (.provider provider) else none

def addressFailure? (address : String) : Option SettingError :=
  if ':' ∈ address.toList then none else some (.statsdAddress address)

/-- Why a variable's value is refused. -/
def Variable.failure? (env : Environment) : Variable → Option SettingError
  | port => HttpTelemetry.failure? (readPort env "PORT" 3000)
  | logFormat => HttpTelemetry.failure? (readLogFormat env)
  | metricsPort => HttpTelemetry.failure? (readPort env "METRICS_PORT" 9090)
  | apiKeys => HttpTelemetry.failure? (parseKeys ((env.text? "API_KEYS").getD ""))
  | apiProvider => providerFailure? ((env.text? "API_PROVIDER").getD "Service")
  | statsdAddress => (readOptional env "STATSD_ADDR").bind addressFailure?

section Values

variable {env : Environment} {name : String} {default : UInt16} {e : SettingError}

theorem failure?_readPort_eq_none_iff :
    failure? (readPort env name default) = none ↔
      ∀ s, env.text? name = some s → ∃ n, Decimal.Denotes s n ∧ n ≤ 65535 := by
  unfold readPort
  cases env.text? name with
  | none => simp [failure?]
  | some s =>
    simp only [← Decimal.numeralUpTo_eq_ok_iff, Option.some.injEq, forall_eq']
    cases Decimal.numeralUpTo 65535 s with
    | ok n => simp [failure?]
    | error cause => simp [failure?]

theorem about_of_readPort (h : failure? (readPort env name default) = some e) : e.about = name := by
  rw [failure?_eq_some_iff, readPort] at h
  split at h
  next => cases h
  next =>
    split at h
    next => cases h
    next =>
      cases h
      rfl

theorem failure?_readLogFormat_eq_none_iff :
    failure? (readLogFormat env) = none ↔
      ∀ s, env.text? "LOG_FORMAT" = some s → lowerAscii (trim s) ∈ ["", "text", "json"] := by
  unfold readLogFormat
  cases env.text? "LOG_FORMAT" with
  | none => simp [failure?]
  | some s =>
    simp only [failure?_mapError, LogFormat.parse, Option.some.injEq, forall_eq']
    generalize lowerAscii (trim s) = word
    split
    next hword =>
      rcases hword with rfl | rfl
      · simp [failure?]
      · simp [failure?]
    next htext =>
      split
      next hjson => simp [failure?, hjson]
      next hjson => simp [failure?, not_or.mp htext, hjson]

theorem about_of_readLogFormat (h : failure? (readLogFormat env) = some e) :
    e.about = "LOG_FORMAT" := by
  unfold readLogFormat at h
  split at h
  next => cases h
  next =>
    rw [failure?_mapError] at h
    obtain ⟨word, -, rfl⟩ := Option.map_eq_some_iff.mp h
    rfl

theorem failure?_parseKeys_eq_none_iff {s : String} :
    failure? (parseKeys s) = none ↔
      ∀ piece ∈ pieces ',' s, (∀ c ∈ piece.toList, isBlank c = true) ∨ IsKeyEntry piece := by
  rw [parseKeys, failure?_mapM, List.findSome?_eq_none_iff]
  simp only [Text.mem_entries_iff]
  constructor
  · intro h piece hpiece
    rw [← Text.trim_eq_empty_iff, or_iff_not_imp_left, ← failure?_parseKeyEntry_eq_none_iff,
      ← parseKeyEntry_trim]
    exact fun hne => h (trim piece) ⟨hne, piece, hpiece, rfl⟩
  · rintro h _ ⟨hne, piece, hpiece, rfl⟩
    rw [parseKeyEntry_trim, failure?_parseKeyEntry_eq_none_iff]
    exact (h piece hpiece).resolve_left (mt Text.trim_eq_empty_iff.mpr hne)

theorem about_of_parseKeys {s : String} (h : failure? (parseKeys s) = some e) :
    e.about = "API_KEYS" := by
  rw [parseKeys, failure?_mapM] at h
  obtain ⟨entry, -, hentry⟩ := List.exists_of_findSome?_eq_some h
  exact about_of_parseKeyEntry hentry

theorem readOptional_eq_some_iff {value : String} :
    readOptional env name = some value ↔
      value ≠ "" ∧ ∃ s, env.text? name = some s ∧ trim s = value := by
  rw [readOptional, Option.filter_eq_some_iff, Option.map_eq_some_iff, decide_eq_true_eq, and_comm]

theorem providerFailure?_eq_none_iff {provider : String} :
    providerFailure? provider = none ↔ provider ≠ "" ∧ ' ' ∉ provider.toList := by
  rw [providerFailure?, ite_eq_right_iff, ← not_or]
  simp

theorem addressFailure?_eq_none_iff {address : String} :
    addressFailure? address = none ↔ ':' ∈ address.toList := by
  rw [addressFailure?, ite_eq_left_iff]
  simp

theorem failure?_check (s : Settings) :
    failure? s.check =
      (providerFailure? s.apiProvider).or (s.statsdAddress.bind addressFailure?) := by
  unfold Settings.check providerFailure?
  split
  next => rfl
  next =>
    cases s.statsdAddress with
    | none => rfl
    | some address =>
      by_cases h : ':' ∈ address.toList
      · simp [addressFailure?, failure?, h]
      · simp [addressFailure?, failure?, h]

end Values

/-! ### All variables -/

section Environments

variable {env : Environment} {v : Variable} {e : SettingError}

theorem Variable.failure?_eq_none_iff : v.failure? env = none ↔ v.Accepts env := by
  cases v with
  | port => exact failure?_readPort_eq_none_iff
  | logFormat => exact failure?_readLogFormat_eq_none_iff
  | metricsPort => exact failure?_readPort_eq_none_iff
  | apiKeys =>
    rw [failure?, failure?_parseKeys_eq_none_iff]
    show _ ↔ ∀ s, env.text? "API_KEYS" = some s → _
    cases env.text? "API_KEYS" with
    | none => simp [pieces]
    | some s => simp [Admits]
  | apiProvider =>
    rw [failure?, providerFailure?_eq_none_iff]
    show _ ↔ ∀ s, env.text? "API_PROVIDER" = some s → _
    cases env.text? "API_PROVIDER" with
    | none => simp
    | some s => simp [Admits]
  | statsdAddress =>
    rw [failure?, Option.bind_eq_none_iff]
    simp only [readOptional_eq_some_iff, addressFailure?_eq_none_iff]
    constructor
    · intro h s hs
      have hcolon : trim s ≠ "" → ':' ∈ (trim s).toList := fun hne => h (trim s) ⟨hne, s, hs, rfl⟩
      rwa [Text.mem_trim_iff (by decide), Ne, Text.trim_eq_empty_iff, ← or_iff_not_imp_left]
        at hcolon
    · rintro h _ ⟨hne, s, hs, rfl⟩
      rw [Text.mem_trim_iff (by decide)]
      exact (h s hs).resolve_left (mt Text.trim_eq_empty_iff.mpr hne)

theorem Variable.about_of_failure? (h : v.failure? env = some e) : e.about = v.name := by
  cases v with
  | port => exact about_of_readPort h
  | logFormat => exact about_of_readLogFormat h
  | metricsPort => exact about_of_readPort h
  | apiKeys => exact about_of_parseKeys h
  | apiProvider =>
    obtain ⟨-, he⟩ := Option.ite_none_right_eq_some.mp h
    cases he
    rfl
  | statsdAddress =>
    obtain ⟨address, -, haddress⟩ := Option.bind_eq_some_iff.mp h
    obtain ⟨-, he⟩ := Option.ite_none_left_eq_some.mp haddress
    cases he
    rfl

/-- The first variable that fails decides the error. -/
theorem failure?_ofEnvironment (env : Environment) :
    failure? (Settings.ofEnvironment env) = Variable.all.findSome? (Variable.failure? env) := by
  have hcons (v : Variable) (rest : List Variable) :
      (v :: rest).findSome? (Variable.failure? env) =
        (v.failure? env).or (rest.findSome? (Variable.failure? env)) := by
    rw [List.findSome?_cons]
    cases v.failure? env with
    | none => rfl
    | some e => rfl
  simp only [Variable.all, hcons, List.findSome?_nil, Option.or_none]
  -- No later failure hangs on what was read before, not even that of the check at the end.
  refine failure?_bind fun port => ?_
  refine failure?_bind fun logFormat => ?_
  refine failure?_bind fun metricsPort => ?_
  refine failure?_bind fun apiKeys => ?_
  refine (failure?_bind fun _ => rfl).trans ?_
  rw [failure?_check]
  exact Option.or_none

theorem failure?_ofEnvironment_eq_none_iff (env : Environment) :
    failure? (Settings.ofEnvironment env) = none ↔ ∀ v ∈ Variable.all, v.Accepts env := by
  rw [failure?_ofEnvironment, List.findSome?_eq_none_iff]
  simp only [Variable.failure?_eq_none_iff]

/-- The message of an error names the variable. -/
theorem SettingError.exists_message_eq (e : SettingError) :
    ∃ front back, e.message = front ++ e.about ++ back := by
  have hnamed {front name back text : String} (h : front ++ name ++ back = text) (given : String) :
      ∃ front back, text ++ given = front ++ name ++ back :=
    ⟨front, back ++ given, by rw [← h, String.append_assoc]⟩
  have hquoted {front name back text : String} (h : front ++ name ++ back = text) (given : String) :
      ∃ front back, text ++ given ++ "'" = front ++ name ++ back := by
    rw [String.append_assoc]
    exact hnamed h (given ++ "'")
  have hlogFormat : "Invalid " ++ "LOG_FORMAT" ++ ": " = "Invalid LOG_FORMAT: " := by
    decide +kernel
  have hkeys : "" ++ "API_KEYS" ++ " entries must be key=name" =
    "API_KEYS entries must be key=name" := by decide +kernel
  have hentry : "Invalid " ++ "API_KEYS" ++ " entry for client '" =
    "Invalid API_KEYS entry for client '" := by decide +kernel
  have hprovider : "" ++ "API_PROVIDER" ++ " must be a single non-empty token, got '" =
    "API_PROVIDER must be a single non-empty token, got '" := by decide +kernel
  have haddress : "" ++ "STATSD_ADDR" ++ " must be host:port, got '" =
    "STATSD_ADDR must be host:port, got '" := by decide +kernel
  cases e with
  | number name cause => exact ⟨"Invalid ", ": " ++ cause.message, String.append_assoc⟩
  | logFormat given => exact hnamed hlogFormat (logFormatMessage given)
  | keyWithoutName => exact ⟨"", " entries must be key=name", hkeys.symm⟩
  | keyEntry client => exact hquoted hentry client
  | provider given => exact hquoted hprovider given
  | statsdAddress given => exact hquoted haddress given

end Environments

/-! ### Accepted settings -/

/-- What is read from lists and from variables that may be blank has no blanks at its ends and no
separators inside. -/
structure Settings.Tidy (s : Settings) : Prop where
  address : ∀ a, s.statsdAddress = some a → a ≠ "" ∧ Trimmed a
  directory : ∀ d, s.healthdDirectory = some d → d ≠ "" ∧ Trimmed d
  tags : ∀ tag ∈ s.statsdTags, tag ≠ "" ∧ Trimmed tag ∧ ',' ∉ tag.toList
  keys : ∀ key name, (key, name) ∈ s.apiKeys →
    key ≠ "" ∧ Trimmed key ∧ ' ' ∉ key.toList ∧ ',' ∉ key.toList ∧ '=' ∉ key.toList
  names : ∀ key name, (key, name) ∈ s.apiKeys → name ≠ "" ∧ Trimmed name ∧ ',' ∉ name.toList

section Settings

variable {env : Environment} {s : Settings}

theorem trimmed_of_readOptional {name value : String} (h : readOptional env name = some value) :
    value ≠ "" ∧ Trimmed value := by
  obtain ⟨hne, given, -, rfl⟩ := readOptional_eq_some_iff.mp h
  exact ⟨hne, Text.trimmed_trim given⟩

theorem tidy_of_ofEnvironment (h : Settings.ofEnvironment env = .ok s) : s.Tidy := by
  have hkeys := (Settings.ofEnvironment_eq_ok h).1
  obtain ⟨port, -, h⟩ := exists_of_bind_eq_ok h
  obtain ⟨logFormat, -, h⟩ := exists_of_bind_eq_ok h
  obtain ⟨metricsPort, -, h⟩ := exists_of_bind_eq_ok h
  obtain ⟨apiKeys, -, h⟩ := exists_of_bind_eq_ok h
  obtain ⟨⟨⟩, -, h⟩ := exists_of_bind_eq_ok h
  obtain rfl := Except.ok.inj h
  constructor
  case address => exact fun a ha => trimmed_of_readOptional ha
  case directory => exact fun d hd => trimmed_of_readOptional hd
  case tags => exact fun tag htag => Text.trimmed_of_mem_entries htag
  case keys =>
    intro key name hmem
    obtain ⟨front, back, hequals, hcomma, ⟨hne, hspace, -⟩, rfl, -⟩ :=
      exists_of_mem_parseKeys hkeys hmem
    rw [String.toList_append, List.mem_append, not_or] at hcomma
    exact ⟨hne, Text.trimmed_trim front, hspace, mt Text.mem_of_mem_trim hcomma.1,
      mt Text.mem_of_mem_trim hequals⟩
  case names =>
    intro key name hmem
    obtain ⟨front, back, -, hcomma, ⟨-, -, hne⟩, -, rfl⟩ := exists_of_mem_parseKeys hkeys hmem
    rw [String.toList_append, List.mem_append, not_or] at hcomma
    exact ⟨hne, Text.trimmed_trim back, mt Text.mem_of_mem_trim hcomma.2⟩

end Settings

/-- An environment is accepted if and only if no variable has a value that is refused. Otherwise the
first such variable is named by the error. Accepted settings are tidy. -/
theorem accepted_iff_admitted (env : Environment) :
    ((∃ s, Settings.ofEnvironment env = .ok s) ↔ ∀ v ∈ Variable.all, v.Accepts env) ∧
    (∀ e, Settings.ofEnvironment env = .error e →
      ∃ earlier v later, Variable.all = earlier ++ v :: later ∧
        (∀ w ∈ earlier, w.Accepts env) ∧ ¬ v.Accepts env ∧
        e.about = v.name ∧ e.toAppError = .config e.message ∧
        ∃ front back, e.message = front ++ v.name ++ back) ∧
    ∀ s, Settings.ofEnvironment env = .ok s → s.Tidy := by
  refine ⟨?_, ?_, fun s h => tidy_of_ofEnvironment h⟩
  · rw [← failure?_eq_none_iff, failure?_ofEnvironment, List.findSome?_eq_none_iff]
    simp only [Variable.failure?_eq_none_iff]
  · intro e h
    rw [← failure?_eq_some_iff, failure?_ofEnvironment, List.findSome?_eq_some_iff] at h
    obtain ⟨earlier, v, later, hall, hv, hearlier⟩ := h
    have habout := Variable.about_of_failure? hv
    refine ⟨earlier, v, later, hall, ?_, ?_, habout, rfl, habout ▸ e.exists_message_eq⟩
    · exact fun w hw => Variable.failure?_eq_none_iff.mp (hearlier w hw)
    · rw [← Variable.failure?_eq_none_iff, hv]
      exact Option.some_ne_none e

example : Settings.ofEnvironment
    [("API_KEYS", Bytes.ofText "a b=c"), ("METRICS_PORT", Bytes.ofText " 9090"),
      ("LOG_FORMAT", Bytes.ofText " JSON ")] = .error (.number "METRICS_PORT" .invalidDigit) := by
  decide +kernel

end HttpTelemetry.Config
