import HttpTelemetry.AppError
import HttpTelemetry.Config.Basic
import HttpTelemetry.Config.Environment
import HttpTelemetry.Decimal.Numeral
import HttpTelemetry.Text.Pieces

/-!
# Settings from an environment

Each variable has a form of its own. The variables are read in a fixed order and the first one that
is malformed decides the error; what remains to be checked is checked at the end.
-/

set_option autoImplicit false

namespace HttpTelemetry.Config

open Decimal (NumeralError)

inductive SettingError where
  | number (name : String) (cause : NumeralError)
  | logFormat (given : String)
  | keyWithoutName
  | keyEntry (client : String)
  | provider (given : String)
  | statsdAddress (given : String)
  deriving DecidableEq, Repr

def logFormatMessage (given : String) : String :=
  "expected 'text' or 'json', got '" ++ given ++ "'"

def SettingError.message : SettingError → String
  | .number name cause => "Invalid " ++ name ++ ": " ++ cause.message
  | .logFormat given => "Invalid LOG_FORMAT: " ++ logFormatMessage given
  | .keyWithoutName => "API_KEYS entries must be key=name"
  | .keyEntry client => "Invalid API_KEYS entry for client '" ++ client ++ "'"
  | .provider given => "API_PROVIDER must be a single non-empty token, got '" ++ given ++ "'"
  | .statsdAddress given => "STATSD_ADDR must be host:port, got '" ++ given ++ "'"

def SettingError.toAppError (e : SettingError) : AppError := .config e.message

/-- A log format, in any case and between any blanks; nothing at all means text. The error is the
word that was found. -/
def LogFormat.parse (s : String) : Except String LogFormat :=
  let word := Text.lowerAscii (Text.trim s)
  if word = "text" ∨ word = "" then .ok .text
  else if word = "json" then .ok .json
  else .error word

def LogFormat.name : LogFormat → String
  | .text => "text"
  | .json => "json"

def readPort (env : Environment) (name : String) (default : UInt16) : Except SettingError UInt16 :=
  match env.text? name with
  | none => .ok default
  | some s =>
    match Decimal.numeralUpTo 65535 s with
    | .ok n => .ok n.toUInt16
    | .error cause => .error (.number name cause)

def readLogFormat (env : Environment) : Except SettingError LogFormat :=
  match env.text? "LOG_FORMAT" with
  | none => .ok .text
  | some s => (LogFormat.parse s).mapError .logFormat

/-- A variable that counts as unset if it is blank. -/
def readOptional (env : Environment) (name : String) : Option String :=
  ((env.text? name).map Text.trim).filter (· ≠ "")

/-- An entry `key=name`. Blanks around both are dropped; neither may be empty, and a key has no
space inside. -/
def parseKeyEntry (entry : String) : Except SettingError (String × String) :=
  match Text.cutFirst? '=' entry with
  | none => .error .keyWithoutName
  | some (key, name) =>
    let key := Text.trim key
    let name := Text.trim name
    if key = "" ∨ name = "" ∨ ' ' ∈ key.toList then .error (.keyEntry name)
    else .ok (key, name)

def parseKeys (s : String) : Except SettingError (List (String × String)) :=
  (Text.entries s).mapM parseKeyEntry

def Settings.check (s : Settings) : Except SettingError Unit :=
  if s.apiProvider = "" ∨ ' ' ∈ s.apiProvider.toList then .error (.provider s.apiProvider)
  else
    match s.statsdAddress with
    | some address => if ':' ∈ address.toList then .ok () else .error (.statsdAddress address)
    | none => .ok ()

def Settings.ofEnvironment (env : Environment) : Except SettingError Settings := do
  let port ← readPort env "PORT" 3000
  let logFormat ← readLogFormat env
  let metricsPort ← readPort env "METRICS_PORT" 9090
  let apiKeys ← parseKeys ((env.text? "API_KEYS").getD "")
  let settings : Settings :=
    { host := (env.text? "HOST").getD "0.0.0.0"
      port := port
      logFormat := logFormat
      statsdAddress := readOptional env "STATSD_ADDR"
      statsdNamespace := (env.text? "STATSD_NAMESPACE").getD ""
      statsdTags := Text.entries ((env.text? "STATSD_TAGS").getD "")
      healthdDirectory := readOptional env "HEALTHD_LOG_DIR"
      metricsPort := metricsPort
      apiProvider := (env.text? "API_PROVIDER").getD "Service"
      apiKeys := apiKeys }
  settings.check
  return settings

end HttpTelemetry.Config
