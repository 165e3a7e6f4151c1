import HttpTelemetry.Calendar.Rfc3339
import HttpTelemetry.Json.Printer
import HttpTelemetry.Log.Event
import HttpTelemetry.Sink.Basic

/-!
# Structured request records

Every record becomes one log event. Twelve fields hold the record itself, each with a type of its
own; whatever else is to be attached goes into one field as a JSON object. The record's fields take
precedence over attached fields of the same name.
-/

set_option autoImplicit false

namespace HttpTelemetry.Structured

open Log

structure Context where
  fields : Json.Fields := []

namespace Context

def attach (c : Context) (name : String) (value : Json) : Context := ⟨c.fields.put name value⟩

/-- A context with some fields, attached one after the other. -/
def ofList (members : List (String × Json)) : Context := ⟨Json.Fields.ofList members⟩

def standard : Context := Context.attach {} "module" (.text "request.handler")

end Context

def requestFields : List String :=
  ["tag", "http.method", "http.protocol", "http.uri", "http.path", "http.host", "http.status",
    "http.bytes", "dur", "ts", "http.ref", "http.user"]

def recordFields (r : RequestRecord) : List (String × Json) :=
  [("tag", .text "request_handled"), ("http.method", .text r.method.name),
    ("http.protocol", .text r.version.text), ("http.uri", .text r.uri), ("http.path", .text r.path),
    ("http.host", .text r.host), ("http.status", .int r.status.code), ("http.bytes", .int r.size),
    ("dur", .float r.seconds), ("ts", .text r.timestamp.text), ("http.ref", .text r.referer),
    ("http.user", .text r.forwardedFor)]

def fields (c : Context) (r : RequestRecord) : Json.Fields := c.fields.putAll (recordFields r)

def contextOf (fields : Json.Fields) : Json.Fields :=
  fields.filter fun (name, _) => !requestFields.contains name

def textField (fields : Json.Fields) (name : String) : Value :=
  .text (((fields.get? name).bind Json.asText?).getD "")

def natField (fields : Json.Fields) (name : String) : Value :=
  .nat (((fields.get? name).bind Json.asNat?).getD 0)

def floatField (fields : Json.Fields) (name : String) : Value :=
  .float (((fields.get? name).bind Json.asFloat?).getD 0)

def target : String := "request_telemetry::request"

/-- The event of some fields. A field of the record that is missing or of another type counts as
empty or as zero. -/
def event (level : Level) (fields : Json.Fields) (message : String) : Event where
  level := level
  target := target
  message := message
  values :=
    [("tag", textField fields "tag"), ("http.method", textField fields "http.method"),
      ("http.protocol", textField fields "http.protocol"),
      ("http.uri", textField fields "http.uri"), ("http.path", textField fields "http.path"),
      ("http.host", textField fields "http.host"), ("http.status", natField fields "http.status"),
      ("http.bytes", natField fields "http.bytes"), ("dur", floatField fields "dur"),
      ("ts", textField fields "ts"), ("http.ref", textField fields "http.ref"),
      ("http.user", textField fields "http.user"),
      ("context", .shown (Json.object (contextOf fields)).render)]

def recordEvent (c : Context) (r : RequestRecord) : Event := event .info (fields c r) r.summary

end HttpTelemetry.Structured
