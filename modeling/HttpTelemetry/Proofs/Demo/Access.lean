import HttpTelemetry.Proofs.Config.DotEnv
import HttpTelemetry.Proofs.Config.Reader
import HttpTelemetry.Proofs.Demo.Router

/-!
# From settings to access

Whether clients have to name themselves, and which keys get them in, is decided by the variables
that the settings are read from. A list of keys that holds nothing but separators turns the gate off
like no list at all. A key gets its client in if it and the provider's word are readable as a header
value; other keys are accepted when settings are read, and then no request can present them.
-/

set_option autoImplicit false

namespace HttpTelemetry.Demo

open Http Auth Config Reporting
open Calendar (Instant)
open Text (isBlank)

section Access

variable {s : Settings} {r : Request}

/-! ### Requests without a credential -/

theorem not_presents_of_values_eq_nil {provider key : String}
    (h : r.headers.values Field.authorization = []) : ¬ Presents provider key r := by
  rintro ⟨hread, -⟩
  rw [Headers.readable?, Headers.first?_eq_head?, h] at hread
  cases hread

/-- Without a credential, `whoami` answers exactly if authentication is off. -/
theorem status_of_no_credential {now : Instant} {steps : List CallStep}
    (hpath : r.target.path = "/whoami") (hmethod : r.method = Method.get)
    (h : r.headers.values Field.authorization = []) :
    (exchangeOver (clientGate s) now steps r).response.status =
      if s.authEnabled then Status.unauthorized else Status.ok := by
  by_cases hkeys : s.apiKeys = []
  · have hoff : s.authEnabled = false := by simp [Settings.authEnabled, hkeys]
    rw [hoff]
    exact (whoami_without_keys hpath hmethod hkeys).1
  · have hon : s.authEnabled = true := by simp [Settings.authEnabled, hkeys]
    obtain ⟨e, hserved⟩ := served_of_stranger now hpath hkeys fun key _ =>
      not_presents_of_values_eq_nil h
    rw [hon, response_exchangeOver, hserved]
    rfl

/-- A settings file leaves a list of keys as it is. Authentication is on if the list holds anything
besides commas and blanks, and then `whoami` is closed to everybody without a credential. -/
theorem guarded_iff_keys_listed {env merged : Environment} {file : Option Bytes}
    (hload : DotEnv.load env file = some merged) (hs : Settings.ofEnvironment merged = .ok s) :
    (∀ value, env.text? "API_KEYS" = some value → merged.text? "API_KEYS" = some value) ∧
    (s.authEnabled = true ↔ ∃ value, merged.text? "API_KEYS" = some value ∧
      ∃ c ∈ value.toList, c ≠ ',' ∧ isBlank c = false) ∧
    ∀ (now : Instant) (steps : List CallStep) (r : Request), r.target.path = "/whoami" →
      r.method = Method.get → r.headers.values Field.authorization = [] →
      (exchangeOver (clientGate s) now steps r).response.status =
        if s.authEnabled then Status.unauthorized else Status.ok := by
  refine ⟨fun value hvalue => DotEnv.text?_load (by decide) hload hvalue,
    Settings.authEnabled_iff hs, ?_⟩
  intro now steps r hpath hmethod h
  exact status_of_no_credential hpath hmethod h

/-- A file does not take the keys away, and the request without one of them is turned away. -/
theorem guarded_iff_keys_listed_file :
    let env : Environment := [("API_KEYS", Bytes.ofText " , key = name")]
    let s : Settings := { apiKeys := [("key", "name")] }
    DotEnv.load env (some (Bytes.ofText "API_KEYS=,\n")) = some env ∧
      Settings.ofEnvironment env = .ok s ∧ s.authEnabled = true ∧
      (exchangeOver (clientGate s) ⟨0, by decide⟩ [.drop]
        ⟨Method.get, .http11, ⟨none, "/whoami", none⟩, [], none⟩).response.status =
          Status.unauthorized := by
  intro env s
  have hload : DotEnv.load env (some (Bytes.ofText "API_KEYS=,\n")) = some env := by decide +kernel
  have hs : Settings.ofEnvironment env = .ok s := by decide +kernel
  have hvalue : env.text? "API_KEYS" = some " , key = name" := by decide +kernel
  obtain ⟨hkept, henabled, hstatus⟩ := guarded_iff_keys_listed hload hs
  have hon : s.authEnabled = true :=
    henabled.mpr ⟨_, hkept _ hvalue, 'k', by decide, by decide, by decide⟩
  refine ⟨hload, hs, hon, ?_⟩
  rw [hstatus _ _ _ rfl rfl rfl, hon]
  rfl

/-- A list of separators only holds a character that is not blank, and yet turns the gate off. -/
theorem not_guarded_by_separators :
    ¬ ∀ (env : Environment) (s : Settings) (value : String), env.text? "API_KEYS" = some value →
      (∃ c ∈ value.toList, isBlank c = false) → Settings.ofEnvironment env = .ok s →
      s.authEnabled = true ∧ ∀ (now : Instant) (steps : List CallStep) (r : Request),
        r.target.path = "/whoami" → r.method = Method.get →
        r.headers.values Field.authorization = [] →
        (exchangeOver (clientGate s) now steps r).response.status = Status.unauthorized := by
  intro h
  have hs : Settings.ofEnvironment [("API_KEYS", Bytes.ofText ",")] = .ok {} := by rfl
  obtain ⟨hon, -⟩ := h _ _ "," rfl ⟨',', by decide, by decide⟩ hs
  cases hon

/-! ### Keys that can be presented -/

theorem isReadable_credential (provider key : String) :
    (Bytes.ofText (provider ++ " " ++ key)).all Bytes.isReadable =
      (Bytes.ofText provider ++ Bytes.ofText key).all Bytes.isReadable := by
  have hspace : (Bytes.ofText " ").all Bytes.isReadable = true := by decide +kernel
  simp [List.all_append, hspace]

/-- What is not readable cannot be presented by any request. -/
theorem not_presents_of_unreadable {provider key : String}
    (h : (Bytes.ofText provider ++ Bytes.ofText key).all Bytes.isReadable = false) :
    ¬ Presents provider key r := by
  intro hpresents
  obtain ⟨-, hreadable, -⟩ := presents_iff.mp hpresents
  rw [isReadable_credential, h] at hreadable
  cases hreadable

/-- An accepted key is presented by the one header value that is made for it, if that is readable. -/
theorem presents_iff_readable {env : Environment} {key name : String}
    (hs : Settings.ofEnvironment env = .ok s) (hkey : (key, name) ∈ s.apiKeys)
    (hfirst : r.headers.first? Field.authorization =
      some (Bytes.ofText (s.apiProvider ++ " " ++ key))) :
    Presents s.apiProvider key r ↔
      (Bytes.ofText s.apiProvider ++ Bytes.ofText key).all Bytes.isReadable = true := by
  obtain ⟨-, hprovider⟩ := Settings.provider_of_ofEnvironment hs
  obtain ⟨-, -, hspace⟩ := Settings.key_of_ofEnvironment hs hkey
  rw [presents_iff, isReadable_credential]
  exact ⟨fun h => h.2.1, fun h => ⟨hfirst, h, hprovider, hspace⟩⟩

/-- A request whose authorization is an accepted key comes through the gate as the client that the
key's last entry names, if the provider's word and the key are readable. If not, it is turned away
for its format, and no other request can present the key either. -/
theorem key_admits_iff_readable {env : Environment} (hs : Settings.ofEnvironment env = .ok s)
    {key name : String} (hkey : (key, name) ∈ s.apiKeys)
    (hr : r.headers.values Field.authorization =
      [Bytes.ofText s.apiProvider ++ Bytes.ofText " " ++ Bytes.ofText key]) :
    (∃ gate client, clientGate s = some gate ∧ s.clientName? key = some client ∧
      authenticate gate.provider gate.find (r : Incoming Client) =
        if (Bytes.ofText s.apiProvider ++ Bytes.ofText key).all Bytes.isReadable then .ok ⟨client⟩
        else .error (.invalidFormat (s.apiProvider ++ " " ++ key))) ∧
    ((Bytes.ofText s.apiProvider ++ Bytes.ofText key).all Bytes.isReadable = false →
      ∀ other : Request, ¬ Presents s.apiProvider key other) := by
  obtain ⟨gate, hgate, -, hauthenticate⟩ := clientGate_of_keys (List.ne_nil_of_mem hkey)
  obtain ⟨client, hclient⟩ :=
    Settings.exists_clientName?_iff.mpr (List.mem_map_of_mem (f := Prod.fst) hkey)
  refine ⟨⟨gate, client, hgate, hclient, ?_⟩, fun h _ => not_presents_of_unreadable h⟩
  have hfirst : r.headers.first? Field.authorization =
      some (Bytes.ofText (s.apiProvider ++ " " ++ key)) := by
    rw [Headers.first?_eq_head?, hr]
    simp
  cases hreadable : (Bytes.ofText s.apiProvider ++ Bytes.ofText key).all Bytes.isReadable with
  | true =>
    have hpresents := (presents_iff_readable hs hkey hfirst).mpr hreadable
    exact (hauthenticate r ⟨client⟩).mpr ⟨key, hpresents, hclient⟩
  | false =>
    -- The gate does not come to split the header, so the key is not even looked up.
    have hvalue : Bytes.readable? (Bytes.ofText (s.apiProvider ++ " " ++ key)) = none := by
      rw [← Option.isNone_iff_eq_none, ← Option.not_isSome, Bytes.readable?_isSome,
        isReadable_credential, hreadable]
      rfl
    rw [authenticate_of_unreadable hfirst hvalue, Bytes.lossyText_ofText]
    rfl

/-- Of two entries of one key, the name of the second is given; a tab in a key does no harm. -/
theorem key_admits_iff_readable_repeated :
    let env : Environment :=
      [("API_KEYS", Bytes.ofText "a\tb = first, a\tb = last"), ("API_PROVIDER", Bytes.ofText "Key")]
    let s : Settings := { apiProvider := "Key", apiKeys := [("a\tb", "first"), ("a\tb", "last")] }
    let r : Request := ⟨Method.get, .http11, ⟨none, "/whoami", none⟩,
      [⟨Field.authorization, Bytes.ofText "Key a\tb"⟩], none⟩
    Settings.ofEnvironment env = .ok s ∧
      ∃ gate, clientGate s = some gate ∧
        authenticate gate.provider gate.find (r : Incoming Client) = .ok ⟨"last"⟩ := by
  intro env s r
  have hs : Settings.ofEnvironment env = .ok s := by decide +kernel
  have hkey : ("a\tb", "first") ∈ s.apiKeys := List.mem_cons_self
  have hr : r.headers.values Field.authorization =
      [Bytes.ofText s.apiProvider ++ Bytes.ofText " " ++ Bytes.ofText "a\tb"] := by decide +kernel
  obtain ⟨⟨gate, client, hgate, hclient, hadmits⟩, -⟩ := key_admits_iff_readable hs hkey hr
  obtain rfl : "last" = client := Option.some.inj hclient
  exact ⟨hs, gate, hgate, hadmits.trans (if_pos (by decide +kernel))⟩

/-- A key with a letter outside of ASCII is accepted, and its client is turned away. -/
theorem not_all_keys_admit :
    ¬ ∀ (env : Environment) (s : Settings) (key name : String) (r : Request),
      Settings.ofEnvironment env = .ok s → (key, name) ∈ s.apiKeys →
      r.headers.values Field.authorization =
        [Bytes.ofText s.apiProvider ++ Bytes.ofText " " ++ Bytes.ofText key] →
      ∃ gate client, clientGate s = some gate ∧ s.clientName? key = some client ∧
        authenticate gate.provider gate.find (r : Incoming Client) = .ok ⟨client⟩ := by
  intro h
  let s : Settings := { apiKeys := [("é", "client")] }
  let r : Request := ⟨Method.get, .http11, ⟨none, "/whoami", none⟩,
    [⟨Field.authorization, Bytes.ofText "Service é"⟩], none⟩
  have hs : Settings.ofEnvironment [("API_KEYS", Bytes.ofText "é=client")] = .ok s := by
    decide +kernel
  obtain ⟨gate, client, hgate, -, hok⟩ :=
    h _ s "é" "client" r hs List.mem_cons_self (by decide +kernel)
  obtain ⟨presented, ⟨hread, -⟩, -⟩ := exists_presents_of_authenticate hok
  have hunreadable : r.headers.readable? Field.authorization = none := by decide +kernel
  cases hunreadable.symm.trans hread

end Access

end HttpTelemetry.Demo
