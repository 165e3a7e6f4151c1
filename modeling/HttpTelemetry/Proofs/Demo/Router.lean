import HttpTelemetry.Demo.Router
import HttpTelemetry.Proofs.Reporting.Exchange

/-!
# What the routes answer

A route is found by the path alone, and the gate stands in front of `whoami` only. If there are
keys, the handler of `whoami` runs for the client of the presented key and for nobody else; if there
are none, it runs for an unknown client. All other answers depend on the path and the method only.
-/

set_option autoImplicit false

namespace HttpTelemetry.Demo

open Http Log Auth Config Reporting
open Calendar (Instant)

/-! ### Answers -/

/-- The answer to a request, with the clients for whom `whoami` ran and the logged events. -/
def served (gate : Option (Gate Client)) (now : Instant) (r : Request) :
    (Response × List (Option Client)) × List Event :=
  ((answer gate now r).run []).run

theorem readsRoute_iff {m : Method} :
    readsRoute m = true ↔ m = Method.get ∨ m = Method.head := by
  rw [readsRoute, Bool.or_eq_true, beq_iff_eq, beq_iff_eq]

theorem Route.of?_eq_whoami_iff {path : String} :
    Route.of? path = some .whoami ↔ path = "/whoami" := by
  constructor
  · intro h
    unfold Route.of? at h
    split at h
    next => cases h
    next =>
      split at h
      next hpath => exact hpath
      next => cases h
  · rintro rfl
    rfl

section Served

variable {now : Instant} {r : Request}

theorem served_open (hpath : r.target.path = "/whoami") (hreads : readsRoute r.method = true) :
    served none now r = ((finishRoute r.method (whoamiAnswer none), [none]), []) := by
  unfold served answer
  rw [Route.of?_eq_whoami_iff.mpr hpath]
  unfold answerWhoami answerReads
  dsimp only
  rw [if_pos hreads]
  rfl

theorem served_admitted {gate : Gate Client} {client : Client} (hpath : r.target.path = "/whoami")
    (hreads : readsRoute r.method = true)
    (hclient : authenticate gate.provider gate.find (r : Incoming Client) = .ok client) :
    served (some gate) now r = ((finishRoute r.method (whoamiAnswer (some client)), [some client]),
      [Gate.admitted gate.provider]) := by
  unfold served answer
  rw [Route.of?_eq_whoami_iff.mpr hpath]
  unfold answerWhoami Gate.serve
  dsimp only
  rw [hclient]
  unfold answerReads
  dsimp only
  rw [if_pos hreads]
  rfl

theorem served_rejected {gate : Gate Client} {e : AuthError} (hpath : r.target.path = "/whoami")
    (he : authenticate gate.provider gate.find (r : Incoming Client) = .error e) :
    served (some gate) now r = ((finishRoute r.method (jsonRejection e Status.unauthorized), []),
      [Gate.rejected r e]) := by
  unfold served answer
  rw [Route.of?_eq_whoami_iff.mpr hpath]
  unfold answerWhoami Gate.serve
  dsimp only
  rw [he]
  rfl

/-- Outside of `whoami` an answer depends on the path and the method only. -/
theorem served_of_ne {gate gate' : Option (Gate Client)} {r' : Request}
    (hpath : r.target.path ≠ "/whoami") (htarget : r'.target = r.target)
    (hmethod : r'.method = r.method) : served gate' now r' = served gate now r := by
  unfold served answer
  rw [htarget, hmethod]
  cases h : Route.of? r.target.path with
  | none => rfl
  | some route =>
    cases route with
    | health => rfl
    | whoami => exact absurd (Route.of?_eq_whoami_iff.mp h) hpath

end Served

/-! ### Keys of the settings -/

theorem lookup_map_client (entries : List (String × String)) (key : String) :
    (entries.map fun (key, name) => (key, Client.mk name)).lookup key =
      (entries.lookup key).map Client.mk := by
  induction entries with
  | nil => rfl
  | cons entry rest ih =>
    obtain ⟨stored, name⟩ := entry
    rw [List.map_cons, List.lookup_cons, List.lookup_cons]
    cases key == stored with
    | true => rfl
    | false => exact ih

/-- The gate of settings with keys takes a request for the client that its key names. -/
theorem clientGate_of_keys {s : Settings} (h : s.apiKeys ≠ []) :
    ∃ gate, clientGate s = some gate ∧ gate.provider = s.apiProvider ∧
      ∀ (r : Incoming Client) (client : Client),
        authenticate gate.provider gate.find r = .ok client ↔
          ∃ key, Presents s.apiProvider key r.toRequest ∧
            s.clientName? key = some client.name := by
  let table : KeyTable Client := ⟨s.apiKeys.map fun (key, name) => (key, ⟨name⟩)⟩
  have henabled : s.authEnabled = true := by simp [Settings.authEnabled, h]
  -- The scan of the table and the look-up from the end of the settings find the same entry.
  have hlookup (key : String) : table.lookup key = (s.clientName? key).map Client.mk := by
    rw [KeyTable.lookup_eq_lookup_reverse, ← List.map_reverse, lookup_map_client,
      Settings.clientName?]
  have hfind (key : String) (r : Incoming Client) (client : Client) :
      table.finder key r = .ok client ↔ s.clientName? key = some client.name := by
    rw [KeyTable.finder_eq_ok_iff, hlookup]
    cases s.clientName? key with
    | none => simp
    | some name =>
      cases client
      simp
  refine ⟨⟨s.apiProvider, table.finder⟩, ?_, rfl, fun r client => ?_⟩
  · exact if_pos henabled
  · simp only [authenticate_eq_ok_iff, hfind]

section Clients

variable {s : Settings} {now : Instant} {r : Request}

theorem apiKeys_ne_nil_of_clientName? {key name : String} (h : s.clientName? key = some name) :
    s.apiKeys ≠ [] := by
  intro hnil
  have hmem := Settings.exists_clientName?_iff.mp ⟨name, h⟩
  rw [hnil] at hmem
  cases hmem

/-- A request that presents a key is served for the client of this key. -/
theorem served_of_client {key name : String} (hpath : r.target.path = "/whoami")
    (hreads : readsRoute r.method = true) (hpresents : Presents s.apiProvider key r)
    (hname : s.clientName? key = some name) :
    served (clientGate s) now r =
      ((finishRoute r.method (whoamiAnswer (some ⟨name⟩)), [some ⟨name⟩]),
        [Gate.admitted s.apiProvider]) := by
  obtain ⟨gate, hgate, hprovider, hauthenticate⟩ :=
    clientGate_of_keys (apiKeys_ne_nil_of_clientName? hname)
  have hclient := (hauthenticate r ⟨name⟩).mpr ⟨key, hpresents, hname⟩
  rw [hgate, ← hprovider]
  exact served_admitted hpath hreads hclient

/-- A request that presents no key is turned away, if there are keys at all. -/
theorem served_of_stranger (now : Instant) (hpath : r.target.path = "/whoami")
    (hkeys : s.apiKeys ≠ [])
    (h : ∀ key ∈ s.apiKeys.map Prod.fst, ¬ Presents s.apiProvider key r) :
    ∃ e, served (clientGate s) now r =
      ((finishRoute r.method (jsonRejection e Status.unauthorized), []), [Gate.rejected r e]) := by
  obtain ⟨gate, hgate, _, hauthenticate⟩ := clientGate_of_keys hkeys
  rw [hgate]
  cases hfound : authenticate gate.provider gate.find (r : Incoming Client) with
  | error e => exact ⟨e, served_rejected hpath hfound⟩
  | ok client =>
    obtain ⟨key, hpresents, hname⟩ := (hauthenticate r client).mp hfound
    exact absurd hpresents (h key (Settings.exists_clientName?_iff.mp ⟨client.name, hname⟩))

end Clients

/-! ### Exchanges -/

/-- With keys, the handler of `whoami` is reached by those who present one of them, and runs for the
client that the key names. The others are turned away. -/
structure ServesClients (s : Settings) (r : Request) (x : Exchange) : Prop where
  reached_iff : x.clients ≠ [] ↔ ∃ key ∈ s.apiKeys.map Prod.fst, Presents s.apiProvider key r
  served : ∀ key name, Presents s.apiProvider key r → s.clientName? key = some name →
    x.clients = [some ⟨name⟩] ∧ x.response.status = Status.ok ∧
      (r.method = Method.get → x.response.body = Bytes.ofText
        (Json.object [("authenticated", .bool true), ("client", .text name)]).render)
  rejected : x.clients = [] → x.response.status = Status.unauthorized

section Exchanges

variable {now : Instant} {steps : List CallStep} {r : Request}

theorem read_of_pollsBody (gate : Option (Gate Client)) (h : pollsBody steps = true) :
    (exchangeOver gate now steps r).read = (exchangeOver gate now steps r).response.body :=
  shownData_run_answering r now (exchangeOver gate now steps r).response h

theorem exists_record_of_endsResponse (gate : Option (Gate Client)) (h : EndsResponse steps) :
    ∃ record, (exchangeOver gate now steps r).records = [record] ∧
      record.status = (exchangeOver gate now steps r).response.status :=
  exists_record_run_answering r now (exchangeOver gate now steps r).response h

theorem clients_exchangeOver (gate : Option (Gate Client)) :
    (exchangeOver gate now steps r).clients = (served gate now r).1.2 := rfl

theorem response_exchangeOver (gate : Option (Gate Client)) :
    (exchangeOver gate now steps r).response = (served gate now r).1.1 := rfl

theorem servesClients_of_keys {s : Settings} (hpath : r.target.path = "/whoami")
    (hmethod : r.method = Method.get ∨ r.method = Method.head) (hkeys : s.apiKeys ≠ []) :
    ServesClients s r (exchangeOver (clientGate s) now steps r) := by
  have hreads : readsRoute r.method = true := readsRoute_iff.mpr hmethod
  constructor
  case reached_iff =>
    rw [clients_exchangeOver]
    constructor
    · intro hreached
      by_contra hnone
      obtain ⟨e, hserved⟩ := served_of_stranger now hpath hkeys fun key hkey hpresents =>
        hnone ⟨key, hkey, hpresents⟩
      rw [hserved] at hreached
      exact hreached rfl
    · rintro ⟨key, hkey, hpresents⟩
      obtain ⟨name, hname⟩ := Settings.exists_clientName?_iff.mpr hkey
      rw [served_of_client hpath hreads hpresents hname]
      exact List.cons_ne_nil _ _
  case served =>
    intro key name hpresents hname
    rw [clients_exchangeOver, response_exchangeOver,
      served_of_client hpath hreads hpresents hname]
    refine ⟨rfl, rfl, fun hget => ?_⟩
    rw [hget]
    rfl
  case rejected =>
    rw [clients_exchangeOver, response_exchangeOver]
    intro hnone
    by_cases h : ∃ key ∈ s.apiKeys.map Prod.fst, Presents s.apiProvider key r
    · obtain ⟨key, hkey, hpresents⟩ := h
      obtain ⟨name, hname⟩ := Settings.exists_clientName?_iff.mpr hkey
      rw [served_of_client hpath hreads hpresents hname] at hnone
      cases hnone
    · obtain ⟨e, hserved⟩ := served_of_stranger now hpath hkeys fun key hkey hpresents =>
        h ⟨key, hkey, hpresents⟩
      rw [hserved]
      rfl

theorem whoami_without_keys {s : Settings} (hpath : r.target.path = "/whoami")
    (hmethod : r.method = Method.get) (hkeys : s.apiKeys = []) :
    (exchangeOver (clientGate s) now steps r).response.status = Status.ok ∧
      (exchangeOver (clientGate s) now steps r).response.body = Bytes.ofText
        (Json.object [("authenticated", .bool false), ("client", .null)]).render := by
  have hgate : clientGate s = none := by simp [clientGate, Settings.authEnabled, hkeys]
  rw [response_exchangeOver, hgate, served_open hpath (readsRoute_iff.mpr (.inl hmethod)), hmethod]
  exact ⟨rfl, rfl⟩

/-- Those who present a key are served as the client that it names, and nobody else gets to
`whoami`; without keys it answers that nobody is known. No other route looks at credentials. A
response that is polled before it is dropped is read to its end, and one that is read or dropped is
reported once, with its status. -/
theorem service_answers (s : Settings) (now : Instant) (steps : List CallStep) (r : Request) :
    let x := exchangeOver (clientGate s) now steps r
    (r.target.path = "/whoami" → (r.method = Method.get ∨ r.method = Method.head) →
      s.apiKeys ≠ [] → ServesClients s r x) ∧
    (r.target.path = "/whoami" → r.method = Method.get → s.apiKeys = [] →
      x.response.status = Status.ok ∧ x.response.body = Bytes.ofText
        (Json.object [("authenticated", .bool false), ("client", .null)]).render) ∧
    (r.target.path ≠ "/whoami" → ∀ (s' : Settings) (r' : Request),
      r'.without Field.authorization = r.without Field.authorization →
      (exchangeOver (clientGate s') now steps r').response.status = x.response.status) ∧
    (pollsBody steps = true → x.read = x.response.body) ∧
    (EndsResponse steps → ∃ record, x.records = [record] ∧ record.status = x.response.status) := by
  refine ⟨servesClients_of_keys, whoami_without_keys, ?_, read_of_pollsBody _,
    exists_record_of_endsResponse _⟩
  intro hpath s' r' hr
  have htarget : r'.target = r.target := by simpa using congrArg Request.target hr
  have hmethod : r'.method = r.method := by simpa using congrArg Request.method hr
  rw [response_exchangeOver, response_exchangeOver, served_of_ne hpath htarget hmethod]

/-- Of two entries of one key the later one counts, for `HEAD` as for `GET`, and the key in another
case is none. Without keys a credential plays no part, and for the health check it never does. -/
theorem service_answers_repeated_key :
    let s : Settings := { apiKeys := [("key", "first"), ("key", "last")] }
    let request (method : Method) (path credential : String) : Request :=
      ⟨method, .http11, ⟨none, path, none⟩,
        [⟨Field.authorization, Bytes.ofText credential⟩], none⟩
    let exchanged (s : Settings) (steps : List CallStep) (r : Request) : Exchange :=
      exchangeOver (clientGate s) ⟨0, by decide⟩ steps r
    let named := exchanged s [.frame] (request Method.get "/whoami" "Service key")
    let headed := exchanged s [.drop] (request Method.head "/whoami" "Service key")
    let refused := exchanged s [.drop] (request Method.get "/whoami" "Service Key")
    let unknown := exchanged {} [] (request Method.get "/whoami" "Service key")
    let health (s : Settings) := exchanged s [] (request Method.get "/health" "Service")
    (named.clients = [some ⟨"last"⟩] ∧ named.read = named.response.body ∧
      ∃ record, named.records = [record] ∧ record.status = Status.ok) ∧
    headed.clients = [some ⟨"last"⟩] ∧
    (refused.clients = [] ∧
      ∃ record, refused.records = [record] ∧ record.status = Status.unauthorized) ∧
    unknown.response.status = Status.ok ∧
    (health s).response.status = (health {}).response.status := by
  intro s request exchanged named headed refused unknown health
  have hname : s.clientName? "key" = some "last" := rfl
  have hpresents (method : Method) :
      Presents s.apiProvider "key" (request method "/whoami" "Service key") :=
    ⟨rfl, by decide, by decide⟩
  obtain ⟨hnamed, -, -, hnamedRead, hnamedRecord⟩ :=
    service_answers s ⟨0, by decide⟩ [.frame] (request Method.get "/whoami" "Service key")
  obtain ⟨hheaded, -, -, -, -⟩ :=
    service_answers s ⟨0, by decide⟩ [.drop] (request Method.head "/whoami" "Service key")
  obtain ⟨hrefused, -, -, -, hrefusedRecord⟩ :=
    service_answers s ⟨0, by decide⟩ [.drop] (request Method.get "/whoami" "Service Key")
  obtain ⟨-, hunknown, -, -, -⟩ :=
    service_answers {} ⟨0, by decide⟩ [] (request Method.get "/whoami" "Service key")
  obtain ⟨-, -, hhealth, -, -⟩ :=
    service_answers {} ⟨0, by decide⟩ [] (request Method.get "/health" "Service")
  have hkeys : s.apiKeys ≠ [] := List.cons_ne_nil _ _
  obtain ⟨hclients, hok, -⟩ := (hnamed rfl (.inl rfl) hkeys).served "key" "last" (hpresents _) hname
  have hnone : refused.clients = [] := by
    by_contra hreached
    obtain ⟨key, hkey, hread, -⟩ := (hrefused rfl (.inl rfl) hkeys).reached_iff.mp hreached
    obtain rfl : key = "key" := by simpa [s] using hkey
    exact absurd hread (by decide +kernel)
  refine ⟨⟨hclients, hnamedRead rfl, ?_⟩, ?_, ⟨hnone, ?_⟩, ?_, ?_⟩
  · obtain ⟨record, hrecords, hstatus⟩ := hnamedRecord (.inl rfl)
    exact ⟨record, hrecords, hstatus.trans hok⟩
  · exact ((hheaded rfl (.inr rfl) hkeys).served "key" "last" (hpresents _) hname).1
  · obtain ⟨record, hrecords, hstatus⟩ := hrefusedRecord (.inr List.mem_cons_self)
    exact ⟨record, hrecords, hstatus.trans ((hrefused rfl (.inl rfl) hkeys).rejected hnone)⟩
  · exact (hunknown rfl rfl rfl).1
  · exact hhealth (by decide) s _ rfl

end Exchanges

end HttpTelemetry.Demo
