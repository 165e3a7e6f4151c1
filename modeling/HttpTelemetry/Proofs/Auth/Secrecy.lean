import HttpTelemetry.Auth.Gate
import HttpTelemetry.Auth.KeyTable
import Mathlib.Order.Basic

/-!
# Gates keep credentials to themselves

Two requests that differ in their credentials only leave the same events behind if they are refused
for the same kind of reason or both let in, and only then. The JSON handler answers all refused keys
alike. What a finder says about a key is told to nobody.
-/

set_option autoImplicit false

namespace HttpTelemetry.Http

/-! ### Requests that differ in fields of one name -/

structure SameBut (name : String) (r other : Request) : Prop where
  method : other.method = r.method
  version : other.version = r.version
  target : other.target = r.target
  peer : other.peer = r.peer
  values : ∀ n, n ≠ name → other.headers.values n = r.headers.values n

theorem Headers.values_without {headers : Headers} {name n : String} (h : n ≠ name) :
    (headers.without name).values n = headers.values n := by
  rw [Headers.values, Headers.without, List.filter_filter, Headers.values]
  congr 1
  apply List.filter_congr
  intro field _
  by_cases hn : field.name = n
  · simp [hn, h]
  · simp [hn]

theorem sameBut_of_without_eq {name : String} {r other : Request}
    (h : other.without name = r.without name) : SameBut name r other := by
  obtain ⟨hmethod, hversion, htarget, hheaders, hpeer⟩ := Request.mk.inj h
  refine ⟨hmethod, hversion, htarget, hpeer, ?_⟩
  intro n hn
  rw [← Headers.values_without hn, hheaders, Headers.values_without hn]

theorem SameBut.readable? {name n : String} {r other : Request} (h : SameBut name r other)
    (hn : n ≠ name) : other.headers.readable? n = r.headers.readable? n := by
  rw [Headers.readable?, Headers.readable?, Headers.first?_eq_head?, Headers.first?_eq_head?,
    h.values n hn]

end HttpTelemetry.Http

namespace HttpTelemetry.Auth

open Http Log
open Record (ClientAddress)

theorem clientAddress_of_sameBut {r other : Request}
    (h : SameBut Field.authorization r other) : ClientAddress.of other = ClientAddress.of r := by
  have hforwarded : Field.forwardedFor ≠ Field.authorization := by decide
  have hreal : Field.realIp ≠ Field.authorization := by decide
  rw [ClientAddress.of, ClientAddress.of, h.readable? hforwarded, h.readable? hreal, h.peer]

namespace Gate

variable {ι ξ ρ : Type}

/-- The event of a refusal depends on the credential through the kind of the failure alone. -/
theorem rejected_eq_iff {r other : Request} {e e' : AuthError}
    (h : SameBut Field.authorization r other) :
    rejected other e' = rejected r e ↔ e'.kind = e.kind := by
  rw [rejected, rejected, h.target, clientAddress_of_sameBut h]
  simp

theorem admitted_ne_rejected (provider : String) (r : Request) (e : AuthError) :
    admitted provider ≠ rejected r e := by
  simp [admitted, rejected]

/-- The kind of the failure for which a request is refused. -/
def refusal? (gate : Gate ι ξ) (r : Incoming ι ξ) : Option String :=
  match authenticate gate.provider gate.find r with
  | .ok _ => none
  | .error e => some e.kind

/-- What comes of a request, with the events that the gate logs. -/
def served (gate : Gate ι ξ) (reject : Incoming ι ξ → AuthError → Status → ρ)
    (service : Incoming ι ξ → ρ) (r : Incoming ι ξ) : ρ × List Event :=
  (gate.serve emit (fun r e status => pure (reject r e status)) (fun r => pure (service r)) r).run

section Served

variable {gate : Gate ι ξ} {r : Incoming ι ξ} (reject : Incoming ι ξ → AuthError → Status → ρ)
  (service : Incoming ι ξ → ρ)

theorem served_of_ok {identity : ι} (h : authenticate gate.provider gate.find r = .ok identity) :
    gate.served reject service r =
      (service { r with identity := some identity }, [admitted gate.provider]) := by
  rw [served, serve, h]
  rfl

theorem served_of_error {e : AuthError} (h : authenticate gate.provider gate.find r = .error e) :
    gate.served reject service r =
      (reject r e Status.unauthorized, [rejected r.toRequest e]) := by
  rw [served, serve, h]
  rfl

end Served

section Pairs

variable {gate gate' : Gate ι ξ} {r r' : Incoming ι ξ}

/-- Gates of one provider log the same of two requests that differ in their credentials only if they
refuse them for the same kind of reason or let both in. -/
theorem events_eq_iff (hprovider : gate'.provider = gate.provider)
    (hr : SameBut Field.authorization r.toRequest r'.toRequest)
    (reject reject' : Incoming ι ξ → AuthError → Status → ρ) (service service' : Incoming ι ξ → ρ) :
    (gate'.served reject' service' r').2 = (gate.served reject service r).2 ↔
      gate'.refusal? r' = gate.refusal? r := by
  unfold refusal?
  cases hfirst : authenticate gate.provider gate.find r with
  | ok identity =>
    rw [served_of_ok reject service hfirst]
    cases hsecond : authenticate gate'.provider gate'.find r' with
    | ok identity' =>
      rw [served_of_ok reject' service' hsecond, hprovider]
      exact iff_of_true rfl rfl
    | error e' =>
      rw [served_of_error reject' service' hsecond, List.singleton_inj]
      exact iff_of_false (admitted_ne_rejected _ _ _).symm (by simp)
  | error e =>
    rw [served_of_error reject service hfirst]
    cases hsecond : authenticate gate'.provider gate'.find r' with
    | ok identity' =>
      rw [served_of_ok reject' service' hsecond, List.singleton_inj]
      exact iff_of_false (admitted_ne_rejected _ _ _) (by simp)
    | error e' =>
      rw [served_of_error reject' service' hsecond, List.singleton_inj, rejected_eq_iff hr,
        Option.some.injEq]

/-- All refused keys get one answer. -/
theorem jsonRejection_of_kind {e : AuthError} (h : e.kind = "invalid_key") (status : Status) :
    jsonRejection e status = jsonRejection (.invalidKey "" "") status := by
  cases e with
  | noHeader => exact absurd h (show "no_header" ≠ "invalid_key" by decide)
  | invalidFormat _ => exact absurd h (show "invalid_format" ≠ "invalid_key" by decide)
  | badProvider _ _ => exact absurd h (show "bad_provider" ≠ "invalid_key" by decide)
  | invalidKey _ _ => rfl

theorem answer_of_refused_key (respond : Response → ρ) (service : Incoming ι ξ → ρ)
    (h : gate.refusal? r = some "invalid_key") :
    (gate.served (fun _ e status => respond (jsonRejection e status)) service r).1 =
      respond (jsonRejection (.invalidKey "" "") Status.unauthorized) := by
  unfold refusal? at h
  split at h
  next => cases h
  next e he =>
    rw [served_of_error _ service he, jsonRejection_of_kind (Option.some.inj h)]

/-- Of two requests that differ in their credentials only, the log tells what became of them and no
more, and their clients are told the same if both have had a key refused. This holds whatever the
keys are, and whatever the finders say of them. -/
theorem credentials_stay_secret (hprovider : gate'.provider = gate.provider)
    (hr : SameBut Field.authorization r.toRequest r'.toRequest) :
    (∀ (reject reject' : Incoming ι ξ → AuthError → Status → ρ)
      (service service' : Incoming ι ξ → ρ),
      (gate'.served reject' service' r').2 = (gate.served reject service r).2 ↔
        gate'.refusal? r' = gate.refusal? r) ∧
    ∀ (respond : Response → ρ) (service service' : Incoming ι ξ → ρ),
      gate.refusal? r = some "invalid_key" → gate'.refusal? r' = some "invalid_key" →
      (gate'.served (fun _ e status => respond (jsonRejection e status)) service' r').1 =
        (gate.served (fun _ e status => respond (jsonRejection e status)) service r).1 := by
  refine ⟨events_eq_iff hprovider hr, ?_⟩
  intro respond service service' hrefused hrefused'
  rw [answer_of_refused_key respond service hrefused,
    answer_of_refused_key respond service' hrefused']

end Pairs

/-- Two clients behind one proxy, one with a wrong key and one with two credentials, of which the
first is wrong: not even a finder that repeats the key in its error tells them apart. -/
theorem credentials_stay_secret_wrong_keys :
    let gate : Gate String := ⟨"Service", fun key _ => .error ("no client with " ++ key)⟩
    let request (credentials : List Header) : Incoming String :=
      { method := Method.get, version := .http11, target := ⟨none, "/thing", none⟩,
        headers := ⟨Field.forwardedFor, Bytes.ofText "10.0.0.1, 10.0.0.2"⟩ :: credentials,
        peer := none }
    let r := request [⟨Field.authorization, Bytes.ofText "Service first"⟩]
    let r' := request [⟨Field.authorization, Bytes.ofText "Service other"⟩,
      ⟨Field.authorization, Bytes.ofText "Service key"⟩]
    let served :=
      gate.served (fun _ e status => jsonRejection e status) fun _ => ⟨Status.ok, [], []⟩
    r'.headers ≠ r.headers ∧ gate.refusal? r = some "invalid_key" ∧ served r' = served r := by
  intro gate request r r' served
  have hr : SameBut Field.authorization r.toRequest r'.toRequest := sameBut_of_without_eq rfl
  have hrefused : gate.refusal? r = some "invalid_key" := by decide +kernel
  have hrefused' : gate.refusal? r' = some "invalid_key" := by decide +kernel
  obtain ⟨hevents, hanswer⟩ :=
    @credentials_stay_secret String Unit Response gate gate r r' rfl hr
  refine ⟨by decide +kernel, hrefused, ?_⟩
  exact Prod.ext (hanswer id _ _ hrefused hrefused')
    ((hevents _ _ _ _).mpr (hrefused'.trans hrefused.symm))

end Gate

end HttpTelemetry.Auth
