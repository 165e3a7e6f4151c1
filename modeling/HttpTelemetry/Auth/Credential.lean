import HttpTelemetry.Http.Request
import HttpTelemetry.Text.Pieces

/-!
# API key credentials

A client names itself by one header field: the provider's word, one space, and a key. Whether a key
is known is the business of a finder; this module decides what a request presents and why it is
turned away.
-/

set_option autoImplicit false

namespace HttpTelemetry.Auth

open Http

def credentialFormat : String := "<provider> <apiKey>"

inductive AuthError where
  | noHeader
  | invalidFormat (header : String)
  | badProvider (given expected : String)
  | invalidKey (key source : String)
  deriving DecidableEq, Repr

namespace AuthError

/-- The name of the failure, which tells nothing about the credential. -/
def kind : AuthError → String
  | .noHeader => "no_header"
  | .invalidFormat _ => "invalid_format"
  | .badProvider _ _ => "bad_provider"
  | .invalidKey _ _ => "invalid_key"

def message : AuthError → String
  | .noHeader => "no Authorization header provided"
  | .invalidFormat header =>
    "provided Authorization header in invalid format, expecting: " ++ credentialFormat ++
      " got: " ++ header
  | .badProvider given expected =>
    "Authorization provider does not match. Expecting: " ++ expected ++ " got: " ++ given
  | .invalidKey key source =>
    "provided api key: '" ++ key ++ "' is not valid: " ++ source

end AuthError

/-- A request on its way to a service, with the identity that it has been given, if any. What else
travels with it, its body and what others have attached, is for services and finders to look at. -/
structure Incoming (ι : Type) (ξ : Type := Unit) extends Request where
  identity : Option ι := none
  others : ξ := by exact ()

/-- A request as it arrives, with nothing attached. -/
instance {ι : Type} : Coe Request (Incoming ι) := ⟨fun r => { r with }⟩

/-- Looks up the identity that a key stands for; the error says why there is none. -/
abbrev Finder (ι : Type) (ξ : Type := Unit) := String → Incoming ι ξ → Except String ι

def parseCredential? (value : Bytes) : Option (String × String) :=
  match (Bytes.readable? value).map (Text.pieces ' ') with
  | some [given, key] => some (given, key)
  | _ => none

/-- The identity that a request presents, by the first of its authorization fields. -/
def authenticate {ι ξ : Type} (provider : String) (find : Finder ι ξ) (r : Incoming ι ξ) :
    Except AuthError ι :=
  match r.headers.first? Field.authorization with
  | none => .error .noHeader
  | some value =>
    match parseCredential? value with
    | none => .error (.invalidFormat (Bytes.lossyText value))
    | some (given, key) =>
      if given = provider then (find key r).mapError (.invalidKey key)
      else .error (.badProvider given provider)

/-! ### What is accepted -/

/-- The request's first authorization field is readable text: a provider's word, one space and a
key, neither with a space inside. -/
def Presents (provider key : String) (r : Request) : Prop :=
  r.headers.readable? Field.authorization = some (provider ++ " " ++ key) ∧
    ' ' ∉ provider.toList ∧ ' ' ∉ key.toList

theorem presents_iff {provider key : String} {r : Request} :
    Presents provider key r ↔
      r.headers.first? Field.authorization = some (Bytes.ofText (provider ++ " " ++ key)) ∧
        (Bytes.ofText (provider ++ " " ++ key)).all Bytes.isReadable = true ∧
        ' ' ∉ provider.toList ∧ ' ' ∉ key.toList := by
  simp only [Presents, Headers.readable?, Option.bind_eq_some_iff, Bytes.readable?_eq_some_iff]
  constructor
  · rintro ⟨⟨value, hfirst, rfl, hreadable⟩, hspaces⟩
    exact ⟨hfirst, hreadable, hspaces⟩
  · rintro ⟨hfirst, hreadable, hspaces⟩
    exact ⟨⟨_, hfirst, rfl, hreadable⟩, hspaces⟩

theorem parseCredential?_eq_some_iff {value : Bytes} {given key : String} :
    parseCredential? value = some (given, key) ↔
      Bytes.readable? value = some (given ++ " " ++ key) ∧
        ' ' ∉ given.toList ∧ ' ' ∉ key.toList := by
  have hpair : parseCredential? value = some (given, key) ↔
      (Bytes.readable? value).map (Text.pieces ' ') = some [given, key] := by
    unfold parseCredential?
    split
    next heq => simp [heq]
    next hother =>
      constructor
      · intro h
        cases h
      · exact fun h => absurd h (hother given key)
  have hspace : String.singleton ' ' = " " := rfl
  simp only [hpair, Option.map_eq_some_iff, Text.pieces_eq_pair_iff, hspace]
  constructor
  · rintro ⟨text, hread, rfl, hspaces⟩
    exact ⟨hread, hspaces⟩
  · rintro ⟨hread, hspaces⟩
    exact ⟨_, hread, rfl, hspaces⟩

section Authenticate

variable {ι ξ : Type} {provider : String} {find : Finder ι ξ} {r : Incoming ι ξ}

theorem authenticate_of_presents {key : String} (h : Presents provider key r.toRequest) :
    authenticate provider find r = (find key r).mapError (.invalidKey key) := by
  obtain ⟨hread, hspaces⟩ := h
  obtain ⟨value, hfirst, hvalue⟩ := Option.bind_eq_some_iff.mp hread
  have hparse := parseCredential?_eq_some_iff.mpr ⟨hvalue, hspaces⟩
  simp only [authenticate, hfirst, hparse, if_true]

theorem authenticate_of_unreadable {value : Bytes}
    (hfirst : r.headers.first? Field.authorization = some value)
    (hvalue : Bytes.readable? value = none) :
    authenticate provider find r = .error (.invalidFormat (Bytes.lossyText value)) := by
  have hparse : parseCredential? value = none := by
    unfold parseCredential?
    rw [hvalue]
    rfl
  simp only [authenticate, hfirst, hparse]

theorem exists_presents_of_authenticate {identity : ι}
    (h : authenticate provider find r = .ok identity) :
    ∃ key, Presents provider key r.toRequest ∧ find key r = .ok identity := by
  unfold authenticate at h
  split at h
  next => cases h
  next value hfirst =>
    split at h
    next => cases h
    next given key hparse =>
      split at h
      next hgiven =>
        subst hgiven
        obtain ⟨hvalue, hspaces⟩ := parseCredential?_eq_some_iff.mp hparse
        refine ⟨key, ⟨?_, hspaces⟩, ?_⟩
        · exact Option.bind_eq_some_iff.mpr ⟨value, hfirst, hvalue⟩
        · cases hfind : find key r with
          | ok found =>
            rw [hfind] at h
            cases h
            rfl
          | error source =>
            rw [hfind] at h
            cases h
      next => cases h

/-- A request is taken for an identity if it presents a key that the finder gives this identity. -/
theorem authenticate_eq_ok_iff {identity : ι} :
    authenticate provider find r = .ok identity ↔
      ∃ key, Presents provider key r.toRequest ∧ find key r = .ok identity := by
  refine ⟨exists_presents_of_authenticate, ?_⟩
  rintro ⟨key, hpresents, hfind⟩
  rw [authenticate_of_presents hpresents, hfind]
  rfl

end Authenticate

end HttpTelemetry.Auth
