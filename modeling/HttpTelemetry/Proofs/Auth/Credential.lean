import HttpTelemetry.Auth.Credential
import Mathlib.Data.List.Count

/-!
# Requests are judged by their first authorization field

A credential is readable octets with one space among them. Of what stands in a request, the first
authorization field decides whether there is a credential and whether it is for the provider; the
finder decides the rest. It is asked once, and only about the key of a credential for the provider.
-/

set_option autoImplicit false

namespace HttpTelemetry.Http

theorem Headers.first?_eq_none_iff {headers : Headers} {name : String} :
    headers.first? name = none ↔ ∀ field ∈ headers, field.name ≠ name := by
  rw [Headers.first?, Option.map_eq_none_iff, List.find?_eq_none]
  simp only [beq_iff_eq]

theorem Headers.first?_append_cons (front back back' : Headers) (field : Header) :
    Headers.first? (front ++ field :: back') field.name =
      Headers.first? (front ++ field :: back) field.name := by
  simp [Headers.first?, List.find?_append]

end HttpTelemetry.Http

namespace HttpTelemetry.Auth

open Http

/-! ### Credentials -/

def IsCredential (value : Bytes) : Prop :=
  (∀ b ∈ value, b = 0x09 ∨ 0x20 ≤ b ∧ b ≤ 0x7E) ∧ value.count 0x20 = 1

/-- The texts on both sides of a credential's space. -/
def HasParts (value : Bytes) (given key : String) : Prop :=
  IsCredential value ∧ value = Bytes.ofText given ++ 0x20 :: Bytes.ofText key

section Values

variable {value : Bytes} {given key : String}

theorem all_isReadable_iff :
    value.all Bytes.isReadable = true ↔ ∀ b ∈ value, b = 0x09 ∨ 0x20 ≤ b ∧ b ≤ 0x7E := by
  simp [Bytes.isReadable, List.all_eq_true]

theorem space_mem_ofText_iff {s : String} : 0x20 ∈ Bytes.ofText s ↔ ' ' ∈ s.toList := by
  constructor
  · intro h
    exact Bytes.mem_of_mem_ofText h (by decide)
  · intro h
    exact Bytes.mem_ofText h (by decide)

theorem count_append_cons_eq_one_iff {α : Type} [DecidableEq α] {a : α} {front back : List α} :
    (front ++ a :: back).count a = 1 ↔ a ∉ front ∧ a ∉ back := by
  rw [List.count_append, List.count_cons_self, ← List.count_eq_zero, ← List.count_eq_zero]
  omega

theorem parseCredential?_eq_some_iff_hasParts :
    parseCredential? value = some (given, key) ↔ HasParts value given key := by
  have hwritten : Bytes.ofText (given ++ " " ++ key) =
      Bytes.ofText given ++ 0x20 :: Bytes.ofText key := by
    rw [Bytes.ofText_append, Bytes.ofText_append, List.append_assoc]
    rfl
  rw [parseCredential?_eq_some_iff, Bytes.readable?_eq_some_iff, hwritten, all_isReadable_iff,
    HasParts, IsCredential]
  constructor
  · rintro ⟨⟨hvalue, hreadable⟩, hgiven, hkey⟩
    refine ⟨⟨hreadable, ?_⟩, hvalue⟩
    rw [hvalue, count_append_cons_eq_one_iff, space_mem_ofText_iff, space_mem_ofText_iff]
    exact ⟨hgiven, hkey⟩
  · rintro ⟨⟨hreadable, hspace⟩, hvalue⟩
    rw [hvalue, count_append_cons_eq_one_iff, space_mem_ofText_iff, space_mem_ofText_iff] at hspace
    exact ⟨⟨hvalue, hreadable⟩, hspace⟩

theorem space_not_mem_given (h : HasParts value given key) : ' ' ∉ given.toList :=
  (parseCredential?_eq_some_iff.mp (parseCredential?_eq_some_iff_hasParts.mpr h)).2.1

theorem exists_hasParts (h : IsCredential value) : ∃ given key, HasParts value given key := by
  have hmem : 0x20 ∈ value := by
    rw [← List.count_pos_iff, h.2]
    exact Nat.one_pos
  obtain ⟨front, back, hvalue⟩ := List.append_of_mem hmem
  -- Both sides are ASCII, hence texts.
  have hlow : ∀ b ∈ value, b < 0x80 := by
    intro b hb
    exact Bytes.lt_of_isReadable (List.all_eq_true.mp (all_isReadable_iff.mpr h.1) b hb)
  rw [hvalue, List.forall_mem_append, List.forall_mem_cons] at hlow
  refine ⟨String.ofList (front.map Char.ofUInt8), String.ofList (back.map Char.ofUInt8), h, ?_⟩
  rw [Bytes.ofText_ofUInt8 hlow.1, Bytes.ofText_ofUInt8 hlow.2.2, hvalue]

theorem parseCredential?_eq_none_iff : parseCredential? value = none ↔ ¬ IsCredential value := by
  constructor
  · intro h hvalue
    obtain ⟨given, key, hparts⟩ := exists_hasParts hvalue
    rw [parseCredential?_eq_some_iff_hasParts.mpr hparts] at h
    cases h
  · intro h
    cases hparse : parseCredential? value with
    | none => rfl
    | some parts => exact absurd (parseCredential?_eq_some_iff_hasParts.mp hparse).1 h

end Values

/-! ### Finders that act -/

variable {ι ξ : Type} {m : Type → Type}

/-- The same decision with a finder that is an action of any kind. -/
def authenticateIn [Monad m] (provider : String)
    (find : String → Incoming ι ξ → m (Except String ι)) (r : Incoming ι ξ) :
    m (Except AuthError ι) :=
  match r.headers.first? Field.authorization with
  | none => return .error .noHeader
  | some value =>
    match parseCredential? value with
    | none => return .error (.invalidFormat (Bytes.lossyText value))
    | some (given, key) =>
      if given = provider then do
        let found ← find key r
        return found.mapError (.invalidKey key)
      else return .error (.badProvider given provider)

theorem authenticate_eq_authenticateIn (provider : String) (find : Finder ι ξ)
    (r : Incoming ι ξ) : authenticate provider find r = Id.run (authenticateIn provider find r) :=
  rfl

section Acting

variable [Monad m] {provider given key : String} {value : Bytes} {r other : Incoming ι ξ}
  (find : String → Incoming ι ξ → m (Except String ι))

theorem authenticateIn_of_first?_eq
    (h : other.headers.first? Field.authorization = r.headers.first? Field.authorization) :
    authenticateIn provider find other =
      authenticateIn provider (fun key _ => find key other) r := by
  simp only [authenticateIn, h]

theorem authenticateIn_of_none (h : r.headers.first? Field.authorization = none) :
    authenticateIn provider find r = pure (.error .noHeader) := by
  simp only [authenticateIn, h]

variable (h : r.headers.first? Field.authorization = some value)

include h

theorem authenticateIn_of_not_isCredential (hvalue : ¬ IsCredential value) :
    authenticateIn provider find r = pure (.error (.invalidFormat (Bytes.lossyText value))) := by
  simp only [authenticateIn, h, parseCredential?_eq_none_iff.mpr hvalue]

theorem authenticateIn_of_ne (hparts : HasParts value given key) (hne : given ≠ provider) :
    authenticateIn provider find r = pure (.error (.badProvider given provider)) := by
  simp only [authenticateIn, h, parseCredential?_eq_some_iff_hasParts.mpr hparts, if_neg hne]

theorem authenticateIn_of_hasParts (hparts : HasParts value provider key) :
    authenticateIn provider find r = do
      let found ← find key r
      return found.mapError (.invalidKey key) := by
  simp only [authenticateIn, h, parseCredential?_eq_some_iff_hasParts.mpr hparts, if_true]

end Acting

/-! ### Verdicts -/

/-- The verdicts that a request can get, each with what it takes to get it. -/
inductive Judged (provider : String) (find : Finder ι ξ) (r : Incoming ι ξ) :
    Except AuthError ι → Prop where
  | noHeader :
    (∀ field ∈ r.headers, field.name ≠ Field.authorization) →
    Judged provider find r (.error .noHeader)
  | invalidFormat {value : Bytes} :
    r.headers.first? Field.authorization = some value → ¬ IsCredential value →
    Judged provider find r (.error (.invalidFormat (Bytes.lossyText value)))
  | badProvider {value : Bytes} {given key : String} :
    r.headers.first? Field.authorization = some value → HasParts value given key →
    given ≠ provider → Judged provider find r (.error (.badProvider given provider))
  | invalidKey {value : Bytes} {key source : String} :
    r.headers.first? Field.authorization = some value → HasParts value provider key →
    find key r = .error source → Judged provider find r (.error (.invalidKey key source))
  | found {value : Bytes} {key : String} {identity : ι} :
    r.headers.first? Field.authorization = some value → HasParts value provider key →
    find key r = .ok identity → Judged provider find r (.ok identity)

section Verdicts

variable {provider : String} {find : Finder ι ξ} {r : Incoming ι ξ} {verdict : Except AuthError ι}

theorem authenticate_of_hasParts {value : Bytes} {key : String}
    (h : r.headers.first? Field.authorization = some value) (hparts : HasParts value provider key) :
    authenticate provider find r = (find key r).mapError (.invalidKey key) :=
  authenticateIn_of_hasParts (m := Id) find h hparts

theorem judged_authenticate (provider : String) (find : Finder ι ξ) (r : Incoming ι ξ) :
    Judged provider find r (authenticate provider find r) := by
  cases hfirst : r.headers.first? Field.authorization with
  | none =>
    have hverdict : authenticate provider find r = .error .noHeader :=
      authenticateIn_of_none (m := Id) find hfirst
    rw [hverdict]
    exact .noHeader (Headers.first?_eq_none_iff.mp hfirst)
  | some value =>
    by_cases hvalue : IsCredential value
    · obtain ⟨given, key, hparts⟩ := exists_hasParts hvalue
      by_cases hgiven : given = provider
      · subst hgiven
        rw [authenticate_of_hasParts hfirst hparts]
        cases hfind : find key r with
        | ok identity => exact .found hfirst hparts hfind
        | error source => exact .invalidKey hfirst hparts hfind
      · have hverdict : authenticate provider find r = .error (.badProvider given provider) :=
          authenticateIn_of_ne (m := Id) find hfirst hparts hgiven
        rw [hverdict]
        exact .badProvider hfirst hparts hgiven
    · have hverdict : authenticate provider find r =
          .error (.invalidFormat (Bytes.lossyText value)) :=
        authenticateIn_of_not_isCredential (m := Id) find hfirst hvalue
      rw [hverdict]
      exact .invalidFormat hfirst hvalue

theorem authenticate_eq_of_judged (h : Judged provider find r verdict) :
    authenticate provider find r = verdict := by
  cases h with
  | noHeader hnone =>
    exact authenticateIn_of_none (m := Id) find (Headers.first?_eq_none_iff.mpr hnone)
  | invalidFormat hfirst hvalue =>
    exact authenticateIn_of_not_isCredential (m := Id) find hfirst hvalue
  | badProvider hfirst hparts hne => exact authenticateIn_of_ne (m := Id) find hfirst hparts hne
  | invalidKey hfirst hparts hfind =>
    rw [authenticate_of_hasParts hfirst hparts, hfind]
    rfl
  | found hfirst hparts hfind =>
    rw [authenticate_of_hasParts hfirst hparts, hfind]
    rfl

theorem authenticateIn_of_not_asked [Monad m] (ask : String → Incoming ι ξ → m (Except String ι))
    (h : ¬ ∃ value key, r.headers.first? Field.authorization = some value ∧
      HasParts value provider key) :
    authenticateIn provider ask r = pure (authenticate provider find r) := by
  have hjudged := judged_authenticate provider find r
  generalize authenticate provider find r = verdict at hjudged ⊢
  cases hjudged with
  | noHeader hnone => exact authenticateIn_of_none ask (Headers.first?_eq_none_iff.mpr hnone)
  | invalidFormat hfirst hvalue => exact authenticateIn_of_not_isCredential ask hfirst hvalue
  | badProvider hfirst hparts hne => exact authenticateIn_of_ne ask hfirst hparts hne
  | invalidKey hfirst hparts hfind => exact absurd ⟨_, _, hfirst, hparts⟩ h
  | found hfirst hparts hfind => exact absurd ⟨_, _, hfirst, hparts⟩ h

end Verdicts

/-- Every request gets the verdict that its first authorization field calls for. A finder, whatever
it does, is asked once about the key of a credential for the provider, and in no other case. Fields
behind the first one reach the finder only, and no credential is for a provider with a space. -/
theorem judged_by_first_field (provider : String) (find : Finder ι ξ) (r : Incoming ι ξ) :
    (∀ verdict, authenticate provider find r = verdict ↔ Judged provider find r verdict) ∧
    authenticate provider find r = Id.run (authenticateIn provider find r) ∧
    (∀ (m : Type → Type) [Monad m] (ask : String → Incoming ι ξ → m (Except String ι)),
      (∀ value key, r.headers.first? Field.authorization = some value →
        HasParts value provider key → authenticateIn provider ask r = do
          let found ← ask key r
          return found.mapError (.invalidKey key)) ∧
      ((¬ ∃ value key, r.headers.first? Field.authorization = some value ∧
        HasParts value provider key) →
        authenticateIn provider ask r = pure (authenticate provider find r))) ∧
    (∀ front field back back', r.headers = front ++ field :: back →
      field.name = Field.authorization →
      let other := { r with headers := front ++ field :: back' }
      authenticate provider find other = authenticate provider (fun key _ => find key other) r) ∧
    (' ' ∈ provider.toList → ∀ identity, authenticate provider find r ≠ .ok identity) := by
  refine ⟨?_, authenticate_eq_authenticateIn provider find r, ?_, ?_, ?_⟩
  · intro verdict
    constructor
    · rintro rfl
      exact judged_authenticate provider find r
    · exact authenticate_eq_of_judged
  · intro m _ ask
    constructor
    · intro value key hfirst hparts
      exact authenticateIn_of_hasParts ask hfirst hparts
    · exact authenticateIn_of_not_asked ask
  · intro front field back back' hheaders hname other
    have hfirst : other.headers.first? Field.authorization =
        r.headers.first? Field.authorization := by
      rw [hheaders, ← hname]
      exact Headers.first?_append_cons front back back' field
    exact authenticateIn_of_first?_eq (m := Id) find hfirst
  · intro hspace identity hverdict
    have hjudged := judged_authenticate provider find r
    rw [hverdict] at hjudged
    cases hjudged with
    | found hfirst hparts hfind => exact space_not_mem_given hparts hspace

end HttpTelemetry.Auth
