import HttpTelemetry.Proofs.Text.Figures
import HttpTelemetry.Proofs.Text.Trimmed
import HttpTelemetry.Record.ClientAddress

/-!
# Which client address is reported

A proxy chain, a single address set by a proxy and the other end of the connection can tell where a
request comes from. The first of them that is there is reported, trimmed. It is also reported if
nothing is left of it then, although one of the others may hold an address.
-/

set_option autoImplicit false

namespace HttpTelemetry

open Text (isBlank isFigure pieces trim Trimmed)

section Addresses

open Net IpAddress

theorem intercalate_ne_empty {between : String} {parts : List String} (hbetween : between ≠ "")
    (hparts : 1 < parts.length) : String.intercalate between parts ≠ "" := by
  match parts with
  | first :: second :: rest => simp [String.intercalate_cons_cons, hbetween]

theorem octetsText_ne_empty (octets : Vector UInt8 4) : octetsText octets ≠ "" := by
  apply intercalate_ne_empty (by decide)
  rw [List.length_map, Vector.length_toList]
  decide

theorem ipAddress_ne_empty (ip : IpAddress) : ip.text ≠ "" := by
  cases ip with
  | v4 octets => exact octetsText_ne_empty octets
  | v6 groups =>
    unfold IpAddress.text
    dsimp only
    split
    next octets _ => simp
    next =>
      split
      next => simp
      next =>
        apply intercalate_ne_empty (by decide)
        rw [List.length_map, Vector.length_toList]
        decide

theorem trimmed_ipAddress (ip : IpAddress) : Trimmed ip.text := by
  apply Text.trimmed_of_forall
  intro c hc
  by_cases hcolon : c = ':'
  · rw [hcolon]
    decide
  · cases hfigure : isFigure c with
    | true => exact isBlank_of_isFigure hfigure
    | false => exact absurd hc (not_mem_ipAddress hfigure hcolon ip)

end Addresses

namespace Record.ClientAddress

open Http

theorem firstEntry_eq (chain : String) :
    firstEntry chain = trim ((pieces ',' chain).headD "") := by
  unfold firstEntry
  by_cases hcomma : ',' ∈ chain.toList
  · obtain ⟨front, back, rfl, hfront⟩ := Text.exists_eq_append_of_mem hcomma
    have hlist : (front ++ String.singleton ',' ++ back).toList =
        front.toList ++ ',' :: back.toList := by
      simp
    rw [hlist, Text.takeWhile_bne_append hfront, Text.pieces_append, Text.pieces_of_not_mem hfront,
      String.ofList_toList]
    rfl
  · rw [Text.takeWhile_bne_self hcomma, Text.pieces_of_not_mem hcomma, String.ofList_toList]
    rfl

theorem headD_eq_find?_iff {texts : List String} {other : String} (hother : other ≠ "") :
    texts.headD other = (texts.find? (· ≠ "")).getD other ↔ texts.head? ≠ some "" := by
  cases texts with
  | nil => simp
  | cons first rest =>
    by_cases hfirst : first = ""
    · -- Whatever is found behind an empty text, or instead of it, is not empty.
      subst hfirst
      have hlater : (rest.find? (· ≠ "")).getD other ≠ "" := by
        cases hfound : rest.find? (· ≠ "") with
        | none => exact hother
        | some later => simpa using List.find?_some hfound
      simpa using hlater
    · simp [hfirst]

/-- The texts that tell where a request comes from, as far as it has them: the part of the proxy
chain before its first comma, the address set by a proxy, the other end of the connection. -/
def sources (r : Request) : List String :=
  ((r.headers.readable? Field.forwardedFor).map fun chain =>
      trim ((pieces ',' chain).headD "")).toList ++
    ((r.headers.readable? Field.realIp).map trim).toList ++
    (r.peer.map fun peer => peer.ip.text).toList

/-- The proxy chain is there and starts with blanks only, or it is not there and the address set by
a proxy has nothing else. -/
def StartsBlank (r : Request) : Prop :=
  match r.headers.readable? Field.forwardedFor with
  | some chain => ∀ c ∈ ((pieces ',' chain).headD "").toList, isBlank c = true
  | none => ∃ address ∈ r.headers.readable? Field.realIp, ∀ c ∈ address.toList, isBlank c = true

section Sources

variable {r : Request}

theorem head?_sources_eq_empty_iff : (sources r).head? = some "" ↔ StartsBlank r := by
  unfold sources StartsBlank
  cases hchain : r.headers.readable? Field.forwardedFor with
  | some chain => simp [Text.trim_eq_empty_iff]
  | none =>
    cases haddress : r.headers.readable? Field.realIp with
    | some address => simp [Text.trim_eq_empty_iff]
    | none =>
      cases hpeer : r.peer with
      | some peer => simp [ipAddress_ne_empty]
      | none => simp

theorem of_cases (r : Request) :
    (of r = unknown ∧ sources r = []) ∨
      (of r ≠ unknown ∧ (sources r).head? = some (of r).text) := by
  unfold of sources
  cases hchain : r.headers.readable? Field.forwardedFor with
  | some chain => simp [text, firstEntry_eq]
  | none =>
    cases haddress : r.headers.readable? Field.realIp with
    | some address => simp [text]
    | none =>
      cases hpeer : r.peer with
      | some peer => simp [text]
      | none => simp

theorem text_of (r : Request) : (of r).text = (sources r).headD unknown.text := by
  rcases of_cases r with ⟨hof, hnone⟩ | ⟨-, hhead⟩
  · rw [hof, hnone]
    rfl
  · rw [List.headD_eq_head?_getD, hhead]
    rfl

theorem of_eq_unknown_iff : of r = unknown ↔ sources r = [] := by
  rcases of_cases r with ⟨hof, hnone⟩ | ⟨hof, hhead⟩
  · exact iff_of_true hof hnone
  · refine iff_of_false hof fun hnone => ?_
    rw [hnone] at hhead
    cases hhead

theorem trimmed_text_of (r : Request) : Trimmed (of r).text := by
  unfold of
  split
  next chain _ => exact Text.trimmed_trim _
  next =>
    split
    next address _ => exact Text.trimmed_trim address
    next =>
      split
      next peer _ => exact trimmed_ipAddress peer.ip
      next =>
        have hfigures : unknown.text.toList.all isFigure = true := by decide
        apply Text.trimmed_of_forall
        exact fun c hc => isBlank_of_isFigure (List.all_eq_true.mp hfigures c hc)

end Sources

/-- The first text that tells where a request comes from is reported, without blanks around it. It
is the first of those that are not empty if and only if it is not itself empty, and nobody is known
if and only if there is none. -/
theorem first_source_reported (r : Request) :
    Trimmed (of r).text ∧
    (of r).text = (sources r).headD unknown.text ∧
    (of r = unknown ↔ sources r = []) ∧
    ((of r).text = "" ↔ StartsBlank r) ∧
    ((of r).text = ((sources r).find? (· ≠ "")).getD unknown.text ↔ ¬ StartsBlank r) := by
  have hunknown : unknown.text ≠ "" := by decide
  refine ⟨trimmed_text_of r, text_of r, of_eq_unknown_iff, ?_, ?_⟩
  · rw [text_of, ← head?_sources_eq_empty_iff]
    cases sources r with
    | nil => simp [hunknown]
    | cons source rest => simp
  · rw [text_of, headD_eq_find?_iff hunknown, Ne, head?_sources_eq_empty_iff]

/-- A proxy chain without any entries hides the address that a proxy has set. -/
theorem not_always_first_address :
    ¬ ∀ r : Request, (of r).text ≠ "" ∧
      (of r).text = ((sources r).find? (· ≠ "")).getD unknown.text := by
  intro h
  have hblank := h ⟨Method.get, .http11, ⟨none, "/", none⟩,
    [⟨Field.forwardedFor, []⟩, ⟨Field.realIp, Bytes.ofText "203.0.113.9"⟩], none⟩
  exact hblank.1 (by decide +kernel)

end Record.ClientAddress

end HttpTelemetry
