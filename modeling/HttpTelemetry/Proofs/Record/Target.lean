import HttpTelemetry.Proofs.Http.Request
import HttpTelemetry.Record.Basic
import Mathlib.Order.Basic

/-!
# Reported targets are targets

What a request is reported under is a target itself, and reporting a request for that target changes
nothing any more: the scheme, the authority, the fragment and an empty query are gone, and what is
left stays. Only requests that open a tunnel are reported under an authority, which may be missing.
-/

set_option autoImplicit false

namespace HttpTelemetry.Record

open Http
open Http.Target (Accepted IsPathQuery written)

theorem isTunnel_iff {r : Request} :
    isTunnel r = true ↔ r.version = .http2 ∧ r.method = Method.connect := by
  rw [isTunnel, Bool.and_eq_true, beq_iff_eq, beq_iff_eq]

section Tunnel

variable {r : Request}

theorem reportedPath_of_tunnel (h : isTunnel r = true) : reportedPath r = tunnelAuthority r :=
  if_pos h

theorem reportedUri_of_tunnel (h : isTunnel r = true) : reportedUri r = tunnelAuthority r :=
  if_pos h

theorem reportedPath_of_not_tunnel (h : isTunnel r = false) :
    reportedPath r = shownPath r.target.path := by
  rw [reportedPath, h]
  rfl

theorem reportedUri_of_not_tunnel (h : isTunnel r = false) :
    reportedUri r = withQuery (shownPath r.target.path) r.target.query := by
  rw [reportedUri, h]
  rfl

end Tunnel

/-! ### Shown targets -/

/-- The query that is shown, which is never empty. -/
def shownQuery (query : Option String) : Option String := query.filter (· != "")

theorem shownQuery_of_ne {q : String} (h : q ≠ "") : shownQuery (some q) = some q :=
  Option.filter_some_pos (bne_iff_ne.mpr h)

theorem mem_shownQuery_iff {query : Option String} {q : String} :
    q ∈ shownQuery query ↔ q ∈ query ∧ q ≠ "" := by
  rw [shownQuery, Option.mem_filter_iff, bne_iff_ne]

theorem withQuery_eq_written (path : String) (query : Option String) :
    withQuery path query = written path (shownQuery query) := by
  cases query with
  | none => rfl
  | some q =>
    by_cases hq : q = ""
    · subst hq
      rfl
    · rw [shownQuery_of_ne hq, withQuery, if_neg hq, written]

theorem length_written_shownQuery_le (path : String) (query : Option String) :
    (Bytes.ofText (written path (shownQuery query))).length ≤
      (Bytes.ofText (written path query)).length := by
  cases query with
  | none => exact Nat.le_refl _
  | some q =>
    by_cases hq : q = ""
    · subst hq
      rw [Target.ofText_written_some, List.length_append]
      exact Nat.le_add_right _ _
    · exact Nat.le_of_eq (by rw [shownQuery_of_ne hq])

theorem shownPath_of_ne {path : String} (h : path ≠ "") : shownPath path = path := if_neg h

/-- A path from the root with a query that is not empty, and not too long for a target. -/
structure IsShown (path : String) (query : Option String) : Prop where
  root : ∃ tail, path = "/" ++ tail
  read : IsPathQuery path query
  nonempty : ∀ q ∈ query, q ≠ ""
  length : (Bytes.ofText (written path query)).length ≤ Target.longest

theorem isShown_root : IsShown "/" none where
  root := ⟨"", rfl⟩
  read := Target.isPathQuery_root (by simp)
  nonempty := by simp
  length := by decide +kernel

/-- A star is shown as it is, and every other target as a path from the root. -/
theorem star_or_isShown {t : Target} (h : Accepted t) :
    (t.path = "*" ∧ t.query = none) ∨ IsShown (shownPath t.path) (shownQuery t.query) := by
  cases h with
  | star => exact .inl ⟨rfl, rfl⟩
  | authority _ => exact .inr isShown_root
  | path _ hroot hread hlength =>
    right
    have hpath := hroot
    obtain ⟨tail, rfl⟩ := hpath
    rw [shownPath_of_ne (Target.slash_append_ne tail)]
    constructor
    case root => exact hroot
    case read =>
      refine ⟨hread.path, ?_⟩
      intro q hq
      exact hread.query q (mem_shownQuery_iff.mp hq).1
    case nonempty =>
      intro q hq
      exact (mem_shownQuery_iff.mp hq).2
    case length => exact Nat.le_trans (length_written_shownQuery_le _ _) hlength

section Shown

variable {path : String} {query : Option String}

theorem IsShown.ne (h : IsShown path query) : path ≠ "" := by
  obtain ⟨tail, rfl⟩ := h.root
  exact Target.slash_append_ne tail

theorem IsShown.question_not_mem (h : IsShown path query) : '?' ∉ path.toList :=
  Bytes.not_mem_of_all_ofText h.read.path (by decide) rfl

theorem IsShown.hash_not_mem (h : IsShown path query) : '#' ∉ path.toList :=
  Bytes.not_mem_of_all_ofText h.read.path (by decide) rfl

theorem IsShown.hash_not_mem_query (h : IsShown path query) : ∀ q ∈ query, '#' ∉ q.toList := by
  intro q hq
  exact Bytes.not_mem_of_all_ofText (h.read.query q hq) (by decide) rfl

end Shown

/-! ### Characters -/

theorem all_isPathByte_shownPath {t : Target} (h : Accepted t) :
    (Bytes.ofText (shownPath t.path)).all Target.isPathByte = true := by
  rcases star_or_isShown h with ⟨hstar, -⟩ | hshown
  · rw [hstar]
    decide +kernel
  · exact hshown.read.path

section Characters

variable {r : Request} {c : Char} (hc : c.val < 0x80)
  (hfield : Bytes.isReadable c.toUInt8 = false)

include hc hfield

theorem not_mem_fieldText (name : String) : c ∉ (RequestRecord.fieldText r name).toList := by
  unfold RequestRecord.fieldText
  cases htext : r.headers.readable? name with
  | none => exact List.not_mem_nil
  | some text => exact Headers.not_mem_of_readable? htext hc hfield

theorem not_mem_tunnelAuthority (h : Request.Accepted r)
    (hauthority : Target.isAuthorityByte c.toUInt8 = false) :
    c ∉ (tunnelAuthority r).toList := by
  unfold tunnelAuthority
  split
  next a ha => exact Bytes.not_mem_of_all_ofText (h.target.isAuthority a ha).2 hc hauthority
  next => exact not_mem_fieldText hc hfield Field.host

/-- Nothing comes into a reported path but by the path, the authority or the host field. -/
theorem not_mem_reportedPath (h : Request.Accepted r)
    (hpath : Target.isPathByte c.toUInt8 = false)
    (hauthority : Target.isAuthorityByte c.toUInt8 = false) :
    c ∉ (reportedPath r).toList := by
  cases hr : isTunnel r with
  | true =>
    rw [reportedPath_of_tunnel hr]
    exact not_mem_tunnelAuthority hc hfield h hauthority
  | false =>
    rw [reportedPath_of_not_tunnel hr]
    exact Bytes.not_mem_of_all_ofText (all_isPathByte_shownPath h.target) hc hpath

end Characters

/-! ### Reports -/

/-- A request is reported under a path and a query: the path is what stands before the first
question mark, and the two together are a target that is reported as it is. -/
structure ReportsPath (r : Request) (shown : ReportedTarget) : Prop where
  path : shown.path = "*" ∨ ∃ tail, shown.path = "/" ++ tail
  unmarked : '?' ∉ shown.path.toList ∧ '#' ∉ shown.path.toList
  uri : shown.uri = shown.path ∨
    ∃ query, query ≠ "" ∧ '#' ∉ query.toList ∧ shown.uri = shown.path ++ "?" ++ query
  cut : shown.path = String.ofList (shown.uri.toList.takeWhile (· != '?'))
  fixed : ∃ t, Target.parse (Bytes.ofText shown.uri) = .ok t ∧ ∀ other : Request,
    other.method = r.method → other.version = r.version → other.target = t →
      ReportedTarget.of other = shown

/-- A request is reported under one text alone: the authority of its target, or else its first host
field if that is readable, or else nothing. -/
structure ReportsAuthority (r : Request) (shown : ReportedTarget) : Prop where
  path : shown.path = shown.uri
  target : ∀ a, r.target.authority = some a → shown.uri = a
  host : r.target.authority = none → ∀ text, r.headers.readable? Field.host = some text →
    shown.uri = text
  nothing : r.target.authority = none → r.headers.readable? Field.host = none → shown.uri = ""

theorem isTunnel_congr {r other : Request} (hmethod : other.method = r.method)
    (hversion : other.version = r.version) : isTunnel other = isTunnel r := by
  rw [isTunnel, isTunnel, hmethod, hversion]

theorem takeWhile_written {path : String} (h : '?' ∉ path.toList) (query : Option String) :
    (written path query).toList.takeWhile (· != '?') = path.toList := by
  cases query with
  | none => exact Text.takeWhile_bne_self h
  | some q =>
    have hlist : (written path (some q)).toList = path.toList ++ '?' :: q.toList := by
      simp [written]
    rw [hlist]
    exact Text.takeWhile_bne_append h q.toList

section Shown

variable {r : Request} {path : String} {query : Option String}

theorem reportedTarget_of_shown (hr : isTunnel r = false)
    (hpath : shownPath r.target.path = path) (hquery : shownQuery r.target.query = query) :
    ReportedTarget.of r = ⟨written path query, path⟩ := by
  rw [ReportedTarget.of, reportedUri_of_not_tunnel hr, reportedPath_of_not_tunnel hr, hpath,
    withQuery_eq_written, hquery]

theorem shownQuery_of_isShown (h : IsShown path query) : shownQuery query = query := by
  cases query with
  | none => rfl
  | some q => exact shownQuery_of_ne (h.nonempty q rfl)

theorem reportsPath_of_isShown (h : IsShown path query) (hr : isTunnel r = false) :
    ReportsPath r ⟨written path query, path⟩ := by
  constructor
  case path => exact .inr h.root
  case unmarked => exact ⟨h.question_not_mem, h.hash_not_mem⟩
  case uri =>
    cases query with
    | none => exact .inl rfl
    | some q => exact .inr ⟨q, h.nonempty q rfl, h.hash_not_mem_query q rfl, rfl⟩
  case cut =>
    dsimp only
    rw [takeWhile_written h.question_not_mem, String.ofList_toList]
  case fixed =>
    refine ⟨_, Target.parse_written h.root h.read h.length, ?_⟩
    intro other hmethod hversion htarget
    have hother : isTunnel other = false := (isTunnel_congr hmethod hversion).trans hr
    apply reportedTarget_of_shown hother
    · rw [htarget]
      exact shownPath_of_ne h.ne
    · rw [htarget]
      exact shownQuery_of_isShown h

theorem reportsPath_star (hr : isTunnel r = false) : ReportsPath r ⟨"*", "*"⟩ := by
  constructor
  case path => exact .inl rfl
  case unmarked => decide
  case uri => exact .inl rfl
  case cut => rfl
  case fixed =>
    refine ⟨_, Target.parse_star, ?_⟩
    intro other hmethod hversion htarget
    have hother : isTunnel other = false := (isTunnel_congr hmethod hversion).trans hr
    rw [ReportedTarget.of, reportedUri_of_not_tunnel hother, reportedPath_of_not_tunnel hother,
      htarget]
    rfl

theorem reportsPath_of_accepted (h : Request.Accepted r) (hr : isTunnel r = false) :
    ReportsPath r (ReportedTarget.of r) := by
  rcases star_or_isShown h.target with ⟨hpath, hquery⟩ | hshown
  · have hreported : ReportedTarget.of r = ⟨"*", "*"⟩ := by
      rw [ReportedTarget.of, reportedUri_of_not_tunnel hr, reportedPath_of_not_tunnel hr, hpath,
        hquery]
      rfl
    rw [hreported]
    exact reportsPath_star hr
  · rw [reportedTarget_of_shown hr rfl rfl]
    exact reportsPath_of_isShown hshown hr

theorem reportsAuthority_of_tunnel (hr : isTunnel r = true) :
    ReportsAuthority r (ReportedTarget.of r) := by
  have hreported : ReportedTarget.of r = ⟨tunnelAuthority r, tunnelAuthority r⟩ := by
    rw [ReportedTarget.of, reportedUri_of_tunnel hr, reportedPath_of_tunnel hr]
  rw [hreported]
  constructor
  case path => rfl
  case target =>
    intro a ha
    simp only [tunnelAuthority, ha]
  case host =>
    intro hnone text htext
    simp only [tunnelAuthority, hnone, htext, Option.getD_some]
  case nothing =>
    intro hnone hhost
    simp only [tunnelAuthority, hnone, hhost, Option.getD_none]

end Shown

theorem ReportsPath.path_ne {r : Request} {shown : ReportedTarget} (h : ReportsPath r shown) :
    shown.path ≠ "" := by
  rcases h.path with hstar | ⟨tail, htail⟩
  · rw [hstar]
    decide
  · rw [htail]
    exact Target.slash_append_ne tail

theorem ReportsPath.uri_ne {r : Request} {shown : ReportedTarget} (h : ReportsPath r shown) :
    shown.uri ≠ "" := by
  intro hempty
  have hcut := h.cut
  rw [hempty] at hcut
  exact h.path_ne hcut

/-- Every accepted request is reported under a path and a query that are reported as themselves,
unless it opens a tunnel; then, and only then, there may be nothing to report. -/
theorem reportedTarget_projects {raw : RawRequest} {r : Request} (h : Request.parse raw = .ok r) :
    (¬ (r.version = .http2 ∧ r.method = Method.connect) →
      ReportsPath r (ReportedTarget.of r)) ∧
    (r.version = .http2 ∧ r.method = Method.connect →
      ReportsAuthority r (ReportedTarget.of r)) ∧
    ((ReportedTarget.of r).uri = "" ∨ (ReportedTarget.of r).path = "" →
      r.version = .http2 ∧ r.method = Method.connect) := by
  rw [← isTunnel_iff, Bool.not_eq_true]
  have hpath := reportsPath_of_accepted (Request.accepted_of_parse h)
  refine ⟨hpath, reportsAuthority_of_tunnel, ?_⟩
  intro hempty
  by_contra hr
  have hshown := hpath (Bool.eq_false_iff.mpr hr)
  rcases hempty with huri | hpath
  · exact hshown.uri_ne huri
  · exact hshown.path_ne hpath

/-- The scheme, the authority and the fragment are gone, and what looks like a path or a further
query belongs to the query. -/
theorem reportedTarget_projects_absolute :
    let raw : RawRequest := { target := Bytes.ofText "HTTP://a@b:80?q=/?#top" }
    let r : Request := ⟨Method.get, .http11, ⟨some "a@b:80", "/", some "q=/?"⟩, [], none⟩
    Request.parse raw = .ok r ∧ ReportedTarget.of r = ⟨"/?q=/?", "/"⟩ ∧
      ReportsPath r ⟨"/?q=/?", "/"⟩ := by
  intro raw r
  have hr : Request.parse raw = .ok r := by decide +kernel
  obtain ⟨hpath, -, -⟩ := reportedTarget_projects hr
  exact ⟨hr, rfl, hpath (by decide)⟩

end HttpTelemetry.Record
