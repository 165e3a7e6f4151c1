import HttpTelemetry.Http.Target
import HttpTelemetry.Proofs.Except
import HttpTelemetry.Text.Pieces

/-!
# What accepted targets are like

A target is read as an authority alone, as a star, or as a path from the root with an optional query
and possibly an authority in front of it. Path and query are read off their written form and off
nothing else, so that what has been read can be written as a target again. The texts keep to the
octets of their place; this is where everything comes from that is known of the characters of a
reported path.
-/

set_option autoImplicit false

namespace HttpTelemetry.Http.Target

open Text (takeWhile_bne_append dropWhile_bne_append takeWhile_bne_self dropWhile_bne_self)

/-! ### Path and query -/

/-- A path and a query as they stand in a target. -/
def written (path : String) : Option String → String
  | none => path
  | some query => path ++ "?" ++ query

structure IsPathQuery (path : String) (query : Option String) : Prop where
  path : (Bytes.ofText path).all isPathByte = true
  query : ∀ q ∈ query, (Bytes.ofText q).all isQueryByte = true

theorem written_eq_append (path : String) (query : Option String) :
    written path query = path ++ written "" query := by
  cases query with
  | none => simp [written]
  | some q => simp [written, String.append_assoc]

theorem ofText_written_some (path query : String) :
    Bytes.ofText (written path (some query)) =
      Bytes.ofText path ++ question :: Bytes.ofText query := by
  have hmark : Bytes.ofText "?" = [question] := by decide +kernel
  rw [written, Bytes.ofText_append, Bytes.ofText_append, hmark, List.append_assoc]
  rfl

theorem isPathQuery_root {query : Option String}
    (h : ∀ q ∈ query, (Bytes.ofText q).all isQueryByte = true) : IsPathQuery "/" query :=
  ⟨by decide +kernel, h⟩

section PathQuery

variable {b : Bytes} {path : String} {query : Option String}

theorem IsPathQuery.question_not_mem (h : IsPathQuery path query) :
    question ∉ Bytes.ofText path :=
  not_mem_of_all h.path rfl

theorem IsPathQuery.hash_not_mem (h : IsPathQuery path query) :
    hash ∉ Bytes.ofText (written path query) := by
  have hpath : hash ∉ Bytes.ofText path := not_mem_of_all h.path rfl
  cases query with
  | none => exact hpath
  | some q =>
    have hquery : hash ∉ Bytes.ofText q := not_mem_of_all (h.query q rfl) rfl
    have hmark : hash ≠ question := by decide
    rw [ofText_written_some, List.mem_append, List.mem_cons]
    rintro (hmem | hmem | hmem)
    · exact hpath hmem
    · exact hmark hmem
    · exact hquery hmem

theorem of_parsePathQuery (h : parsePathQuery b = .ok (path, query)) :
    b.takeWhile (· != hash) = Bytes.ofText (written path query) ∧ IsPathQuery path query := by
  unfold parsePathQuery at h
  generalize b.takeWhile (· != hash) = shown at h ⊢
  dsimp only at h
  split at h
  next hall =>
    split at h
    next p q hp hq =>
      obtain ⟨rfl, rfl⟩ := Prod.mk.inj (Except.ok.inj h)
      rw [Bool.and_eq_true] at hall
      have hpath := Bytes.ofText_of_toText? hp
      have hquery := Bytes.ofText_of_toText? hq
      by_cases hmark : question ∈ shown
      · obtain ⟨front, back, rfl, hfront⟩ := List.eq_append_cons_of_mem hmark
        rw [takeWhile_bne_append hfront, dropWhile_bne_append hfront] at hall
        rw [takeWhile_bne_append hfront] at hpath
        rw [dropWhile_bne_append hfront, List.drop_one, List.tail_cons] at hquery
        rw [if_pos (List.contains_iff_mem.mpr hmark), ofText_written_some, hpath, hquery]
        refine ⟨rfl, hpath ▸ hall.1, ?_⟩
        rintro _ ⟨⟩
        rw [hquery]
        exact hall.2
      · have hnone : ¬ shown.contains question = true := fun h =>
          hmark (List.contains_iff_mem.mp h)
        rw [takeWhile_bne_self hmark] at hall hpath
        rw [if_neg hnone, written, hpath]
        refine ⟨rfl, hpath ▸ hall.1, ?_⟩
        rintro _ ⟨⟩
    next => cases h
  next => cases h

theorem parsePathQuery_written (h : IsPathQuery path query) :
    parsePathQuery (Bytes.ofText (written path query)) = .ok (path, query) := by
  have hmark := h.question_not_mem
  unfold parsePathQuery
  rw [takeWhile_bne_self h.hash_not_mem]
  cases query with
  | none =>
    have hempty : Bytes.toText? [] = some "" := Bytes.toText?_ofText ""
    have hnone : (Bytes.ofText path).contains question = false := by simpa using hmark
    simp only [written, takeWhile_bne_self hmark, dropWhile_bne_self hmark, h.path, List.drop_nil,
      List.all_nil, Bytes.toText?_ofText, hempty, hnone]
    rfl
  | some q =>
    have hsome : (Bytes.ofText path ++ question :: Bytes.ofText q).contains question = true := by
      simp
    simp only [ofText_written_some, takeWhile_bne_append hmark, dropWhile_bne_append hmark, h.path,
      List.drop_one, List.tail_cons, h.query q rfl, Bytes.toText?_ofText, hsome]
    rfl

/-- A path and a query are read if their written form stands in front of the first hash. -/
theorem parsePathQuery_eq_ok_iff :
    parsePathQuery b = .ok (path, query) ↔
      b.takeWhile (· != hash) = Bytes.ofText (written path query) ∧ IsPathQuery path query := by
  refine ⟨of_parsePathQuery, ?_⟩
  rintro ⟨hshown, hread⟩
  have hcut : hash ∉ b.takeWhile (· != hash) := not_mem_of_all List.all_takeWhile rfl
  have hsame : parsePathQuery b = parsePathQuery (b.takeWhile (· != hash)) := by
    unfold parsePathQuery
    rw [takeWhile_bne_self hcut]
  rw [hsame, hshown, parsePathQuery_written hread]

theorem length_written_le (h : parsePathQuery b = .ok (path, query)) :
    (Bytes.ofText (written path query)).length ≤ b.length := by
  rw [← (of_parsePathQuery h).1]
  exact (List.takeWhile_sublist _).length_le

/-! ### Where a path begins -/

/-- A path that is not empty begins like the octets that it is read from. -/
theorem head?_of_parsePathQuery (h : parsePathQuery b = .ok (path, query)) (hpath : path ≠ "") :
    ∃ c rest, Bytes.ofText path = c :: rest ∧ b.head? = some c ∧ isPathByte c = true := by
  obtain ⟨hshown, hread⟩ := of_parsePathQuery h
  cases hoctets : Bytes.ofText path with
  | nil => exact absurd (Bytes.ofText_inj.mp hoctets) hpath
  | cons c rest =>
    refine ⟨c, rest, rfl, ?_, ?_⟩
    · have hhead : (b.takeWhile (· != hash)).head? = some c := by
        rw [hshown, written_eq_append, Bytes.ofText_append, hoctets]
        rfl
      cases b with
      | nil => cases hhead
      | cons d more =>
        rw [List.takeWhile_cons] at hhead
        split at hhead
        next => exact hhead
        next => cases hhead
    · have hall := hread.path
      rw [hoctets, List.all_cons, Bool.and_eq_true] at hall
      exact hall.1

theorem exists_slash_append {rest : Bytes} (h : Bytes.ofText path = slash :: rest) :
    ∃ tail, path = "/" ++ tail :=
  Bytes.exists_append_of_ofText_eq_cons h (by decide)

/-- Behind an authority stands a path from the root or none at all. -/
theorem rooted_of_endsAuthority (h : parsePathQuery b = .ok (path, query))
    (hb : ∀ c ∈ b.head?, endsAuthority c = true) : path = "" ∨ ∃ tail, path = "/" ++ tail := by
  by_cases hpath : path = ""
  · exact .inl hpath
  · obtain ⟨c, rest, hoctets, hhead, hbyte⟩ := head?_of_parsePathQuery h hpath
    have hends := hb c hhead
    simp only [endsAuthority, Bool.or_eq_true, beq_iff_eq] at hends
    rcases hends with (rfl | rfl) | rfl
    · exact .inr (exists_slash_append hoctets)
    · cases hbyte
    · cases hbyte

theorem rooted_of_slash {rest : Bytes} (h : parsePathQuery (slash :: rest) = .ok (path, query)) :
    ∃ tail, path = "/" ++ tail := by
  have hpath : path ≠ "" := by
    rintro rfl
    obtain ⟨hshown, -⟩ := of_parsePathQuery h
    rw [List.takeWhile_cons, if_pos (by decide)] at hshown
    cases query with
    | none => cases hshown
    | some q =>
      rw [ofText_written_some] at hshown
      cases (List.cons.inj hshown).1
  obtain ⟨c, more, hoctets, hhead, -⟩ := head?_of_parsePathQuery h hpath
  cases hhead
  exact exists_slash_append hoctets

end PathQuery

/-! ### Authorities -/

def IsAuthority (a : String) : Prop := a ≠ "" ∧ (Bytes.ofText a).all isAuthorityByte = true

theorem isAuthorityByte_of_step {s next : AuthorityScan} {b : UInt8} (h : s.step b = .ok next) :
    isAuthorityByte b = true := by
  unfold AuthorityScan.step at h
  cases hb : isAuthorityByte b with
  | true => rfl
  | false =>
    rw [hb] at h
    cases h

theorem all_isAuthorityByte_of_scan {s last : AuthorityScan} {b : Bytes}
    (h : b.foldlM AuthorityScan.step s = .ok last) : b.all isAuthorityByte = true := by
  induction b generalizing s with
  | nil => rfl
  | cons c rest ih =>
    rw [List.foldlM_cons] at h
    obtain ⟨next, hstep, hrest⟩ := exists_of_bind_eq_ok h
    rw [List.all_cons, isAuthorityByte_of_step hstep, ih hrest]
    rfl

theorem lt_of_isAuthorityByte {b : UInt8} (h : isAuthorityByte b = true) : b < 0x80 :=
  Bytes.lt_of_forall_high (by decide +kernel) h

theorem of_parseAuthority {b front rest : Bytes} (h : parseAuthority b = .ok (front, rest)) :
    front.all isAuthorityByte = true ∧ b = front ++ rest ∧ b ≠ [] ∧
      ∀ c ∈ rest.head?, endsAuthority c = true := by
  unfold parseAuthority at h
  split at h
  next => cases h
  next hne =>
    dsimp only at h
    obtain ⟨scan, hscan, h⟩ := exists_of_bind_eq_ok h
    split at h
    next =>
      obtain ⟨rfl, rfl⟩ := Prod.mk.inj (Except.ok.inj h)
      have hcut := List.takeWhile_append_dropWhile (p := fun c => !endsAuthority c) (l := b)
      have hrest := @List.drop_left _ (b.takeWhile fun c => !endsAuthority c)
        (b.dropWhile fun c => !endsAuthority c)
      rw [hcut] at hrest
      rw [hrest]
      refine ⟨all_isAuthorityByte_of_scan hscan, hcut.symm, ?_, ?_⟩
      · rintro rfl
        exact hne rfl
      · intro c hc
        have hstop := List.head?_dropWhile_not (fun c => !endsAuthority c) b
        rw [hc] at hstop
        simpa using hstop
    next => cases h

theorem exists_isAuthority {b : Bytes} (h : b.all isAuthorityByte = true) (hne : b ≠ []) :
    ∃ a, Bytes.toText? b = some a ∧ IsAuthority a := by
  have hlow : ∀ c ∈ b, c < 0x80 := fun c hc => lt_of_isAuthorityByte (List.all_eq_true.mp h c hc)
  have hoctets := Bytes.ofText_ofUInt8 hlow
  refine ⟨_, Bytes.toText?_of_ascii hlow, ?_, ?_⟩
  · intro hempty
    rw [hempty] at hoctets
    exact hne hoctets.symm
  · rw [hoctets]
    exact h

/-! ### Targets -/

/-- The forms of targets. -/
inductive Accepted : Target → Prop where
  | authority {a : String} : IsAuthority a → Accepted ⟨some a, "", none⟩
  | star : Accepted ⟨none, "*", none⟩
  | path {authority : Option String} {path : String} {query : Option String} :
      (∀ a ∈ authority, IsAuthority a) → (∃ tail, path = "/" ++ tail) → IsPathQuery path query →
      (Bytes.ofText (written path query)).length ≤ longest → Accepted ⟨authority, path, query⟩

theorem Accepted.isAuthority {t : Target} (h : Accepted t) :
    ∀ a ∈ t.authority, IsAuthority a := by
  cases h with
  | authority ha =>
    rintro _ ⟨⟩
    exact ha
  | star =>
    rintro _ ⟨⟩
  | path ha _ _ _ => exact ha

theorem slash_append_ne (tail : String) : "/" ++ tail ≠ "" := by
  simp

theorem accepted_of_parseAuthorityAlone {b : Bytes} {e : TargetError} {t : Target}
    (h : parseAuthorityAlone b e = .ok t) : Accepted t := by
  obtain ⟨⟨front, rest⟩, hauthority, h⟩ := exists_of_bind_eq_ok h
  obtain ⟨hall, hb, hne, -⟩ := of_parseAuthority hauthority
  cases rest with
  | cons c more => cases h
  | nil =>
    rw [List.append_nil] at hb
    obtain ⟨a, ha, hisAuthority⟩ := exists_isAuthority hall (hb ▸ hne)
    obtain rfl := Except.ok.inj h
    rw [ha]
    exact .authority hisAuthority

/-- The scheme in front makes up for the slash of an empty path. -/
theorem accepted_of_parseAbsolute {b : Bytes} {t : Target} (hlength : b.length < longest)
    (h : parseAbsolute b = .ok t) : Accepted t := by
  obtain ⟨⟨front, rest⟩, hauthority, h⟩ := exists_of_bind_eq_ok h
  obtain ⟨hall, hb, -, hends⟩ := of_parseAuthority hauthority
  cases front with
  | nil => cases h
  | cons c more =>
    obtain ⟨⟨path, query⟩, hpath, h⟩ := exists_of_bind_eq_ok h
    obtain rfl := Except.ok.inj h
    obtain ⟨a, ha, hisAuthority⟩ := exists_isAuthority hall (List.cons_ne_nil c more)
    obtain ⟨-, hread⟩ := of_parsePathQuery hpath
    have hauthorities : ∀ given ∈ some a, IsAuthority given := by
      rintro _ ⟨⟩
      exact hisAuthority
    have hwritten := length_written_le hpath
    have hrest : rest.length ≤ b.length := by
      rw [hb, List.length_append]
      omega
    rw [ha]
    rcases rooted_of_endsAuthority hpath hends with rfl | hrooted
    · rw [if_pos rfl]
      refine .path hauthorities ⟨"", rfl⟩ (isPathQuery_root hread.query) ?_
      have hroot : (Bytes.ofText "/").length = 1 := by decide +kernel
      rw [written_eq_append, Bytes.ofText_append, List.length_append]
      omega
    · have hne : path ≠ "" := by
        obtain ⟨tail, rfl⟩ := hrooted
        exact slash_append_ne tail
      rw [if_neg hne]
      exact .path hauthorities hrooted hread (by omega)

theorem length_lt_of_afterScheme {b rest : Bytes} (hne : b ≠ [])
    (h : afterScheme b = .ok (some rest)) : rest.length < b.length := by
  have hpos : 0 < b.length := List.length_pos_iff.mpr hne
  unfold afterScheme at h
  split at h
  next =>
    cases h
    rw [List.length_drop]
    omega
  next =>
    split at h
    next =>
      cases h
      rw [List.length_drop]
      omega
    next =>
      dsimp only at h
      split at h
      next =>
        split at h
        next => cases h
        next =>
          cases h
          rw [List.length_drop, List.length_drop]
          omega
      next => cases h

theorem accepted_of_parse {b : Bytes} {t : Target} (h : parse b = .ok t) : Accepted t := by
  unfold parse at h
  split at h
  next => cases h
  next hlength =>
    split at h
    next => cases h
    next c =>
      split at h
      next =>
        cases h
        exact .path (by simp) ⟨"", rfl⟩ (isPathQuery_root (by simp)) (by decide +kernel)
      next =>
        split at h
        next =>
          cases h
          exact .star
        next => exact accepted_of_parseAuthorityAlone h
    next c rest _ =>
      split at h
      next hc =>
        subst hc
        obtain ⟨⟨path, query⟩, hpath, h⟩ := exists_of_bind_eq_ok h
        obtain rfl := Except.ok.inj h
        have hwritten := length_written_le hpath
        refine .path (by simp) (rooted_of_slash hpath) (of_parsePathQuery hpath).2 ?_
        omega
      next =>
        obtain ⟨after, hscheme, h⟩ := exists_of_bind_eq_ok h
        cases after with
        | none => exact accepted_of_parseAuthorityAlone h
        | some absolute =>
          have hshorter := length_lt_of_afterScheme (List.cons_ne_nil c rest) hscheme
          exact accepted_of_parseAbsolute (by omega) h

theorem parse_of_slash {rest : Bytes} {path : String} {query : Option String}
    (hpath : parsePathQuery (slash :: rest) = .ok (path, query))
    (hlength : (slash :: rest).length ≤ longest) :
    parse (slash :: rest) = .ok ⟨none, path, query⟩ := by
  unfold parse
  rw [if_neg (Nat.not_lt.mpr hlength)]
  cases rest with
  | nil =>
    -- A slash alone is not read as a path with a query, but to the same effect.
    have hmark : Bytes.ofText (written "/" none) = [slash] := by decide +kernel
    have hslash : parsePathQuery (Bytes.ofText (written "/" none)) = .ok ("/", none) :=
      parsePathQuery_written (isPathQuery_root (by simp))
    rw [hmark] at hslash
    obtain ⟨rfl, rfl⟩ := Prod.mk.inj (Except.ok.inj (hpath.symm.trans hslash))
    rfl
  | cons c more =>
    simp only [if_true, hpath]
    rfl

/-- A path from the root and its query are read back from their written form. -/
theorem parse_written {path : String} {query : Option String} (hroot : ∃ tail, path = "/" ++ tail)
    (hread : IsPathQuery path query)
    (hlength : (Bytes.ofText (written path query)).length ≤ longest) :
    parse (Bytes.ofText (written path query)) = .ok ⟨none, path, query⟩ := by
  have hpath := parsePathQuery_written hread
  have hfirst : ∃ rest, Bytes.ofText (written path query) = slash :: rest := by
    obtain ⟨tail, rfl⟩ := hroot
    refine ⟨Bytes.ofText (tail ++ written "" query), ?_⟩
    rw [written_eq_append, String.append_assoc, Bytes.ofText_append]
    rfl
  obtain ⟨rest, hrest⟩ := hfirst
  rw [hrest] at hpath hlength ⊢
  exact parse_of_slash hpath hlength

theorem parse_star : parse (Bytes.ofText "*") = .ok ⟨none, "*", none⟩ := by
  have hmark : Bytes.ofText "*" = [star] := by decide +kernel
  rw [hmark]
  rfl

end HttpTelemetry.Http.Target
