import HttpTelemetry.Proofs.Http.Request
import Mathlib.Data.List.TakeWhile

/-!
# Targets without their query

What stands in front of the first question mark decides what a target is for. Cutting an accepted
target there takes its query away and leaves authority and path as they are, so two accepted targets
that agree up to that mark differ in their queries only, and so do requests for them that agree in
everything else.
-/

set_option autoImplicit false

namespace HttpTelemetry.Http

namespace Target

/-- What stands in front of the first question mark. -/
def unqueried (b : Bytes) : Bytes := b.takeWhile (· != question)

section Cutting

variable {b front : Bytes}

theorem isPrefix_unqueried (b : Bytes) : unqueried b <+: b := List.takeWhile_prefix _

theorem unqueried_append (h : question ∉ front) (b : Bytes) :
    unqueried (front ++ b) = front ++ unqueried b :=
  List.takeWhile_append_of_pos (Text.bne_of_not_mem h)

theorem unqueried_of_not_mem (h : question ∉ b) : unqueried b = b := Text.takeWhile_bne_self h

theorem take_unqueried (n : Nat) (b : Bytes) : (unqueried b).take n = unqueried (b.take n) :=
  List.take_takeWhile

theorem drop_unqueried {n : Nat} (h : question ∉ b.take n) :
    (unqueried b).drop n = unqueried (b.drop n) := by
  induction b generalizing n with
  | nil => cases n <;> rfl
  | cons c rest ih =>
    cases n with
    | zero => rfl
    | succ n =>
      rw [List.take_succ_cons, List.mem_cons, not_or] at h
      have hc : unqueried (c :: rest) = c :: unqueried rest :=
        List.takeWhile_cons_of_pos (bne_iff_ne.mpr (Ne.symm h.1))
      rw [hc, List.drop_succ_cons, List.drop_succ_cons, ih h.2]

theorem takeWhile_unqueried (p : UInt8 → Bool) (b : Bytes) :
    (unqueried b).takeWhile p = unqueried (b.takeWhile p) := by
  rw [unqueried, unqueried, List.takeWhile_takeWhile, List.takeWhile_takeWhile]
  simp only [and_comm]

theorem forall_head?_unqueried {p : UInt8 → Prop} (h : ∀ c ∈ b.head?, p c) :
    ∀ c ∈ (unqueried b).head?, p c := by
  intro c hc
  rw [unqueried, List.head?_takeWhile] at hc
  exact h c (Option.mem_filter_iff.mp hc).1

end Cutting

/-! ### Path and query -/

section PathQuery

variable {b : Bytes} {path : String} {query : Option String}

theorem unqueried_written (h : IsPathQuery path query) :
    unqueried (Bytes.ofText (written path query)) = Bytes.ofText path := by
  cases query with
  | none => exact unqueried_of_not_mem h.question_not_mem
  | some q =>
    rw [ofText_written_some]
    exact Text.takeWhile_bne_append h.question_not_mem _

/-- A question mark behind the first hash belongs to the fragment, and cutting there does no harm. -/
theorem parsePathQuery_unqueried (h : parsePathQuery b = .ok (path, query)) :
    parsePathQuery (unqueried b) = .ok (path, none) := by
  obtain ⟨hshown, hread⟩ := of_parsePathQuery h
  apply parsePathQuery_eq_ok_iff.mpr
  refine ⟨?_, hread.path, by simp⟩
  rw [takeWhile_unqueried, hshown, unqueried_written hread, written]

end PathQuery

/-! ### Authorities -/

section Authority

variable {b front rest : Bytes}

theorem eq_takeWhile_of_parseAuthority (h : parseAuthority b = .ok (front, rest)) :
    front = b.takeWhile fun c => !endsAuthority c := by
  unfold parseAuthority at h
  split at h
  next => cases h
  next =>
    obtain ⟨scan, -, h⟩ := exists_of_bind_eq_ok h
    split at h
    next => exact (Prod.mk.inj (Except.ok.inj h)).1.symm
    next => cases h

theorem question_not_mem_of_parseAuthority (h : parseAuthority b = .ok (front, rest)) :
    question ∉ front := by
  rw [eq_takeWhile_of_parseAuthority h]
  exact not_mem_of_all List.all_takeWhile rfl

/-- An authority is read off its own octets, whatever ends it. -/
theorem parseAuthority_append {after : Bytes} (h : parseAuthority b = .ok (front, rest))
    (hne : front ≠ []) (hafter : ∀ c ∈ after.head?, endsAuthority c = true) :
    parseAuthority (front ++ after) = .ok (front, after) := by
  have hfront := eq_takeWhile_of_parseAuthority h
  have hinside : ∀ c ∈ front, (!endsAuthority c) = true := by
    rw [hfront]
    exact List.all_eq_true.mp List.all_takeWhile
  have hstop : after.takeWhile (fun c => !endsAuthority c) = [] := by
    cases after with
    | nil => rfl
    | cons c more => simp [hafter c rfl]
  have hagain : (front ++ after).takeWhile (fun c => !endsAuthority c) = front := by
    rw [List.takeWhile_append_of_pos hinside, hstop, List.append_nil]
  have hsome : ¬ (front ++ after).isEmpty = true := by simp [hne]
  unfold parseAuthority at h ⊢
  split at h
  next => cases h
  next =>
    obtain ⟨scan, hscan, h⟩ := exists_of_bind_eq_ok h
    rw [← hfront] at hscan
    split at h
    next hfinished =>
      simp only [if_neg hsome, hagain, hscan, bind, Except.bind, if_pos hfinished, List.drop_left]
      rfl
    next => cases h

theorem parseAuthority_unqueried (h : parseAuthority b = .ok (front, rest)) (hne : front ≠ []) :
    parseAuthority (unqueried b) = .ok (front, unqueried rest) := by
  obtain ⟨-, hb, -, hends⟩ := of_parseAuthority h
  rw [hb, unqueried_append (question_not_mem_of_parseAuthority h)]
  exact parseAuthority_append h hne (forall_head?_unqueried hends)

theorem parseAbsolute_unqueried {t : Target} (h : parseAbsolute b = .ok t) :
    unqueried b ≠ [] ∧ parseAbsolute (unqueried b) = .ok { t with query := none } := by
  obtain ⟨⟨front, rest⟩, hauthority, h⟩ := exists_of_bind_eq_ok h
  cases front with
  | nil => cases h
  | cons c more =>
    obtain ⟨⟨path, query⟩, hpath, h⟩ := exists_of_bind_eq_ok h
    obtain rfl := Except.ok.inj h
    have hne : c :: more ≠ [] := List.cons_ne_nil c more
    have hunqueried := parseAuthority_unqueried hauthority hne
    refine ⟨(of_parseAuthority hunqueried).2.2.1, ?_⟩
    unfold parseAbsolute
    rw [hunqueried]
    simp only [bind, Except.bind, parsePathQuery_unqueried hpath]
    rfl

theorem parseAuthorityAlone_unqueried {e : TargetError} {t : Target}
    (h : parseAuthorityAlone b e = .ok t) : unqueried b = b ∧ t.query = none := by
  obtain ⟨⟨front, rest⟩, hauthority, h⟩ := exists_of_bind_eq_ok h
  obtain ⟨-, hb, -, -⟩ := of_parseAuthority hauthority
  cases rest with
  | cons c more => cases h
  | nil =>
    rw [List.append_nil] at hb
    obtain rfl := Except.ok.inj h
    refine ⟨?_, rfl⟩
    rw [hb]
    exact unqueried_of_not_mem (question_not_mem_of_parseAuthority hauthority)

end Authority

/-! ### Schemes -/

section Scheme

variable {b rest : Bytes} {word : String}

theorem startsWithWord_unqueried (hword : question ∉ Bytes.ofText word)
    (hlength : (Bytes.ofText word).length = word.length) (b : Bytes) :
    startsWithWord word (unqueried b) = startsWithWord word b := by
  unfold startsWithWord
  rw [take_unqueried, Bool.eq_iff_iff, beq_iff_eq, beq_iff_eq]
  constructor
  · intro h
    -- The word is as long as what can be taken, so nothing has been cut off.
    have hsame : unqueried (b.take word.length) = b.take word.length := by
      refine (isPrefix_unqueried _).eq_of_length (Nat.le_antisymm ?_ ?_)
      · exact (isPrefix_unqueried _).length_le
      · have hsize := congrArg List.length h
        rw [List.length_map, hlength] at hsize
        rw [hsize]
        exact List.length_take_le _ _
    rwa [hsame] at h
  · intro h
    have hmark : question ∉ b.take word.length := by
      intro hmem
      apply hword
      rw [← h]
      exact List.mem_map.mpr ⟨question, hmem, rfl⟩
    rwa [unqueried_of_not_mem hmark]

theorem drop_unqueried_of_startsWithWord {n : Nat} (hn : word.length = n)
    (hword : question ∉ Bytes.ofText word) (h : startsWithWord word b = true) :
    (unqueried b).drop n = unqueried (b.drop n) := by
  apply drop_unqueried
  intro hmem
  apply hword
  rw [← beq_iff_eq.mp h, hn]
  exact List.mem_map.mpr ⟨question, hmem, rfl⟩

theorem takeWhile_isSchemeByte_unqueried (b : Bytes) :
    (unqueried b).takeWhile isSchemeByte = b.takeWhile isSchemeByte := by
  rw [takeWhile_unqueried]
  exact unqueried_of_not_mem (not_mem_of_all List.all_takeWhile (by decide +kernel))

theorem drop_scheme_unqueried (b : Bytes) :
    (unqueried b).drop (b.takeWhile isSchemeByte).length =
      unqueried (b.drop (b.takeWhile isSchemeByte).length) := by
  apply drop_unqueried
  rw [← List.prefix_iff_eq_take.mp (List.takeWhile_prefix isSchemeByte)]
  exact not_mem_of_all List.all_takeWhile (by decide +kernel)

/-- A scheme and its mark stand in front of the first question mark. -/
theorem afterScheme_unqueried (h : afterScheme b = .ok (some rest)) (hrest : unqueried rest ≠ []) :
    afterScheme (unqueried b) = .ok (some (unqueried rest)) := by
  have hplain : question ∉ Bytes.ofText "http://" := by decide +kernel
  have hsecure : question ∉ Bytes.ofText "https://" := by decide +kernel
  have hmark : question ∉ Bytes.ofText "://" := by decide +kernel
  unfold afterScheme at h ⊢
  rw [startsWithWord_unqueried hplain (by decide +kernel),
    startsWithWord_unqueried hsecure (by decide +kernel)]
  split at h
  next hword =>
    obtain rfl := Option.some.inj (Except.ok.inj h)
    have hdrop := drop_unqueried_of_startsWithWord (n := 7) rfl hplain hword
    rw [if_pos hword, hdrop]
  next hword =>
    rw [if_neg hword]
    split at h
    next hword =>
      obtain rfl := Option.some.inj (Except.ok.inj h)
      have hdrop := drop_unqueried_of_startsWithWord (n := 8) rfl hsecure hword
      rw [if_pos hword, hdrop]
    next hword =>
      rw [if_neg hword]
      dsimp only at h ⊢
      rw [takeWhile_isSchemeByte_unqueried, drop_scheme_unqueried]
      split at h
      next hseparated =>
        split at h
        next => cases h
        next hshort =>
          obtain rfl := Option.some.inj (Except.ok.inj h)
          generalize hafter : b.drop (b.takeWhile isSchemeByte).length = after at hseparated hrest ⊢
          have hdrop : (unqueried after).drop 3 = unqueried (after.drop 3) :=
            drop_unqueried (hseparated.2 ▸ hmark)
          have htake : (unqueried after).take 3 = Bytes.ofText "://" := by
            rw [take_unqueried, hseparated.2, unqueried_of_not_mem hmark]
          have hlong : 3 < (unqueried b).length := by
            have hafterLong : 3 < (unqueried after).length := by
              apply Nat.lt_of_not_le
              intro hle
              rw [← hdrop] at hrest
              exact hrest (List.drop_eq_nil_iff.mpr hle)
            rw [← hafter, ← drop_scheme_unqueried, List.length_drop] at hafterLong
            omega
          rw [if_pos ⟨hlong, htake⟩, if_neg hshort, hdrop]
      next => cases h

end Scheme

/-! ### Targets -/

theorem parse_of_scheme {b absolute : Bytes} (hfirst : ∀ c ∈ b.head?, c ≠ slash)
    (hlength : b.length ≤ longest) (hne : absolute ≠ [])
    (hscheme : afterScheme b = .ok (some absolute)) : parse b = parseAbsolute absolute := by
  have hpos : 0 < absolute.length := List.length_pos_iff.mpr hne
  match b with
  | [] => cases hscheme
  | [c] =>
    have hshorter := length_lt_of_afterScheme (List.cons_ne_nil c []) hscheme
    rw [List.length_singleton] at hshorter
    omega
  | c :: d :: more =>
    have hc : c ≠ slash := hfirst c rfl
    unfold parse
    rw [if_neg (Nat.not_lt.mpr hlength)]
    simp only [if_neg hc, hscheme]
    rfl

/-- Cut at its first question mark, a target is the same without its query. -/
theorem parse_unqueried {b : Bytes} {t : Target} (h : parse b = .ok t) :
    parse (unqueried b) = .ok { t with query := none } := by
  have hshorter := (isPrefix_unqueried b).length_le
  have haccepted := h
  unfold parse at h
  split at h
  next => cases h
  next hlength =>
    split at h
    next => cases h
    next c =>
      split at h
      next hc =>
        subst hc
        obtain rfl := Except.ok.inj h
        rfl
      next =>
        split at h
        next hc =>
          subst hc
          obtain rfl := Except.ok.inj h
          rfl
        next =>
          obtain ⟨hsame, hquery⟩ := parseAuthorityAlone_unqueried h
          rw [hsame, haccepted, ← hquery]
    next c rest _ =>
      split at h
      next hc =>
        subst hc
        obtain ⟨⟨path, query⟩, hpath, h⟩ := exists_of_bind_eq_ok h
        obtain rfl := Except.ok.inj h
        have hcons : unqueried (slash :: rest) = slash :: unqueried rest := rfl
        have hunqueried := parsePathQuery_unqueried hpath
        rw [hcons] at hshorter hunqueried ⊢
        exact parse_of_slash hunqueried (by omega)
      next hc =>
        obtain ⟨after, hscheme, h⟩ := exists_of_bind_eq_ok h
        cases after with
        | none =>
          obtain ⟨hsame, hquery⟩ := parseAuthorityAlone_unqueried h
          rw [hsame, haccepted, ← hquery]
        | some absolute =>
          obtain ⟨hne, habsolute⟩ := parseAbsolute_unqueried h
          have hfirst : ∀ d ∈ (c :: rest).head?, d ≠ slash := by
            rintro _ ⟨⟩
            exact hc
          rw [parse_of_scheme (forall_head?_unqueried hfirst) (by omega) hne
            (afterScheme_unqueried hscheme hne), habsolute]

/-- Both targets become the same one when they are cut at the question mark. -/
theorem eq_of_unqueried_eq {b b' : Bytes} {t t' : Target} (h : parse b = .ok t)
    (h' : parse b' = .ok t') (hcut : unqueried b' = unqueried b) :
    t'.authority = t.authority ∧ t'.path = t.path := by
  have hcommon := parse_unqueried h'
  rw [hcut, parse_unqueried h] at hcommon
  obtain ⟨hauthority, hpath, -⟩ := Target.mk.inj (Except.ok.inj hcommon)
  exact ⟨hauthority.symm, hpath.symm⟩

end Target

/-! ### Requests -/

/-- Requests that differ in their query at most. -/
structure SameButQuery (r other : Request) : Prop where
  method : other.method = r.method
  version : other.version = r.version
  authority : other.target.authority = r.target.authority
  path : other.target.path = r.target.path
  headers : other.headers = r.headers
  peer : other.peer = r.peer

theorem sameButQuery_of_parse {raw raw' : RawRequest} {r r' : Request}
    (hr : Request.parse raw = .ok r) (hr' : Request.parse raw' = .ok r')
    (htarget : Target.unqueried raw'.target = Target.unqueried raw.target)
    (hmethod : r'.method = r.method) (hversion : r'.version = r.version)
    (hheaders : r'.headers = r.headers) (hpeer : r'.peer = r.peer) : SameButQuery r r' := by
  obtain ⟨hauthority, hpath⟩ := Target.eq_of_unqueried_eq (Request.parts_of_parse hr).2
    (Request.parts_of_parse hr').2 htarget
  exact ⟨hmethod, hversion, hauthority, hpath, hheaders, hpeer⟩

end HttpTelemetry.Http
