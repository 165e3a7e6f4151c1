import HttpTelemetry.Text.Blank

/-!
# Pieces of a text

A text cut at every occurrence of a character, at its first, at its last one, or after a number of
octets of its UTF-8 form.
-/

set_option autoImplicit false

namespace HttpTelemetry.Text

/-- The parts between the occurrences of a character; a text without it is one part. -/
def pieces (c : Char) (s : String) : List String :=
  (s.toList.splitOn c).map String.ofList

/-- The parts before and after the first occurrence of a character. -/
def cutFirst? (c : Char) (s : String) : Option (String × String) :=
  match s.toList.dropWhile (· != c) with
  | [] => none
  | _ :: rest => some (String.ofList (s.toList.takeWhile (· != c)), String.ofList rest)

/-- The parts before and after the last occurrence of a character. -/
def cutLast? (c : Char) (s : String) : Option (String × String) :=
  match s.toList.reverse.dropWhile (· != c) with
  | [] => none
  | _ :: rest =>
    some (String.ofList rest.reverse,
      String.ofList (s.toList.reverse.takeWhile (· != c)).reverse)

/-- The octets that characters take in UTF-8. -/
def octets : List Char → Nat
  | [] => 0
  | c :: rest => c.utf8Size + octets rest

/-- The characters in the first octets of a text and those after them; `none` if a character is cut
in two or the text is shorter. -/
def cutAfter? : Nat → List Char → Option (List Char × List Char)
  | 0, cs => some ([], cs)
  | _, [] => none
  | n, c :: rest =>
    if n < c.utf8Size then none
    else (cutAfter? (n - c.utf8Size) rest).map fun (front, back) => (c :: front, back)

/-- The characters between two positions, counted in octets; `none` if one of these lies inside a
character. -/
def between? (start stop : Nat) (cs : List Char) : Option (List Char) := do
  let (front, _) ← cutAfter? stop cs
  let (_, middle) ← cutAfter? start front
  return middle

/-- The comma-separated entries of a list, trimmed, without the blank ones. -/
def entries (s : String) : List String :=
  ((pieces ',' s).map trim).filter (· ≠ "")

/-- ASCII letters in lower case; all other characters stay. -/
def lowerAscii (s : String) : String := String.ofList (s.toList.map Char.toLower)

section Cutting

variable {α : Type} [BEq α] [LawfulBEq α] {a : α} {front : List α}

theorem bne_of_not_mem (h : a ∉ front) : ∀ x ∈ front, (x != a) = true := by
  intro x hx
  exact bne_iff_ne.mpr fun he => h (he ▸ hx)

theorem takeWhile_bne_append (h : a ∉ front) (back : List α) :
    (front ++ a :: back).takeWhile (· != a) = front := by
  rw [List.takeWhile_append_of_pos (bne_of_not_mem h)]
  simp

theorem dropWhile_bne_append (h : a ∉ front) (back : List α) :
    (front ++ a :: back).dropWhile (· != a) = a :: back := by
  rw [List.dropWhile_append_of_pos (bne_of_not_mem h)]
  simp

theorem takeWhile_bne_self (h : a ∉ front) : front.takeWhile (· != a) = front := by
  have htake : (front ++ []).takeWhile (· != a) = front ++ [].takeWhile (· != a) :=
    List.takeWhile_append_of_pos (bne_of_not_mem h)
  rwa [List.append_nil, List.takeWhile_nil, List.append_nil] at htake

theorem dropWhile_bne_self (h : a ∉ front) : front.dropWhile (· != a) = [] := by
  have hdrop : (front ++ []).dropWhile (· != a) = [].dropWhile (· != a) :=
    List.dropWhile_append_of_pos (bne_of_not_mem h)
  rwa [List.append_nil, List.dropWhile_nil] at hdrop

end Cutting

section Splitting

variable {α : Type} [DecidableEq α] {a : α}

theorem not_mem_of_mem_splitOn {l piece : List α} (h : piece ∈ l.splitOn a) : a ∉ piece := by
  induction l generalizing piece with
  | nil =>
    rw [List.splitOn_nil, List.mem_singleton] at h
    rw [h]
    exact List.not_mem_nil
  | cons x rest ih =>
    rw [List.splitOn_cons_eq_if_modifyHead] at h
    split at h
    next =>
      rcases List.mem_cons.mp h with rfl | h
      · exact List.not_mem_nil
      · exact ih h
    next hx =>
      -- The first piece of the rest grows by a character other than the separator.
      cases hsplit : rest.splitOn a with
      | nil => exact absurd hsplit (List.splitOn_ne_nil a rest)
      | cons first more =>
        rw [hsplit] at h ih
        rcases List.mem_cons.mp h with rfl | h
        · have hne : a ≠ x := fun he => hx (beq_iff_eq.mpr he.symm)
          exact List.not_mem_cons_of_ne_of_not_mem hne (ih List.mem_cons_self)
        · exact ih (List.mem_cons_of_mem first h)

theorem splitOn_eq_iff {l : List α} {parts : List (List α)} (hne : parts ≠ []) :
    l.splitOn a = parts ↔ l = [a].intercalate parts ∧ ∀ piece ∈ parts, a ∉ piece := by
  constructor
  · rintro rfl
    refine ⟨(List.intercalate_splitOn a).symm, ?_⟩
    intro piece hpiece
    exact not_mem_of_mem_splitOn hpiece
  · rintro ⟨rfl, hparts⟩
    exact List.splitOn_intercalate a hparts hne

theorem splitOn_append_of_not_mem {front : List α} (h : a ∉ front) (l : List α) :
    (front ++ l).splitOn a = (l.splitOn a).modifyHead (front ++ ·) := by
  induction front with
  | nil =>
    show l.splitOn a = (l.splitOn a).modifyHead id
    rw [List.modifyHead_id, id]
  | cons x rest ih =>
    rw [List.mem_cons, not_or] at h
    have hx : ¬ (x == a) = true := fun he => h.1 (beq_iff_eq.mp he).symm
    rw [List.cons_append, List.splitOn_cons_eq_if_modifyHead, if_neg hx, ih h.2,
      List.modifyHead_modifyHead]
    rfl

/-- The pieces hold all but the separators. -/
theorem exists_mem_splitOn_iff {l : List α} {x : α} (hx : x ≠ a) :
    (∃ piece ∈ l.splitOn a, x ∈ piece) ↔ x ∈ l := by
  induction l with
  | nil => simp
  | cons y rest ih =>
    rw [List.splitOn_cons_eq_if_modifyHead, List.mem_cons, ← ih]
    split
    next hy =>
      have hxy : x ≠ y := fun he => hx (he.trans (beq_iff_eq.mp hy))
      simp [hxy]
    next =>
      cases hsplit : rest.splitOn a with
      | nil => exact absurd hsplit (List.splitOn_ne_nil a rest)
      | cons first more => simp [or_assoc]

end Splitting

section Pieces

variable {c : Char} {s front back : String}

theorem toList_singleton_intercalate (parts : List String) :
    (String.intercalate (String.singleton c) parts).toList =
      [c].intercalate (parts.map String.toList) := by
  rw [String.toList_intercalate, String.toList_singleton]

theorem pieces_eq_iff {parts : List String} (hne : parts ≠ []) :
    pieces c s = parts ↔
      s = String.intercalate (String.singleton c) parts ∧ ∀ part ∈ parts, c ∉ part.toList := by
  have hsplit : pieces c s = parts ↔ s.toList.splitOn c = parts.map String.toList := by
    constructor
    · rintro rfl
      simp [pieces, Function.comp_def]
    · intro h
      simp [pieces, h, Function.comp_def]
  have hlists : parts.map String.toList ≠ [] := by simpa using hne
  rw [hsplit, splitOn_eq_iff hlists, ← toList_singleton_intercalate, String.toList_inj,
    List.forall_mem_map]

theorem pieces_eq_pair_iff :
    pieces c s = [front, back] ↔
      s = front ++ String.singleton c ++ back ∧ c ∉ front.toList ∧ c ∉ back.toList := by
  rw [pieces_eq_iff (List.cons_ne_nil front [back]), String.intercalate_cons_cons,
    String.intercalate_singleton, List.forall_mem_cons, List.forall_mem_singleton]

theorem pieces_ne_nil (c : Char) (s : String) : pieces c s ≠ [] := by
  rw [pieces, Ne, List.map_eq_nil_iff]
  exact List.splitOn_ne_nil c s.toList

theorem pieces_of_not_mem (h : c ∉ s.toList) : pieces c s = [s] := by
  rw [pieces, List.splitOn_eq_singleton h, List.map_singleton, String.ofList_toList]

theorem pieces_append (front back : String) :
    pieces c (front ++ String.singleton c ++ back) = pieces c front ++ pieces c back := by
  have hlist : (front ++ String.singleton c ++ back).toList = front.toList ++ c :: back.toList := by
    simp
  rw [pieces, hlist, List.splitOn_append_cons_self, List.map_append]
  rfl

/-- What stands in front of a text and holds no separator goes to its first piece. -/
theorem exists_pieces_append (h : c ∉ front.toList) (back : String) :
    ∃ first more, pieces c back = first :: more ∧
      pieces c (front ++ back) = (front ++ first) :: more := by
  cases hsplit : back.toList.splitOn c with
  | nil => exact absurd hsplit (List.splitOn_ne_nil c back.toList)
  | cons first more =>
    refine ⟨String.ofList first, more.map String.ofList, ?_, ?_⟩
    · rw [pieces, hsplit, List.map_cons]
    · rw [pieces, String.toList_append, splitOn_append_of_not_mem h, hsplit, List.modifyHead_cons,
        List.map_cons, String.ofList_append, String.ofList_toList]

theorem pieces_intercalate {parts : List String} (hne : parts ≠ []) :
    pieces c (String.intercalate (String.singleton c) parts) = parts.flatMap (pieces c) := by
  induction parts with
  | nil => exact absurd rfl hne
  | cons part rest ih =>
    cases rest with
    | nil => rw [String.intercalate_singleton, List.flatMap_singleton]
    | cons next more =>
      rw [String.intercalate_cons_cons, pieces_append, ih (List.cons_ne_nil next more)]
      exact List.flatMap_cons.symm

theorem not_mem_intercalate_iff {between : String} {parts : List String}
    (hbetween : c ∉ between.toList) :
    c ∉ (String.intercalate between parts).toList ↔ ∀ part ∈ parts, c ∉ part.toList := by
  induction parts with
  | nil => simp
  | cons part rest ih =>
    rw [List.forall_mem_cons, ← ih]
    cases rest with
    | nil => simp
    | cons next more =>
      rw [String.intercalate_cons_cons, String.toList_append, String.toList_append]
      simp only [List.mem_append, not_or, hbetween, not_false_eq_true, and_true]

end Pieces

/-- A text has no entries if it holds nothing but commas and blanks. -/
theorem entries_eq_nil_iff {s : String} :
    entries s = [] ↔ ∀ c ∈ s.toList, c ≠ ',' → isBlank c = true := by
  have hpieces : entries s = [] ↔
      ∀ piece ∈ s.toList.splitOn ',', ∀ c ∈ piece, isBlank c = true := by
    simp [entries, pieces, List.filter_eq_nil_iff, trim_eq_empty_iff]
  rw [hpieces]
  constructor
  · intro h c hc hne
    obtain ⟨piece, hpiece, hmem⟩ := (exists_mem_splitOn_iff hne).mpr hc
    exact h piece hpiece c hmem
  · intro h piece hpiece c hmem
    have hne : c ≠ ',' := fun he => not_mem_of_mem_splitOn hpiece (he ▸ hmem)
    exact h c ((exists_mem_splitOn_iff hne).mp ⟨piece, hpiece, hmem⟩) hne

end HttpTelemetry.Text
