import HttpTelemetry.Proofs.Config.Acceptance

/-!
# Keys and their text

Keys are listed in a text as entries `key=name` between commas. The list that is read has one key
with its name for each segment that is not blank, in order. Written down again without any blanks,
the list is read as it was. If there is a malformed segment, the first one decides the error, which
tells no more of it than what stands behind its equals sign.
-/

set_option autoImplicit false

namespace HttpTelemetry.Config

open Text (isBlank pieces trim)

/-- The parts of a text between its commas, without the blank ones. -/
def segments (raw : String) : List String :=
  (pieces ',' raw).filter fun piece => !piece.toList.all isBlank

/-- A segment is read as a key and a name: what stands in front of its first equals sign and what
stands behind, without the blanks around them. -/
def Reads (segment : String) (entry : String × String) : Prop :=
  ∃ front back, segment = front ++ "=" ++ back ∧ '=' ∉ front.toList ∧
    (trim front ≠ "" ∧ ' ' ∉ (trim front).toList ∧ trim back ≠ "") ∧
    trim front = entry.1 ∧ trim back = entry.2

/-- The error of a malformed segment. -/
inductive Refused : String → SettingError → Prop
  | withoutName {segment : String} (h : '=' ∉ segment.toList) : Refused segment .keyWithoutName
  | malformed {front : String} (h : '=' ∉ front.toList) (back : String)
      (hparts : trim front = "" ∨ trim back = "" ∨ ' ' ∈ (trim front).toList) :
      Refused (front ++ "=" ++ back) (.keyEntry (trim back))

/-- An entry without any blanks around its parts. -/
def entryText (entry : String × String) : String := entry.1 ++ "=" ++ entry.2

def keysText (keys : List (String × String)) : String :=
  String.intercalate "," (keys.map entryText)

section Segments

variable {raw segment : String}

theorem not_all_isBlank_iff : (!segment.toList.all isBlank) = true ↔ trim segment ≠ "" := by
  rw [Bool.not_eq_true', ← Bool.not_eq_true, List.all_eq_true, Ne, Text.trim_eq_empty_iff]

theorem entries_eq (raw : String) : Text.entries raw = (segments raw).map trim := by
  have hblank : ∀ segment ∈ pieces ',' raw,
      ((fun s => decide (s ≠ "")) ∘ trim) segment = !segment.toList.all isBlank := by
    intro segment _
    rw [Function.comp_apply, Bool.eq_iff_iff, decide_eq_true_eq]
    exact not_all_isBlank_iff.symm
  rw [Text.entries, List.filter_map, List.filter_congr hblank, segments]

/-- It makes no difference that segments are trimmed before they are cut. -/
theorem parseKeys_eq (raw : String) : parseKeys raw = (segments raw).mapM parseKeyEntry := by
  have htrim : parseKeyEntry ∘ trim = parseKeyEntry := by
    funext segment
    rw [Function.comp_apply, parseKeyEntry_trim]
  rw [parseKeys, entries_eq, List.mapM_map, htrim]

theorem segments_keysText {keys : List (String × String)}
    (h : ∀ entry ∈ keys, ',' ∉ (entryText entry).toList) :
    segments (keysText keys) = keys.map entryText := by
  by_cases hnil : keys = []
  · have hempty : pieces ',' (keysText []) = [""] := Text.pieces_of_not_mem List.not_mem_nil
    rw [hnil, segments, hempty]
    rfl
  have hpieces : pieces ',' (keysText keys) = keys.map entryText := by
    rw [Text.pieces_eq_iff (mt List.map_eq_nil_iff.mp hnil), List.forall_mem_map]
    exact ⟨rfl, h⟩
  rw [segments, hpieces, List.filter_eq_self, List.forall_mem_map]
  intro entry _
  have hequals : '=' ∈ (entryText entry).toList := by simp [entryText]
  rw [not_all_isBlank_iff, Ne, Text.trim_eq_empty_iff]
  exact fun hblank => absurd (hblank '=' hequals) (by decide)

end Segments

section Entries

variable {segment : String} {entry : String × String}

theorem parseKeyEntry_eq_ok_iff_reads : parseKeyEntry segment = .ok entry ↔ Reads segment entry :=
  parseKeyEntry_eq_ok_iff

theorem parseKeyEntry_eq_error_iff {e : SettingError} :
    parseKeyEntry segment = .error e ↔ Refused segment e := by
  constructor
  · intro h
    by_cases hmem : '=' ∈ segment.toList
    · obtain ⟨front, back, rfl, hfront⟩ := Text.exists_eq_append_of_mem hmem
      replace h := (parseKeyEntry_append hfront back).symm.trans h
      split at h
      next hparts =>
        cases h
        exact .malformed hfront back hparts
      next => cases h
    · rw [parseKeyEntry_of_not_mem hmem] at h
      cases h
      exact .withoutName hmem
  · rintro (hmem | ⟨hfront, back, hparts⟩)
    · exact parseKeyEntry_of_not_mem hmem
    · rw [parseKeyEntry_append hfront, if_pos hparts]

theorem reads_entryText (h : Reads segment entry) : Reads (entryText entry) entry := by
  obtain ⟨front, back, -, hfront, hgood, hkey, hname⟩ := h
  rw [Reads, ← hkey, ← hname]
  have htext : entryText entry = trim front ++ "=" ++ trim back := by
    rw [entryText, hkey, hname]
  have hequals : '=' ∉ (trim front).toList := fun hmem => hfront (Text.mem_of_mem_trim hmem)
  refine ⟨trim front, trim back, htext, hequals, ?_⟩
  rw [Text.trim_trim, Text.trim_trim]
  exact ⟨hgood, rfl, rfl⟩

end Entries

section Keys

variable {raw : String} {keys : List (String × String)}

theorem parseKeys_eq_ok_iff :
    parseKeys raw = .ok keys ↔ List.Forall₂ Reads (segments raw) keys := by
  rw [parseKeys_eq, mapM_eq_ok_iff]
  simp only [parseKeyEntry_eq_ok_iff_reads]

theorem parseKeys_eq_error_iff {e : SettingError} :
    parseKeys raw = .error e ↔
      ∃ earlier segment later, segments raw = earlier ++ segment :: later ∧
        (∀ s ∈ earlier, IsKeyEntry s) ∧ Refused segment e := by
  rw [parseKeys_eq, ← failure?_eq_some_iff, failure?_mapM, List.findSome?_eq_some_iff]
  simp only [failure?_parseKeyEntry_eq_none_iff, failure?_eq_some_iff, parseKeyEntry_eq_error_iff,
    and_comm (a := Refused _ _)]

theorem entryText_of_mem_keys (h : parseKeys raw = .ok keys) :
    ∀ entry ∈ keys, Reads (entryText entry) entry ∧ ',' ∉ (entryText entry).toList := by
  rintro ⟨key, name⟩ hmem
  obtain ⟨front, back, hequals, hcomma, hgood, rfl, rfl⟩ := exists_of_mem_parseKeys h hmem
  have hreads : Reads (front ++ "=" ++ back) (trim front, trim back) :=
    ⟨front, back, rfl, hequals, hgood, rfl, rfl⟩
  refine ⟨reads_entryText hreads, ?_⟩
  rw [String.toList_append, List.mem_append, not_or] at hcomma
  simp only [entryText, String.toList_append, List.mem_append, not_or]
  refine ⟨⟨?_, by decide⟩, ?_⟩
  · exact fun hmem => hcomma.1 (Text.mem_of_mem_trim hmem)
  · exact fun hmem => hcomma.2 (Text.mem_of_mem_trim hmem)

theorem parseKeys_keysText (h : parseKeys raw = .ok keys) :
    parseKeys (keysText keys) = .ok keys := by
  have hentries := entryText_of_mem_keys h
  rw [parseKeys_eq_ok_iff, segments_keysText fun entry hentry => (hentries entry hentry).2,
    List.forall₂_map_left_iff, List.forall₂_same]
  exact fun entry hentry => (hentries entry hentry).1

theorem toAppError_of_refused {segment : String} {e : SettingError} (h : Refused segment e) :
    ('=' ∉ segment.toList ∧ e.toAppError = .config "API_KEYS entries must be key=name") ∨
      ∃ key name, segment = key ++ "=" ++ name ∧ '=' ∉ key.toList ∧
        e.toAppError = .config ("Invalid API_KEYS entry for client '" ++ trim name ++ "'") := by
  cases h with
  | withoutName hmem => exact .inl ⟨hmem, rfl⟩
  | malformed hfront back => exact .inr ⟨_, back, rfl, hfront, rfl⟩

end Keys

/-- A list of keys is read segment by segment, written down and read again as it was, and refused
for its first malformed segment without a word of any key. -/
theorem keys_agree_with_text (raw : String) :
    ((∃ keys, parseKeys raw = .ok keys) ↔
      ∀ segment ∈ pieces ',' raw, (∀ c ∈ segment.toList, isBlank c = true) ∨ IsKeyEntry segment) ∧
    (∀ keys, parseKeys raw = .ok keys ↔ List.Forall₂ Reads (segments raw) keys) ∧
    (∀ keys, parseKeys raw = .ok keys → parseKeys (keysText keys) = .ok keys) ∧
    (∀ e, parseKeys raw = .error e ↔
      ∃ earlier segment later, segments raw = earlier ++ segment :: later ∧
        (∀ s ∈ earlier, IsKeyEntry s) ∧ Refused segment e) ∧
    ∀ segment e, Refused segment e → ¬ IsKeyEntry segment ∧
      (('=' ∉ segment.toList ∧ e.toAppError = .config "API_KEYS entries must be key=name") ∨
        ∃ key name, segment = key ++ "=" ++ name ∧ '=' ∉ key.toList ∧
          e.toAppError = .config ("Invalid API_KEYS entry for client '" ++ trim name ++ "'")) := by
  refine ⟨?_, fun keys => parseKeys_eq_ok_iff, fun keys h => parseKeys_keysText h,
    fun e => parseKeys_eq_error_iff, ?_⟩
  · rw [← failure?_eq_none_iff]
    exact failure?_parseKeys_eq_none_iff
  · intro segment e h
    refine ⟨?_, toAppError_of_refused h⟩
    rw [← failure?_parseKeyEntry_eq_none_iff, parseKeyEntry_eq_error_iff.mpr h]
    exact Option.some_ne_none e

example : parseKeys " abc123 = graze ,, def456=a=b" =
    .ok [("abc123", "graze"), ("def456", "a=b")] := by
  decide +kernel

end HttpTelemetry.Config
