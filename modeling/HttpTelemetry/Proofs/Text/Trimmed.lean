import HttpTelemetry.Text.Pieces
import Mathlib.Data.List.DropRight

/-!
# Trimmed texts

Blanks at the ends of a text. Trimming removes them and nothing else, and whether a text is trimmed
before or after it is cut makes no difference once its parts are trimmed.
-/

set_option autoImplicit false

namespace HttpTelemetry.Text

/-- Neither the first nor the last character is a blank. -/
def Trimmed (s : String) : Prop :=
  (∀ c ∈ s.toList.head?, isBlank c = false) ∧ ∀ c ∈ s.toList.getLast?, isBlank c = false

theorem trimmed_of_forall {s : String} (h : ∀ c ∈ s.toList, isBlank c = false) : Trimmed s :=
  ⟨fun c hc => h c (List.mem_of_mem_head? hc), fun c hc => h c (List.mem_of_getLast? hc)⟩

section Trimming

variable {c : Char} {cs blanks : List Char} {s : String}

theorem trimChars_eq (cs : List Char) :
    trimChars cs = (cs.dropWhile isBlank).rdropWhile isBlank := rfl

theorem isBlank_of_head?_dropWhile (cs : List Char) (h : c ∈ (cs.dropWhile isBlank).head?) :
    isBlank c = false := by
  have hhead := List.head?_dropWhile_not isBlank cs
  rwa [h] at hhead

theorem trimmed_trim (s : String) : Trimmed (trim s) := by
  constructor
  · intro c hc
    rw [toList_trim, trimChars_eq] at hc
    obtain ⟨rest, hrest⟩ := List.rdropWhile_prefix isBlank (s.toList.dropWhile isBlank)
    apply isBlank_of_head?_dropWhile s.toList
    rw [← hrest, List.head?_append, hc]
    rfl
  · intro c hc
    rw [toList_trim, trimChars, List.getLast?_reverse] at hc
    exact isBlank_of_head?_dropWhile _ hc

theorem mem_of_mem_trim (h : c ∈ (trim s).toList) : c ∈ s.toList := by
  rw [toList_trim, trimChars_eq] at h
  exact (List.dropWhile_suffix _).subset ((List.rdropWhile_prefix _ _).subset h)

theorem mem_trim_iff (hc : isBlank c = false) : c ∈ (trim s).toList ↔ c ∈ s.toList := by
  refine ⟨mem_of_mem_trim, fun h => ?_⟩
  rw [toList_trim]
  exact mem_trimChars h hc

theorem trimChars_dropWhile (cs : List Char) : trimChars (cs.dropWhile isBlank) = trimChars cs := by
  rw [trimChars_eq, trimChars_eq, List.dropWhile_idempotent]

theorem trimChars_append_blanks (h : ∀ c ∈ blanks, isBlank c = true) (cs : List Char) :
    trimChars (cs ++ blanks) = trimChars cs := by
  rw [trimChars_eq, trimChars_eq, List.dropWhile_append]
  split
  next hempty =>
    rw [List.dropWhile_eq_nil_iff.mpr h, List.isEmpty_iff.mp hempty]
  next =>
    have hback : ∀ c ∈ blanks.reverse, isBlank c = true := fun c hc => h c (List.mem_reverse.mp hc)
    rw [List.rdropWhile, List.rdropWhile, List.reverse_append, List.dropWhile_append_of_pos hback]

theorem trimChars_rdropWhile (cs : List Char) :
    trimChars (cs.rdropWhile isBlank) = trimChars cs := by
  have hsplit : cs.rdropWhile isBlank ++ (cs.reverse.takeWhile isBlank).reverse = cs := by
    rw [List.rdropWhile, ← List.reverse_append, List.takeWhile_append_dropWhile,
      List.reverse_reverse]
  have hblanks : ∀ c ∈ (cs.reverse.takeWhile isBlank).reverse, isBlank c = true := fun c hc =>
    List.all_eq_true.mp List.all_takeWhile c (List.mem_reverse.mp hc)
  rw [← trimChars_append_blanks hblanks, hsplit]

theorem trim_trim (s : String) : trim (trim s) = trim s := by
  rw [trim, toList_trim, trimChars_eq s.toList, trimChars_rdropWhile, trimChars_dropWhile, trim]

/-- Trimming a text of two parts trims each of them at one end. -/
theorem trimChars_append_cons (hc : isBlank c = false) (front back : List Char) :
    trimChars (front ++ c :: back) =
      front.dropWhile isBlank ++ c :: back.rdropWhile isBlank := by
  have hfront (l m : List Char) :
      (l ++ c :: m).dropWhile isBlank = l.dropWhile isBlank ++ c :: m := by
    rw [List.dropWhile_append]
    split
    next hempty => simp [List.isEmpty_iff.mp hempty, hc]
    next => rfl
  rw [trimChars, hfront, List.reverse_append, List.reverse_cons, List.append_assoc,
    List.singleton_append, hfront]
  simp [List.rdropWhile]

end Trimming

section Cutting

variable {c : Char} {s front back : String}

theorem cutFirst?_of_not_mem (h : c ∉ s.toList) : cutFirst? c s = none := by
  rw [cutFirst?, dropWhile_bne_self h]

theorem cutFirst?_append (h : c ∉ front.toList) (back : String) :
    cutFirst? c (front ++ String.singleton c ++ back) = some (front, back) := by
  have hlist : (front ++ String.singleton c ++ back).toList = front.toList ++ c :: back.toList := by
    simp
  rw [cutFirst?, hlist, dropWhile_bne_append h, takeWhile_bne_append h]
  show some (String.ofList front.toList, String.ofList back.toList) = some (front, back)
  rw [String.ofList_toList, String.ofList_toList]

theorem exists_eq_append_of_mem (h : c ∈ s.toList) :
    ∃ front back, s = front ++ String.singleton c ++ back ∧ c ∉ front.toList := by
  obtain ⟨front, back, hsplit, hfront⟩ := List.eq_append_cons_of_mem h
  refine ⟨String.ofList front, String.ofList back, ?_, ?_⟩
  · rw [← String.toList_inj, hsplit]
    simp
  · rwa [String.toList_ofList]

theorem cutLast?_of_not_mem (h : c ∉ s.toList) : cutLast? c s = none := by
  rw [cutLast?, dropWhile_bne_self fun hmem => h (List.mem_reverse.mp hmem)]

theorem cutLast?_append (front : String) (h : c ∉ back.toList) :
    cutLast? c (front ++ String.singleton c ++ back) = some (front, back) := by
  have hlist : (front ++ String.singleton c ++ back).toList.reverse =
      back.toList.reverse ++ c :: front.toList.reverse := by simp
  have hback : c ∉ back.toList.reverse := fun hmem => h (List.mem_reverse.mp hmem)
  rw [cutLast?, hlist, dropWhile_bne_append hback, takeWhile_bne_append hback]
  show some (String.ofList front.toList.reverse.reverse,
    String.ofList back.toList.reverse.reverse) = some (front, back)
  rw [List.reverse_reverse, List.reverse_reverse, String.ofList_toList, String.ofList_toList]

theorem exists_eq_append_of_mem_last (h : c ∈ s.toList) :
    ∃ front back, s = front ++ String.singleton c ++ back ∧ c ∉ back.toList := by
  obtain ⟨back, front, hsplit, hback⟩ := List.eq_append_cons_of_mem (List.mem_reverse.mpr h)
  refine ⟨String.ofList front.reverse, String.ofList back.reverse, ?_, ?_⟩
  · rw [← String.toList_inj, ← List.reverse_inj, hsplit]
    simp
  · rwa [String.toList_ofList, List.mem_reverse]

/-- What a text is cut at does not blend with the blanks around it. -/
theorem exists_trim_append (hc : isBlank c = false) (front back : String) :
    ∃ front' back', trim (front ++ String.singleton c ++ back) =
        front' ++ String.singleton c ++ back' ∧
      trim front' = trim front ∧ trim back' = trim back ∧
      ∀ d ∈ front'.toList, d ∈ front.toList := by
  refine ⟨String.ofList (front.toList.dropWhile isBlank),
    String.ofList (back.toList.rdropWhile isBlank), ?_, ?_, ?_, ?_⟩
  · rw [← String.toList_inj, toList_trim]
    simp [trimChars_append_cons hc]
  · rw [trim, String.toList_ofList, trimChars_dropWhile, trim]
  · rw [trim, String.toList_ofList, trimChars_rdropWhile, trim]
  · rw [String.toList_ofList]
    exact fun d hd => (List.dropWhile_suffix _).subset hd

end Cutting

section Entries

variable {s entry : String}

theorem mem_entries_iff :
    entry ∈ entries s ↔ entry ≠ "" ∧ ∃ piece ∈ pieces ',' s, trim piece = entry := by
  rw [entries, List.mem_filter, List.mem_map, decide_eq_true_eq, and_comm]

theorem not_mem_of_mem_pieces {c : Char} {piece : String} (h : piece ∈ pieces c s) :
    c ∉ piece.toList := by
  obtain ⟨chars, hchars, rfl⟩ := List.mem_map.mp h
  rw [String.toList_ofList]
  exact not_mem_of_mem_splitOn hchars

theorem trimmed_of_mem_entries (h : entry ∈ entries s) :
    entry ≠ "" ∧ Trimmed entry ∧ ',' ∉ entry.toList := by
  obtain ⟨hne, piece, hpiece, rfl⟩ := mem_entries_iff.mp h
  exact ⟨hne, trimmed_trim piece, fun hc => not_mem_of_mem_pieces hpiece (mem_of_mem_trim hc)⟩

end Entries

end HttpTelemetry.Text
