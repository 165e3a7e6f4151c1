/-!
# Last entries

Lists of keys with values in which, of several entries of one key, the last one counts. It is found
by looking the key up from the end.
-/

set_option autoImplicit false

namespace HttpTelemetry

section Entries

variable {κ β : Type} [BEq κ] [LawfulBEq κ] {entries : List (κ × β)} {key : κ} {value : β}

theorem lookup_reverse_eq_some_iff :
    entries.reverse.lookup key = some value ↔
      ∃ earlier later, entries = earlier ++ (key, value) :: later ∧
        ∀ entry ∈ later, entry.1 ≠ key := by
  rw [List.lookup_eq_some_iff]
  constructor
  · rintro ⟨later, earlier, hentries, hlater⟩
    refine ⟨earlier.reverse, later.reverse, ?_, fun entry hentry he => ?_⟩
    · rw [← List.reverse_inj, hentries]
      simp
    · have hne := hlater entry (List.mem_reverse.mp hentry)
      simp [he] at hne
  · rintro ⟨earlier, later, hentries, hlater⟩
    refine ⟨later.reverse, earlier.reverse, by simp [hentries], fun entry hentry => ?_⟩
    exact bne_iff_ne.mpr (hlater entry (List.mem_reverse.mp hentry)).symm

theorem lookup_reverse_eq_none_iff :
    entries.reverse.lookup key = none ↔ ∀ entry ∈ entries, entry.1 ≠ key := by
  rw [List.lookup_eq_none_iff]
  simp only [List.mem_reverse, bne_iff_ne, ne_comm]

end Entries

end HttpTelemetry
