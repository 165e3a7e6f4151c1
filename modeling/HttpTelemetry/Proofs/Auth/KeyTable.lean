import HttpTelemetry.Auth.KeyTable
import HttpTelemetry.LastEntry
import Mathlib.Data.Finmap

/-!
# Key tables as maps

A table that is scanned from its first to its last entry, octet by octet, answers like the map that
its entries make when they are put in one after the other.
-/

set_option autoImplicit false

namespace HttpTelemetry.Auth.KeyTable

variable {ι : Type}

/-- What the octets of keys stand for, where each entry replaces earlier ones of its key. -/
def toMap (t : KeyTable ι) : Finmap fun _ : Bytes => ι :=
  t.entries.foldl (fun map (stored, identity) => map.insert (Bytes.ofText stored) identity) ∅

section Scan

variable {t : KeyTable ι} {key : String}

/-- An entry changes what a key stands for exactly if the scan takes the entry for a match. -/
theorem lookup_insert_ofText (map : Finmap fun _ : Bytes => ι) (stored : String) (identity : ι) :
    (map.insert (Bytes.ofText stored) identity).lookup (Bytes.ofText key) =
      if sameOctets (Bytes.ofText stored) (Bytes.ofText key) then some identity
      else map.lookup (Bytes.ofText key) := by
  by_cases h : Bytes.ofText key = Bytes.ofText stored
  · rw [h, Finmap.lookup_insert, if_pos (sameOctets_iff.mpr rfl)]
  · rw [Finmap.lookup_insert_of_ne map h, if_neg fun hsame => h (sameOctets_iff.mp hsame).symm]

theorem lookup_eq_lookup_toMap (t : KeyTable ι) (key : String) :
    t.lookup key = t.toMap.lookup (Bytes.ofText key) := by
  obtain ⟨entries⟩ := t
  -- What the scan has found so far is what the map made so far says of the key.
  have hscan : ∀ map : Finmap fun _ : Bytes => ι, entries.foldl
      (fun found (stored, identity) =>
        if sameOctets (Bytes.ofText stored) (Bytes.ofText key) then some identity else found)
      (map.lookup (Bytes.ofText key)) =
        (entries.foldl (fun map (stored, identity) => map.insert (Bytes.ofText stored) identity)
          map).lookup (Bytes.ofText key) := by
    intro map
    induction entries generalizing map with
    | nil => rfl
    | cons entry rest ih =>
      obtain ⟨stored, identity⟩ := entry
      rw [List.foldl_cons, List.foldl_cons, ← ih, lookup_insert_ofText]
  exact hscan ∅

/-- The entry that is found has the key's octets, and no later one has them. -/
theorem lookup_eq_some_iff {identity : ι} :
    t.lookup key = some identity ↔
      ∃ earlier stored later, t.entries = earlier ++ (stored, identity) :: later ∧
        Bytes.ofText stored = Bytes.ofText key ∧
        ∀ entry ∈ later, Bytes.ofText entry.1 ≠ Bytes.ofText key := by
  rw [lookup_eq_lookup_reverse, lookup_reverse_eq_some_iff]
  simp only [Ne, Bytes.ofText_inj]
  constructor
  · rintro ⟨earlier, later, hentries, hlater⟩
    exact ⟨earlier, key, later, hentries, rfl, hlater⟩
  · rintro ⟨earlier, stored, later, hentries, rfl, hlater⟩
    exact ⟨earlier, later, hentries, hlater⟩

theorem lookup_eq_none_iff :
    t.lookup key = none ↔ ∀ entry ∈ t.entries, Bytes.ofText entry.1 ≠ Bytes.ofText key := by
  rw [lookup_eq_lookup_reverse, lookup_reverse_eq_none_iff]
  simp only [Ne, Bytes.ofText_inj]

end Scan

/-- A look-up answers what the map of the entries says of the key: the identity of the last entry
with its octets, and nothing if no entry has them. Then, and only then, the table fails as a
finder. -/
theorem lookup_agrees_with_map (t : KeyTable ι) (key : String) :
    t.lookup key = t.toMap.lookup (Bytes.ofText key) ∧
    (∀ identity, t.lookup key = some identity ↔
      ∃ earlier stored later, t.entries = earlier ++ (stored, identity) :: later ∧
        Bytes.ofText stored = Bytes.ofText key ∧
        ∀ entry ∈ later, Bytes.ofText entry.1 ≠ Bytes.ofText key) ∧
    (t.lookup key = none ↔
      ∀ entry ∈ t.entries, Bytes.ofText entry.1 ≠ Bytes.ofText key) ∧
    ∀ (ξ : Type) (r : Incoming ι ξ),
      (∀ identity, t.finder key r = .ok identity ↔
        t.toMap.lookup (Bytes.ofText key) = some identity) ∧
      ∀ e, t.finder key r = .error e ↔ Bytes.ofText key ∉ t.toMap ∧ e = unknownKey := by
  refine ⟨lookup_eq_lookup_toMap t key, fun identity => lookup_eq_some_iff, lookup_eq_none_iff, ?_⟩
  intro ξ r
  constructor
  · intro identity
    rw [finder_eq_ok_iff, lookup_eq_lookup_toMap]
  · intro e
    rw [finder_eq_error_iff, lookup_eq_lookup_toMap, Finmap.lookup_eq_none]

/-- Keys are told apart by all of their octets, and the empty key is one of them. -/
example : let t : KeyTable Nat := ⟨[("k", 1), ("", 2), ("k1", 3), ("k", 4)]⟩
    t.lookup "k" = some 4 ∧ t.lookup "" = some 2 ∧ t.lookup "k1" = some 3 ∧
      t.lookup "k2" = none := by decide +kernel

end HttpTelemetry.Auth.KeyTable
