import HttpTelemetry.Config.Reader
import HttpTelemetry.Proofs.Except
import HttpTelemetry.Proofs.Text.Trimmed

/-!
# What accepted settings are like

Settings that an environment is read as have a provider and keys without spaces, none of them empty.
There are keys unless the variable for them is unset or holds nothing but commas and blanks.
-/

set_option autoImplicit false

namespace HttpTelemetry.Config

open Text (isBlank trim)

section Entries

variable {entry front : String}

theorem parseKeyEntry_of_not_mem (h : '=' ∉ entry.toList) :
    parseKeyEntry entry = .error .keyWithoutName := by
  rw [parseKeyEntry, Text.cutFirst?_of_not_mem h]

theorem parseKeyEntry_append (h : '=' ∉ front.toList) (back : String) :
    parseKeyEntry (front ++ "=" ++ back) =
      if trim front = "" ∨ trim back = "" ∨ ' ' ∈ (trim front).toList then
        .error (.keyEntry (trim back))
      else .ok (trim front, trim back) := by
  have hcut : Text.cutFirst? '=' (front ++ "=" ++ back) = some (front, back) :=
    Text.cutFirst?_append h back
  rw [parseKeyEntry, hcut]

theorem parseKeyEntry_eq_ok_iff {key name : String} :
    parseKeyEntry entry = .ok (key, name) ↔
      ∃ front back, entry = front ++ "=" ++ back ∧ '=' ∉ front.toList ∧
        (trim front ≠ "" ∧ ' ' ∉ (trim front).toList ∧ trim back ≠ "") ∧
        trim front = key ∧ trim back = name := by
  constructor
  · intro h
    by_cases hmem : '=' ∈ entry.toList
    · obtain ⟨front, back, rfl, hfront⟩ := Text.exists_eq_append_of_mem hmem
      refine ⟨front, back, rfl, hfront, ?_⟩
      replace h := (parseKeyEntry_append hfront back).symm.trans h
      split at h
      next => cases h
      next hgood =>
        rw [not_or, not_or] at hgood
        obtain ⟨hkey, hname⟩ := Prod.mk.inj (Except.ok.inj h)
        exact ⟨⟨hgood.1, hgood.2.2, hgood.2.1⟩, hkey, hname⟩
    · rw [parseKeyEntry_of_not_mem hmem] at h
      cases h
  · rintro ⟨front, back, rfl, hfront, ⟨hne, hspace, hname⟩, rfl, rfl⟩
    rw [parseKeyEntry_append hfront, if_neg]
    rw [not_or, not_or]
    exact ⟨hne, hname, hspace⟩

end Entries

section Keys

variable {text : String} {keys : List (String × String)}

/-- A key and its name are the parts of an entry, in front of its first equals sign and behind. -/
theorem exists_of_mem_parseKeys (h : parseKeys text = .ok keys) {key name : String}
    (hmem : (key, name) ∈ keys) :
    ∃ front back, '=' ∉ front.toList ∧ ',' ∉ (front ++ back).toList ∧
      (trim front ≠ "" ∧ ' ' ∉ (trim front).toList ∧ trim back ≠ "") ∧
      trim front = key ∧ trim back = name := by
  have hok : Except.ok (key, name) ∈ (Text.entries text).map parseKeyEntry :=
    map_eq_of_mapM_eq_ok h ▸ List.mem_map_of_mem hmem
  obtain ⟨entry, hentry, hparse⟩ := List.mem_map.mp hok
  obtain ⟨front, back, rfl, hfront, hparts⟩ := parseKeyEntry_eq_ok_iff.mp hparse
  obtain ⟨-, -, hcomma⟩ := Text.trimmed_of_mem_entries hentry
  refine ⟨front, back, hfront, fun h => hcomma ?_, hparts⟩
  rw [String.toList_append, List.mem_append] at h
  simp only [String.toList_append, List.mem_append]
  exact h.imp .inl id

theorem of_mem_parseKeys (h : parseKeys text = .ok keys) {key name : String}
    (hmem : (key, name) ∈ keys) : key ≠ "" ∧ name ≠ "" ∧ ' ' ∉ key.toList := by
  obtain ⟨front, back, -, -, ⟨hne, hspace, hname⟩, rfl, rfl⟩ := exists_of_mem_parseKeys h hmem
  exact ⟨hne, hname, hspace⟩

theorem parseKeys_eq_nil_iff (h : parseKeys text = .ok keys) :
    keys = [] ↔ ∀ c ∈ text.toList, c ≠ ',' → isBlank c = true := by
  have hlength := congrArg List.length (map_eq_of_mapM_eq_ok h)
  rw [List.length_map, List.length_map] at hlength
  rw [← Text.entries_eq_nil_iff, ← List.length_eq_zero_iff, ← hlength, List.length_eq_zero_iff]

end Keys

namespace Settings

theorem check_eq_ok {s : Settings} (h : s.check = .ok ()) :
    s.apiProvider ≠ "" ∧ ' ' ∉ s.apiProvider.toList := by
  unfold check at h
  split at h
  next => cases h
  next hgood => exact not_or.mp hgood

section Reading

variable {env : Environment} {s : Settings}

/-- Settings are read with the keys that their variable lists and with the address that stands in
its own, and pass the check at the end. -/
theorem ofEnvironment_eq_ok (h : ofEnvironment env = .ok s) :
    parseKeys ((env.text? "API_KEYS").getD "") = .ok s.apiKeys ∧
      s.statsdAddress = readOptional env "STATSD_ADDR" ∧ s.check = .ok () := by
  obtain ⟨port, -, h⟩ := exists_of_bind_eq_ok h
  obtain ⟨logFormat, -, h⟩ := exists_of_bind_eq_ok h
  obtain ⟨metricsPort, -, h⟩ := exists_of_bind_eq_ok h
  obtain ⟨apiKeys, hkeys, h⟩ := exists_of_bind_eq_ok h
  obtain ⟨⟨⟩, hcheck, h⟩ := exists_of_bind_eq_ok h
  obtain rfl := Except.ok.inj h
  exact ⟨hkeys, rfl, hcheck⟩

theorem provider_of_ofEnvironment (h : ofEnvironment env = .ok s) :
    s.apiProvider ≠ "" ∧ ' ' ∉ s.apiProvider.toList :=
  check_eq_ok (ofEnvironment_eq_ok h).2.2

theorem key_of_ofEnvironment (h : ofEnvironment env = .ok s) {key name : String}
    (hmem : (key, name) ∈ s.apiKeys) : key ≠ "" ∧ name ≠ "" ∧ ' ' ∉ key.toList :=
  of_mem_parseKeys (ofEnvironment_eq_ok h).1 hmem

/-- Authentication is on if the variable for keys holds anything besides commas and blanks. -/
theorem authEnabled_iff (h : ofEnvironment env = .ok s) :
    s.authEnabled = true ↔ ∃ value, env.text? "API_KEYS" = some value ∧
      ∃ c ∈ value.toList, c ≠ ',' ∧ isBlank c = false := by
  have hkeys := parseKeys_eq_nil_iff (ofEnvironment_eq_ok h).1
  have henabled : s.authEnabled = true ↔ s.apiKeys ≠ [] := by simp [authEnabled]
  rw [henabled, ne_eq, hkeys]
  cases env.text? "API_KEYS" with
  | none => simp
  | some value => simp

end Reading

end Settings

end HttpTelemetry.Config
