import HttpTelemetry.Auth.Credential

/-!
# Key tables

A fixed list of keys with identities. A look-up compares the key with every stored key, octet by
octet and without stopping early, so that its duration tells nothing about how much of a key was
right. Of equal stored keys the last one counts.
-/

set_option autoImplicit false

namespace HttpTelemetry.Auth

structure KeyTable (ι : Type) where
  entries : List (String × ι)

/-- The octets in which two texts of one length differ, gathered into one. -/
def difference (a b : Bytes) : UInt8 :=
  (List.zipWith (· ^^^ ·) a b).foldl (· ||| ·) 0

/-- Equality of octets, decided only after all of them have been compared. -/
def sameOctets (a b : Bytes) : Bool := a.length == b.length && difference a b == 0

theorem foldl_or_eq_zero_iff (gathered : UInt8) (bytes : Bytes) :
    bytes.foldl (· ||| ·) gathered = 0 ↔ gathered = 0 ∧ ∀ b ∈ bytes, b = 0 := by
  induction bytes generalizing gathered with
  | nil => simp
  | cons b rest ih =>
    rw [List.foldl_cons, ih, UInt8.or_eq_zero_iff, List.forall_mem_cons, and_assoc]

theorem difference_eq_zero_iff {a b : Bytes} (h : a.length = b.length) :
    difference a b = 0 ↔ a = b := by
  rw [difference, foldl_or_eq_zero_iff]
  simp only [true_and]
  induction a generalizing b with
  | nil =>
    rw [List.length_nil] at h
    rw [List.eq_nil_of_length_eq_zero h.symm]
    simp
  | cons x a ih =>
    cases b with
    | nil => cases h
    | cons y b =>
      have hrest := ih (Nat.succ.inj h)
      rw [List.zipWith_cons_cons, List.forall_mem_cons, hrest, UInt8.xor_eq_zero_iff,
        List.cons.injEq]

theorem sameOctets_iff {a b : Bytes} : sameOctets a b = true ↔ a = b := by
  rw [sameOctets, Bool.and_eq_true, beq_iff_eq, beq_iff_eq]
  constructor
  · rintro ⟨hlength, hdifference⟩
    exact (difference_eq_zero_iff hlength).mp hdifference
  · rintro rfl
    exact ⟨rfl, (difference_eq_zero_iff rfl).mpr rfl⟩

namespace KeyTable

variable {ι : Type}

def size (t : KeyTable ι) : Nat := t.entries.length

def isEmpty (t : KeyTable ι) : Bool := t.entries.isEmpty

/-- Looks at every entry; each match replaces an earlier one. -/
def lookup (t : KeyTable ι) (key : String) : Option ι :=
  t.entries.foldl
    (fun found (stored, identity) =>
      if sameOctets (Bytes.ofText stored) (Bytes.ofText key) then some identity else found)
    none

def unknownKey : String := "no identity registered for this key"

def finder {ξ : Type} (t : KeyTable ι) : Finder ι ξ := fun key _ =>
  match t.lookup key with
  | some identity => .ok identity
  | none => .error unknownKey

section Finding

variable {ξ : Type} {t : KeyTable ι} {key : String} {r : Incoming ι ξ}

theorem finder_eq_ok_iff {identity : ι} :
    t.finder key r = .ok identity ↔ t.lookup key = some identity := by
  unfold finder
  cases t.lookup key with
  | none => simp
  | some found => simp

theorem finder_eq_error_iff {e : String} :
    t.finder key r = .error e ↔ t.lookup key = none ∧ e = unknownKey := by
  unfold finder
  cases t.lookup key with
  | none => simp [eq_comm]
  | some found => simp

end Finding

/-- The scan finds the last entry of a key. -/
theorem lookup_eq_lookup_reverse (t : KeyTable ι) (key : String) :
    t.lookup key = t.entries.reverse.lookup key := by
  obtain ⟨entries⟩ := t
  have hscan : ∀ found : Option ι, entries.foldl
      (fun found (stored, identity) =>
        if sameOctets (Bytes.ofText stored) (Bytes.ofText key) then some identity else found)
      found = (entries.reverse.lookup key).or found := by
    intro found
    induction entries generalizing found with
    | nil => rfl
    | cons entry rest ih =>
      obtain ⟨stored, identity⟩ := entry
      rw [List.foldl_cons, ih, List.reverse_cons, List.lookup_append, Option.or_assoc]
      congr 1
      by_cases h : key = stored
      · subst h
        simp [sameOctets_iff]
      · have hne : Bytes.ofText stored ≠ Bytes.ofText key := fun he =>
          h (Bytes.ofText_inj.mp he).symm
        have hbeq : (key == stored) = false := beq_false_of_ne h
        simp [sameOctets_iff, hne, List.lookup_cons, hbeq]
  exact (hscan none).trans Option.or_none

end KeyTable

end HttpTelemetry.Auth
