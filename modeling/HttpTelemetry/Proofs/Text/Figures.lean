import HttpTelemetry.Decimal.Fixed
import HttpTelemetry.Http.Status
import HttpTelemetry.Net.IpAddress
import HttpTelemetry.Text.Bytes
import HttpTelemetry.Text.Pieces

/-!
# The characters of figures

Numbers in reports are written with letters and digits, points and hyphens, and addresses with
colons too. Whatever else sets the parts of a line apart is not in them.
-/

set_option autoImplicit false

namespace HttpTelemetry

/-- A letter or a digit, a point or a hyphen. -/
def Text.isFigure (c : Char) : Bool := c.isAlphanum || c == '.' || c == '-'

open Text (isBlank isFigure)

theorem isFigure_digitChar : ∀ d < 16, isFigure (Nat.digitChar d) = true := by
  decide +kernel

/-- Figures lie between the blanks of ASCII and those behind it. -/
theorem toNat_of_isFigure {c : Char} (h : isFigure c = true) : 45 ≤ c.toNat ∧ c.toNat ≤ 122 := by
  have hwithin {least most : Char} (hleast : least.val ≤ c.val) (hmost : c.val ≤ most.val) :
      least.toNat ≤ c.toNat ∧ c.toNat ≤ most.toNat :=
    ⟨UInt32.le_iff_toNat_le.mp hleast, UInt32.le_iff_toNat_le.mp hmost⟩
  have hupper : 'A'.toNat = 65 ∧ 'Z'.toNat = 90 := by decide
  have hlower : 'a'.toNat = 97 ∧ 'z'.toNat = 122 := by decide
  have hdigit : '0'.toNat = 48 ∧ '9'.toNat = 57 := by decide
  rw [isFigure, Bool.or_eq_true_iff, Bool.or_eq_true_iff, beq_iff_eq, beq_iff_eq] at h
  rcases h with (h | rfl) | rfl
  · rcases Bool.or_eq_true_iff.mp h with h | h
    · rcases Bool.or_eq_true_iff.mp h with h | h
      · obtain ⟨hleast, hmost⟩ := of_decide_eq_true h
        have hrange := hwithin hleast hmost
        omega
      · obtain ⟨hleast, hmost⟩ := Bool.and_eq_true_iff.mp h
        have hrange := hwithin (of_decide_eq_true hleast) (of_decide_eq_true hmost)
        omega
    · obtain ⟨hleast, hmost⟩ := Bool.and_eq_true_iff.mp h
      have hrange := hwithin (of_decide_eq_true hleast) (of_decide_eq_true hmost)
      omega
  · decide
  · decide

theorem isBlank_of_isFigure {c : Char} (h : isFigure c = true) : isBlank c = false := by
  have hrange := toNat_of_isFigure h
  simp [isBlank]
  omega

section Numbers

variable {c : Char} (hc : isFigure c = false)

include hc

theorem ne_of_not_isFigure {d : Char} (hd : isFigure d = true) : c ≠ d := by
  rintro rfl
  rw [hd] at hc
  cases hc

theorem not_mem_toDigits {b : Nat} (hb : 1 < b) (hsmall : b ≤ 16) (n : Nat) :
    c ∉ Nat.toDigits b n := by
  induction n using Nat.strongRecOn with
  | _ n ih =>
    rw [Nat.toDigits_eq_if hb]
    split
    next hn =>
      rw [List.mem_singleton]
      exact ne_of_not_isFigure hc (isFigure_digitChar n (Nat.lt_of_lt_of_le hn hsmall))
    next hn =>
      have hless : n / b < n := Nat.div_lt_self (by omega) hb
      have hdigit : n % b < 16 := Nat.lt_of_lt_of_le (Nat.mod_lt n (by omega)) hsmall
      rw [List.mem_append, List.mem_singleton, not_or]
      exact ⟨ih (n / b) hless, ne_of_not_isFigure hc (isFigure_digitChar _ hdigit)⟩

theorem not_mem_filled {digits : List Char} (h : c ∉ digits) (n : Nat) :
    c ∉ (String.ofList (List.replicate n '0' ++ digits)).toList := by
  rw [String.toList_ofList, List.mem_append, List.mem_replicate]
  rintro (⟨-, hzero⟩ | hdigit)
  · exact ne_of_not_isFigure hc rfl hzero
  · exact h hdigit

theorem not_mem_padded (width n : Nat) : c ∉ (Decimal.padded width n).toList :=
  not_mem_filled hc (not_mem_toDigits hc (by decide) (by decide) n) _

theorem not_mem_hex (width n : Nat) : c ∉ (Text.hex width n).toList :=
  not_mem_filled hc (not_mem_toDigits hc (by decide) (by decide) n) _

theorem not_mem_nat (n : Nat) : c ∉ (toString n).toList := by
  rw [Nat.toString_eq_ofList_toDigits, String.toList_ofList]
  exact not_mem_toDigits hc (by decide) (by decide) n

theorem not_mem_int (n : Int) : c ∉ (toString n).toList := by
  cases n with
  | ofNat n => exact not_mem_nat hc n
  | negSucc n =>
    show c ∉ ("-" ++ toString (n + 1)).toList
    rw [String.toList_append, List.mem_append, not_or]
    exact ⟨by simpa using ne_of_not_isFigure hc (d := '-') rfl, not_mem_nat hc (n + 1)⟩

theorem not_mem_status (s : Http.Status) : c ∉ s.text.toList :=
  not_mem_nat hc s.code

theorem not_mem_pointed (places units : Nat) : c ∉ (Decimal.pointed places units).toList := by
  have hpoint : c ∉ ".".toList := by simpa using ne_of_not_isFigure hc (d := '.') rfl
  simp only [Decimal.pointed, String.toList_append, List.mem_append, not_or]
  exact ⟨⟨not_mem_padded hc 1 _, hpoint⟩, not_mem_padded hc places _⟩

/-- Also the texts of doubles that are no numbers are written with letters. -/
theorem not_mem_fixed (places : Nat) (x : Float) : c ∉ (Decimal.fixed places x).toList := by
  have hword {word : String} (h : word.toList.all isFigure = true) : c ∉ word.toList :=
    not_mem_of_all h hc
  have hsign (negative : Bool) : c ∉ (if negative then "-" else "").toList := by
    cases negative with
    | true => exact hword (by decide)
    | false => exact hword (by decide)
  unfold Decimal.fixed
  split
  next => exact hword (by decide)
  next negative _ =>
    rw [String.toList_append, List.mem_append, not_or]
    exact ⟨hsign negative, hword (by decide)⟩
  next negative significand exponent _ =>
    rw [String.toList_append, List.mem_append, not_or]
    exact ⟨hsign negative, not_mem_pointed hc places _⟩

end Numbers

section Addresses

open Net IpAddress

variable {c : Char} (hc : isFigure c = false) (hcolon : c ≠ ':')

include hc

theorem not_mem_octetsText (octets : Vector UInt8 4) : c ∉ (octetsText octets).toList := by
  have hpoint : c ∉ ".".toList := by simpa using ne_of_not_isFigure hc (d := '.') rfl
  rw [octetsText, Text.not_mem_intercalate_iff hpoint, List.forall_mem_map]
  intro octet _
  exact not_mem_nat hc octet.toNat

include hcolon

theorem not_mem_groupsText (groups : List UInt16) : c ∉ (groupsText groups).toList := by
  have hbetween : c ∉ ":".toList := by simpa using hcolon
  rw [groupsText, Text.not_mem_intercalate_iff hbetween, List.forall_mem_map]
  intro group _
  exact not_mem_hex hc 1 group.toNat

theorem not_mem_ipAddress (ip : IpAddress) : c ∉ ip.text.toList := by
  cases ip with
  | v4 octets => exact not_mem_octetsText hc octets
  | v6 groups =>
    unfold IpAddress.text
    dsimp only
    split
    next octets _ =>
      have hmapped : c ∉ "::ffff:".toList := by
        have hf : c ≠ 'f' := ne_of_not_isFigure hc rfl
        simp [hcolon, hf]
      rw [String.toList_append, List.mem_append, not_or]
      exact ⟨hmapped, not_mem_octetsText hc octets⟩
    next =>
      split
      next =>
        simp only [String.toList_append, List.mem_append, not_or]
        refine ⟨⟨not_mem_groupsText hc hcolon _, ?_⟩, not_mem_groupsText hc hcolon _⟩
        simpa using hcolon
      next => exact not_mem_groupsText hc hcolon _

end Addresses

end HttpTelemetry
