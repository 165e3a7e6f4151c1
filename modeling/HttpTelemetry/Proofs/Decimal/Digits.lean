import HttpTelemetry.Decimal.Numeral
import Mathlib.Algebra.Ring.Nat

/-!
# Digits in a text

A number that is padded to some width is written with digits only, as many as the width says if it
is not too large for it, and these stand for the number. Digits in front of another character are
found again by reading up to it.
-/

set_option autoImplicit false

namespace HttpTelemetry.Decimal

section Padded

variable {width n : Nat}

theorem toList_padded (width n : Nat) : (padded width n).toList =
    List.replicate (width - (Nat.toDigits 10 n).length) '0' ++ Nat.toDigits 10 n := by
  rw [padded, String.toList_ofList]

theorem isDigit_of_mem_toDigits (n : Nat) : ∀ c ∈ Nat.toDigits 10 n, c.isDigit = true :=
  fun _ h => Nat.isDigit_of_mem_toDigits (by decide) (by decide) h

theorem exists_toDigits_eq_cons (n : Nat) :
    ∃ c digits, c.isDigit = true ∧ Nat.toDigits 10 n = c :: digits := by
  obtain ⟨c, digits, hcons⟩ := List.exists_cons_of_ne_nil (Nat.toDigits_ne_nil (b := 10) (n := n))
  exact ⟨c, digits, isDigit_of_mem_toDigits n c (hcons ▸ List.mem_cons_self), hcons⟩

theorem isDigit_of_mem_padded (width n : Nat) :
    ∀ c ∈ (padded width n).toList, c.isDigit = true := by
  intro c hc
  rw [toList_padded, List.mem_append, List.mem_replicate] at hc
  rcases hc with ⟨-, rfl⟩ | hc
  · rfl
  · exact isDigit_of_mem_toDigits n c hc

theorem ofDigitChars_padded (width n : Nat) :
    Nat.ofDigitChars 10 (padded width n).toList 0 = n := by
  rw [toList_padded, Nat.ofDigitChars_append, Nat.ofDigitChars_replicate_zero, Nat.mul_zero,
    Nat.ofDigitChars_ten_toDigits]

theorem le_length_padded (width n : Nat) : width ≤ (padded width n).toList.length := by
  rw [toList_padded, List.length_append, List.length_replicate]
  omega

theorem length_padded (hwidth : 0 < width) (h : n < 10 ^ width) :
    (padded width n).toList.length = width := by
  have hshort : (Nat.toDigits 10 n).length ≤ width :=
    (Nat.length_toDigits_le_iff (by decide) hwidth).mpr h
  rw [toList_padded, List.length_append, List.length_replicate]
  omega

end Padded

section Reading

variable {digits rest : List Char} {c : Char}

theorem takeWhile_digits (h : ∀ d ∈ digits, d.isDigit = true) (hc : c.isDigit = false)
    (rest : List Char) : (digits ++ c :: rest).takeWhile Char.isDigit = digits := by
  rw [List.takeWhile_append_of_pos h, List.takeWhile_cons_of_neg (by simp [hc]), List.append_nil]

theorem dropWhile_digits (h : ∀ d ∈ digits, d.isDigit = true) (hc : c.isDigit = false)
    (rest : List Char) : (digits ++ c :: rest).dropWhile Char.isDigit = c :: rest := by
  rw [List.dropWhile_append_of_pos h, List.dropWhile_cons_of_neg (by simp [hc])]

/-- Zeros at the end of a number are factors of ten. -/
theorem pow_dvd_ofDigitChars {count : Nat} (h : ∀ d ∈ digits.drop count, d = '0') :
    10 ^ (digits.length - count) ∣ Nat.ofDigitChars 10 digits 0 := by
  have hzeros : digits.drop count = List.replicate (digits.length - count) '0' := by
    rw [List.eq_replicate_iff, List.length_drop]
    exact ⟨rfl, h⟩
  refine ⟨Nat.ofDigitChars 10 (digits.take count) 0, ?_⟩
  calc Nat.ofDigitChars 10 digits 0
      = Nat.ofDigitChars 10 (digits.take count ++ digits.drop count) 0 := by
        rw [List.take_append_drop]
    _ = _ := by rw [Nat.ofDigitChars_append, hzeros, Nat.ofDigitChars_replicate_zero]

end Reading

end HttpTelemetry.Decimal
