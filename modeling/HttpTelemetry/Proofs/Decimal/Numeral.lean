import HttpTelemetry.Decimal.Numeral

/-!
# Which texts are numerals

Reading a numeral from left to right, with a look at the limit at each digit, accepts exactly the
texts of digits whose number is within the limit, and gives that number.
-/

set_option autoImplicit false

namespace HttpTelemetry.Decimal

/-- One or more digits, with at most one plus sign in front, that stand for a number. -/
def Denotes (s : String) (n : Nat) : Prop :=
  ∃ digits : List Char, digits ≠ [] ∧ (∀ c ∈ digits, c.isDigit = true) ∧
    Nat.ofDigitChars 10 digits 0 = n ∧ (s.toList = digits ∨ s.toList = '+' :: digits)

section Digits

variable {limit value n : Nat} {cs : List Char}

theorem le_ofDigitChars (cs : List Char) (value : Nat) : value ≤ Nat.ofDigitChars 10 cs value := by
  induction cs generalizing value with
  | nil => exact Nat.le_refl value
  | cons c rest ih =>
    rw [Nat.ofDigitChars_cons]
    calc value ≤ 10 * value + (c.toNat - '0'.toNat) := by omega
      _ ≤ _ := ih _

theorem digitsUpTo_eq_ok_iff (h : value ≤ limit) :
    digitsUpTo limit value cs = .ok n ↔
      (∀ c ∈ cs, c.isDigit = true) ∧ Nat.ofDigitChars 10 cs value = n ∧ n ≤ limit := by
  induction cs generalizing value with
  | nil =>
    rw [digitsUpTo, Nat.ofDigitChars_nil, Except.ok.injEq]
    constructor
    · rintro rfl
      exact ⟨by simp, rfl, h⟩
    · exact fun ⟨_, hvalue, _⟩ => hvalue
  | cons c rest ih =>
    rw [digitsUpTo, digit?, List.forall_mem_cons, Nat.ofDigitChars_cons, Nat.mul_comm 10 value]
    by_cases hdigit : c.isDigit = true
    · simp only [hdigit, if_true, true_and]
      split
      next hlimit => exact ih hlimit
      next hlimit =>
        -- A number that has passed the limit does not get back.
        have hgrows := le_ofDigitChars rest (value * 10 + (c.toNat - '0'.toNat))
        constructor
        · intro herror
          cases herror
        · rintro ⟨-, rfl, hle⟩
          omega
    · simp [hdigit]

end Digits

section Signs

variable {s : String} {n : Nat} {rest : List Char}

theorem denotes_of_plus (h : s.toList = '+' :: rest) :
    Denotes s n ↔ rest ≠ [] ∧ (∀ c ∈ rest, c.isDigit = true) ∧
      Nat.ofDigitChars 10 rest 0 = n := by
  rw [Denotes, h]
  constructor
  · rintro ⟨digits, hne, hdigits, hvalue, rfl | hrest⟩
    · exact absurd (hdigits '+' List.mem_cons_self) (by decide)
    · obtain rfl := (List.cons.inj hrest).2
      exact ⟨hne, hdigits, hvalue⟩
  · rintro ⟨hne, hdigits, hvalue⟩
    exact ⟨rest, hne, hdigits, hvalue, .inr rfl⟩

theorem denotes_of_not_plus (h : ∀ rest, s.toList ≠ '+' :: rest) :
    Denotes s n ↔ s.toList ≠ [] ∧ (∀ c ∈ s.toList, c.isDigit = true) ∧
      Nat.ofDigitChars 10 s.toList 0 = n := by
  constructor
  · rintro ⟨digits, hne, hdigits, hvalue, rfl | hrest⟩
    · exact ⟨hne, hdigits, hvalue⟩
    · exact absurd hrest (h digits)
  · rintro ⟨hne, hdigits, hvalue⟩
    exact ⟨s.toList, hne, hdigits, hvalue, .inl rfl⟩

end Signs

theorem numeralUpTo_eq_ok_iff {limit n : Nat} {s : String} :
    numeralUpTo limit s = .ok n ↔ Denotes s n ∧ n ≤ limit := by
  unfold numeralUpTo
  split
  next hs =>
    rw [denotes_of_not_plus (by simp [hs])]
    simp [hs]
  next hs =>
    rw [denotes_of_plus hs]
    simp
  next rest hne hs =>
    rw [denotes_of_plus hs, digitsUpTo_eq_ok_iff (Nat.zero_le limit), and_iff_right hne, and_assoc]
  next hne _ hplus =>
    rw [denotes_of_not_plus hplus, digitsUpTo_eq_ok_iff (Nat.zero_le limit), and_iff_right hne,
      and_assoc]

end HttpTelemetry.Decimal
