/-!
# Blanks

The characters that Unicode counts as white space, and texts without them at the ends. Settings and
client addresses are trimmed in this sense.
-/

set_option autoImplicit false

namespace HttpTelemetry.Text

/-- The Unicode property White_Space. -/
def isBlank (c : Char) : Bool :=
  let n := c.toNat
  (0x09 ≤ n && n ≤ 0x0D) || n == 0x20 || n == 0x85 || n == 0xA0 || n == 0x1680 ||
    (0x2000 ≤ n && n ≤ 0x200A) || n == 0x2028 || n == 0x2029 || n == 0x202F || n == 0x205F ||
    n == 0x3000

/-- Characters without blanks at either end. -/
def trimChars (cs : List Char) : List Char :=
  ((cs.dropWhile isBlank).reverse.dropWhile isBlank).reverse

/-- A text without blanks at either end. -/
def trim (s : String) : String := String.ofList (trimChars s.toList)

/-- A text without blanks at its end. -/
def trimEnd (s : String) : String := String.ofList ((s.toList.reverse.dropWhile isBlank).reverse)

@[simp] theorem toList_trim (s : String) : (trim s).toList = trimChars s.toList := by
  simp [trim]

theorem mem_dropWhile_isBlank {c : Char} {cs : List Char} (h : c ∈ cs) (hc : isBlank c = false) :
    c ∈ cs.dropWhile isBlank := by
  rw [← List.takeWhile_append_dropWhile (p := isBlank) (l := cs), List.mem_append] at h
  rcases h with h | h
  · have hblank := List.all_eq_true.mp List.all_takeWhile c h
    rw [hc] at hblank
    cases hblank
  · exact h

theorem mem_trimChars {c : Char} {cs : List Char} (h : c ∈ cs) (hc : isBlank c = false) :
    c ∈ trimChars cs := by
  have hfront := mem_dropWhile_isBlank h hc
  exact List.mem_reverse.mpr (mem_dropWhile_isBlank (List.mem_reverse.mpr hfront) hc)

/-- Trimming leaves nothing of blanks only. -/
theorem trim_eq_empty_iff {s : String} : trim s = "" ↔ ∀ c ∈ s.toList, isBlank c = true := by
  rw [← String.toList_inj, toList_trim, String.toList_empty]
  constructor
  · intro h c hc
    cases hblank : isBlank c with
    | true => rfl
    | false =>
      have hmem := mem_trimChars hc hblank
      rw [h] at hmem
      cases hmem
  · intro h
    have hdrop : s.toList.dropWhile isBlank = [] := by
      have happend : (s.toList ++ []).dropWhile isBlank = [] := List.dropWhile_append_of_pos h
      rwa [List.append_nil] at happend
    simp [trimChars, hdrop]

end HttpTelemetry.Text
