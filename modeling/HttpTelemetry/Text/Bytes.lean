/-!
# Octets and text

Requests, files and datagrams are sequences of octets; records, settings and log messages are text.
This module holds the passages between the two: the UTF-8 form of a text, strict reading, reading
that repairs malformed input, and the restricted reading used for header values.
-/

set_option autoImplicit false

namespace HttpTelemetry

abbrev Bytes := List UInt8

theorem not_mem_of_all {α : Type} {l : List α} {p : α → Bool} (h : l.all p = true) {a : α}
    (ha : p a = false) : a ∉ l := by
  intro hmem
  have htrue := List.all_eq_true.mp h a hmem
  rw [ha] at htrue
  cases htrue

namespace Bytes

/-- The UTF-8 form of a text. -/
def ofText (s : String) : Bytes := s.toByteArray.data.toList

/-- The text that well-formed UTF-8 denotes; `none` if the octets are not well-formed. -/
def toText? (b : Bytes) : Option String := String.fromUTF8? b.toByteArray

/-- A UTF-8 sequence that has begun: the bits read so far, the number of octets still missing, and
the range in which the next octet has to lie. -/
structure Partial where
  bits : Nat
  missing : Nat
  low : UInt8
  high : UInt8

/-- How a sequence goes on after its first octet; `none` if no longer sequence starts with it.
The narrowed ranges exclude overlong forms, surrogates and values above U+10FFFF. -/
def Partial.start? (b : UInt8) : Option Partial :=
  if 0xC2 ≤ b ∧ b ≤ 0xDF then some ⟨b.toNat % 32, 1, 0x80, 0xBF⟩
  else if b = 0xE0 then some ⟨0, 2, 0xA0, 0xBF⟩
  else if b = 0xED then some ⟨13, 2, 0x80, 0x9F⟩
  else if 0xE1 ≤ b ∧ b ≤ 0xEF then some ⟨b.toNat % 16, 2, 0x80, 0xBF⟩
  else if b = 0xF0 then some ⟨0, 3, 0x90, 0xBF⟩
  else if 0xF1 ≤ b ∧ b ≤ 0xF3 then some ⟨b.toNat % 8, 3, 0x80, 0xBF⟩
  else if b = 0xF4 then some ⟨4, 3, 0x80, 0x8F⟩
  else none

def replacement : Char := '\uFFFD'

/-- Reads octets, writing one replacement character for each maximal malformed part: the longest
piece that begins a well-formed sequence, or a single octet. -/
def repairFrom : Option Partial → Bytes → List Char
  | none, [] => []
  | some _, [] => [replacement]
  | pending, b :: rest =>
    let restart (before : List Char) : List Char :=
      if b < 0x80 then before ++ Char.ofUInt8 b :: repairFrom none rest
      else match Partial.start? b with
        | some p => before ++ repairFrom (some p) rest
        | none => before ++ replacement :: repairFrom none rest
    match pending with
    | none => restart []
    | some p =>
      if p.low ≤ b ∧ b ≤ p.high then
        let bits := p.bits * 64 + b.toNat % 64
        if p.missing ≤ 1 then Char.ofNat bits :: repairFrom none rest
        else repairFrom (some ⟨bits, p.missing - 1, 0x80, 0xBF⟩) rest
      else restart [replacement]

/-- The text of octets, with malformed parts replaced. Well-formed input is read as it is. -/
def lossyText (b : Bytes) : String :=
  match toText? b with
  | some s => s
  | none => String.ofList (repairFrom none b)

def isReadable (b : UInt8) : Bool := b == 9 || (32 ≤ b && b ≤ 126)

/-- Text made of tabs and printable ASCII only; a value with any other octet counts as opaque. -/
def readable? (b : Bytes) : Option String :=
  if b.all isReadable then some (String.ofList (b.map Char.ofUInt8)) else none

theorem toByteArray_ofText (s : String) : List.toByteArray (ofText s) = s.toByteArray :=
  ByteArray.ext (by simp [ofText])

@[simp] theorem toText?_ofText (s : String) : toText? (ofText s) = some s := by
  simp only [toText?, String.fromUTF8?, toByteArray_ofText, dif_pos s.isValidUTF8]
  rfl

theorem ofText_of_toText? {b : Bytes} {s : String} (h : toText? b = some s) : ofText s = b := by
  unfold toText? String.fromUTF8? at h
  split at h
  · obtain rfl := Option.some.inj h
    show (List.toByteArray b).data.toList = b
    simp
  · simp at h

@[simp] theorem lossyText_ofText (s : String) : lossyText (ofText s) = s := by
  simp [lossyText]

theorem readable?_isSome (b : Bytes) : (readable? b).isSome = b.all isReadable := by
  unfold readable?; split <;> simp_all

theorem ofText_inj {s t : String} : ofText s = ofText t ↔ s = t := by
  constructor
  · intro h
    have hread := congrArg toText? h
    rwa [toText?_ofText, toText?_ofText, Option.some.injEq] at hread
  · exact congrArg ofText

@[simp] theorem ofText_append (s t : String) : ofText (s ++ t) = ofText s ++ ofText t := by
  simp [ofText, String.toByteArray_append]

theorem ofText_ofList (cs : List Char) :
    ofText (String.ofList cs) = cs.flatMap String.utf8EncodeChar := by
  simp [ofText, String.toByteArray_ofList, List.utf8Encode]

theorem utf8EncodeChar_ofUInt8 {c : UInt8} (h : c < 0x80) :
    String.utf8EncodeChar (Char.ofUInt8 c) = [c] := by
  have hsmall : (Char.ofUInt8 c).val.toNat ≤ 0x7F := Nat.le_of_lt_succ h
  have hval : (Char.ofUInt8 c).val.toNat = c.toNat := UInt8.toNat_toUInt32 c
  rw [String.utf8EncodeChar, if_pos hsmall, hval, UInt8.ofNat_toNat]

/-- Octets below 128 stand for themselves in UTF-8. -/
theorem ofText_ofUInt8 {b : Bytes} (h : ∀ c ∈ b, c < 0x80) :
    ofText (String.ofList (b.map Char.ofUInt8)) = b := by
  rw [ofText_ofList, List.flatMap_map]
  induction b with
  | nil => rfl
  | cons c rest ih =>
    have hc : c < 0x80 := h c List.mem_cons_self
    have hrest := ih fun d hd => h d (List.mem_cons_of_mem c hd)
    rw [List.flatMap_cons, utf8EncodeChar_ofUInt8 hc, hrest, List.singleton_append]

/-- An octet below 128 in the UTF-8 form of a character is the character itself. -/
theorem eq_ofUInt8_of_mem_utf8EncodeChar {c : Char} {b : UInt8} (h : b ∈ String.utf8EncodeChar c)
    (hb : b < 0x80) : c = Char.ofUInt8 b := by
  have hlow {n : Nat} (hn : b = UInt8.ofNat n) : n % 256 < 0x80 := by
    rw [hn, UInt8.lt_iff_toNat_lt, UInt8.toNat_ofNat'] at hb
    exact hb
  unfold String.utf8EncodeChar at h
  dsimp only at h
  split at h
  next hsmall =>
    obtain rfl := List.mem_singleton.mp h
    apply Char.ext
    apply UInt32.toNat_inj.mp
    show c.val.toNat = (UInt8.ofNat c.val.toNat).toUInt32.toNat
    rw [UInt8.toNat_toUInt32, UInt8.toNat_ofNat']
    omega
  next =>
    -- All octets of the longer forms have their highest bit set.
    exfalso
    split at h
    · simp only [List.mem_cons, List.not_mem_nil, or_false] at h
      rcases h with h | h <;> have := hlow h <;> omega
    split at h
    · simp only [List.mem_cons, List.not_mem_nil, or_false] at h
      rcases h with h | h | h <;> have := hlow h <;> omega
    · simp only [List.mem_cons, List.not_mem_nil, or_false] at h
      rcases h with h | h | h | h <;> have := hlow h <;> omega

theorem mem_of_mem_ofText {s : String} {b : UInt8} (h : b ∈ ofText s) (hb : b < 0x80) :
    Char.ofUInt8 b ∈ s.toList := by
  rw [← String.ofList_toList (s := s), ofText_ofList, List.mem_flatMap] at h
  obtain ⟨c, hc, hmem⟩ := h
  rw [← eq_ofUInt8_of_mem_utf8EncodeChar hmem hb]
  exact hc

theorem mem_ofText {s : String} {c : Char} (h : c ∈ s.toList) (hc : c.val < 0x80) :
    c.toUInt8 ∈ ofText s := by
  rw [← String.ofList_toList (s := s), ofText_ofList, List.mem_flatMap]
  refine ⟨c, h, ?_⟩
  have hsize : c.utf8Size = 1 := by
    rw [Char.utf8Size, if_pos]
    exact UInt32.le_iff_toNat_le.mpr (Nat.le_of_lt_succ (UInt32.lt_iff_toNat_lt.mp hc))
  rw [String.utf8EncodeChar_eq_singleton hsize]
  exact List.mem_singleton_self _

/-- A text whose octets all belong to a class holds no character of ASCII outside of it. -/
theorem not_mem_of_all_ofText {s : String} {p : UInt8 → Bool} (h : (ofText s).all p = true)
    {c : Char} (hc : c.val < 0x80) (hp : p c.toUInt8 = false) : c ∉ s.toList := by
  intro hmem
  exact not_mem_of_all h hp (mem_ofText hmem hc)

theorem toText?_of_ascii {b : Bytes} (h : ∀ c ∈ b, c < 0x80) :
    toText? b = some (String.ofList (b.map Char.ofUInt8)) := by
  have htext := toText?_ofText (String.ofList (b.map Char.ofUInt8))
  rwa [ofText_ofUInt8 h] at htext

theorem exists_append_of_ofText_eq_cons {s : String} {b : UInt8} {rest : Bytes}
    (h : ofText s = b :: rest) (hb : b < 0x80) :
    ∃ tail, s = String.singleton (Char.ofUInt8 b) ++ tail := by
  rw [← String.ofList_toList (s := s), ofText_ofList] at h
  cases hs : s.toList with
  | nil =>
    rw [hs] at h
    cases h
  | cons c cs =>
    have hmem : b ∈ String.utf8EncodeChar c := by
      rw [hs, List.flatMap_cons] at h
      cases hc : String.utf8EncodeChar c with
      | nil => exact absurd hc String.utf8EncodeChar_ne_nil
      | cons d more =>
        rw [hc] at h
        obtain rfl := (List.cons.inj h).1
        exact List.mem_cons_self
    refine ⟨String.ofList cs, ?_⟩
    rw [← eq_ofUInt8_of_mem_utf8EncodeChar hmem hb, ← String.toList_inj, hs]
    simp

/-- A class that has none of the octets from 128 on, as evaluation shows. -/
theorem lt_of_forall_high {p : UInt8 → Bool} (hp : ∀ n < 128, p (UInt8.ofNat (128 + n)) = false)
    {b : UInt8} (h : p b = true) : b < 0x80 := by
  apply UInt8.lt_iff_toNat_lt.mpr
  apply Nat.lt_of_not_le
  intro (hhigh : 128 ≤ b.toNat)
  have hsmall : b.toNat < 256 := UInt8.toNat_lt b
  have hfalse := hp (b.toNat - 128) (by omega)
  rw [Nat.add_sub_cancel' hhigh, UInt8.ofNat_toNat, h] at hfalse
  cases hfalse

theorem lt_of_isReadable {b : UInt8} (h : isReadable b = true) : b < 0x80 :=
  lt_of_forall_high (by decide +kernel) h

/-- Readable octets read as the text whose UTF-8 form they are. -/
theorem readable?_eq_some_iff {b : Bytes} {s : String} :
    readable? b = some s ↔ b = ofText s ∧ b.all isReadable = true := by
  unfold readable?
  constructor
  · intro h
    split at h
    next hall =>
      have hlow : ∀ c ∈ b, c < 0x80 := fun c hc => lt_of_isReadable (List.all_eq_true.mp hall c hc)
      rw [← Option.some.inj h, ofText_ofUInt8 hlow]
      exact ⟨rfl, hall⟩
    next => cases h
  · rintro ⟨hb, hall⟩
    have hlow : ∀ c ∈ b, c < 0x80 := fun c hc => lt_of_isReadable (List.all_eq_true.mp hall c hc)
    rw [if_pos hall, Option.some.injEq, ← ofText_inj, ofText_ofUInt8 hlow, hb]

end Bytes

end HttpTelemetry
