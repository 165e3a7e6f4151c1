import HttpTelemetry.Net.Host
import HttpTelemetry.Proofs.Decimal.Numeral
import HttpTelemetry.Proofs.Text.Trimmed

/-!
# Texts without a port

A text stands for an address on some host only if it ends with a colon and a port. On the way to this
stands that whatever is read from a text leaves an end of it, so that the port of an address that is
written out is also what follows the last colon.
-/

set_option autoImplicit false

namespace HttpTelemetry.Net

/-- What follows the last colon is a port. -/
def EndsWithPort (s : String) : Prop :=
  ∃ name port n, s = name ++ ":" ++ port ∧ ':' ∉ port.toList ∧ Decimal.Denotes port n ∧ n ≤ 65535

/-! ### What reading leaves -/

section Reading

open IpAddress SocketAddress

variable {cs rest : List Char} {limit : Nat}

theorem eq_cons_of_expect {c : Char} (h : expect c cs = some rest) : cs = c :: rest := by
  cases cs with
  | nil => cases h
  | cons d cs =>
    obtain ⟨rfl, hrest⟩ := Option.ite_none_right_eq_some.mp h
    rw [Option.some.inj hrest]

theorem suffix_of_expect {c : Char} (h : expect c cs = some rest) : rest <:+ cs := by
  rw [eq_cons_of_expect h]
  exact List.suffix_cons c rest

/-- A number takes all digits at the front of a text. -/
theorem of_readDecimal {n : Nat} (h : readDecimal limit cs = some (n, rest)) :
    cs.takeWhile Char.isDigit ≠ [] ∧
      Decimal.digitsUpTo limit 0 (cs.takeWhile Char.isDigit) = .ok n ∧
      cs.dropWhile Char.isDigit = rest := by
  unfold readDecimal at h
  dsimp only at h
  split at h
  next d digits value hdigits hn =>
    obtain ⟨rfl, rfl⟩ := Prod.mk.inj (Option.some.inj h)
    have hne : cs.takeWhile Char.isDigit ≠ [] := by
      rw [hdigits]
      exact List.cons_ne_nil d digits
    exact ⟨hne, hn, rfl⟩
  next => cases h

theorem suffix_of_readDecimal {n : Nat} (h : readDecimal limit cs = some (n, rest)) :
    rest <:+ cs := by
  obtain ⟨-, -, rfl⟩ := of_readDecimal h
  exact List.dropWhile_suffix _

theorem suffix_of_readOctet {b : UInt8} (h : readOctet cs = some (b, rest)) : rest <:+ cs := by
  obtain ⟨-, h⟩ := Option.ite_none_right_eq_some.mp h
  obtain ⟨⟨n, left⟩, hread, heq⟩ := Option.map_eq_some_iff.mp h
  obtain rfl := (Prod.mk.inj heq).2
  exact suffix_of_readDecimal hread

theorem suffix_of_readV4 {octets : Vector UInt8 4} (h : readV4 cs = some (octets, rest)) :
    rest <:+ cs := by
  simp only [readV4, Option.bind_eq_bind, Option.bind_eq_some_iff, Prod.exists] at h
  obtain ⟨a, cs₁, ha, cs₁', hp₁, b, cs₂, hb, cs₂', hp₂, c, cs₃, hc, cs₃', hp₃, d, cs₄, hd, heq⟩ := h
  obtain rfl := (Prod.mk.inj (Option.some.inj heq)).2
  exact (suffix_of_readOctet hd).trans <| (suffix_of_expect hp₃).trans <|
    (suffix_of_readOctet hc).trans <| (suffix_of_expect hp₂).trans <|
    (suffix_of_readOctet hb).trans <| (suffix_of_expect hp₁).trans <| suffix_of_readOctet ha

theorem suffix_of_readGroup {g : UInt16} (h : readGroup cs = some (g, rest)) : rest <:+ cs := by
  obtain ⟨-, heq⟩ := Option.ite_none_left_eq_some.mp h
  obtain rfl := (Prod.mk.inj (Option.some.inj heq)).2
  exact List.drop_suffix _ cs

theorem suffix_readGroups (places : Nat) (first : Bool) (cs : List Char) :
    (readGroups places first cs).rest <:+ cs := by
  induction places generalizing first cs with
  | zero => exact List.suffix_refl cs
  | succ places ih =>
    unfold readGroups
    split
    next => exact List.suffix_refl cs
    next here hhere =>
      have hsuffix : here <:+ cs := by
        cases first with
        | true => exact (Option.some.inj hhere) ▸ List.suffix_refl here
        | false => exact suffix_of_expect hhere
      split
      next octets rest hv4 =>
        obtain ⟨-, hv4⟩ := Option.ite_none_left_eq_some.mp hv4
        exact (suffix_of_readV4 hv4).trans hsuffix
      next =>
        split
        next => exact List.suffix_refl cs
        next g rest hgroup => exact (ih false rest).trans ((suffix_of_readGroup hgroup).trans hsuffix)

theorem suffix_of_readV6 {groups : Vector UInt16 8} (h : readV6 cs = some (groups, rest)) :
    rest <:+ cs := by
  have hfront := suffix_readGroups 8 true cs
  unfold readV6 at h
  dsimp only at h
  split at h
  next =>
    obtain rfl := (Prod.mk.inj (Option.some.inj h)).2
    exact hfront
  next =>
    split at h
    next => cases h
    next =>
      simp only [Option.bind_eq_bind, Option.bind_eq_some_iff] at h
      obtain ⟨cs₁, hcolon₁, cs₂, hcolon₂, heq⟩ := h
      obtain rfl := (Prod.mk.inj (Option.some.inj heq)).2
      exact (suffix_readGroups _ true cs₂).trans <| (suffix_of_expect hcolon₂).trans <|
        (suffix_of_expect hcolon₁).trans hfront

theorem suffix_of_readScope {scope : UInt32} (h : readScope cs = some (scope, rest)) :
    rest <:+ cs := by
  unfold readScope at h
  split at h
  next cs =>
    obtain ⟨⟨n, left⟩, hread, heq⟩ := Option.map_eq_some_iff.mp h
    obtain rfl := (Prod.mk.inj heq).2
    exact (suffix_of_readDecimal hread).trans (List.suffix_cons '%' cs)
  next =>
    obtain rfl := (Prod.mk.inj (Option.some.inj h)).2
    exact List.suffix_refl cs

end Reading

/-! ### Ports -/

section Ports

open SocketAddress

variable {s : String} {port : UInt16} {rest : List Char}

theorem endsWithPort_of_portAtEnd? (hrest : rest <:+ s.toList) (h : portAtEnd? rest = some port) :
    EndsWithPort s := by
  simp only [portAtEnd?, Option.bind_eq_bind, Option.bind_eq_some_iff, Prod.exists] at h
  obtain ⟨digits, hcolon, n, left, hread, hleft⟩ := h
  obtain ⟨hempty, -⟩ := Option.ite_none_right_eq_some.mp hleft
  obtain ⟨hne, hn, hdrop⟩ := of_readDecimal hread
  have hdigits : ∀ c ∈ digits, c.isDigit = true := by
    rwa [List.isEmpty_iff.mp hempty, List.dropWhile_eq_nil_iff] at hdrop
  rw [List.takeWhile_eq_self_iff.mpr hdigits] at hne hn
  obtain ⟨-, hvalue, hle⟩ := (Decimal.digitsUpTo_eq_ok_iff (Nat.zero_le 65535)).mp hn
  obtain ⟨front, hfront⟩ := hrest
  refine ⟨String.ofList front, String.ofList digits, n, ?_, ?_, ?_, hle⟩
  · rw [← String.toList_inj, ← hfront, eq_cons_of_expect hcolon]
    simp
  · rw [String.toList_ofList]
    intro hmem
    cases hdigits ':' hmem
  · exact ⟨digits, hne, hdigits, hvalue, .inl String.toList_ofList⟩

theorem endsWithPort_of_parse? {address : SocketAddress} (h : parse? s = some address) :
    EndsWithPort s := by
  rcases Option.or_eq_some_iff.mp h with hv4 | ⟨-, hv6⟩
  · simp only [parseV4?, Option.bind_eq_bind, Option.bind_eq_some_iff, Prod.exists] at hv4
    obtain ⟨octets, rest, hread, port, hport, -⟩ := hv4
    exact endsWithPort_of_portAtEnd? (suffix_of_readV4 hread) hport
  · simp only [parseV6?, Option.bind_eq_bind, Option.bind_eq_some_iff, Prod.exists] at hv6
    obtain ⟨inside, hopen, groups, afterGroups, hread, scope, afterScope, hscope, rest, hclose,
      port, hport, -⟩ := hv6
    refine endsWithPort_of_portAtEnd? ?_ hport
    exact (suffix_of_expect hclose).trans <| (suffix_of_readScope hscope).trans <|
      (suffix_of_readV6 hread).trans (suffix_of_expect hopen)

theorem endsWithPort_iff :
    EndsWithPort s ↔ ∃ name port n, Text.cutLast? ':' s = some (name, port) ∧
      Decimal.numeralUpTo 65535 port = .ok n := by
  constructor
  · rintro ⟨name, port, n, rfl, hport, hn⟩
    exact ⟨name, port, n, Text.cutLast?_append name hport, Decimal.numeralUpTo_eq_ok_iff.mpr hn⟩
  · rintro ⟨name, port, n, hcut, hn⟩
    by_cases hmem : ':' ∈ s.toList
    · obtain ⟨front, back, rfl, hback⟩ := Text.exists_eq_append_of_mem_last hmem
      rw [Text.cutLast?_append front hback] at hcut
      obtain ⟨rfl, rfl⟩ := Prod.mk.inj (Option.some.inj hcut)
      exact ⟨front, back, n, rfl, hback, Decimal.numeralUpTo_eq_ok_iff.mp hn⟩
    · rw [Text.cutLast?_of_not_mem hmem] at hcut
      cases hcut

instance (s : String) : Decidable (EndsWithPort s) :=
  match hcut : Text.cutLast? ':' s with
  | none => isFalse fun h => by
    obtain ⟨name, port, n, hsome, -⟩ := endsWithPort_iff.mp h
    cases hcut.symm.trans hsome
  | some (name, port) =>
    match hn : Decimal.numeralUpTo 65535 port with
    | .ok n => isTrue (endsWithPort_iff.mpr ⟨name, port, n, hcut, hn⟩)
    | .error cause => isFalse fun h => by
      obtain ⟨name', port', n, hsome, hok⟩ := endsWithPort_iff.mp h
      obtain ⟨-, rfl⟩ := Prod.mk.inj (Option.some.inj (hcut.symm.trans hsome))
      cases hn.symm.trans hok

/-- What does not end with a port is no address on any host, whatever names are known there. -/
theorem Host.resolve_of_not_endsWithPort (host : Host) (h : ¬ EndsWithPort s) :
    host.resolve s =
      .error (if ':' ∈ s.toList then "invalid port value" else "invalid socket address") := by
  have hparse : parse? s = none :=
    Option.eq_none_iff_forall_ne_some.mpr fun address haddress =>
      h (endsWithPort_of_parse? haddress)
  unfold resolve
  rw [hparse]
  by_cases hmem : ':' ∈ s.toList
  · obtain ⟨name, port, rfl, hport⟩ := Text.exists_eq_append_of_mem_last hmem
    rw [Text.cutLast?_append name hport, if_pos hmem]
    cases hn : Decimal.numeralUpTo 65535 port with
    | error cause => simp only [hn]
    | ok n => exact absurd ⟨name, port, n, rfl, hport, Decimal.numeralUpTo_eq_ok_iff.mp hn⟩ h
  · rw [Text.cutLast?_of_not_mem hmem, if_neg hmem]

end Ports

end HttpTelemetry.Net
