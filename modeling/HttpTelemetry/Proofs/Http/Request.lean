import HttpTelemetry.Http.Request
import HttpTelemetry.Proofs.Http.Target

/-!
# What accepted requests are like

The name of a method is a token, the target has one of the accepted forms, and a header value that
counts as text is a line of printable ASCII and tabs.
-/

set_option autoImplicit false

namespace HttpTelemetry.Http

theorem lt_of_isTokenByte {b : UInt8} (h : isTokenByte b = true) : b < 0x80 :=
  Bytes.lt_of_forall_high (by decide +kernel) h

theorem Method.all_isTokenByte_of_parse? {b : Bytes} {m : Method} (h : Method.parse? b = some m) :
    (Bytes.ofText m.name).all isTokenByte = true := by
  unfold Method.parse? at h
  split at h
  next hb =>
    obtain rfl := Option.some.inj h
    rw [Bool.and_eq_true] at hb
    have hlow : ∀ c ∈ b, c < 0x80 := fun c hc => lt_of_isTokenByte (List.all_eq_true.mp hb.2 c hc)
    rw [asciiText, Bytes.ofText_ofUInt8 hlow]
    exact hb.2
  next => cases h

theorem Headers.not_mem_of_readable? {headers : Headers} {name text : String}
    (h : headers.readable? name = some text) {c : Char} (hc : c.val < 0x80)
    (hread : Bytes.isReadable c.toUInt8 = false) : c ∉ text.toList := by
  obtain ⟨value, -, hvalue⟩ := Option.bind_eq_some_iff.mp h
  obtain ⟨rfl, hall⟩ := Bytes.readable?_eq_some_iff.mp hvalue
  exact Bytes.not_mem_of_all_ofText hall hc hread

namespace Request

structure Accepted (r : Request) : Prop where
  method : (Bytes.ofText r.method.name).all isTokenByte = true
  target : r.target.Accepted

theorem Accepted.not_mem_method {r : Request} (h : Accepted r) {c : Char} (hc : c.val < 0x80)
    (htoken : isTokenByte c.toUInt8 = false) : c ∉ r.method.name.toList :=
  Bytes.not_mem_of_all_ofText h.method hc htoken

/-- Method and target are read on their own, whatever the other parts are. -/
theorem parts_of_parse {raw : RawRequest} {r : Request} (h : parse raw = .ok r) :
    Method.parse? raw.method = some r.method ∧ Target.parse raw.target = .ok r.target := by
  unfold parse at h
  split at h
  next method hmethod =>
    split at h
    next version _ =>
      obtain ⟨target, htarget, h⟩ := exists_of_bind_eq_ok h
      obtain ⟨headers, -, h⟩ := exists_of_bind_eq_ok h
      have hparts : method = r.method ∧ target = r.target := by
        split at h
        next =>
          obtain rfl := Except.ok.inj h
          exact ⟨rfl, rfl⟩
        next =>
          split at h
          next =>
            obtain rfl := Except.ok.inj h
            exact ⟨rfl, rfl⟩
          next => cases h
      rw [← hparts.1, ← hparts.2]
      exact ⟨hmethod, eq_ok_of_mapError htarget⟩
    next => cases h
  next => cases h

theorem accepted_of_parse {raw : RawRequest} {r : Request} (h : parse raw = .ok r) :
    Accepted r := by
  obtain ⟨hmethod, htarget⟩ := parts_of_parse h
  exact ⟨Method.all_isTokenByte_of_parse? hmethod, Target.accepted_of_parse htarget⟩

end Request

end HttpTelemetry.Http
