import HttpTelemetry.Proofs.Record.Target
import HttpTelemetry.Proofs.Text.Figures
import HttpTelemetry.Reporting.Call
import HttpTelemetry.Sink.Healthd

/-!
# The fields of a health log line

The agent splits a line at the quotes. There are six fields in it, unless the path or the proxy
chain of the request brings quotes along; these split their field into more, and the others stay as
they are. No request ends a line early.
-/

set_option autoImplicit false

namespace HttpTelemetry.Healthd

open Http
open Record (reportedPath)
open Text (isFigure pieces)
open Calendar (Instant)

section Characters

variable {e : RequestRecord} {mark : Char} (hmark : isFigure mark = false)

include hmark

theorem not_mem_timeText (t : Instant) : mark ∉ (timeText t).toList := by
  have hpoint : mark ∉ ".".toList := not_mem_of_all (p := isFigure) (by decide) hmark
  rw [timeText, secondsText, String.toList_append, String.toList_append]
  simp only [List.mem_append, not_or]
  exact ⟨⟨not_mem_int hmark _, hpoint⟩, not_mem_padded hmark 3 _⟩

theorem not_mem_durationText : mark ∉ (durationText e).toList :=
  not_mem_fixed hmark 3 e.seconds

variable (hcolon : mark ≠ ':')

include hcolon

/-- Only a proxy chain brings a mark into the field of the client. -/
theorem not_mem_clientText_iff : mark ∉ (clientText e).toList ↔ mark ∉ e.forwardedFor.toList := by
  unfold clientText
  split
  next => exact Iff.rfl
  next hempty =>
    rw [not_not] at hempty
    rw [hempty]
    cases e.peerIp with
    | none => exact Iff.rfl
    | some ip => exact iff_of_true (not_mem_ipAddress hmark hcolon ip) List.not_mem_nil

theorem not_mem_parts_iff : (∀ part ∈ parts e, mark ∉ part.toList) ↔
    mark ∉ e.path.toList ∧ mark ∉ e.forwardedFor.toList := by
  have htime := not_mem_timeText hmark (completion e)
  have hstatus := not_mem_status hmark e.status
  have hduration := not_mem_durationText (e := e) hmark
  rw [← not_mem_clientText_iff hmark hcolon]
  simp only [parts, List.forall_mem_cons, List.not_mem_nil, false_imp_iff, implies_true, htime,
    hstatus, hduration, not_false_eq_true, true_and, and_true]

end Characters

section Fields

variable {e : RequestRecord}

theorem parts_ne_nil (e : RequestRecord) : parts e ≠ [] := List.cons_ne_nil _ _

theorem newline_not_mem_line (hpath : '\n' ∉ e.path.toList)
    (hchain : '\n' ∉ e.forwardedFor.toList) : '\n' ∉ (line e).toList := by
  have hquote : '\n' ∉ "\"".toList := by decide
  rw [line, Text.not_mem_intercalate_iff hquote, not_mem_parts_iff rfl (by decide)]
  exact ⟨hpath, hchain⟩

theorem pieces_line_eq_parts_iff :
    pieces '"' (line e) = parts e ↔ '"' ∉ e.path.toList ∧ '"' ∉ e.forwardedFor.toList := by
  rw [← not_mem_parts_iff rfl (by decide), Text.pieces_eq_iff (parts_ne_nil e)]
  exact and_iff_right rfl

/-- The quotes of a path or of a client stay within the place of that field. -/
theorem pieces_line (e : RequestRecord) :
    pieces '"' (line e) = timeText (completion e) :: pieces '"' e.path ++
      [e.status.text, durationText e, durationText e] ++ pieces '"' (clientText e) := by
  have htime : '"' ∉ (timeText (completion e)).toList := not_mem_timeText rfl _
  have hstatus : '"' ∉ e.status.text.toList := not_mem_status rfl e.status
  have hduration : '"' ∉ (durationText e).toList := not_mem_durationText rfl
  refine (Text.pieces_intercalate (parts_ne_nil e)).trans ?_
  simp [parts, Text.pieces_of_not_mem htime, Text.pieces_of_not_mem hstatus,
    Text.pieces_of_not_mem hduration]

end Fields

/-- A health log line is one line. Its fields are completion time, path, status, duration twice and
client, and nothing else if and only if neither the path nor the proxy chain has quotes. -/
theorem six_fields_iff {raw : RawRequest} {r : Request} (hr : Request.parse raw = .ok r)
    (timestamp : Instant) (started now : Nat) (status : Status) (size : Nat) :
    let e := Reporting.complete (RequestRecord.ofRequest r timestamp) started now status size
    let chain := RequestRecord.fieldText r Field.forwardedFor
    let client := if chain ≠ "" then chain else match r.peer.map Net.SocketAddress.ip with
      | some ip => ip.text
      | none => ""
    '\n' ∉ (line e).toList ∧
    pieces '"' (line e) = timeText (completion e) :: pieces '"' (reportedPath r) ++
      [toString status.code, durationText e, durationText e] ++ pieces '"' client ∧
    (pieces '"' (line e) = [timeText (completion e), reportedPath r, toString status.code,
        durationText e, durationText e, client] ↔
      '"' ∉ (reportedPath r).toList ∧ '"' ∉ chain.toList) := by
  intro e chain client
  have haccepted := Request.accepted_of_parse hr
  refine ⟨?_, ?_, ?_⟩
  · apply newline_not_mem_line
    · exact Record.not_mem_reportedPath (by decide) rfl haccepted rfl rfl
    · exact Record.not_mem_fieldText (by decide) rfl Field.forwardedFor
  · exact pieces_line e
  · exact pieces_line_eq_parts_iff

/-- A proxy chain comes before the address of the connection's other end. -/
theorem six_fields_iff_chain :
    let chain := "10.0.0.1, ::1"
    let raw : RawRequest := {
      target := Bytes.ofText "/a?b"
      headers := [(Bytes.ofText "X-Forwarded-For", Bytes.ofText chain)]
      peer := some "127.0.0.1:80" }
    let r : Request := ⟨Method.get, .http11, ⟨none, "/a", some "b"⟩,
      [⟨Field.forwardedFor, Bytes.ofText chain⟩], some ⟨.v4 #v[127, 0, 0, 1], 80, 0⟩⟩
    let e := Reporting.complete (RequestRecord.ofRequest r Instant.epoch) 0 1500000 Status.ok 2
    Request.parse raw = .ok r ∧
      pieces '"' (line e) = ["0.001", "/a", "200", durationText e, durationText e, chain] := by
  intro chain raw r e
  have hr : Request.parse raw = .ok r := by decide +kernel
  obtain ⟨-, -, hfields⟩ := six_fields_iff hr Instant.epoch 0 1500000 Status.ok 2
  have htime : timeText (completion e) = "0.001" := by decide +kernel
  have hplain := hfields.mpr (by decide +kernel)
  rw [htime] at hplain
  exact ⟨hr, hplain⟩

/-- A quote in the path makes a seventh field. -/
theorem not_always_six_fields :
    ¬ ∀ (raw : RawRequest) (r : Request) (timestamp : Instant) (started now : Nat)
      (status : Status) (size : Nat), Request.parse raw = .ok r →
      let e := Reporting.complete (RequestRecord.ofRequest r timestamp) started now status size
      '\n' ∉ (line e).toList ∧ (pieces '"' (line e)).length = 6 := by
  intro h
  let r : Request := ⟨Method.get, .http11, ⟨none, "/a\"b", none⟩, [], none⟩
  let e := Reporting.complete (RequestRecord.ofRequest r Instant.epoch) 0 0 Status.ok 0
  have hr : Request.parse { target := Bytes.ofText "/a\"b" } = .ok r := by decide +kernel
  have hpath : pieces '"' e.path = ["/a", "b"] := by decide +kernel
  have hclient : pieces '"' (clientText e) = [""] := by decide +kernel
  obtain ⟨-, hsix⟩ := h _ r Instant.epoch 0 0 Status.ok 0 hr
  have hseven : (pieces '"' (line e)).length = 7 := by
    rw [pieces_line, hpath, hclient]
    rfl
  have hdiffer : 7 = 6 := hseven.symm.trans hsix
  omega

end HttpTelemetry.Healthd
