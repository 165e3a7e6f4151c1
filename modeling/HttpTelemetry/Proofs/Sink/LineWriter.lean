import HttpTelemetry.Proofs.Sink.Healthd
import HttpTelemetry.Proofs.Sink.Outlets
import Mathlib.Data.List.Induction

/-!
# Lines cut short

A writer that fails keeps the part of a line that it has taken, and the next line goes right behind
it. A record that is logged without complaint always has its line written in full, line break
included. What stands in front of it is a line break or nothing at all, unless the writer has been
left in the middle of the line of an earlier record.
-/

set_option autoImplicit false

namespace HttpTelemetry

namespace Sink

variable {ω : Type} (s : Sink ω)

theorem takeAll_cons (r : RequestRecord) (rest : List RequestRecord) (state : ω) :
    s.takeAll (r :: rest) state = s.takeAll rest (s.take r state).1 :=
  List.foldl_cons

theorem takeAll_append (records more : List RequestRecord) (state : ω) :
    s.takeAll (records ++ more) state = s.takeAll more (s.takeAll records state) :=
  List.foldl_append

theorem takeAll_concat (records : List RequestRecord) (r : RequestRecord) (state : ω) :
    s.takeAll (records ++ [r]) state = (s.take r (s.takeAll records state)).1 :=
  s.takeAll_append records [r] state

end Sink

namespace LineWriter

/-- What comes of giving octets to a writer: it has taken a first part of them, all if it says that
it is done, and it panics only if one of its replies is a panic. -/
structure Took (octets : Bytes) (w : LineWriter) (attempt : WriteResult × LineWriter) : Prop where
  piece : ∃ piece, attempt.2.written = w.written ++ piece ∧ piece <+: octets ∧
    (attempt.1 = .done → piece = octets)
  replies : attempt.2.replies <:+ w.replies
  calm : .panics ∉ w.replies → attempt.1 ≠ .panicked

theorem giveAll_takes (replies : List WriteReply) (octets : Bytes) :
    let given := giveAll replies octets
    given.2.1 <+: octets ∧ (given.1 = .done → given.2.1 = octets) ∧ given.2.2 <:+ replies ∧
      (.panics ∉ replies → given.1 ≠ .panicked) := by
  fun_induction giveAll replies octets with
  | case1 replies => exact ⟨List.prefix_rfl, fun _ => rfl, List.suffix_rfl, nofun⟩
  | case2 octets hne => exact ⟨List.prefix_rfl, fun _ => rfl, List.suffix_rfl, nofun⟩
  | case3 replies octets hne => exact ⟨List.nil_prefix, nofun, List.suffix_cons _ replies, nofun⟩
  | case4 most replies octets hne hmost result taken left hgiven ih =>
    rw [hgiven] at ih
    obtain ⟨hfirst, hdone, hleft, hcalm⟩ := ih
    refine ⟨?_, ?_, hleft.trans (List.suffix_cons _ replies), ?_⟩
    · obtain ⟨missing, hmissing⟩ := hfirst
      refine ⟨missing, ?_⟩
      rw [List.append_assoc, hmissing, List.take_append_drop]
    · intro h
      rw [show taken = octets.drop most from hdone h]
      exact List.take_append_drop most octets
    · exact fun h => hcalm (List.not_mem_of_not_mem_cons h)
  | case5 replies octets hne ih =>
    obtain ⟨hfirst, hdone, hleft, hcalm⟩ := ih
    refine ⟨hfirst, hdone, hleft.trans (List.suffix_cons _ replies), ?_⟩
    exact fun h => hcalm (List.not_mem_of_not_mem_cons h)
  | case6 message replies octets hne =>
    exact ⟨List.nil_prefix, nofun, List.suffix_cons _ replies, nofun⟩
  | case7 replies octets hne =>
    exact ⟨List.nil_prefix, nofun, List.suffix_cons _ replies, fun h => absurd List.mem_cons_self h⟩

theorem took_writeAll (w : LineWriter) (octets : Bytes) : Took octets w (w.writeAll octets) := by
  obtain ⟨hfirst, hdone, hleft, hcalm⟩ := giveAll_takes w.replies octets
  exact ⟨⟨_, rfl, hfirst, hdone⟩, hleft, hcalm⟩

theorem took_flush (w : LineWriter) : Took [] w w.flush := by
  have hpiece : w.flush.2.written = w.written ++ [] ∧ w.flush.2.replies = w.replies ∧
      w.flush.1 ≠ .panicked := by
    unfold flush
    split
    next => exact ⟨(List.append_nil _).symm, rfl, nofun⟩
    next => exact ⟨(List.append_nil _).symm, rfl, nofun⟩
  obtain ⟨hwritten, hreplies, hcalm⟩ := hpiece
  exact ⟨⟨[], hwritten, List.nil_prefix, fun _ => rfl⟩, hreplies ▸ List.suffix_rfl, fun _ => hcalm⟩

theorem Took.andThen {first second : Bytes} {w : LineWriter} {attempt : WriteResult × LineWriter}
    {next : LineWriter → WriteResult × LineWriter} (h : Took first w attempt)
    (hnext : ∀ w, Took second w (next w)) :
    Took (first ++ second) w (LineWriter.andThen attempt next) := by
  obtain ⟨⟨piece, hwritten, hfirst, hdone⟩, hreplies, hcalm⟩ := h
  obtain ⟨result, w'⟩ := attempt
  have hfront : piece <+: first ++ second := hfirst.trans (List.prefix_append first second)
  cases result with
  | done =>
    obtain ⟨⟨more, hmore, hmoreFront, hmoreDone⟩, hmoreReplies, hmoreCalm⟩ := hnext w'
    obtain rfl : piece = first := hdone rfl
    refine ⟨⟨piece ++ more, ?_, ?_, ?_⟩, hmoreReplies.trans hreplies, ?_⟩
    · rw [← List.append_assoc, ← hwritten]
      exact hmore
    · exact (List.prefix_append_right_inj piece).mpr hmoreFront
    · intro h
      rw [hmoreDone h]
    · exact fun h => hmoreCalm fun hmem => h (hreplies.subset hmem)
  | failed message => exact ⟨⟨piece, hwritten, hfront, nofun⟩, hreplies, hcalm⟩
  | panicked => exact ⟨⟨piece, hwritten, hfront, nofun⟩, hreplies, hcalm⟩

theorem took_writeLine (w : LineWriter) (line : String) :
    Took (Bytes.ofText line ++ [0x0A]) w (w.writeLine line) := by
  have hbreak : Bytes.ofText "\n" = [0x0A] := rfl
  have htook := ((took_writeAll w (Bytes.ofText line)).andThen
    fun w => took_writeAll w (Bytes.ofText "\n")).andThen took_flush
  rwa [List.append_nil, hbreak] at htook

end LineWriter

namespace Healthd

/-- A record's line with its line break. -/
def whole (r : RequestRecord) : Bytes := Bytes.ofText (line r) ++ [0x0A]

/-- At the start of all output, or behind a line break. -/
def StartsLine (output : Bytes) : Prop := output = [] ∨ [0x0A] <:+ output

/-- The write of a record failed inside its line, and no output followed. -/
structure CutShort (cut : RequestRecord) (before : Outlets) (output : Bytes) : Prop where
  output : ∃ piece missing, whole cut = piece ++ missing ∧ piece ≠ [] ∧ missing ≠ [] ∧
    output = before.writer.written ++ piece
  complaint : ∃ message,
    (sink.take cut before).1.events = before.events ++ [writeFailure message]

/-- What has been written of some records ends inside the line of one of them. -/
def Torn (o : Outlets) (records : List RequestRecord) : Prop :=
  ∃ earlier cut later, records = earlier ++ cut :: later ∧
    CutShort cut (sink.takeAll earlier o) (sink.takeAll records o).writer.written

section Attempts

variable {o : Outlets} {r : RequestRecord}

theorem took_line (w : LineWriter) (r : RequestRecord) :
    LineWriter.Took (whole r) w (w.writeLine (line r)) := by
  rw [whole]
  exact LineWriter.took_writeLine w (line r)

theorem written_singleton (w : LineWriter) (r : RequestRecord) :
    written w [r] = (w.writeLine (line r)).2 := rfl

theorem writer_take (r : RequestRecord) (o : Outlets) :
    (sink.take r o).1.writer = (o.writer.writeLine (line r)).2 := by
  rw [take_sink_eq, ← written_singleton]

theorem exists_piece_take (o : Outlets) (r : RequestRecord) :
    ∃ piece missing, whole r = piece ++ missing ∧
      (sink.take r o).1.writer.written = o.writer.written ++ piece := by
  obtain ⟨⟨piece, hwritten, ⟨missing, hmissing⟩, -⟩, -, -⟩ := took_line o.writer r
  rw [writer_take]
  exact ⟨piece, missing, hmissing.symm, hwritten⟩

/-- A writer without panics lets every record be logged, with at most one complaint, and without
one only if it has taken the whole line. -/
theorem take_of_calm (r : RequestRecord) (h : .panics ∉ o.writer.replies) :
    (sink.take r o).2 = false ∧ .panics ∉ (sink.take r o).1.writer.replies ∧
      ((sink.take r o).1.events = o.events ∧
          (sink.take r o).1.writer.written = o.writer.written ++ whole r ∨
        ∃ message, (sink.take r o).1.events = o.events ++ [writeFailure message]) := by
  have htook := took_line o.writer r
  rw [take_sink_eq, written_singleton, writeRecord]
  generalize o.writer.writeLine (line r) = attempt at htook ⊢
  obtain ⟨⟨piece, hpiece, -, hdone⟩, hreplies, hcalm⟩ := htook
  obtain ⟨result, w⟩ := attempt
  have hleft : .panics ∉ w.replies := fun hmem => h (hreplies.subset hmem)
  cases result with
  | done =>
    rw [hdone rfl] at hpiece
    exact ⟨rfl, hleft, .inl ⟨List.append_nil _, hpiece⟩⟩
  | failed message => exact ⟨rfl, hleft, .inr ⟨message, rfl⟩⟩
  | panicked => exact absurd rfl (hcalm h)

theorem exists_complaint (h : .panics ∉ o.writer.replies) {piece missing : Bytes}
    (hwhole : whole r = piece ++ missing) (hmissing : missing ≠ [])
    (hpiece : (sink.take r o).1.writer.written = o.writer.written ++ piece) :
    ∃ message, (sink.take r o).1.events = o.events ++ [writeFailure message] := by
  obtain ⟨-, -, ⟨-, hall⟩ | hcomplaint⟩ := take_of_calm r h
  · rw [hpiece, hwhole] at hall
    exact absurd (List.self_eq_append_right.mp (List.append_cancel_left hall)) hmissing
  · exact hcomplaint

theorem quiet_of_done (h : (o.writer.writeLine (line r)).1 = .done) :
    (sink.take r o).1.events = o.events := by
  rw [take_sink_eq, writeRecord]
  generalize o.writer.writeLine (line r) = attempt at h ⊢
  obtain ⟨result, w⟩ := attempt
  obtain rfl : result = .done := h
  exact List.append_nil _

end Attempts

section Runs

variable {o : Outlets} {records : List RequestRecord}

theorem calm_takeAll (records : List RequestRecord) (h : .panics ∉ o.writer.replies) :
    .panics ∉ (sink.takeAll records o).writer.replies := by
  induction records generalizing o with
  | nil => exact h
  | cons r rest ih =>
    obtain ⟨-, hleft, -⟩ := take_of_calm r h
    rw [Sink.takeAll_cons]
    exact ih hleft

theorem written_prefix_takeAll (records : List RequestRecord) (o : Outlets) :
    o.writer.written <+: (sink.takeAll records o).writer.written := by
  induction records generalizing o with
  | nil => exact List.prefix_rfl
  | cons r rest ih =>
    obtain ⟨piece, _, -, hpiece⟩ := exists_piece_take o r
    have hone : o.writer.written <+: (sink.take r o).1.writer.written :=
      ⟨piece, hpiece.symm⟩
    rw [Sink.takeAll_cons]
    exact hone.trans (ih _)

theorem exists_rest_of_quiet {r : RequestRecord} (hcalm : .panics ∉ o.writer.replies)
    (hquiet : (sink.take r o).1.events = o.events) (later : List RequestRecord) :
    ∃ rest, (sink.takeAll (r :: later) o).writer.written =
      o.writer.written ++ Bytes.ofText (line r) ++ 0x0A :: rest := by
  have hwhole : (sink.take r o).1.writer.written = o.writer.written ++ whole r := by
    obtain ⟨-, -, ⟨-, hwhole⟩ | ⟨message, hcomplaint⟩⟩ := take_of_calm r hcalm
    · exact hwhole
    · have hnone := List.append_right_eq_self.mp (hcomplaint.symm.trans hquiet)
      cases hnone
  obtain ⟨rest, hrest⟩ := written_prefix_takeAll later (sink.take r o).1
  refine ⟨rest, ?_⟩
  rw [Sink.takeAll_cons, ← hrest, hwhole, whole]
  simp only [List.append_assoc, List.singleton_append]

theorem startsLine_or_torn (hempty : o.writer.written = []) (hcalm : .panics ∉ o.writer.replies)
    (records : List RequestRecord) :
    StartsLine (sink.takeAll records o).writer.written ∨ Torn o records := by
  -- The last record leaves the output as it was, ends it with a line break, or tears it.
  induction records using List.reverseRecOn with
  | nil => exact .inl (.inl hempty)
  | append_singleton records r ih =>
    obtain ⟨piece, missing, hwhole, hpiece⟩ := exists_piece_take (sink.takeAll records o) r
    rw [Sink.takeAll_concat]
    by_cases hnone : piece = []
    · rw [hnone, List.append_nil] at hpiece
      rcases ih with hstarts | ⟨earlier, cut, later, rfl, hcut⟩
      · rw [hpiece]
        exact .inl hstarts
      · refine .inr ⟨earlier, cut, later ++ [r], List.append_assoc _ _ _, ?_⟩
        rw [Sink.takeAll_concat, hpiece]
        exact hcut
    by_cases hall : missing = []
    · refine .inl (.inr ?_)
      rw [hall, List.append_nil] at hwhole
      rw [hpiece, ← hwhole]
      exact (List.suffix_append _ [0x0A]).trans (List.suffix_append _ _)
    · refine .inr ⟨records, r, [], rfl, ?_, ?_⟩
      · rw [Sink.takeAll_concat]
        exact ⟨piece, missing, hwhole, hnone, hall, hpiece⟩
      · exact exists_complaint (calm_takeAll records hcalm) hwhole hall hpiece

theorem not_startsLine_of_torn (hline : ∀ e ∈ records, '\n' ∉ (line e).toList)
    (h : Torn o records) : ¬ StartsLine (sink.takeAll records o).writer.written := by
  obtain ⟨earlier, cut, later, rfl, ⟨piece, missing, hwhole, hpiece, hmissing, houtput⟩, -⟩ := h
  have hcut : '\n' ∉ (line cut).toList := hline cut List.mem_append_cons_self
  -- The only line break of the whole line is among what is missing.
  have hbreak : 0x0A ∉ piece := by
    obtain ⟨front, hfront⟩ : piece <+: Bytes.ofText (line cut) :=
      (List.prefix_concat_iff.mp ⟨missing, hwhole.symm⟩).resolve_left fun h => by
        rw [whole, ← h] at hwhole
        exact hmissing (List.append_right_eq_self.mp hwhole.symm)
    intro hmem
    have hall : 0x0A ∈ Bytes.ofText (line cut) := hfront ▸ List.mem_append_left front hmem
    exact hcut (Bytes.mem_of_mem_ofText hall (by decide))
  rw [houtput]
  rintro (hnone | hend)
  · exact hpiece (List.append_eq_nil_iff.mp hnone).2
  · have hlast : [0x0A] <:+ piece :=
      List.suffix_of_suffix_length_le hend (List.suffix_append _ piece)
        (List.length_pos_iff.mpr hpiece)
    exact hbreak (hlast.subset List.mem_cons_self)

end Runs

/-- With a writer that does not panic, every record that is logged without complaint has its line
written in full. It starts a line unless the line of an earlier record was cut short. -/
theorem whole_or_complained {o : Outlets} (hempty : o.writer.written = [])
    (hcalm : .panics ∉ o.writer.replies) (earlier : List RequestRecord) (r : RequestRecord)
    (later : List RequestRecord) :
    let before := sink.takeAll earlier o
    let after := (sink.take r before).1
    (sink.take r before).2 = false ∧
    (after.events = before.events ∨
      ∃ message, after.events = before.events ++ [writeFailure message]) ∧
    (after.events = before.events →
      ∃ rest, (sink.takeAll (earlier ++ r :: later) o).writer.written =
        before.writer.written ++ Bytes.ofText (line r) ++ 0x0A :: rest) ∧
    (StartsLine before.writer.written ∨ Torn o earlier) ∧
    ((∀ e ∈ earlier, '\n' ∉ (line e).toList) →
      (StartsLine before.writer.written ↔ ¬ Torn o earlier)) := by
  -- Without the names, no two states are compared by running the sink.
  dsimp only
  have hstart := startsLine_or_torn hempty hcalm earlier
  obtain ⟨hreturns, -, hlogged⟩ := take_of_calm r (calm_takeAll earlier hcalm)
  refine ⟨hreturns, ?_, ?_, hstart, ?_⟩
  · rcases hlogged with ⟨hquiet, -⟩ | hcomplaint
    · exact .inl hquiet
    · exact .inr hcomplaint
  · intro hquiet
    rw [Sink.takeAll_append]
    exact exists_rest_of_quiet (calm_takeAll earlier hcalm) hquiet later
  · intro hlines
    constructor
    · intro hstarts htorn
      exact not_startsLine_of_torn hlines htorn hstarts
    · exact hstart.resolve_right

section TwoRecords

/-- A request that brings nothing but its path, answered at once at the beginning of 1970. -/
def plainRecord (path : String) : RequestRecord :=
  RequestRecord.ofRequest ⟨Http.Method.get, .http11, ⟨none, path, none⟩, [], none⟩
    Calendar.Instant.epoch

/-- The second record stands behind the first octet of the first one. -/
theorem whole_or_complained_cut_short :
    let a := plainRecord "/a"
    let b := plainRecord "/b"
    let o : Outlets := { writer := { replies := [.takes 1, .fails "disk full"] } }
    Torn o [a] ∧ ∃ rest, (sink.takeAll [a, b] o).writer.written =
      [0x30] ++ Bytes.ofText (line b) ++ 0x0A :: rest := by
  intro a b o
  have hcut : (sink.takeAll [a] o).writer.written = [0x30] := by decide +kernel
  have hquiet : (sink.take b (sink.takeAll [a] o)).1.events = (sink.takeAll [a] o).events :=
    quiet_of_done (by decide +kernel)
  have hempty : o.writer.written = [] := rfl
  have hcalm : .panics ∉ o.writer.replies := by decide
  obtain ⟨-, -, hwhole, hstart, -⟩ := whole_or_complained hempty hcalm [a] b []
  have hwritten := hwhole hquiet
  rw [hcut] at hwritten hstart
  rw [List.singleton_append] at hwritten
  refine ⟨hstart.resolve_left ?_, hwritten⟩
  rintro (hnone | hend)
  · cases hnone
  · exact absurd (hend.eq_of_length rfl) (by decide)

/-- A record is logged without complaint and yet starts in the middle of a line. -/
theorem not_always_whole_line :
    ¬ ∀ (o : Outlets) (earlier : List RequestRecord) (r : RequestRecord)
      (later : List RequestRecord), o.writer.written = [] → .panics ∉ o.writer.replies →
      let before := sink.takeAll earlier o
      (sink.take r before).1.events = before.events →
      ∃ front rest, (sink.takeAll (earlier ++ r :: later) o).writer.written =
        front ++ Bytes.ofText (line r) ++ 0x0A :: rest ∧ StartsLine front := by
  intro h
  let a := plainRecord "/a"
  let b := plainRecord "/b"
  let o : Outlets := { writer := { replies := [.takes 1, .fails "disk full"] } }
  have hquiet : (sink.take b (sink.takeAll [a] o)).1.events = (sink.takeAll [a] o).events :=
    quiet_of_done (by decide +kernel)
  have hwritten : (sink.takeAll ([a] ++ [b]) o).writer.written =
      Bytes.ofText "00.000\"/b\"200\"0.000\"0.000\"\n" := by
    decide +kernel
  have hline : line b = "0.000\"/b\"200\"0.000\"0.000\"" := by decide +kernel
  obtain ⟨front, rest, hsplit, hfront⟩ := h o [a] b [] rfl (by decide) hquiet
  rw [hwritten, hline] at hsplit
  rcases hfront with hnone | hend
  · have htwo := congrArg (List.take 2) hsplit
    rw [hnone, List.nil_append, List.take_append_of_le_length (by decide +kernel)] at htwo
    exact absurd htwo (by decide +kernel)
  · have hfirst : 0 < front.count 0x0A := List.count_pos_iff.mpr (hend.subset List.mem_cons_self)
    have honly := congrArg (List.count 0x0A) hsplit
    rw [List.count_append, List.count_append, List.count_cons_self] at honly
    have hone : (Bytes.ofText "00.000\"/b\"200\"0.000\"0.000\"\n").count 0x0A = 1 := by
      decide +kernel
    omega

end TwoRecords

end Healthd

end HttpTelemetry
