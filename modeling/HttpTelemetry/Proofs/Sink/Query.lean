import HttpTelemetry.Proofs.Http.Query
import HttpTelemetry.Proofs.Record.Target
import HttpTelemetry.Reporting.Call
import HttpTelemetry.Sink.Outlets

/-!
# Queries stay out of metrics and health lines

Two requests that differ behind the first question mark of their targets have records that differ in
the URI alone, and only request logs show that. Statistics, metrics and health lines are the same,
whether the target is a path, an absolute address or the authority that a tunnel leads to.
-/

set_option autoImplicit false

namespace HttpTelemetry

open Http
open Calendar (Instant)
open Record (reportedPath reportedUri isTunnel_congr)

section Records

variable {r r' : Request}

theorem Record.reportedPath_of_sameButQuery (h : SameButQuery r r') :
    reportedPath r' = reportedPath r := by
  rw [reportedPath, reportedPath, isTunnel_congr h.method h.version, tunnelAuthority,
    tunnelAuthority, h.authority, h.headers, h.path]

/-- A record tells of a query in its URI and nowhere else. -/
theorem RequestRecord.ofRequest_of_sameButQuery (h : SameButQuery r r') (timestamp : Instant) :
    ofRequest r' timestamp = { ofRequest r timestamp with uri := reportedUri r' } := by
  have hhost : hostOf r' = hostOf r := by rw [hostOf, hostOf, h.headers, h.authority]
  have hfield (name : String) : fieldText r' name = fieldText r name := by
    rw [fieldText, fieldText, h.headers]
  rw [ofRequest, ofRequest, Record.reportedPath_of_sameButQuery h, h.method, h.version, hhost,
    h.peer, hfield, hfield, hfield]

end Records

/-! ### Sinks -/

/-- A health sink acts on a record by its line alone. -/
theorem Healthd.sink_eq_of_line_eq {e e' : RequestRecord} (h : Healthd.line e' = Healthd.line e) :
    Healthd.sink e' = Healthd.sink e := by
  have hwrite (w : LineWriter) : Healthd.writeRecord w e' = Healthd.writeRecord w e := by
    rw [Healthd.writeRecord, Healthd.writeRecord, h]
  unfold Healthd.sink
  simp only [hwrite]

/-- Requests that agree up to the first question mark of their targets get the same metrics with the
same names, values and tags, the same labels and the same health line, so that the sinks of these
do the same for both. -/
theorem queries_leave_no_trace {raw raw' : RawRequest} {r r' : Request}
    (hr : Request.parse raw = .ok r) (hr' : Request.parse raw' = .ok r')
    (htarget : Target.unqueried raw'.target = Target.unqueried raw.target)
    (hmethod : r'.method = r.method) (hversion : r'.version = r.version)
    (hheaders : r'.headers = r.headers) (hpeer : r'.peer = r.peer)
    (timestamp : Instant) (started now : Nat) (status : Status) (size : Nat) :
    let e := Reporting.complete (RequestRecord.ofRequest r timestamp) started now status size
    let e' := Reporting.complete (RequestRecord.ofRequest r' timestamp) started now status size
    e' = { e with uri := reportedUri r' } ∧
    Statsd.recordMetrics e' = Statsd.recordMetrics e ∧
    Metrics.recordLabels e' = Metrics.recordLabels e ∧
    Healthd.line e' = Healthd.line e ∧
    (∀ c : Statsd.Client, Statsd.sink c e' = Statsd.sink c e) ∧
    Metrics.sink e' = Metrics.sink e ∧
    Healthd.sink e' = Healthd.sink e := by
  intro e e'
  have hsame := sameButQuery_of_parse hr hr' htarget hmethod hversion hheaders hpeer
  have he : e' = { e with uri := reportedUri r' } := by
    simp only [e', e, RequestRecord.ofRequest_of_sameButQuery hsame]
    rfl
  -- No metric, label or line is made of the URI.
  have hline : Healthd.line { e with uri := reportedUri r' } = Healthd.line e := rfl
  rw [he]
  exact ⟨rfl, rfl, rfl, hline, fun _ => rfl, rfl, Healthd.sink_eq_of_line_eq hline⟩

/-- A tunnel to an absolute target with an empty path: what looks like a path or a further query
behind the question mark, and the fragment, go unseen. -/
theorem queries_leave_no_trace_tunnel :
    let raw (target : String) : RawRequest :=
      { method := Bytes.ofText "CONNECT", version := "HTTP/2.0", target := Bytes.ofText target }
    let r (query : Option String) : Request :=
      ⟨Method.connect, .http2, ⟨some "a@b:80", "/", query⟩, [], none⟩
    let e (query : Option String) : RequestRecord :=
      Reporting.complete (RequestRecord.ofRequest (r query) Instant.epoch) 0 50 Status.ok 2
    Request.parse (raw "http://a@b:80") = .ok (r none) ∧
      Request.parse (raw "http://a@b:80?q=/k?#top") = .ok (r (some "q=/k?")) ∧
      Metrics.recordLabels (e (some "q=/k?")) =
        [("endpoint", "a@b:80"), ("method", "CONNECT"), ("status", "200")] := by
  intro raw r e
  have hr : Request.parse (raw "http://a@b:80") = .ok (r none) := by decide +kernel
  have hr' : Request.parse (raw "http://a@b:80?q=/k?#top") = .ok (r (some "q=/k?")) := by
    decide +kernel
  have htarget : Target.unqueried (raw "http://a@b:80?q=/k?#top").target =
      Target.unqueried (raw "http://a@b:80").target := by decide +kernel
  obtain ⟨-, -, hlabels, -⟩ :=
    queries_leave_no_trace hr hr' htarget rfl rfl rfl rfl Instant.epoch 0 50 Status.ok 2
  exact ⟨hr, hr', hlabels.trans (by decide +kernel)⟩

end HttpTelemetry
