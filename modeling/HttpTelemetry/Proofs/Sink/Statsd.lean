import HttpTelemetry.Proofs.Record.Target
import HttpTelemetry.Proofs.Text.Figures
import HttpTelemetry.Reporting.Call
import HttpTelemetry.Sink.Statsd

/-!
# Statistics lines can be read back

The agent splits a line at bars, then its first section at the colon and its last one at commas. The
format has no escapes, so it reads a metric as it was meant if and only if no text of the metric
holds a mark that ends it. Name, value and kind of a request's metrics never do, nor do the client's
own tags. A path may hold bars and commas and a method bars, and then what is read as tags is wrong.
-/

set_option autoImplicit false

namespace HttpTelemetry.Statsd

open Http
open Record (reportedPath)
open Text (isFigure pieces)
open Calendar (Instant)

/-! ### Readings -/

/-- What an agent takes from a line. -/
structure Reading where
  name : String
  value : String
  kind : String
  tags : List String
  deriving DecidableEq

/-- The tags of a last section, which begins with a hash. -/
def readTags? (last : String) : Option (List String) :=
  match last.toList with
  | '#' :: list => some (pieces ',' (String.ofList list))
  | _ => none

def read? (line : String) : Option Reading :=
  match pieces '|' line with
  | [front, kind, last] =>
    match pieces ':' front, readTags? last with
    | [name, value], some tags => some ⟨name, value, kind, tags⟩
    | _, _ => none
  | _ => none

namespace Reading

def front (m : Reading) : String := m.name ++ ":" ++ m.value

def last (m : Reading) : String := "#" ++ String.intercalate "," m.tags

def line (m : Reading) : String := m.front ++ "|" ++ m.kind ++ "|" ++ m.last

/-- No text of the reading holds a mark that would end it. -/
structure Plain (m : Reading) : Prop where
  name : ':' ∉ m.name.toList ∧ '|' ∉ m.name.toList
  value : ':' ∉ m.value.toList ∧ '|' ∉ m.value.toList
  kind : '|' ∉ m.kind.toList
  tagged : m.tags ≠ []
  tags : ∀ tag ∈ m.tags, ',' ∉ tag.toList ∧ '|' ∉ tag.toList

theorem bar_not_mem_front {m : Reading} (hname : '|' ∉ m.name.toList)
    (hvalue : '|' ∉ m.value.toList) : '|' ∉ m.front.toList := by
  simp only [front, String.toList_append, List.mem_append, not_or]
  exact ⟨⟨hname, by decide⟩, hvalue⟩

theorem bar_not_mem_last_iff {m : Reading} :
    '|' ∉ m.last.toList ↔ ∀ tag ∈ m.tags, '|' ∉ tag.toList := by
  have hcomma : '|' ∉ ",".toList := by decide
  rw [← Text.not_mem_intercalate_iff hcomma, last]
  simp

theorem newline_not_mem_line_iff {m : Reading} : '\n' ∉ m.line.toList ↔
    '\n' ∉ m.name.toList ∧ '\n' ∉ m.value.toList ∧ '\n' ∉ m.kind.toList ∧
      ∀ tag ∈ m.tags, '\n' ∉ tag.toList := by
  have hcomma : '\n' ∉ ",".toList := by decide
  rw [← Text.not_mem_intercalate_iff hcomma]
  simp [line, front, last]

end Reading

section Reading

variable {line front kind last list : String} {tags : List String} {m : Reading}

theorem pieces_bar_eq_iff : pieces '|' line = [front, kind, last] ↔
    line = front ++ "|" ++ kind ++ "|" ++ last ∧
      '|' ∉ front.toList ∧ '|' ∉ kind.toList ∧ '|' ∉ last.toList := by
  rw [Text.pieces_eq_iff (List.cons_ne_nil _ _)]
  simp [String.append_assoc]

theorem pieces_comma_eq_iff : pieces ',' list = tags ↔
    tags ≠ [] ∧ list = String.intercalate "," tags ∧ ∀ tag ∈ tags, ',' ∉ tag.toList := by
  by_cases hne : tags = []
  · simp [hne, Text.pieces_ne_nil]
  · rw [Text.pieces_eq_iff hne]
    simp [hne]

theorem readTags?_hash (list : String) : readTags? ("#" ++ list) = some (pieces ',' list) := by
  have hlist : ("#" ++ list).toList = '#' :: list.toList := by simp
  rw [readTags?, hlist]
  simp

theorem readTags?_eq_some_iff :
    readTags? last = some tags ↔ ∃ list, last = "#" ++ list ∧ pieces ',' list = tags := by
  constructor
  · intro h
    unfold readTags? at h
    split at h
    next list hlast =>
      refine ⟨String.ofList list, ?_, Option.some.inj h⟩
      rw [← String.toList_inj, hlast]
      simp
    next => cases h
  · rintro ⟨list, rfl, rfl⟩
    exact readTags?_hash list

theorem read?_eq_some_iff_sections :
    read? line = some m ↔ ∃ front last, pieces '|' line = [front, m.kind, last] ∧
      pieces ':' front = [m.name, m.value] ∧ readTags? last = some m.tags := by
  constructor
  · intro h
    unfold read? at h
    split at h
    next front kind last hline =>
      split at h
      next name value tags hfront hlast =>
        obtain rfl := Option.some.inj h
        exact ⟨front, last, hline, hfront, hlast⟩
      next => cases h
    next => cases h
  · rintro ⟨front, last, hline, hfront, hlast⟩
    simp only [read?, hline, hfront, hlast]

/-- The lines that can be read are the written forms of plain readings. -/
theorem read?_eq_some_iff : read? line = some m ↔ line = m.line ∧ m.Plain := by
  rw [read?_eq_some_iff_sections]
  constructor
  · rintro ⟨front, last, hline, hfront, hlast⟩
    obtain ⟨rfl, hbarFront, hbarKind, hbarLast⟩ := pieces_bar_eq_iff.mp hline
    obtain ⟨rfl, hcolonName, hcolonValue⟩ := Text.pieces_eq_pair_iff.mp hfront
    obtain ⟨list, rfl, hlist⟩ := readTags?_eq_some_iff.mp hlast
    obtain ⟨htagged, rfl, hcomma⟩ := pieces_comma_eq_iff.mp hlist
    have hbarTags := Reading.bar_not_mem_last_iff.mp hbarLast
    simp only [String.toList_append, List.mem_append, not_or] at hbarFront
    refine ⟨rfl, ?_⟩
    constructor
    case name => exact ⟨hcolonName, hbarFront.1.1⟩
    case value => exact ⟨hcolonValue, hbarFront.2⟩
    case kind => exact hbarKind
    case tagged => exact htagged
    case tags =>
      intro tag htag
      exact ⟨hcomma tag htag, hbarTags tag htag⟩
  · rintro ⟨rfl, h⟩
    have hbarFront := Reading.bar_not_mem_front h.name.2 h.value.2
    have hbarLast := Reading.bar_not_mem_last_iff.mpr fun tag htag => (h.tags tag htag).2
    have hcomma : ∀ tag ∈ m.tags, ',' ∉ tag.toList := fun tag htag => (h.tags tag htag).1
    refine ⟨m.front, m.last, ?_, ?_, ?_⟩
    · exact pieces_bar_eq_iff.mpr ⟨rfl, hbarFront, h.kind, hbarLast⟩
    · exact Text.pieces_eq_pair_iff.mpr ⟨rfl, h.name.1, h.value.1⟩
    · exact readTags?_eq_some_iff.mpr ⟨_, rfl, pieces_comma_eq_iff.mpr ⟨h.tagged, rfl, hcomma⟩⟩

end Reading

/-! ### Lines of a client -/

/-- What a metric is meant to be read as. -/
def Client.reading (c : Client) (m : Metric) : Reading :=
  ⟨c.nameSpace ++ m.name, m.value.text, m.value.kind, c.allTags m⟩

/-- Neither the namespace nor the tags of a client hold marks of a line. -/
structure Client.Unmarked (c : Client) : Prop where
  nameSpace : ∀ mark ∈ [':', '|', ',', '#', '\n'], mark ∉ c.nameSpace.toList
  tags : ∀ tag ∈ c.tags, ∀ mark ∈ ['|', ',', '\n'], mark ∉ tag.toList

section Lines

variable {c : Client} {m : Metric} {own : List String}

theorem Client.line_eq (h : c.allTags m ≠ []) : c.line m = (c.reading m).line := by
  have hhash (list : String) : "|#" ++ list = "|" ++ ("#" ++ list) := by
    rw [← String.append_assoc]
    rfl
  simp [Client.line, Client.reading, Reading.line, Reading.front, Reading.last, h, hhash,
    String.append_assoc]

/-- A client's tags, with the commas behind them, stand apart from all tags that follow. -/
theorem exists_lead (hc : c.Unmarked) : ∃ lead : String, '|' ∉ lead.toList ∧
    (∀ own, own ≠ [] → String.intercalate "," (c.tags ++ own) =
      lead ++ String.intercalate "," own) ∧
    ∀ back, pieces ',' (lead ++ back) = c.tags ++ pieces ',' back := by
  by_cases hne : c.tags = []
  · rw [hne]
    exact ⟨"", by simp⟩
  · refine ⟨String.intercalate "," c.tags ++ ",", ?_, ?_, ?_⟩
    · have hcomma : '|' ∉ ",".toList := by decide
      have htags := (Text.not_mem_intercalate_iff hcomma).mpr fun tag htag =>
        hc.tags tag htag '|' (by simp)
      rw [String.toList_append, List.mem_append, not_or]
      exact ⟨htags, hcomma⟩
    · intro own hown
      exact String.intercalate_append_of_ne_nil hne hown
    · intro back
      have hsplit : pieces ',' (String.intercalate "," c.tags) = c.tags := by
        apply pieces_comma_eq_iff.mpr
        exact ⟨hne, rfl, fun tag htag => hc.tags tag htag ',' (by simp)⟩
      have happend := Text.pieces_append (c := ',') (String.intercalate "," c.tags) back
      rw [hsplit] at happend
      exact happend

/-- Whatever else is among the tags, a client's own come first. -/
theorem exists_readTags?_last (hc : c.Unmarked) (hown : own ≠ []) :
    ∃ last more others, pieces '|' ("#" ++ String.intercalate "," (c.tags ++ own)) = last :: more ∧
      readTags? last = some (c.tags ++ others) := by
  obtain ⟨lead, hbar, happend, hpieces⟩ := exists_lead hc
  have hfront : '|' ∉ ("#" ++ lead).toList := by simpa using hbar
  obtain ⟨first, more, -, hsplit⟩ :=
    Text.exists_pieces_append hfront (String.intercalate "," own)
  refine ⟨"#" ++ (lead ++ first), more, pieces ',' first, ?_, ?_⟩
  · rw [happend own hown, ← String.append_assoc, hsplit, String.append_assoc]
  · rw [readTags?_hash, hpieces]

theorem pieces_reading_line {m : Reading} (hfront : '|' ∉ m.front.toList)
    (hkind : '|' ∉ m.kind.toList) :
    pieces '|' m.line = m.front :: m.kind :: pieces '|' m.last := by
  have hpair : pieces '|' (m.front ++ "|" ++ m.kind) = [m.front, m.kind] :=
    Text.pieces_eq_pair_iff.mpr ⟨rfl, hfront, hkind⟩
  have happend := Text.pieces_append (c := '|') (m.front ++ "|" ++ m.kind) m.last
  rw [hpair] at happend
  exact happend

end Lines

/-! ### Metrics of requests -/

section Records

variable {c : Client} {e : RequestRecord} {m : Metric}

theorem MetricValue.not_mem_text {mark : Char} (h : isFigure mark = false) (v : MetricValue) :
    mark ∉ v.text.toList := by
  cases v with
  | timing ms => exact not_mem_fixed h 6 ms
  | count n => exact not_mem_int h n

theorem MetricValue.not_mem_kind {mark : Char} (h : isFigure mark = false) (v : MetricValue) :
    mark ∉ v.kind.toList := by
  cases v with
  | timing ms => exact not_mem_of_all (l := "ms".toList) (by decide) h
  | count n => exact not_mem_of_all (l := "c".toList) (by decide) h

theorem eq_of_mem_recordMetrics (hm : m ∈ recordMetrics e) :
    m = responseTime e ∨ m = requestCount e := by
  rw [recordMetrics, List.mem_cons, List.mem_singleton] at hm
  exact hm

theorem not_mem_name (hc : c.Unmarked) (hm : m ∈ recordMetrics e) :
    ∀ mark ∈ [':', '|', '\n'], mark ∉ (c.nameSpace ++ m.name).toList := by
  have hown : ∀ mark ∈ [':', '|', '\n'], mark ∉ m.name.toList := by
    rcases eq_of_mem_recordMetrics hm with rfl | rfl
    · simp [responseTime]
    · simp [requestCount]
  have hspace : [':', '|', '\n'] ⊆ [':', '|', ',', '#', '\n'] := by simp
  intro mark hmark
  rw [String.toList_append, List.mem_append, not_or]
  exact ⟨hc.nameSpace mark (hspace hmark), hown mark hmark⟩

theorem allTags_of_mem (hm : m ∈ recordMetrics e) : c.allTags m = c.tags ++ recordTags e := by
  rcases eq_of_mem_recordMetrics hm with rfl | rfl
  · rfl
  · rfl

theorem allTags_ne_nil (hm : m ∈ recordMetrics e) : c.allTags m ≠ [] := by
  rw [allTags_of_mem hm]
  exact List.append_ne_nil_of_right_ne_nil c.tags (List.cons_ne_nil _ _)

theorem not_mem_recordTags_iff {mark : Char} (hfigure : isFigure mark = false)
    (hcolon : mark ≠ ':') :
    (∀ tag ∈ recordTags e, mark ∉ tag.toList) ↔
      mark ∉ e.path.toList ∧ mark ∉ e.method.name.toList := by
  have hlabel {label : String} (h : label.toList.all (fun x => isFigure x || x == ':') = true) :
      mark ∉ label.toList := by
    apply not_mem_of_all h
    rw [hfigure, Bool.false_or, beq_eq_false_iff_ne]
    exact hcolon
  have hendpoint : mark ∉ "endpoint:".toList := hlabel (by decide)
  have hstatus : mark ∉ "statusCode:".toList := hlabel (by decide)
  have hmethod : mark ∉ "method:".toList := hlabel (by decide)
  have hcode := not_mem_status hfigure e.status
  simp only [recordTags, List.forall_mem_cons, String.toList_append, List.mem_append, not_or,
    hendpoint, hstatus, hmethod, hcode, List.not_mem_nil, false_imp_iff, implies_true,
    not_false_eq_true, true_and, and_true]

theorem not_mem_allTags_iff (hc : c.Unmarked) (hm : m ∈ recordMetrics e) {mark : Char}
    (hmark : mark ∈ ['|', ',', '\n']) : (∀ tag ∈ c.allTags m, mark ∉ tag.toList) ↔
      mark ∉ e.path.toList ∧ mark ∉ e.method.name.toList := by
  have hfigure : isFigure mark = false ∧ mark ≠ ':' := by
    simp only [List.mem_cons, List.not_mem_nil, or_false] at hmark
    rcases hmark with rfl | rfl | rfl
    · exact ⟨rfl, by decide⟩
    · exact ⟨rfl, by decide⟩
    · exact ⟨rfl, by decide⟩
  rw [allTags_of_mem hm, List.forall_mem_append, not_mem_recordTags_iff hfigure.1 hfigure.2]
  apply and_iff_right
  intro tag htag
  exact hc.tags tag htag mark hmark

theorem plain_reading_iff (hc : c.Unmarked) (hm : m ∈ recordMetrics e)
    (hmethod : ',' ∉ e.method.name.toList) :
    (c.reading m).Plain ↔
      '|' ∉ e.path.toList ∧ ',' ∉ e.path.toList ∧ '|' ∉ e.method.name.toList := by
  have hcomma : (∀ tag ∈ c.allTags m, ',' ∉ tag.toList) ↔ _ :=
    not_mem_allTags_iff hc hm (by simp)
  have hbar : (∀ tag ∈ c.allTags m, '|' ∉ tag.toList) ↔ _ :=
    not_mem_allTags_iff hc hm (by simp)
  constructor
  · intro h
    obtain ⟨hpath, -⟩ := hcomma.mp fun tag htag => (h.tags tag htag).1
    obtain ⟨hpathBar, hmethodBar⟩ := hbar.mp fun tag htag => (h.tags tag htag).2
    exact ⟨hpathBar, hpath, hmethodBar⟩
  · rintro ⟨hpathBar, hpath, hmethodBar⟩
    have hname := not_mem_name hc hm
    constructor
    case name => exact ⟨hname ':' (by simp), hname '|' (by simp)⟩
    case value => exact ⟨m.value.not_mem_text rfl, m.value.not_mem_text rfl⟩
    case kind => exact m.value.not_mem_kind rfl
    case tagged => exact allTags_ne_nil hm
    case tags =>
      intro tag htag
      exact ⟨hcomma.mpr ⟨hpath, hmethod⟩ tag htag, hbar.mpr ⟨hpathBar, hmethodBar⟩ tag htag⟩

theorem newline_not_mem_line (hc : c.Unmarked) (hm : m ∈ recordMetrics e)
    (hpath : '\n' ∉ e.path.toList) (hmethod : '\n' ∉ e.method.name.toList) :
    '\n' ∉ (c.line m).toList := by
  rw [Client.line_eq (allTags_ne_nil hm), Reading.newline_not_mem_line_iff]
  refine ⟨not_mem_name hc hm '\n' (by simp), m.value.not_mem_text rfl, m.value.not_mem_kind rfl, ?_⟩
  exact (not_mem_allTags_iff hc hm (by simp)).mpr ⟨hpath, hmethod⟩

theorem exists_sections (hc : c.Unmarked) (hm : m ∈ recordMetrics e) :
    ∃ last more others, pieces '|' (c.line m) =
        (c.nameSpace ++ m.name ++ ":" ++ m.value.text) :: m.value.kind :: last :: more ∧
      readTags? last = some (c.tags ++ others) := by
  have hfront : '|' ∉ (c.reading m).front.toList :=
    Reading.bar_not_mem_front (not_mem_name hc hm '|' (by simp)) (m.value.not_mem_text rfl)
  have hkind : '|' ∉ m.value.kind.toList := m.value.not_mem_kind rfl
  have hown : recordTags e ≠ [] := List.cons_ne_nil _ _
  obtain ⟨last, more, others, hlast, htags⟩ := exists_readTags?_last hc hown
  refine ⟨last, more, others, ?_, htags⟩
  rw [Client.line_eq (allTags_ne_nil hm), pieces_reading_line hfront hkind, ← hlast,
    ← allTags_of_mem hm]
  rfl

end Records

/-- The lines of a request's metrics have no line break, and name, value, kind and the client's tags
stand in their places. An agent reads them as they were meant if and only if the reported path has
neither a bar nor a comma and the method no bar. -/
theorem reads_back_iff {raw : RawRequest} {r : Request} (hr : Request.parse raw = .ok r)
    {c : Client} (hc : c.Unmarked) (timestamp : Instant) (started now : Nat) (status : Status)
    (size : Nat) {m : Metric}
    (hm : m ∈ recordMetrics
      (Reporting.complete (RequestRecord.ofRequest r timestamp) started now status size)) :
    '\n' ∉ (c.line m).toList ∧
    (∃ last more others, pieces '|' (c.line m) =
        (c.nameSpace ++ m.name ++ ":" ++ m.value.text) :: m.value.kind :: last :: more ∧
      readTags? last = some (c.tags ++ others)) ∧
    (read? (c.line m) = some ⟨c.nameSpace ++ m.name, m.value.text, m.value.kind,
        c.tags ++ ["endpoint:" ++ reportedPath r, "statusCode:" ++ toString status.code,
          "method:" ++ r.method.name]⟩ ↔
      '|' ∉ (reportedPath r).toList ∧ ',' ∉ (reportedPath r).toList ∧
        '|' ∉ r.method.name.toList) := by
  have haccepted := Request.accepted_of_parse hr
  refine ⟨?_, exists_sections hc hm, ?_⟩
  · apply newline_not_mem_line hc hm
    · exact Record.not_mem_reportedPath (by decide) rfl haccepted rfl rfl
    · exact haccepted.not_mem_method (by decide) (by decide +kernel)
  · have hcomma : ',' ∉ r.method.name.toList :=
      haccepted.not_mem_method (by decide) (by decide +kernel)
    have hmeant : c.reading m = ⟨c.nameSpace ++ m.name, m.value.text, m.value.kind,
        c.tags ++ ["endpoint:" ++ reportedPath r, "statusCode:" ++ toString status.code,
          "method:" ++ r.method.name]⟩ := by
      rw [Client.reading, allTags_of_mem hm]
      rfl
    rw [← hmeant, Client.line_eq (allTags_ne_nil hm), read?_eq_some_iff,
      plain_reading_iff hc hm hcomma, eq_self, true_and]
    rfl

/-- Marks in a query do no harm, for it is not reported. -/
theorem reads_back_iff_marked_query :
    let raw : RawRequest := { target := Bytes.ofText "/a:b?q|r,s" }
    let r : Request := ⟨Method.get, .http11, ⟨none, "/a:b", some "q|r,s"⟩, [], none⟩
    let c : Client := ⟨"svc.", ["env:test"]⟩
    let e := Reporting.complete (RequestRecord.ofRequest r Instant.epoch) 0 50 Status.ok 2
    Request.parse raw = .ok r ∧ c.Unmarked ∧ requestCount e ∈ recordMetrics e ∧
      read? "svc.request.count:1|c|#env:test,endpoint:/a:b,statusCode:200,method:GET" =
        some ⟨"svc.request.count", "1", "c",
          ["env:test", "endpoint:/a:b", "statusCode:200", "method:GET"]⟩ := by
  intro raw r c e
  have hr : Request.parse raw = .ok r := by decide +kernel
  have hc : c.Unmarked := ⟨by simp [c], by simp [c]⟩
  have hm : requestCount e ∈ recordMetrics e := List.mem_cons_of_mem _ List.mem_cons_self
  have hline : c.line (requestCount e) =
      "svc.request.count:1|c|#env:test,endpoint:/a:b,statusCode:200,method:GET" := by
    decide +kernel
  obtain ⟨-, -, hread⟩ := reads_back_iff hr hc Instant.epoch 0 50 Status.ok 2 hm
  have hmeant := hread.mpr (by decide +kernel)
  rw [hline] at hmeant
  exact ⟨hr, hc, hm, hmeant.trans (by decide +kernel)⟩

/-- A bar in the path ends the tags before their time. -/
theorem not_always_reads_back :
    ¬ ∀ (raw : RawRequest) (r : Request) (c : Client) (timestamp : Instant) (started now : Nat)
      (status : Status) (size : Nat) (m : Metric), Request.parse raw = .ok r → c.Unmarked →
      m ∈ recordMetrics
        (Reporting.complete (RequestRecord.ofRequest r timestamp) started now status size) →
      read? (c.line m) = some ⟨c.nameSpace ++ m.name, m.value.text, m.value.kind,
        c.tags ++ ["endpoint:" ++ reportedPath r, "statusCode:" ++ toString status.code,
          "method:" ++ r.method.name]⟩ := by
  intro h
  let r : Request := ⟨Method.get, .http11, ⟨none, "/a|b", none⟩, [], none⟩
  let e := Reporting.complete (RequestRecord.ofRequest r Instant.epoch) 0 0 Status.ok 0
  have hr : Request.parse { target := Bytes.ofText "/a|b" } = .ok r := by decide +kernel
  have hm : requestCount e ∈ recordMetrics e := List.mem_cons_of_mem _ List.mem_cons_self
  have hread := h _ r {} Instant.epoch 0 0 Status.ok 0 _ hr ⟨by simp, by simp⟩ hm
  have hnone : read? (({} : Client).line (requestCount e)) = none := by decide +kernel
  cases hnone.symm.trans hread

end HttpTelemetry.Statsd
