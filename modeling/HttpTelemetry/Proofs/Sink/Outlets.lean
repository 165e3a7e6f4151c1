import HttpTelemetry.Sink.Outlets
import Mathlib.Data.List.Basic

/-!
# Configured sinks keep their failures to themselves

The sinks that settings ask for take every record, one after the other. What is logged of a record
and what becomes of it at the writer of health lines does not depend on failures of the socket, and
what is sent does not depend on failures of the writer. A metric is lost if and only if its own send
fails, and then one event says so.
-/

set_option autoImplicit false

namespace HttpTelemetry

open Config (Settings)

/-! ### Fanouts -/

section Fanouts

variable {ω : Type}

/-- A sink that never panics. -/
def Sink.Calm (s : Sink ω) : Prop := ∀ r state, (s.take r state).2 = false

/-- Hands a record to each sink in turn, whatever comes of it. -/
def Fanout.deal (sinks : Fanout ω) (r : RequestRecord) (state : ω) : ω :=
  sinks.foldl (fun state s => (s.take r state).1) state

theorem Fanout.take_cons (s : Sink ω) (rest : Fanout ω) (r : RequestRecord) (state : ω) :
    (Fanout.toSink (s :: rest)).take r state =
      if (s.take r state).2 then ((s.take r state).1, true)
      else (Fanout.toSink rest).take r (s.take r state).1 := by
  have hrun : (Fanout.toSink (s :: rest) r).run state =
      (s r >>= fun _ => Fanout.toSink rest r).run state := rfl
  unfold Sink.take
  rw [hrun, EStateM.run_bind]
  cases (s r).run state with
  | ok _ _ => rfl
  | error _ _ => rfl

/-- A panic of the last sink keeps the record from nobody. -/
theorem Fanout.take_eq_deal {sinks last : Fanout ω} (hcalm : ∀ s ∈ sinks, Sink.Calm s)
    (hlast : last.length ≤ 1) (r : RequestRecord) (state : ω) :
    ((Fanout.toSink (sinks ++ last)).take r state).1 = Fanout.deal (sinks ++ last) r state := by
  induction sinks generalizing state with
  | nil =>
    match last with
    | [] => rfl
    | [s] =>
      rw [List.nil_append, Fanout.take_cons]
      split
      next => rfl
      next => rfl
  | cons s rest ih =>
    have hs : (s.take r state).2 = false := hcalm s List.mem_cons_self r state
    rw [List.cons_append, Fanout.take_cons, hs, if_neg Bool.false_ne_true,
      ih fun t ht => hcalm t (List.mem_cons_of_mem s ht)]
    rfl

end Fanouts

/-! ### Events by their speaker -/

def Log.eventsOf (target : String) (events : List Log.Event) : List Log.Event :=
  events.filter fun e => e.target == target

section Events

open Log

variable {target : String} {events : List Event}

theorem Log.eventsOf_append (target : String) (events more : List Event) :
    eventsOf target (events ++ more) = eventsOf target events ++ eventsOf target more :=
  List.filter_append events more

theorem Log.eventsOf_of_forall_eq (h : ∀ e ∈ events, e.target = target) :
    eventsOf target events = events :=
  List.filter_eq_self.mpr fun e he => beq_iff_eq.mpr (h e he)

theorem Log.eventsOf_of_forall_ne {speaker : String} (h : ∀ e ∈ events, e.target = speaker)
    (hne : speaker ≠ target) : eventsOf target events = [] := by
  apply List.filter_eq_nil_iff.mpr
  intro e he
  rw [h e he, beq_iff_eq]
  exact hne

end Events

/-! ### Statistics -/

namespace Statsd

def target : String := "request_telemetry::statsd"

/-- Metrics on their way over a socket: each with its datagram, which fails if it is too long or if
this very send meets a failure. -/
def sends (c : Client) (failures : List (Option String)) (metrics : List Metric) :
    List (Metric × Datagram) :=
  metrics.mapIdx fun i m =>
    let payload := Bytes.ofText (c.line m)
    (m, ⟨payload, if Net.Host.largestDatagram < payload.length
      then some OsError.messageTooLong.message else (failures[i]?).join⟩)

/-- An event for each metric that is lost. -/
def losses (sent : List (Metric × Datagram)) : List Log.Event :=
  sent.filterMap fun (m, d) => d.failure.map (dropped m)

section Sending

variable {c : Client} {failures : List (Option String)}

theorem sends_append (metrics more : List Metric) :
    sends c failures (metrics ++ more) =
      sends c failures metrics ++ sends c (failures.drop metrics.length) more := by
  simp only [sends, List.mapIdx_append, List.getElem?_drop, Nat.add_comm]

theorem length_sends (metrics : List Metric) : (sends c failures metrics).length = metrics.length :=
  List.length_mapIdx

/-- Whether sends fail or not, the same is attempted. -/
theorem payloads_sends (metrics : List Metric) :
    ((sends c failures metrics).map Prod.snd).map Datagram.payload =
      metrics.map fun m => Bytes.ofText (c.line m) := by
  apply List.ext_getElem
  · simp [length_sends]
  · intro i _ _
    simp [sends]

theorem losses_append (sent more : List (Metric × Datagram)) :
    losses (sent ++ more) = losses sent ++ losses more :=
  List.filterMap_append

theorem target_of_mem_losses (sent : List (Metric × Datagram)) :
    ∀ e ∈ losses sent, e.target = target := by
  intro e he
  obtain ⟨⟨m, d⟩, -, hloss⟩ := List.mem_filterMap.mp he
  obtain ⟨message, -, rfl⟩ := Option.map_eq_some_iff.mp hloss
  rfl

theorem losses_singleton (m : Metric) (d : Datagram) :
    losses [(m, d)] = d.failure.toList.map (dropped m) := by
  cases hd : d.failure with
  | none => simp [losses, hd]
  | some message => simp [losses, hd]

theorem sends_singleton (c : Client) (o : Outlets) (m : Metric) :
    sends c o.sendFailures [m] =
      [(m, ⟨Bytes.ofText (c.line m), sendFailure o (Bytes.ofText (c.line m))⟩)] := by
  simp [sends, sendFailure, List.head?_eq_getElem?]

/-- Each metric uses up one of the failures ahead, its own. -/
theorem foldl_send (c : Client) (metrics : List Metric) (o : Outlets) :
    metrics.foldl (send c) o =
      { o with
        sendFailures := o.sendFailures.drop metrics.length
        datagrams := o.datagrams ++ (sends c o.sendFailures metrics).map Prod.snd
        events := o.events ++ losses (sends c o.sendFailures metrics) } := by
  -- The failures ahead shrink with each send, hence any outlets in the induction.
  induction metrics generalizing o with
  | nil => simp [sends, losses]
  | cons m rest ih =>
    have hsend : send c o m =
        { o with
          sendFailures := o.sendFailures.drop 1
          datagrams := o.datagrams ++ (sends c o.sendFailures [m]).map Prod.snd
          events := o.events ++ losses (sends c o.sendFailures [m]) } := by
      rw [sends_singleton, losses_singleton, List.drop_one]
      rfl
    have hsends : sends c o.sendFailures (m :: rest) =
        sends c o.sendFailures [m] ++ sends c (o.sendFailures.drop 1) rest := sends_append [m] rest
    rw [List.foldl_cons, ih, hsend, hsends, losses_append, List.map_append]
    simp only [List.append_assoc, List.drop_drop, List.length_cons, Nat.add_comm]

end Sending

end Statsd

/-! ### Health lines -/

namespace Healthd

def target : String := "request_telemetry::sinks::healthd"

/-- A writer after the lines of records, each of which is attempted, whatever became of those
before. -/
def written (w : LineWriter) (records : List RequestRecord) : LineWriter :=
  records.foldl (fun w r => (w.writeLine (line r)).2) w

/-- The events of these attempts. -/
def complaints (w : LineWriter) : List RequestRecord → List Log.Event
  | [] => []
  | r :: rest => (writeRecord w r).2.2 ++ complaints (written w [r]) rest

section Writing

variable {w : LineWriter} {r : RequestRecord}

theorem writer_writeRecord (w : LineWriter) (r : RequestRecord) :
    (writeRecord w r).2.1 = written w [r] := by
  show _ = (w.writeLine (line r)).2
  unfold writeRecord
  split
  next h => rw [h]
  next h => rw [h]
  next h => rw [h]

theorem target_of_mem_writeRecord : ∀ e ∈ (writeRecord w r).2.2, e.target = target := by
  unfold writeRecord
  split
  next => simp
  next => simp [writeFailure, target]
  next => simp

theorem target_of_mem_complaints {records : List RequestRecord} :
    ∀ e ∈ complaints w records, e.target = target := by
  induction records generalizing w with
  | nil => simp [complaints]
  | cons r rest ih =>
    intro e he
    rcases List.mem_append.mp he with he | he
    · exact target_of_mem_writeRecord e he
    · exact ih e he

theorem written_append (w : LineWriter) (records more : List RequestRecord) :
    written w (records ++ more) = written (written w records) more :=
  List.foldl_append

theorem complaints_append (w : LineWriter) (records more : List RequestRecord) :
    complaints w (records ++ more) =
      complaints w records ++ complaints (written w records) more := by
  induction records generalizing w with
  | nil => rfl
  | cons r rest ih =>
    have hwritten : written w (r :: rest) = written (written w [r]) rest :=
      written_append w [r] rest
    rw [List.cons_append, complaints, ih, complaints, List.append_assoc, hwritten]

theorem take_sink_eq (r : RequestRecord) (o : Outlets) :
    sink.take r o =
      ({ o with
        writer := written o.writer [r]
        events := o.events ++ (writeRecord o.writer r).2.2 }, (writeRecord o.writer r).1) := by
  rw [← writer_writeRecord]
  rcases hwrite : writeRecord o.writer r with ⟨panicked, writer, events⟩
  unfold Sink.take sink
  cases panicked with
  | false => simp [hwrite, EStateM.run_bind]
  | true => simp [hwrite, EStateM.run_bind]

theorem take_sink (r : RequestRecord) (o : Outlets) :
    (sink.take r o).1 =
      { o with
        writer := written o.writer [r]
        events := o.events ++ complaints o.writer [r] } := by
  have hcomplaints : complaints o.writer [r] = (writeRecord o.writer r).2.2 := List.append_nil _
  rw [hcomplaints, take_sink_eq]

end Writing

end Healthd

/-! ### Sinks of settings -/

/-- A computation that gave a result did so in both its parts. -/
theorem Log.exists_of_bind_eq {ε α β : Type} {x : ExceptT ε Logged α} {f : α → ExceptT ε Logged β}
    {b : β} {before : List Event} (h : (StateT.run (x >>= f).run before).1 = .ok b) :
    ∃ a between, StateT.run x.run before = (.ok a, between) ∧
      (StateT.run (f a).run between).1 = .ok b := by
  have hrun : StateT.run (x >>= f).run before =
      match StateT.run x.run before with
      | (.ok a, between) => StateT.run (f a).run between
      | (.error e, between) => (.error e, between) := by
    rw [ExceptT.run_bind, StateT.run_bind]
    obtain ⟨result, between⟩ := StateT.run x.run before
    cases result with
    | ok _ => rfl
    | error _ => rfl
  rw [hrun] at h
  split at h
  next a between hx => exact ⟨a, between, hx, h⟩
  next => cases h

namespace Sinks

open Log (eventsOf eventsOf_append eventsOf_of_forall_eq eventsOf_of_forall_ne exists_of_bind_eq)
open Structured (recordEvent)
open Structured.Context (standard)
open Statsd (recordMetrics losses losses_append target_of_mem_losses)

section Configured

variable {host : Net.Host} {s : Settings} {sinks : Fanout Outlets} {before later : List Log.Event}

def client (s : Settings) : Statsd.Client := ⟨s.statsdNamespace, s.statsdTags⟩

def statsdPart (s : Settings) : Fanout Outlets :=
  (s.statsdAddress.map fun _ => Statsd.sink (client s)).toList

def healthdPart (s : Settings) : Fanout Outlets :=
  (s.healthdDirectory.map fun _ => Healthd.sink).toList

/-- The sinks of settings, however they were set up. -/
def configured (s : Settings) : Fanout Outlets :=
  [Structured.sink standard] ++ statsdPart s ++ healthdPart s

theorem statsd_eq (h : StateT.run (statsd host s).run before = (.ok sinks, later)) :
    sinks = statsdPart s := by
  unfold statsd at h
  split at h
  next hnone =>
    rw [statsdPart, hnone]
    cases h
    rfl
  next address hsome =>
    rw [statsdPart, hsome]
    obtain ⟨_, _, -, h⟩ := exists_of_bind_eq (congrArg Prod.fst h)
    obtain ⟨_, _, -, h⟩ := exists_of_bind_eq h
    exact (Except.ok.inj h).symm

theorem healthd_eq (h : StateT.run (healthd host s).run before = (.ok sinks, later)) :
    sinks = healthdPart s := by
  unfold healthd at h
  split at h
  next hnone =>
    rw [healthdPart, hnone]
    cases h
    rfl
  next directory hsome =>
    rw [healthdPart, hsome]
    obtain ⟨_, _, -, h⟩ := exists_of_bind_eq (congrArg Prod.fst h)
    split at h
    next => cases h
    next => exact (Except.ok.inj h).symm

theorem ofSettings_eq (h : (Log.Logged.run (ofSettings host s).run).1 = .ok sinks) :
    sinks = configured s := by
  obtain ⟨statsd, between, hstatsd, h⟩ := exists_of_bind_eq h
  obtain ⟨healthd, later, hhealthd, h⟩ := exists_of_bind_eq h
  rw [← Except.ok.inj h, statsd_eq hstatsd, healthd_eq hhealthd]
  rfl

end Configured

section Runs

variable {s : Settings} {records more : List RequestRecord} {o o' o'' : Outlets}

/-- The sends that settings ask for: those of the metrics of each record. -/
def sends (s : Settings) (failures : List (Option String)) (records : List RequestRecord) :
    List (Statsd.Metric × Datagram) :=
  if s.statsdAddress.isSome then Statsd.sends (client s) failures (records.flatMap recordMetrics)
  else []

def written (s : Settings) (w : LineWriter) (records : List RequestRecord) : LineWriter :=
  if s.healthdDirectory.isSome then Healthd.written w records else w

def complaints (s : Settings) (w : LineWriter) (records : List RequestRecord) : List Log.Event :=
  if s.healthdDirectory.isSome then Healthd.complaints w records else []

theorem sends_append (s : Settings) (failures : List (Option String))
    (records more : List RequestRecord) :
    sends s failures (records ++ more) =
      sends s failures records ++
        sends s (failures.drop (sends s failures records).length) more := by
  unfold sends
  split
  next => rw [List.flatMap_append, Statsd.sends_append, Statsd.length_sends]
  next => rfl

theorem payloads_sends (s : Settings) (failures failures' : List (Option String))
    (records : List RequestRecord) :
    ((sends s failures' records).map Prod.snd).map Datagram.payload =
      ((sends s failures records).map Prod.snd).map Datagram.payload := by
  unfold sends
  split
  next => rw [Statsd.payloads_sends, Statsd.payloads_sends]
  next => rfl

theorem written_append (s : Settings) (w : LineWriter) (records more : List RequestRecord) :
    written s w (records ++ more) = written s (written s w records) more := by
  unfold written
  split
  next => exact Healthd.written_append w records more
  next => rfl

theorem complaints_append (s : Settings) (w : LineWriter) (records more : List RequestRecord) :
    complaints s w (records ++ more) =
      complaints s w records ++ complaints s (written s w records) more := by
  unfold complaints written
  split
  next => exact Healthd.complaints_append w records more
  next => rfl

theorem target_of_mem_complaints (s : Settings) (w : LineWriter) (records : List RequestRecord) :
    ∀ e ∈ complaints s w records, e.target = Healthd.target := by
  unfold complaints
  split
  next => exact Healthd.target_of_mem_complaints
  next => simp

/-- What the sinks of settings make of records. Nothing else is sent, written or logged. -/
structure Served (s : Settings) (records : List RequestRecord) (o o' : Outlets) : Prop where
  datagrams : o'.datagrams = o.datagrams ++ (sends s o.sendFailures records).map Prod.snd
  sendFailures : o'.sendFailures = o.sendFailures.drop (sends s o.sendFailures records).length
  writer : o'.writer = written s o.writer records
  recorder : o'.recorder = o.recorder
  structured : eventsOf Structured.target o'.events =
    eventsOf Structured.target o.events ++ records.map (recordEvent standard)
  losses : eventsOf Statsd.target o'.events =
    eventsOf Statsd.target o.events ++ Statsd.losses (sends s o.sendFailures records)
  complaints : eventsOf Healthd.target o'.events =
    eventsOf Healthd.target o.events ++ complaints s o.writer records
  events : ∃ new, o'.events = o.events ++ new ∧
    ∀ e ∈ new, e.target ∈ [Structured.target, Statsd.target, Healthd.target]

theorem deal_statsdPart (s : Settings) (r : RequestRecord) (o : Outlets) :
    (statsdPart s).deal r o =
      { o with
        sendFailures := o.sendFailures.drop (sends s o.sendFailures [r]).length
        datagrams := o.datagrams ++ (sends s o.sendFailures [r]).map Prod.snd
        events := o.events ++ losses (sends s o.sendFailures [r]) } := by
  unfold statsdPart sends
  cases s.statsdAddress with
  | none => simp [Fanout.deal, losses]
  | some address =>
    have hdeal : Fanout.deal [Statsd.sink (client s)] r o =
      (recordMetrics r).foldl (Statsd.send (client s)) o := rfl
    simp [hdeal, Statsd.foldl_send, Statsd.length_sends]

theorem deal_healthdPart (s : Settings) (r : RequestRecord) (o : Outlets) :
    (healthdPart s).deal r o =
      { o with
        writer := written s o.writer [r]
        events := o.events ++ complaints s o.writer [r] } := by
  unfold healthdPart written complaints
  cases s.healthdDirectory with
  | none => simp [Fanout.deal]
  | some directory => simp [Fanout.deal, Healthd.take_sink]

theorem served_deal (s : Settings) (r : RequestRecord) (o : Outlets) :
    Served s [r] o ((configured s).deal r o) := by
  have hdeal : (configured s).deal r o =
      (healthdPart s).deal r
        ((statsdPart s).deal r { o with events := o.events ++ [recordEvent standard r] }) := by
    simp only [configured, Fanout.deal, List.foldl_append]
    rfl
  rw [hdeal, deal_healthdPart, deal_statsdPart]
  have hlosses := target_of_mem_losses (sends s o.sendFailures [r])
  have hcomplaints := target_of_mem_complaints s o.writer [r]
  simp only [List.append_assoc]
  constructor
  case datagrams => rfl
  case sendFailures => rfl
  case writer => rfl
  case recorder => rfl
  case structured =>
    rw [eventsOf_append, eventsOf_append, eventsOf_append,
      eventsOf_of_forall_ne hlosses (by decide), eventsOf_of_forall_ne hcomplaints (by decide)]
    rfl
  case losses =>
    rw [eventsOf_append, eventsOf_append, eventsOf_append, eventsOf_of_forall_eq hlosses,
      eventsOf_of_forall_ne hcomplaints (by decide), List.append_nil]
    rfl
  case complaints =>
    rw [eventsOf_append, eventsOf_append, eventsOf_append,
      eventsOf_of_forall_ne hlosses (by decide), eventsOf_of_forall_eq hcomplaints]
    rfl
  case events =>
    refine ⟨_, rfl, ?_⟩
    intro e he
    simp only [List.mem_append, List.mem_singleton] at he
    obtain rfl | he | he := he
    · exact List.mem_cons_self
    · rw [hlosses e he]
      decide
    · rw [hcomplaints e he]
      decide

theorem Served.append (h : Served s records o o') (h' : Served s more o' o'') :
    Served s (records ++ more) o o'' := by
  constructor
  case datagrams =>
    rw [h'.datagrams, h.datagrams, h.sendFailures, sends_append, List.map_append, List.append_assoc]
  case sendFailures =>
    rw [h'.sendFailures, h.sendFailures, sends_append, List.length_append, List.drop_drop]
  case writer => rw [h'.writer, h.writer, written_append]
  case recorder => rw [h'.recorder, h.recorder]
  case structured => rw [h'.structured, h.structured, List.map_append, List.append_assoc]
  case losses =>
    rw [h'.losses, h.losses, h.sendFailures, sends_append, losses_append, List.append_assoc]
  case complaints =>
    rw [h'.complaints, h.complaints, h.writer, complaints_append, List.append_assoc]
  case events =>
    obtain ⟨new, hnew, htargets⟩ := h.events
    obtain ⟨new', hnew', htargets'⟩ := h'.events
    refine ⟨new ++ new', ?_, ?_⟩
    · rw [hnew', hnew, List.append_assoc]
    · intro e he
      rcases List.mem_append.mp he with he | he
      · exact htargets e he
      · exact htargets' e he

/-- Every sink gets the record, whatever becomes of it at the others. -/
theorem take_configured (s : Settings) (r : RequestRecord) (o : Outlets) :
    ((configured s).toSink.take r o).1 = (configured s).deal r o := by
  apply Fanout.take_eq_deal
  · intro t ht r o
    rcases List.mem_append.mp ht with ht | ht
    · rw [List.mem_singleton.mp ht]
      rfl
    · obtain ⟨_, -, rfl⟩ := Option.map_eq_some_iff.mp (Option.mem_toList.mp ht)
      rfl
  · exact Option.length_toList_le

theorem served_nil (s : Settings) (o : Outlets) : Served s [] o o := by
  have hsends : sends s o.sendFailures [] = [] := by simp [sends, Statsd.sends]
  constructor
  case datagrams => simp [hsends]
  case sendFailures => simp [hsends]
  case writer => simp [written, Healthd.written]
  case recorder => rfl
  case structured => simp
  case losses => simp [hsends, losses]
  case complaints => simp [complaints, Healthd.complaints]
  case events => exact ⟨[], (List.append_nil _).symm, by simp⟩

theorem served_takeAll (s : Settings) (records : List RequestRecord) (o : Outlets) :
    Served s records o ((configured s).toSink.takeAll records o) := by
  induction records generalizing o with
  | nil => exact served_nil s o
  | cons r rest ih =>
    have hfirst := served_deal s r o
    rw [← take_configured] at hfirst
    exact hfirst.append (ih _)

theorem takeAll_configured (s : Settings) (records : List RequestRecord) (o : Outlets) :
    (configured s).toSink.takeAll records o =
      records.foldl (fun o r => (configured s).deal r o) o := by
  simp only [Sink.takeAll, take_configured]

end Runs

/-- Failures of the socket change nothing but what becomes of the datagrams and the events that say
so, and failures of the writer change nothing but what it has taken and the events that say so. -/
theorem failures_stay_apart {host : Net.Host} {s : Settings} {sinks : Fanout Outlets}
    (h : (Log.Logged.run (ofSettings host s).run).1 = .ok sinks) :
    sinks = [Structured.sink standard] ++
      (s.statsdAddress.map fun _ => Statsd.sink ⟨s.statsdNamespace, s.statsdTags⟩).toList ++
      (s.healthdDirectory.map fun _ => Healthd.sink).toList ∧
    ∀ (records : List RequestRecord) (o : Outlets),
      let after (o : Outlets) : Outlets := sinks.toSink.takeAll records o
      after o = records.foldl (fun o r => sinks.deal r o) o ∧
      Served s records o (after o) ∧
      (∀ failures, let o' := { o with sendFailures := failures }
        (after o').writer = (after o).writer ∧
        (after o').datagrams.map Datagram.payload = (after o).datagrams.map Datagram.payload ∧
        eventsOf Structured.target (after o').events =
          eventsOf Structured.target (after o).events ∧
        eventsOf Healthd.target (after o').events = eventsOf Healthd.target (after o).events) ∧
      (∀ writer, let o' := { o with writer := writer }
        (after o').datagrams = (after o).datagrams ∧
        (after o').sendFailures = (after o).sendFailures ∧
        eventsOf Structured.target (after o').events =
          eventsOf Structured.target (after o).events ∧
        eventsOf Statsd.target (after o').events = eventsOf Statsd.target (after o).events) := by
  have hsinks : sinks = configured s := ofSettings_eq h
  subst hsinks
  refine ⟨rfl, fun records o => ?_⟩
  refine ⟨takeAll_configured s records o, served_takeAll s records o, ?_, ?_⟩
  · intro failures
    have hserved := served_takeAll s records o
    have hserved' := served_takeAll s records { o with sendFailures := failures }
    refine ⟨?_, ?_, ?_, ?_⟩
    · rw [hserved'.writer, hserved.writer]
    · rw [hserved'.datagrams, hserved.datagrams, List.map_append, List.map_append,
        payloads_sends s o.sendFailures failures records]
    · rw [hserved'.structured, hserved.structured]
    · rw [hserved'.complaints, hserved.complaints]
  · intro writer
    have hserved := served_takeAll s records o
    have hserved' := served_takeAll s records { o with writer := writer }
    refine ⟨?_, ?_, ?_, ?_⟩
    · rw [hserved'.datagrams, hserved.datagrams]
    · rw [hserved'.sendFailures, hserved.sendFailures]
    · rw [hserved'.structured, hserved.structured]
    · rw [hserved'.losses, hserved.losses]

/-- One record: the send of its timing and the write of its health line fail. -/
theorem failures_stay_apart_one_record :
    let s : Settings := { statsdAddress := some "127.0.0.1:8125", healthdDirectory := some "/h" }
    let r : RequestRecord := RequestRecord.ofRequest
      ⟨Http.Method.get, .http11, ⟨none, "/a", none⟩, [], none⟩ Calendar.Instant.epoch
    let o : Outlets :=
      { sendFailures := [some "refused"], writer := { replies := [.fails "disk full"] } }
    (Log.Logged.run (ofSettings .connected s).run).1 = .ok (configured s) ∧
      ((configured s).toSink.takeAll [r] o).datagrams.map (·.failure) = [some "refused", none] ∧
      ((configured s).toSink.takeAll [r] o).events.map (·.message) =
        ["GET /a HTTP/1.1", "Dropped statsd metric", "Failed to write healthd log line"] := by
  intro s r o
  have haddress : Net.SocketAddress.parse? "127.0.0.1:8125" =
      some ⟨.v4 #v[127, 0, 0, 1], 8125, 0⟩ := by decide +kernel
  have hconnect : Statsd.connectTo .connected "127.0.0.1:8125" = .ok () := by
    rw [Statsd.connectTo, Net.Host.resolve, haddress]
    rfl
  have hopen : (Files.openLog Net.Host.connected.files "/h" healthFile).toBool = true := by
    decide +kernel
  have h : (Log.Logged.run (ofSettings .connected s).run).1 = .ok (configured s) := by
    cases hlog : Files.openLog Net.Host.connected.files "/h" healthFile with
    | error e =>
      rw [hlog] at hopen
      cases hopen
    | ok files =>
      simp only [ofSettings, statsd, healthd, s, hconnect, hlog]
      rfl
  obtain ⟨-, hruns⟩ := failures_stay_apart h
  obtain ⟨hdeal, hserved, -⟩ := hruns [r] o
  refine ⟨h, ?_, ?_⟩
  · rw [hserved.datagrams]
    decide +kernel
  · rw [show (configured s).toSink.takeAll [r] o = _ from hdeal]
    decide +kernel

end Sinks

end HttpTelemetry
