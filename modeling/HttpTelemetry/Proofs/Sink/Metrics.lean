import HttpTelemetry.Sink.Outlets
import Mathlib.Algebra.BigOperators.Finprod

/-!
# What is counted and timed

A recorder keeps a counter and a list of samples for each name and set of labels, and adds to them
what it is told. Each request then counts once, under its path, method and status, and leaves one
sample there.
-/

set_option autoImplicit false

namespace HttpTelemetry.Metrics

open Http
open RequestRecord (seconds)

/-! ### Recorders -/

abbrev LabelSet := Finset (String × String)

/-- How much a call adds to the counter with a name and labels. -/
def Call.added (name : String) (labels : LabelSet) : Call → Nat
  | .increment name' given amount => if name' = name ∧ given.toFinset = labels then amount else 0
  | .observe _ _ _ | .describeCounter _ _ | .describeHistogram _ _ => 0

/-- The samples that a call adds to those with a name and labels. -/
def Call.sampled (name : String) (labels : LabelSet) : Call → List Float
  | .observe name' given value => if name' = name ∧ given.toFinset = labels then [value] else []
  | .increment _ _ _ | .describeCounter _ _ | .describeHistogram _ _ => []

structure Recorder (σ : Type) where
  empty : σ
  take : σ → Call → σ
  counter : σ → String → LabelSet → Nat
  samples : σ → String → LabelSet → List Float

namespace Recorder

variable {σ : Type}

/-- Calls add to what has their name and labels, in whatever order these are given, and to nothing
else. -/
structure Accumulates (R : Recorder σ) : Prop where
  counter_empty : ∀ name labels, R.counter R.empty name labels = 0
  samples_empty : ∀ name labels, R.samples R.empty name labels = []
  counter_take : ∀ s call name labels,
    R.counter (R.take s call) name labels = R.counter s name labels + call.added name labels
  samples_take : ∀ s call name labels,
    R.samples (R.take s call) name labels = R.samples s name labels ++ call.sampled name labels

def run (R : Recorder σ) (calls : List Call) : σ := calls.foldl R.take R.empty

end Recorder

/-! ### Series -/

structure Series where
  endpoint : String
  method : Method
  status : Status
  deriving DecidableEq

namespace Series

def of (r : RequestRecord) : Series := ⟨r.path, r.method, r.status⟩

def labels (s : Series) : LabelSet :=
  {("endpoint", s.endpoint), ("method", s.method.name), ("status", s.status.text)}

def among (s : Series) (records : List RequestRecord) : List RequestRecord :=
  records.filter fun r => of r = s

theorem labels_of (r : RequestRecord) : (recordLabels r).toFinset = (of r).labels := rfl

theorem statusText_inj {s t : Status} (h : s.text = t.text) : s = t := by
  have hdigits : Nat.toDigits 10 s.code = Nat.toDigits 10 t.code := by
    have hlists := congrArg String.toList h
    rwa [Status.text, Status.text, Nat.toString_eq_ofList_toDigits, Nat.toString_eq_ofList_toDigits,
      String.toList_ofList, String.toList_ofList] at hlists
  apply Status.ext
  calc s.code = Nat.ofDigitChars 10 (Nat.toDigits 10 s.code) 0 :=
        Nat.ofDigitChars_ten_toDigits.symm
    _ = t.code := by rw [hdigits, Nat.ofDigitChars_ten_toDigits]

theorem labels_inj {s t : Series} : s.labels = t.labels ↔ s = t := by
  constructor
  · intro h
    have hendpoint : ("endpoint", s.endpoint) ∈ t.labels := h ▸ by simp [labels]
    have hmethod : ("method", s.method.name) ∈ t.labels := h ▸ by simp [labels]
    have hstatus : ("status", s.status.text) ∈ t.labels := h ▸ by simp [labels]
    simp only [labels, Finset.mem_insert, Finset.mem_singleton, Prod.mk.injEq, String.reduceEq,
      true_and, false_and, or_false, false_or] at hendpoint hmethod hstatus
    cases s
    cases t
    simp only [mk.injEq]
    exact ⟨hendpoint, congrArg Method.mk hmethod, statusText_inj hstatus⟩
  · exact congrArg labels

theorem among_cons (s : Series) (r : RequestRecord) (rest : List RequestRecord) :
    s.among (r :: rest) = if of r = s then r :: s.among rest else s.among rest := by
  simp [among, List.filter_cons]

theorem finsum_length_among (records : List RequestRecord) :
    ∑ᶠ s : Series, (s.among records).length = records.length := by
  -- How many records a series has is how often it comes up among the series of all records.
  have hcount (s : Series) : (s.among records).length = (records.map of).count s := by
    rw [among, List.count_eq_countP, List.countP_map, List.countP_eq_length_filter]
    rfl
  have hsupport : (Function.support fun s => (records.map of).count s) ⊆
      ((records.map of).toFinset : Set Series) := by
    intro s hs
    rw [Finset.mem_coe, List.mem_toFinset]
    exact List.count_pos_iff.mp (Nat.pos_of_ne_zero hs)
  simp only [hcount]
  rw [finsum_eq_finsetSum_of_support_subset _ hsupport, List.sum_toFinset_count_eq_length,
    List.length_map]

end Series

/-! ### Recording -/

section Recording

variable {σ : Type} {R : Recorder σ}

/-- What a recorder tells about the requests of a series: their number, and the seconds of each. -/
def Recorder.reading (R : Recorder σ) (g : σ) (s : Series) : Nat × List Float :=
  (R.counter g "http_requests_total" s.labels, R.samples g "http_request_duration_seconds" s.labels)

section Accumulating

variable (hR : R.Accumulates)

include hR

theorem reading_append (calls : List Call) (call : Call) (s : Series) :
    R.reading (R.run (calls ++ [call])) s =
      ((R.reading (R.run calls) s).1 + call.added requestsTotal s.labels,
        (R.reading (R.run calls) s).2 ++ call.sampled requestSeconds s.labels) := by
  rw [Recorder.reading, Recorder.run, List.foldl_append]
  exact Prod.ext (hR.counter_take _ call _ _) (hR.samples_take _ call _ _)

theorem reading_descriptions (s : Series) : R.reading (R.run descriptions) s = (0, []) := by
  have hempty : R.reading (R.run []) s = (0, []) :=
    Prod.ext (hR.counter_empty _ _) (hR.samples_empty _ _)
  have hsplit : descriptions = [] ++ [descriptions[0]] ++ [descriptions[1]] := rfl
  rw [hsplit, reading_append hR, reading_append hR, hempty]
  rfl

/-- A record adds one to its own series, and a sample. -/
theorem reading_record (calls : List Call) (r : RequestRecord) (s : Series) :
    R.reading (R.run (calls ++ recordCalls r)) s =
      if Series.of r = s then
        ((R.reading (R.run calls) s).1 + 1, (R.reading (R.run calls) s).2 ++ [seconds r])
      else R.reading (R.run calls) s := by
  have hsplit : calls ++ recordCalls r = calls ++ [.increment requestsTotal (recordLabels r) 1] ++
      [.observe requestSeconds (recordLabels r) (seconds r)] := by
    rw [List.append_assoc]
    rfl
  rw [hsplit, reading_append hR, reading_append hR]
  simp only [Call.added, Call.sampled, Series.labels_of, Series.labels_inj, true_and,
    List.append_nil, Nat.add_zero]
  split
  next => rfl
  next => rw [Nat.add_zero, List.append_nil]

theorem reading_records (calls : List Call) (records : List RequestRecord) (s : Series) :
    R.reading (R.run (calls ++ records.flatMap recordCalls)) s =
      ((R.reading (R.run calls) s).1 + (s.among records).length,
        (R.reading (R.run calls) s).2 ++ (s.among records).map seconds) := by
  -- The calls of one record come before those of the next.
  induction records generalizing calls with
  | nil => simp [Series.among]
  | cons r rest ih =>
    rw [List.flatMap_cons, ← List.append_assoc, ih, reading_record hR, Series.among_cons]
    split
    next =>
      rw [List.length_cons, List.map_cons, List.append_assoc, Nat.add_assoc, Nat.add_comm 1]
      rfl
    next => rfl

end Accumulating

theorem recorder_takeAll (records : List RequestRecord) (o : Outlets) :
    (sink.takeAll records o).recorder = o.recorder ++ records.flatMap recordCalls := by
  induction records generalizing o with
  | nil => exact (List.append_nil o.recorder).symm
  | cons r rest ih =>
    have hstep : ((sink.take r o).1).recorder = o.recorder ++ recordCalls r := rfl
    have htail := ih (sink.take r o).1
    rw [hstep, List.append_assoc] at htail
    exact htail

theorem calls_of_setUp {host : Net.Host} {address : Net.SocketAddress}
    (h : (setUp host false address).outcome = .ok ()) :
    (setUp host false address).calls = descriptions := by
  unfold setUp at h ⊢
  split
  next cause hlisten =>
    rw [hlisten] at h
    cases h
  next => rfl

/-- What a recorder holds after it was set up and a sink has taken records. -/
def Recorder.after (R : Recorder σ) (host : Net.Host) (address : Net.SocketAddress)
    (records : List RequestRecord) : σ :=
  R.run (sink.takeAll records { recorder := (setUp host false address).calls }).recorder

/-- A recorder that has been set up tells for each path, method and status how many requests there
were with them, and how long each of these took. All requests are among those, and requests of
other paths, methods or statuses in between make no difference. -/
theorem counted_and_timed_by_series (hR : R.Accumulates) {host : Net.Host}
    {address : Net.SocketAddress} (hsetup : (setUp host false address).outcome = .ok ())
    (records : List RequestRecord) :
    (∀ s, R.reading (R.after host address records) s =
      ((s.among records).length, (s.among records).map seconds)) ∧
    ∑ᶠ s, (R.reading (R.after host address records) s).1 = records.length ∧
    ∀ s others, s.among others = s.among records →
      R.reading (R.after host address others) s = R.reading (R.after host address records) s := by
  have hreading (records : List RequestRecord) (s : Series) :
      R.reading (R.after host address records) s =
        ((s.among records).length, (s.among records).map seconds) := by
    rw [Recorder.after, recorder_takeAll, calls_of_setUp hsetup, reading_records hR,
      reading_descriptions hR, Nat.zero_add, List.nil_append]
  refine ⟨hreading records, ?_, ?_⟩
  · simp only [hreading]
    exact Series.finsum_length_among records
  · intro s others h
    rw [hreading, hreading, h]

end Recording

/-! ### A registry -/

structure Registry where
  counters : String × LabelSet → Nat
  samples : String × LabelSet → List Float

namespace Registry

def increment (g : Registry) (key : String × LabelSet) (amount : Nat) : Registry :=
  { g with counters := Function.update g.counters key (g.counters key + amount) }

def observe (g : Registry) (key : String × LabelSet) (value : Float) : Registry :=
  { g with samples := Function.update g.samples key (g.samples key ++ [value]) }

def recorder : Recorder Registry where
  empty := ⟨fun _ => 0, fun _ => []⟩
  take g
    | .increment name labels amount => g.increment (name, labels.toFinset) amount
    | .observe name labels value => g.observe (name, labels.toFinset) value
    | .describeCounter _ _ | .describeHistogram _ _ => g
  counter g name labels := g.counters (name, labels)
  samples g name labels := g.samples (name, labels)

theorem accumulates_recorder : recorder.Accumulates where
  counter_empty _ _ := rfl
  samples_empty _ _ := rfl
  counter_take g call name labels := by
    cases call with
    | increment name' labels' amount =>
      simp only [recorder, increment, Call.added, Function.update_apply, Prod.mk.injEq, eq_comm]
      split
      next hkey => rw [hkey.1, hkey.2]
      next => rfl
    | observe name' labels' value => rfl
    | describeCounter name' text => rfl
    | describeHistogram name' text => rfl
  samples_take g call name labels := by
    cases call with
    | observe name' labels' value =>
      simp only [recorder, observe, Call.sampled, Function.update_apply, Prod.mk.injEq, eq_comm]
      split
      next hkey => rw [hkey.1, hkey.2]
      next => rw [List.append_nil]
    | increment name' labels' amount => exact (List.append_nil _).symm
    | describeCounter name' text => exact (List.append_nil _).symm
    | describeHistogram name' text => exact (List.append_nil _).symm

end Registry

/-- Requests for one path by two methods are two series. -/
theorem counted_and_timed_by_series_posts :
    let address : Net.SocketAddress := ⟨.v4 #v[127, 0, 0, 1], 9090, 0⟩
    let request (method : Method) : Request := ⟨method, .http11, ⟨none, "/orders", none⟩, [], none⟩
    let record (method : Method) (nanos : Nat) : RequestRecord :=
      { RequestRecord.ofRequest (request method) Calendar.Instant.epoch with duration := nanos }
    let post : Method := ⟨"POST"⟩
    let records := [record post 45000000, record Method.get 1000000, record post 2000000]
    let recorded := Registry.recorder.after Net.Host.connected address records
    let posts : LabelSet := {("endpoint", "/orders"), ("method", "POST"), ("status", "200")}
    (setUp Net.Host.connected false address).outcome = .ok () ∧
      recorded.counters ("http_requests_total", posts) = 2 ∧
      recorded.samples ("http_request_duration_seconds", posts) =
        [seconds (record post 45000000), seconds (record post 2000000)] ∧
      ∑ᶠ s, (Registry.recorder.reading recorded s).1 = 3 := by
  intro address request record post records recorded posts
  have hsetup : (setUp Net.Host.connected false address).outcome = .ok () := by decide +kernel
  obtain ⟨hseries, htotal, -⟩ :=
    counted_and_timed_by_series Registry.accumulates_recorder hsetup records
  have hamong : (Series.mk "/orders" post Status.ok).among records =
      [record post 45000000, record post 2000000] := by
    decide +kernel
  have hlabels : (Series.mk "/orders" post Status.ok).labels = posts := by
    have hstatus : Status.ok.text = "200" := by decide +kernel
    rw [Series.labels, hstatus]
  have hposts := hseries ⟨"/orders", post, Status.ok⟩
  rw [hamong, Recorder.reading, hlabels, Prod.mk.injEq] at hposts
  exact ⟨hsetup, hposts.1, hposts.2, htotal⟩

end HttpTelemetry.Metrics
