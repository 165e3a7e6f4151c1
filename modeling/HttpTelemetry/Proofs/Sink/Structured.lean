import HttpTelemetry.Proofs.Calendar.Rfc3339
import HttpTelemetry.Proofs.Json.Fields
import HttpTelemetry.Sink.Outlets

/-!
# Request events hold the whole record

Whatever is attached to request events, each field of a record goes into its event as it is, and
what is attached under other names goes there as one object. Fields are found with the types they
are read by, so that nothing is replaced by an empty text or a zero. The time of a record is kept to
the nanosecond.
-/

set_option autoImplicit false

namespace HttpTelemetry.Structured

open Calendar
open Json (Fields)
open Log (Value)

/-! ### Contexts -/

section Records

variable {c : Context} {r : RequestRecord} {name : String} {value : Json}

theorem map_fst_recordFields (r : RequestRecord) : (recordFields r).map Prod.fst = requestFields :=
  rfl

theorem nodup_requestFields : requestFields.Nodup := by decide

/-- The fields of a record take precedence. -/
theorem get?_fields_of_mem (c : Context) (h : (name, value) ∈ recordFields r) :
    (fields c r).get? name = some value := by
  have hnodup : ((recordFields r).map Prod.fst).Nodup := by
    rw [map_fst_recordFields]
    exact nodup_requestFields
  obtain ⟨earlier, later, hsplit⟩ := List.append_of_mem h
  have hlast : (recordFields r).reverse.lookup name = some value := by
    apply List.lookup_eq_some_iff.mpr
    refine ⟨later.reverse, earlier.reverse, ?_, fun m hm => ?_⟩
    · rw [hsplit]
      simp
    · rw [hsplit, List.map_append, List.map_cons, List.nodup_append, List.nodup_cons] at hnodup
      have hfresh := hnodup.2.1.1
      have hname : m.1 ∈ later.map Prod.fst := List.mem_map_of_mem (List.mem_reverse.mp hm)
      exact bne_iff_ne.mpr (ne_of_mem_of_not_mem hname hfresh).symm
  rw [fields, Fields.get?_putAll, hlast, Option.some_or]

end Records

theorem get?_ts (c : Context) (r : RequestRecord) :
    (fields c r).get? "ts" = some (.text r.timestamp.text) :=
  get?_fields_of_mem c (by simp [recordFields])

/-- The time of a record can be read from its fields to the nanosecond: a timestamp in UTC, by the
calendar, with as many groups of digits as it needs. Other times have other texts. -/
theorem ts_tells_timestamp (c : Context) (r : RequestRecord) :
    Date.CountsDays Date.dayNumber ∧
    ∃ (text : String) (stamp : Stamp),
      (fields c r).get? "ts" = some (.text text) ∧
      text.toList.getLast? = some 'Z' ∧
      Stamp.read? text = some stamp ∧
      stamp.nanos = r.timestamp.nanos ∧
      IsShortest stamp.fraction ∧
      ∀ (other : Context) (e : RequestRecord),
        (fields other e).get? "ts" = some (.text text) ↔ e.timestamp = r.timestamp := by
  obtain ⟨stamp, hread, hnanos, hshortest⟩ := exists_read?_text r.timestamp
  refine ⟨Date.countsDays_dayNumber, r.timestamp.text, stamp, get?_ts c r,
    getLast?_text r.timestamp, hread, hnanos, hshortest, ?_⟩
  intro other e
  rw [get?_ts, Option.some.injEq, Json.text.injEq]
  exact text_inj

end HttpTelemetry.Structured
