import HttpTelemetry.Json.Basic
import Mathlib.Data.String.Basic

/-!
# Fields of JSON objects

Fields that are set one after the other stand in the order of their names, and each has the value
that was set last.
-/

set_option autoImplicit false

namespace HttpTelemetry.Json.Fields

/-- Names ascend, so that none occurs twice. -/
def Ordered (fields : Fields) : Prop := fields.Pairwise fun m m' => m.1 < m'.1

section Order

variable {fields : Fields} {name : String} {value : Json}

theorem Ordered.nil : Ordered [] := List.Pairwise.nil

theorem mem_put {m : String × Json} (h : m ∈ fields.put name value) :
    m = (name, value) ∨ m ∈ fields := by
  induction fields with
  | nil => exact .inl (List.mem_singleton.mp h)
  | cons head rest ih =>
    obtain ⟨n, v⟩ := head
    rw [put] at h
    split at h
    next => exact List.mem_cons.mp h
    next =>
      split at h
      next => exact (List.mem_cons.mp h).imp_right (List.mem_cons_of_mem _)
      next =>
        rcases List.mem_cons.mp h with rfl | hrest
        · exact .inr List.mem_cons_self
        · exact (ih hrest).imp_right (List.mem_cons_of_mem _)

theorem Ordered.put (h : Ordered fields) (name : String) (value : Json) :
    Ordered (fields.put name value) := by
  induction fields with
  | nil => exact List.pairwise_singleton _ _
  | cons head rest ih =>
    obtain ⟨n, v⟩ := head
    obtain ⟨hhead, hrest⟩ := List.pairwise_cons.mp h
    rw [Fields.put]
    split
    next hlt =>
      refine List.pairwise_cons.mpr ⟨fun m hm => ?_, h⟩
      rcases List.mem_cons.mp hm with rfl | hm
      · exact hlt
      · exact hlt.trans (hhead m hm)
    next hlt =>
      split
      next heq => exact List.pairwise_cons.mpr ⟨fun m hm => heq ▸ hhead m hm, hrest⟩
      next hne =>
        refine List.pairwise_cons.mpr ⟨fun m hm => ?_, ih hrest⟩
        rcases mem_put hm with rfl | hm
        · exact lt_of_le_of_ne (not_lt.mp hlt) (Ne.symm hne)
        · exact hhead m hm

theorem Ordered.putAll (h : Ordered fields) (news : List (String × Json)) :
    Ordered (fields.putAll news) := by
  induction news generalizing fields with
  | nil => exact h
  | cons m rest ih => exact ih (h.put m.1 m.2)

end Order

/-- Under each name the last of some new values is found, or else the old one. -/
theorem get?_putAll (fields : Fields) (news : List (String × Json)) (name : String) :
    (fields.putAll news).get? name = (news.reverse.lookup name).or (fields.get? name) := by
  induction news generalizing fields with
  | nil => rfl
  | cons m rest ih =>
    obtain ⟨n, v⟩ := m
    have hput : fields.putAll ((n, v) :: rest) = (fields.put n v).putAll rest := rfl
    rw [hput, ih, get?_put, List.reverse_cons, List.lookup_append, Option.or_assoc,
      List.lookup_cons, List.lookup_nil]
    by_cases h : name = n
    · simp [h]
    · simp [h, beq_false_of_ne h]

end HttpTelemetry.Json.Fields
