import HttpTelemetry.Config.DotEnv.File

/-!
# What a settings file leaves as it is

A settings file only adds to an environment. Names that its lines assign have no equals sign in
them, so no line touches a variable that has a text already.
-/

set_option autoImplicit false

namespace HttpTelemetry.Config.DotEnv

theorem not_mem_of_readName {cs name rest : List Char} (h : readName cs = some (name, rest)) :
    '=' ∉ name := by
  unfold readName at h
  split at h
  next => cases h
  next first more =>
    split at h
    next =>
      obtain ⟨rfl, -⟩ := Prod.mk.inj (Option.some.inj h)
      intro hmem
      have hchar := List.all_eq_true.mp List.all_takeWhile '=' hmem
      cases hchar
    next => cases h

theorem not_mem_of_parse? {cs name value : List Char}
    (h : Line.parse? cs = some (.assignment name value)) : '=' ∉ name := by
  unfold Line.parse? at h
  dsimp only at h
  split at h
  next => cases h
  next =>
    obtain ⟨⟨first, rest⟩, hfirst, h⟩ := Option.bind_eq_some_iff.mp h
    dsimp only at h
    split at h
    next =>
      cases h
      exact not_mem_of_readName hfirst
    next =>
      -- Only behind the word `export` can a second name follow.
      split at h
      next =>
        obtain ⟨⟨second, rest⟩, hsecond, h⟩ := Option.bind_eq_some_iff.mp h
        obtain ⟨given, -, h⟩ := Option.bind_eq_some_iff.mp h
        cases h
        exact not_mem_of_readName hsecond
      next => cases h

namespace Loading

theorem exists_assignment_of_assigned {l : Loading} {line : Line} {name text : String}
    (h : l.assigned line = .ok (some (name, text))) :
    ∃ cs value, line = .assignment cs value ∧ name = String.ofList cs := by
  cases line with
  | nothing => cases h
  | assignment cs value =>
    refine ⟨cs, value, rfl, ?_⟩
    unfold assigned at h
    dsimp only at h
    split at h
    next => exact (congrArg Prod.fst (Option.some.inj (Except.ok.inj h))).symm
    next => cases h

/-- A line changes nothing, or it sets a variable that has no text yet. -/
theorem line_cases {l later : Loading} {cs : List Char} (h : l.line cs = .ok later) :
    later = l ∨ ∃ name text, '=' ∉ name.toList ∧
      l.environment.setIfUnset name text = some later.environment ∧
      later.given = (name, text) :: l.given := by
  unfold line at h
  split at h
  next => cases h
  next line hparse =>
    cases hassigned : l.assigned line with
    | error e =>
      rw [hassigned] at h
      cases h
    | ok assignment =>
      rw [hassigned] at h
      cases assignment with
      | none => exact .inl (Except.ok.inj h).symm
      | some pair =>
        obtain ⟨name, text⟩ := pair
        obtain ⟨n, value, rfl, rfl⟩ := exists_assignment_of_assigned hassigned
        have hname : '=' ∉ (String.ofList n).toList := by
          rw [String.toList_ofList]
          exact not_mem_of_parse? hparse
        cases henv : l.environment.setIfUnset (String.ofList n) text with
        | none =>
          simp only [bind, Except.bind, henv] at h
          cases h
        | some env =>
          simp only [bind, Except.bind, henv] at h
          obtain rfl := Except.ok.inj h
          exact .inr ⟨String.ofList n, text, hname, henv, rfl⟩

variable {name text : String}

theorem text?_of_line {l later : Loading} {cs : List Char} (hname : '=' ∉ name.toList)
    (hline : l.line cs = .ok later) (h : l.environment.text? name = some text) :
    later.environment.text? name = some text := by
  rcases line_cases hline with rfl | ⟨other, value, hother, hset, -⟩
  · exact h
  · exact Environment.text?_of_setIfUnset hother hname hset h

/-- However many lines are read, a variable that had a text before them has it still. -/
theorem text?_of_lines {l later : Loading} {rest : List (Option (List Char))}
    (hname : '=' ∉ name.toList) (hlines : l.lines rest = some later)
    (h : l.environment.text? name = some text) : later.environment.text? name = some text := by
  -- By induction on the lines; what is carried along is the text of the variable.
  fun_induction lines l rest with
  | case1 l =>
    obtain rfl := Option.some.inj hlines
    exact h
  | case2 l rest =>
    obtain rfl := Option.some.inj hlines
    exact h
  | case3 l cs rest next hline ih => exact ih hlines (text?_of_line hname hline h)
  | case4 l cs rest hline =>
    obtain rfl := Option.some.inj hlines
    exact h
  | case5 l cs rest hline => cases hlines

end Loading

theorem text?_load {env merged : Environment} {file : Option Bytes} {name text : String}
    (hname : '=' ∉ name.toList) (hload : load env file = some merged)
    (h : env.text? name = some text) : merged.text? name = some text := by
  cases file with
  | none =>
    obtain rfl := Option.some.inj hload
    exact h
  | some octets =>
    obtain ⟨loading, hlines, rfl⟩ := Option.map_eq_some_iff.mp hload
    exact Loading.text?_of_lines hname hlines h

end HttpTelemetry.Config.DotEnv
