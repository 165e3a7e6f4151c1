import HttpTelemetry.Demo.Run
import HttpTelemetry.Proofs.Config.Acceptance
import HttpTelemetry.Proofs.Config.DotEnv
import HttpTelemetry.Proofs.Net.Host

/-!
# Starting with an address without a port

An address for statistics that does not end with a port keeps the application from starting, on every
host. What it is refused as hangs on where that is noticed. Settings look for a colon only; an address
with a colon and something else than a port behind it comes through, is noticed when the sinks are set
up, and is then refused as a failure of input or output.
-/

set_option autoImplicit false

namespace HttpTelemetry.Demo

open Config Log
open Net (EndsWithPort)
open Text (isBlank trim)

/-- The sinks of settings, if these could be read. -/
def sinksOf (host : Net.Host) (settings : Except SettingError Settings) :
    ExceptT AppError Logged (Fanout Outlets) :=
  match settings with
  | .ok s => Sinks.ofSettings host s
  | .error e => throw e.toAppError

/-- A start that fails: there is an error in place of sinks, nothing is said of any sink, and the
demo ends with that error as the last thing in its log. -/
structure FailsWith (host : Net.Host) (settings : Except SettingError Settings) (e : AppError) :
    Prop where
  sinks : (sinksOf host settings).run.run = (.error e, [])
  ending : ∃ before title, (start host settings).run.run =
    (.error .misconfigured, before ++ [said .error (title ++ e.message)])

section Failures

variable {host : Net.Host} {s : Settings} {address : String} {e : AppError}

theorem failsWith_of_refused (host : Net.Host) (e : SettingError) :
    FailsWith host (.error e) e.toAppError where
  sinks := rfl
  ending := ⟨[starting], "Configuration error: ", rfl⟩

/-- The sinks come to nothing with the first of them that cannot be set up. -/
theorem ofSettings_of_unconnected (haddress : s.statsdAddress = some address)
    (hconnect : Statsd.connectTo host address = .error e) :
    Sinks.ofSettings host s = throw e := by
  unfold Sinks.ofSettings Sinks.statsd
  rw [haddress]
  dsimp only
  rw [hconnect]
  rfl

theorem failsWith_of_unconnected (haddress : s.statsdAddress = some address)
    (hconnect : Statsd.connectTo host address = .error e) : FailsWith host (.ok s) e := by
  have hsinks := ofSettings_of_unconnected haddress hconnect
  have hsetUp : setUpSinks host s =
      Step.fail .misconfigured ("Failed to set up log sinks: " ++ e.message) := by
    unfold setUpSinks
    rw [hsinks]
    rfl
  constructor
  case sinks =>
    unfold sinksOf
    dsimp only
    rw [hsinks]
    rfl
  case ending =>
    refine ⟨[starting, settingsLoaded s], "Failed to set up log sinks: ", ?_⟩
    unfold start loadSettings
    simp only [bind_assoc, pure_bind]
    rw [hsetUp]
    rfl

theorem connectTo_of_not_endsWithPort (host : Net.Host) (h : ¬ EndsWithPort address) :
    Statsd.connectTo host address = .error (.io
      (if ':' ∈ address.toList then "invalid port value" else "invalid socket address")) := by
  rw [Statsd.connectTo, Net.Host.resolve_of_not_endsWithPort host h]

end Failures

section Addresses

variable {env merged : Environment} {file : Option Bytes} {text : String}

theorem statsdAddress_of_text {s : Settings} (hs : Settings.ofEnvironment env = .ok s)
    (htext : env.text? "STATSD_ADDR" = some text) (hne : trim text ≠ "") :
    s.statsdAddress = some (trim text) := by
  rw [(Settings.ofEnvironment_eq_ok hs).2.1, readOptional_eq_some_iff]
  exact ⟨hne, text, htext, rfl⟩

theorem not_accepts_of_no_colon (htext : env.text? "STATSD_ADDR" = some text)
    (hne : trim text ≠ "") (hcolon : ':' ∉ text.toList) :
    ¬ Variable.statsdAddress.Accepts env := by
  intro haccepts
  rcases haccepts text htext with hblank | hmem
  · exact hne (Text.trim_eq_empty_iff.mpr hblank)
  · exact hcolon hmem

/-- An address that does not end with a port gives no client on any host, and the start fails. It
fails over the settings if one of them is refused, as they are if the address has no colon. If all of
them are accepted, it fails over input or output. -/
theorem start_fails_without_port (host : Net.Host) (hload : DotEnv.load env file = some merged)
    (htext : merged.text? "STATSD_ADDR" = some text)
    (hblank : ∃ c ∈ text.toList, isBlank c = false) (hport : ¬ EndsWithPort (trim text)) :
    (∀ given, env.text? "STATSD_ADDR" = some given → given = text) ∧
    (∃ message, Statsd.connectTo host (trim text) = .error (.io message)) ∧
    (':' ∉ text.toList → ¬ Variable.statsdAddress.Accepts merged) ∧
    ∃ e, FailsWith host (Settings.ofEnvironment merged) e ∧
      ((∃ v ∈ Variable.all, ¬ v.Accepts merged) → ∃ detail, e = .config detail) ∧
      ((∀ v ∈ Variable.all, v.Accepts merged) → e = .io "invalid port value") := by
  have hne : trim text ≠ "" := by
    intro hempty
    obtain ⟨c, hmem, hc⟩ := hblank
    rw [Text.trim_eq_empty_iff.mp hempty c hmem] at hc
    cases hc
  have hconnect := connectTo_of_not_endsWithPort host hport
  refine ⟨?_, ⟨_, hconnect⟩, not_accepts_of_no_colon htext hne, ?_⟩
  · intro given hgiven
    have hkept := DotEnv.text?_load (by decide) hload hgiven
    exact Option.some.inj (hkept.symm.trans htext)
  have haccepted := failure?_ofEnvironment_eq_none_iff merged
  cases hs : Settings.ofEnvironment merged with
  | error e =>
    refine ⟨e.toAppError, failsWith_of_refused host e, fun _ => ⟨e.message, rfl⟩, ?_⟩
    intro hall
    rw [← haccepted, hs] at hall
    cases hall
  | ok s =>
    rw [hs] at haccepted
    have hall := haccepted.mp rfl
    have hcolon : ':' ∈ (trim text).toList := by
      rw [Text.mem_trim_iff (by decide)]
      by_contra hnone
      exact not_accepts_of_no_colon htext hne hnone (hall .statsdAddress (by simp [Variable.all]))
    rw [if_pos hcolon] at hconnect
    refine ⟨_, failsWith_of_unconnected (statsdAddress_of_text hs htext hne) hconnect, ?_,
      fun _ => rfl⟩
    rintro ⟨v, hv, hrefused⟩
    exact absurd (hall v hv) hrefused

/-- A file does not mend the address, and a port above the largest one is none. -/
theorem start_fails_without_port_file :
    let env : Environment := [("STATSD_ADDR", Bytes.ofText " 127.0.0.1:70000")]
    let file : Bytes := Bytes.ofText "STATSD_ADDR=127.0.0.1:8125\nSTATSD_TAGS=a\n"
    ∃ merged, DotEnv.load env (some file) = some merged ∧
      merged.text? "STATSD_ADDR" = some " 127.0.0.1:70000" ∧
      FailsWith .connected (Settings.ofEnvironment merged) (.io "invalid port value") := by
  intro env file
  let merged : Environment := ("STATSD_TAGS", Bytes.ofText "a") :: env
  let s : Settings := { statsdAddress := some "127.0.0.1:70000", statsdTags := ["a"] }
  have hload : DotEnv.load env (some file) = some merged := by decide +kernel
  have htext : merged.text? "STATSD_ADDR" = some " 127.0.0.1:70000" := by decide +kernel
  have hs : Settings.ofEnvironment merged = .ok s := by decide +kernel
  have hall : ∀ v ∈ Variable.all, v.Accepts merged := by
    rw [← failure?_ofEnvironment_eq_none_iff, hs]
    rfl
  have hport : ¬ EndsWithPort (trim " 127.0.0.1:70000") := by decide +kernel
  obtain ⟨-, -, -, e, hfails, -, hio⟩ := start_fails_without_port .connected hload htext
    ⟨'1', by decide, by decide⟩ hport
  obtain rfl := hio hall
  exact ⟨merged, hload, htext, hfails⟩

/-- A port that is too large is not noticed as long as settings are read, and is no failure of
theirs. -/
theorem not_always_refused_as_setting :
    ¬ ∀ (host : Net.Host) (env merged : Environment) (file : Option Bytes) (text : String),
      DotEnv.load env file = some merged → merged.text? "STATSD_ADDR" = some text →
      (∃ c ∈ text.toList, isBlank c = false) → ¬ EndsWithPort (trim text) →
      ∃ detail, (sinksOf host (Settings.ofEnvironment merged)).run.run.1 =
        .error (.config detail) := by
  intro h
  let env : Environment := [("STATSD_ADDR", Bytes.ofText "127.0.0.1:70000")]
  let s : Settings := { statsdAddress := some "127.0.0.1:70000" }
  have hport : ¬ EndsWithPort "127.0.0.1:70000" := by decide +kernel
  have htrim : trim "127.0.0.1:70000" = "127.0.0.1:70000" := by decide +kernel
  have hs : Settings.ofEnvironment env = .ok s := by decide +kernel
  obtain ⟨detail, hdetail⟩ := h .connected env env none "127.0.0.1:70000" rfl (by decide +kernel)
    ⟨'1', by decide, by decide⟩ (by rwa [htrim])
  have hfails : FailsWith .connected (.ok s) (.io "invalid port value") :=
    failsWith_of_unconnected rfl (connectTo_of_not_endsWithPort .connected hport)
  rw [hs, hfails.sinks] at hdetail
  cases hdetail

end Addresses

end HttpTelemetry.Demo
