import Metering.Proofs.Glob
import Metering.Proofs.Meter.Names

/-!
What views select. A view that was built selects just the instruments that meet all its criteria,
and its name criterion is met by the names that can be split along its pattern. A view that renames
streams has a pattern without wildcards, so all it selects has one name but for the case of letters.
-/

namespace Metering

open Text Glob

theorem ViewConfig.of_build {config : ViewConfig} {view : View} (built : config.build = .ok view) :
    config.error? = none ∧ view.instrumentName = config.instrumentName.map Glob.ofString ∧
      view.instrumentKind = config.instrumentKind ∧ view.meterName = config.meterName ∧
        view.streamName = config.streamName := by
  unfold build at built
  split at built
  next => cases built
  next faultless =>
    cases built
    exact ⟨faultless, rfl, rfl, rfl, rfl⟩

/-- A stream is renamed only by a view whose pattern is without wildcards. -/
theorem ViewConfig.plain_of_renames {config : ViewConfig} (faultless : config.error? = none)
    {stream : String} (renames : config.streamName = some stream) :
    ∃ pattern, config.instrumentName = some pattern ∧
      ∀ symbol ∈ pattern.toList, symbol ≠ '*' ∧ symbol ≠ '?' := by
  have single : config.selectsOneName = true := by
    unfold error? at faultless
    split at faultless
    next => cases faultless
    next =>
      split at faultless
      next => cases faultless
      next =>
        rw [renames] at faultless
        dsimp only at faultless
        split at faultless
        next single => exact single
        next => cases faultless
  unfold selectsOneName at single
  split at single
  next => cases single
  next pattern given =>
    refine ⟨pattern, given, fun symbol member => ?_⟩
    have wildless : hasWildcard pattern = false := by simpa using single
    simpa using List.any_eq_false.mp wildless symbol member

theorem noNewline_of_nameFault? {name : String} (proper : nameFault? name = none) :
    '\n' ∉ name.toList := by
  obtain ⟨first, rest, spelled, letter, characters, _⟩ := isName_of_nameFault? proper
  rw [spelled, List.mem_cons]
  rintro (rfl | member)
  · cases letter
  · cases characters '\n' member

namespace View

/-- Whether a name meets the name criterion of a view, if there is one. -/
def admits (view : View) (name : String) : Bool :=
  match view.instrumentName with
  | none => true
  | some pattern => pattern.accepts name

/-- Whether a view selects what its configuration says. -/
structure SelectsBy (view : View) (config : ViewConfig) : Prop where
  selects_iff : ∀ meter instrument, view.selects meter instrument = true ↔
    view.admits instrument.name = true ∧
      (∀ kind, config.instrumentKind = some kind → kind = instrument.kind) ∧
        ∀ name, config.meterName = some name → name = meter
  any : config.instrumentName = none → ∀ name, view.admits name = true
  /-- A name meets the criterion if it can be split along the pattern, but for case. -/
  splits : ∀ pattern, config.instrumentName = some pattern → ∀ name,
    view.admits name = true ↔ Splits lowerChar pattern.toList name.toList
  /-- The pattern's expression finds the same proper names. -/
  finds : ∀ pattern, config.instrumentName = some pattern → ∀ name, nameFault? name = none →
    (view.admits name = true ↔ Finds (expression pattern) (lower name).toList)
  /-- All instruments whose streams a view renames have one name, but for case. -/
  renames : ∀ stream, view.streamName = some stream → ∀ meter other left right,
    view.selects meter left = true → view.selects other right = true →
      sameIgnoringCase left.name right.name = true

/-- A view that was built selects an instrument just if the instrument's name can be split along
the pattern, where a star stands for any run of characters, a question mark for any one and every
other character for itself but for case, and its kind and meter are those asked for. -/
theorem selects_by_config {config : ViewConfig} {view : View} (built : config.build = .ok view) :
    view.SelectsBy config := by
  obtain ⟨faultless, names, kinds, meters, streams⟩ := ViewConfig.of_build built
  have selects_iff : ∀ meter instrument, view.selects meter instrument = true ↔
      view.admits instrument.name = true ∧
        (∀ kind, config.instrumentKind = some kind → kind = instrument.kind) ∧
          ∀ name, config.meterName = some name → name = meter := by
    intro meter instrument
    rw [selects, kinds, meters, Bool.and_eq_true, Bool.and_eq_true, and_assoc]
    refine and_congr Iff.rfl (and_congr ?_ ?_)
    · cases config.instrumentKind <;> simp
    · cases config.meterName <;> simp
  have splits : ∀ pattern, config.instrumentName = some pattern → ∀ name,
      view.admits name = true ↔ Splits lowerChar pattern.toList name.toList := by
    intro pattern given name
    rw [given] at names
    rw [admits, names, ← accepts_ofString_iff]
    rfl
  constructor
  case selects_iff => exact selects_iff
  case splits => exact splits
  case any =>
    intro absent name
    rw [absent] at names
    rw [admits, names]
    rfl
  case finds =>
    intro pattern given name proper
    rw [splits pattern given, ← accepts_ofString_iff,
      finds_iff pattern name (noNewline_of_nameFault? proper)]
  case renames =>
    intro stream renames meter other left right selected chosen
    obtain ⟨pattern, given, plain⟩ := ViewConfig.plain_of_renames faultless (streams ▸ renames)
    have one : ∀ meter instrument, view.selects meter instrument = true →
        lower instrument.name = lower pattern := by
      intro meter instrument selected
      have admitted := ((selects_iff meter instrument).mp selected).1
      have same := (splits_plain_iff plain).mp ((splits pattern given _).mp admitted)
      rw [lower, lower, same]
    exact decide_eq_true ((one meter left selected).trans (one other right chosen).symm)

/-- In a pattern a dot stands for itself, and a question mark also for one. -/
theorem selects_by_config_wildcards :
    let config : ViewConfig := { instrumentName := some "HTTP.*.size_?" }
    let view : View := ⟨some (.ofString "HTTP.*.size_?"), none, none, none, none, none, none, false⟩
    config.build = .ok view ∧ view.SelectsBy config ∧
      view.admits "http.server.request.Size_2" = true ∧ view.admits "http..size_." = true ∧
        view.admits "http-server.size_2" = false := by
  intro config view
  have built : config.build = .ok view := rfl
  exact ⟨built, selects_by_config built, by decide +kernel, by decide +kernel, by decide +kernel⟩

end View

end Metering
