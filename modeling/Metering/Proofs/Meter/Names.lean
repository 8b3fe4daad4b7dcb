import Mathlib.Data.List.Nodup
import Metering.Meter

/-!
Names. The metrics of a meter stand in the order of their names' bytes. A stream has the name of
its instrument, which is checked when the instrument is made, or one that a view gives, which is
checked when the view is built, so it keeps to the rules for names in any case.
-/

namespace Metering

open Text

namespace Metric

theorem perm_insertByName (metric : Metric) (metrics : List Metric) :
    (metric.insertByName metrics).Perm (metric :: metrics) := by
  induction metrics with
  | nil => exact .refl _
  | cons other rest ih =>
    unfold insertByName
    split
    next => exact .refl _
    next => exact (ih.cons other).trans (.swap metric other rest)

theorem perm_sortByName (metrics : List Metric) : (sortByName metrics).Perm metrics := by
  have sorted : ∀ before : List Metric,
      (metrics.foldl (fun sorted metric => metric.insertByName sorted) before).Perm
        (before ++ metrics) := by
    induction metrics with
    | nil => exact fun before => (List.append_nil before).symm ▸ .refl _
    | cons metric rest ih =>
      intro before
      refine (ih _).trans (((metric.perm_insertByName before).append_right rest).trans ?_)
      exact List.perm_middle.symm
  exact sorted []

/-- The key of the stream that a metric shows. -/
def key (metric : Metric) : String := Text.lower metric.name

theorem pairwise_insertByName (metric : Metric) (metrics : List Metric)
    (sorted : metrics.Pairwise fun left right => before right.name left.name = false) :
    (metric.insertByName metrics).Pairwise fun left right =>
      before right.name left.name = false := by
  induction metrics with
  | nil => exact List.pairwise_singleton _ metric
  | cons other rest ih =>
    rw [List.pairwise_cons] at sorted
    unfold insertByName
    split
    next ascends =>
      refine List.pairwise_cons.mpr ⟨fun later member => ?_, List.pairwise_cons.mpr sorted⟩
      rw [← Bool.not_eq_true]
      intro descends
      rcases List.mem_cons.mp member with rfl | member
      · have circle := before_trans ascends descends
        rw [before_irrefl] at circle
        cases circle
      · have circle := before_trans descends ascends
        rw [sorted.1 later member] at circle
        cases circle
    next stays =>
      refine List.pairwise_cons.mpr ⟨fun later member => ?_, ih sorted.2⟩
      rcases List.mem_cons.mp ((metric.perm_insertByName rest).subset member) with rfl | member
      · exact Bool.eq_false_iff.mpr stays
      · exact sorted.1 later member

theorem pairwise_sortByName (metrics : List Metric) :
    (sortByName metrics).Pairwise fun left right => before right.name left.name = false := by
  have sorted : ∀ done : List Metric,
      (done.Pairwise fun left right => before right.name left.name = false) →
        (metrics.foldl (fun sorted metric => metric.insertByName sorted) done).Pairwise
          fun left right => before right.name left.name = false := by
    induction metrics with
    | nil => exact fun _ => id
    | cons metric rest ih =>
      exact fun done before => ih _ (metric.pairwise_insertByName done before)
  exact sorted [] .nil

/-- Metrics of different streams are put in strictly ascending order, and their names differ in
more than the case of letters. -/
theorem ascending_sortByName (metrics : List Metric) (apart : (metrics.map key).Nodup) :
    (sortByName metrics).Pairwise fun left right => before left.name right.name = true ∧
      sameIgnoringCase left.name right.name = false := by
  have distinct : (sortByName metrics).Pairwise fun left right => left.key ≠ right.key :=
    List.pairwise_map.mp (((perm_sortByName metrics).map key).nodup_iff.mpr apart)
  refine ((pairwise_sortByName metrics).and distinct).imp fun {left right} ⟨sorted, differ⟩ => ?_
  refine ⟨?_, decide_eq_false differ⟩
  rcases before_or left.name right.name with ascends | same | descends
  · exact ascends
  · exact absurd (congrArg lower same) differ
  · rw [sorted] at descends
    cases descends

end Metric

/-- Whether a text is a name for instruments and streams. -/
def IsName (name : String) : Prop :=
  ∃ first rest, name.toList = first :: rest ∧ isAsciiLetter first = true ∧
    (∀ c ∈ rest, isNameChar c = true) ∧ byteLength name ≤ 255

def IsUnit (unit : String) : Prop :=
  (∀ c ∈ unit.toList, isAscii c = true) ∧ byteLength unit ≤ 63

theorem isName_of_nameFault? {name : String} (proper : nameFault? name = none) : IsName name := by
  unfold nameFault? at proper
  split at proper
  next => cases proper
  next first rest spelled =>
    by_cases long : 255 < byteLength name
    · rw [if_pos long] at proper
      cases proper
    · rw [if_neg long] at proper
      cases letter : isAsciiLetter first with
      | false => simp [letter] at proper
      | true =>
        cases characters : (first :: rest).all isNameChar with
        | false => simp [letter, characters] at proper
        | true =>
          rw [List.all_eq_true] at characters
          exact ⟨first, rest, spelled, letter,
            fun c member => characters c (List.mem_cons_of_mem first member), Nat.not_lt.mp long⟩

theorem isUnit_of_unitFault? {unit : String} (proper : unitFault? unit = none) : IsUnit unit := by
  unfold unitFault? at proper
  by_cases long : 63 < byteLength unit
  · rw [if_pos long] at proper
    cases proper
  · rw [if_neg long] at proper
    cases ascii : unit.toList.all isAscii with
    | false => simp [ascii] at proper
    | true => exact ⟨List.all_eq_true.mp ascii, Nat.not_lt.mp long⟩

/-- Whether a definition keeps to the rules for names and units. -/
structure StreamDefinition.Proper (definition : StreamDefinition) : Prop where
  name : IsName definition.name
  unit : IsUnit definition.unit

namespace View

/-- A view that was built renames streams to proper names only. -/
theorem isName_of_build {view : View} (built : ∃ config : ViewConfig, config.build = .ok view)
    {name : String} (renames : view.streamName = some name) : IsName name := by
  obtain ⟨config, made⟩ := built
  unfold ViewConfig.build at made
  split at made
  next => cases made
  next faultless =>
    cases made
    change config.streamName = some name at renames
    unfold ViewConfig.error? at faultless
    split at faultless
    next => cases faultless
    next =>
      split at faultless
      next => cases faultless
      next =>
        rw [renames] at faultless
        dsimp only at faultless
        split at faultless
        next => exact isName_of_nameFault? (Option.map_eq_none_iff.mp faultless)
        next => cases faultless

/-- The streams of an instrument that is not refused have proper names and units. -/
theorem proper_of_mem_streams (views : List View)
    (built : ∀ view ∈ views, ∃ config : ViewConfig, config.build = .ok view) (meter : String)
    (config : InstrumentConfig) (accepted : config.fault? = none)
    (definition : StreamDefinition) (member : definition ∈ streams views meter config) :
    definition.Proper := by
  have name : IsName config.name := by
    apply isName_of_nameFault?
    unfold InstrumentConfig.fault? at accepted
    split at accepted
    next => cases accepted
    next proper => exact proper
  have unit : IsUnit (config.unit.getD "") := by
    cases given : config.unit with
    | none => exact ⟨nofun, by decide⟩
    | some unit =>
      apply isUnit_of_unitFault?
      unfold InstrumentConfig.fault? at accepted
      split at accepted
      next => cases accepted
      next =>
        rw [given] at accepted
        exact accepted
  unfold streams at member
  dsimp only at member
  split at member
  next =>
    cases List.mem_singleton.mp member
    exact ⟨name, unit⟩
  next =>
    obtain ⟨view, selecting, made⟩ := List.mem_filterMap.mp member
    unfold stream? at made
    split at made
    next => cases made
    next =>
      cases made
      refine ⟨?_, unit⟩
      cases renames : view.streamName with
      | none => exact name
      | some renamed =>
        exact isName_of_build (built view (List.mem_filter.mp selecting).1) renames

end View

end Metering
