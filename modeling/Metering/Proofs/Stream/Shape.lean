import Metering.Proofs.Meter.Names
import Metering.Proofs.Stream.Offers

/-!
The shape of what a collection answers. Attribute sets are canonical and in ascending order from
the moment a measurement is made, and lose the keys that the stream does not keep, so this holds of
every series and of every point that is made from one.
-/

namespace Metering

open Text

/-- Whether a set can be one of a stream's: it is in order and has only keys that the stream keeps,
unless it stands for the sets beyond the limit. -/
structure AttributeSet.Fits (definition : StreamDefinition) (set : AttributeSet) : Prop where
  canonical : set.Canonical
  ascending : Attribute.Ascending set.toList
  allowed : ∀ keys, definition.allowedKeys = some keys →
    (∀ entry ∈ set.toList, entry.key ∈ keys) ∨ set = .overflow

namespace Stream

theorem fits_attributeSet (stream : Stream) (attributes : List Attribute) :
    (stream.attributeSet attributes).Fits stream.definition := by
  have ascending := Attribute.ascending_canonical attributes
  constructor
  case canonical => exact stream.canonical_attributeSet attributes
  case ascending =>
    unfold attributeSet
    split
    next => exact ascending
    next => exact List.Pairwise.filter _ ascending
  case allowed =>
    intro keys kept
    left
    intro entry member
    rw [attributeSet, kept] at member
    exact List.contains_iff_mem.mp (List.mem_filter.mp member).2

theorem fits_overflow (definition : StreamDefinition) : AttributeSet.overflow.Fits definition :=
  ⟨AttributeSet.canonical_ofList _, Attribute.ascending_canonical _, fun _ _ => .inr rfl⟩

theorem fits_place (stream : Stream) (value : Quantity) (attributes : List Attribute)
    (key : AttributeSet) (placed : stream.place? value attributes = some key) :
    key.Fits stream.definition := by
  have own := stream.fits_attributeSet attributes
  unfold place? at placed
  split at placed
  next =>
    rw [← Option.some.inj placed]
    unfold Series.route
    split
    next =>
      split
      next => exact own
      next => exact fits_overflow stream.definition
    next => exact own
  next => cases placed

/-- Whether every set of a stream can be one of its sets. -/
def Shaped (stream : Stream) : Prop :=
  stream.series.accumulations.Holds fun set _ => set.Fits stream.definition

theorem shaped_create (definition : StreamDefinition) (filter : ExemplarFilter) (start : UInt64)
    (readers : List TemporalityChoice) : (create definition filter start readers).Shaped :=
  Table.holds_empty

theorem shaped_reset (stream : Stream) : stream.reset.Shaped := Table.holds_empty

section Shaped

variable {stream : Stream} (shaped : stream.Shaped)
include shaped

theorem Shaped.record (now : UInt64) (value : Quantity) (attributes : List Attribute) :
    (stream.record now value attributes).1.Shaped := by
  cases placed : stream.place? value attributes with
  | none =>
    rw [stream.record_refused now value attributes placed]
    exact shaped
  | some key =>
    have terms := stream.sameTerms_record now value attributes key placed
    constructor
    case distinct => exact stream.distinct_record now value attributes key placed shaped.distinct
    case each =>
      intro set accumulation found
      rw [terms.definition]
      have live := (stream.live_record now value attributes key placed set).symm.trans found
      split at live
      next same => exact same ▸ stream.fits_place value attributes key placed
      next => exact shaped.each set accumulation live

theorem Shaped.collect (collector : Collector) (time : UInt64) :
    (stream.collect collector time).1.Shaped := by
  cases asked : collector.temporality stream.definition.kind with
  | cumulative =>
    rw [stream.collect_cumulative collector time asked]
    exact shaped
  | delta =>
    have terms := stream.sameTerms_collect collector time
    rw [stream.collect_delta collector time asked] at terms ⊢
    cases found : stream.slots[collector.position]? with
    | none =>
      have unchanged : (stream.deltaPoints collector time).1 = stream := by
        simp [deltaPoints, found]
      rw [unchanged]
      exact shaped
    | some slot =>
      constructor
      case distinct => exact stream.distinct_deltaPoints collector time shaped.distinct
      case each =>
        intro set left present
        rw [terms.definition]
        have live := stream.live_deltaPoints collector time slot found shaped.distinct set
        obtain ⟨accumulation, before, _⟩ := Option.bind_eq_some_iff.mp (live.symm.trans present)
        exact shaped.each set accumulation before

/-- The points of a collection are made from different sets of the stream. -/
theorem Shaped.pointsFor_sets (collector : Collector) (time : UInt64) :
    ∃ sets : List AttributeSet, sets.Nodup ∧ (∀ set ∈ sets, set.Fits stream.definition) ∧
      (stream.pointsFor collector time).map (·.attributes) = sets.map (·.toList) := by
  have part : ∀ entries : List (AttributeSet × Accumulation),
      entries.Sublist stream.series.accumulations.entries → (entries.map (·.1)).Nodup ∧
        ∀ set ∈ entries.map (·.1), set.Fits stream.definition := by
    intro entries kept
    refine ⟨(kept.map _).nodup shaped.distinct, fun set member => ?_⟩
    obtain ⟨⟨_, accumulation⟩, entry, rfl⟩ := List.mem_map.mp member
    exact shaped.each _ accumulation
      ((Table.get?_eq_some_iff _ shaped.distinct _ _).mpr (kept.subset entry))
  rw [pointsFor_eq, points]
  cases collector.temporality stream.definition.kind with
  | cumulative =>
    obtain ⟨apart, fit⟩ := part _ (List.Sublist.refl _)
    exact ⟨_, apart, fit, by simp [cumulativePoints, point]⟩
  | delta =>
    cases found : stream.slots[collector.position]? with
    | none => exact ⟨[], List.nodup_nil, by simp, by simp [deltaPoints, found]⟩
    | some slot =>
      obtain ⟨apart, fit⟩ := part (stream.news slot) List.filter_sublist
      refine ⟨_, apart, fit, ?_⟩
      dsimp only
      rw [stream.points_deltaPoints collector time slot found, List.map_map, List.map_map]
      rfl

end Shaped

/-- Every point ends when its collection began. -/
theorem window_pointsFor (stream : Stream) (collector : Collector) (time : UInt64) :
    ∀ point ∈ stream.pointsFor collector time,
      point.start = stream.since collector ∧ point.time = time := by
  rw [pointsFor_eq, points, since]
  cases collector.temporality stream.definition.kind with
  | cumulative =>
    intro point member
    obtain ⟨_, _, rfl⟩ := List.mem_map.mp member
    exact ⟨rfl, rfl⟩
  | delta =>
    cases found : stream.slots[collector.position]? with
    | none => simp [deltaPoints, found]
    | some slot =>
      dsimp only
      rw [stream.points_deltaPoints collector time slot found]
      intro point member
      obtain ⟨_, _, rfl⟩ := List.mem_map.mp member
      exact ⟨rfl, rfl⟩

end Stream

end Metering
