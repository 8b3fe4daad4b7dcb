import Metering.Proofs.Meter.Names
import Metering.Proofs.Meter.Twins
import Metering.Proofs.Stream.Owed

/-!
What the counters of a meter owe the only reader. Measurements are kept with the key of the stream
that has stored them, as often as an instrument lists the stream. The metrics that the reader is
given show for each key and attribute set what was owed there.
-/

namespace Metering

namespace Metric

/-- The values that metrics show for a stream and some attributes. -/
def valuesOf (key : String) (attributes : List Attribute) (metrics : List Metric) :
    List Quantity :=
  metrics.flatMap fun metric => if metric.key = key then valuesAt attributes metric.points else []

end Metric

namespace Meter

/-- The measurements that streams store if it is measured into them one after the other, with the
key of each of them. -/
def stores (now : UInt64) (value : Quantity) (attributes : List Attribute) :
    Meter → List String → List (String × Entry)
  | _, [] => []
  | meter, key :: rest =>
    ((meter.streams.get? key).bind fun stream =>
        (stream.stored? now value attributes).map (Prod.mk key)).toList ++
      stores now value attributes (meter.recordInto now value attributes key).1 rest

/-- What the streams of a scope's meter owe the only reader. -/
structure Owes (temporality : TemporalityChoice) (scope : ScopeIdentity) (meter : Meter)
    (owed : List (String × Entry)) : Prop where
  identity : meter.scope.identity = scope
  distinct : meter.streams.Distinct
  keyed : ∀ key stream, meter.streams.get? key = some stream → stream.definition.key = key
  present : ∀ key stream, meter.streams.get? key = some stream →
    stream.Owes temporality (Table.under key owed)
  absent : ∀ key, meter.streams.get? key = none → Table.under key owed = []

variable {temporality : TemporalityChoice}

theorem owes_create (scope : Scope) : (create scope).Owes temporality scope.identity [] :=
  ⟨rfl, Table.distinct_empty, nofun, nofun, fun _ _ => rfl⟩

/-- Whether a meter has counters under all of some keys. -/
def HasCounters (meter : Meter) (keys : List String) : Prop :=
  ∀ key ∈ keys, ∃ stream, meter.streams.get? key = some stream ∧ stream.definition.kind = .counter

theorem HasCounters.tail {meter : Meter} {key : String} {rest : List String}
    (counts : meter.HasCounters (key :: rest)) : meter.HasCounters rest :=
  fun other member => counts other (List.mem_cons_of_mem key member)

theorem HasCounters.follows {meter next : Meter} {keys : List String}
    (counts : meter.HasCounters keys) (follows : meter.Follows next) : next.HasCounters keys := by
  intro key member
  obtain ⟨stream, found, kind⟩ := counts key member
  obtain ⟨later, there, after⟩ := follows key stream found
  exact ⟨later, there, after.terms.definition ▸ kind⟩

theorem number_instrument (meter : Meter) (shared : Shared) (config : InstrumentConfig)
    (cells : List String) : (meter.instrument shared config cells).2.1.number = config.number := by
  simp only [instrument, resolve]
  split <;> rfl

/-- The streams of a counter are counters. -/
theorem hasCounters_instrument (meter : Meter) (shared : Shared) (config : InstrumentConfig)
    (cells : List String) (counter : config.kind = .counter) :
    (meter.instrument shared config cells).1.HasCounters
      (meter.instrument shared config cells).2.1.streams := by
  have resolved : (meter.resolve shared config).1.HasCounters
      (meter.resolve shared config).2.1.streams := by
    unfold resolve
    split
    next => exact nofun
    next =>
      intro key member
      obtain ⟨stream, found, kind⟩ := kind_joinAll shared config.name config.kind meter _
        (View.kind_of_mem_streams shared.views meter.scope.name config) key member
      exact ⟨stream, found, kind.trans counter⟩
  unfold instrument
  dsimp only
  split <;> exact resolved

/-- Counters store all words that are measured into them. -/
theorem stores_map {meter : Meter} (now : UInt64) {value : Quantity}
    (measured : value.HasType .unsigned) (attributes : List Attribute) {keys : List String}
    (counts : meter.HasCounters keys) :
    (stores now value attributes meter keys).map (fun pair => (pair.1, pair.2.value)) =
      keys.map fun key => (key, value) := by
  induction keys generalizing meter with
  | nil => rfl
  | cons key rest ih =>
    obtain ⟨stream, found, _⟩ := counts key List.mem_cons_self
    obtain ⟨set, entry⟩ := stream.stored_unsigned now measured attributes
    have later := ih (counts.tail.follows (meter.follows_recordInto now value attributes key))
    simp [stores, found, entry, later]

namespace Owes

variable {scope : ScopeIdentity} {meter : Meter} {owed : List (String × Entry)}
  (owes : meter.Owes temporality scope owed)

include owes

theorem join (shared : Shared) (readers : shared.readers = [temporality])
    (definition : StreamDefinition) :
    (meter.join shared definition).1.Owes temporality scope owed := by
  cases found : meter.streams.get? definition.key with
  | some existing =>
    rw [join_found shared meter definition existing found]
    exact owes
  | none =>
    rw [join_new shared meter definition found, readers]
    constructor
    case identity => exact owes.identity
    case distinct => exact owes.distinct.insert _ _
    case keyed =>
      intro key stream there
      rw [Table.get?_insert] at there
      split at there
      next same => exact Option.some.inj there ▸ same.symm
      next => exact owes.keyed key stream there
    case present =>
      intro key stream there
      rw [Table.get?_insert] at there
      split at there
      next same =>
        subst same
        rw [← Option.some.inj there, owes.absent definition.key found]
        exact Stream.owes_create definition shared.filter shared.start
      next => exact owes.present key stream there
    case absent =>
      intro key there
      rw [Table.get?_insert] at there
      split at there
      next => cases there
      next => exact owes.absent key there

theorem joinAll (shared : Shared) (readers : shared.readers = [temporality]) (name : String)
    (definitions : List StreamDefinition) :
    (joinAll shared name meter definitions).1.Owes temporality scope owed := by
  induction definitions generalizing meter with
  | nil => exact owes
  | cons definition rest ih =>
    rw [(joinAll_cons shared name meter definition rest).1]
    exact ih (owes.join shared readers definition)

theorem instrument (shared : Shared) (readers : shared.readers = [temporality])
    (config : InstrumentConfig) (cells : List String) :
    (meter.instrument shared config cells).1.Owes temporality scope owed := by
  have resolved : (meter.resolve shared config).1.Owes temporality scope owed := by
    unfold resolve
    split
    next => exact owes
    next => exact owes.joinAll shared readers config.name _
  unfold Meter.instrument
  dsimp only
  split
  next =>
    exact ⟨resolved.identity, resolved.distinct, resolved.keyed, resolved.present,
      resolved.absent⟩
  next => exact resolved

/-- A measurement into a counter is owed from then on. -/
theorem recordInto {key : String} {stream : Stream}
    (found : meter.streams.get? key = some stream) (kind : stream.definition.kind = .counter)
    (now : UInt64) {value : Quantity} (measured : value.HasType .unsigned)
    (attributes : List Attribute) :
    (meter.recordInto now value attributes key).1.Owes temporality scope
      (owed ++ ((stream.stored? now value attributes).map (Prod.mk key)).toList) := by
  have terms := stream.follows_record now value attributes
  have under : ∀ other, Table.under other
      (owed ++ ((stream.stored? now value attributes).map (Prod.mk key)).toList) =
        Table.under other owed ++
          if key = other then (stream.stored? now value attributes).toList else [] := by
    intro other
    rw [Table.under_append, Option.toList_map, Table.under_pair]
  have inserted : (meter.recordInto now value attributes key).1 = { meter with
      streams := meter.streams.insert key (stream.record now value attributes).1 } := by
    simp only [Meter.recordInto, found]
  rw [inserted]
  constructor
  case identity => exact owes.identity
  case distinct => exact owes.distinct.insert _ _
  case keyed =>
    intro other later there
    rw [Table.get?_insert] at there
    split at there
    next same =>
      rw [← Option.some.inj there, terms.terms.definition, same]
      exact owes.keyed key stream found
    next => exact owes.keyed other later there
  case present =>
    intro other later there
    rw [under]
    rw [Table.get?_insert] at there
    split at there
    next same =>
      subst same
      rw [if_pos rfl, ← Option.some.inj there]
      exact (owes.present other stream found).record kind now measured attributes
    next apart =>
      rw [if_neg (Ne.symm apart), List.append_nil]
      exact owes.present other later there
  case absent =>
    intro other there
    rw [under]
    rw [Table.get?_insert] at there
    split at there
    next => cases there
    next apart =>
      rw [if_neg (Ne.symm apart), List.append_nil]
      exact owes.absent other there

theorem recordAll (now : UInt64) {value : Quantity} (measured : value.HasType .unsigned)
    (attributes : List Attribute) {keys : List String} (counts : meter.HasCounters keys) :
    (keys.foldl (fun meter key => (meter.recordInto now value attributes key).1) meter).Owes
      temporality scope (owed ++ stores now value attributes meter keys) := by
  induction keys generalizing meter owed with
  | nil => exact (List.append_nil owed).symm ▸ owes
  | cons key rest ih =>
    obtain ⟨stream, found, kind⟩ := counts key List.mem_cons_self
    have later := ih (owes.recordInto found kind now measured attributes)
      (counts.tail.follows (meter.follows_recordInto now value attributes key))
    rw [List.append_assoc] at later
    simpa only [stores, found, Option.bind_some, List.foldl_cons] using later

theorem record (now : UInt64) {instrument : Instrument} (unsigned : instrument.number = .unsigned)
    (counts : meter.HasCounters instrument.streams) (reading : Reading)
    (attributes : List Attribute) :
    (meter.record now instrument reading attributes).1.Owes temporality scope
      (owed ++ stores now (instrument.number.quantity reading) attributes meter
        instrument.streams) := by
  have measured : (instrument.number.quantity reading).HasType .unsigned :=
    unsigned ▸ Quantity.hasType_reading reading
  rw [Meter.record, gather_fst]
  exact owes.recordAll now measured attributes counts

section Read

variable (since time : UInt64)

theorem read : (meter.read ⟨0, temporality, since⟩ time).1.Owes temporality scope [] := by
  have streams := meter.streams_read ⟨0, temporality, since⟩ time
  have found : ∀ key, (meter.read ⟨0, temporality, since⟩ time).1.streams.get? key =
      (meter.streams.get? key).map fun stream =>
        (stream.collect ⟨0, temporality, since⟩ time).1 := fun key => by
    rw [streams]
    exact Table.lookup_map (fun _ stream => (stream.collect ⟨0, temporality, since⟩ time).1) key
      meter.streams.entries
  constructor
  case identity => exact owes.identity
  case distinct =>
    rw [streams, Table.Distinct, Table.keys, List.map_map]
    exact owes.distinct
  case keyed =>
    intro key later there
    rw [found] at there
    obtain ⟨stream, before, rfl⟩ := Option.map_eq_some_iff.mp there
    rw [(stream.sameTerms_collect _ time).definition]
    exact owes.keyed key stream before
  case present =>
    intro key later there
    rw [found] at there
    obtain ⟨stream, before, rfl⟩ := Option.map_eq_some_iff.mp there
    exact (owes.present key stream before).collect since time
  case absent => exact fun _ _ => rfl

/-- For each stream the metrics show the points that its collection answers. -/
theorem valuesOf_read (key : String) (attributes : List Attribute) :
    (Metric.valuesOf key attributes (meter.read ⟨0, temporality, since⟩ time).2).Perm
      (((meter.streams.get? key).map fun stream =>
        valuesAt attributes (stream.pointsFor ⟨0, temporality, since⟩ time)).getD []) := by
  rw [metrics_read]
  refine ((Metric.perm_sortByName _).flatMap_right _).trans (.of_eq ?_)
  rw [List.filterMap_eq_flatMap_toList, List.flatMap_assoc, Table.get?,
    ← Table.flatMap_key key _ _ owes.distinct]
  refine List.flatMap_congr fun entry member => ?_
  have there := (Table.get?_eq_some_iff _ owes.distinct entry.1 entry.2).mpr member
  have same : Text.lower entry.2.definition.name = entry.1 := owes.keyed entry.1 entry.2 there
  rw [Stream.metric_collect]
  cases empty : entry.2.pointsFor ⟨0, temporality, since⟩ time with
  | nil => simp [valuesAt]
  | cons point rest => simp [Metric.key, same]

/-- The metrics that the reader is given show what was owed. -/
theorem collected (delta : temporality .counter = .delta) (key : String) (set : AttributeSet)
    (proper : set.Canonical) :
    Quantity.Meets
      (Metric.valuesOf key set.toList (meter.read ⟨0, temporality, since⟩ time).2)
      (valuesUnder set (Table.under key owed)) := by
  refine Quantity.Meets.perm ?_ (owes.valuesOf_read since time key set.toList)
  cases found : meter.streams.get? key with
  | none =>
    rw [owes.absent key found]
    exact .nil
  | some stream => exact (owes.present key stream found).collected since time delta set proper

end Read

end Owes

end Meter

end Metering
