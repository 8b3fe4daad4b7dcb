import Metering.Proofs.Meter.Resolution
import Metering.Proofs.Stream.Twins

/-!
Twin meters: one meter in two runs, of which the second leaves out the collections of all readers
but one. Their streams mirror each other, so instruments resolve to the same streams in both, and
the reader is given the same metrics.
-/

namespace Metering

namespace Metric

/-- Sorting by name does not look at points. -/
theorem forall₂_insertByName {left right : Metric} (same : left.Same right)
    {first second : List Metric} (pairs : List.Forall₂ Same first second) :
    List.Forall₂ Same (left.insertByName first) (right.insertByName second) := by
  induction pairs with
  | nil => exact .cons same .nil
  | cons here rest ih =>
    unfold insertByName
    rw [same.name, here.name]
    split
    next => exact .cons same (.cons here rest)
    next => exact .cons here ih

theorem forall₂_sortByName {first second : List Metric} (pairs : List.Forall₂ Same first second) :
    List.Forall₂ Same (sortByName first) (sortByName second) := by
  have sorted : ∀ {one other : List Metric}, List.Forall₂ Same one other →
      List.Forall₂ Same (first.foldl (fun sorted metric => metric.insertByName sorted) one)
        (second.foldl (fun sorted metric => metric.insertByName sorted) other) := by
    induction pairs with
    | nil => exact id
    | cons here _ ih => exact fun before => ih (forall₂_insertByName here before)
  exact sorted .nil

end Metric

namespace View

theorem kind_of_mem_streams (views : List View) (meter : String) (config : InstrumentConfig)
    (definition : StreamDefinition) (member : definition ∈ streams views meter config) :
    definition.kind = config.kind := by
  unfold streams at member
  dsimp only at member
  split at member
  next => exact congrArg _ (List.mem_singleton.mp member)
  next =>
    obtain ⟨view, _, made⟩ := List.mem_filterMap.mp member
    unfold stream? at made
    split at made
    next => cases made
    next => exact congrArg _ (Option.some.inj made).symm

end View

namespace Meter

/-- What a meter can be behind a change: all its streams are still there. -/
def Follows (meter next : Meter) : Prop :=
  Table.Extends Stream.Follows meter.streams next.streams

section Follows

variable (meter : Meter)

theorem Follows.refl : meter.Follows meter := Table.Extends.refl Stream.Follows.refl meter.streams

variable {meter} in
theorem Follows.trans {middle next : Meter} (begins : meter.Follows middle)
    (ends : middle.Follows next) : meter.Follows next :=
  Table.Extends.trans begins ends Stream.Follows.trans

theorem follows_joinAll (shared : Shared) (name : String) (definitions : List StreamDefinition) :
    meter.Follows (joinAll shared name meter definitions).1 := by
  intro key stream found
  exact ⟨stream, get?_joinAll shared name meter definitions key stream found, .refl stream⟩

theorem follows_resolve (shared : Shared) (config : InstrumentConfig) :
    meter.Follows (meter.resolve shared config).1 := by
  unfold resolve
  split
  next => exact .refl meter
  next => exact meter.follows_joinAll shared config.name _

theorem follows_instrument (shared : Shared) (config : InstrumentConfig) (cells : List String) :
    meter.Follows (meter.instrument shared config cells).1 := by
  have resolved := meter.follows_resolve shared config
  unfold instrument
  dsimp only
  split <;> exact resolved

theorem follows_recordInto (now : UInt64) (value : Quantity) (attributes : List Attribute)
    (key : String) : meter.Follows (meter.recordInto now value attributes key).1 := by
  unfold recordInto
  split
  next => exact .refl meter
  next stream found =>
    apply Table.extends_insert Stream.Follows.refl
    intro previous there
    rw [found] at there
    cases there
    exact stream.follows_record now value attributes

theorem follows_record (now : UInt64) (instrument : Instrument) (reading : Reading)
    (attributes : List Attribute) :
    meter.Follows (meter.record now instrument reading attributes).1 :=
  Event.gather_keeps Follows.refl Follows.trans
    (fun meter key => meter.follows_recordInto now _ attributes key) meter instrument.streams

theorem streams_read (collector : Collector) (time : UInt64) :
    (meter.read collector time).1.streams = ⟨meter.streams.entries.map fun entry =>
      (entry.1, (entry.2.collect collector time).1)⟩ := by
  simp only [read, List.map_map]
  rfl

theorem metrics_read (collector : Collector) (time : UInt64) :
    (meter.read collector time).2 = Metric.sortByName (meter.streams.entries.filterMap
      fun entry => (entry.2.collect collector time).2) := by
  simp only [read, List.filterMap_map]
  rfl

theorem follows_read (collector : Collector) (time : UInt64) :
    meter.Follows (meter.read collector time).1 := by
  rw [Follows, streams_read]
  exact Table.extends_map (fun stream : Stream => (stream.collect collector time).1)
    (fun stream => stream.follows_collect collector time) meter.streams

end Follows

/-- Whether an instrument is one for integers, and measures the increments of its sums in their
type. Its streams are there. -/
def Suits (meter : Meter) (instrument : Instrument) : Prop :=
  instrument.number.isInteger = true ∧ ∀ key ∈ instrument.streams, ∃ stream,
    meter.streams.get? key = some stream ∧ (stream.definition.kind.isSum = true →
      instrument.number = stream.definition.kind.increments)

theorem Suits.follows {meter next : Meter} {instrument : Instrument}
    (suits : meter.Suits instrument) (follows : meter.Follows next) : next.Suits instrument := by
  refine ⟨suits.1, fun key member => ?_⟩
  obtain ⟨stream, found, number⟩ := suits.2 key member
  obtain ⟨later, there, after⟩ := follows key stream found
  exact ⟨later, there, after.terms.definition ▸ number⟩

/-- The streams that are joined are of the kind that was asked for. -/
theorem kind_joinAll (shared : Shared) (name : String) (kind : InstrumentKind) (meter : Meter)
    (definitions : List StreamDefinition)
    (asked : ∀ definition ∈ definitions, definition.kind = kind) (key : String)
    (member : key ∈ (joinAll shared name meter definitions).2.1) :
    ∃ stream, (joinAll shared name meter definitions).1.streams.get? key = some stream ∧
      stream.definition.kind = kind := by
  induction definitions generalizing meter with
  | nil => cases member
  | cons definition rest ih =>
    have joined := joinAll_cons shared name meter definition rest
    have wanted := asked definition List.mem_cons_self
    rw [joined.2] at member
    rw [joined.1]
    rcases List.mem_append.mp member with here | elsewhere
    · have answered : (meter.join shared definition).2 = some key := by simpa using here
      obtain ⟨stream, found, same⟩ : ∃ stream,
          (meter.join shared definition).1.streams.get? key = some stream ∧
            stream.definition.kind = kind := by
        cases present : meter.streams.get? definition.key with
        | some existing =>
          rw [join_found shared meter definition existing present] at answered ⊢
          dsimp only at answered
          split at answered
          next agrees =>
            refine ⟨existing, Option.some.inj answered ▸ present, ?_⟩
            exact ((StreamDefinition.same_iff _ _).mp agrees).2.2.2.1.trans wanted
          next => cases answered
        | none =>
          rw [join_new shared meter definition present] at answered ⊢
          refine ⟨Stream.create definition shared.filter shared.start shared.readers, ?_,
            wanted⟩
          rw [← Option.some.inj answered, Table.get?_insert, if_pos rfl]
      exact ⟨stream, get?_joinAll shared name _ rest key stream found, same⟩
    · exact ih _ (fun other there => asked other (List.mem_cons_of_mem _ there)) elsewhere

theorem suits_instrument (meter : Meter) (shared : Shared) (config : InstrumentConfig)
    (cells : List String) (integer : config.number.isInteger = true)
    (number : config.kind.isSum = true → config.number = config.kind.increments) :
    (meter.instrument shared config cells).1.Suits (meter.instrument shared config cells).2.1 := by
  have resolved : (meter.resolve shared config).1.Suits (meter.resolve shared config).2.1 := by
    unfold resolve
    split
    next => exact ⟨integer, nofun⟩
    next =>
      refine ⟨integer, fun key member => ?_⟩
      obtain ⟨stream, found, kind⟩ := kind_joinAll shared config.name config.kind meter _
        (View.kind_of_mem_streams shared.views meter.scope.name config) key member
      exact ⟨stream, found, kind ▸ number⟩
  unfold instrument
  dsimp only
  split <;> exact resolved

/-- Whether two meters are one meter in two runs. Nothing is observed in either. -/
structure Mirrors (readers : List TemporalityChoice) (position : Nat) (full alone : Meter) :
    Prop where
  scope : full.scope = alone.scope
  busy : full.observers = []
  calm : alone.observers = []
  streams : Table.Alike (Stream.Mirrors readers position) full.streams alone.streams
  distinct : alone.streams.Distinct

section Mirrors

variable {position : Nat} {full alone : Meter}

theorem mirrors_create (readers : List TemporalityChoice) (position : Nat) (scope : Scope) :
    Mirrors readers position (create scope) (create scope) :=
  ⟨rfl, rfl, rfl, Table.alike_empty, Table.distinct_empty⟩

section Join

variable {shared : Shared}

theorem Mirrors.join (mirrors : Mirrors shared.readers position full alone)
    (definition : StreamDefinition) (synchronous : definition.kind.isObservable = false) :
    Mirrors shared.readers position (full.join shared definition).1
        (alone.join shared definition).1 ∧
      (full.join shared definition).2 = (alone.join shared definition).2 := by
  have found := mirrors.streams.get? definition.key
  cases left : full.streams.get? definition.key with
  | none =>
    rw [left] at found
    cases right : alone.streams.get? definition.key with
    | none =>
      rw [join_new shared full definition left, join_new shared alone definition right]
      exact ⟨⟨mirrors.scope, mirrors.busy, mirrors.calm,
        mirrors.streams.insert _ (Stream.mirrors_create definition shared.filter shared.start
          shared.readers position synchronous), mirrors.distinct.insert _ _⟩, rfl⟩
    | some stream =>
      rw [right] at found
      cases found
  | some stream =>
    rw [left] at found
    cases right : alone.streams.get? definition.key with
    | none =>
      rw [right] at found
      cases found
    | some other =>
      rw [right] at found
      cases found with
      | some same =>
        rw [join_found shared full definition stream left,
          join_found shared alone definition other right, same.terms.definition]
        exact ⟨mirrors, rfl⟩

theorem Mirrors.joinAll (mirrors : Mirrors shared.readers position full alone) (name : String)
    (definitions : List StreamDefinition)
    (synchronous : ∀ definition ∈ definitions, definition.kind.isObservable = false) :
    Mirrors shared.readers position (Meter.joinAll shared name full definitions).1
        (Meter.joinAll shared name alone definitions).1 ∧
      (Meter.joinAll shared name full definitions).2.1 =
        (Meter.joinAll shared name alone definitions).2.1 := by
  induction definitions generalizing full alone with
  | nil => exact ⟨mirrors, rfl⟩
  | cons definition rest ih =>
    obtain ⟨here, keys⟩ := mirrors.join definition (synchronous _ List.mem_cons_self)
    obtain ⟨there, others⟩ := ih here fun other member =>
      synchronous other (List.mem_cons_of_mem _ member)
    have left := joinAll_cons shared name full definition rest
    have right := joinAll_cons shared name alone definition rest
    rw [left.1, right.1, left.2, right.2, keys, others]
    exact ⟨there, rfl⟩

theorem Mirrors.instrument (mirrors : Mirrors shared.readers position full alone)
    (config : InstrumentConfig) (cells : List String)
    (synchronous : config.kind.isObservable = false) :
    Mirrors shared.readers position (full.instrument shared config cells).1
        (alone.instrument shared config cells).1 ∧
      (full.instrument shared config cells).2.1 = (alone.instrument shared config cells).2.1 := by
  have resolved : Mirrors shared.readers position (full.resolve shared config).1
        (alone.resolve shared config).1 ∧
      (full.resolve shared config).2.1 = (alone.resolve shared config).2.1 := by
    unfold resolve
    rw [mirrors.scope]
    split
    next => exact ⟨mirrors, rfl⟩
    next =>
      obtain ⟨joined, keys⟩ := mirrors.joinAll config.name
        (View.streams shared.views alone.scope.name config) fun definition member => by
          rw [View.kind_of_mem_streams _ _ config definition member]
          exact synchronous
      exact ⟨joined, congrArg (Instrument.mk config.number) keys⟩
  unfold Meter.instrument
  simp only [synchronous, Bool.false_and]
  exact resolved

end Join

variable {readers : List TemporalityChoice}

theorem Mirrors.recordInto (mirrors : Mirrors readers position full alone) (now : UInt64)
    (value : Quantity) (attributes : List Attribute) (key : String)
    (fits : ∀ stream, alone.streams.get? key = some stream → stream.Fits value) :
    Mirrors readers position (full.recordInto now value attributes key).1
      (alone.recordInto now value attributes key).1 := by
  have found := mirrors.streams.get? key
  unfold Meter.recordInto
  cases left : full.streams.get? key with
  | none =>
    rw [left] at found
    cases right : alone.streams.get? key with
    | none => exact mirrors
    | some stream =>
      rw [right] at found
      cases found
  | some stream =>
    rw [left] at found
    cases right : alone.streams.get? key with
    | none =>
      rw [right] at found
      cases found
    | some other =>
      rw [right] at found
      cases found with
      | some same =>
        exact ⟨mirrors.scope, mirrors.busy, mirrors.calm,
          mirrors.streams.insert _ (same.record now value (fits other right) attributes),
          mirrors.distinct.insert _ _⟩

theorem Mirrors.record (mirrors : Mirrors readers position full alone) (now : UInt64)
    (instrument : Instrument) (suits : alone.Suits instrument) (value : Int)
    (attributes : List Attribute) :
    Mirrors readers position (full.record now instrument (.integer value) attributes).1
      (alone.record now instrument (.integer value) attributes).1 := by
  obtain ⟨integer, streams⟩ := suits
  unfold Meter.record
  generalize instrument.streams = keys at streams
  induction keys generalizing full alone with
  | nil => exact mirrors
  | cons key rest ih =>
    have here := mirrors.recordInto now (instrument.number.quantity (.integer value)) attributes
      key fun stream found sums => by
        obtain ⟨_, there, number⟩ := streams key List.mem_cons_self
        rw [found] at there
        cases there
        exact number sums ▸ Quantity.hasType_quantity integer value
    refine ih here fun other member => ?_
    obtain ⟨stream, found, number⟩ := streams other (List.mem_cons_of_mem _ member)
    obtain ⟨later, there, after⟩ := alone.follows_recordInto now
      (instrument.number.quantity (.integer value)) attributes key other stream found
    exact ⟨later, there, after.terms.definition ▸ number⟩

theorem Mirrors.read_other (mirrors : Mirrors readers position full alone)
    (collector : Collector) (time : UInt64) (bounded : collector.position < readers.length)
    (reader : position < readers.length) (other : position ≠ collector.position) :
    Mirrors readers position (full.read collector time).1 alone := by
  refine ⟨mirrors.scope, mirrors.busy, mirrors.calm, ?_, mirrors.distinct⟩
  rw [streams_read]
  have changed := mirrors.streams.map (fun stream => (stream.collect collector time).1) id
    fun one two same => same.collect_other collector time bounded reader other
  simpa using changed

/-- The reader is given the same metrics in both runs, unless a stream of the second one has run
out of room. -/
theorem Mirrors.read_own (mirrors : Mirrors readers position full alone)
    (collector : Collector) (own : collector.position = position)
    (reader : readers[position]? = some collector.temporality) (time : UInt64) :
    Mirrors readers position (full.read collector time).1 (alone.read collector time).1 ∧
      ((∀ key stream, (alone.read collector time).1.streams.get? key = some stream →
          stream.overflows = false) →
        List.Forall₂ Metric.Same (full.read collector time).2 (alone.read collector time).2) := by
  have each := mirrors.streams.mono fun one two same =>
    same.collect_own collector own reader time
  have keys : (alone.read collector time).1.streams.keys = alone.streams.keys := by
    rw [streams_read, Table.keys, List.map_map]
    rfl
  have distinct : (alone.read collector time).1.streams.Distinct := by
    rw [Table.Distinct, keys]
    exact mirrors.distinct
  refine ⟨⟨mirrors.scope, mirrors.busy, mirrors.calm, ?_, distinct⟩, fun room => ?_⟩
  · rw [streams_read, streams_read]
    have changed := each.map (fun stream => (stream.collect collector time).1)
      (fun stream => (stream.collect collector time).1)
      (fun _ _ collected => collected.1)
    exact changed
  · have spare : ∀ entry ∈ alone.streams.entries,
        (entry.2.collect collector time).1.overflows = false := by
      intro entry member
      apply room entry.1
      rw [Table.get?_eq_some_iff _ distinct, streams_read]
      exact List.mem_map.mpr ⟨entry, member, rfl⟩
    have pairs := (List.forall₂_and_left _ _).mpr ⟨spare, List.Forall₂.flip each⟩
    rw [metrics_read, metrics_read]
    apply Metric.forall₂_sortByName
    refine List.rel_filterMap ?_ (List.Forall₂.flip pairs)
    exact fun _ _ here => here.2.2.2 here.1

end Mirrors

end Meter

end Metering
