import Mathlib.Data.List.Nodup
import Metering.Meter

/-!
Resolving instruments. For every name there is one standing definition, the one that the meter has
or else the first one that is asked for, and an instrument joins the streams whose definition is
the standing one. It may ask for one stream several times, and then lists it several times and
records each measurement into it as often.
-/

namespace Metering

theorem Event.gather_keeps {σ α : Type} {keeps : σ → σ → Prop} (refl : ∀ state, keeps state state)
    (trans : ∀ {first second third}, keeps first second → keeps second third → keeps first third)
    {change : σ → α → σ × List Event} (each : ∀ state item, keeps state (change state item).1)
    (state : σ) (items : List α) : keeps state (gather change state items).1 := by
  induction items generalizing state with
  | nil => exact refl state
  | cons item rest ih => exact trans (each state item) (ih (change state item).1)

namespace StreamDefinition

theorem same_iff (left right : StreamDefinition) : left.same right = true ↔
    left.key = right.key ∧ left.description = right.description ∧ left.unit = right.unit ∧
      left.kind = right.kind ∧ left.allowedKeys = right.allowedKeys ∧
      left.cardinalityLimit = right.cardinalityLimit := by
  simp [same, key, Text.sameIgnoringCase, and_assoc]

theorem same_refl (definition : StreamDefinition) : definition.same definition = true :=
  (same_iff _ _).mpr ⟨rfl, rfl, rfl, rfl, rfl, rfl⟩

theorem key_eq_of_same {left right : StreamDefinition} (same : left.same right = true) :
    left.key = right.key :=
  ((same_iff left right).mp same).1

/-- Definitions that agree with a third one agree with each other. -/
theorem same_of_same {first left right : StreamDefinition} (one : first.same left = true)
    (two : first.same right = true) : left.same right = true := by
  obtain ⟨name, description, unit, kind, keys, limit⟩ := (same_iff _ _).mp one
  obtain ⟨name', description', unit', kind', keys', limit'⟩ := (same_iff _ _).mp two
  exact (same_iff _ _).mpr ⟨name.symm.trans name', description.symm.trans description',
    unit.symm.trans unit', kind.symm.trans kind', keys.symm.trans keys',
    limit.symm.trans limit'⟩

end StreamDefinition

/-- A measurement as it is made through an instrument. -/
structure Measurement where
  now : UInt64
  reading : Reading
  attributes : List Attribute

/-- Takes measurements in the number type of an instrument, one after the other. -/
def Stream.recordAll (number : NumberType) (stream : Stream) (measurements : List Measurement) :
    Stream :=
  measurements.foldl (fun stream measurement => (stream.record measurement.now
    (number.quantity measurement.reading) measurement.attributes).1) stream

namespace Meter

/-- Makes measurements through an instrument, one after the other. -/
def recordAll (instrument : Instrument) (meter : Meter) (measurements : List Measurement) :
    Meter :=
  measurements.foldl (fun meter measurement => (meter.record measurement.now instrument
    measurement.reading measurement.attributes).1) meter

/-- The definition that a meter has for a key, or else the first of several. -/
def standing (meter : Meter) (definitions : List StreamDefinition) (key : String) :
    Option StreamDefinition :=
  ((meter.streams.get? key).map (·.definition)).or
    (definitions.find? fun definition => definition.key = key)

/-- Whether a definition agrees with the standing one of its key. -/
def admits (meter : Meter) (definitions : List StreamDefinition)
    (definition : StreamDefinition) : Bool :=
  (meter.standing definitions definition.key).any fun standing => standing.same definition

/-- The definitions of the streams that an instrument joins. -/
def joined (meter : Meter) (shared : Shared) (config : InstrumentConfig) :
    List StreamDefinition :=
  match config.fault? with
  | some _ => []
  | none =>
    let definitions := View.streams shared.views meter.scope.name config
    definitions.filter (meter.admits definitions)

section Join

variable (shared : Shared) (name : String)

theorem join_found (meter : Meter) (definition : StreamDefinition) (existing : Stream)
    (found : meter.streams.get? definition.key = some existing) :
    meter.join shared definition =
      (meter, if existing.definition.same definition then some definition.key else none) := by
  simp only [join, found]

theorem join_new (meter : Meter) (definition : StreamDefinition)
    (absent : meter.streams.get? definition.key = none) :
    meter.join shared definition =
      ({ meter with
          streams := meter.streams.insert definition.key
            (Stream.create definition shared.filter shared.start shared.readers) },
        some definition.key) := by
  simp only [join, absent]

/-- Behind a join the definition that stands for its key stands in the meter. -/
theorem standing_join (meter : Meter) (definition : StreamDefinition)
    (rest : List StreamDefinition) (key : String) :
    (meter.join shared definition).1.standing rest key =
      meter.standing (definition :: rest) key := by
  cases found : meter.streams.get? definition.key with
  | some existing =>
    rw [meter.join_found shared definition existing found]
    by_cases same : definition.key = key
    · subst same
      simp [standing, found]
    · simp [standing, same]
  | none =>
    rw [meter.join_new shared definition found]
    by_cases same : definition.key = key
    · subst same
      simp [standing, found, Table.get?_insert, Stream.create]
    · simp [standing, same, Table.get?_insert, Ne.symm same]

/-- A join answers a key if the definition agrees with the standing one. -/
theorem key_join (meter : Meter) (definition : StreamDefinition)
    (rest : List StreamDefinition) : (meter.join shared definition).2 =
      if meter.admits (definition :: rest) definition then some definition.key else none := by
  cases found : meter.streams.get? definition.key with
  | some existing =>
    rw [meter.join_found shared definition existing found]
    simp [admits, standing, found]
  | none =>
    rw [meter.join_new shared definition found]
    simp [admits, standing, found, definition.same_refl]

theorem joinAll_cons (meter : Meter) (definition : StreamDefinition)
    (rest : List StreamDefinition) :
    let joined := meter.join shared definition
    let others := joinAll shared name joined.1 rest
    (joinAll shared name meter (definition :: rest)).1 = others.1 ∧
      (joinAll shared name meter (definition :: rest)).2.1 =
        joined.2.toList ++ others.2.1 := by
  rw [joinAll]
  cases meter.join shared definition with
  | mk next key? => cases key? <;> exact ⟨rfl, rfl⟩

theorem keys_joinAll (meter : Meter) (definitions : List StreamDefinition) :
    (joinAll shared name meter definitions).2.1 =
      (definitions.filter (meter.admits definitions)).map (·.key) := by
  induction definitions generalizing meter with
  | nil => rfl
  | cons definition rest ih =>
    -- A join takes the definition that stands for its key from the list into the meter, so the rest
    -- is held to the same definitions as before.
    have later : (meter.join shared definition).1.admits rest =
        meter.admits (definition :: rest) := by
      funext other
      rw [admits, admits, standing_join]
    have keys := ih (meter.join shared definition).1
    rw [later] at keys
    rw [(joinAll_cons shared name meter definition rest).2, keys, key_join shared meter _ rest]
    cases admitted : meter.admits (definition :: rest) definition with
    | true => simp [admitted]
    | false => simp [admitted]

/-- Joining further streams leaves a stream where it is. -/
theorem get?_join (meter : Meter) (definition : StreamDefinition) (key : String)
    (stream : Stream) (found : meter.streams.get? key = some stream) :
    (meter.join shared definition).1.streams.get? key = some stream := by
  cases present : meter.streams.get? definition.key with
  | some existing =>
    rw [meter.join_found shared definition existing present]
    exact found
  | none =>
    have other : key ≠ definition.key := by
      rintro rfl
      rw [present] at found
      cases found
    rw [meter.join_new shared definition present, Table.get?_insert, if_neg other]
    exact found

theorem get?_of_join (meter : Meter) (definition : StreamDefinition) (key : String)
    (answered : (meter.join shared definition).2 = some key) :
    ∃ stream, (meter.join shared definition).1.streams.get? key = some stream := by
  cases present : meter.streams.get? definition.key with
  | some existing =>
    rw [meter.join_found shared definition existing present] at answered ⊢
    dsimp only at answered
    split at answered
    next => exact ⟨existing, Option.some.inj answered ▸ present⟩
    next => cases answered
  | none =>
    rw [meter.join_new shared definition present] at answered ⊢
    exact ⟨_, by rw [← Option.some.inj answered, Table.get?_insert, if_pos rfl]⟩

theorem get?_joinAll (meter : Meter) (definitions : List StreamDefinition) (key : String)
    (stream : Stream) (found : meter.streams.get? key = some stream) :
    (joinAll shared name meter definitions).1.streams.get? key = some stream := by
  induction definitions generalizing meter with
  | nil => exact found
  | cons definition rest ih =>
    rw [(joinAll_cons shared name meter definition rest).1]
    exact ih _ (get?_join shared meter definition key stream found)

/-- Every stream that an instrument joins is there. -/
theorem isSome_joinAll (meter : Meter) (definitions : List StreamDefinition) (key : String)
    (member : key ∈ (joinAll shared name meter definitions).2.1) :
    ((joinAll shared name meter definitions).1.streams.get? key).isSome := by
  induction definitions generalizing meter with
  | nil => cases member
  | cons definition rest ih =>
    have joined := joinAll_cons shared name meter definition rest
    rw [joined.2] at member
    rw [joined.1]
    rcases List.mem_append.mp member with here | elsewhere
    · obtain ⟨stream, found⟩ := get?_of_join shared meter definition key (by simpa using here)
      rw [get?_joinAll shared name _ rest key stream found]
      rfl
    · exact ih _ elsewhere

end Join

/-- Definitions that a meter admits under one key agree with each other. -/
theorem key_eq_iff_same (meter : Meter) (definitions : List StreamDefinition)
    (left right : StreamDefinition) (first : meter.admits definitions left = true)
    (second : meter.admits definitions right = true) :
    left.key = right.key ↔ left.same right = true := by
  constructor
  · intro equal
    obtain ⟨standing, found, one⟩ := (Option.any_eq_true _ _).mp first
    obtain ⟨other, found', two⟩ := (Option.any_eq_true _ _).mp second
    rw [← equal, found] at found'
    cases found'
    exact StreamDefinition.same_of_same one two
  · exact StreamDefinition.key_eq_of_same

section Record

theorem gather_fst {σ α : Type} (change : σ → α → σ × List Event) (state : σ) (items : List α) :
    (Event.gather change state items).1 =
      items.foldl (fun state item => (change state item).1) state := by
  induction items generalizing state with
  | nil => rfl
  | cons item rest ih => exact ih (change state item).1

theorem get?_recordInto (meter : Meter) (now : UInt64) (value : Quantity)
    (attributes : List Attribute) (key other : String) :
    (meter.recordInto now value attributes key).1.streams.get? other =
      if other = key then
        (meter.streams.get? other).map fun stream => (stream.record now value attributes).1
      else meter.streams.get? other := by
  unfold recordInto
  by_cases same : other = key
  · subst same
    cases found : meter.streams.get? other with
    | none => simp [found]
    | some stream => simp [Table.get?_insert]
  · cases meter.streams.get? key with
    | none => simp [same]
    | some stream => simp [same, Table.get?_insert]

/-- A measurement reaches a stream as often as the stream is listed. -/
theorem get?_record (meter : Meter) (instrument : Instrument) (measurement : Measurement)
    (key : String) :
    (meter.record measurement.now instrument measurement.reading
        measurement.attributes).1.streams.get? key =
      (meter.streams.get? key).map fun stream => stream.recordAll instrument.number
        (List.replicate (instrument.streams.count key) measurement) := by
  rw [record, gather_fst]
  generalize instrument.streams = keys
  induction keys generalizing meter with
  | nil => simp [Stream.recordAll]
  | cons first rest ih =>
    rw [List.foldl_cons, ih, get?_recordInto, List.count_cons]
    by_cases same : key = first
    · subst same
      cases meter.streams.get? key with
      | none => simp
      | some stream => simp [Stream.recordAll, List.replicate_succ]
    · simp [same, Ne.symm same]

theorem get?_recordAll (meter : Meter) (instrument : Instrument)
    (measurements : List Measurement) (key : String) :
    (meter.recordAll instrument measurements).streams.get? key =
      (meter.streams.get? key).map fun stream => stream.recordAll instrument.number
        (measurements.flatMap (List.replicate (instrument.streams.count key))) := by
  induction measurements generalizing meter with
  | nil => simp [recordAll, Stream.recordAll]
  | cons measurement rest ih =>
    have later := ih (meter.record measurement.now instrument measurement.reading
      measurement.attributes).1
    rw [recordAll, List.foldl_cons]
    refine later.trans ?_
    rw [get?_record, Option.map_map]
    congr 1
    funext stream
    simp only [Function.comp_apply, Stream.recordAll, List.flatMap_cons, List.foldl_append]

end Record

theorem streams_resolve (meter : Meter) (shared : Shared) (config : InstrumentConfig) :
    (meter.resolve shared config).2.1.streams = (meter.joined shared config).map (·.key) := by
  unfold resolve joined
  cases config.fault? with
  | some fault => rfl
  | none =>
    exact keys_joinAll shared config.name meter (View.streams shared.views meter.scope.name config)

theorem isSome_resolve (meter : Meter) (shared : Shared) (config : InstrumentConfig)
    (key : String) (member : key ∈ (meter.resolve shared config).2.1.streams) :
    ((meter.resolve shared config).1.streams.get? key).isSome := by
  unfold resolve at member ⊢
  cases fault : config.fault? with
  | some fault =>
    simp only [fault] at member
    cases member
  | none =>
    simp only [fault] at member ⊢
    exact isSome_joinAll shared config.name meter _ key member

theorem admits_of_mem_joined (meter : Meter) (shared : Shared) (config : InstrumentConfig)
    (definition : StreamDefinition) (member : definition ∈ meter.joined shared config) :
    meter.admits (View.streams shared.views meter.scope.name config) definition = true := by
  unfold joined at member
  split at member
  next => cases member
  next => exact (List.mem_filter.mp member).2

/-- An instrument lists each of its streams once exactly if no two of the definitions that it
joins describe the same stream. Each of its streams is there, and at any later time takes every
measurement as often as the instrument lists the stream. -/
theorem resolved_once_iff (meter : Meter) (shared : Shared) (config : InstrumentConfig) :
    let resolved := (meter.resolve shared config).1
    let instrument := (meter.resolve shared config).2.1
    (instrument.streams.Nodup ↔
      (meter.joined shared config).Pairwise fun left right => left.same right = false) ∧
    ∀ key ∈ instrument.streams, (resolved.streams.get? key).isSome ∧
      ∀ (later : Meter) (measurements : List Measurement),
        (later.recordAll instrument measurements).streams.get? key =
          (later.streams.get? key).map fun stream => stream.recordAll instrument.number
            (measurements.flatMap (List.replicate (instrument.streams.count key))) := by
  intro resolved instrument
  refine ⟨?_, fun key member => ⟨meter.isSome_resolve shared config key member,
    fun later measurements => get?_recordAll later _ measurements key⟩⟩
  rw [meter.streams_resolve shared config, List.Nodup, List.pairwise_map]
  apply List.Pairwise.iff_of_mem
  intro left right first second
  rw [ne_eq, key_eq_iff_same meter _ left right (meter.admits_of_mem_joined shared config _ first)
    (meter.admits_of_mem_joined shared config _ second), Bool.not_eq_true]

/-- Two views give a counter the same stream, and an increment of 5 makes its sum 10. -/
theorem resolved_twice :
    let view : View := ⟨none, some .counter, none, none, none, none, none, false⟩
    let shared : Shared :=
      { resource := .empty, views := [view, view], filter := .alwaysOff, start := 1
        readers := [fun _ => .delta] }
    let resolution := (create ⟨"test", none, none, []⟩).resolve shared
      ⟨.counter, .unsigned, "requests", none, none⟩
    let recorded := resolution.1.recordAll resolution.2.1 [⟨2, .integer 5, []⟩]
    resolution.2.1.streams = ["requests", "requests"] ∧ ¬resolution.2.1.streams.Nodup ∧
      (recorded.streams.get? "requests").bind (fun stream =>
        (stream.series.accumulations.get? (.ofList [])).map (·.value)) = some (.unsigned 10) := by
  have listed : ¬["requests", "requests"].Nodup := by decide
  exact ⟨rfl, listed, rfl⟩

end Meter

end Metering
