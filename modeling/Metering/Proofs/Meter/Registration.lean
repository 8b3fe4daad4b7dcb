import Metering.Proofs.Meter.Spelling
import Metering.Proofs.Meter.Twins

/-!
Registration. The first definition of a stream stands: the stream is never removed, replaced or
defined anew, whatever is created, recorded, collected or reset afterwards. An instrument that is
created again, in whatever spelling, therefore gets the streams that it got the first time, and a
definition that disagrees with the standing one of its name gives the instrument nothing to record
into, while its other definitions do.
-/

namespace Metering

namespace StreamDefinition

/-- Definitions of one stream agree with the same definitions. -/
theorem same_congr {first second left right : StreamDefinition}
    (one : first.same second = true) (two : left.same right = true) :
    first.same left = second.same right := by
  obtain ⟨name, description, unit, kind, keys, limit⟩ := (same_iff _ _).mp one
  obtain ⟨name', description', unit', kind', keys', limit'⟩ := (same_iff _ _).mp two
  rw [Bool.eq_iff_iff, same_iff, same_iff, name, description, unit, kind, keys, limit, name',
    description', unit', kind', keys', limit']

/-- Lists of the same streams define the same stream first under a key. -/
theorem rel_find? {left right : List StreamDefinition}
    (pairs : List.Forall₂ (fun one other => one.same other = true) left right) (key : String) :
    Option.Rel (fun one other => one.same other = true)
      (left.find? fun definition => definition.key = key)
      (right.find? fun definition => definition.key = key) := by
  induction pairs with
  | nil => exact .none
  | @cons one other _ _ here _ ih =>
    rw [List.find?_cons, List.find?_cons, key_eq_of_same here]
    split
    next => exact .some here
    next => exact ih

theorem keys_eq_of_same {left right : List StreamDefinition}
    (pairs : List.Forall₂ (fun one other => one.same other = true) left right) :
    left.map (·.key) = right.map (·.key) := by
  induction pairs with
  | nil => rfl
  | cons here _ ih => rw [List.map_cons, List.map_cons, key_eq_of_same here, ih]

end StreamDefinition

/-- Whether one stream is another one after some measurements, collections and resets. -/
inductive Stream.Becomes (stream : Stream) : Stream → Prop where
  | same : stream.Becomes stream
  | recorded {next : Stream} (before : stream.Becomes next) (now : UInt64) (value : Quantity)
      (attributes : List Attribute) : stream.Becomes (next.record now value attributes).1
  | collected {next : Stream} (before : stream.Becomes next) (collector : Collector)
      (time : UInt64) : stream.Becomes (next.collect collector time).1
  | reset {next : Stream} (before : stream.Becomes next) : stream.Becomes next.reset

theorem Stream.Becomes.definition_eq {stream next : Stream} (becomes : stream.Becomes next) :
    next.definition = stream.definition := by
  induction becomes with
  | same => rfl
  | recorded _ now value attributes ih =>
    exact (follows_record _ now value attributes).terms.definition.trans ih
  | collected _ collector time ih => exact (sameTerms_collect _ collector time).definition.trans ih
  | reset _ ih => exact ih

theorem Stream.Becomes.trans {first second third : Stream} (begins : first.Becomes second)
    (ends : second.Becomes third) : first.Becomes third := by
  induction ends with
  | same => exact begins
  | recorded _ now value attributes ih => exact ih.recorded now value attributes
  | collected _ collector time ih => exact ih.collected collector time
  | reset _ ih => exact ih.reset

theorem Stream.becomes_recordAll (number : NumberType) (stream : Stream)
    (measurements : List Measurement) :
    stream.Becomes (stream.recordAll number measurements) := by
  have later : ∀ next, stream.Becomes next →
      stream.Becomes (next.recordAll number measurements) := by
    induction measurements with
    | nil => exact fun _ before => before
    | cons measurement rest ih => exact fun _ before => ih _ (before.recorded _ _ _)
  exact later stream .same

/-- The stream that a meter makes of a definition. -/
def Shared.create (shared : Shared) (definition : StreamDefinition) : Stream :=
  .create definition shared.filter shared.start shared.readers

namespace Meter

/-- What can happen to a meter. -/
inductive Deed where
  | create (config : InstrumentConfig) (cells : List String)
  | record (instrument : Instrument) (measurement : Measurement)
  | read (collector : Collector) (time : UInt64)
  | reset

def step (shared : Shared) (meter : Meter) : Deed → Meter
  | .create config cells => (meter.instrument shared config cells).1
  | .record instrument measurement =>
    (meter.record measurement.now instrument measurement.reading measurement.attributes).1
  | .read collector time => (meter.read collector time).1
  | .reset => meter.reset

def run (shared : Shared) (meter : Meter) (deeds : List Deed) : Meter :=
  deeds.foldl (step shared) meter

/-- The streams that an instrument asks for; one that breaks a rule asks for none. -/
def asked (meter : Meter) (shared : Shared) (config : InstrumentConfig) :
    List StreamDefinition :=
  match config.fault? with
  | some _ => []
  | none => View.streams shared.views meter.scope.name config

/-- Whether a meter has the stream that a definition describes. -/
def agrees (meter : Meter) (definition : StreamDefinition) : Bool :=
  (meter.streams.get? definition.key).any fun stream => stream.definition.same definition

/-- Whether no key stands in a meter twice and every stream stands under its own key. -/
def Registered (meter : Meter) : Prop :=
  meter.streams.Holds fun key stream => stream.definition.key = key

/-- Whether every stream of a meter is still there, under its key and with its definition. -/
def Keeps (meter next : Meter) : Prop :=
  meter.streams.Extends (fun stream later => stream.Becomes later ∧
    later.definition = stream.definition) next.streams

section JoinAll

variable (shared : Shared) (name : String)

theorem get?_joinAll_eq (meter : Meter) (definitions : List StreamDefinition) (key : String) :
    (joinAll shared name meter definitions).1.streams.get? key = (meter.streams.get? key).or
      ((definitions.find? fun definition => definition.key = key).map shared.create) := by
  induction definitions generalizing meter with
  | nil => simp [joinAll]
  | cons definition rest ih =>
    rw [(joinAll_cons shared name meter definition rest).1, ih]
    cases found : meter.streams.get? definition.key with
    | some existing =>
      rw [join_found shared meter definition existing found]
      by_cases same : definition.key = key
      · subst same
        simp [found]
      · simp [same]
    | none =>
      rw [join_new shared meter definition found]
      by_cases same : definition.key = key
      · subst same
        simp [found, Table.get?_insert, Shared.create]
      · simp [same, Table.get?_insert, Ne.symm same]

/-- Joining streams that are all there changes nothing. -/
theorem joinAll_present (meter : Meter) (definitions : List StreamDefinition)
    (present : ∀ definition ∈ definitions, (meter.streams.get? definition.key).isSome) :
    (joinAll shared name meter definitions).1 = meter := by
  induction definitions with
  | nil => rfl
  | cons definition rest ih =>
    obtain ⟨existing, found⟩ := Option.isSome_iff_exists.mp (present _ List.mem_cons_self)
    rw [(joinAll_cons shared name meter definition rest).1,
      join_found shared meter definition existing found]
    exact ih fun other member => present other (List.mem_cons_of_mem _ member)

/-- An instrument joins the streams that agree with what stands when all are joined. -/
theorem keys_joinAll_agreeing (meter : Meter) (definitions : List StreamDefinition) :
    (joinAll shared name meter definitions).2.1 =
      (definitions.filter (joinAll shared name meter definitions).1.agrees).map (·.key) := by
  have admitted : (joinAll shared name meter definitions).1.agrees =
      meter.admits definitions := by
    funext definition
    rw [agrees, admits, standing, get?_joinAll_eq]
    cases meter.streams.get? definition.key with
    | some existing => simp
    | none =>
      cases definitions.find? fun other => other.key = definition.key with
      | some first => simp [Shared.create, Stream.create]
      | none => rfl
  rw [keys_joinAll, admitted]

theorem scope_joinAll (meter : Meter) (definitions : List StreamDefinition) :
    (joinAll shared name meter definitions).1.scope = meter.scope := by
  induction definitions generalizing meter with
  | nil => rfl
  | cons definition rest ih =>
    rw [(joinAll_cons shared name meter definition rest).1, ih]
    unfold join
    split <;> rfl

theorem Registered.joinAll {meter : Meter} (registered : meter.Registered)
    (definitions : List StreamDefinition) :
    (Meter.joinAll shared name meter definitions).1.Registered := by
  induction definitions generalizing meter with
  | nil => exact registered
  | cons definition rest ih =>
    rw [(joinAll_cons shared name meter definition rest).1]
    apply ih
    unfold join
    split
    next => exact registered
    next => exact registered.insert _ _ rfl

end JoinAll

section Resolve

variable (meter : Meter) (shared : Shared) (config : InstrumentConfig)

theorem resolve_eq :
    (meter.resolve shared config).1 =
        (joinAll shared config.name meter (meter.asked shared config)).1 ∧
      (meter.resolve shared config).2.1.streams =
        (joinAll shared config.name meter (meter.asked shared config)).2.1 := by
  unfold resolve asked
  cases config.fault? with
  | some fault => exact ⟨rfl, rfl⟩
  | none => exact ⟨rfl, rfl⟩

theorem number_resolve : (meter.resolve shared config).2.1.number = config.number := by
  unfold resolve
  split <;> rfl

theorem instrument_streams (cells : List String) :
    (meter.instrument shared config cells).1.streams =
        (meter.resolve shared config).1.streams ∧
      (meter.instrument shared config cells).1.scope = (meter.resolve shared config).1.scope := by
  unfold instrument
  dsimp only
  split <;> exact ⟨rfl, rfl⟩

end Resolve

section Step

variable (shared : Shared) (meter : Meter) (deed : Deed)

theorem scope_record (now : UInt64) (instrument : Instrument) (reading : Reading)
    (attributes : List Attribute) :
    (meter.record now instrument reading attributes).1.scope = meter.scope := by
  refine @Event.gather_keeps Meter String (fun meter next => next.scope = meter.scope)
    (fun _ => rfl) (fun one two => two.trans one) _ (fun meter key => ?_) meter instrument.streams
  unfold recordInto
  split <;> rfl

theorem scope_step : (meter.step shared deed).scope = meter.scope := by
  cases deed with
  | create config cells =>
    rw [step, (instrument_streams meter shared config cells).2, (resolve_eq meter shared config).1,
      scope_joinAll]
  | record instrument measurement => exact scope_record meter _ instrument _ _
  | read collector time => rfl
  | reset => rfl

theorem Registered.step {meter : Meter} (registered : meter.Registered) :
    (meter.step shared deed).Registered := by
  cases deed with
  | create config cells =>
    rw [Meter.step, Registered, (instrument_streams meter shared config cells).1,
      (resolve_eq meter shared config).1]
    exact registered.joinAll shared config.name _
  | record instrument measurement =>
    refine @Event.gather_keeps Meter String (fun meter next => meter.Registered → next.Registered)
      (fun _ => id) (fun one two => two ∘ one) _ (fun meter key registered => ?_) meter
      instrument.streams registered
    unfold recordInto
    split
    next => exact registered
    next stream found =>
      refine registered.insert key _ ?_
      rw [(stream.follows_record _ _ _).terms.definition]
      exact registered.each key stream found
  | read collector time =>
    rw [Meter.step, Registered, streams_read]
    refine registered.map (fun stream => (stream.collect collector time).1) fun key stream own => ?_
    rw [(stream.sameTerms_collect collector time).definition]
    exact own
  | reset => exact registered.map Stream.reset fun _ _ own => own

/-- Whatever happens, a stream stays where it is. -/
theorem becomes_step (key : String) (stream : Stream)
    (found : meter.streams.get? key = some stream) :
    ∃ later, (meter.step shared deed).streams.get? key = some later ∧ stream.Becomes later := by
  cases deed with
  | create config cells =>
    rw [step, (instrument_streams meter shared config cells).1, (resolve_eq meter shared config).1]
    exact ⟨stream, get?_joinAll shared config.name meter _ key stream found, .same⟩
  | record instrument measurement =>
    rw [step, get?_record, found]
    exact ⟨_, rfl, stream.becomes_recordAll instrument.number _⟩
  | read collector time =>
    have changed := Table.lookup_map (fun _ (stream : Stream) => (stream.collect collector time).1)
      key meter.streams.entries
    rw [step, streams_read]
    refine ⟨_, changed.trans ?_, .collected .same collector time⟩
    rw [← Table.get?, found, Option.map_some]
  | reset =>
    have changed := Table.lookup_map (fun _ => Stream.reset) key meter.streams.entries
    refine ⟨_, changed.trans ?_, .reset .same⟩
    rw [← Table.get?, found, Option.map_some]

end Step

section Run

variable (shared : Shared) (meter : Meter) (deeds : List Deed)

theorem scope_run : (meter.run shared deeds).scope = meter.scope := by
  induction deeds generalizing meter with
  | nil => rfl
  | cons deed rest ih => exact (ih _).trans (meter.scope_step shared deed)

theorem Registered.run {meter : Meter} (registered : meter.Registered) :
    (meter.run shared deeds).Registered := by
  induction deeds generalizing meter with
  | nil => exact registered
  | cons deed rest ih => exact ih (registered.step shared deed)

theorem keeps_run : meter.Keeps (meter.run shared deeds) := by
  have kept : meter.streams.Extends Stream.Becomes (meter.run shared deeds).streams := by
    induction deeds generalizing meter with
    | nil => exact Table.Extends.refl (fun _ => .same) meter.streams
    | cons deed rest ih =>
      exact Table.Extends.trans (meter.becomes_step shared deed) (ih _) .trans
  intro key stream found
  obtain ⟨later, there, becomes⟩ := kept key stream found
  exact ⟨later, there, becomes, becomes.definition_eq⟩

end Run

section Agreement

variable {meter next : Meter}

theorem agrees_iff (registered : meter.Registered) (definition : StreamDefinition) :
    meter.agrees definition = true ↔ ∃ stream,
      meter.streams.get? definition.key = some stream ∧
        stream.definition.description = definition.description ∧
        stream.definition.unit = definition.unit ∧ stream.definition.kind = definition.kind ∧
        stream.definition.allowedKeys = definition.allowedKeys ∧
        stream.definition.cardinalityLimit = definition.cardinalityLimit := by
  rw [agrees, Option.any_eq_true]
  constructor
  · rintro ⟨stream, found, same⟩
    exact ⟨stream, found, ((StreamDefinition.same_iff _ _).mp same).2⟩
  · rintro ⟨stream, found, terms⟩
    have own := registered.each definition.key stream found
    exact ⟨stream, found, (StreamDefinition.same_iff _ _).mpr ⟨own, terms⟩⟩

/-- Meters with the same definitions under the keys in question agree with the same streams. -/
theorem agreeing_congr {left right : List StreamDefinition}
    (pairs : List.Forall₂ (fun one other => one.same other = true) left right)
    (found : ∀ key ∈ left.map (·.key), Option.Rel
      (fun one other => one.definition.same other.definition = true)
      (meter.streams.get? key) (next.streams.get? key)) :
    (left.filter meter.agrees).map (·.key) = (right.filter next.agrees).map (·.key) := by
  induction pairs with
  | nil => rfl
  | @cons one other first second here _ ih =>
    rw [List.map_cons, List.forall_mem_cons] at found
    have key := StreamDefinition.key_eq_of_same here
    have agreed : meter.agrees one = next.agrees other := by
      have standing := found.1
      rw [agrees, agrees, ← key]
      generalize meter.streams.get? one.key = held,
        next.streams.get? one.key = after at standing ⊢
      cases standing with
      | none => rw [Option.any_none, Option.any_none]
      | some same =>
        rw [Option.any_some, Option.any_some]
        exact StreamDefinition.same_congr same here
    rw [List.filter_cons, List.filter_cons, agreed]
    split
    next => rw [List.map_cons, List.map_cons, key, ih found.2]
    next => exact ih found.2

end Agreement

section Resolved

variable (meter : Meter) (shared : Shared)

theorem asked_same {left right : InstrumentConfig} (alike : left.Alike right) :
    List.Forall₂ (fun one other => one.same other = true) (meter.asked shared left)
      (meter.asked shared right) := by
  unfold asked
  rw [alike.fault?]
  cases right.fault? with
  | some fault => exact .nil
  | none => exact View.same_streams alike shared.views meter.scope.name

theorem get?_resolve (config : InstrumentConfig) (key : String) :
    (meter.resolve shared config).1.streams.get? key = (meter.streams.get? key).or
      (((meter.asked shared config).find? fun definition => definition.key = key).map
        shared.create) := by
  rw [(resolve_eq meter shared config).1, get?_joinAll_eq]

theorem scope_resolve (config : InstrumentConfig) :
    (meter.resolve shared config).1.scope = meter.scope := by
  rw [(resolve_eq meter shared config).1, scope_joinAll]

theorem streams_resolve_agreeing (config : InstrumentConfig) :
    (meter.resolve shared config).2.1.streams =
      ((meter.asked shared config).filter (meter.resolve shared config).1.agrees).map (·.key) := by
  rw [(resolve_eq meter shared config).1, (resolve_eq meter shared config).2,
    keys_joinAll_agreeing]

/-- Every stream that an instrument asks for is there, be it by another definition. -/
theorem isSome_asked (config : InstrumentConfig) (key : String)
    (member : key ∈ (meter.asked shared config).map (·.key)) :
    ((meter.resolve shared config).1.streams.get? key).isSome := by
  obtain ⟨definition, there, rfl⟩ := List.mem_map.mp member
  have first : ((meter.asked shared config).find? fun other =>
      other.key = definition.key).isSome :=
    List.find?_isSome.mpr ⟨definition, there, by simp⟩
  rw [get?_resolve, Option.isSome_or, Option.isSome_map, first, Bool.or_true]

/-- Instruments that are alike get the same streams. -/
theorem streams_resolve_alike {config other : InstrumentConfig} (alike : other.Alike config) :
    (meter.resolve shared other).2.1.streams = (meter.resolve shared config).2.1.streams := by
  have pairs := meter.asked_same shared alike
  rw [streams_resolve_agreeing, streams_resolve_agreeing]
  refine agreeing_congr pairs fun key _ => ?_
  have first := StreamDefinition.rel_find? pairs key
  rw [get?_resolve, get?_resolve]
  cases meter.streams.get? key with
  | some stream => exact .some stream.definition.same_refl
  | none =>
    rw [Option.none_or, Option.none_or]
    generalize List.find? _ (meter.asked shared other) = one,
      List.find? _ (meter.asked shared config) = two at first ⊢
    cases first with
    | none => exact .none
    | some same => exact .some same

/-- Once an instrument is created, one that is alike makes no streams and gets the same ones, by
whatever time the first one's streams are all there still. -/
theorem resolve_again {config other : InstrumentConfig} (alike : other.Alike config)
    {later : Meter} (scope : later.scope = meter.scope)
    (keeps : (meter.resolve shared config).1.Keeps later) :
    (later.resolve shared other).1 = later ∧
      (later.resolve shared other).2.1.streams =
        (meter.resolve shared config).2.1.streams := by
  have pairs : List.Forall₂ (fun one other => one.same other = true)
      (meter.asked shared config) (later.asked shared other) := by
    have moved : later.asked shared other = meter.asked shared other := by
      rw [asked, scope, asked]
    rw [moved]
    exact meter.asked_same shared alike.symm
  have standing : ∀ key ∈ (meter.asked shared config).map (·.key), Option.Rel
      (fun one other => one.definition.same other.definition = true)
      ((meter.resolve shared config).1.streams.get? key) (later.streams.get? key) := by
    intro key member
    obtain ⟨stream, found⟩ :=
      Option.isSome_iff_exists.mp (meter.isSome_asked shared config key member)
    obtain ⟨after, there, _, same⟩ := keeps key stream found
    rw [found, there]
    refine .some ?_
    rw [same]
    exact stream.definition.same_refl
  have unchanged : (later.resolve shared other).1 = later := by
    rw [(resolve_eq later shared other).1]
    refine joinAll_present shared other.name later _ fun definition member => ?_
    have asked : definition.key ∈ (meter.asked shared config).map (·.key) := by
      rw [StreamDefinition.keys_eq_of_same pairs]
      exact List.mem_map.mpr ⟨definition, member, rfl⟩
    obtain ⟨stream, found⟩ :=
      Option.isSome_iff_exists.mp (meter.isSome_asked shared config _ asked)
    obtain ⟨after, there, _⟩ := keeps _ stream found
    rw [there]
    rfl
  refine ⟨unchanged, ?_⟩
  rw [streams_resolve_agreeing, unchanged, streams_resolve_agreeing]
  exact (agreeing_congr pairs standing).symm

/-- A measurement reaches a stream once for each definition that agrees with it. -/
theorem count_resolve (config : InstrumentConfig) (key : String) :
    (meter.resolve shared config).2.1.streams.count key =
      (meter.asked shared config).countP fun definition =>
        decide (definition.key = key) && (meter.resolve shared config).1.agrees definition := by
  rw [streams_resolve_agreeing, List.count, List.countP_map, List.countP_filter]
  exact List.countP_congr fun definition _ => by simp

end Resolved

/-- What a meter gives an instrument. -/
structure Resolves (shared : Shared) (meter : Meter) (config : InstrumentConfig) : Prop where
  /-- A stream is made of the first definition of its name, unless the meter has one. -/
  made : ∀ key, (meter.resolve shared config).1.streams.get? key =
    (meter.streams.get? key).or (((meter.asked shared config).find? fun definition =>
      definition.key = key).map shared.create)
  /-- Definitions that disagree with the standing one are left out, and no others. -/
  listed : (meter.resolve shared config).2.1.streams =
    ((meter.asked shared config).filter (meter.resolve shared config).1.agrees).map (·.key)
  agreement : ∀ definition, (meter.resolve shared config).1.agrees definition = true ↔
    ∃ stream, (meter.resolve shared config).1.streams.get? definition.key = some stream ∧
      stream.definition.description = definition.description ∧
      stream.definition.unit = definition.unit ∧ stream.definition.kind = definition.kind ∧
      stream.definition.allowedKeys = definition.allowedKeys ∧
      stream.definition.cardinalityLimit = definition.cardinalityLimit
  spelled : ∀ other, other.Alike config →
    (meter.resolve shared other).2.1.streams = (meter.resolve shared config).2.1.streams
  again : ∀ (deeds : List Deed) other, other.Alike config →
    let later := (meter.resolve shared config).1.run shared deeds
    (later.resolve shared other).1 = later ∧
      (later.resolve shared other).2.1.streams = (meter.resolve shared config).2.1.streams
  recorded : ∀ (later : Meter) (measurement : Measurement) key,
    (later.record measurement.now (meter.resolve shared config).2.1 measurement.reading
        measurement.attributes).1.streams.get? key =
      (later.streams.get? key).map fun stream => stream.recordAll config.number
        (List.replicate ((meter.asked shared config).countP fun definition =>
          decide (definition.key = key) && (meter.resolve shared config).1.agrees definition)
          measurement)
  /-- Measurements change no stream that all definitions of the instrument disagree with. -/
  untouched : ∀ (later : Meter) (measurement : Measurement) key,
    (∀ definition ∈ meter.asked shared config, definition.key = key →
      (meter.resolve shared config).1.agrees definition = false) →
    (later.record measurement.now (meter.resolve shared config).2.1 measurement.reading
        measurement.attributes).1.streams.get? key = later.streams.get? key

theorem resolves (shared : Shared) {meter : Meter} (registered : meter.Registered)
    (config : InstrumentConfig) : meter.Resolves shared config := by
  have recorded : ∀ (later : Meter) (measurement : Measurement) key,
      (later.record measurement.now (meter.resolve shared config).2.1 measurement.reading
          measurement.attributes).1.streams.get? key =
        (later.streams.get? key).map fun stream => stream.recordAll config.number
          (List.replicate ((meter.asked shared config).countP fun definition =>
            decide (definition.key = key) && (meter.resolve shared config).1.agrees definition)
            measurement) := by
    intro later measurement key
    rw [get?_record, number_resolve, count_resolve]
  constructor
  case made => exact meter.get?_resolve shared config
  case listed => exact meter.streams_resolve_agreeing shared config
  case agreement =>
    apply agrees_iff
    rw [(resolve_eq meter shared config).1]
    exact registered.joinAll shared config.name _
  case spelled => exact fun other alike => meter.streams_resolve_alike shared alike
  case again =>
    intro deeds other alike later
    exact meter.resolve_again shared alike
      ((scope_run shared _ deeds).trans (meter.scope_resolve shared config))
      (keeps_run shared _ deeds)
  case recorded => exact recorded
  case untouched =>
    intro later measurement key disagreeing
    have none : ((meter.asked shared config).countP fun definition =>
        decide (definition.key = key) &&
          (meter.resolve shared config).1.agrees definition) = 0 := by
      rw [List.countP_eq_zero]
      intro definition member
      rw [Bool.and_eq_true, decide_eq_true_eq, not_and, Bool.not_eq_true]
      exact disagreeing definition member
    rw [recorded, none]
    exact Option.map_id'

/-- At any time a meter has one stream for each name, whatever the case of its letters; it keeps
all its streams as they were first defined, and it gives an instrument, whenever it is created
again and in whatever spelling, the streams that it gave it the first time. -/
theorem first_definition_stands (shared : Shared) (scope : Scope) (deeds : List Deed) :
    let meter := (create scope).run shared deeds
    meter.Registered ∧ (∀ further, meter.Keeps (meter.run shared further)) ∧
      ∀ config, meter.Resolves shared config := by
  intro meter
  have registered : meter.Registered := Registered.run shared deeds Table.holds_empty
  exact ⟨registered, fun further => keeps_run shared meter further,
    fun config => resolves shared registered config⟩

/-- Two views give a counter a stream of its own and one whose name a gauge has taken. It records
into the former alone, and is given it again when its name is written in capital letters. -/
theorem first_definition_stands_shouted :
    let view : View := ⟨some (.ofString "requests"), none, none, none, none, none, none, false⟩
    let shared : Shared :=
      { resource := .empty, views := [view, { view with streamName := some "Traffic" }]
        filter := .alwaysOff, start := 1, readers := [fun _ => .delta] }
    let taken : Deed := .create ⟨.gauge, .unsigned, "traffic", none, none⟩ []
    let meter := (create ⟨"test", none, none, []⟩).run shared [taken]
    let written : InstrumentConfig := ⟨.counter, .unsigned, "Requests", none, none⟩
    let shouted : InstrumentConfig := ⟨.counter, .unsigned, "REQUESTS", none, some ""⟩
    let instrument := (meter.resolve shared written).2.1
    let measurement : Measurement := ⟨2, .integer 5, []⟩
    let deeds : List Deed :=
      [.record instrument measurement, .read ⟨0, fun _ => .delta, 1⟩ 3, .reset]
    let later := (meter.resolve shared written).1.run shared deeds
    (meter.asked shared written).map (·.key) = ["requests", "traffic"] ∧
      instrument.streams = ["requests"] ∧ later.streams.keys = ["traffic", "requests"] ∧
      (later.resolve shared written).1 = later ∧ (later.resolve shared shouted).1 = later ∧
      (later.resolve shared shouted).2.1.streams = instrument.streams ∧
      (later.record measurement.now instrument measurement.reading
          measurement.attributes).1.streams.get? "traffic" = later.streams.get? "traffic" ∧
      ∃ stream, (meter.run shared [.reset]).streams.get? "traffic" = some stream ∧
        stream.definition.kind = .gauge := by
  intro view shared taken meter written shouted instrument measurement deeds later
  have stands := first_definition_stands shared ⟨"test", none, none, []⟩ [taken]
  have kept : meter.Keeps (meter.run shared [.reset]) := stands.2.1 [.reset]
  have resolved : meter.Resolves shared written := stands.2.2 written
  obtain ⟨unchanged, same⟩ := resolved.again deeds shouted ⟨by decide, rfl, rfl, rfl⟩
  refine ⟨by decide, by decide, by decide, ?_, unchanged, same, ?_, ?_⟩
  · exact (resolved.again deeds written (.refl written)).1
  · exact resolved.untouched later measurement "traffic" (by decide)
  · obtain ⟨stream, there, _, definition⟩ := kept "traffic"
      (shared.create ⟨"traffic", "", "", .gauge, none, 2000⟩) (by rfl)
    exact ⟨stream, there, congrArg (·.kind) definition⟩

end Meter

end Metering
