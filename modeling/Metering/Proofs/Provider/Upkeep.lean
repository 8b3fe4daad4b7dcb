import Metering.Proofs.Provider.Interleaving

/-!
What holds of every stream of a provider. A rule that new streams meet, and that measurements,
collections and resets keep, holds of all streams at any time, however collections are interleaved.
Besides, every meter and every stream stands under its own identity or name, and every scope has a
name.
-/

namespace Metering

/-- Whether all streams that a provider makes meet a rule, whatever happens to them. -/
structure Stream.Rule (shared : Shared) (meets : Stream → Prop) : Prop where
  create : ∀ meter config definition, config.fault? = none →
    definition ∈ View.streams shared.views meter config →
      meets (.create definition shared.filter shared.start shared.readers)
  record : ∀ stream now value attributes, meets stream →
    meets (stream.record now value attributes).1
  collect : ∀ stream collector time, meets stream → meets (stream.collect collector time).1
  reset : ∀ stream, meets stream → meets stream.reset

theorem Stream.rule_true (shared : Shared) : Stream.Rule shared fun _ => True := by
  constructor <;> intros <;> trivial

/-- Whether a stream stands under its own key and meets a rule. -/
def Stream.Listed (meets : Stream → Prop) (key : String) (stream : Stream) : Prop :=
  stream.definition.key = key ∧ meets stream

namespace Meter

/-- Whether a meter stands under its own scope, and all its streams meet a rule. -/
structure Sound (meets : Stream → Prop) (scope : ScopeIdentity) (meter : Meter) : Prop where
  identity : meter.scope.identity = scope
  named : meter.scope.name ≠ ""
  streams : meter.streams.Holds (Stream.Listed meets)

section Sound

variable {meets : Stream → Prop} {scope : ScopeIdentity} {meter : Meter}

theorem sound_create (scope : Scope) (named : scope.name ≠ "") :
    (create scope).Sound meets scope.identity :=
  ⟨rfl, named, Table.holds_empty⟩

/-- A stream may be replaced by one of the same definition. -/
theorem Sound.replace (sound : meter.Sound meets scope) (key : String) (stream next : Stream)
    (found : meter.streams.get? key = some stream)
    (same : next.definition = stream.definition) (kept : meets next) :
    Sound meets scope { meter with streams := meter.streams.insert key next } := by
  have listed := (sound.streams.each key stream found).1
  exact ⟨sound.identity, sound.named, sound.streams.insert key next ⟨same ▸ listed, kept⟩⟩

theorem Sound.join {shared : Shared} (sound : meter.Sound meets scope)
    (definition : StreamDefinition)
    (meeting : meets (.create definition shared.filter shared.start shared.readers)) :
    (meter.join shared definition).1.Sound meets scope := by
  cases found : meter.streams.get? definition.key with
  | some existing =>
    rw [join_found shared meter definition existing found]
    exact sound
  | none =>
    rw [join_new shared meter definition found]
    exact ⟨sound.identity, sound.named, sound.streams.insert _ _ ⟨rfl, meeting⟩⟩

theorem Sound.joinAll {shared : Shared} (sound : meter.Sound meets scope) (name : String)
    (definitions : List StreamDefinition) (meeting : ∀ definition ∈ definitions,
      meets (.create definition shared.filter shared.start shared.readers)) :
    (Meter.joinAll shared name meter definitions).1.Sound meets scope := by
  induction definitions generalizing meter with
  | nil => exact sound
  | cons definition rest ih =>
    rw [(joinAll_cons shared name meter definition rest).1]
    exact ih (sound.join definition (meeting _ List.mem_cons_self))
      fun later member => meeting later (List.mem_cons_of_mem _ member)

section Rule

variable {shared : Shared} (rule : Stream.Rule shared meets)
include rule

theorem Sound.instrument (sound : meter.Sound meets scope) (config : InstrumentConfig)
    (cells : List String) : (meter.instrument shared config cells).1.Sound meets scope := by
  have resolved : (meter.resolve shared config).1.Sound meets scope := by
    unfold resolve
    split
    next => exact sound
    next proper =>
      exact sound.joinAll config.name _ fun definition member =>
        rule.create meter.scope.name config definition proper member
  unfold Meter.instrument
  dsimp only
  split <;> exact ⟨resolved.identity, resolved.named, resolved.streams⟩

theorem Sound.recordInto (sound : meter.Sound meets scope) (now : UInt64) (value : Quantity)
    (attributes : List Attribute) (key : String) :
    (meter.recordInto now value attributes key).1.Sound meets scope := by
  unfold Meter.recordInto
  split
  next => exact sound
  next stream found =>
    exact sound.replace key stream _ found
      (stream.follows_record now value attributes).terms.definition
      (rule.record stream now value attributes (sound.streams.each key stream found).2)

theorem Sound.reset (sound : meter.Sound meets scope) : meter.reset.Sound meets scope :=
  ⟨sound.identity, sound.named, sound.streams.map Stream.reset
    fun _ stream listed => ⟨listed.1, rule.reset stream listed.2⟩⟩

end Rule

end Sound

end Meter

namespace Provider

/-- Whether all meters of a provider stand under their own scopes, and all streams meet a rule. -/
def Sound (meets : Stream → Prop) (provider : Provider) : Prop :=
  provider.registry.components.Holds (Meter.Sound meets)

section Sound

variable {meets : Stream → Prop} {provider : Provider}

theorem sound_build (config : ProviderConfig) (now : UInt64)
    (readers : List (Nat × TemporalityChoice × Bool)) :
    (build config now readers).Sound meets := Table.holds_empty

theorem Sound.found (sound : provider.Sound meets) {scope : ScopeIdentity} {meter : Meter}
    (found : provider.meter? scope = some meter) : meter.Sound meets scope :=
  sound.each scope meter found

theorem Sound.setMeter (sound : provider.Sound meets) (scope : ScopeIdentity) (meter : Meter)
    (here : meter.Sound meets scope) : (provider.setMeter scope meter).Sound meets :=
  sound.insert scope meter here

theorem named_nameScope (scope : Scope) : (nameScope scope).1.name ≠ "" := by
  unfold nameScope
  split
  next =>
    have standard : Event.defaultMeterName ≠ "" := by decide
    exact standard
  next filled =>
    intro empty
    exact filled (empty ▸ rfl)

theorem Sound.meter (sound : provider.Sound meets) (scope : Scope) :
    (provider.meter scope).1.Sound meets := by
  rcases provider.meter_cases scope with same | ⟨_, next⟩
  · exact same.symm ▸ sound
  · exact next ▸ sound.setMeter _ _ (Meter.sound_create _ (named_nameScope scope))

section Rule

variable (rule : Stream.Rule provider.shared meets)
include rule

theorem Sound.instrument (sound : provider.Sound meets) (handle : MeterHandle)
    (config : InstrumentConfig) (cells : List String) :
    (provider.instrument handle config cells).1.Sound meets := by
  unfold Provider.instrument
  split
  next => exact sound
  next scope meter found =>
    exact sound.setMeter scope _ ((sound.found (of_found found).2).instrument rule config cells)

theorem Sound.measure (sound : provider.Sound meets) (now : UInt64) (scope : ScopeIdentity)
    (key : String) (value : Quantity) (attributes : List Attribute) :
    (provider.measure now scope key value attributes).Sound meets := by
  unfold Provider.measure
  split
  next => exact sound
  next meter found =>
    exact sound.setMeter scope _ ((sound.found found).recordInto rule now value attributes key)

theorem Sound.readStream (sound : provider.Sound meets) (position : Nat) (time : UInt64)
    (scope : ScopeIdentity) (key : String) :
    (provider.readStream position time scope key).1.Sound meets := by
  unfold Provider.readStream
  split
  next meter stream collector found there _ =>
    rw [stream?, found, Option.bind_some] at there
    have meter_sound := sound.found found
    exact sound.setMeter scope _ (meter_sound.replace key stream _ there
      (stream.sameTerms_collect collector time).definition
      (rule.collect stream collector time (meter_sound.streams.each key stream there).2))
  next => exact sound

theorem Sound.reset (sound : provider.Sound meets) : provider.reset.Sound meets :=
  sound.map Meter.reset fun _ _ meter => meter.reset rule

end Rule

end Sound

theorem meter?_reset (provider : Provider) (scope : ScopeIdentity) :
    provider.reset.meter? scope = (provider.meter? scope).map Meter.reset :=
  Table.get?_mapValues Meter.reset provider.registry.components scope

section Replaced

variable (provider : Provider) (scope : ScopeIdentity)

theorem meter?_setMeter (meter : Meter) :
    (provider.setMeter scope meter).meter? scope = some meter := by
  rw [meter?, setMeter, Table.get?_insert, if_pos rfl]

theorem setMeter_setMeter (first second : Meter) :
    (provider.setMeter scope first).setMeter scope second = provider.setMeter scope second := by
  unfold setMeter
  rw [Table.insert_insert]

theorem setMeter_found {scope : ScopeIdentity} {meter : Meter}
    (found : provider.meter? scope = some meter) : provider.setMeter scope meter = provider := by
  rw [setMeter, Table.insert_self _ _ _ found]

end Replaced

section Amended

theorem Amended.bindings {provider next : Provider} (amended : provider.Amended next) :
    next.bindings = provider.bindings := by
  obtain ⟨_, rfl⟩ := amended
  rfl

variable (provider : Provider)

theorem amended_measure (now : UInt64) (scope : ScopeIdentity) (key : String) (value : Quantity)
    (attributes : List Attribute) :
    provider.Amended (provider.measure now scope key value attributes) := by
  unfold measure
  split
  next => exact .refl provider
  next => exact provider.amended_setMeter scope _

theorem amended_readStream (position : Nat) (time : UInt64) (scope : ScopeIdentity)
    (key : String) : provider.Amended (provider.readStream position time scope key).1 := by
  unfold readStream
  split
  next => exact provider.amended_setMeter scope _
  next => exact .refl provider

theorem amended_request (scope : Scope) (named : Bool) : provider.Amended
    (if named then (provider.namedMeter scope).1 else (provider.meter scope).1) := by
  cases named with
  | true => exact provider.amended_meter (nameScope scope).1
  | false => exact provider.amended_meter scope

end Amended

end Provider

/-- A collection changes a provider in its meters only, except that its end raises the last
collection time of its reader. -/
theorem Round.Advanced.provider_eq {provider next : Provider} {round later : Round}
    (advanced : Advanced provider round next later) :
    (provider.Amended next ∧ later.isOver = round.isOver) ∨
      (round.isOver = false ∧ later = { round with phase := .over } ∧
        next = provider.finish round.position round.time) := by
  cases advanced with
  | idle => exact .inl ⟨.refl provider, rfl⟩
  | found scopes phase all => exact .inl ⟨.refl provider, by simp only [isOver, phase]⟩
  | ended phase ahead => exact .inr ⟨by simp only [isOver, phase], rfl, rfl⟩
  | entered scope rest keys phase ahead all =>
    exact .inl ⟨.refl provider, by simp only [isOver, phase]⟩
  | read scope key rest metrics phase =>
    exact .inl ⟨provider.amended_readStream .., by simp only [isOver, phase]⟩
  | left scope metrics phase => exact .inl ⟨.refl provider, by simp only [isOver, phase]⟩

/-- A collection keeps the reader and the time that it began with. -/
theorem Round.Advanced.label {provider next : Provider} {round later : Round}
    (advanced : Advanced provider round next later) :
    later.position = round.position ∧ later.time = round.time := by
  cases advanced <;> exact ⟨rfl, rfl⟩

theorem Round.Advanced.sound {meets : Stream → Prop} {provider next : Provider}
    {round later : Round} (advanced : Advanced provider round next later)
    (rule : Stream.Rule provider.shared meets) (sound : provider.Sound meets) :
    next.Sound meets := by
  cases advanced with
  | read scope key rest metrics phase =>
    exact sound.readStream rule round.position round.time scope key
  | idle | found | ended | entered | left => exact sound

namespace Interleaving

/-- A turn of a collection that there is takes it one step further. -/
theorem advance_cases (state : Interleaving) (index : Nat) (order : Order) :
    state.advance index order = state ∨ ∃ round provider later,
      state.rounds[index]? = some round ∧
        Round.Advanced state.provider round provider later ∧
        state.advance index order =
          { state with provider, rounds := state.rounds.set index later } := by
  unfold advance
  split
  next => exact .inl rfl
  next round found => exact .inr ⟨round, _, _, found, round.advanced order state.provider, rfl⟩

theorem begin_cases (state : Interleaving) (position : Nat) :
    state.begin position = state ∨ (state.provider.collector? position).isSome ∧
      state.begin position =
        { state with rounds := state.rounds ++ [{ position, time := state.clock }] } := by
  unfold begin
  split
  next => exact .inl rfl
  next there =>
    rw [Bool.or_eq_true, not_or, Bool.not_eq_true, Bool.not_eq_true, Option.isNone_eq_false_iff]
      at there
    exact .inr ⟨there.2, rfl⟩

/-- What one turn does to the readers and the collections. -/
inductive Stepped (state : Interleaving) : Turn → Interleaving → Prop where
  | calm (turn : Turn) (next : Interleaving) (rounds : next.rounds = state.rounds)
      (bindings : next.provider.bindings = state.provider.bindings)
      (shared : next.provider.shared = state.provider.shared)
      (clock : next.clock = state.clock ∨ turn = .tick next.clock) : Stepped state turn next
  | begun (position : Nat) (reader : (state.provider.collector? position).isSome) :
      Stepped state (.begin position)
        { state with rounds := state.rounds ++ [{ position, time := state.clock }] }
  | moved (index : Nat) (order : Order) (round later : Round) (provider : Provider)
      (found : state.rounds[index]? = some round)
      (advanced : Round.Advanced state.provider round provider later) :
      Stepped state (.advance index order)
        { state with provider, rounds := state.rounds.set index later }

theorem stepped_amended (state : Interleaving) (turn : Turn) {provider : Provider}
    (amended : state.provider.Amended provider) : Stepped state turn { state with provider } :=
  .calm turn _ rfl amended.bindings amended.shared (.inl rfl)

theorem stepped (state : Interleaving) (turn : Turn) : Stepped state turn (state.step turn) := by
  cases turn with
  | tick now => exact .calm _ _ rfl rfl rfl (.inr rfl)
  | request scope named =>
    exact state.stepped_amended _ (state.provider.amended_request scope named)
  | create handle config cells =>
    exact state.stepped_amended _ (state.provider.amended_instrument handle config cells)
  | measure scope key value attributes =>
    exact state.stepped_amended _ (state.provider.amended_measure state.clock scope key value _)
  | begin position =>
    rw [step]
    rcases state.begin_cases position with same | ⟨reader, next⟩
    · exact same.symm ▸ state.stepped_amended _ (.refl state.provider)
    · exact next.symm ▸ .begun position reader
  | advance index order =>
    rw [step]
    rcases state.advance_cases index order with same | ⟨round, provider, later, found, moves, next⟩
    · exact same.symm ▸ state.stepped_amended _ (.refl state.provider)
    · exact next.symm ▸ .moved index order round later provider found moves
  | reset | shutDown | hold => exact .calm _ _ rfl rfl rfl (.inl rfl)

theorem Stepped.shared_eq {state next : Interleaving} {turn : Turn}
    (stepped : Stepped state turn next) : next.provider.shared = state.provider.shared := by
  cases stepped with
  | calm _ _ _ _ shared => exact shared
  | begun => rfl
  | moved index order round later provider found advanced =>
    rcases advanced.provider_eq with ⟨amended, _⟩ | ⟨_, _, same⟩
    · exact amended.shared
    · exact congrArg (·.shared) same

theorem sound_step {meets : Stream → Prop} (state : Interleaving)
    (rule : Stream.Rule state.provider.shared meets) (sound : state.provider.Sound meets)
    (turn : Turn) : (state.step turn).provider.Sound meets := by
  cases turn with
  | request scope named =>
    cases named with
    | true => exact sound.meter (Provider.nameScope scope).1
    | false => exact sound.meter scope
  | create handle config cells => exact sound.instrument rule handle config cells
  | measure scope key value attributes => exact sound.measure rule state.clock scope key value _
  | reset => exact sound.reset rule
  | begin position =>
    rcases state.begin_cases position with same | ⟨_, next⟩
    · rwa [step, same]
    · rwa [step, next]
  | advance index order =>
    rcases state.advance_cases index order with same | ⟨round, provider, later, _, advanced, next⟩
    · rwa [step, same]
    · rw [step, next]
      exact advanced.sound rule sound
  | tick | shutDown | hold => exact sound

theorem shared_run (state : Interleaving) (turns : List Turn) :
    (state.run turns).provider.shared = state.provider.shared :=
  run_keeps (fun later => later.provider.shared = state.provider.shared)
    (fun later turn same => (later.stepped turn).shared_eq.trans same) state rfl turns

theorem sound_run {meets : Stream → Prop} (state : Interleaving)
    (rule : Stream.Rule state.provider.shared meets) (sound : state.provider.Sound meets)
    (turns : List Turn) : (state.run turns).provider.Sound meets := by
  induction turns generalizing state with
  | nil => exact sound
  | cons turn rest ih =>
    have shared := (state.stepped turn).shared_eq
    exact ih (state.step turn) (shared ▸ rule) (state.sound_step rule sound turn)

end Interleaving

end Metering
