import Metering.Proofs.Meter.Registration
import Metering.Proofs.Provider.Upkeep

/-!
Registered callbacks. A callback comes with an observable instrument that has got a stream to
record into, and it stays for good. So whatever happens, the callbacks of a meter are those that
were registered with it, in the order in which that was done.
-/

namespace Metering

/-- A callback: the observer that it belongs to, and the cell that says what it does. -/
abbrev Callback := Observer × String

def Observer.callbacks (observer : Observer) : List Callback :=
  observer.cells.map (Prod.mk observer)

namespace Meter

def callbacks (meter : Meter) : List Callback := meter.observers.flatMap Observer.callbacks

/-- The callbacks that creating an instrument registers. -/
def registers (meter : Meter) (shared : Shared) (config : InstrumentConfig)
    (cells : List String) : List Callback :=
  let instrument := (meter.resolve shared config).2.1
  if config.kind.isObservable && instrument.records then (Observer.mk instrument cells).callbacks
  else []

section Instrument

variable (meter : Meter) (shared : Shared) (config : InstrumentConfig)

theorem observers_joinAll (name : String) (definitions : List StreamDefinition) :
    (joinAll shared name meter definitions).1.observers = meter.observers := by
  induction definitions generalizing meter with
  | nil => rfl
  | cons definition rest ih =>
    rw [(joinAll_cons shared name meter definition rest).1, ih]
    unfold join
    split <;> rfl

theorem observers_resolve : (meter.resolve shared config).1.observers = meter.observers := by
  rw [(resolve_eq meter shared config).1, observers_joinAll]

theorem callbacks_instrument (cells : List String) :
    (meter.instrument shared config cells).1.callbacks =
      meter.callbacks ++ meter.registers shared config cells := by
  have kept := meter.observers_resolve shared config
  unfold instrument registers callbacks
  cases observable : config.kind.isObservable && (meter.resolve shared config).2.1.records with
  | false => simp [observable, kept]
  | true =>
    cases cells with
    | nil => simp [observable, kept, Observer.callbacks]
    | cons cell rest => simp [observable, kept]

/-- An instrument gets nothing to record into if and only if every stream that it asks for is there
already with another definition. One that breaks a rule, or that all views drop, asks for none. -/
theorem records_resolve : (meter.resolve shared config).2.1.records = false ↔
    ∀ definition ∈ meter.asked shared config, ∃ existing,
      meter.streams.get? definition.key = some existing ∧
        existing.definition.same definition = false := by
  have silent : (meter.resolve shared config).2.1.records = false ↔
      ∀ definition ∈ meter.asked shared config,
        (meter.resolve shared config).1.agrees definition = false := by
    rw [Instrument.records, Bool.not_eq_false', List.isEmpty_iff, streams_resolve_agreeing,
      List.map_eq_nil_iff, List.filter_eq_nil_iff]
    simp only [Bool.not_eq_true]
  rw [silent]
  constructor
  · intro disagree definition member
    cases found : meter.streams.get? definition.key with
    | some existing =>
      have differs := disagree definition member
      rw [agrees, get?_resolve, found, Option.some_or, Option.any_some] at differs
      exact ⟨existing, rfl, differs⟩
    | none =>
      -- The first definition under the key would have made a stream that it agrees with.
      have asked : ((meter.asked shared config).find? fun other =>
          other.key = definition.key).isSome :=
        List.find?_isSome.mpr ⟨definition, member, by simp⟩
      obtain ⟨first, made⟩ := Option.isSome_iff_exists.mp asked
      have own : first.key = definition.key := by simpa using List.find?_some made
      have differs := disagree first (List.mem_of_find?_eq_some made)
      rw [agrees, get?_resolve, own, found, made, Option.none_or, Option.map_some,
        Option.any_some] at differs
      exact absurd first.same_refl (Bool.eq_false_iff.mp differs)
  · intro conflicts definition member
    obtain ⟨existing, found, differs⟩ := conflicts definition member
    rw [agrees, get?_resolve, found, Option.some_or, Option.any_some, differs]

theorem mem_registers {cells : List String} {callback : Callback}
    (member : callback ∈ meter.registers shared config cells) :
    callback.1.instrument.records = true ∧ callback.2 ∈ callback.1.cells := by
  unfold registers at member
  dsimp only at member
  split at member
  next registered =>
    obtain ⟨cell, listed, rfl⟩ := List.mem_map.mp member
    exact ⟨(Bool.and_eq_true_iff.mp registered).2, listed⟩
  next => cases member

end Instrument

/-- Which callbacks creating an instrument registers: all of an observable instrument that has got
a stream, in their order, and none of any other. -/
structure RegistersResolved (meter : Meter) (shared : Shared) (config : InstrumentConfig) :
    Prop where
  /-- An instrument that breaks a rule or that the views drop asks for no streams. -/
  silent : (∀ definition ∈ meter.asked shared config, ∃ existing,
    meter.streams.get? definition.key = some existing ∧
      existing.definition.same definition = false) →
    ∀ cells, meter.registers shared config cells = []
  given : config.kind.isObservable = true →
    (∃ definition ∈ meter.asked shared config, ∀ existing,
      meter.streams.get? definition.key = some existing →
        existing.definition.same definition = true) →
    ∀ cells, meter.registers shared config cells =
      cells.map fun cell => (⟨(meter.resolve shared config).2.1, cells⟩, cell)
  synchronous : config.kind.isObservable = false →
    ∀ cells, meter.registers shared config cells = []

theorem registersResolved (meter : Meter) (shared : Shared) (config : InstrumentConfig) :
    meter.RegistersResolved shared config := by
  have resolved := meter.records_resolve shared config
  constructor
  case silent =>
    intro conflicts cells
    rw [registers, resolved.mpr conflicts, Bool.and_false]
    rfl
  case given =>
    rintro observable ⟨definition, member, agrees⟩ cells
    have records : (meter.resolve shared config).2.1.records = true := by
      rw [← Bool.not_eq_false, resolved]
      intro conflicts
      obtain ⟨existing, found, differs⟩ := conflicts definition member
      rw [agrees existing found] at differs
      cases differs
    rw [registers, observable, records]
    rfl
  case synchronous =>
    intro synchronous cells
    rw [registers, synchronous, Bool.false_and]
    rfl

end Meter

namespace Provider

def callbacks (provider : Provider) (scope : ScopeIdentity) : List Callback :=
  ((provider.meter? scope).map (·.callbacks)).getD []

/-- The callbacks that creating an instrument registers, with the scope of the meter. -/
def registers (provider : Provider) (handle : MeterHandle) (config : InstrumentConfig)
    (cells : List String) : List (ScopeIdentity × Callback) :=
  match handle.bind fun scope => (provider.meter? scope).map (scope, ·) with
  | none => []
  | some (scope, meter) => (meter.registers provider.shared config cells).map (Prod.mk scope)

variable (provider : Provider)

theorem callbacks_setMeter {scope : ScopeIdentity} {meter next : Meter} {added : List Callback}
    (before : provider.callbacks scope = meter.callbacks)
    (after : next.callbacks = meter.callbacks ++ added) (other : ScopeIdentity) :
    (provider.setMeter scope next).callbacks other =
      provider.callbacks other ++ Table.under other (added.map (Prod.mk scope)) := by
  have found : (provider.setMeter scope next).meter? other =
      if other = scope then some next else provider.meter? other := Table.get?_insert ..
  rw [callbacks, found, Table.under_pair]
  by_cases same : other = scope
  · subst same
    rw [if_pos rfl, if_pos rfl, before]
    exact after
  · rw [if_neg same, if_neg (Ne.symm same), List.append_nil]
    rfl

theorem callbacks_found {scope : ScopeIdentity} {meter : Meter}
    (found : provider.meter? scope = some meter) :
    provider.callbacks scope = meter.callbacks := by
  rw [callbacks, found]
  rfl

/-- Callbacks stay when a meter is replaced by one that has the same observers. -/
theorem callbacks_kept {scope : ScopeIdentity} {meter next : Meter}
    (found : provider.meter? scope = some meter) (same : next.observers = meter.observers)
    (other : ScopeIdentity) :
    (provider.setMeter scope next).callbacks other = provider.callbacks other := by
  have after : next.callbacks = meter.callbacks ++ [] := by
    rw [List.append_nil, Meter.callbacks, same, Meter.callbacks]
  refine (provider.callbacks_setMeter (provider.callbacks_found found) after other).trans ?_
  exact List.append_nil _

theorem callbacks_create (handle : MeterHandle) (config : InstrumentConfig) (cells : List String)
    (other : ScopeIdentity) : (provider.instrument handle config cells).1.callbacks other =
      provider.callbacks other ++ Table.under other (provider.registers handle config cells) := by
  unfold instrument registers
  cases found : handle.bind fun scope => (provider.meter? scope).map (scope, ·) with
  | none => exact (List.append_nil _).symm
  | some pair =>
    obtain ⟨scope, meter⟩ := pair
    exact provider.callbacks_setMeter (provider.callbacks_found (of_found found).2)
      (meter.callbacks_instrument provider.shared config cells) other

theorem callbacks_meter (scope : Scope) (other : ScopeIdentity) :
    (provider.meter scope).1.callbacks other = provider.callbacks other := by
  rcases provider.meter_cases scope with same | ⟨absent, next⟩
  · rw [same]
  · have before : provider.callbacks (nameScope scope).1.identity =
        (Meter.create (nameScope scope).1).callbacks := by
      rw [callbacks, absent]
      rfl
    rw [next]
    exact (provider.callbacks_setMeter before (List.append_nil _).symm other).trans
      (List.append_nil _)

theorem callbacks_measure (now : UInt64) (scope : ScopeIdentity) (key : String)
    (value : Quantity) (attributes : List Attribute) (other : ScopeIdentity) :
    (provider.measure now scope key value attributes).callbacks other =
      provider.callbacks other := by
  unfold measure
  split
  next => rfl
  next meter found =>
    refine provider.callbacks_kept found ?_ other
    unfold Meter.recordInto
    split <;> rfl

theorem callbacks_readStream (position : Nat) (time : UInt64) (scope : ScopeIdentity)
    (key : String) (other : ScopeIdentity) :
    (provider.readStream position time scope key).1.callbacks other =
      provider.callbacks other := by
  unfold readStream
  split
  next meter stream collector found _ _ =>
    refine provider.callbacks_kept found ?_ other
    rfl
  next => rfl

theorem callbacks_readMeter (position : Nat) (time : UInt64) (scope other : ScopeIdentity) :
    (provider.readMeter position time scope).1.callbacks other = provider.callbacks other := by
  unfold readMeter
  split
  next meter collector found _ =>
    refine provider.callbacks_kept found ?_ other
    rfl
  next => rfl

theorem callbacks_reset (other : ScopeIdentity) :
    provider.reset.callbacks other = provider.callbacks other := by
  rw [callbacks, meter?_reset, Option.map_map]
  rfl

end Provider

namespace Interleaving

/-- The callbacks that a turn registers, with the scopes of their meters. -/
def registers (state : Interleaving) : Turn → List (ScopeIdentity × Callback)
  | .create handle config cells => state.provider.registers handle config cells
  | _ => []

/-- The callbacks that turns register one after the other. -/
def registered (state : Interleaving) : List Turn → List (ScopeIdentity × Callback)
  | [] => []
  | turn :: rest => state.registers turn ++ (state.step turn).registered rest

theorem callbacks_step (state : Interleaving) (turn : Turn) (scope : ScopeIdentity) :
    (state.step turn).provider.callbacks scope =
      state.provider.callbacks scope ++ Table.under scope (state.registers turn) := by
  cases turn with
  | create handle config cells => exact state.provider.callbacks_create handle config cells scope
  | request asked named =>
    refine Eq.trans ?_ (List.append_nil _).symm
    cases named with
    | true => exact state.provider.callbacks_meter (Provider.nameScope asked).1 scope
    | false => exact state.provider.callbacks_meter asked scope
  | measure other key value attributes =>
    refine Eq.trans ?_ (List.append_nil _).symm
    exact state.provider.callbacks_measure state.clock other key value attributes scope
  | reset => exact (state.provider.callbacks_reset scope).trans (List.append_nil _).symm
  | begin position =>
    refine Eq.trans ?_ (List.append_nil _).symm
    rcases state.begin_cases position with same | ⟨_, next⟩
    · rw [step, same]
    · rw [step, next]
  | advance index order =>
    refine Eq.trans ?_ (List.append_nil _).symm
    rcases state.advance_cases index order with same | ⟨round, provider, later, _, advanced, next⟩
    · rw [step, same]
    · rw [step, next]
      cases advanced with
      | read asked key rest metrics phase =>
        exact state.provider.callbacks_readStream round.position round.time asked key scope
      | idle | found | ended | entered | left => rfl
  | tick | shutDown | hold => exact (List.append_nil _).symm

/-- The callbacks of a meter are those that were there and those that have been registered since,
in the order of their registration. -/
theorem callbacks_run (state : Interleaving) (turns : List Turn) (scope : ScopeIdentity) :
    (state.run turns).provider.callbacks scope =
      state.provider.callbacks scope ++ Table.under scope (state.registered turns) := by
  induction turns generalizing state with
  | nil => exact (List.append_nil _).symm
  | cons turn rest ih =>
    change ((state.step turn).run rest).provider.callbacks scope = _
    rw [ih, callbacks_step, registered, Table.under_append, List.append_assoc]

/-- A registered callback is one of an instrument that records into a stream. -/
theorem mem_registered {state : Interleaving} {turns : List Turn} {scope : ScopeIdentity}
    {callback : Callback} (member : (scope, callback) ∈ state.registered turns) :
    callback.1.instrument.records = true ∧ callback.2 ∈ callback.1.cells := by
  induction turns generalizing state with
  | nil => cases member
  | cons turn rest ih =>
    rcases List.mem_append.mp member with here | later
    · cases turn with
      | create handle config cells =>
        change _ ∈ state.provider.registers handle config cells at here
        unfold Provider.registers at here
        split at here
        next => cases here
        next other meter _ =>
          obtain ⟨_, listed, same⟩ := List.mem_map.mp here
          cases same
          exact meter.mem_registers _ config listed
      | _ => cases here
    · exact ih later

end Interleaving

end Metering
