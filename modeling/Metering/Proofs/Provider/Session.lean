import Metering.Proofs.Meter.Twins
import Metering.Proofs.Provider.Changes

/-!
Sessions: what a program does with a provider and the readers get of it. A program requests meters,
creates synchronous instruments of integers and measures with them while the clock goes on or back,
and any reader collects at any time.
-/

namespace Metering

/-- The synchronous instruments that measure integers. -/
inductive IntegerInstrument where
  | counter
  | upDownCounter
  | unsignedGauge
  | signedGauge
  deriving DecidableEq, Repr

namespace IntegerInstrument

def kind : IntegerInstrument → InstrumentKind
  | .counter => .counter
  | .upDownCounter => .upDownCounter
  | .unsignedGauge | .signedGauge => .gauge

def number : IntegerInstrument → NumberType
  | .counter | .unsignedGauge => .unsigned
  | .upDownCounter | .signedGauge => .signed

def config (made : IntegerInstrument) (name : String) (description unit : Option String) :
    InstrumentConfig :=
  { kind := made.kind, number := made.number, name, description, unit }

theorem synchronous (made : IntegerInstrument) : made.kind.isObservable = false := by
  cases made <;> rfl

theorem integer (made : IntegerInstrument) : made.number.isInteger = true := by
  cases made <;> rfl

theorem increments (made : IntegerInstrument) (sums : made.kind.isSum = true) :
    made.number = made.kind.increments := by
  cases made <;> first | rfl | cases sums

end IntegerInstrument

/-- What can happen in a session. Meters and instruments are named by when they were made. -/
inductive Act where
  | tick (now : UInt64)
  /-- A meter is requested, with the name of its scope settled either first or when needed. -/
  | request (scope : Scope) (named : Bool)
  | create (meter : Nat) (made : IntegerInstrument) (name : String)
      (description unit : Option String)
  | record (instrument : Nat) (value : Int) (attributes : List Attribute)
  | collect (position : Nat)
  deriving DecidableEq, Repr

/-- Whether an act is anything but a collection for a reader at another position. -/
def Act.concerns (position : Nat) : Act → Bool
  | .collect other => other = position
  | _ => true

structure Session where
  provider : Provider
  clock : UInt64
  meters : List MeterHandle := []
  instruments : List (MeterHandle × Instrument) := []
  /-- What the collections answered, with the position of the reader. -/
  answers : List (Nat × Except MetricError Report) := []

namespace Session

/-- A session with a provider built at a time of the clock. -/
def start (config : ProviderConfig) (now : UInt64)
    (readers : List (Nat × TemporalityChoice × Bool)) : Session :=
  { provider := .build config now readers, clock := now }

def request (session : Session) (scope : Scope) (named : Bool) : Session :=
  let (provider, meter, _) :=
    if named then session.provider.namedMeter scope else session.provider.meter scope
  { session with provider, meters := session.meters ++ [meter] }

def create (session : Session) (handle : MeterHandle) (config : InstrumentConfig) : Session :=
  let (provider, instrument, _) := session.provider.instrument handle config []
  { session with provider, instruments := session.instruments ++ [(handle, instrument)] }

def record (session : Session) (handle : MeterHandle) (instrument : Instrument) (value : Int)
    (attributes : List Attribute) : Session :=
  { session with provider :=
      (session.provider.record session.clock handle instrument (.integer value) attributes).1 }

def collect (cells : Cells) (session : Session) (position : Nat) : Session :=
  let (provider, answer, _) := session.provider.collect cells session.clock position
  { session with provider, answers := session.answers ++ [(position, answer)] }

/-- Does one act; nothing comes of a meter or an instrument that has not been made. -/
def step (cells : Cells) (session : Session) : Act → Session
  | .tick now => { session with clock := now }
  | .request scope named => session.request scope named
  | .create meter made name description unit =>
    match session.meters[meter]? with
    | none => session
    | some handle => session.create handle (made.config name description unit)
  | .record instrument value attributes =>
    match session.instruments[instrument]? with
    | none => session
    | some (handle, instrument) => session.record handle instrument value attributes
  | .collect position => session.collect cells position

def run (cells : Cells) (session : Session) (acts : List Act) : Session :=
  acts.foldl (step cells) session

/-- The answers to the collections of the reader at a position, oldest first. -/
def answersFor (session : Session) (position : Nat) : List (Except MetricError Report) :=
  (session.answers.filter fun answer => answer.1 = position).map (·.2)

def lastCollect? (session : Session) (position : Nat) : Option UInt64 :=
  (session.provider.collector? position).map (·.lastCollect)

theorem answersFor_append (session : Session) (position other : Nat)
    (answer : Except MetricError Report) :
    { session with answers := session.answers ++ [(other, answer)] }.answersFor position =
      if other = position then session.answersFor position ++ [answer]
      else session.answersFor position := by
  by_cases same : other = position <;> simp [answersFor, same]

end Session

namespace Meter

/-- Whether a stream of the meter has run out of room. -/
def overflows (meter : Meter) : Bool := meter.streams.anyFound Stream.overflows

theorem Follows.overflows {meter next : Meter} (follows : meter.Follows next)
    (before : meter.overflows = true) : next.overflows = true := by
  rw [Meter.overflows, Table.anyFound_iff] at before ⊢
  obtain ⟨key, stream, found, full⟩ := before
  obtain ⟨later, there, after⟩ := follows key stream found
  exact ⟨key, later, there, after.overflows full⟩

end Meter

namespace Provider

/-- Whether a stream from which every reader takes changes, so that series can be dropped, has had
no room for an attribute set. -/
def overflows (provider : Provider) : Bool :=
  provider.registry.components.anyFound Meter.overflows

/-- What a provider can be behind a change: all its meters and streams are still there. -/
def Follows (provider next : Provider) : Prop :=
  Table.Extends Meter.Follows provider.registry.components next.registry.components

section Follows

variable (provider : Provider)

theorem Follows.refl : provider.Follows provider :=
  Table.Extends.refl Meter.Follows.refl provider.registry.components

variable {provider} in
theorem Follows.trans {middle next : Provider} (begins : provider.Follows middle)
    (ends : middle.Follows next) : provider.Follows next :=
  Table.Extends.trans begins ends Meter.Follows.trans

theorem Follows.overflows {provider next : Provider} (follows : provider.Follows next)
    (before : provider.overflows = true) : next.overflows = true := by
  rw [Provider.overflows, Table.anyFound_iff] at before ⊢
  obtain ⟨scope, meter, found, full⟩ := before
  obtain ⟨later, there, after⟩ := follows scope meter found
  exact ⟨scope, later, there, after.overflows full⟩

theorem follows_setMeter (scope : ScopeIdentity) (meter next : Meter)
    (found : provider.meter? scope = some meter) (follows : meter.Follows next) :
    provider.Follows (provider.setMeter scope next) := by
  apply Table.extends_insert Meter.Follows.refl
  intro previous there
  cases found.symm.trans there
  exact follows

/-- A provider that hands out meters makes the one of a scope unless it is there. -/
theorem meter_open (bound : provider.bindings.isEmpty = false)
    (running : provider.isShutdown = false) (scope : Scope) :
    let named := (nameScope scope).1
    (provider.meter scope).1 = (if (provider.meter? named.identity).isSome then provider
        else provider.setMeter named.identity (.create named)) ∧
      (provider.meter scope).2.1 = some named.identity := by
  intro named
  unfold meter
  rw [if_neg (Bool.eq_false_iff.mp bound), if_neg (Bool.eq_false_iff.mp running)]
  simp only [Registry.get, Registry.insertIfAbsent, Registry.find?]
  cases found : provider.registry.components.get? named.identity with
  | none => simp [meter?, setMeter, named, found]
  | some meter => simp [meter?, named, found]

/-- Requesting a meter makes the one of the scope, or nothing. -/
theorem meter_cases (scope : Scope) : (provider.meter scope).1 = provider ∨
    provider.meter? (nameScope scope).1.identity = none ∧ (provider.meter scope).1 =
      provider.setMeter (nameScope scope).1.identity (.create (nameScope scope).1) := by
  cases bound : provider.bindings.isEmpty with
  | true => exact .inl (by simp [meter, bound])
  | false =>
    cases running : provider.isShutdown with
    | true => exact .inl (by simp [meter, bound, running])
    | false =>
      rw [(provider.meter_open bound running scope).1]
      split
      next => exact .inl rfl
      next absent => exact .inr ⟨Option.not_isSome_iff_eq_none.mp absent, rfl⟩

theorem follows_meter (scope : Scope) : provider.Follows (provider.meter scope).1 := by
  rcases provider.meter_cases scope with same | ⟨absent, next⟩
  · exact same.symm ▸ .refl provider
  · rw [next]
    apply Table.extends_insert Meter.Follows.refl
    intro previous there
    cases absent.symm.trans there

/-- A handle that finds a meter stands for its scope. -/
theorem of_found {provider : Provider} {handle : MeterHandle} {scope : ScopeIdentity}
    {meter : Meter} (found : (handle.bind fun scope =>
      (provider.meter? scope).map (scope, ·)) = some (scope, meter)) :
    handle = some scope ∧ provider.meter? scope = some meter := by
  obtain ⟨_, same, there⟩ := Option.bind_eq_some_iff.mp found
  obtain ⟨_, present, pair⟩ := Option.map_eq_some_iff.mp there
  cases pair
  exact ⟨same, present⟩

theorem follows_instrument (handle : MeterHandle) (config : InstrumentConfig)
    (cells : List String) : provider.Follows (provider.instrument handle config cells).1 := by
  unfold instrument
  split
  next => exact .refl provider
  next scope meter found =>
    exact provider.follows_setMeter scope meter _ (of_found found).2
      (meter.follows_instrument provider.shared config cells)

theorem follows_record (now : UInt64) (handle : MeterHandle) (instrument : Instrument)
    (reading : Reading) (attributes : List Attribute) :
    provider.Follows (provider.record now handle instrument reading attributes).1 := by
  unfold record
  split
  next => exact .refl provider
  next scope meter found =>
    exact provider.follows_setMeter scope meter _ (of_found found).2
      (meter.follows_record now instrument reading attributes)

theorem follows_readMeter (position : Nat) (time : UInt64) (scope : ScopeIdentity) :
    provider.Follows (provider.readMeter position time scope).1 := by
  unfold readMeter
  split
  next meter collector found _ =>
    exact provider.follows_setMeter scope meter _ found (meter.follows_read collector time)
  next => exact .refl provider

theorem stable_follows : Stable Follows :=
  ⟨.refl, .trans, follows_meter, follows_instrument, follows_record, follows_readMeter⟩

end Follows

/-- Whether an instrument made with a meter's handle is one for integers whose streams are there. -/
def Suits (provider : Provider) (handle : MeterHandle) (instrument : Instrument) : Prop :=
  instrument.number.isInteger = true ∧ (instrument.streams = [] ∨ ∃ scope meter,
    handle = some scope ∧ provider.meter? scope = some meter ∧ meter.Suits instrument)

section Suits

variable {provider : Provider} {handle : MeterHandle} {instrument : Instrument}

theorem Suits.follows {next : Provider} (suits : provider.Suits handle instrument)
    (follows : provider.Follows next) : next.Suits handle instrument := by
  refine ⟨suits.1, ?_⟩
  rcases suits.2 with ignoring | ⟨scope, meter, same, found, fits⟩
  · exact .inl ignoring
  · obtain ⟨later, there, after⟩ := follows scope meter found
    exact .inr ⟨scope, later, same, there, fits.follows after⟩

theorem Suits.meter (suits : provider.Suits handle instrument) {scope : ScopeIdentity}
    {meter : Meter} (same : handle = some scope) (found : provider.meter? scope = some meter) :
    meter.Suits instrument := by
  rcases suits.2 with ignoring | ⟨other, there, also, present, fits⟩
  · refine ⟨suits.1, fun key member => ?_⟩
    rw [ignoring] at member
    cases member
  · cases same.symm.trans also
    cases found.symm.trans present
    exact fits

theorem suits_instrument (provider : Provider) (handle : MeterHandle) (config : InstrumentConfig)
    (cells : List String) (integer : config.number.isInteger = true)
    (number : config.kind.isSum = true → config.number = config.kind.increments) :
    (provider.instrument handle config cells).1.Suits handle
      (provider.instrument handle config cells).2.1 := by
  unfold Provider.instrument
  split
  next => exact ⟨integer, .inl rfl⟩
  next scope meter found =>
    have suits := meter.suits_instrument provider.shared config cells integer number
    refine ⟨suits.1, .inr ⟨scope, _, (of_found found).1, ?_, suits⟩⟩
    exact (Table.get?_insert _ _ _ _).trans (if_pos rfl)

end Suits

end Provider

end Metering
