import Metering.Proofs.Pipeline.Calls
import Metering.Proofs.Provider.Owed

/-!
Delivery of what counters count to the exporter of a provider's only reader, which is periodic and
whose exporter asks for changes of counters. Callers request meters, create instruments, measure
words, flush and shut down, and the reader's thread goes on in between; whatever becomes of its
exports, the batches handed to the exporter come to what was stored before the last collection.
-/

namespace Metering

open Completion

/-- What can happen to a pipeline with a provider and its reader. Meters and counters are named by
when they were made. -/
inductive DeliveryEvent where
  | tick (clock : UInt64)
  | pass (nanos : Nat)
  /-- A meter is requested, with the name of its scope settled either first or when needed. -/
  | request (scope : Scope) (named : Bool)
  /-- An instrument is made; the callbacks of an observable one do nothing. -/
  | create (meter : Nat) (config : InstrumentConfig) (cells : List String)
  | record (counter : Nat) (value : UInt64) (attributes : List Attribute)
  /-- The provider is flushed or shut down. -/
  | tell (call : ReaderCall)
  /-- The reader itself is flushed or shut down. -/
  | ask (call : ReaderCall)
  | complete (code : CodeId) (outcome : Outcome)
  /-- The reader's thread goes on. -/
  | work

namespace Pipeline

/-- The batch that a thread hands to its exporter when it goes on, if it collects then and there is
anything to export. -/
def collection? (pipeline : Pipeline) (id : Nat) : Option (Option Report) :=
  (pipeline.periodic? id).bind fun (reader, _, worker) =>
    (worker.begins? reader.handles).map fun _ => (pipeline.gather? reader.lease).toOption.join

/-- An empty report that is left out would have shown nothing. -/
theorem valuesOf_gather? {pipeline : Pipeline} {lease : Lease} {report : Report}
    (produced : (pipeline.produce lease).2 = .ok report) (scope : ScopeIdentity) (key : String)
    (attributes : List Attribute) :
    (pipeline.gather? (some lease)).toOption.join.toList.flatMap
      (·.valuesOf scope key attributes) = report.valuesOf scope key attributes := by
  simp only [gather?, produced]
  cases scopes : report.scopes with
  | nil => simp [Report.isEmpty, Report.valuesOf, scopes, Except.toOption]
  | cons part rest => simp [Report.isEmpty, scopes, Except.toOption]

theorem readers_change {α : Type} (pipeline : Pipeline) (id : Nat) (absent : α)
    (act : Provider → Provider × α × List Event) :
    (pipeline.change id absent act).1.readers = pipeline.readers := by
  unfold change
  split <;> rfl

/-- A provider has come to be as given, while readers and exporters stay as they are. -/
structure Amends (before : Pipeline) (id : Nat) (provider : Provider) (after : Pipeline) :
    Prop where
  cells : after.cells = before.cells
  exporters : after.exporters = before.exporters
  readers : after.readers = before.readers
  found : after.providers[id]? = some provider

section Amends

variable {pipeline : Pipeline} {id : Nat} {provider : Provider}
  (found : pipeline.providers[id]? = some provider)

include found

theorem amends_change {α : Type} (absent : α) (act : Provider → Provider × α × List Event)
    {next : Provider} (acts : (act provider).1 = next) :
    pipeline.Amends id next (pipeline.change id absent act).1 := by
  simp only [change, found, acts]
  exact ⟨rfl, rfl, rfl, List.getElem?_set_self (List.getElem?_eq_some_iff.mp found).1⟩

theorem amends_meter (scope : Scope) (named : Bool) :
    ∃ handles, pipeline.Amends id
      { (if named then provider.namedMeter scope else provider.meter scope).1 with
        meterHandles := handles }
      (pipeline.meter id scope named).1 :=
  ⟨_, amends_change found none _ rfl⟩

theorem amends_instrument (handle : MeterHandle) (config : InstrumentConfig)
    (cells : List String) :
    pipeline.Amends id (provider.instrument handle config cells).1
      (pipeline.instrument id handle config cells).1 :=
  amends_change found _ _ rfl

theorem amends_record (handle : MeterHandle) (instrument : Instrument) (reading : Reading)
    (attributes : List Attribute) :
    pipeline.Amends id
      (provider.record pipeline.clock handle instrument reading attributes).1
      (pipeline.record id handle instrument reading attributes) :=
  amends_change found () _ rfl

theorem amends_produce (binding : Nat) :
    pipeline.Amends id (provider.collect pipeline.cells pipeline.clock binding).1
      (pipeline.produce ⟨id, binding⟩).1 :=
  amends_change found _ _ rfl

end Amends

end Pipeline

/-- A pipeline with what has been measured and handed over. -/
structure Delivery where
  pipeline : Pipeline
  meters : List MeterHandle := []
  /-- The counters of words that have been made. -/
  counters : List (MeterHandle × Instrument) := []
  /-- The measurements that have been made, for each stream that their counter lists. -/
  measured : List (ScopeIdentity × String × Quantity) := []
  /-- What streams have stored before the thread's last collection. -/
  collected : List Deposit := []
  /-- What they have stored since then. -/
  uncollected : List Deposit := []
  batches : List Report := []

namespace Delivery

/-- A provider has been built for a reader whose exporter is new. -/
def start (clock : UInt64) (kind : ExporterKind) (preference : TemporalityPreference)
    (temporality : TemporalityChoice) (reader : PeriodicConfig) (provider : ProviderConfig)
    (shielded : Bool) : Delivery :=
  { pipeline := ((((Pipeline.start clock).addExporter
      { kind, preference, temporality }).1.addPeriodic 0 reader).1.build provider
        [(0, shielded)]).1 }

def request (delivery : Delivery) (scope : Scope) (named : Bool) : Delivery :=
  let (pipeline, meter) := delivery.pipeline.meter 0 scope named
  { delivery with pipeline, meters := delivery.meters ++ [meter] }

def create (delivery : Delivery) (handle : MeterHandle) (config : InstrumentConfig)
    (cells : List String) : Delivery :=
  let (pipeline, instrument) := delivery.pipeline.instrument 0 handle config cells
  { delivery with
    pipeline
    counters := delivery.counters ++
      if config.kind = .counter ∧ config.number = .unsigned then [(handle, instrument)] else [] }

def record (delivery : Delivery) (handle : MeterHandle) (instrument : Instrument)
    (value : UInt64) (attributes : List Attribute) : Delivery :=
  let reading := Reading.integer value.toNat
  match delivery.pipeline.providers[0]? with
  | none => delivery
  | some provider =>
    { delivery with
      pipeline := delivery.pipeline.record 0 handle instrument reading attributes
      measured := delivery.measured ++ provider.measures handle instrument reading
      uncollected := delivery.uncollected ++
        provider.stores delivery.pipeline.clock handle instrument reading attributes }

def work (delivery : Delivery) : Delivery :=
  let pipeline := delivery.pipeline.stepWorker 0
  match delivery.pipeline.collection? 0 with
  | none => { delivery with pipeline }
  | some batch? =>
    { delivery with
      pipeline
      collected := delivery.collected ++ delivery.uncollected
      uncollected := []
      batches := delivery.batches ++ batch?.toList }

/-- Lets one event happen; nothing comes of a meter or a counter that has not been made. -/
def step (delivery : Delivery) : DeliveryEvent → Delivery
  | .tick clock => { delivery with pipeline := delivery.pipeline.setClock clock }
  | .pass nanos =>
    { delivery with
      pipeline := { delivery.pipeline with time := delivery.pipeline.time + nanos } }
  | .request scope named => delivery.request scope named
  | .create meter config cells =>
    match delivery.meters[meter]? with
    | none => delivery
    | some handle => delivery.create handle config cells
  | .record counter value attributes =>
    match delivery.counters[counter]? with
    | none => delivery
    | some (handle, instrument) => delivery.record handle instrument value attributes
  | .tell call => { delivery with pipeline := (delivery.pipeline.tell 0 call).1 }
  | .ask .flush => { delivery with pipeline := (delivery.pipeline.flushReader 0).1 }
  | .ask .shutdown => { delivery with pipeline := (delivery.pipeline.shutdownReader 0).1 }
  | .complete code outcome =>
    { delivery with pipeline := delivery.pipeline.complete code outcome }
  | .work => delivery.work

def run (delivery : Delivery) (events : List DeliveryEvent) : Delivery :=
  events.foldl step delivery

end Delivery

/-- Whether an exporter has been handed just these batches. One that writes them to the log keeps
none. -/
structure Exporter.Holds (exporter : Exporter) (batches : List Report) : Prop where
  exports : exporter.exports = batches.length
  reports : exporter.kind ≠ .logging → exporter.reports = batches

namespace Exporter.Holds

variable {exporter : Exporter} {batches : List Report} (holds : exporter.Holds batches)

include holds

theorem accept (report : Report) : (exporter.accept report).1.Holds (batches ++ [report]) := by
  have counted : (exporter.accept report).1.exports = (batches ++ [report]).length := by
    rw [List.length_append, ← holds.exports]
    unfold Exporter.accept
    dsimp only
    split
    next => rfl
    next => split <;> rfl
    next => rfl
  refine ⟨counted, ?_⟩
  unfold Exporter.accept
  dsimp only
  split
  next kind => exact fun _ => congrArg (· ++ [report]) (holds.reports (kind ▸ nofun))
  next kind => split <;> exact fun keeps => absurd kind keeps
  next kind => exact fun _ => congrArg (· ++ [report]) (holds.reports (kind ▸ nofun))

theorem ask (message : Message) : (exporter.ask message).1.Holds batches := by
  unfold Exporter.ask
  split <;> exact ⟨holds.exports, holds.reports⟩

end Exporter.Holds

namespace Pipeline

section Move

variable {before after : Pipeline} {reader : Reader} {worker later : Worker}
  {target changed : Exporter} {batches : List Report}

theorem Concludes.holds {codes final : Codes} {time : Nat} {job : Job}
    {exported : Except Failure Unit}
    (concludes : Concludes codes time worker job exported target changed final later)
    (holds : target.Holds batches) : changed.Holds batches := by
  cases concludes with
  | rested _ _ same => exact same ▸ holds
  | asked message _ asked => exact asked ▸ holds.ask message

/-- A thread that begins no job hands nothing over. -/
theorem Move.holds_of_idle (move : before.Move reader worker target changed after later)
    (idle : worker.begins? reader.handles = none) (holds : target.Holds batches) :
    changed.Holds batches := by
  cases move with
  | ended _ same => exact same ▸ holds
  | left _ _ _ same => exact same ▸ holds
  | handed job base begins => cases idle.symm.trans begins
  | skipped job base begins => cases idle.symm.trans begins
  | exported _ _ _ _ concludes => exact concludes.holds holds
  | closed _ _ _ _ same => exact same ▸ holds

/-- A thread that begins a job hands over what there is to export. -/
theorem Move.holds_of_begun (move : before.Move reader worker target changed after later)
    {begun : Job × Worker} (begins : worker.begins? reader.handles = some begun)
    (holds : target.Holds batches) :
    changed.Holds (batches ++ (before.gather? reader.lease).toOption.join.toList) := by
  rcases (move.begun begins).2 with ⟨report, gathers, same, _⟩ | ⟨exported, gathers, concludes⟩
  · rw [gathers, same]
    exact holds.accept report
  · have nothing : (exported.map fun _ => (none : Option Report)).toOption.join = none := by
      cases exported <;> rfl
    rw [gathers, nothing, Option.toList_none, List.append_nil]
    exact concludes.holds holds

end Move

end Pipeline

namespace Delivery

/-- What the provider's counters owe is what has been stored since the last collection, and all that
was stored before has been handed to the exporter. -/
structure Sound (temporality : TemporalityChoice) (delivery : Delivery) : Prop where
  calm : delivery.pipeline.cells = .empty
  owing : ∃ provider, delivery.pipeline.providers[0]? = some provider ∧
    provider.Owes temporality delivery.uncollected ∧
    ∀ counter ∈ delivery.counters, provider.HasCounters counter.1 counter.2
  reading : ∃ reader worker, delivery.pipeline.periodic? 0 = some (reader, 0, worker) ∧
    reader.lease = some ⟨0, 0⟩
  handing : ∃ target, delivery.pipeline.exporters[0]? = some target ∧
    target.Holds delivery.batches
  paid : ∀ scope key set, set.Canonical → Quantity.Meets
    (delivery.batches.flatMap (·.valuesOf scope key set.toList))
    (depositsAt scope key set delivery.collected)
  whole : (delivery.collected ++ delivery.uncollected).map
    (fun deposit => (deposit.1, deposit.2.1, deposit.2.2.value)) = delivery.measured

theorem sound_start (clock : UInt64) (kind : ExporterKind) (preference : TemporalityPreference)
    (temporality : TemporalityChoice) (reader : PeriodicConfig) (provider : ProviderConfig)
    (shielded : Bool) :
    Sound temporality (start clock kind preference temporality reader provider shielded) := by
  constructor
  case calm => rfl
  case owing =>
    exact ⟨_, rfl, Provider.owes_build provider clock 0 shielded, fun _ member => by cases member⟩
  case reading => exact ⟨_, _, rfl, rfl⟩
  case handing => exact ⟨_, rfl, rfl, fun _ => rfl⟩
  case paid => exact fun _ _ _ _ => .nil
  case whole => rfl

namespace Sound

variable {temporality : TemporalityChoice} {delivery : Delivery}
  (sound : Sound temporality delivery)

include sound

/-- The provider has gone on, and the exporter and the reader have not. -/
theorem amend {next : Pipeline} {provider : Provider} {owed : List Deposit}
    {counters : List (MeterHandle × Instrument)} {meters : List MeterHandle}
    {measured : List (ScopeIdentity × String × Quantity)}
    (amends : delivery.pipeline.Amends 0 provider next) (owes : provider.Owes temporality owed)
    (counts : ∀ counter ∈ counters, provider.HasCounters counter.1 counter.2)
    (whole : (delivery.collected ++ owed).map
      (fun deposit => (deposit.1, deposit.2.1, deposit.2.2.value)) = measured) :
    Sound temporality
      { delivery with pipeline := next, uncollected := owed, counters, meters, measured } where
  calm := amends.cells.trans sound.calm
  owing := ⟨provider, amends.found, owes, counts⟩
  reading := by
    obtain ⟨reader, worker, there, lease⟩ := sound.reading
    have same := Pipeline.periodic?_congr (congrArg (·[0]?) amends.readers)
    exact ⟨reader, worker, same.trans there, lease⟩
  handing := amends.exporters ▸ sound.handing
  paid := sound.paid
  whole := whole

/-- Calls, and codes that complete. -/
theorem call {next : Pipeline} (leaves : delivery.pipeline.Leaves next) :
    Sound temporality { delivery with pipeline := next } where
  calm := leaves.cells.trans sound.calm
  owing := by
    obtain ⟨provider, found, owes, counts⟩ := sound.owing
    obtain ⟨flag, there⟩ := leaves.providers 0 provider found
    exact ⟨_, there, ⟨owes.distinct, owes.readers, owes.held, owes.collector, owes.present,
      owes.absent⟩, counts⟩
  reading := by
    obtain ⟨reader, worker, found, lease⟩ := sound.reading
    obtain ⟨later, more, there, same, _⟩ := leaves.readers 0 reader 0 worker found
    exact ⟨later, _, there, same.trans lease⟩
  handing := by
    obtain ⟨target, found, holds⟩ := sound.handing
    obtain ⟨_, _, there⟩ := leaves.exporters 0 target found
    exact ⟨_, there, holds.exports, holds.reports⟩
  paid := sound.paid
  whole := sound.whole

theorem request (scope : Scope) (named : Bool) :
    Sound temporality (delivery.request scope named) := by
  obtain ⟨provider, found, owes, counts⟩ := sound.owing
  obtain ⟨handles, amends⟩ := Pipeline.amends_meter found scope named
  have owed := owes.request scope named
  have follows : provider.Follows
      (if named then provider.namedMeter scope else provider.meter scope).1 := by
    cases named with
    | true => exact provider.follows_meter _
    | false => exact provider.follows_meter scope
  exact sound.amend amends
    ⟨owed.distinct, owed.readers, owed.held, owed.collector, owed.present, owed.absent⟩
    (fun counter member => (counts counter member).follows follows) sound.whole

theorem create (handle : MeterHandle) (config : InstrumentConfig) (cells : List String) :
    Sound temporality (delivery.create handle config cells) := by
  obtain ⟨provider, found, owes, counts⟩ := sound.owing
  have follows := provider.follows_instrument handle config cells
  have made : (delivery.pipeline.instrument 0 handle config cells).2 =
      (provider.instrument handle config cells).2.1 := by
    simp only [Pipeline.instrument, Pipeline.change, found]
  refine sound.amend (Pipeline.amends_instrument found handle config cells)
    (owes.instrument handle config cells) (fun counter member => ?_) sound.whole
  have listed : counter ∈ delivery.counters ++
      if config.kind = .counter ∧ config.number = .unsigned then
        [(handle, (delivery.pipeline.instrument 0 handle config cells).2)]
      else [] := member
  rw [made] at listed
  rcases List.mem_append.mp listed with old | new
  · exact (counts counter old).follows follows
  · split at new
    next words =>
      rw [List.mem_singleton.mp new]
      exact provider.hasCounters_instrument handle config cells words.1 words.2
    next => cases new

theorem record {handle : MeterHandle} {instrument : Instrument}
    (member : (handle, instrument) ∈ delivery.counters) (value : UInt64)
    (attributes : List Attribute) :
    Sound temporality (delivery.record handle instrument value attributes) := by
  obtain ⟨provider, found, owes, counts⟩ := sound.owing
  have has := counts _ member
  have follows := provider.follows_record delivery.pipeline.clock handle instrument
    (.integer value.toNat) attributes
  have stored := has.stores_map delivery.pipeline.clock (.integer value.toNat) attributes
  simp only [Delivery.record, found]
  refine sound.amend
    (Pipeline.amends_record found handle instrument (.integer value.toNat) attributes)
    (owes.record delivery.pipeline.clock has (.integer value.toNat) attributes)
    (fun counter listed => (counts counter listed).follows follows) ?_
  rw [← List.append_assoc, List.map_append, sound.whole, stored]

theorem work (delta : temporality .counter = .delta) : Sound temporality delivery.work := by
  obtain ⟨provider, found, owes, counts⟩ := sound.owing
  obtain ⟨reader, worker, periodic, lease⟩ := sound.reading
  obtain ⟨target, present, holds⟩ := sound.handing
  obtain ⟨there, kind⟩ := Pipeline.of_periodic? periodic
  obtain ⟨changed, later, spares, move⟩ := Pipeline.stepWorker_move there kind present
  have calm : (delivery.pipeline.stepWorker 0).cells = .empty := spares.cells.trans sound.calm
  have reading : ∃ reader worker,
      (delivery.pipeline.stepWorker 0).periodic? 0 = some (reader, 0, worker) ∧
        reader.lease = some ⟨0, 0⟩ :=
    ⟨_, later, spares.periodic? there kind,
      (congrArg Reader.lease (Reader.setWorker_eq kind later)).trans lease⟩
  have exporters : (delivery.pipeline.stepWorker 0).exporters[0]? = some changed := by
    rw [spares.exporters]
    exact List.getElem?_set_self (List.getElem?_eq_some_iff.mp present).1
  cases begins : worker.begins? reader.handles with
  | none =>
    have providers := move.providers_of_idle begins
    have holds := move.holds_of_idle begins holds
    have idle : delivery.pipeline.collection? 0 = none := by
      simp only [Pipeline.collection?, periodic, Option.bind_some, begins, Option.map_none]
    simp only [Delivery.work, idle]
    exact ⟨calm, providers ▸ sound.owing, reading, ⟨changed, exporters, holds⟩, sound.paid,
      sound.whole⟩
  | some begun =>
    have providers := (move.begun begins).1
    have holds := move.holds_of_begun begins holds
    have collects : delivery.pipeline.collection? 0 =
        some (delivery.pipeline.gather? reader.lease).toOption.join := by
      simp only [Pipeline.collection?, periodic, Option.bind_some, begins, Option.map_some]
    obtain ⟨report, answered, settled, shown⟩ := owes.collect delivery.pipeline.clock delta
    rw [← sound.calm] at answered settled
    have gathered := Pipeline.amends_produce found 0
    have follows := provider.follows_collect delivery.pipeline.cells delivery.pipeline.clock 0
    have produced : (delivery.pipeline.produce ⟨0, 0⟩).2 = .ok report := by
      simp only [Pipeline.produce, Pipeline.change, found, answered]
    simp only [Delivery.work, collects]
    refine ⟨calm, ⟨_, ?_, settled, fun counter member => (counts counter member).follows follows⟩,
      reading, ⟨changed, exporters, holds⟩, fun scope key set proper => ?_, ?_⟩
    · rw [providers, lease]
      exact gathered.found
    · rw [List.flatMap_append, lease, Pipeline.valuesOf_gather? produced, depositsAt_append]
      exact (sound.paid scope key set proper).append (shown scope key set proper)
    · rw [List.append_nil]
      exact sound.whole

theorem step (delta : temporality .counter = .delta) (event : DeliveryEvent) :
    Sound temporality (delivery.step event) := by
  cases event with
  | tick clock => exact sound.call (.of_eq rfl rfl rfl rfl (Nat.le_refl _))
  | pass nanos => exact sound.call (.of_eq rfl rfl rfl rfl (Nat.le_refl _))
  | request scope named => exact sound.request scope named
  | create meter config cells =>
    simp only [Delivery.step]
    split
    next => exact sound
    next handle _ => exact sound.create handle config cells
  | record counter value attributes =>
    simp only [Delivery.step]
    split
    next => exact sound
    next handle instrument there =>
      exact sound.record (List.mem_of_getElem? there) value attributes
  | tell call => exact sound.call (delivery.pipeline.called_tell 0 call).toLeaves
  | ask call =>
    cases call with
    | flush => exact sound.call (delivery.pipeline.called_flushReader 0).toLeaves
    | shutdown => exact sound.call (delivery.pipeline.called_shutdownReader 0).toLeaves
  | complete code outcome =>
    exact sound.call (.of_eq rfl rfl rfl rfl (Codes.length_le_drain _ _))
  | work => exact sound.work delta

theorem run (delta : temporality .counter = .delta) (events : List DeliveryEvent) :
    Sound temporality (delivery.run events) := by
  induction events generalizing delivery with
  | nil => exact sound
  | cons event rest ih => exact ih (sound.step delta event)

end Sound

/-- Whether the reader's thread has ended. -/
def HasEnded (delivery : Delivery) : Prop :=
  ∃ reader exporter worker, delivery.pipeline.periodic? 0 = some (reader, exporter, worker) ∧
    worker.phase = .ended

section HasEnded

variable {delivery : Delivery} (ended : delivery.HasEnded)

include ended

theorem HasEnded.of_leaves {next : Delivery}
    (leaves : delivery.pipeline.Leaves next.pipeline) : next.HasEnded := by
  obtain ⟨reader, exporter, worker, found, phase⟩ := ended
  obtain ⟨later, more, there, _, _⟩ := leaves.readers 0 reader exporter worker found
  exact ⟨later, exporter, _, there, phase⟩

theorem HasEnded.of_readers {next : Delivery}
    (readers : next.pipeline.readers = delivery.pipeline.readers) : next.HasEnded := by
  obtain ⟨reader, exporter, worker, found, phase⟩ := ended
  exact ⟨reader, exporter, worker,
    (Pipeline.periodic?_congr (by rw [readers])).trans found, phase⟩

/-- A thread that has ended collects no more. -/
theorem HasEnded.step (event : DeliveryEvent) : (delivery.step event).HasEnded ∧
    (delivery.step event).batches = delivery.batches ∧
      (delivery.step event).collected = delivery.collected := by
  cases event with
  | tick clock => exact ⟨ended, rfl, rfl⟩
  | pass nanos => exact ⟨ended, rfl, rfl⟩
  | request scope named =>
    have readers : (delivery.pipeline.meter 0 scope named).1.readers = delivery.pipeline.readers :=
      delivery.pipeline.readers_change 0 none _
    exact ⟨ended.of_readers readers, rfl, rfl⟩
  | create meter config cells =>
    simp only [Delivery.step]
    split
    next => exact ⟨ended, rfl, rfl⟩
    next handle _ =>
      have readers : (delivery.pipeline.instrument 0 handle config cells).1.readers =
          delivery.pipeline.readers := delivery.pipeline.readers_change 0 _ _
      exact ⟨ended.of_readers readers, rfl, rfl⟩
  | record counter value attributes =>
    simp only [Delivery.step, Delivery.record]
    split
    next => exact ⟨ended, rfl, rfl⟩
    next handle instrument _ =>
      split
      next => exact ⟨ended, rfl, rfl⟩
      next =>
        have readers : (delivery.pipeline.record 0 handle instrument (.integer value.toNat)
            attributes).readers = delivery.pipeline.readers :=
          delivery.pipeline.readers_change 0 () _
        exact ⟨ended.of_readers readers, rfl, rfl⟩
  | tell call => exact ⟨ended.of_leaves (delivery.pipeline.called_tell 0 call).toLeaves, rfl, rfl⟩
  | ask call =>
    cases call with
    | flush => exact ⟨ended.of_leaves (delivery.pipeline.called_flushReader 0).toLeaves, rfl, rfl⟩
    | shutdown =>
      exact ⟨ended.of_leaves (delivery.pipeline.called_shutdownReader 0).toLeaves, rfl, rfl⟩
  | complete code outcome => exact ⟨ended, rfl, rfl⟩
  | work =>
    obtain ⟨reader, exporter, worker, found, phase⟩ := ended
    obtain ⟨there, kind⟩ := Pipeline.of_periodic? found
    have idle : delivery.pipeline.collection? 0 = none := by
      simp [Pipeline.collection?, found, Worker.begins?_eq_none, phase]
    have still : delivery.pipeline.stepWorker 0 = delivery.pipeline := by
      simp [Pipeline.stepWorker, there, kind, Pipeline.proceed, phase]
    simp only [Delivery.step, Delivery.work, idle, still]
    exact ⟨⟨reader, exporter, worker, found, phase⟩, trivial, trivial⟩

theorem HasEnded.run (events : List DeliveryEvent) :
    (delivery.run events).batches = delivery.batches ∧
      (delivery.run events).collected = delivery.collected := by
  induction events generalizing delivery with
  | nil => exact ⟨rfl, rfl⟩
  | cons event rest ih =>
    obtain ⟨still, batches, collected⟩ := ended.step event
    obtain ⟨same, alike⟩ := ih still
    exact ⟨same.trans batches, alike.trans collected⟩

end HasEnded

/-- Whether every measurement stored before the thread's last collection has been handed over once,
and none of those behind it. -/
structure DeliveredOnce (delivery : Delivery) : Prop where
  exact : ∀ scope key set, set.Canonical → Quantity.Meets
    (delivery.batches.flatMap (·.valuesOf scope key set.toList))
    (depositsAt scope key set delivery.collected)
  /-- The batches are those that the exporter has been handed. -/
  handed : ∃ target, delivery.pipeline.exporters[0]? = some target ∧
    target.Holds delivery.batches
  whole : (delivery.collected ++ delivery.uncollected).map
    (fun deposit => (deposit.1, deposit.2.1, deposit.2.2.value)) = delivery.measured
  /-- Once the thread has ended, its last collection stays the last one. -/
  final : delivery.HasEnded → ∀ events, (delivery.run events).batches = delivery.batches ∧
    (delivery.run events).collected = delivery.collected

/-- Whatever becomes of its exports, a periodic reader whose exporter asks for changes of counters
hands each measurement of a counter over exactly once: for each scope, stream and attribute set the
batches come to what was stored there before the last collection, modulo 2^64. -/
theorem delivered_once (clock : UInt64) (kind : ExporterKind)
    (preference : TemporalityPreference) (temporality : TemporalityChoice)
    (reader : PeriodicConfig) (provider : ProviderConfig) (shielded : Bool)
    (delta : temporality .counter = .delta) (events : List DeliveryEvent) :
    DeliveredOnce ((start clock kind preference temporality reader provider shielded).run
      events) := by
  have begun := sound_start clock kind preference temporality reader provider shielded
  have sound := begun.run delta events
  exact ⟨sound.paid, sound.handing, sound.whole, fun ended => ended.run⟩

/-- The exporter asks for changes of gauges too, but not of observable counters. The first export
fails without a reason, the second one does not complete in time, and a flush finds nothing to
export; what is measured behind the shutdown is not handed over. -/
theorem delivered_once_unanswered :
    let kind : ExporterKind :=
      .scripted [.code (.failed none), .code .pending] (.code .succeeded) (.code .succeeded)
    let temporality : TemporalityChoice := fun kind =>
      if kind = .counter ∨ kind = .gauge then .delta else .cumulative
    let events : List DeliveryEvent := [.request ⟨"test", none, none, []⟩ true,
      .create 0 ⟨.counter, .unsigned, "requests", none, none⟩ [], .record 0 5 [], .tell .flush,
      .work, .work, .record 0 7 [], .work, .pass 30000000000, .work, .tell .flush, .work,
      .record 0 2 [], .tell .shutdown, .work, .work, .record 0 9 []]
    let delivery :=
      (start 1 kind .cumulative temporality (.ofSettings none none) {} false).run events
    (∀ preference, temporality ≠ TemporalityPreference.temporality preference) ∧
      temporality .counter = .delta ∧ DeliveredOnce delivery ∧
      delivery.batches.map (fun batch => (batch.valuesOf ⟨"test", none, none⟩ "requests" []).map
        Quantity.toInt) = [[5], [7], [2]] ∧
      delivery.uncollected.map (fun deposit => deposit.2.2.value.toInt) = [9] := by
  intro kind temporality events delivery
  have once :=
    delivered_once 1 kind .cumulative temporality (.ofSettings none none) {} false rfl events
  refine ⟨fun preference same => ?_, rfl, once, by decide +kernel, by decide +kernel⟩
  have gauge := congrFun same .gauge
  have observed := congrFun same .observableCounter
  cases preference with
  | cumulative => cases gauge
  | delta => cases observed
  | lowMemory => cases gauge

end Delivery

end Metering
