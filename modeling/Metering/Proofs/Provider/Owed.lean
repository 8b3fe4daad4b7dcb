import Metering.Proofs.Meter.Owed
import Metering.Proofs.Provider.Isolation

/-!
What the counters of a provider owe its only reader. Requesting meters and creating instruments
leave that as it is, a measurement adds what it stores, and a collection settles everything: its
report shows for each scope, stream and attribute set what was owed there.
-/

namespace Metering

theorem Event.gather_idle {σ α : Type} {change : σ → α → σ × List Event}
    (idle : ∀ state item, change state item = (state, [])) (state : σ) (items : List α) :
    gather change state items = (state, []) := by
  induction items with
  | nil => rfl
  | cons item rest ih => simp only [gather, idle, ih, List.append_nil]

def ScopeReport.valuesOf (scope : ScopeIdentity) (key : String) (attributes : List Attribute)
    (part : ScopeReport) : List Quantity :=
  if part.scope.identity = scope then Metric.valuesOf key attributes part.metrics else []

/-- The values that a report shows for a stream of a scope and some attributes. -/
def Report.valuesOf (scope : ScopeIdentity) (key : String) (attributes : List Attribute)
    (report : Report) : List Quantity :=
  report.scopes.flatMap (ScopeReport.valuesOf scope key attributes)

/-- A measurement that a stream has stored, with the scope and the key of the stream. -/
abbrev Deposit := ScopeIdentity × String × Entry

/-- The values stored in a stream of a scope under an attribute set. -/
def depositsAt (scope : ScopeIdentity) (key : String) (set : AttributeSet)
    (deposits : List Deposit) : List Quantity :=
  valuesUnder set (Table.under key (Table.under scope deposits))

theorem depositsAt_append (scope : ScopeIdentity) (key : String) (set : AttributeSet)
    (first second : List Deposit) :
    depositsAt scope key set (first ++ second) =
      depositsAt scope key set first ++ depositsAt scope key set second := by
  simp only [depositsAt, Table.under_append, valuesUnder, List.filter_append, List.map_append]

/-- What has been stored outside of some scopes. -/
def outside (scopes : List ScopeIdentity) (deposits : List Deposit) : List Deposit :=
  deposits.filter fun deposit => deposit.1 ∉ scopes

theorem outside_cons (scope : ScopeIdentity) (rest : List ScopeIdentity)
    (deposits : List Deposit) : outside rest (outside [scope] deposits) =
      outside (scope :: rest) deposits := by
  rw [outside, outside, List.filter_filter]
  congr 1
  funext deposit
  simp [Bool.and_comm]

theorem under_outside (scopes : List ScopeIdentity) (scope : ScopeIdentity)
    (deposits : List Deposit) : Table.under scope (outside scopes deposits) =
      if scope ∈ scopes then [] else Table.under scope deposits := by
  have under := Table.under_filter (fun other => decide (other ∉ scopes)) scope deposits
  by_cases member : scope ∈ scopes <;> simpa [outside, member] using under

namespace Provider

theorem runObservers_idle (provider : Provider) (time : UInt64) (scope : ScopeIdentity) :
    provider.runObservers time .empty scope = (provider, []) :=
  Event.gather_idle (fun _ _ => Event.gather_idle (fun _ _ => rfl) _ _) _ _

/-- Callbacks that do nothing leave a meter to be read. -/
theorem collectMeter_idle (provider : Provider) (position : Nat) (time : UInt64)
    (scope : ScopeIdentity) :
    provider.collectMeter .empty position time scope =
      ((provider.readMeter position time scope).1, (provider.readMeter position time scope).2,
        []) := by
  rw [collectMeter, runObservers_idle]

/-- The measurements that streams store if it is measured with an instrument. -/
def stores (provider : Provider) (now : UInt64) (handle : MeterHandle) (instrument : Instrument)
    (reading : Reading) (attributes : List Attribute) : List Deposit :=
  match handle.bind fun scope => (provider.meter? scope).map (scope, ·) with
  | none => []
  | some (scope, meter) =>
    (meter.stores now (instrument.number.quantity reading) attributes instrument.streams).map
      (Prod.mk scope)

/-- The measurements that are made with an instrument: one for each time that it lists a stream. -/
def measures (provider : Provider) (handle : MeterHandle) (instrument : Instrument)
    (reading : Reading) : List (ScopeIdentity × String × Quantity) :=
  match handle.bind fun scope => (provider.meter? scope).map (scope, ·) with
  | none => []
  | some (scope, _) =>
    instrument.streams.map fun key => (scope, key, instrument.number.quantity reading)

/-- What the streams of a provider owe its only reader. -/
structure Owes (temporality : TemporalityChoice) (provider : Provider) (owed : List Deposit) :
    Prop where
  distinct : provider.registry.components.Distinct
  readers : provider.shared.readers = [temporality]
  held : provider.isDropped = false
  collector : ∃ since, provider.collector? 0 = some ⟨0, temporality, since⟩
  present : ∀ scope meter, provider.meter? scope = some meter →
    meter.Owes temporality scope (Table.under scope owed)
  absent : ∀ scope, provider.meter? scope = none → Table.under scope owed = []

variable {temporality : TemporalityChoice}

theorem owes_build (config : ProviderConfig) (now : UInt64) (reader : Nat) (shielded : Bool) :
    (build config now [(reader, temporality, shielded)]).Owes temporality [] :=
  ⟨Table.distinct_empty, rfl, rfl, ⟨now, rfl⟩, nofun, fun _ _ => rfl⟩

/-- Whether an instrument measures words into counters of a meter, if it does anything at all. -/
def HasCounters (provider : Provider) (handle : MeterHandle) (instrument : Instrument) : Prop :=
  instrument.number = .unsigned ∧ (instrument.streams = [] ∨ ∃ scope meter,
    handle = some scope ∧ provider.meter? scope = some meter ∧
      meter.HasCounters instrument.streams)

theorem HasCounters.follows {provider next : Provider} {handle : MeterHandle}
    {instrument : Instrument} (counts : provider.HasCounters handle instrument)
    (follows : provider.Follows next) : next.HasCounters handle instrument := by
  refine ⟨counts.1, counts.2.imp_right ?_⟩
  rintro ⟨scope, meter, same, found, has⟩
  obtain ⟨later, there, after⟩ := follows scope meter found
  exact ⟨scope, later, same, there, has.follows after⟩

theorem hasCounters_instrument (provider : Provider) (handle : MeterHandle)
    (config : InstrumentConfig) (cells : List String) (counter : config.kind = .counter)
    (unsigned : config.number = .unsigned) :
    (provider.instrument handle config cells).1.HasCounters handle
      (provider.instrument handle config cells).2.1 := by
  unfold Provider.instrument
  split
  next => exact ⟨unsigned, .inl rfl⟩
  next scope meter found =>
    refine ⟨(meter.number_instrument provider.shared config cells).trans unsigned,
      .inr ⟨scope, _, (of_found found).1, (Table.get?_insert _ _ _ _).trans (if_pos rfl), ?_⟩⟩
    exact meter.hasCounters_instrument provider.shared config cells counter

/-- The streams that an instrument of a meter lists are counters of this meter. -/
theorem HasCounters.meter {provider : Provider} {handle : MeterHandle} {instrument : Instrument}
    (counts : provider.HasCounters handle instrument) {scope : ScopeIdentity} {meter : Meter}
    (same : handle = some scope) (there : provider.meter? scope = some meter) :
    meter.HasCounters instrument.streams := by
  rcases counts.2 with ignoring | ⟨other, holder, also, present, has⟩
  · rw [ignoring]
    exact nofun
  · cases same.symm.trans also
    cases there.symm.trans present
    exact has

/-- All measurements are stored. -/
theorem HasCounters.stores_map {provider : Provider} {handle : MeterHandle}
    {instrument : Instrument} (counts : provider.HasCounters handle instrument) (now : UInt64)
    (reading : Reading) (attributes : List Attribute) :
    (provider.stores now handle instrument reading attributes).map
        (fun deposit => (deposit.1, deposit.2.1, deposit.2.2.value)) =
      provider.measures handle instrument reading := by
  unfold stores measures
  cases found : handle.bind fun scope => (provider.meter? scope).map (scope, ·) with
  | none => rfl
  | some pair =>
    obtain ⟨scope, meter⟩ := pair
    obtain ⟨same, there⟩ := of_found found
    have measured : (instrument.number.quantity reading).HasType .unsigned :=
      counts.1 ▸ Quantity.hasType_reading reading
    have stored := Meter.stores_map now measured attributes (counts.meter same there)
    have placed := congrArg (List.map (Prod.mk scope)) stored
    rw [List.map_map, List.map_map] at placed
    exact (List.map_map ..).trans placed

namespace Owes

variable {provider : Provider} {owed : List Deposit} (owes : provider.Owes temporality owed)

include owes

theorem congr {due : List Deposit}
    (same : ∀ scope, Table.under scope due = Table.under scope owed) :
    provider.Owes temporality due :=
  ⟨owes.distinct, owes.readers, owes.held, owes.collector,
    fun scope meter found => same scope ▸ owes.present scope meter found,
    fun scope none => (same scope).trans (owes.absent scope none)⟩

/-- A meter has changed, and with it what is owed in its scope. -/
theorem setMeter {scope : ScopeIdentity} {meter : Meter} {due : List Deposit}
    (here : meter.Owes temporality scope (Table.under scope due))
    (others : ∀ other ≠ scope, Table.under other due = Table.under other owed) :
    (provider.setMeter scope meter).Owes temporality due := by
  have found : ∀ other, (provider.setMeter scope meter).meter? other =
      if other = scope then some meter else provider.meter? other :=
    fun other => Table.get?_insert _ _ _ _
  refine ⟨owes.distinct.insert _ _, owes.readers, owes.held, owes.collector, ?_, ?_⟩
  · intro other later there
    rw [found] at there
    split at there
    next same =>
      subst same
      exact Option.some.inj there ▸ here
    next apart =>
      rw [others other apart]
      exact owes.present other later there
  · intro other there
    rw [found] at there
    split at there
    next => cases there
    next apart => exact (others other apart).trans (owes.absent other there)

theorem meter (scope : Scope) : (provider.meter scope).1.Owes temporality owed := by
  rcases provider.meter_cases scope with same | ⟨absent, next⟩
  · exact same.symm ▸ owes
  · rw [next]
    refine owes.setMeter ?_ fun _ _ => rfl
    rw [owes.absent _ absent]
    exact Meter.owes_create _

theorem request (scope : Scope) (named : Bool) :
    (if named then provider.namedMeter scope else provider.meter scope).1.Owes temporality
      owed := by
  cases named with
  | true => exact owes.meter _
  | false => exact owes.meter scope

theorem instrument (handle : MeterHandle) (config : InstrumentConfig) (cells : List String) :
    (provider.instrument handle config cells).1.Owes temporality owed := by
  unfold Provider.instrument
  split
  next => exact owes
  next scope meter found =>
    have here := owes.present scope meter (of_found found).2
    exact owes.setMeter (here.instrument provider.shared owes.readers config cells) fun _ _ => rfl

/-- A measurement is owed from then on wherever it has been stored. -/
theorem record (now : UInt64) {handle : MeterHandle} {instrument : Instrument}
    (counts : provider.HasCounters handle instrument) (reading : Reading)
    (attributes : List Attribute) :
    (provider.record now handle instrument reading attributes).1.Owes temporality
      (owed ++ provider.stores now handle instrument reading attributes) := by
  unfold Provider.record stores
  cases found : handle.bind fun scope => (provider.meter? scope).map (scope, ·) with
  | none => exact (List.append_nil owed).symm ▸ owes
  | some pair =>
    obtain ⟨scope, meter⟩ := pair
    obtain ⟨same, there⟩ := of_found found
    have here := owes.present scope meter there
    refine owes.setMeter ?_ fun other apart => ?_
    · rw [Table.under_append, Table.under_pair, if_pos rfl]
      exact here.record now counts.1 (counts.meter same there) reading attributes
    · rw [Table.under_append, Table.under_pair, if_neg (Ne.symm apart), List.append_nil]

section Collect

variable (time : UInt64)

/-- Reading a meter settles what is owed in its scope. -/
theorem readMeter (scope : ScopeIdentity) :
    (provider.readMeter 0 time scope).1.Owes temporality (outside [scope] owed) := by
  obtain ⟨since, collector⟩ := owes.collector
  have under : ∀ other, Table.under other (outside [scope] owed) =
      if other = scope then [] else Table.under other owed := fun other => by
    simpa only [List.mem_singleton] using under_outside [scope] other owed
  unfold Provider.readMeter
  rw [collector]
  cases found : provider.meter? scope with
  | none =>
    refine owes.congr fun other => ?_
    rw [under]
    split
    next same => exact (owes.absent other (same ▸ found)).symm
    next => rfl
  | some meter =>
    refine owes.setMeter ?_ fun other apart => (under other).trans (if_neg apart)
    rw [under, if_pos rfl]
    exact (owes.present scope meter found).read since time

/-- The report of a meter shows what was owed in its scope. -/
theorem readMeter_meets (delta : temporality .counter = .delta) (scope other : ScopeIdentity)
    (key : String) (set : AttributeSet) (proper : set.Canonical) :
    Quantity.Meets
      ((provider.readMeter 0 time scope).2.toList.flatMap (·.valuesOf other key set.toList))
      (if other = scope then depositsAt scope key set owed else []) := by
  obtain ⟨since, collector⟩ := owes.collector
  unfold Provider.readMeter
  rw [collector]
  cases found : provider.meter? scope with
  | none =>
    have nothing : depositsAt scope key set owed = [] := by
      rw [depositsAt, owes.absent scope found]
      rfl
    rw [nothing, ite_self]
    exact .nil
  | some meter =>
    have here := owes.present scope meter found
    have shown := here.collected since time delta key set proper
    have answered : ((if (meter.read ⟨0, temporality, since⟩ time).2.isEmpty then none
          else some { scope := meter.scope, metrics := (meter.read ⟨0, temporality, since⟩ time).2 :
            ScopeReport }).toList.flatMap (·.valuesOf other key set.toList)) =
        if other = scope then
          Metric.valuesOf key set.toList (meter.read ⟨0, temporality, since⟩ time).2
        else [] := by
      cases empty : (meter.read ⟨0, temporality, since⟩ time).2 with
      | nil => simp [Metric.valuesOf]
      | cons metric rest =>
        simp [ScopeReport.valuesOf, here.identity, eq_comm]
    dsimp only
    rw [answered]
    split
    next => exact shown
    next => exact .nil

theorem collectMeters (delta : temporality .counter = .delta) {scopes : List ScopeIdentity}
    (once : scopes.Nodup) :
    (Provider.collectMeters .empty 0 time provider scopes).1.Owes temporality
        (outside scopes owed) ∧
      ∀ scope key set, set.Canonical → Quantity.Meets
        ((Provider.collectMeters .empty 0 time provider scopes).2.1.flatMap
          (·.valuesOf scope key set.toList))
        (if scope ∈ scopes then depositsAt scope key set owed else []) := by
  induction scopes generalizing provider owed with
  | nil =>
    exact ⟨owes.congr fun scope => under_outside [] scope owed, fun _ _ _ _ => .nil⟩
  | cons scope rest ih =>
    rw [List.nodup_cons] at once
    obtain ⟨later, shown⟩ := ih (owes.readMeter time scope) once.2
    rw [outside_cons] at later
    simp only [Provider.collectMeters, provider.collectMeter_idle 0 time scope]
    refine ⟨later, fun other key set proper => ?_⟩
    have first := owes.readMeter_meets time delta scope other key set proper
    have after := shown other key set proper
    rw [List.flatMap_append]
    by_cases same : other = scope
    · subst same
      rw [if_pos rfl] at first
      rw [if_neg once.1] at after
      rw [if_pos List.mem_cons_self, ← List.append_nil (depositsAt other key set owed)]
      exact first.append after
    · rw [depositsAt, under_outside, if_neg (mt List.mem_singleton.mp same)] at after
      rw [if_neg same] at first
      simpa only [List.mem_cons, same, false_or, List.nil_append, depositsAt]
        using first.append after

theorem finish : (provider.finish 0 time).Owes temporality owed := by
  obtain ⟨since, collector⟩ := owes.collector
  refine ⟨owes.distinct, owes.readers, owes.held, ⟨max since time, ?_⟩, owes.present,
    owes.absent⟩
  rw [collector_finish, collector, Option.map_some, if_pos rfl]

/-- A collection settles everything, and its report shows what was owed. -/
theorem collect (delta : temporality .counter = .delta) :
    ∃ report, (provider.collect .empty time 0).2.1 = .ok report ∧
      (provider.collect .empty time 0).1.Owes temporality [] ∧
      ∀ scope key set, set.Canonical →
        Quantity.Meets (report.valuesOf scope key set.toList) (depositsAt scope key set owed) := by
  obtain ⟨since, collector⟩ := owes.collector
  obtain ⟨later, shown⟩ := owes.collectMeters time delta owes.distinct
  have absent : ∀ scope ∉ provider.registry.components.keys, Table.under scope owed = [] := by
    intro scope outside
    rw [Table.mem_keys_iff, Option.not_isSome_iff_eq_none] at outside
    exact owes.absent scope outside
  unfold Provider.collect
  rw [owes.held, collector]
  refine ⟨_, rfl, ?_, fun scope key set proper => ?_⟩
  · refine (later.finish time).congr fun scope => ?_
    rw [under_outside]
    split
    next => rfl
    next outside => exact (absent scope outside).symm
  · have values := shown scope key set proper
    split at values
    next => exact values
    next outside =>
      rw [depositsAt, absent scope outside]
      exact values

end Collect

end Owes

end Provider

end Metering
