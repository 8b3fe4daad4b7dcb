import Metering.Proofs.Stream.Reports

/-!
Running totals. A stream with a reader that asks for them drops nothing before it is reset, so a
series is what was stored under its set since then, and a reader of changes that is up to date was
given changes that come to the same.
-/

namespace Metering

/-- Whether an operation is a collection. -/
def Operation.isCollect : Operation → Bool
  | .collect _ _ _ => true
  | _ => false

theorem Operation.hasType_of_isCollect {number : NumberType} {operation : Operation}
    (quiet : operation.isCollect = true) : operation.HasType number := by
  cases operation with
  | record => cases quiet
  | collect => trivial
  | reset => cases quiet

/-- The last measurement stored under a set. -/
def latest (set : AttributeSet) (entries : List Entry) : Option Exemplar :=
  (entries.filter fun entry => entry.set = set).getLast?.map fun entry => ⟨entry.time, entry.value⟩

theorem latest_append (set : AttributeSet) (entries : List Entry) (entry : Entry) :
    latest set (entries ++ [entry]) =
      if entry.set = set then some ⟨entry.time, entry.value⟩ else latest set entries := by
  by_cases same : entry.set = set <;> simp [latest, same]

theorem InstrumentKind.aggregate_append (kind : InstrumentKind) (number : NumberType)
    (integer : number.isInteger) (values : List Quantity) (value : Quantity)
    (typed : value.HasType number) :
    kind.aggregate number (values ++ [value]) =
      if kind.isPrecomputed then value else kind.aggregate number values + value := by
  unfold aggregate
  split
  next => rw [List.getLast?_concat, Option.getD_some]
  next => exact Quantity.sum_append integer values value typed

namespace Stream

/-- Whether the reader at a position knows the current value of every series. -/
def UpToDate (stream : Stream) (position : Nat) : Prop :=
  ∀ set accumulation, stream.live set = some accumulation →
    accumulation.isKnown (stream.last position set) = true

theorem evicting_create (definition : StreamDefinition) (filter : ExemplarFilter)
    (start : UInt64) (readers : List TemporalityChoice) (position : Nat)
    (temporality : TemporalityChoice) (reader : readers[position]? = some temporality)
    (cumulative : temporality definition.kind = .cumulative) :
    (create definition filter start readers).evicting = false := by
  have some_total : (readers.all fun temporality =>
      decide (temporality definition.kind = .delta)) = false := by
    rw [List.all_eq_false]
    refine ⟨temporality, List.mem_of_getElem? reader, ?_⟩
    simp [cumulative]
  simp only [create, some_total, Bool.and_false]

section Collect

variable {stream : Stream} (coherent : stream.Coherent) (collector : Collector) (time : UInt64)
include coherent

/-- Each point that a collection answers is that of a series. -/
theorem live_of_mem_pointsFor (point : DataPoint)
    (member : point ∈ stream.pointsFor collector time) :
    ∃ set, (stream.live set).isSome ∧ point.attributes = set.toList := by
  have present : ∀ set accumulation,
      (set, accumulation) ∈ stream.series.accumulations.entries → (stream.live set).isSome := by
    intro set accumulation entry
    rw [live, (Table.get?_eq_some_iff _ coherent.distinct set accumulation).mpr entry]
    rfl
  rw [pointsFor_eq, points] at member
  cases asked : collector.temporality stream.definition.kind with
  | cumulative =>
    simp only [asked] at member
    obtain ⟨⟨set, accumulation⟩, entry, rfl⟩ := List.mem_map.mp member
    exact ⟨set, present set accumulation entry, rfl⟩
  | delta =>
    simp only [asked] at member
    cases found : stream.slots[collector.position]? with
    | none =>
      simp only [deltaPoints, found] at member
      cases member
    | some slot =>
      rw [stream.points_deltaPoints collector time slot found] at member
      obtain ⟨⟨set, accumulation⟩, entry, rfl⟩ := List.mem_map.mp member
      exact ⟨set, present set accumulation (List.mem_filter.mp entry).1, rfl⟩

/-- A collection leaves every series as it was if nothing is ever dropped, but for its
acknowledgements. -/
theorem live_collect (permanent : stream.evicting = false)
    (bounded : collector.position < stream.slots.length) (set : AttributeSet) :
    ∃ count, (stream.collect collector time).1.live set =
      (stream.live set).map fun accumulation => { accumulation with acks := count } := by
  cases asked : collector.temporality stream.definition.kind with
  | cumulative =>
    rw [stream.collect_cumulative collector time asked]
    cases stream.live set with
    | none => exact ⟨0, rfl⟩
    | some accumulation => exact ⟨accumulation.acks, rfl⟩
  | delta =>
    cases stream.visited_collect coherent collector time asked bounded set with
    | absent before after _ =>
      rw [before, after]
      exact ⟨0, rfl⟩
    | quiet accumulation before _ _ after _ =>
      rw [before, after]
      exact ⟨accumulation.acks, rfl⟩
    | lapsed accumulation _ _ due _ _ =>
      simp [lapses, permanent] at due
    | reported accumulation before _ _ after _ =>
      rw [before, after]
      exact ⟨accumulation.acks + 1, rfl⟩
    | settled accumulation _ _ due _ _ =>
      simp [settles, permanent] at due

/-- A reader of changes is up to date once it has collected. -/
theorem upToDate_collect (delta : collector.temporality stream.definition.kind = .delta)
    (bounded : collector.position < stream.slots.length) :
    (stream.collect collector time).1.UpToDate collector.position := by
  intro set left present
  have visited := stream.visited_collect coherent collector time delta bounded set
  obtain ⟨accumulation, _, ⟨known, same, memory⟩ | ⟨_, same, memory⟩⟩ := visited.of_live present
  · rw [same, memory]
    exact known
  · rw [same, memory]
    exact (Accumulation.isKnown_iff _ _).mpr ⟨_, rfl, rfl, rfl⟩

/-- Collections of other readers leave a reader up to date. -/
theorem UpToDate.collect {position : Nat} (current : stream.UpToDate position)
    (other : position ≠ collector.position)
    (bounded : collector.position < stream.slots.length) :
    (stream.collect collector time).1.UpToDate position := by
  intro set left present
  rw [stream.last_collect collector time position other]
  cases asked : collector.temporality stream.definition.kind with
  | cumulative =>
    rw [stream.collect_cumulative collector time asked] at present
    exact current set left present
  | delta =>
    have visited := stream.visited_collect coherent collector time asked bounded set
    obtain ⟨accumulation, _, before, rfl⟩ := visited.live_before present
    exact current set accumulation before

end Collect

end Stream

namespace Account

/-- Whether each series is all that was stored under its set, and every set that a reader was
given still has its series. -/
structure Whole (number : NumberType) (account : Account) : Prop where
  permanent : account.stream.evicting = false
  absent : ∀ set, account.stream.live set = none → valuesUnder set account.stored = []
  present : ∀ set accumulation, account.stream.live set = some accumulation →
    valuesUnder set account.stored ≠ [] ∧
      accumulation.value = account.stream.definition.kind.aggregate number
        (valuesUnder set account.stored) ∧
      accumulation.exemplar =
        if account.stream.filter.samples then latest set account.stored else none
  undropped : ∀ set, account.dropped set = []
  reported : ∀ position, ∀ point ∈ account.given position,
    ∃ set, (account.stream.live set).isSome ∧ point.attributes = set.toList

section Whole

variable {readers : List TemporalityChoice} {number : NumberType} {account : Account}

theorem whole_create (definition : StreamDefinition) (filter : ExemplarFilter)
    (start : UInt64) (readers : List TemporalityChoice) (position : Nat)
    (temporality : TemporalityChoice) (reader : readers[position]? = some temporality)
    (cumulative : temporality definition.kind = .cumulative) :
    (create definition filter start readers).Whole number :=
  ⟨Stream.evicting_create definition filter start readers position temporality reader cumulative,
    fun _ _ => rfl, nofun, fun _ => rfl, nofun⟩

/-- The series that takes a measurement is all that was stored before under its set. -/
theorem Whole.found (whole : account.Whole number) (integer : number.isInteger)
    (set : AttributeSet) (value : Quantity) (measured : value.HasType number) :
    let found := (account.stream.live set).getD (account.stream.fresh value)
    found.value = account.stream.definition.kind.aggregate number
        (valuesUnder set account.stored) ∧
      found.exemplar =
        if account.stream.filter.samples then latest set account.stored else none := by
  cases present : account.stream.live set with
  | some accumulation => exact (whole.present set accumulation present).2
  | none =>
    have nothing := whole.absent set present
    have unseen : latest set account.stored = none := by
      rw [valuesUnder, List.map_eq_nil_iff] at nothing
      rw [latest, nothing]
      rfl
    rw [nothing, unseen, ite_self]
    refine ⟨?_, rfl⟩
    change value.zero = _
    rw [Quantity.zero_eq integer value measured, InstrumentKind.aggregate]
    split <;> rfl

theorem Whole.record (whole : account.Whole number) (integer : number.isInteger) (now : UInt64)
    (value : Quantity) (measured : value.HasType number) (attributes : List Attribute) :
    (account.record now value attributes).Whole number := by
  cases placed : account.stream.place? value attributes with
  | none =>
    rw [account.record_refused now value attributes placed]
    exact whole
  | some key =>
    have live := account.stream.live_record now value attributes key placed
    have terms := account.stream.sameTerms_record now value attributes key placed
    have stored := account.stored_record now value attributes key placed
    rw [← account.stream_record now value attributes] at live terms
    constructor
    case permanent => exact terms.evicting.trans whole.permanent
    case absent =>
      intro set nothing
      rw [live] at nothing
      split at nothing
      next => cases nothing
      next other =>
        rw [stored, valuesUnder_append, if_neg (Ne.symm other)]
        exact whole.absent set nothing
    case present =>
      intro set accumulation present
      rw [stored, terms.definition, terms.filter, valuesUnder_append, latest_append]
      rw [live] at present
      split at present
      next same =>
        subst same
        have before := whole.found integer set value measured
        rw [if_pos rfl, if_pos rfl, ← Option.some.inj present,
          InstrumentKind.aggregate_append _ _ integer _ value measured, ← before.1]
        refine ⟨List.append_ne_nil_of_right_ne_nil _ (List.cons_ne_nil _ _), rfl, ?_⟩
        simp only [Accumulation.take, Stream.exemplar?, before.2]
        split <;> rfl
      next other =>
        rw [if_neg (Ne.symm other), if_neg (Ne.symm other)]
        exact whole.present set accumulation present
    case undropped =>
      rw [dropped_record]
      exact whole.undropped
    case reported =>
      intro position point member
      rw [given_record] at member
      obtain ⟨set, present, same⟩ := whole.reported position point member
      refine ⟨set, ?_, same⟩
      rw [live]
      split
      next => rfl
      next => exact present

theorem Whole.collect (whole : account.Whole number) (coherent : account.stream.Coherent)
    (collector : Collector) (bounded : collector.position < account.stream.slots.length)
    (time : UInt64) : (account.collect collector time).Whole number := by
  have live := Stream.live_collect coherent collector time whole.permanent bounded
  have terms := account.stream.sameTerms_collect collector time
  have stays : ∀ set, (account.stream.live set).isSome →
      ((account.stream.collect collector time).1.live set).isSome := by
    intro set present
    obtain ⟨count, after⟩ := live set
    rw [after, Option.isSome_map]
    exact present
  rw [← stream_collect] at stays
  constructor
  case permanent => exact terms.evicting.trans whole.permanent
  case absent =>
    intro set nothing
    obtain ⟨count, after⟩ := live set
    rw [stream_collect, after, Option.map_eq_none_iff] at nothing
    exact whole.absent set nothing
  case present =>
    intro set left present
    obtain ⟨count, after⟩ := live set
    rw [stream_collect, after] at present
    obtain ⟨accumulation, before, rfl⟩ := Option.map_eq_some_iff.mp present
    rw [stored_collect, stream_collect, terms.definition, terms.filter]
    exact whole.present set accumulation before
  case undropped =>
    intro set
    have gone : account.stream.droppedAt (account.stream.collect collector time).1 set = none := by
      unfold Stream.droppedAt
      split
      next => rfl
      next nothing =>
        rw [Option.map_eq_none_iff]
        exact Option.not_isSome_iff_eq_none.mp fun present => nothing (stays set present)
    rw [dropped_collect, gone, whole.undropped set]
    rfl
  case reported =>
    intro position point member
    have earlier : point ∈ account.given position ∨
        point ∈ account.stream.pointsFor collector time := by
      rw [given_collect] at member
      split at member
      next => exact List.mem_append.mp member
      next => exact .inl member
    rcases earlier with before | new
    · obtain ⟨set, present, same⟩ := whole.reported position point before
      exact ⟨set, stays set present, same⟩
    · obtain ⟨set, present, same⟩ := Stream.live_of_mem_pointsFor coherent collector time point new
      exact ⟨set, stays set present, same⟩

theorem Whole.reset (whole : account.Whole number) :
    Whole number { stream := account.stream.reset } :=
  ⟨account.stream.sameTerms_reset.evicting.trans whole.permanent, fun _ _ => rfl, nofun,
    fun _ => rfl, nofun⟩

theorem Whole.step (whole : account.Whole number) (accurate : account.Accurate readers number)
    (integer : number.isInteger) (operation : Operation) (measured : operation.HasType number) :
    (account.step readers operation).Whole number := by
  cases operation with
  | record now value attributes => exact whole.record integer now value measured attributes
  | collect position since time =>
    simp only [Account.step]
    split
    next => exact whole
    next temporality reader =>
      have bounded : position < account.stream.slots.length := by
        rw [accurate.slots]
        exact (List.getElem?_eq_some_iff.mp reader).1
      exact whole.collect accurate.coherent ⟨position, temporality, since⟩ bounded time
  | reset => exact whole.reset

theorem Whole.run (whole : account.Whole number) (accurate : account.Accurate readers number)
    (integer : number.isInteger) (operations : List Operation)
    (measured : ∀ operation ∈ operations, operation.HasType number) :
    (account.run readers operations).Whole number := by
  induction operations generalizing account with
  | nil => exact whole
  | cons operation rest ih =>
    have here := measured _ List.mem_cons_self
    exact ih (whole.step accurate integer operation here)
      (accurate.step integer operation here)
      fun later member => measured later (List.mem_cons_of_mem _ member)

theorem Whole.mem_stored_iff (whole : account.Whole number) (set : AttributeSet) :
    (account.stream.live set).isSome ↔ valuesUnder set account.stored ≠ [] := by
  cases found : account.stream.live set with
  | none => simp [whole.absent set found]
  | some accumulation => simp [(whole.present set accumulation found).1]

/-- A collection of running totals answers what was stored. -/
theorem Whole.pointsFor (whole : account.Whole number) (coherent : account.stream.Coherent)
    (collector : Collector) (time : UInt64)
    (cumulative : collector.temporality account.stream.definition.kind = .cumulative) :
    ∃ sets : List AttributeSet, (sets.map (·.toList)).Nodup ∧
      (∀ set, set ∈ sets ↔ valuesUnder set account.stored ≠ []) ∧
      account.stream.pointsFor collector time = sets.map fun set =>
        { attributes := set.toList, start := account.stream.start, time
          value := account.stream.definition.kind.aggregate number
            (valuesUnder set account.stored)
          exemplars :=
            if account.stream.filter.samples then (latest set account.stored).toList else [] } := by
  have found : ∀ set accumulation, account.stream.live set = some accumulation ↔
      (set, accumulation) ∈ account.stream.series.accumulations.entries := fun set accumulation =>
    Table.get?_eq_some_iff _ coherent.distinct set accumulation
  refine ⟨account.stream.series.accumulations.entries.map (·.1),
    coherent.nodup_attributes _ (List.Sublist.refl _), ?_, ?_⟩
  · intro set
    rw [← whole.mem_stored_iff, Option.isSome_iff_exists]
    constructor
    · intro member
      obtain ⟨⟨_, accumulation⟩, entry, rfl⟩ := List.mem_map.mp member
      exact ⟨accumulation, (found _ _).mpr entry⟩
    · rintro ⟨accumulation, present⟩
      exact List.mem_map.mpr ⟨_, (found set accumulation).mp present, rfl⟩
  · rw [Stream.pointsFor_eq, Stream.points]
    simp only [cumulative, Stream.cumulativePoints, List.map_map]
    apply List.map_congr_left
    rintro ⟨set, accumulation⟩ entry
    obtain ⟨_, value, exemplar⟩ := whole.present set accumulation ((found _ _).mpr entry)
    simp only [Function.comp_apply, Stream.point, value, exemplar]
    split <;> rfl

end Whole

section Quiet

variable {readers : List TemporalityChoice} {number : NumberType} {account : Account}

/-- Collections store nothing. -/
theorem stored_run (account : Account) (operations : List Operation)
    (quiet : ∀ operation ∈ operations, operation.isCollect = true) :
    (account.run readers operations).stored = account.stored := by
  induction operations generalizing account with
  | nil => rfl
  | cons operation rest ih =>
    have here : (account.step readers operation).stored = account.stored := by
      cases operation with
      | record => cases quiet _ List.mem_cons_self
      | collect position since time =>
        simp only [step]
        split <;> rfl
      | reset => cases quiet _ List.mem_cons_self
    exact (ih _ fun later member => quiet later (List.mem_cons_of_mem _ member)).trans here

/-- Further collections, its own or those of others, leave a reader up to date. -/
theorem upToDate_step (accurate : account.Accurate readers number) (position : Nat)
    (asks : AsksForDelta readers account.stream.definition.kind position)
    (current : account.stream.UpToDate position) (operation : Operation)
    (quiet : operation.isCollect = true) :
    (account.step readers operation).stream.UpToDate position := by
  cases operation with
  | record => cases quiet
  | collect other since time =>
    simp only [step]
    split
    next => exact current
    next temporality reader =>
      have bounded : other < account.stream.slots.length := by
        rw [accurate.slots]
        exact (List.getElem?_eq_some_iff.mp reader).1
      by_cases mine : position = other
      · subst mine
        obtain ⟨choice, found, delta⟩ := asks
        rw [reader] at found
        cases found
        exact Stream.upToDate_collect accurate.coherent ⟨position, temporality, since⟩ time delta
          bounded
      · exact Stream.UpToDate.collect accurate.coherent ⟨other, temporality, since⟩ time current
          mine bounded
  | reset => cases quiet

theorem upToDate_run (accurate : account.Accurate readers number) (integer : number.isInteger)
    (position : Nat) (asks : AsksForDelta readers account.stream.definition.kind position)
    (operations : List Operation)
    (quiet : ∀ operation ∈ operations, operation.isCollect = true)
    (collected : account.stream.UpToDate position ∨
      ∃ since time, .collect position since time ∈ operations) :
    (account.run readers operations).stream.UpToDate position := by
  induction operations generalizing account with
  | nil =>
    rcases collected with current | ⟨_, _, member⟩
    · exact current
    · cases member
  | cons operation rest ih =>
    have calm := quiet operation List.mem_cons_self
    have measured : operation.HasType number := Operation.hasType_of_isCollect calm
    have kind := (account.sameTerms_step readers operation).definition
    -- The reader has collected already or will do so in what remains of the run.
    refine ih (accurate.step integer operation measured) (kind ▸ asks)
      (fun later member => quiet later (List.mem_cons_of_mem _ member)) ?_
    rcases collected with current | ⟨since, time, member⟩
    · exact .inl (upToDate_step accurate position asks current operation calm)
    · rcases List.mem_cons.mp member with rfl | later
      · obtain ⟨temporality, reader, delta⟩ := asks
        have bounded : position < account.stream.slots.length := by
          rw [accurate.slots]
          exact (List.getElem?_eq_some_iff.mp reader).1
        simp only [step, reader]
        exact .inl (Stream.upToDate_collect accurate.coherent ⟨position, temporality, since⟩ time
          delta bounded)
      · exact .inr ⟨since, time, later⟩

/-- Totals that are shown while nothing is measured are what a reader of changes that has collected
was given. -/
theorem Whole.pointsFor_given (whole : account.Whole number)
    (accurate : account.Accurate readers number) (earned : account.Earned readers number)
    (integer : number.isInteger) (sums : account.stream.definition.kind.isSum = true)
    (collector : Collector) (time : UInt64)
    (cumulative : collector.temporality account.stream.definition.kind = .cumulative)
    (position : Nat) (asks : AsksForDelta readers account.stream.definition.kind position)
    (before after : List Operation)
    (quiet : ∀ operation ∈ before ++ after, operation.isCollect = true)
    (collected : ∃ begun ended, .collect position begun ended ∈ before ++ after) :
    let points := (account.run readers before).stream.pointsFor collector time
    let given := (account.run readers (before ++ after)).given position
    (∀ point ∈ points, point.value = Quantity.sum number (valuesAt point.attributes given)) ∧
      ∀ report ∈ given, ∃ point ∈ points, point.attributes = report.attributes := by
  intro points given
  have measured : ∀ operation ∈ before ++ after, operation.HasType number :=
    fun operation member => Operation.hasType_of_isCollect (quiet operation member)
  have earlier : ∀ operation ∈ before, operation.HasType number :=
    fun operation member => measured operation (List.mem_append_left _ member)
  have kind := congrArg StreamDefinition.kind (account.sameTerms_run readers before).definition
  have kind_last := congrArg StreamDefinition.kind
    (account.sameTerms_run readers (before ++ after)).definition
  obtain ⟨sets, _, stored, answered⟩ := (whole.run accurate integer before earlier).pointsFor
    (accurate.run integer before earlier).coherent collector time (kind ▸ cumulative)
  have current := upToDate_run accurate integer position asks (before ++ after) quiet
    (.inr collected)
  -- Nothing is stored in between, so both readers are compared at the end of the run.
  have same : (account.run readers before).stored =
      (account.run readers (before ++ after)).stored := by
    rw [account.stored_run _ quiet]
    exact account.stored_run before fun operation member =>
      quiet operation (List.mem_append_left _ member)
  have whole_last := whole.run accurate integer (before ++ after) measured
  have accurate_last := accurate.run integer (before ++ after) measured
  have earned_last := earned.run accurate integer sums (before ++ after) measured
  rw [same] at stored
  rw [same, kind] at answered
  refine ⟨?_, ?_⟩
  · intro point member
    rw [show points = _ from answered] at member
    obtain ⟨set, there, rfl⟩ := List.mem_map.mp member
    have live := (whole_last.mem_stored_iff set).mpr ((stored set).mp there)
    obtain ⟨accumulation, present⟩ := Option.isSome_iff_exists.mp live
    have proper := accurate_last.coherent.canonical set accumulation present
    have typed := accurate_last.typed.live set accumulation present
    obtain ⟨_, value, _⟩ := whole_last.present set accumulation present
    have total := earned_last.of_known accurate_last.coherent integer accurate_last.typed position
      set accumulation (kind_last ▸ asks) proper present (current set accumulation present)
    rw [whole_last.undropped set, List.nil_append, Quantity.sum_singleton integer _ typed, value,
      kind_last] at total
    exact total.symm
  · intro report member
    obtain ⟨set, live, attributes⟩ := whole_last.reported position report member
    have there := (stored set).mpr ((whole_last.mem_stored_iff set).mp live)
    rw [show points = _ from answered]
    exact ⟨_, List.mem_map.mpr ⟨set, there, rfl⟩, attributes.symm⟩

end Quiet

/-- Each collection of running totals answers exactly one point for each set stored since the
stream was made or last reset: with the sum of its increments, or its last measurement, and with
that measurement as exemplar if measurements are sampled. As long as nothing is measured, these
totals are what any reader of changes has been given, whether it collects before or after. -/
theorem cumulative_collection_exact (definition : StreamDefinition) (filter : ExemplarFilter)
    (start : UInt64) (readers : List TemporalityChoice) (number : NumberType)
    (integer : number.isInteger) (operations : List Operation)
    (measured : ∀ operation ∈ operations, operation.HasType number)
    (position : Nat) (temporality : TemporalityChoice)
    (reader : readers[position]? = some temporality)
    (cumulative : temporality definition.kind = .cumulative) (since time : UInt64) :
    let account := (create definition filter start readers).run readers operations
    (∃ sets : List AttributeSet, (sets.map (·.toList)).Nodup ∧
      (∀ set, set ∈ sets ↔ valuesUnder set account.stored ≠ []) ∧
      account.stream.pointsFor ⟨position, temporality, since⟩ time = sets.map fun set =>
        { attributes := set.toList, start, time
          value := definition.kind.aggregate number (valuesUnder set account.stored)
          exemplars := if filter = .alwaysOn then (latest set account.stored).toList else [] }) ∧
    (definition.kind.isSum = true → ∀ other, AsksForDelta readers definition.kind other →
      ∀ before after : List Operation,
        (∀ operation ∈ before ++ after, operation.isCollect = true) →
        (∃ begun ended, .collect other begun ended ∈ before ++ after) →
        let points := (account.run readers before).stream.pointsFor
          ⟨position, temporality, since⟩ time
        let given := (account.run readers (before ++ after)).given other
        (∀ point ∈ points, point.value = Quantity.sum number (valuesAt point.attributes given)) ∧
          ∀ report ∈ given, ∃ point ∈ points, point.attributes = report.attributes) := by
  intro account
  have created : (create definition filter start readers).Accurate readers number :=
    accurate_create definition filter start readers
  have accurate : account.Accurate readers number := created.run integer operations measured
  have whole : account.Whole number :=
    (whole_create definition filter start readers position temporality reader cumulative).run
      created integer operations measured
  have terms := (create definition filter start readers).sameTerms_run readers operations
  have kind : account.stream.definition.kind = definition.kind := congrArg _ terms.definition
  have sampled : account.stream.filter.samples = decide (filter = .alwaysOn) := by
    rw [show account.stream.filter = filter from terms.filter]
    cases filter <;> rfl
  refine ⟨?_, ?_⟩
  · obtain ⟨sets, apart, stored, answered⟩ := whole.pointsFor accurate.coherent
      ⟨position, temporality, since⟩ time (kind ▸ cumulative)
    refine ⟨sets, apart, stored, ?_⟩
    rw [answered, kind, sampled, show account.stream.start = start from terms.start]
    simp only [decide_eq_true_eq]
  · intro sums other asks before after quiet collected
    have earned : account.Earned readers number :=
      (earned_create definition filter start readers).run created integer sums operations measured
    exact whole.pointsFor_given accurate earned integer (kind ▸ sums)
      ⟨position, temporality, since⟩ time (kind ▸ cumulative) other (kind ▸ asks) before after
      quiet collected

/-- A reader of changes was given 5 and then 7, and the running total is 12. -/
theorem cumulative_collection_exact_changes :
    let definition : StreamDefinition := ⟨"requests", "", "", .counter, none, 2000⟩
    let readers : List TemporalityChoice := [fun _ => .cumulative, fun _ => .delta]
    let account := (create definition .alwaysOn 1 readers).run readers
      [.record 2 (.unsigned 5) [], .collect 1 1 3, .record 4 (.unsigned 7) []]
    let points := (account.run readers [.collect 1 3 5]).stream.pointsFor
      ⟨0, fun _ => .cumulative, 1⟩ 6
    let given := (account.run readers [.collect 1 3 5]).given 1
    points = [⟨[], 1, 6, .unsigned 12, [⟨4, .unsigned 7⟩]⟩] ∧
      given.map (·.value) = [.unsigned 5, .unsigned 7] ∧
      (∀ point ∈ points, point.value = Quantity.sum .unsigned (valuesAt point.attributes given)) ∧
      ∀ report ∈ given, ∃ point ∈ points, point.attributes = report.attributes := by
  refine ⟨rfl, rfl, ?_⟩
  refine (cumulative_collection_exact _ _ 1 _ .unsigned rfl _ ?_ 0 (fun _ => .cumulative) rfl rfl
    1 6).2 rfl 1 ⟨_, rfl, rfl⟩ [.collect 1 3 5] [] ?_ ⟨3, 5, List.mem_cons_self⟩
  · simp [Operation.HasType, Quantity.HasType]
  · simp [Operation.isCollect]

end Account

end Metering
