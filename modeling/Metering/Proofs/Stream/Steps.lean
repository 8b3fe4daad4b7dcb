import Metering.Proofs.Stream.Account
import Metering.Proofs.Table

/-!
What one operation does to one attribute set. Measurements and collections treat every set by
itself, so each operation is described by the series of a set and by what each reader remembers
of it, before and behind the operation.
-/

namespace Metering

namespace Accumulation

/-- What a reader's report for a series would be. -/
def report (accumulation : Accumulation) : Reported :=
  ⟨accumulation.value, accumulation.updates, accumulation.generation⟩

/-- What a reader remembers of this very series, and not of an earlier one of the same set. -/
def seen (accumulation : Accumulation) (last : Option Reported) : Option Reported :=
  last.filter fun last => last.generation = accumulation.generation

/-- Whether a reader has been given the current value of a series. -/
def isKnown (accumulation : Accumulation) (last : Option Reported) : Bool :=
  (accumulation.seen last).any fun last => last.updates = accumulation.updates

theorem seen_eq_some_iff (accumulation : Accumulation) (last : Option Reported)
    (report : Reported) : accumulation.seen last = some report ↔
      last = some report ∧ report.generation = accumulation.generation := by
  simp [seen, Option.filter_eq_some_iff]

theorem isKnown_iff (accumulation : Accumulation) (last : Option Reported) :
    accumulation.isKnown last = true ↔ ∃ report, last = some report ∧
      report.generation = accumulation.generation ∧ report.updates = accumulation.updates := by
  simp only [isKnown, Option.any_eq_true, seen_eq_some_iff, decide_eq_true_eq]
  constructor
  · rintro ⟨report, ⟨found, generation⟩, updates⟩
    exact ⟨report, found, generation, updates⟩
  · rintro ⟨report, found, generation, updates⟩
    exact ⟨report, ⟨found, generation⟩, updates⟩

end Accumulation

namespace Stream

/-- The value to report for a series to a reader that remembers `seen` of it. -/
def change (stream : Stream) (seen : Option Reported) (accumulation : Accumulation) : Quantity :=
  match seen with
  | some last =>
    if stream.definition.kind.isSum then accumulation.value - last.value else accumulation.value
  | none => accumulation.value

/-- Whether a visit by a reader that has seen the current value drops a series. -/
def lapses (stream : Stream) (accumulation : Accumulation) : Bool :=
  stream.evicting && stream.reportsTotals && decide (accumulation.acks = stream.slots.length)

/-- Whether a visit by a reader that has not seen the current value drops a series. -/
def settles (stream : Stream) (accumulation : Accumulation) : Bool :=
  stream.evicting && !stream.reportsTotals &&
    decide (accumulation.acks + 1 = stream.slots.length)

theorem visit_known (stream : Stream) (last : Option Reported) (accumulation : Accumulation)
    (known : accumulation.isKnown last = true) : stream.visit last accumulation =
      { accumulation, value? := none, evicted := stream.lapses accumulation } := by
  obtain ⟨report, found, generation, updates⟩ := (accumulation.isKnown_iff last).mp known
  subst found
  simp [visit, lapses, Option.filter, generation, updates]

theorem visit_news (stream : Stream) (last : Option Reported) (accumulation : Accumulation)
    (news : accumulation.isKnown last = false) : stream.visit last accumulation =
      { accumulation := { accumulation with acks := accumulation.acks + 1 }
        value? := some (stream.change (accumulation.seen last) accumulation)
        evicted := stream.settles accumulation } := by
  have unknown : ((accumulation.seen last).filter fun last =>
      decide (last.updates = accumulation.updates)) = none := by
    rw [Option.filter_eq_none_iff]
    intro report found updates
    have current := (accumulation.isKnown_iff last).mpr
      ⟨report, ((accumulation.seen_eq_some_iff last report).mp found).1,
        ((accumulation.seen_eq_some_iff last report).mp found).2, by simpa using updates⟩
    rw [news] at current
    cases current
  unfold visit
  change (match (accumulation.seen last).filter _ with | some _ => _ | none => _) = _
  rw [unknown]
  rfl

theorem get?_foldl_evict (sets : List AttributeSet) (series : Series) (set : AttributeSet) :
    (sets.foldl Series.evict series).accumulations.get? set =
      if set ∈ sets then none else series.accumulations.get? set := by
  induction sets generalizing series with
  | nil => simp
  | cons first rest ih =>
    have evicted : (series.evict first).accumulations.get? set =
        if set = first then none else series.accumulations.get? set := by
      unfold Series.evict
      split
      next => exact Table.get?_erase series.accumulations first set
      next absent =>
        by_cases same : set = first
        · subst same
          simpa [Table.contains] using absent
        · simp [same]
    rw [List.foldl_cons, ih, evicted]
    by_cases later : set ∈ rest
    · simp [later]
    · by_cases same : set = first <;> simp [later, same]

theorem distinct_foldl_evict (sets : List AttributeSet) (series : Series)
    (distinct : series.accumulations.Distinct) :
    (sets.foldl Series.evict series).accumulations.Distinct := by
  induction sets generalizing series with
  | nil => exact distinct
  | cons first rest ih =>
    apply ih
    unfold Series.evict
    split
    next => exact distinct.erase first
    next => exact distinct

theorem nextGeneration_foldl_evict (sets : List AttributeSet) (series : Series) :
    (sets.foldl Series.evict series).nextGeneration = series.nextGeneration := by
  induction sets generalizing series with
  | nil => rfl
  | cons first rest ih =>
    rw [List.foldl_cons, ih]
    unfold Series.evict
    split <;> rfl

theorem sweep_eq (series : Series) (visits : List (AttributeSet × Visit)) :
    sweep series visits =
      ((visits.filter fun entry => entry.2.evicted).map (·.1)).foldl Series.evict
        { series with accumulations :=
            ⟨visits.map fun entry => (entry.1, entry.2.accumulation)⟩ } := by
  rw [List.foldl_map]
  rfl

def Visit.remaining (visit : Visit) : Option Accumulation :=
  if visit.evicted then none else some visit.accumulation

section Visits

variable (stream : Stream) (slot : Slot) (set : AttributeSet)

theorem lookup_visits : Table.lookup set (stream.visits slot) =
    (stream.live set).map (stream.visit (slot.get? set)) :=
  Table.lookup_map (fun set accumulation => stream.visit (slot.get? set) accumulation) set _

theorem keys_visits : (stream.visits slot).map (·.1) = stream.series.accumulations.keys := by
  rw [visits, List.map_map]
  rfl

theorem get?_sweep (distinct : stream.series.accumulations.Distinct) :
    (sweep stream.series (stream.visits slot)).accumulations.get? set =
      (stream.live set).bind fun accumulation =>
        (stream.visit (slot.get? set) accumulation).remaining := by
  have apart : ((stream.visits slot).map (·.1)).Nodup := by
    rw [keys_visits]
    exact distinct
  have named : set ∈ ((stream.visits slot).filter fun entry => entry.2.evicted).map (·.1) ↔
      ∃ visit, Table.lookup set (stream.visits slot) = some visit ∧ visit.evicted := by
    simp only [List.mem_map, List.mem_filter, Table.lookup_eq_some_iff _ _ _ apart]
    constructor
    · rintro ⟨⟨other, visit⟩, ⟨member, evicted⟩, same⟩
      cases same
      exact ⟨visit, member, evicted⟩
    · rintro ⟨visit, member, evicted⟩
      exact ⟨(set, visit), ⟨member, evicted⟩, rfl⟩
  have visited : Table.lookup set
      ((stream.visits slot).map fun entry => (entry.1, entry.2.accumulation)) =
        (Table.lookup set (stream.visits slot)).map (·.accumulation) :=
    Table.lookup_map (fun _ (visit : Visit) => visit.accumulation) set _
  rw [sweep_eq, get?_foldl_evict, Table.get?, visited]
  simp only [named, lookup_visits]
  cases stream.live set with
  | none => simp
  | some accumulation =>
    by_cases evicted : (stream.visit (slot.get? set) accumulation).evicted <;>
      simp [Visit.remaining, evicted]

theorem nextGeneration_sweep (series : Series) (visits : List (AttributeSet × Visit)) :
    (sweep series visits).nextGeneration = series.nextGeneration := by
  rw [sweep_eq]
  exact nextGeneration_foldl_evict _ _

theorem distinct_sweep (series : Series) (visits : List (AttributeSet × Visit))
    (distinct : (visits.map (·.1)).Nodup) : (sweep series visits).accumulations.Distinct := by
  rw [sweep_eq]
  apply distinct_foldl_evict
  unfold Table.Distinct Table.keys
  rw [List.map_map]
  exact distinct

theorem get?_remember (distinct : stream.series.accumulations.Distinct) :
    (remember slot (stream.visits slot)).get? set =
      ((((stream.live set).map (stream.visit (slot.get? set))).filter (·.value?.isSome)).map
        (·.accumulation.report)).or (slot.get? set) := by
  have apart : ((stream.visits slot).map (·.1)).Nodup := by
    rw [keys_visits]
    exact distinct
  rw [← lookup_visits]
  exact Table.get?_foldl_insert (·.value?.isSome) (·.accumulation.report) _ apart slot set

end Visits

theorem distinct_remember (slot : Slot) (distinct : slot.Distinct)
    (visits : List (AttributeSet × Visit)) : (remember slot visits).Distinct := by
  unfold remember
  induction visits generalizing slot with
  | nil => exact distinct
  | cons entry rest ih =>
    rcases entry with ⟨set, visit⟩
    apply ih
    dsimp only
    split
    next => exact distinct.insert _ _
    next => exact distinct

/-- The series of which a reader with a slot has not been given the current value. -/
def news (stream : Stream) (slot : Slot) : List (AttributeSet × Accumulation) :=
  stream.series.accumulations.entries.filter fun entry => !entry.2.isKnown (slot.get? entry.1)

theorem mem_news_iff (stream : Stream) (distinct : stream.series.accumulations.Distinct)
    (slot : Slot) (set : AttributeSet) (accumulation : Accumulation) :
    (set, accumulation) ∈ stream.news slot ↔
      stream.live set = some accumulation ∧ accumulation.isKnown (slot.get? set) = false := by
  rw [news, List.mem_filter, live, Table.get?_eq_some_iff _ distinct, Bool.not_eq_true']

/-- What a collection of changes for the reader at a position does to one set. -/
inductive Visited (stream next : Stream) (position : Nat) (set : AttributeSet) : Prop where
  /-- The set has no series. -/
  | absent (before : stream.live set = none) (after : next.live set = none)
      (memory : next.last position set = none)
  /-- The reader has seen the current value, and the series stays. -/
  | quiet (accumulation : Accumulation) (before : stream.live set = some accumulation)
      (known : accumulation.isKnown (stream.last position set) = true)
      (stays : stream.lapses accumulation = false) (after : next.live set = some accumulation)
      (memory : next.last position set = stream.last position set)
  /-- The reader has seen the current value, and the series is dropped. -/
  | lapsed (accumulation : Accumulation) (before : stream.live set = some accumulation)
      (known : accumulation.isKnown (stream.last position set) = true)
      (due : stream.lapses accumulation = true) (after : next.live set = none)
      (memory : next.last position set = none)
  /-- The reader is given the current value, and the series stays. -/
  | reported (accumulation : Accumulation) (before : stream.live set = some accumulation)
      (news : accumulation.isKnown (stream.last position set) = false)
      (stays : stream.settles accumulation = false)
      (after : next.live set = some { accumulation with acks := accumulation.acks + 1 })
      (memory : next.last position set = some accumulation.report)
  /-- The reader is given the current value, and the series is dropped. -/
  | settled (accumulation : Accumulation) (before : stream.live set = some accumulation)
      (news : accumulation.isKnown (stream.last position set) = false)
      (due : stream.settles accumulation = true) (after : next.live set = none)
      (memory : next.last position set = none)

section DeltaPoints

variable (stream : Stream) (collector : Collector) (time : UInt64) (slot : Slot)
  (found : stream.slots[collector.position]? = some slot)
include found

theorem live_deltaPoints (distinct : stream.series.accumulations.Distinct)
    (set : AttributeSet) : (stream.deltaPoints collector time).1.live set =
      (stream.live set).bind fun accumulation =>
        (stream.visit (slot.get? set) accumulation).remaining := by
  rw [← get?_sweep stream slot set distinct]
  simp only [deltaPoints, found]
  rfl

theorem last_deltaPoints (apart : slot.Distinct) (set : AttributeSet) :
    (stream.deltaPoints collector time).1.last collector.position set =
      ((stream.deltaPoints collector time).1.live set).bind fun accumulation =>
        accumulation.seen ((remember slot (stream.visits slot)).get? set) := by
  have bounded : collector.position < stream.slots.length :=
    (List.getElem?_eq_some_iff.mp found).1
  have remembered := distinct_remember slot apart (stream.visits slot)
  simp only [deltaPoints, found, last, live, List.getElem?_set_self bounded, Option.bind_some,
    Table.get?_filter _ remembered]
  cases (sweep stream.series (stream.visits slot)).accumulations.get? set with
  | none => simp
  | some accumulation => simp [Accumulation.seen, eq_comm]

/-- One collection of changes does one of five things to a set. -/
theorem visited_deltaPoints (distinct : stream.series.accumulations.Distinct)
    (apart : slot.Distinct) (set : AttributeSet) :
    Visited stream (stream.deltaPoints collector time).1 collector.position set := by
  have series := live_deltaPoints stream collector time slot found distinct set
  have memory := last_deltaPoints stream collector time slot found apart set
  have before : stream.last collector.position set = slot.get? set := by
    rw [last, found, Option.bind_some]
  rw [get?_remember stream slot set distinct] at memory
  cases present : stream.live set with
  | none =>
    rw [present, Option.bind_none] at series
    rw [series, Option.bind_none] at memory
    exact .absent present series memory
  | some accumulation =>
    rw [present, Option.bind_some] at series
    rw [present, Option.map_some] at memory
    cases known : accumulation.isKnown (slot.get? set) with
    | true =>
      rw [visit_known stream _ _ known] at series memory
      cases due : stream.lapses accumulation with
      | true =>
        have gone : (stream.deltaPoints collector time).1.live set = none := by
          rw [series, Visit.remaining, if_pos due]
        rw [gone, Option.bind_none] at memory
        exact .lapsed accumulation present (before ▸ known) due gone memory
      | false =>
        have stays : (stream.deltaPoints collector time).1.live set = some accumulation := by
          rw [series, Visit.remaining, if_neg (Bool.eq_false_iff.mp due)]
        rw [stays, Option.bind_some] at memory
        obtain ⟨report, seen, generation, updates⟩ := (accumulation.isKnown_iff _).mp known
        have kept : (stream.deltaPoints collector time).1.last collector.position set =
            slot.get? set := by
          rw [memory, seen]
          simp [Accumulation.seen, Option.filter, generation]
        exact .quiet accumulation present (before ▸ known) due stays (kept.trans before.symm)
    | false =>
      rw [visit_news stream _ _ known] at series memory
      cases due : stream.settles accumulation with
      | true =>
        have gone : (stream.deltaPoints collector time).1.live set = none := by
          rw [series, Visit.remaining, if_pos due]
        rw [gone, Option.bind_none] at memory
        exact .settled accumulation present (before ▸ known) due gone memory
      | false =>
        have stays : (stream.deltaPoints collector time).1.live set =
            some { accumulation with acks := accumulation.acks + 1 } := by
          rw [series, Visit.remaining, if_neg (Bool.eq_false_iff.mp due)]
        rw [stays, Option.bind_some] at memory
        have entered : (stream.deltaPoints collector time).1.last collector.position set =
            some accumulation.report := by
          rw [memory]
          simp [Accumulation.seen, Accumulation.report, Option.filter]
        exact .reported accumulation present (before ▸ known) due stays entered

theorem points_deltaPoints : (stream.deltaPoints collector time).2 =
    (stream.news slot).map fun entry => point entry.1 entry.2 collector.lastCollect time
      (stream.change (entry.2.seen (slot.get? entry.1)) entry.2) := by
  simp only [deltaPoints, found, visits, news, List.filterMap_map]
  induction stream.series.accumulations.entries with
  | nil => rfl
  | cons entry rest ih =>
    cases known : entry.2.isKnown (slot.get? entry.1) with
    | true => simpa [visit_known stream _ _ known, known] using ih
    | false => simpa [visit_news stream _ _ known, known, point] using ih

end DeltaPoints

/-- A collection of changes replaces the slot of its reader. -/
theorem slots_deltaPoints (stream : Stream) (collector : Collector) (time : UInt64) (slot : Slot)
    (found : stream.slots[collector.position]? = some slot) (apart : slot.Distinct) :
    ∃ kept : Slot, kept.Distinct ∧
      (stream.deltaPoints collector time).1.slots = stream.slots.set collector.position kept := by
  simp only [deltaPoints, found]
  exact ⟨_, (distinct_remember slot apart _).filter _, rfl⟩

theorem distinct_deltaPoints (stream : Stream) (collector : Collector) (time : UInt64)
    (distinct : stream.series.accumulations.Distinct) :
    (stream.deltaPoints collector time).1.series.accumulations.Distinct := by
  unfold deltaPoints
  split
  next => exact distinct
  next slot found =>
    apply distinct_sweep
    rw [keys_visits]
    exact distinct

/-- Whether two streams differ at most in what was recorded and collected. -/
structure SameTerms (stream next : Stream) : Prop where
  definition : next.definition = stream.definition
  filter : next.filter = stream.filter
  start : next.start = stream.start
  evicting : next.evicting = stream.evicting
  readers : next.slots.length = stream.slots.length

theorem SameTerms.refl (stream : Stream) : stream.SameTerms stream := ⟨rfl, rfl, rfl, rfl, rfl⟩

theorem SameTerms.trans {first second third : Stream} (one : first.SameTerms second)
    (two : second.SameTerms third) : first.SameTerms third :=
  ⟨two.definition.trans one.definition, two.filter.trans one.filter, two.start.trans one.start,
    two.evicting.trans one.evicting, two.readers.trans one.readers⟩

theorem SameTerms.symm {stream next : Stream} (same : stream.SameTerms next) :
    next.SameTerms stream :=
  ⟨same.definition.symm, same.filter.symm, same.start.symm, same.evicting.symm,
    same.readers.symm⟩

theorem sameTerms_reset (stream : Stream) : stream.SameTerms stream.reset :=
  ⟨rfl, rfl, rfl, rfl, List.length_map _⟩

section Collect

variable (stream : Stream) (collector : Collector) (time : UInt64)

theorem collect_delta (delta : collector.temporality stream.definition.kind = .delta) :
    (stream.collect collector time).1 = (stream.deltaPoints collector time).1 := by
  simp [collect, points, delta]

theorem collect_cumulative
    (cumulative : collector.temporality stream.definition.kind = .cumulative) :
    (stream.collect collector time).1 = stream := by
  simp [collect, points, cumulative]

/-- A metric is answered unless it would have no points, so nothing gets lost. -/
theorem pointsFor_eq : stream.pointsFor collector time = (stream.points collector time).2 := by
  unfold pointsFor collect
  dsimp only
  split
  next none_there => simpa using (List.isEmpty_iff.mp none_there).symm
  next => rfl

theorem metric_collect :
    (stream.collect collector time).2 = if (stream.pointsFor collector time).isEmpty then none
      else some
        { name := stream.definition.name
          description := stream.definition.description
          unit := stream.definition.unit
          aggregation := stream.aggregation (collector.temporality stream.definition.kind)
          points := stream.pointsFor collector time } := by
  rw [pointsFor_eq]
  rfl

/-- A metric carries the name, unit and aggregation of its stream, and its points, of which there
are some. -/
theorem of_collect {metric : Metric} (collected : (stream.collect collector time).2 = some metric) :
    metric.name = stream.definition.name ∧ metric.unit = stream.definition.unit ∧
      metric.aggregation = stream.aggregation (collector.temporality stream.definition.kind) ∧
      metric.points = stream.pointsFor collector time ∧ metric.points ≠ [] := by
  rw [metric_collect] at collected
  split at collected
  next => cases collected
  next points =>
    cases collected
    exact ⟨rfl, rfl, rfl, rfl, fun nothing => points (List.isEmpty_iff.mpr nothing)⟩

theorem sameTerms_collect : stream.SameTerms (stream.collect collector time).1 := by
  cases asked : collector.temporality stream.definition.kind with
  | cumulative =>
    rw [collect_cumulative stream collector time asked]
    exact .refl stream
  | delta =>
    rw [collect_delta stream collector time asked]
    unfold deltaPoints
    split
    next => exact .refl stream
    next => exact ⟨rfl, rfl, rfl, rfl, List.length_set⟩

theorem nextGeneration_collect :
    (stream.collect collector time).1.series.nextGeneration = stream.series.nextGeneration := by
  cases asked : collector.temporality stream.definition.kind with
  | cumulative => rw [collect_cumulative stream collector time asked]
  | delta =>
    rw [collect_delta stream collector time asked]
    unfold deltaPoints
    split
    next => rfl
    next slot found => exact nextGeneration_sweep stream.series (stream.visits slot)

/-- A collection leaves alone what other readers remember. -/
theorem last_collect (position : Nat) (other : position ≠ collector.position)
    (set : AttributeSet) :
    (stream.collect collector time).1.last position set = stream.last position set := by
  cases asked : collector.temporality stream.definition.kind with
  | cumulative => rw [collect_cumulative stream collector time asked]
  | delta =>
    rw [collect_delta stream collector time asked]
    unfold deltaPoints last
    split
    next => rfl
    next => rw [List.getElem?_set_ne other.symm]

end Collect

section Record

variable (stream : Stream) (now : UInt64) (value : Quantity) (attributes : List Attribute)

/-- The series that a measurement starts. -/
def fresh (stream : Stream) (value : Quantity) : Accumulation :=
  { value := value.zero, updates := 0, generation := stream.series.nextGeneration, acks := 0
    exemplar := none }

/-- The exemplar that a measurement makes. -/
def exemplar? (stream : Stream) (now : UInt64) (value : Quantity) : Option Exemplar :=
  if stream.filter.samples then some ⟨now, value⟩ else none

theorem record_refused (refused : stream.place? value attributes = none) :
    (stream.record now value attributes).1 = stream := by
  unfold place? at refused
  split at refused
  next => cases refused
  next negative => simp [record, negative]

theorem route_accumulations (series : Series) (definition : StreamDefinition)
    (set : AttributeSet) :
    (series.route definition set).1.accumulations = series.accumulations ∧
      (series.route definition set).1.nextGeneration = series.nextGeneration := by
  unfold Series.route
  split
  next => split <;> exact ⟨rfl, rfl⟩
  next => exact ⟨rfl, rfl⟩

variable (key : AttributeSet) (placed : stream.place? value attributes = some key)
include placed

theorem record_series : (stream.record now value attributes).1 =
    { stream with series := (stream.series.take stream.definition (stream.attributeSet attributes)
        value (stream.exemplar? now value)).1 } ∧
    (stream.series.route stream.definition (stream.attributeSet attributes)).2.1 = key := by
  unfold place? at placed
  split at placed
  next accepted =>
    refine ⟨?_, Option.some.inj placed⟩
    simp only [record, accepted, ↓reduceIte]
    rfl
  next => cases placed

theorem sameTerms_record : stream.SameTerms (stream.record now value attributes).1 := by
  rw [(stream.record_series now value attributes key placed).1]
  exact ⟨rfl, rfl, rfl, rfl, rfl⟩

theorem slots_record : (stream.record now value attributes).1.slots = stream.slots := by
  rw [(stream.record_series now value attributes key placed).1]

theorem last_record (position : Nat) (set : AttributeSet) :
    (stream.record now value attributes).1.last position set = stream.last position set := by
  rw [last, slots_record stream now value attributes key placed, last]

theorem distinct_record (distinct : stream.series.accumulations.Distinct) :
    (stream.record now value attributes).1.series.accumulations.Distinct := by
  have kept := route_accumulations stream.series stream.definition (stream.attributeSet attributes)
  rw [(stream.record_series now value attributes key placed).1]
  unfold Series.take Series.accumulation
  apply Table.Distinct.insert
  split <;> exact kept.1 ▸ distinct

theorem live_record (set : AttributeSet) : (stream.record now value attributes).1.live set =
    if set = key then
      some (((stream.live key).getD (stream.fresh value)).take stream.definition.kind value
        (stream.exemplar? now value))
    else stream.live set := by
  obtain ⟨next, routed⟩ := stream.record_series now value attributes key placed
  have kept := route_accumulations stream.series stream.definition (stream.attributeSet attributes)
  rw [next]
  unfold live Series.take Series.accumulation
  dsimp only
  rw [routed]
  split <;> rw [Table.get?_insert, kept.1, kept.2] <;> rfl

theorem nextGeneration_record :
    (stream.record now value attributes).1.series.nextGeneration =
      if ((stream.live key).getD (stream.fresh value)).generation = stream.series.nextGeneration
      then stream.series.nextGeneration + 1 else stream.series.nextGeneration := by
  obtain ⟨next, routed⟩ := stream.record_series now value attributes key placed
  have kept := route_accumulations stream.series stream.definition (stream.attributeSet attributes)
  rw [next]
  unfold Series.take Series.accumulation
  dsimp only
  rw [routed, kept.1, kept.2]
  change (if ((stream.live key).getD (stream.fresh value)).generation = _ then _ else _ :
    Series).nextGeneration = _
  split
  next => rfl
  next => exact kept.2

end Record

end Stream

namespace Account

section Record

variable (account : Account) (now : UInt64) (value : Quantity) (attributes : List Attribute)

theorem stream_record :
    (account.record now value attributes).stream =
      (account.stream.record now value attributes).1 := by
  unfold record
  split <;> rfl

theorem given_record : (account.record now value attributes).given = account.given := by
  unfold record
  split <;> rfl

theorem dropped_record : (account.record now value attributes).dropped = account.dropped := by
  unfold record
  split <;> rfl

theorem record_refused (refused : account.stream.place? value attributes = none) :
    account.record now value attributes = account := by
  rw [record, refused, account.stream.record_refused now value attributes refused]

variable (key : AttributeSet) (placed : account.stream.place? value attributes = some key)
include placed

theorem stored_record : (account.record now value attributes).stored =
    account.stored ++ [⟨key, value, now⟩] := by
  rw [record, placed]
  rfl

theorem unseen_record (position : Nat) :
    (account.record now value attributes).unseen position =
      account.unseen position ++ [⟨key, value, now⟩] := by
  rw [record, placed]
  rfl

end Record

section Collect

variable (account : Account) (collector : Collector) (time : UInt64)

theorem stream_collect :
    (account.collect collector time).stream = (account.stream.collect collector time).1 := rfl

theorem stored_collect : (account.collect collector time).stored = account.stored := rfl

theorem unseen_collect (position : Nat) : (account.collect collector time).unseen position =
    if position = collector.position then [] else account.unseen position := rfl

theorem given_collect (position : Nat) : (account.collect collector time).given position =
    if position = collector.position then
      account.given position ++ account.stream.pointsFor collector time
    else account.given position := rfl

theorem dropped_collect (set : AttributeSet) : (account.collect collector time).dropped set =
    account.dropped set ++
      (account.stream.droppedAt (account.stream.collect collector time).1 set).toList := rfl

end Collect

end Account

end Metering
