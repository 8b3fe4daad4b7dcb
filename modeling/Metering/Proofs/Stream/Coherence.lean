import Metering.Proofs.Attribute.Sets
import Metering.Proofs.Stream.Steps

/-!
Coherent streams: what the series of a stream and the slots of its readers have in common, whatever
happened to them. Generations tell a series from all that went before it, a reader that remembers
the current count of a series remembers its current value, and the acknowledgements of a series
are the readers that know its current value.
-/

namespace Metering

namespace Stream

theorem canonical_attributeSet (stream : Stream) (attributes : List Attribute) :
    (stream.attributeSet attributes).Canonical := by
  unfold attributeSet
  split
  next => exact AttributeSet.canonical_ofList attributes
  next => exact AttributeSet.canonical_restrict _ _

theorem canonical_route (series : Series) (definition : StreamDefinition) (set : AttributeSet)
    (proper : set.Canonical) : (series.route definition set).2.1.Canonical := by
  unfold Series.route
  split
  next =>
    split
    next => exact proper
    next => exact AttributeSet.canonical_ofList _
  next => exact proper

theorem canonical_place (stream : Stream) (value : Quantity) (attributes : List Attribute)
    (key : AttributeSet) (placed : stream.place? value attributes = some key) :
    key.Canonical := by
  unfold place? at placed
  split at placed
  next =>
    rw [← Option.some.inj placed]
    exact canonical_route _ _ _ (stream.canonical_attributeSet attributes)
  next => cases placed

/-- What holds of the series and the slots of a stream at any time. -/
structure Coherent (stream : Stream) : Prop where
  distinct : stream.series.accumulations.Distinct
  apart : ∀ slot ∈ stream.slots, slot.Distinct
  canonical : ∀ set accumulation, stream.live set = some accumulation → set.Canonical
  /-- Generations are never used again. -/
  live_old : ∀ set accumulation, stream.live set = some accumulation →
    accumulation.generation < stream.series.nextGeneration
  last_old : ∀ position set report, stream.last position set = some report →
    report.generation < stream.series.nextGeneration
  updated : ∀ set accumulation, stream.live set = some accumulation → 0 < accumulation.updates
  /-- A report was taken from the series it names. -/
  agreed : ∀ position set accumulation report, stream.live set = some accumulation →
    accumulation.seen (stream.last position set) = some report →
      report.updates ≤ accumulation.updates ∧
        (report.updates = accumulation.updates → report.value = accumulation.value)
  /-- The acknowledgements are the readers that know the current value. -/
  acknowledged : ∀ set accumulation, stream.live set = some accumulation →
    accumulation.acks = stream.slots.countP fun slot => accumulation.isKnown (slot.get? set)

theorem last_of_getElem? {stream : Stream} {position : Nat} {slot : Slot}
    (found : stream.slots[position]? = some slot) (set : AttributeSet) :
    stream.last position set = slot.get? set := by
  rw [last, found, Option.bind_some]

/-- Different series are told apart by their attributes alone. -/
theorem Coherent.nodup_attributes {stream : Stream} (coherent : stream.Coherent)
    (entries : List (AttributeSet × Accumulation))
    (kept : entries.Sublist stream.series.accumulations.entries) :
    ((entries.map (·.1)).map (·.toList)).Nodup := by
  have apart : (entries.map (·.1)).Nodup := (kept.map _).nodup coherent.distinct
  have proper : ∀ set ∈ entries.map (·.1), set.Canonical := by
    intro set member
    obtain ⟨⟨_, accumulation⟩, entry, rfl⟩ := List.mem_map.mp member
    exact coherent.canonical _ accumulation
      ((Table.get?_eq_some_iff _ coherent.distinct _ _).mpr (kept.subset entry))
  exact AttributeSet.nodup_toList apart proper

/-- Whether nothing is recorded in a stream and nothing remembered by its readers. -/
structure Blank (stream : Stream) : Prop where
  series : stream.series.accumulations = .empty
  slots : ∀ slot ∈ stream.slots, slot = .empty

section Blank

variable {stream : Stream}

theorem blank_create (definition : StreamDefinition) (filter : ExemplarFilter) (start : UInt64)
    (readers : List TemporalityChoice) : (create definition filter start readers).Blank := by
  refine ⟨rfl, ?_⟩
  intro slot member
  obtain ⟨_, _, same⟩ := List.mem_map.mp member
  exact same.symm

theorem blank_reset (stream : Stream) : stream.reset.Blank := by
  refine ⟨rfl, ?_⟩
  intro slot member
  obtain ⟨_, _, same⟩ := List.mem_map.mp member
  exact same.symm

theorem Blank.live (blank : stream.Blank) (set : AttributeSet) : stream.live set = none := by
  rw [Stream.live, blank.series]
  rfl

theorem Blank.last (blank : stream.Blank) (position : Nat) (set : AttributeSet) :
    stream.last position set = none := by
  rw [Stream.last, Option.bind_eq_none_iff]
  intro slot found
  rw [blank.slots slot (List.mem_of_getElem? found)]
  rfl

theorem Blank.coherent (blank : stream.Blank) : stream.Coherent := by
  have nothing : ∀ set accumulation, stream.live set ≠ some accumulation := by
    intro set accumulation present
    rw [blank.live] at present
    cases present
  have nobody : ∀ position set report, stream.last position set ≠ some report := by
    intro position set report remembered
    rw [blank.last] at remembered
    cases remembered
  constructor
  case distinct =>
    rw [blank.series]
    exact Table.distinct_empty
  case apart =>
    intro slot member
    rw [blank.slots slot member]
    exact Table.distinct_empty
  case last_old =>
    intro position set report remembered
    exact absurd remembered (nobody position set report)
  case agreed =>
    intro position set accumulation report present
    exact absurd present (nothing set accumulation)
  all_goals
    intro set accumulation present
    exact absurd present (nothing set accumulation)

end Blank

section Record

variable (stream : Stream) (now : UInt64) (value : Quantity) (attributes : List Attribute)

theorem nextGeneration_le_record (key : AttributeSet)
    (placed : stream.place? value attributes = some key) :
    stream.series.nextGeneration ≤
      (stream.record now value attributes).1.series.nextGeneration := by
  rw [stream.nextGeneration_record now value attributes key placed]
  split <;> omega

/-- The series that takes a measurement has a generation of its own: either it was there, or no
report mentions its generation. -/
theorem Coherent.found_old {stream : Stream} (coherent : stream.Coherent) (key : AttributeSet)
    (value : Quantity) : let found := (stream.live key).getD (stream.fresh value)
    (stream.live key = some found ∧ found.generation < stream.series.nextGeneration) ∨
      (stream.live key = none ∧ found.generation = stream.series.nextGeneration) := by
  cases present : stream.live key with
  | none => exact .inr ⟨rfl, rfl⟩
  | some accumulation => exact .inl ⟨rfl, coherent.live_old key accumulation present⟩

/-- Nobody remembers as many updates as a series has taken behind a measurement. -/
theorem Coherent.unknown_record {stream : Stream} (coherent : stream.Coherent)
    (key : AttributeSet) (value : Quantity) (position : Nat) (report : Reported)
    (seen : ((stream.live key).getD (stream.fresh value)).seen (stream.last position key) =
      some report) : report.updates ≤ ((stream.live key).getD (stream.fresh value)).updates := by
  rcases coherent.found_old key value with ⟨present, _⟩ | ⟨absent, generation⟩
  · exact (coherent.agreed position key _ report present seen).1
  · obtain ⟨remembered, same⟩ := (Accumulation.seen_eq_some_iff _ _ _).mp seen
    have old := coherent.last_old position key report remembered
    omega

/-- Nobody remembers anything of a series that a measurement starts. -/
theorem Coherent.seen_fresh {stream : Stream} (coherent : stream.Coherent) (key : AttributeSet)
    (value : Quantity) (position : Nat) :
    (stream.fresh value).seen (stream.last position key) = none := by
  rw [Accumulation.seen, Option.filter_eq_none_iff]
  intro report remembered same
  have old := coherent.last_old position key report remembered
  rw [decide_eq_true_eq] at same
  change report.generation = stream.series.nextGeneration at same
  omega

/-- Nobody knows the value of a series behind a measurement. -/
theorem Coherent.isKnown_take {stream : Stream} (coherent : stream.Coherent)
    (key : AttributeSet) (kind : InstrumentKind) (value : Quantity) (exemplar : Option Exemplar)
    (position : Nat) :
    (((stream.live key).getD (stream.fresh value)).take kind value exemplar).isKnown
      (stream.last position key) = false := by
  rw [← Bool.not_eq_true]
  intro known
  obtain ⟨report, remembered, generation, updates⟩ := (Accumulation.isKnown_iff _ _).mp known
  have behind := coherent.unknown_record key value position report
    ((Accumulation.seen_eq_some_iff _ _ _).mpr ⟨remembered, generation⟩)
  change report.updates = _ + 1 at updates
  omega

theorem coherent_record (coherent : stream.Coherent) :
    (stream.record now value attributes).1.Coherent := by
  cases placed : stream.place? value attributes with
  | none =>
    rw [stream.record_refused now value attributes placed]
    exact coherent
  | some key =>
    have live := stream.live_record now value attributes key placed
    have slots := stream.slots_record now value attributes key placed
    have later := stream.nextGeneration_le_record now value attributes key placed
    have next := stream.nextGeneration_record now value attributes key placed
    have last := stream.last_record now value attributes key placed
    have found := coherent.found_old key value
    constructor
    case distinct => exact stream.distinct_record now value attributes key placed coherent.distinct
    case apart => exact slots ▸ coherent.apart
    case canonical =>
      intro set accumulation present
      rw [live] at present
      split at present
      next same => exact same ▸ stream.canonical_place value attributes key placed
      next => exact coherent.canonical set accumulation present
    case live_old =>
      intro set accumulation present
      rw [live] at present
      split at present
      next =>
        rw [← Option.some.inj present, next]
        change ((stream.live key).getD (stream.fresh value)).generation < _
        split <;> omega
      next => exact Nat.lt_of_lt_of_le (coherent.live_old set accumulation present) later
    case last_old =>
      intro position set report remembered
      rw [last] at remembered
      exact Nat.lt_of_lt_of_le (coherent.last_old position set report remembered) later
    case updated =>
      intro set accumulation present
      rw [live] at present
      split at present
      next =>
        rw [← Option.some.inj present]
        exact Nat.succ_pos _
      next => exact coherent.updated set accumulation present
    case agreed =>
      intro position set accumulation report present seen
      rw [last] at seen
      rw [live] at present
      split at present
      next same =>
        subst same
        rw [← Option.some.inj present] at seen ⊢
        have behind := coherent.unknown_record set value position report seen
        change report.updates ≤ _ + 1 ∧ (report.updates = _ + 1 → _)
        exact ⟨by omega, fun equal => by omega⟩
      next => exact coherent.agreed position set accumulation report present seen
    case acknowledged =>
      intro set accumulation present
      rw [slots]
      rw [live] at present
      split at present
      next same =>
        subst same
        rw [← Option.some.inj present]
        symm
        refine List.countP_eq_zero.mpr fun slot member => ?_
        obtain ⟨position, found⟩ := List.getElem?_of_mem member
        rw [← last_of_getElem? found, coherent.isKnown_take]
        exact Bool.false_ne_true
      next => exact coherent.acknowledged set accumulation present

end Record

section Collect

variable (stream : Stream)

/-- A series that a collection leaves was there before, with other acknowledgements at most. -/
theorem Visited.of_live {stream next : Stream} {position : Nat} {set : AttributeSet}
    (visited : Visited stream next position set) {left : Accumulation}
    (present : next.live set = some left) :
    ∃ accumulation, stream.live set = some accumulation ∧
      ((accumulation.isKnown (stream.last position set) = true ∧ left = accumulation ∧
          next.last position set = stream.last position set) ∨
        (accumulation.isKnown (stream.last position set) = false ∧
          left = { accumulation with acks := accumulation.acks + 1 } ∧
          next.last position set = some accumulation.report)) := by
  cases visited with
  | absent _ after _ =>
    rw [after] at present
    cases present
  | quiet accumulation before known _ after memory =>
    rw [after] at present
    exact ⟨accumulation, before, .inl ⟨known, (Option.some.inj present).symm, memory⟩⟩
  | lapsed _ _ _ _ after _ =>
    rw [after] at present
    cases present
  | reported accumulation before news _ after memory =>
    rw [after] at present
    exact ⟨accumulation, before, .inr ⟨news, (Option.some.inj present).symm, memory⟩⟩
  | settled _ _ _ _ after _ =>
    rw [after] at present
    cases present

theorem Visited.live_before {stream next : Stream} {position : Nat} {set : AttributeSet}
    (visited : Visited stream next position set) {left : Accumulation}
    (present : next.live set = some left) :
    ∃ accumulation count, stream.live set = some accumulation ∧
      left = { accumulation with acks := count } := by
  obtain ⟨accumulation, before, ⟨_, same, _⟩ | ⟨_, same, _⟩⟩ := visited.of_live present
  · exact ⟨accumulation, accumulation.acks, before, same⟩
  · exact ⟨accumulation, _, before, same⟩

/-- What a reader remembers behind its collection it remembered before, or was just given. -/
theorem Visited.of_last {stream next : Stream} {position : Nat} {set : AttributeSet}
    (visited : Visited stream next position set) {report : Reported}
    (remembered : next.last position set = some report) :
    stream.last position set = some report ∨
      ∃ accumulation, stream.live set = some accumulation ∧ report = accumulation.report := by
  cases visited with
  | absent _ _ memory =>
    rw [memory] at remembered
    cases remembered
  | quiet _ _ _ _ _ memory => exact .inl (memory ▸ remembered)
  | lapsed _ _ _ _ _ memory =>
    rw [memory] at remembered
    cases remembered
  | reported accumulation before _ _ _ memory =>
    rw [memory] at remembered
    exact .inr ⟨accumulation, before, (Option.some.inj remembered).symm⟩
  | settled _ _ _ _ _ memory =>
    rw [memory] at remembered
    cases remembered

/-- What a reader remembers behind its collection is of a series that is there. -/
theorem Visited.live_of_last {stream next : Stream} {position : Nat} {set : AttributeSet}
    (visited : Visited stream next position set) {report : Reported}
    (remembered : next.last position set = some report) :
    ∃ left, next.live set = some left ∧ left.generation = report.generation := by
  cases visited with
  | absent _ _ memory =>
    rw [memory] at remembered
    cases remembered
  | quiet accumulation _ known _ after memory =>
    obtain ⟨found, there, generation, _⟩ := (accumulation.isKnown_iff _).mp known
    rw [memory, there] at remembered
    cases remembered
    exact ⟨accumulation, after, generation.symm⟩
  | lapsed _ _ _ _ _ memory =>
    rw [memory] at remembered
    cases remembered
  | reported accumulation _ _ _ after memory =>
    rw [memory] at remembered
    cases remembered
    exact ⟨_, after, rfl⟩
  | settled _ _ _ _ _ memory =>
    rw [memory] at remembered
    cases remembered

/-- Giving a reader the current value adds it to those who know it. -/
theorem countP_known (slots : List Slot) (position : Nat) (slot kept : Slot)
    (found : slots[position]? = some slot) (accumulation : Accumulation) (set : AttributeSet)
    (news : accumulation.isKnown (slot.get? set) = false)
    (known : accumulation.isKnown (kept.get? set) = true) :
    (slots.set position kept).countP (fun slot => accumulation.isKnown (slot.get? set)) =
      slots.countP (fun slot => accumulation.isKnown (slot.get? set)) + 1 := by
  obtain ⟨bounded, there⟩ := List.getElem?_eq_some_iff.mp found
  rw [List.countP_set bounded, there]
  simp [news, known]

/-- A reader that knows no more than before leaves the number of those who know unchanged. -/
theorem countP_same (slots : List Slot) (position : Nat) (slot kept : Slot)
    (found : slots[position]? = some slot) (accumulation : Accumulation) (set : AttributeSet)
    (same : kept.get? set = slot.get? set) :
    (slots.set position kept).countP (fun slot => accumulation.isKnown (slot.get? set)) =
      slots.countP (fun slot => accumulation.isKnown (slot.get? set)) := by
  obtain ⟨bounded, there⟩ := List.getElem?_eq_some_iff.mp found
  have counted : accumulation.isKnown (slot.get? set) = true →
      0 < slots.countP fun slot => accumulation.isKnown (slot.get? set) := by
    intro known
    exact List.countP_pos_iff.mpr ⟨slot, List.mem_of_getElem? found, known⟩
  rw [List.countP_set bounded, there, same]
  cases known : accumulation.isKnown (slot.get? set) with
  | false => simp
  | true =>
    have positive := counted known
    simp only [↓reduceIte]
    omega

theorem coherent_deltaPoints (coherent : stream.Coherent) (collector : Collector)
    (time : UInt64) (delta : collector.temporality stream.definition.kind = .delta) :
    (stream.collect collector time).1.Coherent := by
  have next := stream.nextGeneration_collect collector time
  have others := stream.last_collect collector time
  rw [stream.collect_delta collector time delta] at next others ⊢
  cases found : stream.slots[collector.position]? with
  | none =>
    have unchanged : (stream.deltaPoints collector time).1 = stream := by
      simp [deltaPoints, found]
    rw [unchanged]
    exact coherent
  | some slot =>
    have apart := coherent.apart slot (List.mem_of_getElem? found)
    have visited := stream.visited_deltaPoints collector time slot found coherent.distinct apart
    obtain ⟨kept, proper, slots⟩ := stream.slots_deltaPoints collector time slot found apart
    have own : ∀ set, (stream.deltaPoints collector time).1.last collector.position set =
        kept.get? set := by
      intro set
      apply last_of_getElem?
      rw [slots, List.getElem?_set_self (List.getElem?_eq_some_iff.mp found).1]
    constructor
    case distinct => exact stream.distinct_deltaPoints collector time coherent.distinct
    case apart =>
      intro other member
      rw [slots] at member
      rcases List.mem_or_eq_of_mem_set member with before | same
      · exact coherent.apart other before
      · exact same ▸ proper
    case canonical =>
      intro set left present
      obtain ⟨accumulation, _, before, _⟩ := (visited set).live_before present
      exact coherent.canonical set accumulation before
    case live_old =>
      intro set left present
      rw [next]
      obtain ⟨accumulation, _, before, rfl⟩ := (visited set).live_before present
      exact coherent.live_old set accumulation before
    case last_old =>
      intro position set report remembered
      rw [next]
      by_cases mine : position = collector.position
      · subst mine
        rcases (visited set).of_last remembered with before | ⟨accumulation, before, same⟩
        · exact coherent.last_old _ set report before
        · exact same ▸ coherent.live_old set accumulation before
      · rw [others position mine set] at remembered
        exact coherent.last_old position set report remembered
    case updated =>
      intro set left present
      obtain ⟨accumulation, _, before, rfl⟩ := (visited set).live_before present
      exact coherent.updated set accumulation before
    case agreed =>
      intro position set left report present seen
      by_cases mine : position = collector.position
      · subst mine
        obtain ⟨accumulation, before, ⟨_, same, memory⟩ | ⟨_, same, memory⟩⟩ :=
          (visited set).of_live present
        · rw [same] at seen ⊢
          rw [memory] at seen
          exact coherent.agreed _ set accumulation report before seen
        · rw [memory] at seen
          obtain ⟨given, _⟩ := (Accumulation.seen_eq_some_iff _ _ _).mp seen
          rw [same, ← Option.some.inj given]
          exact ⟨Nat.le_refl _, fun _ => rfl⟩
      · rw [others position mine set] at seen
        obtain ⟨accumulation, _, before, rfl⟩ := (visited set).live_before present
        exact coherent.agreed position set accumulation report before seen
    case acknowledged =>
      intro set left present
      rw [slots]
      obtain ⟨accumulation, before, ⟨known, same, memory⟩ | ⟨news, same, memory⟩⟩ :=
        (visited set).of_live present
      · rw [own, last_of_getElem? found] at memory
        rw [same, countP_same stream.slots _ slot kept found accumulation set memory]
        exact coherent.acknowledged set accumulation before
      · rw [last_of_getElem? found] at news
        -- One slot more knows the value, and one acknowledgement more was counted.
        have known : accumulation.isKnown (kept.get? set) = true := by
          rw [← own, memory]
          exact (Accumulation.isKnown_iff _ _).mpr ⟨_, rfl, rfl, rfl⟩
        rw [same]
        change accumulation.acks + 1 = (stream.slots.set collector.position kept).countP
          fun slot => accumulation.isKnown (slot.get? set)
        rw [countP_known stream.slots _ slot kept found accumulation set news known,
          coherent.acknowledged set accumulation before]

theorem coherent_collect (coherent : stream.Coherent) (collector : Collector) (time : UInt64) :
    (stream.collect collector time).1.Coherent := by
  cases asked : collector.temporality stream.definition.kind with
  | cumulative =>
    rw [stream.collect_cumulative collector time asked]
    exact coherent
  | delta => exact stream.coherent_deltaPoints coherent collector time asked

/-- What a collection for a reader that asks for changes does to a set. -/
theorem visited_collect (coherent : stream.Coherent) (collector : Collector) (time : UInt64)
    (delta : collector.temporality stream.definition.kind = .delta)
    (bounded : collector.position < stream.slots.length) (set : AttributeSet) :
    Visited stream (stream.collect collector time).1 collector.position set := by
  have found := List.getElem?_eq_getElem bounded
  rw [stream.collect_delta collector time delta]
  exact stream.visited_deltaPoints collector time _ found coherent.distinct
    (coherent.apart _ (List.mem_of_getElem? found)) set

/-- A series that is left by a collection was there before. -/
theorem Coherent.live_of_collect {stream : Stream} (coherent : stream.Coherent)
    (collector : Collector) (time : UInt64) (bounded : collector.position < stream.slots.length)
    (set : AttributeSet) {left : Accumulation}
    (present : (stream.collect collector time).1.live set = some left) :
    ∃ accumulation count, stream.live set = some accumulation ∧
      left = { accumulation with acks := count } := by
  cases asked : collector.temporality stream.definition.kind with
  | cumulative =>
    rw [stream.collect_cumulative collector time asked] at present
    exact ⟨left, left.acks, present, rfl⟩
  | delta =>
    exact (stream.visited_collect coherent collector time asked bounded set).live_before present

end Collect

/-- Whether all values that a stream keeps have a number type. -/
structure Typed (stream : Stream) (number : NumberType) : Prop where
  live : ∀ set accumulation, stream.live set = some accumulation →
    accumulation.value.HasType number
  last : ∀ position set report, stream.last position set = some report →
    report.value.HasType number

section Typed

variable {stream : Stream} {number : NumberType} (integer : number.isInteger)

omit integer in
theorem Blank.typed (blank : stream.Blank) : stream.Typed number := by
  constructor
  case live =>
    intro set accumulation present
    rw [blank.live] at present
    cases present
  case last =>
    intro position set report remembered
    rw [blank.last] at remembered
    cases remembered

include integer in
theorem Typed.record (typed : stream.Typed number) (now : UInt64) (value : Quantity)
    (measured : value.HasType number) (attributes : List Attribute) :
    (stream.record now value attributes).1.Typed number := by
  cases placed : stream.place? value attributes with
  | none =>
    rw [stream.record_refused now value attributes placed]
    exact typed
  | some key =>
    refine ⟨?_, ?_⟩
    · intro set accumulation present
      rw [stream.live_record now value attributes key placed] at present
      split at present
      next =>
        have before : ((stream.live key).getD (stream.fresh value)).value.HasType number := by
          cases found : stream.live key with
          | none =>
            change value.zero.HasType number
            rw [Quantity.zero_eq integer value measured]
            exact Quantity.hasType_quantity integer 0
          | some accumulation => exact typed.live key accumulation found
        rw [← Option.some.inj present]
        simp only [Accumulation.take]
        split
        next => exact measured
        next => exact Quantity.hasType_add integer _ _ before measured
      next => exact typed.live set accumulation present
    · intro position set report remembered
      rw [Stream.last, stream.slots_record now value attributes key placed] at remembered
      exact typed.last position set report remembered

theorem Typed.collect (typed : stream.Typed number) (coherent : stream.Coherent)
    (collector : Collector) (time : UInt64) :
    (stream.collect collector time).1.Typed number := by
  cases asked : collector.temporality stream.definition.kind with
  | cumulative =>
    rw [stream.collect_cumulative collector time asked]
    exact typed
  | delta =>
    have others := stream.last_collect collector time
    rw [stream.collect_delta collector time asked] at others ⊢
    cases found : stream.slots[collector.position]? with
    | none =>
      have unchanged : (stream.deltaPoints collector time).1 = stream := by
        simp [deltaPoints, found]
      rw [unchanged]
      exact typed
    | some slot =>
      have visited := stream.visited_deltaPoints collector time slot found coherent.distinct
        (coherent.apart slot (List.mem_of_getElem? found))
      refine ⟨?_, ?_⟩
      · intro set left present
        obtain ⟨accumulation, _, before, rfl⟩ := (visited set).live_before present
        exact typed.live set accumulation before
      · intro position set report remembered
        by_cases mine : position = collector.position
        · subst mine
          rcases (visited set).of_last remembered with before | ⟨accumulation, before, same⟩
          · exact typed.last _ set report before
          · exact same ▸ typed.live set accumulation before
        · rw [others position mine set] at remembered
          exact typed.last position set report remembered

end Typed

end Stream

namespace Account

theorem coherent_step (readers : List TemporalityChoice) (account : Account)
    (coherent : account.stream.Coherent) (operation : Operation) :
    (account.step readers operation).stream.Coherent := by
  cases operation with
  | record now value attributes =>
    have next := account.stream.coherent_record now value attributes coherent
    simp only [step, record]
    split <;> exact next
  | collect position since time =>
    simp only [step]
    split
    next => exact coherent
    next temporality _ => exact account.stream.coherent_collect coherent _ time
  | reset => exact account.stream.blank_reset.coherent

theorem coherent_run (readers : List TemporalityChoice) (account : Account)
    (coherent : account.stream.Coherent) (operations : List Operation) :
    (account.run readers operations).stream.Coherent := by
  induction operations generalizing account with
  | nil => exact coherent
  | cons operation rest ih => exact ih _ (account.coherent_step readers coherent operation)

end Account

end Metering
