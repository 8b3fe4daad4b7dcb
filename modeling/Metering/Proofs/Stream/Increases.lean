import Metering.Proofs.Stream.Deltas

/-!
Increases. Beside a stream the totals are kept that each reader was last shown. What a reader of
changes is given for a series of a monotonic sum is the total that the series holds, less the one
last shown, modulo 2^64. For increments that is always an increase. An observed total can fall
below the last one, and then the reader is given more than the whole total.
-/

namespace Metering

/-- Whether an operation is a collection for the reader at a position. -/
def Operation.collectsFor (position : Nat) : Operation → Bool
  | .collect other _ _ => other = position
  | _ => false

/-- Whether an operation leaves the sums of increments of a stream within 64 bits. -/
def Operation.Fits (stream : Stream) : Operation → Prop
  | .record _ value attributes => ∀ set, stream.place? value attributes = some set →
      stream.definition.kind.isPrecomputed = false →
        ((stream.live set).map (·.value.toInt)).getD 0 + value.toInt < 2 ^ 64
  | _ => True

/-- Whether no sum of increments exceeds 64 bits in a run. -/
def Account.Bounded (readers : List TemporalityChoice) (account : Account) :
    List Operation → Prop
  | [] => True
  | operation :: rest =>
    operation.Fits account.stream ∧ (account.step readers operation).Bounded readers rest

namespace Stream

/-- A series that a collection leaves is the one that was there, and its reader remembers its value
if it asks for changes. -/
theorem left_collect (stream : Stream) (coherent : stream.Coherent) (collector : Collector)
    (time : UInt64) (bounded : collector.position < stream.slots.length) (set : AttributeSet)
    (left : Accumulation)
    (present : (stream.collect collector time).1.live set = some left) :
    ∃ accumulation, stream.live set = some accumulation ∧ left.value = accumulation.value ∧
      left.generation = accumulation.generation ∧
      (collector.temporality stream.definition.kind = .delta →
        (left.seen ((stream.collect collector time).1.last collector.position set)).map (·.value) =
          some accumulation.value) := by
  cases asked : collector.temporality stream.definition.kind with
  | cumulative =>
    rw [stream.collect_cumulative collector time asked] at present
    exact ⟨left, present, rfl, rfl, nofun⟩
  | delta =>
    obtain ⟨accumulation, before, ⟨known, same, memory⟩ | ⟨_, same, memory⟩⟩ :=
      (stream.visited_collect coherent collector time asked bounded set).of_live present
    · subst same
      refine ⟨left, before, rfl, rfl, fun _ => ?_⟩
      obtain ⟨report, remembered, generation, updates⟩ := (left.isKnown_iff _).mp known
      have seen : left.seen (stream.last collector.position set) = some report :=
        (left.seen_eq_some_iff _ _).mpr ⟨remembered, generation⟩
      rw [memory, seen]
      exact congrArg some ((coherent.agreed _ set left report before seen).2 updates)
    · subst same
      refine ⟨accumulation, before, rfl, rfl, fun _ => ?_⟩
      have seen : Accumulation.seen { accumulation with acks := accumulation.acks + 1 }
          (some accumulation.report) = some accumulation.report :=
        (Accumulation.seen_eq_some_iff _ _ _).mpr ⟨rfl, rfl⟩
      rw [memory, seen]
      rfl

end Stream

/-- The same of the collection of a run, where the other readers remember what they did. -/
theorem Account.left_step (readers : List TemporalityChoice) (account : Account)
    (coherent : account.stream.Coherent) (slots : account.stream.slots.length = readers.length)
    (position : Nat) (since time : UInt64) (set : AttributeSet) (left : Accumulation)
    (present : (account.step readers (.collect position since time)).stream.live set =
      some left) :
    ∃ accumulation, account.stream.live set = some accumulation ∧
      left.value = accumulation.value ∧
      ∀ other, AsksForDelta readers account.stream.definition.kind other →
        (left.seen ((account.step readers (.collect position since time)).stream.last other
            set)).map (·.value) =
          if position = other then some accumulation.value
          else (accumulation.seen (account.stream.last other set)).map (·.value) := by
  cases reader : readers[position]? with
  | none =>
    simp only [step, reader] at present ⊢
    refine ⟨left, present, rfl, fun other asks => ?_⟩
    split
    next mine =>
      obtain ⟨_, there, _⟩ := asks
      rw [← mine, reader] at there
      cases there
    next => rfl
  | some temporality =>
    simp only [step, reader, stream_collect] at present ⊢
    obtain ⟨accumulation, found, value, generation, own⟩ := account.stream.left_collect coherent
      ⟨position, temporality, since⟩ time
      (slots ▸ (List.getElem?_eq_some_iff.mp reader).1) set left present
    refine ⟨accumulation, found, value, fun other asks => ?_⟩
    split
    next mine =>
      subst mine
      obtain ⟨choice, there, delta⟩ := asks
      cases reader.symm.trans there
      exact own delta
    next different =>
      rw [account.stream.last_collect _ time other (Ne.symm different), Accumulation.seen,
        generation]
      rfl

/-- A stream with the totals that its readers were last shown. -/
structure Ledger where
  account : Account
  /-- What the present series of a set held when the reader at a position last collected it. -/
  shown : Nat → AttributeSet → Option Quantity := fun _ _ => none

namespace Ledger

def step (readers : List TemporalityChoice) (ledger : Ledger) (operation : Operation) : Ledger :=
  let next := ledger.account.step readers operation
  { account := next
    shown := fun position set =>
      if (next.stream.live set).isNone then none
      else if operation.collectsFor position then (ledger.account.stream.live set).map (·.value)
      else ledger.shown position set }

def run (readers : List TemporalityChoice) (ledger : Ledger) (operations : List Operation) :
    Ledger :=
  operations.foldl (step readers) ledger

/-- The ledger is only kept beside the account. -/
theorem account_run (readers : List TemporalityChoice) (ledger : Ledger)
    (operations : List Operation) :
    (ledger.run readers operations).account = ledger.account.run readers operations := by
  induction operations generalizing ledger with
  | nil => rfl
  | cons operation rest ih => exact ih (ledger.step readers operation)

theorem shown_absent (readers : List TemporalityChoice) (ledger : Ledger) (operation : Operation)
    (position : Nat) (set : AttributeSet)
    (absent : (ledger.step readers operation).account.stream.live set = none) :
    (ledger.step readers operation).shown position set = none :=
  if_pos (Option.isNone_iff_eq_none.mpr absent)

/-- Whether the readers of changes remember the totals that they were shown, and sums of increments
have not fallen behind them. -/
structure Faithful (readers : List TemporalityChoice) (ledger : Ledger) : Prop where
  accurate : ledger.account.Accurate readers .unsigned
  absent : ∀ position set, ledger.account.stream.live set = none →
    ledger.shown position set = none
  remembered : ∀ position set accumulation,
    AsksForDelta readers ledger.account.stream.definition.kind position →
      ledger.account.stream.live set = some accumulation →
        ledger.shown position set =
          (accumulation.seen (ledger.account.stream.last position set)).map (·.value)
  rising : ledger.account.stream.definition.kind.isPrecomputed = false →
    ∀ position set accumulation total, ledger.account.stream.live set = some accumulation →
      ledger.shown position set = some total → total.toInt ≤ accumulation.value.toInt

section Faithful

variable {readers : List TemporalityChoice} {ledger : Ledger}

theorem faithful_create (definition : StreamDefinition) (filter : ExemplarFilter)
    (start : UInt64) (readers : List TemporalityChoice) :
    Faithful readers { account := .create definition filter start readers } :=
  ⟨Account.accurate_create definition filter start readers, fun _ _ _ => rfl, nofun, nofun⟩

/-- A measurement shows nobody anything, and drops no series. -/
theorem Faithful.shown_record (faithful : ledger.Faithful readers) (now : UInt64)
    (value : Quantity) (attributes : List Attribute) :
    (ledger.step readers (.record now value attributes)).shown = ledger.shown := by
  funext position set
  change (if ((ledger.account.record now value attributes).stream.live set).isNone = true then none
    else ledger.shown position set) = _
  split
  next gone =>
    symm
    apply faithful.absent
    rw [Option.isNone_iff_eq_none, Account.stream_record] at gone
    cases placed : ledger.account.stream.place? value attributes with
    | none => rwa [ledger.account.stream.record_refused now value attributes placed] at gone
    | some key =>
      rw [ledger.account.stream.live_record now value attributes key placed] at gone
      split at gone
      next => cases gone
      next => exact gone
  next => rfl

theorem Faithful.record (faithful : ledger.Faithful readers) (now : UInt64) (value : Quantity)
    (measured : value.HasType .unsigned) (attributes : List Attribute)
    (fits : (Operation.record now value attributes).Fits ledger.account.stream) :
    (ledger.step readers (.record now value attributes)).Faithful readers := by
  have shown := faithful.shown_record now value attributes
  have accurate := faithful.accurate.record rfl now value measured attributes
  have account : (ledger.step readers (.record now value attributes)).account =
      ledger.account.record now value attributes := rfl
  cases placed : ledger.account.stream.place? value attributes with
  | none =>
    have refused := ledger.account.record_refused now value attributes placed
    have unchanged : ledger.step readers (.record now value attributes) = ledger :=
      congrArg₂ Ledger.mk (account.trans refused) shown
    exact unchanged.symm ▸ faithful
  | some key =>
    have live := ledger.account.stream.live_record now value attributes key placed
    have last := ledger.account.stream.last_record now value attributes key placed
    have terms := ledger.account.stream.sameTerms_record now value attributes key placed
    rw [← ledger.account.stream_record now value attributes, ← account] at live last terms
    constructor
    case accurate => exact accurate
    case absent =>
      intro position set nothing
      rw [live] at nothing
      split at nothing
      next => cases nothing
      next => exact shown ▸ faithful.absent position set nothing
    case remembered =>
      intro position set accumulation asks present
      rw [terms.definition] at asks
      rw [shown, last]
      rw [live] at present
      split at present
      next same =>
        subst same
        rw [← Option.some.inj present]
        change _ = (((ledger.account.stream.live set).getD
          (ledger.account.stream.fresh value)).seen _).map _
        cases found : ledger.account.stream.live set with
        | none =>
          rw [Option.getD_none, faithful.accurate.coherent.seen_fresh set value position]
          exact faithful.absent position set found
        | some accumulation => exact faithful.remembered position set accumulation asks found
      next => exact faithful.remembered position set accumulation asks present
    case rising =>
      intro increments position set accumulation total present before
      rw [terms.definition] at increments
      rw [shown] at before
      rw [live] at present
      split at present
      next same =>
        subst same
        cases found : ledger.account.stream.live set with
        | none =>
          rw [faithful.absent position set found] at before
          cases before
        | some old =>
          have room := fits set placed increments
          rw [found, Option.map_some, Option.getD_some] at room
          have typed := faithful.accurate.typed.live set old found
          rw [← Option.some.inj present, found]
          calc
            total.toInt ≤ old.value.toInt :=
              faithful.rising increments position set old total found before
            _ ≤ old.value.toInt + value.toInt :=
              Int.le_add_of_nonneg_right (Quantity.toInt_bounds measured).1
            _ = (old.value + value).toInt := (Quantity.toInt_add typed measured room).symm
            _ = _ := by simp [Accumulation.take, increments]
      next => exact faithful.rising increments position set accumulation total present before

/-- A collection shows its reader what the series hold that stay, and nothing to the others. -/
theorem shown_collect (position : Nat) (since time : UInt64) (other : Nat) (set : AttributeSet)
    {left : Accumulation} (present : (ledger.step readers
      (.collect position since time)).account.stream.live set = some left) :
    (ledger.step readers (.collect position since time)).shown other set =
      if position = other then (ledger.account.stream.live set).map (·.value)
      else ledger.shown other set := by
  change (if ((ledger.step readers (.collect position since time)).account.stream.live
    set).isNone = true then none else if decide (position = other) = true then _ else _) = _
  rw [present, if_neg (by exact Bool.false_ne_true)]
  simp only [decide_eq_true_eq]

theorem Faithful.collect (faithful : ledger.Faithful readers) (position : Nat)
    (since time : UInt64) :
    (ledger.step readers (.collect position since time)).Faithful readers := by
  have kind := congrArg StreamDefinition.kind
    (ledger.account.sameTerms_step readers (.collect position since time)).definition
  have leaves := ledger.account.left_step readers faithful.accurate.coherent
    faithful.accurate.slots position since time
  constructor
  case accurate => exact faithful.accurate.step rfl (.collect position since time) trivial
  case absent => exact ledger.shown_absent readers _
  case remembered =>
    intro other set left asks present
    obtain ⟨accumulation, found, _, own⟩ := leaves set left present
    rw [shown_collect position since time other set present]
    refine Eq.trans ?_ (own other (kind ▸ asks)).symm
    split
    next => rw [found, Option.map_some]
    next => exact faithful.remembered other set accumulation (kind ▸ asks) found
  case rising =>
    intro increments other set left total present before
    obtain ⟨accumulation, found, value, _⟩ := leaves set left present
    rw [shown_collect position since time other set present] at before
    rw [value]
    split at before
    next =>
      rw [found, Option.map_some] at before
      exact Int.le_of_eq (congrArg Quantity.toInt (Option.some.inj before).symm)
    next => exact faithful.rising (kind ▸ increments) other set accumulation total found before

/-- Nobody has been shown anything of a stream that was reset. -/
theorem Faithful.reset (faithful : ledger.Faithful readers) :
    (ledger.step readers .reset).Faithful readers := by
  have nothing := ledger.account.stream.blank_reset.live
  constructor
  case accurate => exact faithful.accurate.reset
  case absent => exact ledger.shown_absent readers _
  case remembered =>
    intro position set accumulation _ present
    exact absurd ((nothing set).symm.trans present) nofun
  case rising =>
    intro _ position set accumulation total present
    exact absurd ((nothing set).symm.trans present) nofun

theorem Faithful.step (faithful : ledger.Faithful readers) (operation : Operation)
    (measured : operation.HasType .unsigned) (fits : operation.Fits ledger.account.stream) :
    (ledger.step readers operation).Faithful readers := by
  cases operation with
  | record now value attributes => exact faithful.record now value measured attributes fits
  | collect position since time => exact faithful.collect position since time
  | reset => exact faithful.reset

theorem Faithful.run (faithful : ledger.Faithful readers) (operations : List Operation)
    (measured : ∀ operation ∈ operations, operation.HasType .unsigned)
    (bounded : ledger.account.Bounded readers operations) :
    (ledger.run readers operations).Faithful readers := by
  induction operations generalizing ledger with
  | nil => exact faithful
  | cons operation rest ih =>
    have here := faithful.step operation (measured _ List.mem_cons_self) bounded.1
    exact ih here (fun later member => measured later (List.mem_cons_of_mem _ member)) bounded.2

/-- The change of a series of a sum is what it holds less what its reader was last shown. -/
theorem Faithful.change_toInt (faithful : ledger.Faithful readers)
    (sums : ledger.account.stream.definition.kind.isSum = true) (position : Nat)
    (asks : AsksForDelta readers ledger.account.stream.definition.kind position)
    (set : AttributeSet) (accumulation : Accumulation)
    (present : ledger.account.stream.live set = some accumulation) :
    let value := ledger.account.stream.change
      (accumulation.seen (ledger.account.stream.last position set)) accumulation
    let last := ((ledger.shown position set).map (·.toInt)).getD 0
    value.HasType .unsigned ∧ (0 ≤ last ∧ last < 2 ^ 64) ∧ value.toInt =
      if last ≤ accumulation.value.toInt then accumulation.value.toInt - last
      else accumulation.value.toInt - last + 2 ^ 64 := by
  intro value last
  have typed := faithful.accurate.typed.live set accumulation present
  have shown := faithful.remembered position set accumulation asks present
  cases seen : accumulation.seen (ledger.account.stream.last position set) with
  | none =>
    have given : value = accumulation.value := by simp only [value, Stream.change, seen]
    have nothing : last = 0 := by simp only [last, shown, seen, Option.map_none, Option.getD_none]
    have bounds := Quantity.toInt_bounds typed
    rw [given, nothing, if_pos bounds.1, Int.sub_zero]
    exact ⟨typed, by decide, rfl⟩
  | some report =>
    have remembered := faithful.accurate.typed.last position set report
      ((Accumulation.seen_eq_some_iff _ _ _).mp seen).1
    have given : value = accumulation.value - report.value := by
      simp only [value, Stream.change, seen, sums, if_true]
    have total : last = report.value.toInt := by
      simp only [last, shown, seen, Option.map_some, Option.getD_some]
    rw [given, total]
    exact ⟨Quantity.hasType_sub rfl _ _ typed remembered, Quantity.toInt_bounds remembered,
      Quantity.toInt_sub typed remembered⟩

end Faithful

/-- Every metric of changes of a monotonic sum gives each series that it shows the total held less
the total that the reader was last shown, exactly if the total has not fallen below that one; it
never does if the measurements are increments. If it has, the value given exceeds the whole total,
although the metric is marked as monotonic. -/
theorem monotonic_changes_exact_iff (definition : StreamDefinition) (filter : ExemplarFilter)
    (start : UInt64) (readers : List TemporalityChoice)
    (monotonic : definition.kind.isMonotonic = true) (operations : List Operation)
    (measured : ∀ operation ∈ operations, operation.HasType .unsigned)
    (bounded : (Account.create definition filter start readers).Bounded readers operations)
    (position : Nat) (temporality : TemporalityChoice)
    (reader : readers[position]? = some temporality)
    (delta : temporality definition.kind = .delta) (since time : UInt64) :
    let ledger := run readers { account := .create definition filter start readers } operations
    let stream := ledger.account.stream
    ∀ metric, (stream.collect ⟨position, temporality, since⟩ time).2 = some metric →
      metric.aggregation = .sum .delta true ∧ ∀ point ∈ metric.points, ∃ set total,
        let last := ((ledger.shown position set).map (·.toInt)).getD 0
        point.attributes = set.toList ∧ point.value.HasType .unsigned ∧
          (stream.live set).map (·.value) = some total ∧
          (point.value.toInt = total.toInt - last ↔ last ≤ total.toInt) ∧
          (point.value.toInt ≤ total.toInt ↔ last ≤ total.toInt) ∧
          (definition.kind = .counter → last ≤ total.toInt) := by
  intro ledger stream metric collected
  have faithful : ledger.Faithful readers :=
    (faithful_create definition filter start readers).run operations measured bounded
  have same : stream.definition = definition := by
    have terms := (Account.create definition filter start readers).sameTerms_run readers operations
    rw [← account_run readers { account := .create definition filter start readers }] at terms
    exact terms.definition
  have sums : stream.definition.kind.isSum = true := by
    rw [same]
    cases kind : definition.kind <;> first | rfl | (rw [kind] at monotonic; cases monotonic)
  have asks : AsksForDelta readers stream.definition.kind position :=
    ⟨temporality, reader, same ▸ delta⟩
  have inside : position < stream.slots.length := faithful.accurate.slots ▸ asks.lt_length
  have found := List.getElem?_eq_getElem inside
  obtain ⟨_, _, aggregation, points, _⟩ := stream.of_collect _ time collected
  have changes : metric.points =
      (stream.deltaPoints ⟨position, temporality, since⟩ time).2 := by
    rw [points, Stream.pointsFor_eq, Stream.points]
    simp only [same, delta]
  have marked : metric.aggregation = .sum .delta true := by
    rw [aggregation, Stream.aggregation, if_pos sums, same, monotonic]
    exact congrArg (Aggregation.sum · true) delta
  refine ⟨marked, fun point member => ?_⟩
  rw [changes, stream.points_deltaPoints _ time _ found] at member
  obtain ⟨⟨set, accumulation⟩, entry, rfl⟩ := List.mem_map.mp member
  obtain ⟨present, _⟩ := (stream.mem_news_iff faithful.accurate.coherent.distinct _ _ _).mp entry
  have change := faithful.change_toInt sums position asks set accumulation present
  rw [Stream.last_of_getElem? found] at change
  obtain ⟨typed, bounds, value⟩ := change
  have rises : definition.kind = .counter →
      ((ledger.shown position set).map (·.toInt)).getD 0 ≤ accumulation.value.toInt := by
    intro counter
    have increments : stream.definition.kind.isPrecomputed = false := by rw [same, counter]; rfl
    cases shown : ledger.shown position set with
    | none =>
      exact (Quantity.toInt_bounds (faithful.accurate.typed.live set accumulation present)).1
    | some total => exact faithful.rising increments position set accumulation total present shown
  refine ⟨set, accumulation.value, rfl, typed, congrArg _ present, ?_, ?_, rises⟩
  all_goals
    dsimp only [Stream.point]
    rw [value]
    split <;> omega

/-- Observed totals of 10 and then 15 are given as 10 and as 5. -/
theorem monotonic_changes_exact_iff_rising :
    let definition : StreamDefinition := ⟨"total", "", "", .observableCounter, none, 2000⟩
    let readers : List TemporalityChoice := [fun _ => .delta]
    let ledger := run readers { account := .create definition .alwaysOff 1 readers }
      [.record 2 (.unsigned 10) [], .collect 0 1 3, .record 4 (.unsigned 15) []]
    let stream := ledger.account.stream
    let collected := (stream.collect ⟨0, fun _ => .delta, 3⟩ 5).2
    collected.map (fun metric => metric.points.map (·.value.toInt)) = some [5] ∧
      ∀ metric, collected = some metric →
        metric.aggregation = .sum .delta true ∧ ∀ point ∈ metric.points, ∃ set total,
          let last := ((ledger.shown 0 set).map (·.toInt)).getD 0
          point.attributes = set.toList ∧ point.value.HasType .unsigned ∧
            (stream.live set).map (·.value) = some total ∧
            (point.value.toInt = total.toInt - last ↔ last ≤ total.toInt) ∧
            (point.value.toInt ≤ total.toInt ↔ last ≤ total.toInt) ∧
            (InstrumentKind.observableCounter = .counter → last ≤ total.toInt) := by
  intro definition readers ledger stream collected
  have measured : ∀ operation ∈ [Operation.record 2 (.unsigned 10) [], .collect 0 1 3,
      .record 4 (.unsigned 15) []], operation.HasType .unsigned := by
    simp [Operation.HasType, Quantity.HasType]
  have observed : ∀ (account : Account) now total, account.stream.definition = definition →
      (Operation.record now total []).Fits account.stream := by
    intro account now total same set _ increments
    rw [same] at increments
    cases increments
  have bounded : (Account.create definition .alwaysOff 1 readers).Bounded readers
      [.record 2 (.unsigned 10) [], .collect 0 1 3, .record 4 (.unsigned 15) []] :=
    ⟨observed _ _ _ rfl, trivial, observed _ _ _ rfl, trivial⟩
  have given : collected.map (fun metric => metric.points.map (·.value.toInt)) = some [5] := by
    decide +kernel
  exact ⟨given, monotonic_changes_exact_iff definition .alwaysOff 1 readers rfl _ measured
    bounded 0 (fun _ => .delta) rfl rfl 3 5⟩

/-- A total of 5 is observed after one of 10, and the reader is given an increase by almost 2^64. -/
theorem monotonic_change_wraps :
    let definition : StreamDefinition := ⟨"total", "", "", .observableCounter, none, 2000⟩
    let readers : List TemporalityChoice := [fun _ => .delta]
    let ledger := run readers { account := .create definition .alwaysOff 1 readers }
      [.record 2 (.unsigned 10) [], .collect 0 1 3, .record 4 (.unsigned 5) []]
    let stream := ledger.account.stream
    (ledger.shown 0 (.ofList [])).map (·.toInt) = some 10 ∧
      (stream.live (.ofList [])).map (·.value.toInt) = some 5 ∧
      (stream.collect ⟨0, fun _ => .delta, 3⟩ 5).2.map (fun metric =>
          (metric.aggregation, metric.points.map (·.value.toInt))) =
        some (.sum .delta true, [2 ^ 64 - 5]) := by
  decide +kernel

end Ledger

end Metering
