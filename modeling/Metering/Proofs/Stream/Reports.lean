import Metering.Proofs.Stream.Deltas

/-!
What a reader was given altogether. The changes that a reader was given for a set telescope: they
come to the values at which series of the set were dropped, and to what the reader remembers of the
present one. This holds for observed totals as well as for increments.
-/

namespace Metering

/-- The values of the points with given attributes, in the order of the points. -/
def valuesAt (attributes : List Attribute) (points : List DataPoint) : List Quantity :=
  (points.filter fun point => point.attributes = attributes).map (·.value)

theorem valuesAt_append (attributes : List Attribute) (first second : List DataPoint) :
    valuesAt attributes (first ++ second) =
      valuesAt attributes first ++ valuesAt attributes second := by
  rw [valuesAt, List.filter_append, List.map_append]
  rfl

namespace Stream

/-- The change of a set that is news to the reader at a position. -/
def due (stream : Stream) (position : Nat) (set : AttributeSet) : Option Quantity :=
  ((stream.live set).filter fun accumulation =>
    !accumulation.isKnown (stream.last position set)).map fun accumulation =>
      stream.change (accumulation.seen (stream.last position set)) accumulation

section Due

variable {stream : Stream} {position : Nat} {set : AttributeSet} {accumulation : Accumulation}

theorem due_absent (absent : stream.live set = none) : stream.due position set = none := by
  rw [due, absent]
  rfl

theorem due_known (present : stream.live set = some accumulation)
    (known : accumulation.isKnown (stream.last position set) = true) :
    stream.due position set = none := by
  simp [due, present, known]

theorem due_news (present : stream.live set = some accumulation)
    (news : accumulation.isKnown (stream.last position set) = false) :
    stream.due position set =
      some (stream.change (accumulation.seen (stream.last position set)) accumulation) := by
  simp [due, present, news, Option.filter]

end Due

/-- A collection of changes answers at most one point for a set. -/
theorem valuesAt_collect (stream : Stream) (coherent : stream.Coherent) (collector : Collector)
    (time : UInt64) (delta : collector.temporality stream.definition.kind = .delta)
    (bounded : collector.position < stream.slots.length) (set : AttributeSet)
    (proper : set.Canonical) :
    valuesAt set.toList (stream.pointsFor collector time) =
      (stream.due collector.position set).toList := by
  have found := List.getElem?_eq_getElem bounded
  have answered : stream.pointsFor collector time = (stream.deltaPoints collector time).2 := by
    rw [pointsFor_eq, points]
    simp only [delta]
  have chosen : ((stream.news stream.slots[collector.position]).filter fun entry =>
        decide (entry.1.toList = set.toList)) =
      (((stream.live set).map (Prod.mk set)).toList).filter fun entry =>
        !entry.2.isKnown (stream.slots[collector.position].get? entry.1) := by
    rw [news, List.filter_comm, live, Table.get?,
      ← Table.filter_key set _ coherent.distinct]
    congr 1
    apply List.filter_congr
    intro entry member
    have present := (Table.get?_eq_some_iff _ coherent.distinct entry.1 entry.2).mpr member
    have canonical := coherent.canonical entry.1 entry.2 present
    have same : entry.1.toList = set.toList ↔ entry.1 = set :=
      ⟨AttributeSet.eq_of_toList_eq canonical proper, congrArg _⟩
    rw [decide_eq_decide, same]
  rw [answered, stream.points_deltaPoints collector time _ found, due, last_of_getElem? found,
    valuesAt, List.filter_map, List.map_map]
  change List.map _ (List.filter (fun entry : AttributeSet × Accumulation =>
    decide (entry.1.toList = set.toList)) _) = _
  rw [chosen]
  cases stream.live set with
  | none => rfl
  | some accumulation =>
    cases known : accumulation.isKnown (stream.slots[collector.position].get? set) with
    | true => simp [known]
    | false => simp [known, point, Option.filter]

end Stream

namespace Account

/-- Whether the points that readers of changes were given come to the series dropped and to what
these readers remember. -/
structure Earned (readers : List TemporalityChoice) (number : NumberType) (account : Account) :
    Prop where
  absent : ∀ position set, AsksForDelta readers account.stream.definition.kind position →
    set.Canonical → account.stream.live set = none →
      Quantity.sum number (valuesAt set.toList (account.given position)) =
        Quantity.sum number (account.dropped set)
  present : ∀ position set accumulation,
    AsksForDelta readers account.stream.definition.kind position → set.Canonical →
      account.stream.live set = some accumulation →
        Quantity.sum number (valuesAt set.toList (account.given position)) =
          Quantity.sum number (account.dropped set) +
            ((accumulation.seen (account.stream.last position set)).map (·.value)).getD
              (Quantity.sum number [])

section Earned

variable {readers : List TemporalityChoice} {number : NumberType} {account : Account}

theorem earned_create (definition : StreamDefinition) (filter : ExemplarFilter)
    (start : UInt64) (readers : List TemporalityChoice) :
    (create definition filter start readers).Earned readers number :=
  ⟨fun _ _ _ _ _ => rfl, nofun⟩

theorem earned_reset : Earned readers number { stream := account.stream.reset } :=
  ⟨fun _ _ _ _ _ => rfl, nofun⟩

theorem Earned.record (earned : account.Earned readers number)
    (coherent : account.stream.Coherent) (integer : number.isInteger) (now : UInt64)
    (value : Quantity) (attributes : List Attribute) :
    (account.record now value attributes).Earned readers number := by
  cases placed : account.stream.place? value attributes with
  | none =>
    rw [account.record_refused now value attributes placed]
    exact earned
  | some key =>
    have live := account.stream.live_record now value attributes key placed
    have last := account.stream.last_record now value attributes key placed
    have terms := account.stream.sameTerms_record now value attributes key placed
    rw [← account.stream_record now value attributes] at live last terms
    constructor
    case absent =>
      intro position set asks proper nothing
      rw [terms.definition] at asks
      rw [live] at nothing
      split at nothing
      next => cases nothing
      next =>
        rw [given_record, dropped_record]
        exact earned.absent position set asks proper nothing
    case present =>
      intro position set accumulation asks proper present
      rw [terms.definition] at asks
      rw [given_record, dropped_record, last]
      rw [live] at present
      split at present
      next same =>
        subst same
        rw [← Option.some.inj present]
        change _ = _ + ((((account.stream.live set).getD (account.stream.fresh value)).seen
          (account.stream.last position set)).map (·.value)).getD _
        cases found : account.stream.live set with
        | some accumulation => exact earned.present position set accumulation asks proper found
        | none =>
          rw [Option.getD_none, coherent.seen_fresh set value position,
            earned.absent position set asks proper found]
          exact (Quantity.add_zero integer _ (Quantity.hasType_sum integer _)).symm
      next => exact earned.present position set accumulation asks proper present

/-- A reader that knows the current value of a series was given what came before it in the series
of the same set, and this value. -/
theorem Earned.of_known (earned : account.Earned readers number)
    (coherent : account.stream.Coherent) (integer : number.isInteger)
    (typed : account.stream.Typed number) (position : Nat) (set : AttributeSet)
    (accumulation : Accumulation)
    (asks : AsksForDelta readers account.stream.definition.kind position)
    (proper : set.Canonical) (present : account.stream.live set = some accumulation)
    (known : accumulation.isKnown (account.stream.last position set) = true) :
    Quantity.sum number (valuesAt set.toList (account.given position)) =
      Quantity.sum number (account.dropped set ++ [accumulation.value]) := by
  obtain ⟨report, remembered, generation, updates⟩ := (accumulation.isKnown_iff _).mp known
  have seen : accumulation.seen (account.stream.last position set) = some report :=
    (Accumulation.seen_eq_some_iff _ _ _).mpr ⟨remembered, generation⟩
  have current := (coherent.agreed position set accumulation report present seen).2 updates
  have given := earned.present position set accumulation asks proper present
  rw [seen, Option.map_some, Option.getD_some, current] at given
  rw [given, Quantity.sum_append integer _ _ (typed.live set accumulation present)]

/-- A reader that is given the change of a series has then been given its current value. -/
theorem Earned.of_news (earned : account.Earned readers number) (integer : number.isInteger)
    (typed : account.stream.Typed number) (sums : account.stream.definition.kind.isSum = true)
    (position : Nat) (set : AttributeSet) (accumulation : Accumulation)
    (asks : AsksForDelta readers account.stream.definition.kind position)
    (proper : set.Canonical) (present : account.stream.live set = some accumulation) :
    Quantity.sum number (valuesAt set.toList (account.given position) ++ [account.stream.change
        (accumulation.seen (account.stream.last position set)) accumulation]) =
      Quantity.sum number (account.dropped set ++ [accumulation.value]) := by
  have given := earned.present position set accumulation asks proper present
  have value := typed.live set accumulation present
  have before : (Quantity.sum number (account.dropped set)).HasType number :=
    Quantity.hasType_sum integer _
  rw [Quantity.sum_append integer _ _ value]
  unfold Stream.change
  cases seen : accumulation.seen (account.stream.last position set) with
  | none =>
    rw [seen, Option.map_none, Option.getD_none, Quantity.sum_nil,
      Quantity.add_zero integer _ before] at given
    dsimp only
    rw [Quantity.sum_append integer _ _ value, given]
  | some report =>
    rw [seen, Option.map_some, Option.getD_some] at given
    -- The change leads from what the reader remembers to the current value.
    have remembered := typed.last position set report
      ((Accumulation.seen_eq_some_iff _ _ _).mp seen).1
    dsimp only
    rw [if_pos sums, Quantity.sum_append integer _ _
        (Quantity.hasType_sub integer _ _ value remembered), given,
      Quantity.add_add_sub integer _ _ _ before remembered value]

/-- A collection of changes adds to what its reader was given, and keeps the others' account: the
value of a series that it drops has been given to all of them. -/
theorem Earned.collect (earned : account.Earned readers number)
    (accurate : account.Accurate readers number) (integer : number.isInteger)
    (sums : account.stream.definition.kind.isSum = true) (position : Nat)
    (temporality : TemporalityChoice) (reader : readers[position]? = some temporality)
    (since time : UInt64) :
    (account.collect ⟨position, temporality, since⟩ time).Earned readers number := by
  have coherent := accurate.coherent
  have typed := accurate.typed
  have terms := account.stream.sameTerms_collect ⟨position, temporality, since⟩ time
  have others := account.stream.last_collect ⟨position, temporality, since⟩ time
  cases asked : temporality account.stream.definition.kind with
  | cumulative =>
    have unchanged := account.stream.collect_cumulative ⟨position, temporality, since⟩ time asked
    have stays : ∀ set, account.stream.droppedAt account.stream set = none := by
      intro set
      unfold Stream.droppedAt
      cases account.stream.live set <;> rfl
    constructor
    case absent =>
      intro other set asks proper nothing
      rw [stream_collect, terms.definition] at asks
      rw [stream_collect, unchanged] at nothing
      rw [given_collect, if_neg (asks.ne_of_cumulative reader asked), dropped_collect, unchanged,
        stays, Option.toList_none, List.append_nil]
      exact earned.absent other set asks proper nothing
    case present =>
      intro other set accumulation asks proper present
      rw [stream_collect, terms.definition] at asks
      rw [stream_collect, unchanged] at present
      rw [given_collect, if_neg (asks.ne_of_cumulative reader asked), dropped_collect,
        stream_collect, unchanged, stays, Option.toList_none, List.append_nil]
      exact earned.present other set accumulation asks proper present
  | delta =>
    have bounded : position < account.stream.slots.length := by
      rw [accurate.slots]
      exact (List.getElem?_eq_some_iff.mp reader).1
    have visited := account.stream.visited_collect coherent ⟨position, temporality, since⟩ time
      asked bounded
    have given : ∀ other set, set.Canonical →
        valuesAt set.toList ((account.collect ⟨position, temporality, since⟩ time).given other) =
          if other = position then valuesAt set.toList (account.given other) ++
            (account.stream.due position set).toList
          else valuesAt set.toList (account.given other) := by
      intro other set proper
      rw [given_collect]
      split
      next =>
        rw [valuesAt_append, account.stream.valuesAt_collect coherent _ time asked bounded set
          proper]
      next => rfl
    constructor
    case absent =>
      intro other set asks proper nothing
      rw [stream_collect, terms.definition] at asks
      rw [stream_collect] at nothing
      rw [given other set proper, dropped_collect, Stream.droppedAt, nothing]
      cases before : account.stream.live set with
      | none =>
        rw [Stream.due_absent before, Option.toList_none, List.append_nil, ite_self]
        change _ = Quantity.sum number (account.dropped set ++ [])
        rw [List.append_nil]
        exact earned.absent other set asks proper before
      | some accumulation =>
        change _ = Quantity.sum number (account.dropped set ++ [accumulation.value])
        by_cases mine : other = position
        · subst mine
          rw [if_pos rfl]
          cases known : accumulation.isKnown (account.stream.last other set) with
          | true =>
            rw [Stream.due_known before known, Option.toList_none, List.append_nil]
            exact earned.of_known coherent integer typed other set accumulation asks proper before
              known
          | false =>
            rw [Stream.due_news before known]
            exact earned.of_news integer typed sums other set accumulation asks proper before
        · rw [if_neg mine]
          have known := (visited set).known_of_dropped coherent bounded before nothing other mine
            (accurate.slots ▸ asks.lt_length)
          exact earned.of_known coherent integer typed other set accumulation asks proper before
            known
    case present =>
      intro other set left asks proper present
      rw [stream_collect, terms.definition] at asks
      rw [stream_collect] at present
      rw [given other set proper, dropped_collect, Stream.droppedAt, present, stream_collect]
      change _ = Quantity.sum number (account.dropped set ++ []) + _
      rw [List.append_nil]
      obtain ⟨accumulation, before, step⟩ := (visited set).of_live present
      have same := earned.present other set accumulation asks proper before
      by_cases mine : other = position
      · subst mine
        rw [if_pos rfl]
        rcases step with ⟨known, unchanged, memory⟩ | ⟨news, raised, memory⟩
        · rw [memory, unchanged, Stream.due_known before known, Option.toList_none,
            List.append_nil]
          exact same
        · have seen : left.seen (some accumulation.report) = some accumulation.report := by
            rw [raised]
            exact (Accumulation.seen_eq_some_iff _ _ _).mpr ⟨rfl, rfl⟩
          rw [memory, seen]
          change _ = _ + accumulation.value
          rw [← Quantity.sum_append integer _ _ (typed.live set accumulation before),
            Stream.due_news before news]
          exact earned.of_news integer typed sums other set accumulation asks proper before
      · rw [if_neg mine, others other mine set]
        rcases step with ⟨_, unchanged, _⟩ | ⟨_, raised, _⟩
        · exact unchanged ▸ same
        · exact raised ▸ same

theorem Earned.step (earned : account.Earned readers number)
    (accurate : account.Accurate readers number) (integer : number.isInteger)
    (sums : account.stream.definition.kind.isSum = true) (operation : Operation) :
    (account.step readers operation).Earned readers number := by
  cases operation with
  | record now value attributes =>
    exact earned.record accurate.coherent integer now value attributes
  | collect position since time =>
    simp only [Account.step]
    split
    next => exact earned
    next temporality reader =>
      exact earned.collect accurate integer sums position temporality reader since time
  | reset => exact earned_reset

theorem Earned.run (earned : account.Earned readers number)
    (accurate : account.Accurate readers number) (integer : number.isInteger)
    (sums : account.stream.definition.kind.isSum = true) (operations : List Operation)
    (measured : ∀ operation ∈ operations, operation.HasType number) :
    (account.run readers operations).Earned readers number := by
  induction operations generalizing account with
  | nil => exact earned
  | cons operation rest ih =>
    have kind := (account.sameTerms_step readers operation).definition
    exact ih (earned.step accurate integer sums operation)
      (accurate.step integer operation (measured _ List.mem_cons_self)) (kind ▸ sums)
      fun later member => measured later (List.mem_cons_of_mem _ member)

end Earned

end Account

end Metering
