import Metering.Proofs.Stream.Limit
import Metering.Proofs.Stream.Reports

/-!
Overlapping collections of an observed total. A collection first has the total observed and later
reads the stream, and the two stages of several collections may come in any order. The order alone
decides when a series lapses: at a collection that finds nothing new once every reader has been
given the last observation. From then on readers are given the lapsed total once more, so the
reported changes come to the total exactly if what has lapsed comes to zero. Nothing lapses as long
as the collections of one reader do not overlap each other.
-/

namespace Metering

/-- A stage of a collection for the reader at a position. -/
inductive Stage where
  /-- The callback observes a total. -/
  | observe (position : Nat) (now : UInt64) (total : Quantity)
  /-- The stream is read. -/
  | collect (position : Nat) (since time : UInt64)

namespace Stage

/-- What a stage does to a stream whose callback always observes the same attributes. -/
def operation (attributes : List Attribute) : Stage → Operation
  | .observe _ now total => .record now total attributes
  | .collect position since time => .collect position since time

/-- Whether a stage observes at most a total that instruments of a kind accept. -/
def Proper (kind : InstrumentKind) (number : NumberType) : Stage → Prop
  | .observe _ _ total => total.HasType number ∧ (kind.isMonotonic && total.isNegative) = false
  | .collect _ _ _ => True

theorem Proper.hasType {kind : InstrumentKind} {number : NumberType} {stage : Stage}
    {attributes : List Attribute} (proper : stage.Proper kind number) :
    (stage.operation attributes).HasType number := by
  cases stage with
  | observe => exact proper.1
  | collect => trivial

end Stage

/-- Whether no two collections of one reader overlap, for readers of which some have begun a
collection. -/
def Sequential (busy : Nat → Bool) : List Stage → Prop
  | [] => True
  | .observe position _ _ :: rest =>
    busy position = false ∧ Sequential (fun other => other = position || busy other) rest
  | .collect position _ _ :: rest =>
    busy position = true ∧ Sequential (fun other => other ≠ position && busy other) rest

/-- What the order of stages tells about an observed total. -/
structure Watch where
  /-- The total that the stream holds. -/
  total : Option Quantity := none
  /-- Whether the reader at a position has yet to be given it. -/
  waiting : Nat → Bool := fun _ => false
  /-- The totals that the stream held when their series lapsed. -/
  lapsed : List Quantity := []

namespace Watch

/-- Follows a stage of a collection for one of so many readers. -/
def step (readers : Nat) (watch : Watch) : Stage → Watch
  | .observe _ _ total => { watch with total := some total, waiting := fun _ => true }
  | .collect position _ _ =>
    if readers ≤ position then watch
    else if watch.waiting position then
      { watch with waiting := fun other => other ≠ position && watch.waiting other }
    else if (List.range readers).any watch.waiting then watch
    else { watch with total := none, lapsed := watch.lapsed ++ watch.total.toList }

def run (readers : Nat) (watch : Watch) (stages : List Stage) : Watch :=
  stages.foldl (step readers) watch

section Collect

variable (readers : Nat) (watch : Watch) (position : Nat) (since time : UInt64)

theorem collect_outside (outside : readers ≤ position) :
    watch.step readers (.collect position since time) = watch := if_pos outside

theorem collect_waiting (inside : position < readers) (waits : watch.waiting position = true) :
    watch.step readers (.collect position since time) =
      { watch with waiting := fun other => other ≠ position && watch.waiting other } := by
  rw [step, if_neg (Nat.not_le.mpr inside), if_pos waits]

theorem collect_served (served : watch.waiting position = false)
    (waits : (List.range readers).any watch.waiting = true) :
    watch.step readers (.collect position since time) = watch := by
  rw [step, if_neg (Bool.eq_false_iff.mp served), if_pos waits, ite_self]

theorem collect_lapse (inside : position < readers)
    (settled : (List.range readers).any watch.waiting = false) :
    watch.step readers (.collect position since time) =
      { watch with total := none, lapsed := watch.lapsed ++ watch.total.toList } := by
  have served : watch.waiting position = false := by
    simpa using List.any_eq_false.mp settled position (List.mem_range.mpr inside)
  rw [step, if_neg (Nat.not_le.mpr inside), if_neg (Bool.eq_false_iff.mp served),
    if_neg (Bool.eq_false_iff.mp settled)]

/-- Nothing can lapse where nothing is held. -/
theorem collect_none (nothing : watch.total = none) :
    (watch.step readers (.collect position since time)).total = none ∧
      (watch.step readers (.collect position since time)).lapsed = watch.lapsed := by
  simp only [step]
  split
  next => exact ⟨nothing, rfl⟩
  next =>
    split
    next => exact ⟨nothing, rfl⟩
    next =>
      split
      next => exact ⟨nothing, rfl⟩
      next =>
        rw [nothing]
        exact ⟨rfl, List.append_nil _⟩

end Collect

/-- Whoever has begun a collection has yet to be given the total, so nothing lapses. -/
theorem lapsed_run (readers : Nat) (watch : Watch) (busy : Nat → Bool)
    (awaits : ∀ position < readers, busy position = true → watch.waiting position = true)
    (stages : List Stage) (sequential : Sequential busy stages) :
    (watch.run readers stages).lapsed = watch.lapsed := by
  -- A reader that has begun a collection waits until it reads, whatever others do in between.
  induction stages generalizing watch busy with
  | nil => rfl
  | cons stage rest ih =>
    cases stage with
    | observe position now total =>
      exact ih (watch.step readers (.observe position now total)) _ (fun _ _ _ => rfl)
        sequential.2
    | collect position since time =>
      by_cases inside : position < readers
      · have waits := awaits position inside sequential.1
        have next := collect_waiting readers watch position since time inside waits
        have kept : (watch.step readers (.collect position since time)).lapsed = watch.lapsed := by
          rw [next]
        refine (ih _ _ ?_ sequential.2).trans kept
        intro other within begun
        simp only [Bool.and_eq_true, decide_eq_true_eq] at begun
        rw [next]
        simp [begun.1, awaits other within begun.2]
      · have next := collect_outside readers watch position since time (Nat.not_lt.mp inside)
        refine (ih _ _ ?_ sequential.2).trans (congrArg lapsed next)
        intro other within begun
        simp only [Bool.and_eq_true] at begun
        rw [next]
        exact awaits other within begun.2

end Watch

namespace Stream

/-- The set under which a stream without series stores measurements. -/
def firstPlace (stream : Stream) (attributes : List Attribute) : AttributeSet :=
  (Series.empty.route stream.definition (stream.attributeSet attributes)).2.1

theorem canonical_firstPlace (stream : Stream) (attributes : List Attribute) :
    (stream.firstPlace attributes).Canonical :=
  canonical_route _ _ _ (stream.canonical_attributeSet attributes)

/-- A stream with no other series stores a measurement where it would store the first one. -/
theorem place_lone (stream : Stream) (limited : stream.Limited) (attributes : List Attribute)
    (lone : ∀ set, set ≠ stream.firstPlace attributes → stream.live set = none)
    (value : Quantity) (accepted : stream.accepts value = true) :
    stream.place? value attributes = some (stream.firstPlace attributes) := by
  have alone : ∀ set ∈ stream.series.accumulations.keys, set = stream.firstPlace attributes := by
    intro set member
    by_contra other
    have there := (Table.mem_keys_iff stream.series.accumulations set).mp member
    rw [show stream.series.accumulations.get? set = none from lone set other] at there
    cases there
  rw [place?, if_pos accepted]
  unfold firstPlace at alone ⊢
  generalize stream.attributeSet attributes = set at alone ⊢
  have nothing : Series.empty.accumulations.contains set = false := rfl
  cases counts : set.isCounted with
  | false => simp [Series.route, counts]
  | true =>
    by_cases room : 0 < stream.definition.cardinalityLimit
    · have first : (Series.empty.route stream.definition set).2.1 = set := by
        simp [Series.route, counts, nothing, show Series.empty.tracked = 0 from rfl, room]
      rw [first] at alone ⊢
      by_cases member : set ∈ stream.series.accumulations.keys
      · simp [Series.route, (stream.series.contains_iff set).mpr member]
      · have none_there : stream.series.accumulations.keys = [] := by
          rw [List.eq_nil_iff_forall_not_mem]
          intro other there
          exact member (alone other there ▸ there)
        have untracked : stream.series.tracked = 0 := by
          rw [limited.exact, none_there]
          rfl
        have absent : stream.series.accumulations.contains set = false := by
          rw [← Bool.not_eq_true, stream.series.contains_iff]
          exact member
        simp [Series.route, counts, absent, untracked, room]
    · have first : (Series.empty.route stream.definition set).2.1 = .overflow := by
        simp [Series.route, counts, nothing, show Series.empty.tracked = 0 from rfl, room]
      rw [first] at alone ⊢
      have absent : stream.series.accumulations.contains set = false := by
        rw [← Bool.not_eq_true, stream.series.contains_iff]
        intro member
        rw [alone set member, AttributeSet.isCounted_overflow] at counts
        cases counts
      have full : ¬stream.series.tracked < stream.definition.cardinalityLimit := by omega
      simp [Series.route, counts, absent, full]

theorem evicting_of_deltas (definition : StreamDefinition) (filter : ExemplarFilter)
    (start : UInt64) (readers : List TemporalityChoice) (position : Nat)
    (inside : position < readers.length)
    (deltas : ∀ temporality ∈ readers, temporality definition.kind = .delta) :
    (create definition filter start readers).evicting = true := by
  have some_reader : readers.isEmpty = false := by
    rw [List.isEmpty_eq_false_iff_exists_mem]
    exact ⟨readers[position], List.getElem_mem inside⟩
  have all_deltas : (readers.all fun temporality =>
      decide (temporality definition.kind = .delta)) = true := by
    rw [List.all_eq_true]
    exact fun temporality member => decide_eq_true (deltas temporality member)
  simp only [create, some_reader, all_deltas, Bool.not_false, Bool.and_true]

/-- All acknowledgements are there when every reader knows the current value. -/
theorem Coherent.acks_eq_iff {stream : Stream} (coherent : stream.Coherent) (set : AttributeSet)
    (accumulation : Accumulation) (present : stream.live set = some accumulation) :
    accumulation.acks = stream.slots.length ↔ ∀ position < stream.slots.length,
      accumulation.isKnown (stream.last position set) = true := by
  rw [coherent.acknowledged set accumulation present, List.countP_eq_length]
  constructor
  · intro all position inside
    rw [last_of_getElem? (List.getElem?_eq_getElem inside)]
    exact all _ (List.getElem_mem inside)
  · intro all slot member
    obtain ⟨position, inside, rfl⟩ := List.getElem_of_mem member
    rw [← last_of_getElem? (List.getElem?_eq_getElem inside)]
    exact all position inside

end Stream

namespace Account

/-- Whether a stream is what the order of stages tells. -/
structure Watched (readers : List TemporalityChoice) (key : AttributeSet) (account : Account)
    (watch : Watch) : Prop where
  lone : ∀ set, set ≠ key → account.stream.live set = none
  total : (account.stream.live key).map (·.value) = watch.total
  known : ∀ accumulation, account.stream.live key = some accumulation →
    ∀ position < readers.length,
      accumulation.isKnown (account.stream.last position key) = !watch.waiting position
  lapsed : account.dropped key = watch.lapsed

section Watched

variable {readers : List TemporalityChoice} {number : NumberType} {account : Account}
  {key : AttributeSet} {watch : Watch}

theorem watched_create (definition : StreamDefinition) (filter : ExemplarFilter)
    (start : UInt64) (readers : List TemporalityChoice) (key : AttributeSet) :
    (create definition filter start readers).Watched readers key {} :=
  ⟨fun _ _ => rfl, rfl, nofun, rfl⟩

theorem Watched.observe (watched : account.Watched readers key watch)
    (coherent : account.stream.Coherent) (limited : account.stream.Limited)
    (attributes : List Attribute) (home : account.stream.firstPlace attributes = key)
    (replaces : account.stream.definition.kind.isPrecomputed = true) (position : Nat)
    (now : UInt64) (total : Quantity) (accepted : account.stream.accepts total = true) :
    (account.step readers ((Stage.observe position now total).operation attributes)).Watched
      readers key (watch.step readers.length (.observe position now total)) := by
  subst home
  have placed := account.stream.place_lone limited attributes watched.lone total accepted
  have live := account.stream.live_record now total attributes _ placed
  have last := account.stream.last_record now total attributes _ placed
  rw [← account.stream_record now total attributes] at live last
  constructor
  case lone =>
    intro set other
    exact (live set).trans ((if_neg other).trans (watched.lone set other))
  case total =>
    change ((account.record now total attributes).stream.live _).map (·.value) = some total
    rw [live, if_pos rfl]
    simp [Accumulation.take, replaces]
  case known =>
    intro accumulation present other _
    change (account.record now total attributes).stream.live _ = some accumulation at present
    change accumulation.isKnown ((account.record now total attributes).stream.last other _) = false
    rw [live, if_pos rfl] at present
    rw [last, ← Option.some.inj present]
    exact coherent.isKnown_take _ _ total _ other
  case lapsed =>
    change (account.record now total attributes).dropped _ = watch.lapsed
    rw [dropped_record]
    exact watched.lapsed

/-- A collection answers what is new to its reader, and otherwise drops the series if it is new to
nobody. -/
theorem Watched.collect (watched : account.Watched readers key watch)
    (coherent : account.stream.Coherent) (slots : account.stream.slots.length = readers.length)
    (evicting : account.stream.evicting = true) (totals : account.stream.reportsTotals = true)
    (position : Nat) (temporality : TemporalityChoice)
    (reader : readers[position]? = some temporality)
    (delta : temporality account.stream.definition.kind = .delta) (since time : UInt64) :
    (account.collect ⟨position, temporality, since⟩ time).Watched readers key
      (watch.step readers.length (.collect position since time)) := by
  have inside : position < readers.length := (List.getElem?_eq_some_iff.mp reader).1
  have bounded : position < account.stream.slots.length := slots ▸ inside
  have visited := account.stream.visited_collect coherent ⟨position, temporality, since⟩ time
    delta bounded
  have others := account.stream.last_collect ⟨position, temporality, since⟩ time
  rw [← stream_collect] at visited others
  have lone : ∀ set, set ≠ key →
      (account.collect ⟨position, temporality, since⟩ time).stream.live set = none := by
    intro set other
    rw [Option.eq_none_iff_forall_ne_some]
    intro left present
    obtain ⟨_, _, before, _⟩ := (visited set).live_before present
    rw [watched.lone set other] at before
    cases before
  have dropped := account.dropped_collect ⟨position, temporality, since⟩ time key
  rw [← stream_collect, Stream.droppedAt, watched.lapsed] at dropped
  have everyone : ∀ accumulation, account.stream.live key = some accumulation →
      (accumulation.acks = account.stream.slots.length ↔
        (List.range readers.length).any watch.waiting = false) := by
    intro accumulation present
    rw [coherent.acks_eq_iff key accumulation present, slots, List.any_eq_false]
    refine forall_congr' fun other => ?_
    rw [List.mem_range]
    refine imp_congr_right fun within => ?_
    rw [watched.known accumulation present other within, Bool.not_eq_true, Bool.not_eq_true']
  cases visited key with
  | absent before after _ =>
    have nothing : watch.total = none := by rw [← watched.total, before, Option.map_none]
    have still := watch.collect_none readers.length position since time nothing
    constructor
    case lone => exact lone
    case total => rw [after, still.1, Option.map_none]
    case known =>
      intro accumulation present
      rw [after] at present
      cases present
    case lapsed =>
      rw [dropped, after, before, still.2]
      exact List.append_nil _
  | quiet accumulation before known stays after memory =>
    have served := watched.known accumulation before position inside
    rw [known, eq_comm, Bool.not_eq_true'] at served
    have waits : (List.range readers.length).any watch.waiting = true := by
      simpa [Stream.lapses, evicting, totals, everyone accumulation before] using stays
    rw [watch.collect_served readers.length position since time served waits]
    constructor
    case lone => exact lone
    case total => rw [after, ← watched.total, before]
    case known =>
      intro left present other within
      rw [after] at present
      cases present
      by_cases mine : other = position
      · subst mine
        rw [memory]
        exact watched.known accumulation before other within
      · rw [others other mine key]
        exact watched.known accumulation before other within
    case lapsed =>
      rw [dropped, after]
      exact List.append_nil _
  | lapsed accumulation before known due after _ =>
    have settled : (List.range readers.length).any watch.waiting = false := by
      rw [← everyone accumulation before]
      simpa [Stream.lapses, evicting, totals] using due
    rw [watch.collect_lapse readers.length position since time inside settled]
    constructor
    case lone => exact lone
    case total => rw [after, Option.map_none]
    case known =>
      intro left present
      rw [after] at present
      cases present
    case lapsed =>
      rw [dropped, after, ← watched.total]
      rfl
  | reported accumulation before news _ after memory =>
    have waits := watched.known accumulation before position inside
    rw [news, eq_comm, Bool.not_eq_false'] at waits
    rw [watch.collect_waiting readers.length position since time inside waits]
    constructor
    case lone => exact lone
    case total =>
      rw [after, ← watched.total, before]
      rfl
    case known =>
      intro left present other within
      rw [after] at present
      cases present
      by_cases mine : other = position
      · subst mine
        rw [memory]
        simpa using (Accumulation.isKnown_iff _ _).mpr ⟨_, rfl, rfl, rfl⟩
      · rw [others other mine key]
        change accumulation.isKnown (account.stream.last other key) = _
        simpa [mine] using watched.known accumulation before other within
    case lapsed =>
      rw [dropped, after]
      exact List.append_nil _
  | settled accumulation _ _ due _ _ =>
    simp [Stream.settles, totals] at due

/-- What does not change in a run of such a stream. -/
structure Observed (readers : List TemporalityChoice) (attributes : List Attribute)
    (key : AttributeSet) (stream : Stream) : Prop where
  home : stream.firstPlace attributes = key
  sums : stream.definition.kind.isSum = true
  replaces : stream.definition.kind.isPrecomputed = true
  deltas : ∀ temporality ∈ readers, temporality stream.definition.kind = .delta
  evicting : readers ≠ [] → stream.evicting = true

theorem Observed.of_terms {attributes : List Attribute} {stream next : Stream}
    (observed : Observed readers attributes key stream) (terms : stream.SameTerms next) :
    Observed readers attributes key next := by
  refine ⟨?_, terms.definition ▸ observed.sums, terms.definition ▸ observed.replaces,
    terms.definition ▸ observed.deltas, fun some_reader => ?_⟩
  · rw [← observed.home]
    unfold Stream.firstPlace Stream.attributeSet
    rw [terms.definition]
  · exact terms.evicting.trans (observed.evicting some_reader)

theorem Watched.step (watched : account.Watched readers key watch)
    (accurate : account.Accurate readers number) (limited : account.stream.Limited)
    (attributes : List Attribute) (observed : Observed readers attributes key account.stream)
    (stage : Stage) (proper : stage.Proper account.stream.definition.kind number) :
    (account.step readers (stage.operation attributes)).Watched readers key
      (watch.step readers.length stage) := by
  cases stage with
  | observe position now total =>
    have accepted : account.stream.accepts total = true := by
      rw [Stream.accepts, proper.2]
      rfl
    exact watched.observe accurate.coherent limited attributes observed.home observed.replaces
      position now total accepted
  | collect position since time =>
    simp only [Stage.operation, Account.step]
    split
    next missing =>
      have outside : readers.length ≤ position := List.getElem?_eq_none_iff.mp missing
      rw [watch.collect_outside readers.length position since time outside]
      exact watched
    next temporality reader =>
      have member := List.mem_of_getElem? reader
      have totals : account.stream.reportsTotals = true := by
        simp [Stream.reportsTotals, observed.sums, observed.replaces]
      exact watched.collect accurate.coherent accurate.slots
        (observed.evicting (List.ne_nil_of_mem member)) totals position temporality reader
        (observed.deltas temporality member) since time

theorem Watched.run (watched : account.Watched readers key watch)
    (accurate : account.Accurate readers number) (integer : number.isInteger)
    (limited : account.stream.Limited) (attributes : List Attribute)
    (observed : Observed readers attributes key account.stream) (stages : List Stage)
    (proper : ∀ stage ∈ stages, stage.Proper account.stream.definition.kind number) :
    (account.run readers (stages.map (·.operation attributes))).Watched readers key
      (watch.run readers.length stages) := by
  induction stages generalizing account watch with
  | nil => exact watched
  | cons stage rest ih =>
    have here := proper stage List.mem_cons_self
    have terms := account.sameTerms_step readers (stage.operation attributes)
    refine ih (watched.step accurate limited attributes observed stage here)
      (accurate.step integer _ here.hasType)
      (account.limited_step readers limited accurate.coherent.distinct _)
      (observed.of_terms terms) fun later member => ?_
    rw [terms.definition]
    exact proper later (List.mem_cons_of_mem _ member)

end Watched

/-- Take the last point that a reader was given for an observed total. All that it was given comes
to the total that the stream then held exactly if the totals that had lapsed before come to zero,
and nothing has lapsed if no two collections of one reader overlap. -/
theorem observed_totals_exact (definition : StreamDefinition) (filter : ExemplarFilter)
    (start : UInt64) (readers : List TemporalityChoice) (number : NumberType)
    (integer : number.isInteger) (sums : definition.kind.isSum = true)
    (observable : definition.kind.isObservable = true)
    (deltas : ∀ temporality ∈ readers, temporality definition.kind = .delta)
    (attributes : List Attribute) (before after : List Stage)
    (proper : ∀ stage ∈ before, stage.Proper definition.kind number)
    (position : Nat) (temporality : TemporalityChoice)
    (reader : readers[position]? = some temporality) (since time : UInt64) :
    let fresh := create definition filter start readers
    let key := fresh.stream.firstPlace attributes
    let held := fresh.run readers (before.map (·.operation attributes))
    let final := fresh.run readers
      ((before ++ .collect position since time :: after).map (·.operation attributes))
    let points := held.stream.pointsFor ⟨position, temporality, since⟩ time
    valuesAt key.toList points ≠ [] →
      valuesAt key.toList (final.given position) =
        valuesAt key.toList (held.given position ++ points) →
          ∃ total, (held.stream.live key).map (·.value) = some total ∧
            (Quantity.sum number (valuesAt key.toList (final.given position)) = total ↔
              (2 ^ 64 : Int) ∣ Quantity.total (Watch.run readers.length {} before).lapsed) ∧
            (Sequential (fun _ => false) before →
              Quantity.sum number (valuesAt key.toList (final.given position)) = total) := by
  intro fresh key held final points point last
  have created : fresh.Accurate readers number :=
    accurate_create definition filter start readers
  have inside : position < readers.length := (List.getElem?_eq_some_iff.mp reader).1
  have observed : Observed readers attributes key fresh.stream := by
    refine ⟨rfl, sums, ?_, deltas, fun _ =>
      Stream.evicting_of_deltas definition filter start readers position inside deltas⟩
    change definition.kind.isPrecomputed = true
    cases kind : definition.kind <;> simp_all [InstrumentKind.isObservable,
      InstrumentKind.isPrecomputed]
  have measured : ∀ operation ∈ before.map (·.operation attributes),
      operation.HasType number := by
    intro operation member
    obtain ⟨stage, there, rfl⟩ := List.mem_map.mp member
    exact (proper stage there).hasType
  have watched : held.Watched readers key (Watch.run readers.length {} before) :=
    (watched_create definition filter start readers key).run created integer
      (Stream.limited_create definition filter start readers) attributes observed before proper
  have accurate : held.Accurate readers number := created.run integer _ measured
  have earned : held.Earned readers number :=
    (earned_create definition filter start readers).run created integer sums _ measured
  have kind : held.stream.definition.kind = definition.kind :=
    congrArg StreamDefinition.kind (fresh.sameTerms_run readers _).definition
  have delta := deltas temporality (List.mem_of_getElem? reader)
  have asks : AsksForDelta readers held.stream.definition.kind position :=
    ⟨temporality, reader, kind ▸ delta⟩
  have bounded : position < held.stream.slots.length := accurate.slots ▸ inside
  have canonical : key.Canonical := Stream.canonical_firstPlace _ attributes
  have answered := held.stream.valuesAt_collect accurate.coherent ⟨position, temporality, since⟩
    time (kind ▸ delta) bounded key canonical
  cases present : held.stream.live key with
  | none =>
    rw [Stream.due_absent present] at answered
    exact absurd answered point
  | some accumulation =>
    have typed := accurate.typed.live key accumulation present
    have given : Quantity.sum number (valuesAt key.toList (final.given position)) =
        Quantity.sum number (held.dropped key) + accumulation.value := by
      rw [last, valuesAt_append, answered, ← Quantity.sum_append integer _ _ typed]
      cases known : accumulation.isKnown (held.stream.last position key) with
      | true =>
        rw [Stream.due_known present known] at answered
        exact absurd answered point
      | false =>
        rw [Stream.due_news present known]
        exact earned.of_news integer accurate.typed (kind ▸ sums) position key accumulation asks
          canonical present
    have exact : Quantity.sum number (valuesAt key.toList (final.given position)) =
        accumulation.value ↔
          (2 ^ 64 : Int) ∣ Quantity.total (Watch.run readers.length {} before).lapsed := by
      rw [given, watched.lapsed, ← Quantity.quantity_toInt integer accumulation.value typed,
        Quantity.sum, Quantity.quantity_add integer, Quantity.quantity_eq_iff integer,
        Int.add_sub_cancel]
    refine ⟨accumulation.value, rfl, exact, fun sequential => exact.mpr ?_⟩
    have idle : ∀ other < readers.length, false = true → ({} : Watch).waiting other = true :=
      fun _ _ begun => absurd begun Bool.false_ne_true
    rw [Watch.lapsed_run readers.length {} (fun _ => false) idle before sequential]
    exact Int.dvd_zero _

/-- Collections of two readers overlap, and the later one is given the total that was observed
last. -/
theorem observed_totals_exact_two_readers :
    let definition : StreamDefinition := ⟨"total", "", "", .observableCounter, none, 2000⟩
    let readers : List TemporalityChoice := [fun _ => .delta, fun _ => .delta]
    let fresh := create definition .alwaysOff 1 readers
    let before : List Stage := [.observe 0 2 (.unsigned 10), .observe 1 3 (.unsigned 15),
      .collect 0 1 4]
    let held := fresh.run readers (before.map (·.operation []))
    let final := fresh.run readers ((before ++ [Stage.collect 1 1 5]).map (·.operation []))
    valuesAt [] (final.given 1) = [.unsigned 15] ∧
      ∃ total, (held.stream.live (.ofList [])).map (·.value) = some total ∧
        Quantity.sum .unsigned (valuesAt [] (final.given 1)) = total := by
  refine ⟨rfl, ?_⟩
  obtain ⟨total, present, _, sequential⟩ := observed_totals_exact
    ⟨"total", "", "", .observableCounter, none, 2000⟩ .alwaysOff 1
    [fun _ => .delta, fun _ => .delta] .unsigned rfl rfl rfl (by simp) []
    [.observe 0 2 (.unsigned 10), .observe 1 3 (.unsigned 15), .collect 0 1 4] []
    (by simp [Stage.Proper, Quantity.HasType, Quantity.isNegative]) 1 (fun _ => .delta) rfl 1 5
    (List.cons_ne_nil _ _) rfl
  exact ⟨total, present, sequential (by simp [Sequential])⟩

/-- Two collections of one reader overlap: the later one finds nothing new, the series lapses, and
the next collection is given the whole total once more. -/
theorem observed_totals_repeated :
    let definition : StreamDefinition := ⟨"total", "", "", .observableCounter, none, 2000⟩
    let readers : List TemporalityChoice := [fun _ => .delta]
    let before : List Stage := [.observe 0 2 (.unsigned 10), .observe 0 3 (.unsigned 10),
      .collect 0 1 4, .collect 0 4 5, .observe 0 6 (.unsigned 12)]
    let held := (create definition .alwaysOff 1 readers).run readers
      (before.map (·.operation []))
    let final := held.collect ⟨0, fun _ => .delta, 5⟩ 7
    (held.stream.live (.ofList [])).map (·.value) = some (.unsigned 12) ∧
      valuesAt [] (final.given 0) = [.unsigned 10, .unsigned 12] ∧
      Quantity.sum .unsigned (valuesAt [] (final.given 0)) ≠ .unsigned 12 := by
  refine ⟨rfl, rfl, ?_⟩
  intro same
  have words : UInt64.ofInt 22 = 12 := Quantity.unsigned.inj same
  exact absurd words (by decide)

end Account

end Metering
