import Metering.Proofs.Stream.Twins

/-!
Resets as new beginnings. A stream that is reset goes on counting its generations, and differs in
nothing else from one that was just made. Since generations are only compared with each other, what
operations answer does not depend on where the count began, so a reset stream answers to all later
operations what a new one does.
-/

namespace Metering

def Accumulation.shift (count : Nat) (accumulation : Accumulation) : Accumulation :=
  { accumulation with generation := accumulation.generation + count }

def Reported.shift (count : Nat) (last : Reported) : Reported :=
  { last with generation := last.generation + count }

/-- The series as they would be if the count of generations had begun later. -/
def Series.shift (count : Nat) (series : Series) : Series :=
  { series with
    accumulations := series.accumulations.mapValues (Accumulation.shift count)
    nextGeneration := series.nextGeneration + count }

namespace Stream

def shift (count : Nat) (stream : Stream) : Stream :=
  { stream with
    series := stream.series.shift count
    slots := stream.slots.map (Table.mapValues (Reported.shift count)) }

def Visit.shift (count : Nat) (visit : Visit) : Visit :=
  { visit with accumulation := visit.accumulation.shift count }

end Stream

namespace Series

variable (count : Nat) (series : Series)

theorem route_shift (definition : StreamDefinition) (set : AttributeSet) :
    (series.shift count).route definition set =
      ((series.route definition set).1.shift count, (series.route definition set).2) := by
  have known := Table.contains_mapValues (Accumulation.shift count) series.accumulations set
  unfold route
  simp only [shift, known]
  by_cases new : (set.isCounted && !series.accumulations.contains set) = true
  · by_cases room : series.tracked < definition.cardinalityLimit
    · simp [new, room]
    · simp only [new, room, ↓reduceIte]
      rfl
  · simp [new]

theorem accumulation_shift (set : AttributeSet) (zero : Quantity) :
    (series.shift count).accumulation set zero =
      ((series.accumulation set zero).1.shift count,
        (series.accumulation set zero).2.shift count) := by
  have found := Table.get?_mapValues (Accumulation.shift count) series.accumulations set
  unfold accumulation
  simp only [shift, found]
  cases series.accumulations.get? set with
  | none => simp [Accumulation.shift, Nat.add_right_comm]
  | some accumulation =>
    by_cases latest : accumulation.generation = series.nextGeneration <;>
      simp [Accumulation.shift, latest, Nat.add_right_comm]

theorem take_shift (definition : StreamDefinition) (set : AttributeSet) (value : Quantity)
    (exemplar : Option Exemplar) :
    (series.shift count).take definition set value exemplar =
      ((series.take definition set value exemplar).1.shift count,
        (series.take definition set value exemplar).2) := by
  simp only [take, route_shift, accumulation_shift]
  simp only [shift]
  rw [← Table.insert_mapValues]
  rfl

theorem evict_shift (set : AttributeSet) :
    (series.shift count).evict set = (series.evict set).shift count := by
  have known := Table.contains_mapValues (Accumulation.shift count) series.accumulations set
  unfold evict
  simp only [shift, known]
  split
  next => rw [Table.erase_mapValues]
  next => rfl

theorem foldl_evict_shift (sets : List AttributeSet) :
    sets.foldl evict (series.shift count) = (sets.foldl evict series).shift count := by
  induction sets generalizing series with
  | nil => rfl
  | cons set rest ih => rw [List.foldl_cons, evict_shift, ih, List.foldl_cons]

end Series

theorem Accumulation.seen_shift (count : Nat) (accumulation : Accumulation)
    (last : Option Reported) :
    (accumulation.shift count).seen (last.map (Reported.shift count)) =
      (accumulation.seen last).map (Reported.shift count) := by
  cases last with
  | none => rfl
  | some report =>
    by_cases own : report.generation = accumulation.generation <;>
      simp [seen, shift, Reported.shift, Option.filter, own]

namespace Stream

variable (count : Nat) (stream : Stream)

theorem visit_shift (last : Option Reported) (accumulation : Accumulation) :
    (stream.shift count).visit (last.map (Reported.shift count)) (accumulation.shift count) =
      (stream.visit last accumulation).shift count := by
  have seen := accumulation.seen_shift count last
  have known : (accumulation.shift count).isKnown (last.map (Reported.shift count)) =
      accumulation.isKnown last := by
    rw [Accumulation.isKnown, seen, Option.any_map]
    rfl
  have readers : (stream.shift count).slots.length = stream.slots.length := List.length_map _
  cases told : accumulation.isKnown last with
  | true =>
    rw [visit_known _ _ _ (known.trans told), visit_known _ _ _ told]
    simp only [lapses, readers]
    rfl
  | false =>
    rw [visit_news _ _ _ (known.trans told), visit_news _ _ _ told, seen]
    have change : (stream.shift count).change
        ((accumulation.seen last).map (Reported.shift count)) (accumulation.shift count) =
          stream.change (accumulation.seen last) accumulation := by
      cases accumulation.seen last <;> rfl
    simp only [settles, readers, change]
    rfl

theorem visits_shift (slot : Slot) :
    (stream.shift count).visits (slot.mapValues (Reported.shift count)) =
      (stream.visits slot).map fun entry => (entry.1, entry.2.shift count) := by
  unfold visits
  rw [List.map_map]
  change List.map _ (List.map _ stream.series.accumulations.entries) = _
  rw [List.map_map]
  refine List.map_congr_left fun entry _ => ?_
  simp only [Function.comp_apply, Table.get?_mapValues, visit_shift]

theorem remember_shift (slot : Slot) (visits : List (AttributeSet × Visit)) :
    remember (slot.mapValues (Reported.shift count))
        (visits.map fun entry => (entry.1, entry.2.shift count)) =
      (remember slot visits).mapValues (Reported.shift count) := by
  unfold remember
  induction visits generalizing slot with
  | nil => rfl
  | cons entry rest ih =>
    rcases entry with ⟨set, visit⟩
    rw [List.map_cons, List.foldl_cons, List.foldl_cons, ← ih]
    congr 1
    have report : (slot.mapValues (Reported.shift count)).insert set
        (visit.accumulation.report.shift count) =
          (slot.insert set visit.accumulation.report).mapValues (Reported.shift count) :=
      Table.insert_mapValues _ slot set _
    change (if visit.value?.isSome then _ else _) = _
    by_cases given : visit.value?.isSome = true
    · simp only [given, ↓reduceIte]
      exact report
    · simp only [given, Bool.false_eq_true, ↓reduceIte]

theorem sweep_shift (series : Series) (visits : List (AttributeSet × Visit)) :
    sweep (series.shift count) (visits.map fun entry => (entry.1, entry.2.shift count)) =
      (sweep series visits).shift count := by
  rw [sweep_eq, sweep_eq, ← Series.foldl_evict_shift]
  congr 1
  · simp only [Series.shift, Table.mapValues, List.map_map]
    rfl
  · rw [List.filter_map, List.map_map]
    rfl

theorem record_shift (now : UInt64) (value : Quantity) (attributes : List Attribute) :
    (stream.shift count).record now value attributes =
      ((stream.record now value attributes).1.shift count,
        (stream.record now value attributes).2) := by
  unfold record
  change (if stream.accepts value then _ else _) = _
  split
  next =>
    simp only [shift, Series.take_shift]
    rfl
  next => rfl

theorem deltaPoints_shift (collector : Collector) (time : UInt64) :
    (stream.shift count).deltaPoints collector time =
      ((stream.deltaPoints collector time).1.shift count,
        (stream.deltaPoints collector time).2) := by
  have there : (stream.shift count).slots[collector.position]? =
      (stream.slots[collector.position]?).map (Table.mapValues (Reported.shift count)) :=
    List.getElem?_map ..
  unfold deltaPoints
  rw [there]
  cases stream.slots[collector.position]? with
  | none => rfl
  | some slot =>
    have swept := sweep_shift count stream.series (stream.visits slot)
    change sweep (stream.shift count).series _ = _ at swept
    simp only [Option.map_some, visits_shift, remember_shift, swept, Table.filter_mapValues]
    have same : ∀ set (last : Reported),
        (((sweep stream.series (stream.visits slot)).shift count).accumulations.get? set).map
            (·.generation) = some (last.shift count).generation ↔
          ((sweep stream.series (stream.visits slot)).accumulations.get? set).map
            (·.generation) = some last.generation := by
      intro set last
      rw [Series.shift, Table.get?_mapValues]
      cases (sweep stream.series (stream.visits slot)).accumulations.get? set with
      | none => simp
      | some accumulation => simp [Accumulation.shift, Reported.shift]
    simp only [same, List.filterMap_map]
    congr 1
    simp only [shift, List.map_set]

theorem collect_shift (collector : Collector) (time : UInt64) :
    (stream.shift count).collect collector time =
      ((stream.collect collector time).1.shift count, (stream.collect collector time).2) := by
  have totals : (stream.shift count).cumulativePoints time = stream.cumulativePoints time := by
    unfold cumulativePoints
    change List.map _ (List.map _ _) = _
    rw [List.map_map]
    rfl
  have points : (stream.shift count).points collector time =
      ((stream.points collector time).1.shift count, (stream.points collector time).2) := by
    have delta := stream.deltaPoints_shift count collector time
    have definition : (stream.shift count).definition = stream.definition := rfl
    unfold points
    rw [definition]
    cases collector.temporality stream.definition.kind with
    | delta => exact delta
    | cumulative => exact congrArg (Prod.mk _) totals
  unfold collect
  rw [points]
  rfl

theorem reset_shift : (stream.shift count).reset = stream.reset.shift count := by
  unfold reset shift
  simp only [List.map_map]
  rfl

/-- Of what happened to a stream, a reset leaves nothing but the count of generations. -/
theorem reset_eq {fresh : Stream} (terms : fresh.SameTerms stream) (empty : fresh.series = .empty)
    (blank : ∀ slot ∈ fresh.slots, slot = .empty) :
    stream.reset = fresh.shift stream.series.nextGeneration := by
  have series : stream.series.clear = fresh.series.shift stream.series.nextGeneration := by
    rw [empty]
    exact congrArg (fun next => ({ nextGeneration := next } : Series)) (Nat.zero_add _).symm
  have slots : (stream.slots.map fun _ => Table.empty) =
      fresh.slots.map (Table.mapValues (Reported.shift stream.series.nextGeneration)) := by
    have emptied : fresh.slots.map (Table.mapValues (Reported.shift
        stream.series.nextGeneration)) = fresh.slots.map fun _ => Table.empty := by
      refine List.map_congr_left fun slot member => ?_
      rw [blank slot member]
      rfl
    rw [emptied, List.map_const', List.map_const', terms.readers]
  unfold reset shift
  rw [series, slots]
  congr 1
  exacts [terms.definition, terms.filter, terms.start, terms.evicting]

end Stream

/-- What comes of an operation: the warnings that are logged, and the metric of a collection. -/
structure Stream.Answer where
  events : List Event := []
  metric? : Option Metric := none

namespace Stream

section Runs

variable (readers : List TemporalityChoice)

/-- Does what an operation says, for readers that ask for the given temporalities; a position
without a reader collects nothing. -/
def perform (stream : Stream) : Operation → Stream × Answer
  | .record now value attributes =>
    let (next, events) := stream.record now value attributes
    (next, { events })
  | .collect position since time =>
    match readers[position]? with
    | none => (stream, {})
    | some temporality =>
      let (next, metric?) := stream.collect ⟨position, temporality, since⟩ time
      (next, { metric? })
  | .reset => (stream.reset, {})

def performAll (stream : Stream) (operations : List Operation) : Stream :=
  operations.foldl (fun stream operation => (stream.perform readers operation).1) stream

theorem performAll_append (stream : Stream) (first second : List Operation) :
    stream.performAll readers (first ++ second) =
      (stream.performAll readers first).performAll readers second :=
  List.foldl_append

/-- What comes of operations, one after the other. -/
def answers (stream : Stream) : List Operation → List Answer
  | [] => []
  | operation :: rest =>
    let (next, answer) := stream.perform readers operation
    answer :: next.answers rest

theorem perform_shift (count : Nat) (stream : Stream) (operation : Operation) :
    (stream.shift count).perform readers operation =
      ((stream.perform readers operation).1.shift count,
        (stream.perform readers operation).2) := by
  cases operation with
  | record now value attributes => simp only [perform, record_shift]
  | collect position since time =>
    cases found : readers[position]? with
    | none => simp only [perform, found]
    | some temporality => simp only [perform, found, collect_shift]
  | reset => exact congrArg (Prod.mk · _) (stream.reset_shift count)

theorem answers_shift (count : Nat) (stream : Stream) (operations : List Operation) :
    (stream.shift count).answers readers operations = stream.answers readers operations := by
  induction operations generalizing stream with
  | nil => rfl
  | cons operation rest ih => simp only [answers, perform_shift, ih]

theorem sameTerms_perform (stream : Stream) (operation : Operation) :
    stream.SameTerms (stream.perform readers operation).1 := by
  cases operation with
  | record now value attributes => exact (stream.follows_record now value attributes).terms
  | collect position since time =>
    cases found : readers[position]? with
    | none => simpa only [perform, found] using SameTerms.refl stream
    | some temporality => simpa only [perform, found] using stream.sameTerms_collect _ time
  | reset => exact stream.sameTerms_reset

theorem sameTerms_performAll (stream : Stream) (operations : List Operation) :
    stream.SameTerms (stream.performAll readers operations) := by
  induction operations generalizing stream with
  | nil => exact .refl stream
  | cons operation rest ih => exact (stream.sameTerms_perform readers operation).trans (ih _)

/-- A stream that was made on given terms answers as a new one once it is reset. -/
theorem answers_reset (definition : StreamDefinition) (filter : ExemplarFilter) (start : UInt64)
    {stream : Stream} (terms : (create definition filter start readers).SameTerms stream)
    (operations : List Operation) : stream.reset.answers readers operations =
      (create definition filter start readers).answers readers operations := by
  have blank : ∀ slot ∈ (create definition filter start readers).slots, slot = .empty := by
    intro slot member
    obtain ⟨_, _, rfl⟩ := List.mem_map.mp member
    rfl
  rw [reset_eq stream terms rfl blank, answers_shift]

end Runs

end Stream

end Metering
