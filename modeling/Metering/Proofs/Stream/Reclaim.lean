import Metering.Proofs.Stream.Overlap
import Metering.Proofs.Stream.Twins

/-!
The reclamation of series. If all readers ask for changes, a series is kept for as long as some
reader has not been given its latest measurement, and no longer; an observed total is kept until
a reader comes again and finds that nothing has been observed since all were given it. A reader
that asks for totals keeps every series.
-/

namespace Metering

namespace Account

/-- Whether the reader at a position has not been given the latest measurement of a set. -/
def awaits (account : Account) (position : Nat) (set : AttributeSet) : Bool :=
  (account.unseen position).any fun entry => entry.set = set

/-- What holds at any time of a stream whose readers all ask for changes. -/
structure Tended (readers : List TemporalityChoice) (account : Account) : Prop where
  coherent : account.stream.Coherent
  attended : 0 < readers.length
  slots : account.stream.slots.length = readers.length
  evicting : account.stream.evicting = true
  deltas : ∀ temporality ∈ readers, temporality account.stream.definition.kind = .delta
  /-- The readers that know the current value are those that await nothing. -/
  known : ∀ set accumulation, account.stream.live set = some accumulation →
    ∀ position < readers.length,
      accumulation.isKnown (account.stream.last position set) = !account.awaits position set
  idle : ∀ set, account.stream.live set = none →
    ∀ position < readers.length, account.awaits position set = false
  /-- Unless it is an observed total, a series that all readers know is gone. -/
  pending : account.stream.reportsTotals = false →
    ∀ set accumulation, account.stream.live set = some accumulation →
      accumulation.acks < readers.length

section Tended

variable {readers : List TemporalityChoice} {account : Account}

theorem Tended.of_terms (tended : account.Tended readers) {next : Account}
    (terms : account.stream.SameTerms next.stream) (coherent : next.stream.Coherent)
    (known : ∀ set accumulation, next.stream.live set = some accumulation →
      ∀ position < readers.length,
        accumulation.isKnown (next.stream.last position set) = !next.awaits position set)
    (idle : ∀ set, next.stream.live set = none →
      ∀ position < readers.length, next.awaits position set = false)
    (pending : account.stream.reportsTotals = false →
      ∀ set accumulation, next.stream.live set = some accumulation →
        accumulation.acks < readers.length) : next.Tended readers := by
  have totals : next.stream.reportsTotals = account.stream.reportsTotals := by
    rw [Stream.reportsTotals, terms.definition, Stream.reportsTotals]
  constructor
  case coherent => exact coherent
  case attended => exact tended.attended
  case slots => exact terms.readers.trans tended.slots
  case evicting => exact terms.evicting.trans tended.evicting
  case deltas =>
    rw [terms.definition]
    exact tended.deltas
  case known => exact known
  case idle => exact idle
  case pending =>
    rw [totals]
    exact pending

theorem tended_create (definition : StreamDefinition) (filter : ExemplarFilter) (start : UInt64)
    (attended : 0 < readers.length)
    (deltas : ∀ temporality ∈ readers, temporality definition.kind = .delta) :
    (create definition filter start readers).Tended readers :=
  ⟨(Stream.blank_create definition filter start readers).coherent, attended, List.length_map _,
    Stream.evicting_of_deltas definition filter start readers 0 attended deltas, deltas, nofun,
    fun _ _ _ _ => rfl, nofun⟩

theorem awaits_record (account : Account) (now : UInt64) (value : Quantity)
    (attributes : List Attribute) (key : AttributeSet)
    (placed : account.stream.place? value attributes = some key) (position : Nat)
    (set : AttributeSet) : (account.record now value attributes).awaits position set =
      (account.awaits position set || decide (key = set)) := by
  rw [awaits, account.unseen_record now value attributes key placed, List.any_append, awaits]
  simp

theorem awaits_collect (account : Account) (collector : Collector) (time : UInt64)
    (position : Nat) (set : AttributeSet) : (account.collect collector time).awaits position set =
      if position = collector.position then false else account.awaits position set := by
  rw [awaits, unseen_collect, awaits]
  split <;> rfl

theorem Tended.record (tended : account.Tended readers) (now : UInt64) (value : Quantity)
    (attributes : List Attribute) : (account.record now value attributes).Tended readers := by
  cases placed : account.stream.place? value attributes with
  | none =>
    rw [account.record_refused now value attributes placed]
    exact tended
  | some key =>
    have stream := account.stream_record now value attributes
    have live := account.stream.live_record now value attributes key placed
    have memory := account.stream.last_record now value attributes key placed
    have awaited := account.awaits_record now value attributes key placed
    apply tended.of_terms
    case terms =>
      rw [stream]
      exact account.stream.sameTerms_record now value attributes key placed
    case coherent =>
      rw [stream]
      exact account.stream.coherent_record now value attributes tended.coherent
    case known =>
      intro set accumulation present position inside
      rw [stream, live] at present
      rw [stream, memory, awaited]
      split at present
      next same =>
        subst same
        cases present
        rw [tended.coherent.isKnown_take]
        simp
      next other =>
        rw [tended.known set accumulation present position inside]
        simp [Ne.symm other]
    case idle =>
      intro set absent position inside
      rw [stream, live] at absent
      split at absent
      next => cases absent
      next other =>
        rw [awaited, tended.idle set absent position inside]
        simp [Ne.symm other]
    case pending =>
      intro changes set accumulation present
      rw [stream, live] at present
      split at present
      next =>
        cases present
        exact tended.attended
      next => exact tended.pending changes set accumulation present

/-- What a collection does to a set of a stream whose readers all ask for changes. -/
theorem Tended.visited (tended : account.Tended readers) (collector : Collector) (time : UInt64)
    (delta : collector.temporality account.stream.definition.kind = .delta)
    (inside : collector.position < readers.length) (set : AttributeSet) :
    account.stream.Visited (account.stream.collect collector time).1 collector.position set :=
  account.stream.visited_collect tended.coherent collector time delta (tended.slots ▸ inside) set

theorem Tended.collect (tended : account.Tended readers) (collector : Collector) (time : UInt64)
    (delta : collector.temporality account.stream.definition.kind = .delta)
    (inside : collector.position < readers.length) :
    (account.collect collector time).Tended readers := by
  have visited := tended.visited collector time delta inside
  have bounded : collector.position < account.stream.slots.length := tended.slots ▸ inside
  apply tended.of_terms
  case terms => exact account.stream.sameTerms_collect collector time
  case coherent => exact account.stream.coherent_collect tended.coherent collector time
  case known =>
    intro set left present position reader
    obtain ⟨accumulation, before, change⟩ := (visited set).of_live present
    have content : ∀ last, left.isKnown last = accumulation.isKnown last := by
      intro last
      rcases change with ⟨_, rfl, _⟩ | ⟨_, rfl, _⟩ <;> rfl
    rw [awaits_collect, stream_collect, content]
    split
    next own =>
      subst own
      rcases change with ⟨known, _, memory⟩ | ⟨_, _, memory⟩
      · rw [memory]
        exact known
      · rw [memory]
        exact (accumulation.isKnown_iff _).mpr ⟨accumulation.report, rfl, rfl, rfl⟩
    next other =>
      rw [account.stream.last_collect collector time position other]
      exact tended.known set accumulation before position reader
  case idle =>
    intro set gone position reader
    rw [awaits_collect]
    split
    next => rfl
    next other =>
      cases before : account.stream.live set with
      | none => exact tended.idle set before position reader
      | some accumulation =>
        have known := (visited set).known_of_dropped tended.coherent bounded before gone position
          other (tended.slots ▸ reader)
        rw [tended.known set accumulation before position reader] at known
        simpa using known
  case pending =>
    intro changes set left present
    cases visited set with
    | absent _ after _ =>
      rw [stream_collect, after] at present
      cases present
    | quiet accumulation before _ _ after _ =>
      rw [stream_collect, after] at present
      rw [← Option.some.inj present]
      exact tended.pending changes set accumulation before
    | lapsed _ _ _ _ after _ =>
      rw [stream_collect, after] at present
      cases present
    | reported accumulation before _ stays after _ =>
      rw [stream_collect, after] at present
      rw [← Option.some.inj present]
      have fewer := tended.pending changes set accumulation before
      rw [Stream.settles, tended.evicting, changes, tended.slots] at stays
      exact Nat.lt_of_le_of_ne fewer (of_decide_eq_false stays)
    | settled _ _ _ _ after _ =>
      rw [stream_collect, after] at present
      cases present

theorem Tended.step (tended : account.Tended readers) (operation : Operation) :
    (account.step readers operation).Tended readers := by
  cases operation with
  | record now value attributes => exact tended.record now value attributes
  | collect position since time =>
    rw [Account.step]
    split
    next => exact tended
    next temporality found =>
      exact tended.collect ⟨position, temporality, since⟩ time
        (tended.deltas temporality (List.mem_of_getElem? found))
        (List.getElem?_eq_some_iff.mp found).1
  | reset =>
    have blank := account.stream.blank_reset
    apply tended.of_terms
    case terms => exact account.stream.sameTerms_reset
    case coherent => exact blank.coherent
    case known =>
      intro set accumulation present
      cases present
    case idle => exact fun _ _ _ _ => rfl
    case pending =>
      intro _ set accumulation present
      cases present

theorem Tended.run (tended : account.Tended readers) (operations : List Operation) :
    (account.run readers operations).Tended readers := by
  induction operations generalizing account with
  | nil => exact tended
  | cons operation rest ih => exact ih (tended.step operation)

/-- All readers know the current value of a series exactly if none awaits one. -/
theorem Tended.acks_eq_iff (tended : account.Tended readers) (set : AttributeSet)
    {accumulation : Accumulation} (present : account.stream.live set = some accumulation) :
    accumulation.acks = readers.length ↔
      ¬∃ position < readers.length, account.awaits position set = true := by
  have all := tended.coherent.acks_eq_iff set accumulation present
  rw [tended.slots] at all
  rw [all]
  constructor
  · rintro known ⟨position, inside, awaited⟩
    have here := known position inside
    rw [tended.known set accumulation present position inside, awaited] at here
    cases here
  · intro nobody position inside
    rw [tended.known set accumulation present position inside, Bool.not_eq_true',
      ← Bool.not_eq_true]
    exact fun awaited => nobody ⟨position, inside, awaited⟩

theorem Tended.live_of_awaits (tended : account.Tended readers) {set : AttributeSet}
    {position : Nat} (inside : position < readers.length)
    (awaited : account.awaits position set = true) : (account.stream.live set).isSome := by
  rw [Option.isSome_iff_ne_none]
  intro absent
  rw [tended.idle set absent position inside] at awaited
  cases awaited

/-- A series of changes is there exactly as long as a reader awaits it. -/
theorem Tended.live_iff (tended : account.Tended readers)
    (changes : account.stream.reportsTotals = false) (set : AttributeSet) :
    (account.stream.live set).isSome ↔
      ∃ position < readers.length, account.awaits position set = true := by
  constructor
  · intro there
    obtain ⟨accumulation, present⟩ := Option.isSome_iff_exists.mp there
    have fewer := tended.pending changes set accumulation present
    by_contra nobody
    have all := (tended.acks_eq_iff set present).mpr nobody
    omega
  · rintro ⟨position, inside, awaited⟩
    exact tended.live_of_awaits inside awaited

/-- A collection leaves an observed total exactly if a reader awaited it. -/
theorem Tended.live_collect_iff (tended : account.Tended readers)
    (totals : account.stream.reportsTotals = true) (collector : Collector) (time : UInt64)
    (delta : collector.temporality account.stream.definition.kind = .delta)
    (inside : collector.position < readers.length) (set : AttributeSet) :
    ((account.collect collector time).stream.live set).isSome ↔
      (account.stream.live set).isSome ∧
        ∃ position < readers.length, account.awaits position set = true := by
  have lapses : ∀ accumulation, account.stream.lapses accumulation =
      decide (accumulation.acks = readers.length) := by
    intro accumulation
    rw [Stream.lapses, tended.evicting, totals, tended.slots]
    rfl
  rw [stream_collect]
  cases tended.visited collector time delta inside set with
  | absent before after _ => simp [before, after]
  | quiet accumulation before _ stays after _ =>
    rw [lapses, decide_eq_false_iff_not, tended.acks_eq_iff set before, not_not] at stays
    simpa [before, after] using stays
  | lapsed accumulation before _ due after _ =>
    rw [lapses, decide_eq_true_eq, tended.acks_eq_iff set before] at due
    rw [before, after, Option.isSome_none]
    exact ⟨fun there => absurd there Bool.false_ne_true, fun awaited => absurd awaited.2 due⟩
  | reported accumulation before news _ after _ =>
    rw [tended.known set accumulation before _ inside, Bool.not_eq_false'] at news
    simp only [before, after, Option.isSome_some, true_and, true_iff]
    exact ⟨collector.position, inside, news⟩
  | settled accumulation _ _ due _ _ =>
    rw [Stream.settles, totals] at due
    simp at due

/-- A collection reports the sets that its reader awaits, and no others. -/
theorem Tended.reported_iff (tended : account.Tended readers) (collector : Collector)
    (time : UInt64) (delta : collector.temporality account.stream.definition.kind = .delta)
    (inside : collector.position < readers.length) {set : AttributeSet}
    (canonical : set.Canonical) :
    (∃ point ∈ account.stream.pointsFor collector time, point.attributes = set.toList) ↔
      account.awaits collector.position set = true := by
  have offered : ∀ other, (account.stream.shown collector other).isSome ↔
      account.awaits collector.position other = true := by
    intro other
    rw [Stream.shown, delta]
    dsimp only
    cases present : account.stream.live other with
    | none => simp [Stream.offer_absent present, tended.idle other present _ inside]
    | some accumulation =>
      have known := tended.known other accumulation present _ inside
      cases awaited : account.awaits collector.position other with
      | true =>
        rw [awaited] at known
        simp [Stream.offer_news present known]
      | false =>
        rw [awaited] at known
        simp [Stream.offer_known present known]
  have points := Stream.mem_pointsFor_iff tended.coherent collector time (tended.slots ▸ inside)
  rw [← offered, Option.isSome_iff_exists]
  constructor
  · rintro ⟨point, member, same⟩
    obtain ⟨other, value, exemplar, shown, rfl⟩ := (points point).mp member
    have awaited := (offered other).mp (Option.isSome_iff_exists.mpr ⟨_, shown⟩)
    obtain ⟨accumulation, present⟩ :=
      Option.isSome_iff_exists.mp (tended.live_of_awaits inside awaited)
    have equal := AttributeSet.eq_of_toList_eq
      (tended.coherent.canonical other accumulation present) canonical same
    exact ⟨_, equal ▸ shown⟩
  · rintro ⟨⟨value, exemplar⟩, shown⟩
    exact ⟨_, (points _).mpr ⟨set, value, exemplar, shown, rfl⟩, rfl⟩

end Tended

/-- Collections for the readers at given positions, with the times that they cover. -/
def collections (visits : List (Nat × UInt64 × UInt64)) : List Operation :=
  visits.map fun (position, since, time) => .collect position since time

section Collections

variable {readers : List TemporalityChoice}

/-- A reader that is visited awaits nothing, for as long as nothing is recorded. -/
theorem awaits_collections (account : Account) (visits : List (Nat × UInt64 × UInt64))
    (position : Nat) (inside : position < readers.length) (set : AttributeSet)
    (served : position ∈ visits.map (·.1) ∨ account.awaits position set = false) :
    (account.run readers (collections visits)).awaits position set = false := by
  induction visits generalizing account with
  | nil => exact served.resolve_left (List.not_mem_nil)
  | cons visit rest ih =>
    obtain ⟨first, since, time⟩ := visit
    apply ih
    rw [List.map_cons, List.mem_cons, or_comm (a := position = first), or_assoc] at served
    refine served.imp_right fun here => ?_
    rw [step]
    split
    next outside =>
      have elsewhere : position ≠ first := by
        rintro rfl
        rw [List.getElem?_eq_getElem inside] at outside
        cases outside
      exact here.resolve_left elsewhere
    next temporality _ =>
      rw [awaits_collect]
      split
      next => rfl
      next elsewhere => exact here.resolve_left elsewhere

/-- When every reader has been visited, no series of changes is left. -/
theorem Tended.drained {account : Account} (tended : account.Tended readers)
    (changes : account.stream.reportsTotals = false) (visits : List (Nat × UInt64 × UInt64))
    (all : ∀ position < readers.length, position ∈ visits.map (·.1)) :
    (account.run readers (collections visits)).stream.series.accumulations.entries = [] := by
  have later := tended.run (collections visits)
  have terms := account.sameTerms_run readers (collections visits)
  have still : (account.run readers (collections visits)).stream.reportsTotals = false := by
    rw [Stream.reportsTotals, terms.definition]
    exact changes
  rw [List.eq_nil_iff_forall_not_mem]
  rintro ⟨set, accumulation⟩ member
  have present := (Table.get?_eq_some_iff _ later.coherent.distinct set accumulation).mpr member
  obtain ⟨position, inside, awaited⟩ :=
    (later.live_iff still set).mp (Option.isSome_iff_exists.mpr ⟨accumulation, present⟩)
  rw [account.awaits_collections visits position inside set (.inl (all position inside))] at awaited
  cases awaited

end Collections

/-- Whether readers that ask for totals remember nothing. -/
def Detached (readers : List TemporalityChoice) (account : Account) : Prop :=
  ∀ position temporality, readers[position]? = some temporality →
    temporality account.stream.definition.kind = .cumulative →
      ∀ set, account.stream.last position set = none

section Step

variable (readers : List TemporalityChoice) (account : Account)

theorem step_collect {position : Nat} {temporality : TemporalityChoice}
    (reader : readers[position]? = some temporality) (since time : UInt64) :
    account.step readers (.collect position since time) =
      account.collect ⟨position, temporality, since⟩ time := by
  rw [step, reader]

theorem Detached.step {account : Account} (detached : account.Detached readers)
    (operation : Operation) : (account.step readers operation).Detached readers := by
  intro position temporality found cumulative set
  rw [(account.sameTerms_step readers operation).definition] at cumulative
  have before := detached position temporality found cumulative set
  cases operation with
  | record now value attributes =>
    rw [Account.step, stream_record, Stream.last, Stream.slots_record_eq]
    exact before
  | collect other since time =>
    rw [Account.step]
    split
    next => exact before
    next choice there =>
      rw [stream_collect]
      by_cases own : position = other
      · subst own
        rw [found] at there
        cases there
        rw [account.stream.collect_cumulative ⟨position, temporality, since⟩ time cumulative]
        exact before
      · rw [account.stream.last_collect ⟨other, choice, since⟩ time position own]
        exact before
  | reset => exact account.stream.blank_reset.last position set

theorem Detached.run {account : Account} (detached : account.Detached readers)
    (operations : List Operation) : (account.run readers operations).Detached readers := by
  induction operations generalizing account with
  | nil => exact detached
  | cons operation rest ih => exact ih (detached.step readers operation)

/-- Behind its collection a reader remembers live series alone. -/
theorem live_of_remembered (coherent : account.stream.Coherent)
    (slots : account.stream.slots.length = readers.length) (detached : account.Detached readers)
    (position : Nat) (since time : UInt64) (slot : Slot)
    (found : (account.step readers (.collect position since time)).stream.slots[position]? =
      some slot) (entry : AttributeSet × Reported) (member : entry ∈ slot.entries) :
    ∃ left, (account.step readers (.collect position since time)).stream.live entry.1 =
      some left ∧ left.generation = entry.2.generation := by
  have apart := (account.coherent_step readers coherent (.collect position since time)).apart slot
    (List.mem_of_getElem? found)
  have terms := account.sameTerms_step readers (.collect position since time)
  have inside : position < readers.length := by
    rw [← slots, ← terms.readers]
    exact (List.getElem?_eq_some_iff.mp found).1
  have reader := List.getElem?_eq_getElem inside
  have remembered : (account.step readers (.collect position since time)).stream.last position
      entry.1 = some entry.2 := by
    rw [Stream.last_of_getElem? found, Table.get?_eq_some_iff _ apart]
    exact member
  cases asked : readers[position] account.stream.definition.kind with
  | cumulative =>
    have nothing := detached.step readers (.collect position since time) position _ reader
      (terms.definition ▸ asked) entry.1
    rw [nothing] at remembered
    cases remembered
  | delta =>
    have visited := account.stream.visited_collect coherent ⟨position, readers[position], since⟩
      time asked (slots ▸ inside) entry.1
    rw [account.step_collect readers reader, stream_collect] at remembered ⊢
    exact visited.live_of_last remembered

theorem isSome_record (now : UInt64) (value : Quantity) (attributes : List Attribute)
    (set : AttributeSet) (there : (account.stream.live set).isSome) :
    ((account.record now value attributes).stream.live set).isSome := by
  rw [stream_record]
  cases placed : account.stream.place? value attributes with
  | none =>
    rw [account.stream.record_refused now value attributes placed]
    exact there
  | some key =>
    rw [account.stream.live_record now value attributes key placed]
    split
    next => rfl
    next => exact there

/-- Nothing is dropped from a stream that does not evict, but by a reset. -/
theorem isSome_run (coherent : account.stream.Coherent)
    (slots : account.stream.slots.length = readers.length)
    (permanent : account.stream.evicting = false) (operations : List Operation)
    (running : .reset ∉ operations) (set : AttributeSet)
    (there : (account.stream.live set).isSome) :
    ((account.run readers operations).stream.live set).isSome := by
  induction operations generalizing account with
  | nil => exact there
  | cons operation rest ih =>
    rw [List.mem_cons, not_or] at running
    have terms := account.sameTerms_step readers operation
    refine ih _ (account.coherent_step readers coherent operation) (terms.readers.trans slots)
      (terms.evicting.trans permanent) running.2 ?_
    cases operation with
    | record now value attributes => exact account.isSome_record now value attributes set there
    | collect position since time =>
      rw [Account.step]
      split
      next => exact there
      next temporality found =>
        have bounded : position < account.stream.slots.length := by
          rw [slots]
          exact (List.getElem?_eq_some_iff.mp found).1
        obtain ⟨count, after⟩ := Stream.live_collect coherent ⟨position, temporality, since⟩ time
          permanent bounded set
        rw [stream_collect, after, Option.isSome_map]
        exact there
    | reset => exact absurd rfl running.1

end Step

/-- What becomes of the series of a stream whose readers all ask for changes. -/
structure Reclaims (readers : List TemporalityChoice) (account : Account) : Prop where
  /-- A collection reports what its reader awaits. -/
  reported : ∀ position temporality since time, readers[position]? = some temporality →
    ∀ set, set.Canonical →
      ((∃ point ∈ account.stream.pointsFor ⟨position, temporality, since⟩ time,
        point.attributes = set.toList) ↔ account.awaits position set = true)
  recorded : ∀ now value attributes set, (account.stream.live set).isSome →
    ((account.record now value attributes).stream.live set).isSome
  changes : account.stream.reportsTotals = false → ∀ set, (account.stream.live set).isSome ↔
    ∃ position < readers.length, account.awaits position set = true
  drained : account.stream.reportsTotals = false → ∀ visits : List (Nat × UInt64 × UInt64),
    (∀ position < readers.length, position ∈ visits.map (·.1)) →
      (account.run readers (collections visits)).stream.series.accumulations.entries = []
  /-- A collection drops an observed total exactly if no reader awaits it. -/
  totals : account.stream.reportsTotals = true →
    ∀ position since time set, position < readers.length →
      (((account.step readers (.collect position since time)).stream.live set).isSome ↔
        (account.stream.live set).isSome ∧
          ∃ other < readers.length, account.awaits other set = true)

theorem Tended.reclaims {readers : List TemporalityChoice} {account : Account}
    (tended : account.Tended readers) : account.Reclaims readers := by
  constructor
  case reported =>
    intro position temporality since time found set canonical
    exact tended.reported_iff ⟨position, temporality, since⟩ time
      (tended.deltas temporality (List.mem_of_getElem? found))
      (List.getElem?_eq_some_iff.mp found).1 canonical
  case recorded => exact account.isSome_record
  case changes => exact tended.live_iff
  case drained => exact tended.drained
  case totals =>
    intro totals position since time set inside
    rw [account.step_collect readers (List.getElem?_eq_getElem inside)]
    exact tended.live_collect_iff totals ⟨position, readers[position], since⟩ time
      (tended.deltas _ (List.getElem_mem inside)) inside set

/-- If all readers ask for changes, series are dropped when they are due and no sooner. Whatever
the readers ask for, each remembers live series alone behind its collection, and as long as one
asks for totals no series is dropped. -/
theorem reclaimed_when_due (definition : StreamDefinition) (filter : ExemplarFilter)
    (start : UInt64) (readers : List TemporalityChoice) (operations : List Operation) :
    let account := (create definition filter start readers).run readers operations
    (account.stream.reportsTotals = true ↔
      definition.kind = .observableCounter ∨ definition.kind = .observableUpDownCounter) ∧
    (readers ≠ [] → (∀ temporality ∈ readers, temporality definition.kind = .delta) →
      account.Reclaims readers) ∧
    (∀ position since time slot,
      (account.step readers (.collect position since time)).stream.slots[position]? = some slot →
        ∀ entry ∈ slot.entries, ∃ left,
          (account.step readers (.collect position since time)).stream.live entry.1 = some left ∧
            left.generation = entry.2.generation) ∧
    ((∃ temporality ∈ readers, temporality definition.kind = .cumulative) →
      ∀ further, .reset ∉ further → ∀ set, (account.stream.live set).isSome →
        ((account.run readers further).stream.live set).isSome) := by
  intro account
  have blank := Stream.blank_create definition filter start readers
  have coherent : account.stream.Coherent :=
    coherent_run readers _ blank.coherent operations
  have terms := (create definition filter start readers).sameTerms_run readers operations
  have slots : account.stream.slots.length = readers.length :=
    terms.readers.trans (List.length_map _)
  refine ⟨?_, ?_, ?_, ?_⟩
  · rw [Stream.reportsTotals, terms.definition]
    change (definition.kind.isSum && definition.kind.isPrecomputed) = true ↔ _
    cases definition.kind <;> simp [InstrumentKind.isSum, InstrumentKind.isPrecomputed]
  · intro some_reader deltas
    have attended := List.length_pos_iff.mpr some_reader
    exact ((tended_create definition filter start attended deltas).run operations).reclaims
  · have detached : account.Detached readers :=
      Detached.run readers (fun position _ _ _ set => blank.last position set) operations
    exact account.live_of_remembered readers coherent slots detached
  · rintro ⟨temporality, member, cumulative⟩ further running set there
    obtain ⟨position, reader⟩ := List.getElem?_of_mem member
    have permanent := Stream.evicting_create definition filter start readers position temporality
      reader cumulative
    exact account.isSome_run readers coherent slots (terms.evicting.trans permanent) further running
      set there

/-- A counter's series is kept for the second reader, and gone when both have come. An observed
total that both have been given is kept until one of them comes again, and kept for good if one of
them asks for totals. -/
theorem reclaimed_when_due_two_readers :
    let counted : StreamDefinition := ⟨"requests", "", "", .counter, none, 2000⟩
    let observed : StreamDefinition := ⟨"requests", "", "", .observableCounter, none, 2000⟩
    let readers : List TemporalityChoice := [fun _ => .delta, fun _ => .delta]
    let mixed : List TemporalityChoice := [fun _ => .delta, fun _ => .cumulative]
    let record := Operation.record 2 (.unsigned 5) []
    let set := AttributeSet.ofList []
    let half := (create counted .alwaysOff 1 readers).run readers [record, .collect 0 1 2]
    let told := (create observed .alwaysOff 1 readers).run readers
      [record, .collect 0 1 2, .collect 1 1 2]
    let kept := (create observed .alwaysOff 1 mixed).run mixed [record]
    (half.stream.live set).isSome ∧
      (half.run readers (collections [(1, 1, 3), (0, 2, 3)])).stream.series.accumulations.entries =
        [] ∧
      (∃ left, (half.step readers (.collect 0 2 3)).stream.live set = some left ∧
        left.generation = 0) ∧
      (told.stream.live set).isSome ∧
      ¬((told.step readers (.collect 0 2 3)).stream.live set).isSome ∧
      ((kept.run mixed (collections [(0, 1, 2), (1, 1, 2), (0, 2, 3)])).stream.live
        set).isSome := by
  intro counted observed readers mixed record set half told kept
  obtain ⟨_, one, mindful, _⟩ := reclaimed_when_due counted .alwaysOff 1 readers
    [record, .collect 0 1 2]
  obtain ⟨_, two, _, _⟩ := reclaimed_when_due observed .alwaysOff 1 readers
    [record, .collect 0 1 2, .collect 1 1 2]
  obtain ⟨_, _, _, lasting⟩ := reclaimed_when_due observed .alwaysOff 1 mixed [record]
  have deltas : ∀ kind, ∀ temporality ∈ readers, temporality kind = .delta := by
    intro kind temporality member
    simp only [readers, List.mem_cons, List.not_mem_nil, or_false, or_self] at member
    rw [member]
  have first : half.Reclaims readers := one (by simp [readers]) (deltas _)
  have second : told.Reclaims readers := two (by simp [readers]) (deltas _)
  refine ⟨?_, ?_, ?_, by decide +kernel, ?_, ?_⟩
  · exact (first.changes (by decide +kernel) set).mpr ⟨1, by decide, by decide +kernel⟩
  · exact first.drained (by decide +kernel) [(1, 1, 3), (0, 2, 3)] (by decide)
  · exact mindful 0 2 3 ⟨[(set, ⟨.unsigned 5, 1, 0⟩)]⟩ (by rfl) (set, ⟨.unsigned 5, 1, 0⟩)
      (by simp)
  · intro there
    obtain ⟨_, other, inside, awaited⟩ :=
      (second.totals (by decide +kernel) 0 2 3 set (by decide)).mp there
    have nobody : ∀ position < 2, told.awaits position set = false := by decide +kernel
    rw [nobody other inside] at awaited
    cases awaited
  · have totals : ∃ temporality ∈ mixed, temporality observed.kind = .cumulative :=
      ⟨fun _ => .cumulative, by simp [mixed], rfl⟩
    exact lasting totals (collections [(0, 1, 2), (1, 1, 2), (0, 2, 3)]) (by simp [collections])
      set (by decide +kernel)

end Account

end Metering
