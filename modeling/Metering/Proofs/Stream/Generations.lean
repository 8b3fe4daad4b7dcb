import Metering.Proofs.Stream.Renewal

/-!
Generations in the course of time. A generation is given to one series and never again, so what a
reader remembers under the generation of a series was copied from that very series, which has been
there ever since. What is left over from an earlier series of the same set, dropped or reset, bears
an older generation and counts for nothing.
-/

namespace Metering

/-- The account is only kept beside the stream. -/
theorem Account.stream_step (readers : List TemporalityChoice) (account : Account)
    (operation : Operation) : (account.step readers operation).stream =
      (account.stream.perform readers operation).1 := by
  cases operation with
  | record now value attributes => exact account.stream_record now value attributes
  | collect position since time =>
    cases found : readers[position]? with
    | none => simp only [step, Stream.perform, found]
    | some temporality => simp only [step, Stream.perform, found, stream_collect]
  | reset => rfl

namespace Stream

/-- Whether the series of a stream have different generations. -/
def Apart (stream : Stream) : Prop :=
  ∀ one other first second, stream.live one = some first → stream.live other = some second →
    first.generation = second.generation → one = other

/-- Whether a set has a series of which the reader at a position remembers a report. -/
def Recalls (stream : Stream) (position : Nat) (set : AttributeSet) (report : Reported) : Prop :=
  ∃ accumulation, stream.live set = some accumulation ∧
    accumulation.seen (stream.last position set) = some report

/-- Where a series that a set has behind an operation comes from. -/
inductive Provenance (stream : Stream) (operation : Operation) (set : AttributeSet)
    (left : Accumulation) : Prop where
  /-- The operation is the first measurement of the series. -/
  | started (now : UInt64) (value : Quantity) (attributes : List Attribute)
      (measured : operation = .record now value attributes)
      (placed : stream.place? value attributes = some set) (before : stream.live set = none)
      (generation : left.generation = stream.series.nextGeneration)
  | stayed (accumulation : Accumulation) (before : stream.live set = some accumulation)
      (same : left.generation = accumulation.generation)

section Provenance

variable (stream : Stream) (set : AttributeSet) {left : Accumulation}

theorem provenance_record (now : UInt64) (value : Quantity) (attributes : List Attribute)
    (present : (stream.record now value attributes).1.live set = some left) :
    stream.Provenance (.record now value attributes) set left := by
  cases placed : stream.place? value attributes with
  | none =>
    rw [stream.record_refused now value attributes placed] at present
    exact .stayed left present rfl
  | some key =>
    rw [stream.live_record now value attributes key placed] at present
    split at present
    next same =>
      subst same
      have generation := congrArg Accumulation.generation (Option.some.inj present)
      cases before : stream.live set with
      | none =>
        rw [before] at generation
        exact .started now value attributes rfl placed before generation.symm
      | some accumulation =>
        rw [before] at generation
        exact .stayed accumulation before generation.symm
    next => exact .stayed left present rfl

theorem provenance_collect (coherent : stream.Coherent) (collector : Collector) (time : UInt64)
    (bounded : collector.position < stream.slots.length) (operation : Operation)
    (present : (stream.collect collector time).1.live set = some left) :
    stream.Provenance operation set left := by
  obtain ⟨accumulation, _, before, rfl⟩ :=
    coherent.live_of_collect collector time bounded set present
  exact .stayed accumulation before rfl

end Provenance

/-- Whether a stream has a slot for each reader, and its series and slots are in order. -/
structure Ordered (readers : List TemporalityChoice) (stream : Stream) : Prop where
  coherent : stream.Coherent
  slots : stream.slots.length = readers.length
  apart : stream.Apart

section Ordered

variable {readers : List TemporalityChoice} {stream : Stream}

theorem ordered_create (definition : StreamDefinition) (filter : ExemplarFilter) (start : UInt64)
    (readers : List TemporalityChoice) :
    Ordered readers (create definition filter start readers) := by
  have blank := blank_create definition filter start readers
  refine ⟨blank.coherent, List.length_map _, ?_⟩
  intro one _ first _ present
  rw [blank.live] at present
  cases present

theorem Ordered.lt_slots (ordered : stream.Ordered readers) {position : Nat}
    {temporality : TemporalityChoice} (found : readers[position]? = some temporality) :
    position < stream.slots.length := by
  rw [ordered.slots]
  exact (List.getElem?_eq_some_iff.mp found).1

theorem Ordered.provenance (ordered : stream.Ordered readers) (operation : Operation)
    {set : AttributeSet} {left : Accumulation}
    (present : (stream.perform readers operation).1.live set = some left) :
    stream.Provenance operation set left := by
  cases operation with
  | record now value attributes =>
    exact stream.provenance_record set now value attributes present
  | collect position since time =>
    cases found : readers[position]? with
    | none =>
      simp only [perform, found] at present
      exact .stayed left present rfl
    | some temporality =>
      simp only [perform, found] at present
      exact stream.provenance_collect set ordered.coherent _ time (ordered.lt_slots found) _ present
  | reset =>
    change stream.reset.live set = some left at present
    rw [stream.blank_reset.live] at present
    cases present

theorem Ordered.perform (ordered : stream.Ordered readers) (operation : Operation) :
    (stream.perform readers operation).1.Ordered readers := by
  constructor
  case coherent =>
    have coherent := Account.coherent_step readers { stream } ordered.coherent operation
    rwa [Account.stream_step] at coherent
  case slots => exact (sameTerms_perform readers stream operation).readers.trans ordered.slots
  case apart =>
    -- One measurement starts one series, with a generation that no series had.
    intro one other first second here there same
    cases ordered.provenance operation here with
    | started now value attributes measured placed _ generation =>
      cases ordered.provenance operation there with
      | started _ _ _ again elsewhere _ _ =>
        cases measured.symm.trans again
        exact Option.some.inj (placed.symm.trans elsewhere)
      | stayed accumulation before kept =>
        have old := ordered.coherent.live_old other accumulation before
        omega
    | stayed accumulation before kept =>
      cases ordered.provenance operation there with
      | started _ _ _ _ _ _ generation =>
        have old := ordered.coherent.live_old one accumulation before
        omega
      | stayed further beside stays =>
        exact ordered.apart one other accumulation further before beside
          (kept.symm.trans (same.trans stays))

theorem Ordered.performAll (ordered : stream.Ordered readers) (operations : List Operation) :
    (stream.performAll readers operations).Ordered readers := by
  induction operations generalizing stream with
  | nil => exact ordered
  | cons operation rest ih => exact ih (ordered.perform operation)

theorem Ordered.nodup_generations (ordered : stream.Ordered readers) :
    (stream.series.accumulations.values.map (·.generation)).Nodup := by
  have distinct := ordered.coherent.distinct
  rw [Table.values, List.map_map]
  refine List.Nodup.map_on ?_ (List.Nodup.of_map _ distinct)
  rintro ⟨one, first⟩ here ⟨other, second⟩ there same
  have present := (Table.get?_eq_some_iff _ distinct one first).mpr here
  have beside := (Table.get?_eq_some_iff _ distinct other second).mpr there
  have sets := ordered.apart one other first second present beside same
  subst sets
  rw [Option.some.inj (present.symm.trans beside)]

end Ordered

section Later

variable {readers : List TemporalityChoice} {stream : Stream}

theorem nextGeneration_le_perform (stream : Stream) (operation : Operation) :
    stream.series.nextGeneration ≤
      (stream.perform readers operation).1.series.nextGeneration := by
  cases operation with
  | record now value attributes =>
    cases placed : stream.place? value attributes with
    | none => exact Nat.le_of_eq (by rw [perform, stream.record_refused _ _ _ placed])
    | some key => exact stream.nextGeneration_le_record now value attributes key placed
  | collect position since time =>
    cases found : readers[position]? with
    | none => simp only [perform, found, Nat.le_refl]
    | some temporality =>
      simp only [perform, found, nextGeneration_collect, Nat.le_refl]
  | reset => exact Nat.le_refl _

theorem nextGeneration_le_performAll (stream : Stream) (operations : List Operation) :
    stream.series.nextGeneration ≤
      (stream.performAll readers operations).series.nextGeneration := by
  induction operations generalizing stream with
  | nil => exact Nat.le_refl _
  | cons operation rest ih => exact Nat.le_trans (stream.nextGeneration_le_perform operation) (ih _)

/-- Generations that are given out do not fall below those that are in use or come next. -/
theorem Ordered.le_generation (ordered : stream.Ordered readers) {bound : Nat} {set : AttributeSet}
    (next : bound ≤ stream.series.nextGeneration)
    (used : ∀ accumulation, stream.live set = some accumulation →
      bound ≤ accumulation.generation)
    (operations : List Operation) {left : Accumulation}
    (present : (stream.performAll readers operations).live set = some left) :
    bound ≤ left.generation := by
  induction operations generalizing stream with
  | nil => exact used left present
  | cons operation rest ih =>
    refine ih (ordered.perform operation)
      (Nat.le_trans next (stream.nextGeneration_le_perform operation)) ?_ present
    intro accumulation there
    cases ordered.provenance operation there with
    | started _ _ _ _ _ _ generation => exact generation ▸ next
    | stayed earlier before same => exact same ▸ used earlier before

/-- The series that a set has once it had none is younger than all that was there before. -/
theorem Ordered.renewed (ordered : stream.Ordered readers) {set : AttributeSet}
    (gone : stream.live set = none) (operations : List Operation) {left : Accumulation}
    (present : (stream.performAll readers operations).live set = some left) :
    stream.series.nextGeneration ≤ left.generation := by
  refine ordered.le_generation (Nat.le_refl _) ?_ operations present
  intro accumulation there
  exact absurd (gone.symm.trans there) nofun

end Later

/-- Whether a report was copied at a collection for the reader at a position, from a series that
was there then and has been there ever since. -/
inductive Copied (readers : List TemporalityChoice) (fresh : Stream) (operations : List Operation)
    (position : Nat) (set : AttributeSet) (report : Reported) : Prop where
  | intro (before after : List Operation) (since time : UInt64) (accumulation : Accumulation)
      (cut : operations = before ++ .collect position since time :: after)
      (present : (fresh.performAll readers before).live set = some accumulation)
      (taken : accumulation.report = report)
      (lasting : ∀ done, done <+: after → (fresh.performAll readers
        (before ++ .collect position since time :: done)).Recalls position set report)

section Copied

variable {readers : List TemporalityChoice} {stream : Stream} {position : Nat}
  {set : AttributeSet} {report : Reported}

theorem Ordered.recalls_of_last (ordered : stream.Ordered readers) (operation : Operation)
    (recalls : (stream.perform readers operation).1.Recalls position set report)
    (remembered : stream.last position set = some report) :
    stream.Recalls position set report := by
  obtain ⟨left, present, seen⟩ := recalls
  have own := ((left.seen_eq_some_iff _ _).mp seen).2
  cases ordered.provenance operation present with
  | started _ _ _ _ _ _ generation =>
    have old := ordered.coherent.last_old position set report remembered
    omega
  | stayed accumulation before same =>
    exact ⟨accumulation, before,
      (accumulation.seen_eq_some_iff _ _).mpr ⟨remembered, own.trans same⟩⟩

/-- What a reader remembers of a series it remembered before, or has just been given. -/
theorem Ordered.recalls_perform (ordered : stream.Ordered readers) (operation : Operation)
    (recalls : (stream.perform readers operation).1.Recalls position set report) :
    stream.Recalls position set report ∨
      ∃ since time accumulation, operation = .collect position since time ∧
        stream.live set = some accumulation ∧ accumulation.report = report := by
  have kept := ordered.recalls_of_last operation recalls
  obtain ⟨left, present, seen⟩ := recalls
  have remembered := ((left.seen_eq_some_iff _ _).mp seen).1
  cases operation with
  | record now value attributes =>
    change (stream.record now value attributes).1.last position set = _ at remembered
    rw [last, slots_record_eq] at remembered
    exact .inl (kept remembered)
  | collect other since time =>
    cases found : readers[other]? with
    | none =>
      simp only [Stream.perform, found] at remembered
      exact .inl (kept remembered)
    | some temporality =>
      simp only [Stream.perform, found] at remembered
      by_cases mine : position = other
      · subst mine
        cases asked : temporality stream.definition.kind with
        | cumulative =>
          rw [stream.collect_cumulative ⟨position, temporality, since⟩ time asked] at remembered
          exact .inl (kept remembered)
        | delta =>
          have visited := stream.visited_collect ordered.coherent ⟨position, temporality, since⟩
            time asked (ordered.lt_slots found) set
          rcases visited.of_last remembered with before | ⟨accumulation, before, same⟩
          · exact .inl (kept before)
          · exact .inr ⟨since, time, accumulation, rfl, before, same.symm⟩
      · rw [stream.last_collect ⟨other, temporality, since⟩ time position mine] at remembered
        exact .inl (kept remembered)
  | reset =>
    change stream.reset.live set = some left at present
    rw [stream.blank_reset.live] at present
    cases present

theorem Copied.extend {fresh : Stream} {operations : List Operation}
    (copied : Copied readers fresh operations position set report) (operation : Operation)
    (recalls : (fresh.performAll readers (operations ++ [operation])).Recalls position set report) :
    Copied readers fresh (operations ++ [operation]) position set report := by
  obtain ⟨before, after, since, time, accumulation, rfl, present, taken, lasting⟩ := copied
  rw [List.append_assoc, List.cons_append] at recalls ⊢
  refine .intro before (after ++ [operation]) since time accumulation rfl present taken ?_
  intro done begins
  rcases List.prefix_concat_iff.mp begins with rfl | earlier
  · exact recalls
  · exact lasting done earlier

/-- What a reader remembers of a series was copied from it. The induction is on the last operation:
a report that it did not bring was copied by the operations in front of it. -/
theorem Blank.copied {fresh : Stream} (blank : fresh.Blank) (ordered : fresh.Ordered readers)
    (operations : List Operation)
    (recalls : (fresh.performAll readers operations).Recalls position set report) :
    Copied readers fresh operations position set report := by
  induction operations using List.reverseRecOn with
  | nil =>
    obtain ⟨_, present, _⟩ := recalls
    exact absurd ((blank.live set).symm.trans present) nofun
  | append_singleton operations operation ih =>
    have last := recalls
    rw [performAll_append] at last
    rcases (ordered.performAll operations).recalls_perform operation last with
      before | ⟨since, time, accumulation, rfl, present, taken⟩
    · exact (ih before).extend operation recalls
    · refine .intro operations [] since time accumulation rfl present taken ?_
      intro done begins
      rw [List.prefix_nil.mp begins]
      exact recalls

end Copied

/-- A reader that remembers an earlier series of a set is served as one that remembers nothing. -/
theorem visit_left_over (stream : Stream) (report : Reported) (accumulation : Accumulation)
    (older : report.generation ≠ accumulation.generation) :
    stream.visit (some report) accumulation = stream.visit none accumulation := by
  simp [visit, Option.filter, older]

/-- What generations tell of the series and slots of a stream, behind operations on a new one. -/
structure ToldApart (readers : List TemporalityChoice) (fresh stream : Stream)
    (operations : List Operation) : Prop where
  distinct : (stream.series.accumulations.values.map (·.generation)).Nodup
  series_old : ∀ accumulation ∈ stream.series.accumulations.values,
    accumulation.generation < stream.series.nextGeneration
  slots_old : ∀ slot ∈ stream.slots, ∀ report ∈ slot.values,
    report.generation < stream.series.nextGeneration
  /-- A report with the generation of a series was copied from it, and is not ahead of it. -/
  own : ∀ position set accumulation report, stream.live set = some accumulation →
    stream.last position set = some report → report.generation = accumulation.generation →
      Copied readers fresh operations position set report ∧
        report.updates ≤ accumulation.updates ∧
        (report.updates = accumulation.updates → report.value = accumulation.value)
  /-- There is a slot for each reader. -/
  slots : stream.slots.length = readers.length
  /-- The acknowledgements are the readers whose reports have the generation and the updates of the
  series. -/
  acknowledged : ∀ set accumulation, stream.live set = some accumulation →
    accumulation.acks = stream.slots.countP (fun slot => accumulation.isKnown (slot.get? set)) ∧
      accumulation.acks ≤ readers.length
  /-- What was remembered of a set before it had no series is older than the series that it has, and
  makes no difference to a visit. -/
  left_over : ∀ early middle late, operations = early ++ (middle ++ late) →
    ∀ position set report accumulation,
      (fresh.performAll readers early).last position set = some report →
        (fresh.performAll readers (early ++ middle)).live set = none →
          stream.live set = some accumulation →
            report.generation < accumulation.generation ∧
              stream.visit (some report) accumulation = stream.visit none accumulation

/-- Generations tell the series of a stream apart at any time, from each other and from all that
were dropped or reset before. -/
theorem generations_tell_series_apart (definition : StreamDefinition) (filter : ExemplarFilter)
    (start : UInt64) (readers : List TemporalityChoice) (operations : List Operation) :
    let fresh := create definition filter start readers
    ToldApart readers fresh (fresh.performAll readers operations) operations := by
  intro fresh
  have blank : fresh.Blank := blank_create definition filter start readers
  have begun : fresh.Ordered readers := ordered_create definition filter start readers
  have ordered := begun.performAll operations
  have coherent := ordered.coherent
  constructor
  case distinct => exact ordered.nodup_generations
  case series_old =>
    intro accumulation member
    obtain ⟨⟨set, _⟩, entry, rfl⟩ := List.mem_map.mp member
    exact coherent.live_old set _ ((Table.get?_eq_some_iff _ coherent.distinct _ _).mpr entry)
  case slots_old =>
    intro slot inside report member
    obtain ⟨⟨set, _⟩, entry, rfl⟩ := List.mem_map.mp member
    obtain ⟨position, found⟩ := List.getElem?_of_mem inside
    refine coherent.last_old position set _ ?_
    rw [last_of_getElem? found, Table.get?_eq_some_iff _ (coherent.apart slot inside)]
    exact entry
  case own =>
    intro position set accumulation report present remembered same
    have seen := (accumulation.seen_eq_some_iff _ _).mpr ⟨remembered, same⟩
    exact ⟨blank.copied begun operations ⟨accumulation, present, seen⟩,
      coherent.agreed position set accumulation report present seen⟩
  case slots => exact ordered.slots
  case acknowledged =>
    intro set accumulation present
    have counted := coherent.acknowledged set accumulation present
    refine ⟨counted, ?_⟩
    calc
      accumulation.acks = _ := counted
      _ ≤ (fresh.performAll readers operations).slots.length := List.countP_le_length
      _ = readers.length := ordered.slots
  case left_over =>
    rintro early middle late rfl position set report accumulation remembered gone present
    have sooner := begun.performAll early
    have older : report.generation < accumulation.generation := by
      rw [← List.append_assoc, performAll_append] at present
      calc
        report.generation < (fresh.performAll readers early).series.nextGeneration :=
          sooner.coherent.last_old position set report remembered
        _ ≤ (fresh.performAll readers (early ++ middle)).series.nextGeneration := by
          rw [performAll_append]
          exact nextGeneration_le_performAll _ middle
        _ ≤ accumulation.generation :=
          (begun.performAll (early ++ middle)).renewed gone late present
    exact ⟨older, visit_left_over _ report accumulation (Nat.ne_of_lt older)⟩

/-- The series goes with the second reader, which leaves the first one an entry of it; the series
that begins then has another generation. -/
example :
    let readers : List TemporalityChoice := [fun _ => .delta, fun _ => .delta]
    let fresh := create ⟨"requests", "", "", .counter, none, 2000⟩ .alwaysOff 1 readers
    let request := Operation.record 2 (.unsigned 5) []
    let stream := fresh.performAll readers [request, .collect 0 1 3, .collect 1 1 4, request]
    let set := AttributeSet.ofList []
    (stream.last 0 set).map (·.generation) = some 0 ∧
      (stream.live set).map (·.generation) = some 1 := by
  decide +kernel

end Stream

end Metering
