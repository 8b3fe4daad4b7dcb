import Metering.Proofs.Stream.Twins

/-!
The cardinality of a stream. Whatever is recorded, collected and reset, the counter of a stream is
the number of its series that count towards the limit, so that dropping a series never takes it
below zero, and the empty set and the overflow set alone come on top of the limit, in the stream as
well as in what its readers remember. A measurement is diverted to the overflow set only for want
of room, and the stream says so once.
-/

namespace Metering

namespace AttributeSet

/-- The sets that do not count towards the limit are the empty one and the overflow set. -/
theorem Canonical.isCounted_eq_false_iff {set : AttributeSet} (canonical : set.Canonical) :
    set.isCounted = false ↔ set = .ofList [] ∨ set = .overflow := by
  have empty : set.isEmpty = true ↔ set = .ofList [] := by
    constructor
    · intro nothing
      rw [isEmpty, List.isEmpty_iff] at nothing
      rw [canonical, nothing]
      rfl
    · rintro rfl
      rfl
  rw [← empty]
  simp [isCounted, or_iff_not_imp_left]

/-- At most two of several sets do not count. -/
theorem length_le_counted {sets : List AttributeSet} (apart : sets.Nodup)
    (canonical : ∀ set ∈ sets, set.Canonical) : sets.length ≤ sets.countP isCounted + 2 := by
  have exempt : (sets.filter fun set => !set.isCounted) ⊆ [.ofList [], .overflow] := by
    intro set member
    obtain ⟨there, uncounted⟩ := List.mem_filter.mp member
    have which := (canonical set there).isCounted_eq_false_iff.mp (by simpa using uncounted)
    simpa using which
  have few := (List.subperm_of_subset (apart.filter _) exempt).length_le
  have split := List.length_eq_countP_add_countP isCounted (l := sets)
  rw [← List.countP_eq_length_filter] at few
  simp only [Bool.not_eq_true, Bool.decide_eq_false] at split
  rw [split]
  exact Nat.add_le_add_left few _

end AttributeSet

namespace Stream

/-- The number of live series that count towards the limit. -/
def counted (stream : Stream) : Nat :=
  stream.series.accumulations.keys.countP AttributeSet.isCounted

/-- Whether a stream stores a measurement under another set than its own. -/
def diverts (stream : Stream) (value : Quantity) (attributes : List Attribute) : Bool :=
  (stream.place? value attributes).any fun key => key ≠ stream.attributeSet attributes

section Series

variable {stream : Stream} (coherent : stream.Coherent)
include coherent

theorem Coherent.canonical_keys (set : AttributeSet)
    (member : set ∈ stream.series.accumulations.keys) : set.Canonical := by
  obtain ⟨accumulation, found⟩ :=
    Option.isSome_iff_exists.mp ((Table.mem_keys_iff _ set).mp member)
  exact coherent.canonical set accumulation found

theorem Coherent.length_keys (limited : stream.Limited) :
    stream.series.accumulations.keys.length ≤ stream.definition.cardinalityLimit + 2 := by
  have most := AttributeSet.length_le_counted coherent.distinct coherent.canonical_keys
  have exact := limited.exact
  have bounded := limited.bounded
  omega

/-- The series of a set that counts is dropped only while the counter is above zero. -/
theorem Coherent.solvent (limited : stream.Limited) (slot : Slot)
    {gone : List AttributeSet} {set : AttributeSet} {rest : List AttributeSet}
    (order : stream.evictions slot = gone ++ set :: rest) (counts : set.isCounted = true) :
    0 < (gone.foldl Series.evict (stream.visited slot)).tracked := by
  have inside : (stream.evictions slot).Sublist (stream.visited slot).accumulations.keys := by
    rw [keys_visited, ← stream.keys_visits slot]
    exact List.filter_sublist.map _
  have distinct := distinct_visited coherent.distinct slot
  have listed : set ∈ (stream.visited slot).accumulations.keys :=
    inside.subset (by rw [order]; simp)
  have once : set ∉ gone := by
    have apart := inside.nodup distinct
    rw [order, List.nodup_append] at apart
    exact fun member => apart.2.2 set member set List.mem_cons_self rfl
  have present : set ∈ (gone.foldl Series.evict (stream.visited slot)).accumulations.keys := by
    rw [Table.mem_keys_iff, get?_foldl_evict, if_neg once, ← Table.mem_keys_iff]
    exact listed
  rw [((limited.visited slot).foldl_evict distinct gone).exact, List.countP_pos_iff]
  exact ⟨set, present, counts⟩

end Series

/-- Whether no reader remembers more than the stream may hold. -/
def Slim (stream : Stream) : Prop :=
  ∀ slot ∈ stream.slots, slot.size ≤ stream.definition.cardinalityLimit + 2

theorem Blank.slim {stream : Stream} (blank : stream.Blank) : stream.Slim := by
  intro slot member
  rw [blank.slots slot member]
  exact Nat.zero_le _

theorem Slim.record {stream : Stream} (slim : stream.Slim) (now : UInt64) (value : Quantity)
    (attributes : List Attribute) : (stream.record now value attributes).1.Slim := by
  rw [Slim, stream.slots_record_eq, (stream.follows_record now value attributes).terms.definition]
  exact slim

/-- What a reader remembers behind its collection is of live series. -/
theorem Slim.collect {stream : Stream} (slim : stream.Slim) (coherent : stream.Coherent)
    (limited : stream.Limited) (collector : Collector) (time : UInt64) :
    (stream.collect collector time).1.Slim := by
  cases asked : collector.temporality stream.definition.kind with
  | cumulative =>
    rw [stream.collect_cumulative collector time asked]
    exact slim
  | delta =>
    cases found : stream.slots[collector.position]? with
    | none =>
      have unchanged : (stream.collect collector time).1 = stream := by
        rw [stream.collect_delta collector time asked]
        simp [deltaPoints, found]
      rw [unchanged]
      exact slim
    | some slot =>
      have bounded := (List.getElem?_eq_some_iff.mp found).1
      have visited := stream.visited_collect coherent collector time asked bounded
      have most := (stream.coherent_collect coherent collector time).length_keys
        (limited.collect coherent.distinct collector time)
      obtain ⟨kept, apart, slots⟩ := stream.slots_deltaPoints collector time slot found
        (coherent.apart slot (List.mem_of_getElem? found))
      rw [← stream.collect_delta collector time asked] at slots
      have remembered : ∀ set, (stream.collect collector time).1.last collector.position set =
          kept.get? set := by
        intro set
        rw [last, slots, List.getElem?_set_self bounded, Option.bind_some]
      have inside : kept.keys ⊆ (stream.collect collector time).1.series.accumulations.keys := by
        intro set member
        obtain ⟨report, entry⟩ :=
          Option.isSome_iff_exists.mp ((Table.mem_keys_iff kept set).mp member)
        obtain ⟨left, live, _⟩ := (visited set).live_of_last ((remembered set).trans entry)
        rw [Table.mem_keys_iff]
        exact Option.isSome_iff_exists.mpr ⟨left, live⟩
      have fewer := (List.subperm_of_subset apart inside).length_le
      rw [(stream.sameTerms_collect collector time).definition] at most
      rw [Slim, slots, (stream.sameTerms_collect collector time).definition]
      intro other member
      rcases List.mem_or_eq_of_mem_set member with before | rfl
      · exact slim other before
      · rw [Table.keys, List.length_map] at fewer
        exact Nat.le_trans fewer most

section Place

variable (stream : Stream) (value : Quantity) (attributes : List Attribute)

theorem diverts_eq : stream.diverts value attributes = (stream.accepts value &&
    stream.series.turnsAway stream.definition (stream.attributeSet attributes)) := by
  rw [diverts, place_eq]
  cases stream.accepts value with
  | false => rfl
  | true =>
    cases away : stream.series.turnsAway stream.definition (stream.attributeSet attributes) with
    | false => simp
    | true =>
      have counts : (stream.attributeSet attributes).isCounted = true := by
        simp only [Series.turnsAway, Bool.and_eq_true] at away
        exact away.1.1
      have other : AttributeSet.overflow ≠ stream.attributeSet attributes := by
        intro same
        rw [← same, AttributeSet.isCounted_overflow] at counts
        cases counts
      simp [other]

variable (accepted : stream.accepts value = true)
include accepted

/-- There is always room for the exempt sets and for a set that has a series. -/
theorem place_standing (standing : (stream.attributeSet attributes).isCounted = false ∨
    (stream.live (stream.attributeSet attributes)).isSome) :
    stream.place? value attributes = some (stream.attributeSet attributes) := by
  have stays : stream.series.turnsAway stream.definition (stream.attributeSet attributes) =
      false := by
    rcases standing with exempt | present
    · rw [Series.turnsAway, exempt]
      rfl
    · rw [Series.turnsAway, Table.contains]
      rw [live] at present
      simp [present]
  rw [place_eq, if_pos accepted, stays]
  rfl

/-- A further set is given a series of its own as long as fewer sets are counted than the limit
allows. -/
theorem place_further (limited : stream.Limited)
    (counts : (stream.attributeSet attributes).isCounted = true)
    (absent : stream.live (stream.attributeSet attributes) = none) :
    stream.place? value attributes = some
      (if stream.counted < stream.definition.cardinalityLimit
        then stream.attributeSet attributes else .overflow) := by
  have new : stream.series.accumulations.contains (stream.attributeSet attributes) = false := by
    rw [Table.contains, ← live, absent]
    rfl
  have away : stream.series.turnsAway stream.definition (stream.attributeSet attributes) =
      decide (stream.definition.cardinalityLimit ≤ stream.counted) := by
    rw [Series.turnsAway, counts, new, limited.exact]
    rfl
  rw [place_eq, if_pos accepted, away]
  by_cases room : stream.counted < stream.definition.cardinalityLimit
  · simp [room, Nat.not_le_of_lt room]
  · simp [room, Nat.le_of_not_lt room]

end Place

/-- What a stream notes about a measurement. -/
theorem events_record (stream : Stream) (now : UInt64) (value : Quantity)
    (attributes : List Attribute) : (stream.record now value attributes).2 =
      if stream.accepts value then
        if stream.diverts value attributes && !stream.series.limitReported then
          [.cardinalityLimitReached stream.definition.name stream.definition.cardinalityLimit]
        else []
      else [.negativeMeasurement stream.definition.name] := by
  have routed : ∀ set, (stream.series.route stream.definition set).2.2 =
      if stream.series.turnsAway stream.definition set && !stream.series.limitReported then
        [.cardinalityLimitReached stream.definition.name stream.definition.cardinalityLimit]
      else [] := by
    intro set
    unfold Series.route Series.turnsAway
    by_cases new : (set.isCounted && !stream.series.accumulations.contains set) = true
    · by_cases room : stream.series.tracked < stream.definition.cardinalityLimit
      · simp [new, room, Nat.not_le_of_lt room]
      · cases reported : stream.series.limitReported <;>
          simp [new, room, Nat.le_of_not_lt room]
    · simp [new]
  cases accepted : stream.accepts value with
  | false => simp [record, accepted]
  | true =>
    have taken : (stream.record now value attributes).2 =
        (stream.series.route stream.definition (stream.attributeSet attributes)).2.2 := by
      simp only [record, accepted, ↓reduceIte]
      rfl
    rw [taken, routed, diverts_eq, accepted, Bool.true_and]
    rfl

/-- What holds of the attribute sets of a stream with a limit. -/
structure Accounted (stream : Stream) (limit : Nat) : Prop where
  distinct : stream.series.accumulations.keys.Nodup
  keys : ∀ set, set ∈ stream.series.accumulations.keys ↔ (stream.live set).isSome
  /-- Of live sets, and of those of measurements, two alone are exempt from the limit. -/
  exempt : ∀ set, (stream.live set).isSome ∨ (∃ attributes, set = stream.attributeSet attributes) →
    (set.isCounted = false ↔ set = .ofList [] ∨ set = .overflow)
  counter : stream.series.tracked = stream.counted
  within : stream.series.tracked ≤ limit
  /-- A collection of changes drops one series after the other. -/
  drops : ∀ (collector : Collector) time slot,
    collector.temporality stream.definition.kind = .delta →
      stream.slots[collector.position]? = some slot →
        (stream.collect collector time).1.series =
          (stream.evictions slot).foldl Series.evict (stream.visited slot)
  solvent : ∀ slot gone set rest, stream.evictions slot = gone ++ set :: rest →
    set.isCounted = true → 0 < (gone.foldl Series.evict (stream.visited slot)).tracked
  series : stream.series.accumulations.keys.length ≤ limit + 2
  slots : ∀ slot ∈ stream.slots, slot.size ≤ limit + 2
  standing : ∀ value attributes, stream.accepts value = true →
    (stream.attributeSet attributes).isCounted = false ∨
        (stream.live (stream.attributeSet attributes)).isSome →
      stream.place? value attributes = some (stream.attributeSet attributes)
  further : ∀ value attributes, stream.accepts value = true →
    (stream.attributeSet attributes).isCounted = true →
      stream.live (stream.attributeSet attributes) = none →
        stream.place? value attributes =
          some (if stream.counted < limit then stream.attributeSet attributes else .overflow)
  /-- A measurement is taken into the series of the set under which it is stored. -/
  stored : ∀ now value attributes key, stream.place? value attributes = some key →
    ∀ set, (stream.record now value attributes).1.live set =
      if set = key then
        some (((stream.live key).getD (stream.fresh value)).take stream.definition.kind value
          (stream.exemplar? now value))
      else stream.live set
  refused : ∀ now value attributes, stream.accepts value = false →
    (stream.record now value attributes).1 = stream

theorem accounted {stream : Stream} (coherent : stream.Coherent) (limited : stream.Limited)
    (slim : stream.Slim) : stream.Accounted stream.definition.cardinalityLimit := by
  constructor
  case distinct => exact coherent.distinct
  case keys => exact Table.mem_keys_iff stream.series.accumulations
  case exempt =>
    rintro set (present | ⟨attributes, rfl⟩)
    · obtain ⟨accumulation, found⟩ := Option.isSome_iff_exists.mp present
      exact (coherent.canonical set accumulation found).isCounted_eq_false_iff
    · exact (stream.canonical_attributeSet attributes).isCounted_eq_false_iff
  case counter => exact limited.exact
  case within => exact limited.bounded
  case drops =>
    intro collector time slot delta found
    rw [stream.collect_delta collector time delta]
    exact stream.series_deltaPoints collector time slot found
  case solvent => exact fun slot _ _ _ order counts => coherent.solvent limited slot order counts
  case series => exact coherent.length_keys limited
  case slots => exact slim
  case standing =>
    exact fun value attributes accepted =>
      stream.place_standing value attributes accepted
  case further =>
    exact fun value attributes accepted =>
      stream.place_further value attributes accepted limited
  case stored =>
    exact fun now value attributes key placed => stream.live_record now value attributes key placed
  case refused =>
    intro now value attributes refused
    apply stream.record_refused
    rw [place_eq, refused]
    rfl

end Stream

/-- Whether an operation diverts a measurement. -/
def Operation.isDiverted (stream : Stream) : Operation → Bool
  | .record _ value attributes => stream.diverts value attributes
  | _ => false

namespace Account

/-- Whether a run diverts a measurement. -/
def diverts (readers : List TemporalityChoice) (account : Account) : List Operation → Bool
  | [] => false
  | operation :: rest =>
    operation.isDiverted account.stream || (account.step readers operation).diverts readers rest

variable (readers : List TemporalityChoice) (account : Account)

theorem slim_step (slim : account.stream.Slim) (coherent : account.stream.Coherent)
    (limited : account.stream.Limited) (operation : Operation) :
    (account.step readers operation).stream.Slim := by
  cases operation with
  | record now value attributes =>
    rw [step, stream_record]
    exact slim.record now value attributes
  | collect position since time =>
    rw [step]
    split
    next => exact slim
    next temporality _ => exact slim.collect coherent limited ⟨position, temporality, since⟩ time
  | reset => exact account.stream.blank_reset.slim

theorem accounted_run (coherent : account.stream.Coherent) (limited : account.stream.Limited)
    (slim : account.stream.Slim) (operations : List Operation) :
    (account.run readers operations).stream.Accounted
      account.stream.definition.cardinalityLimit := by
  induction operations generalizing account with
  | nil => exact Stream.accounted coherent limited slim
  | cons operation rest ih =>
    rw [← (account.sameTerms_step readers operation).definition]
    exact ih _ (account.coherent_step readers coherent operation)
      (account.limited_step readers limited coherent.distinct operation)
      (account.slim_step readers slim coherent limited operation)

theorem limitReported_step (operation : Operation) (running : operation ≠ .reset) :
    (account.step readers operation).stream.series.limitReported =
      (account.stream.series.limitReported || operation.isDiverted account.stream) := by
  cases operation with
  | record now value attributes =>
    rw [step, stream_record, Operation.isDiverted, Stream.diverts_eq]
    cases accepted : account.stream.accepts value with
    | false =>
      have refused : account.stream.place? value attributes = none := by
        rw [Stream.place_eq, accepted]
        rfl
      rw [account.stream.record_refused now value attributes refused, Bool.false_and,
        Bool.or_false]
    | true =>
      have placed := account.stream.place_eq value attributes
      rw [if_pos accepted] at placed
      rw [account.stream.limitReported_record now value attributes _ placed, Bool.true_and]
  | collect position since time =>
    have harmless : (Operation.collect position since time).isDiverted account.stream = false := rfl
    rw [step, harmless, Bool.or_false]
    split
    next => rfl
    next temporality _ => exact account.stream.limitReported_collect _ time
  | reset => exact absurd rfl running

/-- Between resets a stream knows whether it has diverted a measurement. -/
theorem limitReported_run (operations : List Operation) (running : .reset ∉ operations) :
    (account.run readers operations).stream.series.limitReported =
      (account.stream.series.limitReported || account.diverts readers operations) := by
  induction operations generalizing account with
  | nil => exact (Bool.or_false _).symm
  | cons operation rest ih =>
    rw [List.mem_cons, not_or] at running
    refine (ih _ running.2).trans ?_
    rw [account.limitReported_step readers operation (Ne.symm running.1), diverts, Bool.or_assoc]

/-- The series of a stream and what its readers remember of them keep to the limit, and room is
refused only when there is none. Of the measurements that are diverted since the stream was made or
last reset, the first one is noted, and no other. -/
theorem cardinality_accounted (definition : StreamDefinition) (filter : ExemplarFilter)
    (start : UInt64) :
    (∀ operations, ((create definition filter start readers).run readers
      operations).stream.Accounted definition.cardinalityLimit) ∧
    ∀ earlier window, (earlier = [] ∨ ∃ before, earlier = before ++ [.reset]) →
      .reset ∉ window → ∀ now value attributes,
        let origin := (create definition filter start readers).run readers earlier
        let stream := (origin.run readers window).stream
        (stream.record now value attributes).2 =
          if stream.accepts value then
            if stream.diverts value attributes && !origin.diverts readers window then
              [.cardinalityLimitReached definition.name definition.cardinalityLimit]
            else []
          else [.negativeMeasurement definition.name] := by
  have blank := Stream.blank_create definition filter start readers
  constructor
  · exact (create definition filter start readers).accounted_run readers blank.coherent
      (Stream.limited_create definition filter start readers) blank.slim
  · intro earlier window opens running now value attributes origin stream
    have silent : origin.stream.series.limitReported = false := by
      rcases opens with rfl | ⟨before, rfl⟩
      · rfl
      · simp only [origin, run_append]
        rfl
    have named : stream.definition = definition := by
      exact (origin.sameTerms_run readers window).definition.trans
        ((create definition filter start readers).sameTerms_run readers earlier).definition
    have reported := origin.limitReported_run readers window running
    rw [silent, Bool.false_or] at reported
    rw [stream.events_record, named, reported]

/-- With room for one set, a second one is diverted and noted, and a third one is diverted as well.
Once both series are dropped, there is room for the third one. -/
theorem cardinality_accounted_diverted :
    let definition : StreamDefinition := ⟨"requests", "", "", .counter, none, 1⟩
    let readers : List TemporalityChoice := [fun _ => .delta]
    let attributes := fun number => [(⟨"k", .int number⟩ : Attribute)]
    let record := fun number => Operation.record 2 (.unsigned 5) (attributes number)
    let origin := (create definition .alwaysOff 1 readers).run readers
      [record 1, record 2, .reset]
    let full := (origin.run readers [record 1]).stream
    let spilled := (origin.run readers [record 1, record 2]).stream
    let idle := (origin.run readers [record 1, record 2, .collect 0 1 2]).stream
    (full.record 3 (.unsigned 5) (attributes 2)).2 = [.cardinalityLimitReached "requests" 1] ∧
      (spilled.record 3 (.unsigned 5) (attributes 3)).2 = [] ∧
      spilled.place? (.unsigned 5) (attributes 3) = some .overflow ∧
      spilled.place? (.unsigned 5) (attributes 1) = some (spilled.attributeSet (attributes 1)) ∧
      idle.place? (.unsigned 5) (attributes 3) = some (idle.attributeSet (attributes 3)) ∧
      0 < (spilled.visited .empty).tracked := by
  intro definition readers attributes record origin full spilled idle
  obtain ⟨accounted, noted⟩ := cardinality_accounted readers definition .alwaysOff 1
  have opens : ∃ before, [record 1, record 2, .reset] = before ++ [.reset] :=
    ⟨[record 1, record 2], rfl⟩
  have first := noted _ [record 1] (.inr opens) (by simp [record]) 3 (.unsigned 5) (attributes 2)
  have second := noted _ [record 1, record 2] (.inr opens) (by simp [record]) 3 (.unsigned 5)
    (attributes 3)
  have always : ∀ window, (origin.run readers window).stream.Accounted 1 := by
    intro window
    have whole := accounted ([record 1, record 2, .reset] ++ window)
    rw [run_append] at whole
    exact whole
  have later : spilled.Accounted 1 := always [record 1, record 2]
  have last : idle.Accounted 1 := always [record 1, record 2, .collect 0 1 2]
  refine ⟨?_, ?_, ?_, ?_, ?_, ?_⟩
  · have accepted : full.accepts (.unsigned 5) = true := by decide +kernel
    have due : (full.diverts (.unsigned 5) (attributes 2) &&
        !origin.diverts readers [record 1]) = true := by decide +kernel
    exact first.trans ((if_pos accepted).trans (if_pos due))
  · have accepted : spilled.accepts (.unsigned 5) = true := by decide +kernel
    have done : ¬(spilled.diverts (.unsigned 5) (attributes 3) &&
        !origin.diverts readers [record 1, record 2]) = true := by decide +kernel
    exact second.trans ((if_pos accepted).trans (if_neg done))
  · have absent : spilled.live (spilled.attributeSet (attributes 3)) = none :=
      Option.isNone_iff_eq_none.mp (by decide +kernel)
    have taken : ¬spilled.counted < 1 := by decide +kernel
    have diverted := later.further (.unsigned 5) (attributes 3) (by decide +kernel)
      (by decide +kernel) absent
    rwa [if_neg taken] at diverted
  · exact later.standing (.unsigned 5) (attributes 1) (by decide +kernel)
      (.inr (by decide +kernel))
  · have absent : idle.live (idle.attributeSet (attributes 3)) = none :=
      Option.isNone_iff_eq_none.mp (by decide +kernel)
    have room : idle.counted < 1 := by decide +kernel
    have given := last.further (.unsigned 5) (attributes 3) (by decide +kernel)
      (by decide +kernel) absent
    rwa [if_pos room] at given
  · exact later.solvent .empty [] (.ofList (attributes 1)) [.overflow] (by decide +kernel)
      (by decide +kernel)

end Account

end Metering
