import Metering.Proofs.Stream.Coherence

/-!
Changes. The books of every reader that asks for changes are balanced at any time: what it has not
seen of a series is exactly what was stored there since its last collection. The main statement is
that a collection of changes answers one point for each set with unseen measurements, and that the
point's value is what these measurements come to.
-/

namespace Metering

/-- Whether the reader at a position asks for changes of instruments of a kind. -/
def AsksForDelta (readers : List TemporalityChoice) (kind : InstrumentKind) (position : Nat) :
    Prop :=
  ∃ temporality, readers[position]? = some temporality ∧ temporality kind = .delta

theorem AsksForDelta.lt_length {readers : List TemporalityChoice} {kind : InstrumentKind}
    {position : Nat} (asks : AsksForDelta readers kind position) : position < readers.length := by
  obtain ⟨_, found, _⟩ := asks
  exact (List.getElem?_eq_some_iff.mp found).1

theorem AsksForDelta.ne_of_cumulative {readers : List TemporalityChoice} {kind : InstrumentKind}
    {position other : Nat} (asks : AsksForDelta readers kind position)
    {temporality : TemporalityChoice} (found : readers[other]? = some temporality)
    (cumulative : temporality kind = .cumulative) : position ≠ other := by
  rintro rfl
  obtain ⟨choice, same, delta⟩ := asks
  rw [found] at same
  cases same
  rw [cumulative] at delta
  cases delta

/-- What measurements of one set come to: increments are added, other measurements replace what
was there. -/
def InstrumentKind.aggregate (kind : InstrumentKind) (number : NumberType)
    (values : List Quantity) : Quantity :=
  if kind.isPrecomputed then values.getLast?.getD (Quantity.sum number [])
  else Quantity.sum number values

/-- Whether a series is what a reader has seen of it and what it has not seen. -/
structure Balanced (number : NumberType) (kind : InstrumentKind) (accumulation : Accumulation)
    (seen : Option Reported) (unseen : List Quantity) : Prop where
  updates : accumulation.updates = (seen.map (·.updates)).getD 0 + unseen.length
  added : kind.isPrecomputed = false → accumulation.value =
    (seen.map (·.value)).getD (Quantity.sum number []) + Quantity.sum number unseen
  replaced : kind.isPrecomputed = true → ∀ value, unseen.getLast? = some value →
    accumulation.value = value

section Balanced

variable {number : NumberType} {kind : InstrumentKind} {accumulation : Accumulation}
  {last : Option Reported} {unseen : List Quantity}

/-- A reader knows the current value of a series if there is nothing that it has not seen. -/
theorem Balanced.isKnown_iff
    (balanced : Balanced number kind accumulation (accumulation.seen last) unseen)
    (updated : 0 < accumulation.updates) :
    accumulation.isKnown last = true ↔ unseen = [] := by
  have updates := balanced.updates
  unfold Accumulation.isKnown
  cases seen : accumulation.seen last with
  | none =>
    rw [seen] at updates
    simp only [Option.map_none, Option.getD_none, Nat.zero_add] at updates
    have some_unseen : unseen ≠ [] := by
      rintro rfl
      rw [updates] at updated
      exact Nat.lt_irrefl 0 updated
    simp [some_unseen]
  | some report =>
    rw [seen] at updates
    simp only [Option.map_some, Option.getD_some] at updates
    rw [Option.any_some, decide_eq_true_eq, ← List.length_eq_zero_iff]
    omega

theorem Balanced.take (integer : number.isInteger)
    (balanced : Balanced number kind accumulation (accumulation.seen last) unseen)
    (remembered : ∀ report, last = some report → report.value.HasType number)
    (value : Quantity) (typed : value.HasType number) (exemplar : Option Exemplar) :
    Balanced number kind (accumulation.take kind value exemplar)
      ((accumulation.take kind value exemplar).seen last) (unseen ++ [value]) := by
  change Balanced number kind _ (accumulation.seen last) _
  refine ⟨?_, ?_, ?_⟩
  · have updates := balanced.updates
    rw [List.length_append, List.length_singleton]
    change accumulation.updates + 1 = _
    omega
  · intro increments
    have base : ((accumulation.seen last).map (·.value)).getD (Quantity.sum number [])
        |>.HasType number := by
      cases seen : accumulation.seen last with
      | none => exact Quantity.hasType_sum integer []
      | some report =>
        exact remembered report ((Accumulation.seen_eq_some_iff _ _ _).mp seen).1
    calc
      (accumulation.take kind value exemplar).value = accumulation.value + value := by
        simp [Accumulation.take, increments]
      _ = _ + Quantity.sum number unseen + value := by rw [balanced.added increments]
      _ = _ + (Quantity.sum number unseen + value) :=
        Quantity.add_assoc integer _ _ _ base (Quantity.hasType_sum integer unseen) typed
      _ = _ := by rw [← Quantity.sum_append integer unseen value typed]
  · intro replaces newest final
    rw [List.getLast?_append_of_ne_nil _ (List.cons_ne_nil _ _)] at final
    cases final
    simp [Accumulation.take, replaces]

theorem Balanced.fresh (integer : number.isInteger) (stream : Stream) (value : Quantity)
    (typed : value.HasType number) :
    Balanced number kind (stream.fresh value) none [] := by
  refine ⟨rfl, ?_, ?_⟩
  · intro _
    change value.zero = Quantity.sum number [] + Quantity.sum number []
    rw [Quantity.zero_eq integer value typed]
    exact (Quantity.add_zero integer _ (Quantity.hasType_quantity integer 0)).symm
  · intro _ value final
    cases final

/-- A reader that has just been given the current value has seen everything. -/
theorem Balanced.report (integer : number.isInteger) (typed : accumulation.value.HasType number)
    (count : Nat) :
    Balanced number kind { accumulation with acks := count } (some accumulation.report) [] := by
  refine ⟨rfl, ?_, ?_⟩
  · intro _
    exact (Quantity.add_zero integer accumulation.value typed).symm
  · intro _ value final
    cases final

end Balanced

namespace Stream

/-- A series is dropped only when every reader knows its current value. -/
theorem Visited.known_of_dropped {stream next : Stream} {position : Nat} {set : AttributeSet}
    (visited : Visited stream next position set) (coherent : stream.Coherent)
    (bounded : position < stream.slots.length) {accumulation : Accumulation}
    (before : stream.live set = some accumulation) (gone : next.live set = none) (other : Nat)
    (different : other ≠ position) (reader : other < stream.slots.length) :
    accumulation.isKnown (stream.last other set) = true := by
  have acknowledged := coherent.acknowledged set accumulation before
  have there : ∀ index (inside : index < stream.slots.length),
      stream.last index set = (stream.slots[index]).get? set := fun index inside =>
    last_of_getElem? (List.getElem?_eq_getElem inside) set
  cases visited with
  | absent nothing _ _ =>
    rw [before] at nothing
    cases nothing
  | quiet _ _ _ _ after _ =>
    rw [gone] at after
    cases after
  | lapsed same present _ due _ _ =>
    rw [before] at present
    cases present
    simp only [lapses, Bool.and_eq_true, decide_eq_true_eq] at due
    rw [acknowledged, List.countP_eq_length] at due
    rw [there other reader]
    exact due.2 _ (List.getElem_mem reader)
  | reported _ _ _ _ after _ =>
    rw [gone] at after
    cases after
  | settled same present news due _ _ =>
    rw [before] at present
    cases present
    simp only [settles, Bool.and_eq_true, decide_eq_true_eq] at due
    rw [there position bounded] at news
    -- A slot that knows the value, in place of the reader's own, completes the count.
    have kept : accumulation.isKnown
        ((stream.slots[position].insert set accumulation.report).get? set) = true := by
      rw [Table.get?_insert, if_pos rfl]
      exact (Accumulation.isKnown_iff _ _).mpr ⟨_, rfl, rfl, rfl⟩
    have counted := countP_known stream.slots position _ _ (List.getElem?_eq_getElem bounded)
      accumulation set news kept
    have everyone : (stream.slots.set position
        (stream.slots[position].insert set accumulation.report)).countP
          (fun slot => accumulation.isKnown (slot.get? set)) =
        (stream.slots.set position
          (stream.slots[position].insert set accumulation.report)).length := by
      rw [counted, ← acknowledged, List.length_set]
      exact due.2
    rw [there other reader]
    apply List.countP_eq_length.mp everyone
    have unchanged := List.getElem?_set_ne (a := stream.slots[position].insert set
      accumulation.report) (l := stream.slots) different.symm
    rw [List.getElem?_eq_getElem reader] at unchanged
    exact List.mem_of_getElem? unchanged

end Stream

namespace Account

theorem sameTerms_step (readers : List TemporalityChoice) (account : Account)
    (operation : Operation) :
    account.stream.SameTerms (account.step readers operation).stream := by
  cases operation with
  | record now value attributes =>
    simp only [step, record]
    cases placed : account.stream.place? value attributes with
    | none =>
      have refused := account.stream.record_refused now value attributes placed
      exact refused.symm ▸ .refl account.stream
    | some key => exact account.stream.sameTerms_record now value attributes key placed
  | collect position since time =>
    simp only [step]
    split
    next => exact .refl account.stream
    next temporality _ => exact account.stream.sameTerms_collect _ time
  | reset => exact account.stream.sameTerms_reset

theorem sameTerms_run (readers : List TemporalityChoice) (account : Account)
    (operations : List Operation) :
    account.stream.SameTerms (account.run readers operations).stream := by
  induction operations generalizing account with
  | nil => exact .refl account.stream
  | cons operation rest ih =>
    exact (account.sameTerms_step readers operation).trans (ih _)

/-- Whether the books of all readers that ask for changes are balanced. -/
structure Accurate (readers : List TemporalityChoice) (number : NumberType) (account : Account) :
    Prop where
  coherent : account.stream.Coherent
  typed : account.stream.Typed number
  slots : account.stream.slots.length = readers.length
  absent : ∀ position set, AsksForDelta readers account.stream.definition.kind position →
    account.stream.live set = none → valuesUnder set (account.unseen position) = []
  balanced : ∀ position set accumulation,
    AsksForDelta readers account.stream.definition.kind position →
      account.stream.live set = some accumulation →
        Balanced number account.stream.definition.kind accumulation
          (accumulation.seen (account.stream.last position set))
          (valuesUnder set (account.unseen position))

section Accurate

variable {readers : List TemporalityChoice} {number : NumberType} {account : Account}

theorem accurate_create (definition : StreamDefinition) (filter : ExemplarFilter)
    (start : UInt64) (readers : List TemporalityChoice) :
    (create definition filter start readers).Accurate readers number :=
  have blank := Stream.blank_create definition filter start readers
  ⟨blank.coherent, blank.typed, List.length_map _, fun _ _ _ _ => rfl, nofun⟩

theorem Accurate.record (accurate : account.Accurate readers number) (integer : number.isInteger)
    (now : UInt64) (value : Quantity) (measured : value.HasType number)
    (attributes : List Attribute) :
    (account.record now value attributes).Accurate readers number := by
  cases placed : account.stream.place? value attributes with
  | none =>
    rw [account.record_refused now value attributes placed]
    exact accurate
  | some key =>
    have live := account.stream.live_record now value attributes key placed
    have last := account.stream.last_record now value attributes key placed
    have terms := account.stream.sameTerms_record now value attributes key placed
    have unseen := account.unseen_record now value attributes key placed
    rw [← account.stream_record now value attributes] at live last terms
    constructor
    case coherent =>
      rw [stream_record]
      exact account.stream.coherent_record now value attributes accurate.coherent
    case typed =>
      rw [stream_record]
      exact accurate.typed.record integer now value measured attributes
    case slots => exact terms.readers.trans accurate.slots
    case absent =>
      intro position set asks nothing
      rw [terms.definition] at asks
      rw [live] at nothing
      split at nothing
      next => cases nothing
      next other =>
        rw [unseen, valuesUnder_append, if_neg (Ne.symm other)]
        exact accurate.absent position set asks nothing
    case balanced =>
      intro position set accumulation asks present
      rw [terms.definition] at asks ⊢
      rw [last, unseen, valuesUnder_append]
      rw [live] at present
      split at present
      next same =>
        subst same
        rw [if_pos rfl, ← Option.some.inj present]
        have before : Balanced number account.stream.definition.kind
            ((account.stream.live set).getD (account.stream.fresh value))
            (((account.stream.live set).getD (account.stream.fresh value)).seen
              (account.stream.last position set))
            (valuesUnder set (account.unseen position)) := by
          cases found : account.stream.live set with
          | some accumulation => exact accurate.balanced position set _ asks found
          | none =>
            -- Without a series nothing is unseen, so the fresh one starts with empty books.
            rw [accurate.absent position set asks found, Option.getD_none,
              accurate.coherent.seen_fresh set value position]
            exact Balanced.fresh integer account.stream value measured
        exact before.take integer (fun report => accurate.typed.last position set report) value
          measured _
      next other =>
        rw [if_neg (Ne.symm other)]
        exact accurate.balanced position set accumulation asks present

/-- A collection of changes balances the books of its reader, and leaves those of the others
balanced: a series may be gone, but then nobody missed anything of it. -/
theorem Accurate.collect (accurate : account.Accurate readers number)
    (integer : number.isInteger) (position : Nat) (temporality : TemporalityChoice)
    (reader : readers[position]? = some temporality) (since time : UInt64) :
    (account.collect ⟨position, temporality, since⟩ time).Accurate readers number := by
  have terms := account.stream.sameTerms_collect ⟨position, temporality, since⟩ time
  have others := account.stream.last_collect ⟨position, temporality, since⟩ time
  have inside : ∀ other, AsksForDelta readers account.stream.definition.kind other →
      other < account.stream.slots.length := fun _ asks => accurate.slots ▸ asks.lt_length
  constructor
  case coherent => exact account.stream.coherent_collect accurate.coherent _ time
  case typed => exact accurate.typed.collect accurate.coherent _ time
  case slots => exact terms.readers.trans accurate.slots
  case absent =>
    intro other set asks nothing
    rw [stream_collect, terms.definition] at asks
    rw [stream_collect] at nothing
    rw [unseen_collect]
    split
    next => rfl
    next different =>
      cases before : account.stream.live set with
      | none => exact accurate.absent other set asks before
      | some accumulation =>
        cases asked : temporality account.stream.definition.kind with
        | cumulative =>
          rw [account.stream.collect_cumulative _ time asked, before] at nothing
          cases nothing
        | delta =>
          -- The series is dropped just now, and every other reader knew its last value.
          have bounded := inside position ⟨temporality, reader, asked⟩
          have known := (account.stream.visited_collect accurate.coherent _ time asked bounded
            set).known_of_dropped accurate.coherent bounded before nothing other different
              (inside other asks)
          have balanced := accurate.balanced other set accumulation asks before
          exact (balanced.isKnown_iff (accurate.coherent.updated set _ before)).mp known
  case balanced =>
    intro other set left asks present
    rw [stream_collect, terms.definition] at asks ⊢
    rw [stream_collect] at present
    rw [unseen_collect]
    cases asked : temporality account.stream.definition.kind with
    | cumulative =>
      rw [if_neg (asks.ne_of_cumulative reader asked)]
      rw [account.stream.collect_cumulative _ time asked] at present ⊢
      exact accurate.balanced other set left asks present
    | delta =>
      have bounded := inside position ⟨temporality, reader, asked⟩
      have visited := account.stream.visited_collect accurate.coherent
        ⟨position, temporality, since⟩ time asked bounded set
      obtain ⟨accumulation, before, step⟩ := visited.of_live present
      have balanced := accurate.balanced other set accumulation asks before
      by_cases mine : other = position
      · subst mine
        rw [if_pos rfl]
        rcases step with ⟨known, same, memory⟩ | ⟨_, same, memory⟩
        · have nothing := (balanced.isKnown_iff (accurate.coherent.updated set _ before)).mp known
          rw [nothing] at balanced
          rw [memory, same]
          exact balanced
        · have seen : left.seen (some accumulation.report) = some accumulation.report := by
            rw [same]
            exact (Accumulation.seen_eq_some_iff _ _ _).mpr ⟨rfl, rfl⟩
          rw [memory, seen, same]
          exact Balanced.report integer (accurate.typed.live set accumulation before) _
      · rw [if_neg mine, others other mine set]
        rcases step with ⟨_, same, _⟩ | ⟨_, same, _⟩
        · exact same ▸ balanced
        -- Only the acknowledgements differ, and the books do not mention them.
        · subst same
          exact ⟨balanced.updates, balanced.added, balanced.replaced⟩

theorem Accurate.reset (accurate : account.Accurate readers number) :
    Accurate readers number { stream := account.stream.reset } :=
  ⟨account.stream.blank_reset.coherent, account.stream.blank_reset.typed,
    (List.length_map _).trans accurate.slots, fun _ _ _ _ => rfl, nofun⟩

theorem Accurate.step (accurate : account.Accurate readers number) (integer : number.isInteger)
    (operation : Operation) (measured : operation.HasType number) :
    (account.step readers operation).Accurate readers number := by
  cases operation with
  | record now value attributes => exact accurate.record integer now value measured attributes
  | collect position since time =>
    simp only [Account.step]
    split
    next => exact accurate
    next temporality reader =>
      exact accurate.collect integer position temporality reader since time
  | reset => exact accurate.reset

theorem Accurate.run (accurate : account.Accurate readers number) (integer : number.isInteger)
    (operations : List Operation) (measured : ∀ operation ∈ operations, operation.HasType number) :
    (account.run readers operations).Accurate readers number := by
  induction operations generalizing account with
  | nil => exact accurate
  | cons operation rest ih =>
    have here := accurate.step integer operation (measured _ List.mem_cons_self)
    exact ih here fun later member => measured later (List.mem_cons_of_mem _ member)

/-- The change of a series is what its reader has not seen of it. -/
theorem Accurate.change_eq (accurate : account.Accurate readers number)
    (integer : number.isInteger)
    (synchronous : account.stream.definition.kind.isObservable = false) (position : Nat)
    (asks : AsksForDelta readers account.stream.definition.kind position) (set : AttributeSet)
    (accumulation : Accumulation) (present : account.stream.live set = some accumulation)
    (news : accumulation.isKnown (account.stream.last position set) = false) :
    account.stream.change (accumulation.seen (account.stream.last position set)) accumulation =
      account.stream.definition.kind.aggregate number
        (valuesUnder set (account.unseen position)) := by
  have balanced := accurate.balanced position set accumulation asks present
  have unseen : valuesUnder set (account.unseen position) ≠ [] := by
    intro nothing
    have known := (balanced.isKnown_iff (accurate.coherent.updated set _ present)).mpr nothing
    rw [news] at known
    cases known
  have total : (Quantity.sum number (valuesUnder set (account.unseen position))).HasType number :=
    Quantity.hasType_sum integer _
  unfold InstrumentKind.aggregate
  cases replaces : account.stream.definition.kind.isPrecomputed with
  | true =>
    have gauge : account.stream.definition.kind.isSum = false := by
      cases kind : account.stream.definition.kind <;> simp_all [InstrumentKind.isObservable,
        InstrumentKind.isPrecomputed, InstrumentKind.isSum]
    rw [if_pos rfl, List.getLast?_eq_some_getLast unseen, Option.getD_some]
    have newest := balanced.replaced replaces _ (List.getLast?_eq_some_getLast unseen)
    unfold Stream.change
    cases accumulation.seen (account.stream.last position set) with
    | none => exact newest
    | some report => simp [gauge, newest]
  | false =>
    have sums : account.stream.definition.kind.isSum = true := by
      cases kind : account.stream.definition.kind <;> simp_all [InstrumentKind.isPrecomputed,
        InstrumentKind.isSum]
    have added := balanced.added replaces
    rw [if_neg Bool.false_ne_true]
    unfold Stream.change
    cases seen : accumulation.seen (account.stream.last position set) with
    | none =>
      rw [seen, Option.map_none, Option.getD_none, Quantity.sum_nil] at added
      exact added.trans (Quantity.zero_add integer _ total)
    | some report =>
      rw [seen, Option.map_some, Option.getD_some] at added
      have remembered := accurate.typed.last position set report
        ((Accumulation.seen_eq_some_iff _ _ _).mp seen).1
      dsimp only
      rw [if_pos sums, added]
      exact Quantity.add_sub_cancel integer _ _ remembered total

end Accurate

/-- Each collection of changes answers exactly one point for each set under which a measurement
was stored since the reader's last collection, and the point's value is what these measurements
come to: nothing is lost and nothing is reported twice, whatever the other readers collected and
whatever series were dropped and made again in between. -/
theorem delta_collection_exact (definition : StreamDefinition) (filter : ExemplarFilter)
    (start : UInt64) (readers : List TemporalityChoice) (number : NumberType)
    (integer : number.isInteger) (synchronous : definition.kind.isObservable = false)
    (operations : List Operation) (measured : ∀ operation ∈ operations, operation.HasType number)
    (position : Nat) (temporality : TemporalityChoice)
    (reader : readers[position]? = some temporality)
    (delta : temporality definition.kind = .delta) (since time : UInt64) :
    let account := (create definition filter start readers).run readers operations
    ∃ sets : List AttributeSet, (sets.map (·.toList)).Nodup ∧
      (∀ set, set ∈ sets ↔ valuesUnder set (account.unseen position) ≠ []) ∧
      (account.stream.pointsFor ⟨position, temporality, since⟩ time).map
          (fun point => (point.attributes, point.start, point.time, point.value)) =
        sets.map fun set => (set.toList, since, time,
          definition.kind.aggregate number (valuesUnder set (account.unseen position))) := by
  intro account
  have accurate : account.Accurate readers number :=
    (accurate_create definition filter start readers).run integer operations measured
  have same : account.stream.definition = definition :=
    ((create definition filter start readers).sameTerms_run readers operations).definition
  have kind : account.stream.definition.kind = definition.kind := congrArg _ same
  have asks : AsksForDelta readers account.stream.definition.kind position :=
    ⟨temporality, reader, kind ▸ delta⟩
  have bounded : position < account.stream.slots.length := by
    rw [accurate.slots]
    exact (List.getElem?_eq_some_iff.mp reader).1
  have found := List.getElem?_eq_getElem bounded
  have last := Stream.last_of_getElem? found
  have points := account.stream.points_deltaPoints ⟨position, temporality, since⟩ time _ found
  have news : ∀ set accumulation,
      (set, accumulation) ∈ account.stream.news account.stream.slots[position] ↔
        account.stream.live set = some accumulation ∧
          accumulation.isKnown (account.stream.last position set) = false := by
    intro set accumulation
    rw [last]
    exact account.stream.mem_news_iff accurate.coherent.distinct _ set accumulation
  refine ⟨(account.stream.news account.stream.slots[position]).map (·.1), ?_, ?_, ?_⟩
  · exact accurate.coherent.nodup_attributes _ List.filter_sublist
  · intro set
    constructor
    · intro member
      obtain ⟨⟨_, accumulation⟩, entry, rfl⟩ := List.mem_map.mp member
      obtain ⟨present, unknown⟩ := (news _ _).mp entry
      intro nothing
      have balanced := accurate.balanced position _ accumulation asks present
      have known := (balanced.isKnown_iff (accurate.coherent.updated _ _ present)).mpr nothing
      rw [unknown] at known
      cases known
    · intro unseen
      cases present : account.stream.live set with
      | none => exact absurd (accurate.absent position set asks present) unseen
      | some accumulation =>
        have balanced := accurate.balanced position set accumulation asks present
        have unknown : accumulation.isKnown (account.stream.last position set) = false := by
          rw [← Bool.not_eq_true, balanced.isKnown_iff (accurate.coherent.updated _ _ present)]
          exact unseen
        exact List.mem_map.mpr ⟨_, (news set accumulation).mpr ⟨present, unknown⟩, rfl⟩
  · have answered : account.stream.pointsFor ⟨position, temporality, since⟩ time =
        (account.stream.deltaPoints ⟨position, temporality, since⟩ time).2 := by
      rw [Stream.pointsFor_eq, Stream.points]
      simp only [kind, delta]
    rw [answered, points, List.map_map, List.map_map]
    apply List.map_congr_left
    rintro ⟨set, accumulation⟩ entry
    obtain ⟨present, unknown⟩ := (news set accumulation).mp entry
    have value := accurate.change_eq integer (kind ▸ synchronous) position asks set accumulation
      present unknown
    rw [last, kind] at value
    simp only [Function.comp_apply, Stream.point, value]

/-- The series of the empty set is dropped once both readers have been given 5, and made again; the
first reader is then due what was measured since, although the second one has seen some of it. -/
theorem delta_collection_exact_recreated :
    let definition : StreamDefinition := ⟨"requests", "", "", .counter, none, 2000⟩
    let readers : List TemporalityChoice := [fun _ => .delta, fun _ => .delta]
    let account := (create definition .alwaysOff 1 readers).run readers
      [.record 2 (.unsigned 5) [], .collect 0 1 3, .collect 1 1 4, .record 5 (.unsigned 7) [],
        .collect 1 4 6, .record 7 (.unsigned 1) []]
    account.dropped (.ofList []) = [.unsigned 5] ∧
      account.unseen 0 = [⟨.ofList [], .unsigned 7, 5⟩, ⟨.ofList [], .unsigned 1, 7⟩] ∧
      ∃ sets : List AttributeSet, (sets.map (·.toList)).Nodup ∧
        (∀ set, set ∈ sets ↔ valuesUnder set (account.unseen 0) ≠ []) ∧
        (account.stream.pointsFor ⟨0, fun _ => .delta, 3⟩ 8).map
            (fun point => (point.attributes, point.start, point.time, point.value)) =
          sets.map fun set => (set.toList, 3, 8,
            InstrumentKind.counter.aggregate .unsigned (valuesUnder set (account.unseen 0))) := by
  refine ⟨rfl, rfl, ?_⟩
  refine delta_collection_exact _ _ 1 _ .unsigned rfl rfl _ ?_ 0 (fun _ => .delta) rfl rfl 3 8
  simp [Operation.HasType, Quantity.HasType]

end Account

end Metering
