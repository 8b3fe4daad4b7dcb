import Mathlib.Data.List.Perm.Subperm
import Metering.Proofs.Stream.Offers
import Metering.Proofs.Stream.Totals

/-!
Twin streams: one stream in two runs, of which the second leaves out the collections of all readers
but one. The streams keep different series, with different totals and generations, but they have
the same on offer to that reader. The relation is kept by what happens in both runs and by what
only the first one does, for as long as the second one, which drops less, has room for every
attribute set.
-/

namespace Metering

namespace Series

/-- Whether a measurement is put under the overflow set for want of room. -/
def turnsAway (series : Series) (definition : StreamDefinition) (set : AttributeSet) : Bool :=
  set.isCounted && !series.accumulations.contains set &&
    decide (definition.cardinalityLimit ≤ series.tracked)

theorem route_turnsAway (series : Series) (definition : StreamDefinition) (set : AttributeSet) :
    (series.route definition set).2.1 =
        (if series.turnsAway definition set then .overflow else set) ∧
      (series.route definition set).1.limitReported =
        (series.limitReported || series.turnsAway definition set) := by
  unfold route turnsAway
  by_cases new : (set.isCounted && !series.accumulations.contains set) = true
  · by_cases room : series.tracked < definition.cardinalityLimit
    · simp [new, room, Nat.not_le_of_lt room]
    · simp [new, room, Nat.le_of_not_lt room]
  · simp [new]

/-- Series that keep fewer attribute sets turn no measurement away that others would take. -/
theorem turnsAway_of_fewer {fewer more : Series} {definition : StreamDefinition}
    (first : fewer.Tracked definition.cardinalityLimit)
    (second : more.Tracked definition.cardinalityLimit)
    (distinct : fewer.accumulations.Distinct)
    (kept : ∀ set ∈ fewer.accumulations.keys, set ∈ more.accumulations.keys)
    (set : AttributeSet) (away : fewer.turnsAway definition set = true) :
    more.turnsAway definition set = true := by
  simp only [turnsAway, Bool.and_eq_true, Bool.not_eq_true', decide_eq_true_eq] at away ⊢
  obtain ⟨⟨counts, absent⟩, full⟩ := away
  have new : set ∉ fewer.accumulations.keys := by
    rw [← fewer.contains_iff, absent]
    exact Bool.false_ne_true
  have exact := first.exact
  refine ⟨⟨counts, ?_⟩, ?_⟩
  · -- With the set among them, the others would be more than the limit.
    rw [← Bool.not_eq_true, more.contains_iff]
    intro there
    have apart : (set :: fewer.accumulations.keys).Nodup := List.nodup_cons.mpr ⟨new, distinct⟩
    have inside : set :: fewer.accumulations.keys ⊆ more.accumulations.keys :=
      List.cons_subset.mpr ⟨there, kept⟩
    have most := (List.subperm_of_subset apart inside).countP_le AttributeSet.isCounted
    rw [List.countP_cons, if_pos counts, ← exact, ← second.exact] at most
    have bounded := second.bounded
    omega
  · have most := (List.subperm_of_subset distinct kept).countP_le AttributeSet.isCounted
    rw [← exact, ← second.exact] at most
    omega

theorem limitReported_take (series : Series) (definition : StreamDefinition)
    (set : AttributeSet) (value : Quantity) (exemplar : Option Exemplar) :
    (series.take definition set value exemplar).1.limitReported =
      (series.limitReported || series.turnsAway definition set) := by
  rw [← (series.route_turnsAway definition set).2]
  unfold take accumulation
  dsimp only
  split <;> rfl

theorem limitReported_foldl_evict (sets : List AttributeSet) (series : Series) :
    (sets.foldl evict series).limitReported = series.limitReported := by
  induction sets generalizing series with
  | nil => rfl
  | cons first rest ih =>
    rw [List.foldl_cons, ih]
    unfold evict
    split <;> rfl

end Series

/-- Whether two metrics differ at most in the order of their points. -/
structure Metric.Same (left right : Metric) : Prop where
  name : left.name = right.name
  description : left.description = right.description
  unit : left.unit = right.unit
  aggregation : left.aggregation = right.aggregation
  points : left.points.Perm right.points

namespace Stream

/-- Whether a stream that drops series has run out of room for attribute sets. -/
def overflows (stream : Stream) : Bool := stream.evicting && stream.series.limitReported

/-- What the other stream of a pair can be behind a change of one. -/
structure Follows (stream next : Stream) : Prop where
  terms : stream.SameTerms next
  overflows : stream.overflows = true → next.overflows = true

section Follows

variable (stream : Stream)

theorem Follows.refl : stream.Follows stream := ⟨.refl stream, id⟩

variable {stream} in
theorem Follows.trans {middle next : Stream} (begins : stream.Follows middle)
    (ends : middle.Follows next) : stream.Follows next :=
  ⟨begins.terms.trans ends.terms, fun before => ends.overflows (begins.overflows before)⟩

theorem place_eq (value : Quantity) (attributes : List Attribute) :
    stream.place? value attributes = if stream.accepts value then
      some (if stream.series.turnsAway stream.definition (stream.attributeSet attributes)
        then .overflow else stream.attributeSet attributes) else none := by
  rw [place?, (Series.route_turnsAway _ _ _).1]

theorem limitReported_record (now : UInt64) (value : Quantity) (attributes : List Attribute)
    (key : AttributeSet) (placed : stream.place? value attributes = some key) :
    (stream.record now value attributes).1.series.limitReported = (stream.series.limitReported ||
      stream.series.turnsAway stream.definition (stream.attributeSet attributes)) := by
  rw [(stream.record_series now value attributes key placed).1]
  exact Series.limitReported_take _ _ _ _ _

/-- A measurement leaves alone what readers remember, be it stored or refused. -/
theorem slots_record_eq (now : UInt64) (value : Quantity) (attributes : List Attribute) :
    (stream.record now value attributes).1.slots = stream.slots := by
  cases placed : stream.place? value attributes with
  | none => rw [stream.record_refused now value attributes placed]
  | some key => exact stream.slots_record now value attributes key placed

theorem follows_record (now : UInt64) (value : Quantity) (attributes : List Attribute) :
    stream.Follows (stream.record now value attributes).1 := by
  cases placed : stream.place? value attributes with
  | none =>
    rw [stream.record_refused now value attributes placed]
    exact .refl stream
  | some key =>
    have terms := stream.sameTerms_record now value attributes key placed
    refine ⟨terms, fun before => ?_⟩
    rw [overflows, Bool.and_eq_true] at before ⊢
    rw [terms.evicting, stream.limitReported_record now value attributes key placed, before.2]
    exact ⟨before.1, rfl⟩

theorem limitReported_collect (collector : Collector) (time : UInt64) :
    (stream.collect collector time).1.series.limitReported = stream.series.limitReported := by
  cases asked : collector.temporality stream.definition.kind with
  | cumulative => rw [stream.collect_cumulative collector time asked]
  | delta =>
    rw [stream.collect_delta collector time asked]
    cases found : stream.slots[collector.position]? with
    | none => simp only [deltaPoints, found]
    | some slot =>
      rw [stream.series_deltaPoints collector time slot found]
      exact Series.limitReported_foldl_evict _ _

theorem follows_collect (collector : Collector) (time : UInt64) :
    stream.Follows (stream.collect collector time).1 := by
  have terms := stream.sameTerms_collect collector time
  refine ⟨terms, fun before => ?_⟩
  rw [overflows, terms.evicting, limitReported_collect]
  exact before

end Follows

/-- Whether a stream serves readers that ask for given temporalities. -/
structure Serves (stream : Stream) (readers : List TemporalityChoice) : Prop where
  slots : stream.slots.length = readers.length
  deltas : stream.evicting = true → ∀ temporality ∈ readers,
    temporality stream.definition.kind = .delta

theorem serves_create (definition : StreamDefinition) (filter : ExemplarFilter)
    (start : UInt64) (readers : List TemporalityChoice) :
    (create definition filter start readers).Serves readers := by
  refine ⟨List.length_map _, fun evicting temporality member => ?_⟩
  have asks : ∀ choice ∈ readers, decide (choice definition.kind = .delta) = true := by
    simp only [create, Bool.and_eq_true, List.all_eq_true] at evicting
    exact evicting.2
  exact of_decide_eq_true (asks temporality member)

theorem Serves.of_terms {stream next : Stream} {readers : List TemporalityChoice}
    (serves : stream.Serves readers) (terms : stream.SameTerms next) : next.Serves readers :=
  ⟨terms.readers.trans serves.slots, fun evicting => by
    rw [terms.definition]
    exact serves.deltas (terms.evicting ▸ evicting)⟩

/-- Whether two streams have the same on offer to the reader at a position, where the second one
has been collected for no other reader. -/
structure Twin (position : Nat) (full alone : Stream) : Prop where
  busy : full.Sound
  calm : alone.Sound
  offers : ∀ set, full.offer position set = alone.offer position set
  others : ∀ other set, other ≠ position → alone.last other set = none
  /-- Series that nobody drops are the same. -/
  totals : full.evicting = false → ∀ set,
    (full.live set).map Accumulation.content = (alone.live set).map Accumulation.content
  fewer : ∀ set, (full.live set).isSome → (alone.live set).isSome

section Twin

variable {position : Nat} {full alone : Stream}

theorem Twin.shown (twin : Twin position full alone) (terms : alone.SameTerms full)
    (collector : Collector) (own : collector.position = position)
    (delta : full.evicting = true →
      collector.temporality full.definition.kind = .delta) (set : AttributeSet) :
    full.shown collector set = alone.shown collector set := by
  unfold Stream.shown
  rw [← terms.definition]
  cases asked : collector.temporality full.definition.kind with
  | delta => exact own ▸ twin.offers set
  | cumulative =>
    have permanent : full.evicting = false := by
      rw [← Bool.not_eq_true]
      intro evicting
      rw [delta evicting] at asked
      cases asked
    exact twin.totals permanent set

/-- Both streams put a measurement under the same set, if the second one has room for it. -/
theorem Twin.place_eq (twin : Twin position full alone) (terms : alone.SameTerms full)
    (value : Quantity) (attributes : List Attribute)
    (room : full.evicting = true →
      alone.series.turnsAway alone.definition (alone.attributeSet attributes) = false) :
    full.place? value attributes = alone.place? value attributes := by
  have set : full.attributeSet attributes = alone.attributeSet attributes := by
    simp only [attributeSet, terms.definition]
  have accepts : full.accepts value = alone.accepts value := by
    simp only [Stream.accepts, terms.definition]
  have limited : full.series.Tracked alone.definition.cardinalityLimit :=
    terms.definition ▸ twin.busy.limited
  have kept : ∀ set ∈ full.series.accumulations.keys, set ∈ alone.series.accumulations.keys := by
    intro set
    rw [Table.mem_keys_iff, Table.mem_keys_iff]
    exact twin.fewer set
  have away := Series.turnsAway_of_fewer limited twin.calm.limited
    twin.busy.coherent.distinct kept (alone.attributeSet attributes)
  -- Where series are dropped, the full stream has fewer and so more room; where none is dropped,
  -- both streams have the same sets.
  have same : full.series.turnsAway alone.definition (alone.attributeSet attributes) =
      alone.series.turnsAway alone.definition (alone.attributeSet attributes) := by
    cases evicting : full.evicting with
    | true =>
      rw [room evicting] at away ⊢
      exact Bool.eq_false_iff.mpr fun turned => Bool.false_ne_true (away turned)
    | false =>
      have back : ∀ set ∈ alone.series.accumulations.keys,
          set ∈ full.series.accumulations.keys := by
        intro set
        have present := congrArg Option.isSome (twin.totals evicting set)
        rw [Option.isSome_map, Option.isSome_map] at present
        rw [Table.mem_keys_iff, Table.mem_keys_iff]
        exact fun there => present.trans there
      exact Bool.eq_iff_iff.mpr ⟨away, Series.turnsAway_of_fewer twin.calm.limited limited
        twin.calm.coherent.distinct back _⟩
  rw [Stream.place_eq, Stream.place_eq, accepts, set, terms.definition, same]

theorem Twin.record (twin : Twin position full alone) (terms : alone.SameTerms full)
    (now : UInt64) (value : Quantity) (fits : alone.Fits value) (attributes : List Attribute)
    (room : (alone.record now value attributes).1.overflows = false) :
    Twin position (full.record now value attributes).1 (alone.record now value attributes).1 := by
  have measured : full.Fits value := by
    unfold Fits
    rw [terms.definition]
    exact fits
  cases placed : alone.place? value attributes with
  | none =>
    have refused : full.place? value attributes = none := by
      rw [Stream.place_eq] at placed ⊢
      simpa [accepts, terms.definition] using placed
    rw [alone.record_refused now value attributes placed,
      full.record_refused now value attributes refused]
    exact twin
  | some key =>
    have same : full.place? value attributes = some key := by
      rw [← placed]
      apply twin.place_eq terms
      intro evicting
      rw [overflows, alone.limitReported_record now value attributes key placed,
        (alone.sameTerms_record now value attributes key placed).evicting,
        ← terms.evicting, evicting, Bool.true_and, Bool.or_eq_false_iff] at room
      exact room.2
    have left := full.live_record now value attributes key same
    have right := alone.live_record now value attributes key placed
    have exemplar : full.exemplar? now value = alone.exemplar? now value := by
      simp only [exemplar?, terms.filter]
    constructor
    case busy => exact twin.busy.record now value measured attributes
    case calm => exact twin.calm.record now value fits attributes
    case offers =>
      intro set
      have raised : ∀ offered, full.raise now value offered = alone.raise now value offered := by
        intro offered
        simp only [raise, exemplar, terms.definition]
      rw [twin.busy.offer_record now value measured attributes key same,
        twin.calm.offer_record now value fits attributes key placed, raised, twin.offers,
        twin.offers]
    case others =>
      intro other set different
      rw [alone.last_record now value attributes key placed]
      exact twin.others other set different
    case totals =>
      rw [(full.sameTerms_record now value attributes key same).evicting]
      intro permanent set
      have before := twin.totals permanent
      rw [left, right]
      split
      next =>
        have found := congrArg (·.getD (value.zero, none)) (before key)
        change ((full.live key).map _).getD (full.fresh value).content =
          ((alone.live key).map _).getD (alone.fresh value).content at found
        rw [Option.getD_map, Option.getD_map] at found
        rw [Option.map_some, Option.map_some, exemplar, terms.definition]
        exact congrArg some (Accumulation.content_take found _ value _)
      next => exact before set
    case fewer =>
      intro set
      rw [left, right]
      split
      next => exact fun _ => rfl
      next => exact twin.fewer set

/-- A collection for another reader changes nothing for the reader at the position. -/
theorem Twin.collect_other (twin : Twin position full alone) (collector : Collector)
    (time : UInt64) (bounded : collector.position < full.slots.length)
    (reader : position < full.slots.length) (other : position ≠ collector.position) :
    Twin position (full.collect collector time).1 alone := by
  have terms := full.sameTerms_collect collector time
  constructor
  case busy => exact twin.busy.collect collector time bounded
  case calm => exact twin.calm
  case offers =>
    intro set
    rw [twin.busy.offer_collect_other collector time bounded reader other]
    exact twin.offers set
  case others => exact twin.others
  case totals =>
    rw [terms.evicting]
    intro permanent set
    obtain ⟨count, after⟩ := live_collect twin.busy.coherent collector time permanent bounded set
    rw [after, Option.map_map]
    exact twin.totals permanent set
  case fewer =>
    intro set present
    obtain ⟨left, found⟩ := Option.isSome_iff_exists.mp present
    obtain ⟨accumulation, _, before, _⟩ := twin.busy.coherent.live_of_collect collector time bounded
      set found
    exact twin.fewer set (before ▸ rfl)

/-- A sole reader that has not seen the current value of a series is all that keeps it. -/
theorem Coherent.acks_sole {stream : Stream} (coherent : stream.Coherent)
    (sole : ∀ other, other < stream.slots.length → other = position) (set : AttributeSet)
    {accumulation : Accumulation} (present : stream.live set = some accumulation)
    (news : accumulation.isKnown (stream.last position set) = false) : accumulation.acks = 0 := by
  rw [coherent.acknowledged set accumulation present]
  refine List.countP_eq_zero.mpr fun slot member => ?_
  obtain ⟨other, found⟩ := List.getElem?_of_mem member
  have same := sole other (List.getElem?_eq_some_iff.mp found).1
  subst same
  rw [← last_of_getElem? found, news]
  exact Bool.false_ne_true

/-- What a collection of changes for the reader drops from the second stream, it drops from the
first one: with nobody to keep it, the reader is the only one. -/
theorem Twin.dropped (twin : Twin position full alone) (terms : alone.SameTerms full)
    (collector : Collector) (own : collector.position = position) (time : UInt64)
    (delta : collector.temporality alone.definition.kind = .delta)
    (bounded : collector.position < alone.slots.length) (set : AttributeSet)
    (gone : (alone.collect collector time).1.live set = none) :
    (full.collect collector time).1.live set = none := by
  subst own
  have inside : collector.position < full.slots.length := terms.readers ▸ bounded
  have visited := alone.visited_collect twin.calm.coherent collector time delta bounded set
  have other := full.visited_collect twin.busy.coherent collector time (terms.definition ▸ delta)
    inside set
  cases visited with
  | absent before after _ =>
    cases present : (full.collect collector time).1.live set with
    | none => rfl
    | some left =>
      obtain ⟨_, _, found, _⟩ := other.live_before present
      have there := twin.fewer set (found ▸ rfl)
      rw [before] at there
      cases there
  | quiet _ _ _ _ after _ =>
    rw [gone] at after
    cases after
  | lapsed accumulation _ _ due _ _ =>
    rw [twin.calm.lapses] at due
    cases due
  | reported _ _ _ _ after _ =>
    rw [gone] at after
    cases after
  | settled accumulation before news due after _ =>
    have sole : ∀ reader, reader < full.slots.length → reader = collector.position := by
      intro reader there
      by_contra different
      have known := (alone.visited_collect twin.calm.coherent collector time delta bounded
        set).known_of_dropped twin.calm.coherent bounded before gone reader different
          (terms.readers ▸ there)
      rw [twin.others reader set different] at known
      cases known
    have offered := twin.offers set
    rw [offer_news before news] at offered
    cases other with
    | absent _ after _ => exact after
    | quiet _ found known _ _ _ =>
      rw [offer_known found known] at offered
      cases offered
    | lapsed _ _ _ _ after _ => exact after
    | reported found present unknown stays _ _ =>
      -- The only reader is given the value, so the series cannot stay.
      have lone := twin.busy.coherent.acks_sole sole set present unknown
      have one : full.slots.length = 1 := by
        have first := sole 0 (by omega)
        have second := sole 1
        omega
      have evicting : full.evicting = true := by
        simp only [settles, Bool.and_eq_true] at due
        exact terms.evicting ▸ due.1.1
      rw [settles, evicting, twin.busy.reportsTotals, lone, one] at stays
      cases stays
    | settled _ _ _ _ after _ => exact after

theorem Twin.collect_own (twin : Twin position full alone) (terms : alone.SameTerms full)
    (collector : Collector) (own : collector.position = position) (time : UInt64)
    (bounded : collector.position < alone.slots.length) :
    Twin position (full.collect collector time).1 (alone.collect collector time).1 := by
  have inside : collector.position < full.slots.length := terms.readers ▸ bounded
  cases asked : collector.temporality alone.definition.kind with
  | cumulative =>
    rw [alone.collect_cumulative collector time asked,
      full.collect_cumulative collector time (terms.definition ▸ asked)]
    exact twin
  | delta =>
    have demanded : collector.temporality full.definition.kind = .delta :=
      terms.definition ▸ asked
    constructor
    case busy => exact twin.busy.collect collector time inside
    case calm => exact twin.calm.collect collector time bounded
    case offers =>
      subst own
      intro set
      rw [twin.busy.offer_collect_own collector time demanded inside,
        twin.calm.offer_collect_own collector time asked bounded]
    case others =>
      intro other set different
      rw [alone.last_collect collector time other (own ▸ different)]
      exact twin.others other set different
    case totals =>
      rw [(full.sameTerms_collect collector time).evicting]
      intro permanent set
      obtain ⟨_, left⟩ := live_collect twin.busy.coherent collector time permanent inside set
      obtain ⟨_, right⟩ := live_collect twin.calm.coherent collector time
        (terms.evicting ▸ permanent) bounded set
      rw [left, right, Option.map_map, Option.map_map]
      exact twin.totals permanent set
    case fewer =>
      intro set present
      rw [Option.isSome_iff_ne_none] at present ⊢
      exact fun gone => present (twin.dropped terms collector own time asked bounded set gone)

end Twin

/-- Whether two streams are one stream in two runs, of which the second one leaves out the
collections of all readers but the one at a position. Nothing is said of their series once the
second one has run out of room. -/
structure Mirrors (readers : List TemporalityChoice) (position : Nat) (full alone : Stream) :
    Prop where
  terms : alone.SameTerms full
  serves : alone.Serves readers
  twins : alone.overflows = true ∨ Twin position full alone

section Mirrors

variable {readers : List TemporalityChoice} {position : Nat} {full alone : Stream}

theorem mirrors_create (definition : StreamDefinition) (filter : ExemplarFilter)
    (start : UInt64) (readers : List TemporalityChoice) (position : Nat)
    (synchronous : definition.kind.isObservable = false) :
    Mirrors readers position (create definition filter start readers)
      (create definition filter start readers) := by
  have sound := sound_create definition filter start readers synchronous
  have blank := blank_create definition filter start readers
  exact ⟨.refl _, serves_create definition filter start readers, .inr ⟨sound, sound,
    fun _ => rfl, fun other set _ => blank.last other set, fun _ _ => rfl, fun _ => id⟩⟩

theorem Mirrors.record (mirrors : Mirrors readers position full alone) (now : UInt64)
    (value : Quantity) (fits : alone.Fits value) (attributes : List Attribute) :
    Mirrors readers position (full.record now value attributes).1
      (alone.record now value attributes).1 := by
  have left := (full.follows_record now value attributes).terms
  have right := alone.follows_record now value attributes
  refine ⟨(right.terms.symm.trans mirrors.terms).trans left,
    mirrors.serves.of_terms right.terms, ?_⟩
  rcases mirrors.twins with spilled | twin
  · exact .inl (right.overflows spilled)
  · cases room : (alone.record now value attributes).1.overflows with
    | true => exact .inl rfl
    | false => exact .inr (twin.record mirrors.terms now value fits attributes room)

theorem Mirrors.collect_other (mirrors : Mirrors readers position full alone)
    (collector : Collector) (time : UInt64) (bounded : collector.position < readers.length)
    (reader : position < readers.length) (other : position ≠ collector.position) :
    Mirrors readers position (full.collect collector time).1 alone := by
  have slots : full.slots.length = readers.length :=
    mirrors.terms.readers.trans mirrors.serves.slots
  refine ⟨mirrors.terms.trans (full.sameTerms_collect collector time), mirrors.serves, ?_⟩
  rcases mirrors.twins with spilled | twin
  · exact .inl spilled
  · exact .inr (twin.collect_other collector time (slots ▸ bounded) (slots ▸ reader) other)

/-- A collection for the reader at the position answers the same in both runs. -/
theorem Twin.metric (twin : Twin position full alone) (terms : alone.SameTerms full)
    (serves : alone.Serves readers) (collector : Collector) (own : collector.position = position)
    (reader : readers[position]? = some collector.temporality) (time : UInt64) :
    Option.Rel Metric.Same (full.collect collector time).2 (alone.collect collector time).2 := by
  have bounded : collector.position < full.slots.length := by
    rw [terms.readers, serves.slots, own]
    exact (List.getElem?_eq_some_iff.mp reader).1
  have delta : full.evicting = true → collector.temporality full.definition.kind = .delta := by
    rw [terms.evicting, terms.definition]
    exact fun evicting => serves.deltas evicting _ (List.mem_of_getElem? reader)
  have points := perm_pointsFor twin.busy.coherent twin.calm.coherent terms.symm collector time
    bounded (twin.shown terms collector own delta)
  have empty : (full.pointsFor collector time).isEmpty =
      (alone.pointsFor collector time).isEmpty := by
    rw [Bool.eq_iff_iff, List.isEmpty_iff, List.isEmpty_iff]
    exact ⟨fun nothing => (nothing ▸ points).nil_eq.symm,
      fun nothing => (nothing ▸ points).eq_nil⟩
  rw [metric_collect, metric_collect, empty, terms.definition]
  split
  next => exact .none
  next =>
    refine .some ⟨rfl, rfl, rfl, ?_, points⟩
    simp only [aggregation, terms.definition]

theorem Mirrors.collect_own (mirrors : Mirrors readers position full alone)
    (collector : Collector) (own : collector.position = position)
    (reader : readers[position]? = some collector.temporality) (time : UInt64) :
    Mirrors readers position (full.collect collector time).1 (alone.collect collector time).1 ∧
      ((alone.collect collector time).1.overflows = false → Option.Rel Metric.Same
        (full.collect collector time).2 (alone.collect collector time).2) := by
  have left := full.sameTerms_collect collector time
  have right := alone.follows_collect collector time
  have bounded : collector.position < alone.slots.length := by
    rw [mirrors.serves.slots, own]
    exact (List.getElem?_eq_some_iff.mp reader).1
  have terms := (right.terms.symm.trans mirrors.terms).trans left
  have serves := mirrors.serves.of_terms right.terms
  rcases mirrors.twins with spilled | twin
  · refine ⟨⟨terms, serves, .inl (right.overflows spilled)⟩, fun room => ?_⟩
    rw [right.overflows spilled] at room
    cases room
  · exact ⟨⟨terms, serves, .inr (twin.collect_own mirrors.terms collector own time bounded)⟩,
      fun _ => twin.metric mirrors.terms mirrors.serves collector own reader time⟩

end Mirrors

end Stream

end Metering
