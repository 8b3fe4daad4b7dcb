import Metering.Proofs.Stream.Deltas
import Metering.Proofs.Stream.Limit

/-!
Offers: what a reader of changes would be given for a set if it collected now. A measurement
raises the offers of all readers alike, whether or not its series had been dropped, and a
collection withdraws the offers of its own reader and leaves those of the others. So offers say
what a reader sees without a word about which series the stream keeps.
-/

namespace Metering

namespace InstrumentKind

/-- The type of the increments of a sum of integers. -/
def increments : InstrumentKind → NumberType
  | .counter | .observableCounter => .unsigned
  | _ => .signed

theorem isInteger_increments (kind : InstrumentKind) : kind.increments.isInteger = true := by
  cases kind <;> rfl

theorem isPrecomputed_of_synchronous {kind : InstrumentKind}
    (synchronous : kind.isObservable = false) : kind.isPrecomputed = !kind.isSum := by
  cases kind <;> first | rfl | cases synchronous

end InstrumentKind

/-- What a running total shows of a series. -/
def Accumulation.content (accumulation : Accumulation) : Quantity × Option Exemplar :=
  (accumulation.value, accumulation.exemplar)

/-- Equal totals stay equal when they take the same measurement. -/
theorem Accumulation.content_take {left right : Accumulation} (same : left.content = right.content)
    (kind : InstrumentKind) (value : Quantity) (exemplar : Option Exemplar) :
    (left.take kind value exemplar).content = (right.take kind value exemplar).content := by
  obtain ⟨values, exemplars⟩ := Prod.mk.inj same
  simp only [content, take, values, exemplars]

namespace Stream

/-- What holds at any time of a stream that takes measurements of integers, not observations. -/
structure Sound (stream : Stream) : Prop where
  coherent : stream.Coherent
  limited : stream.Limited
  synchronous : stream.definition.kind.isObservable = false
  typed : stream.definition.kind.isSum = true →
    stream.Typed stream.definition.kind.increments
  bare : stream.filter.samples = false → ∀ set accumulation,
    stream.live set = some accumulation → accumulation.exemplar = none

/-- Whether a stream can take a value: into a sum only increments of its type. -/
def Fits (stream : Stream) (value : Quantity) : Prop :=
  stream.definition.kind.isSum = true → value.HasType stream.definition.kind.increments

/-- The value and the exemplar that the reader at a position would be given for a set. -/
def offer (stream : Stream) (position : Nat) (set : AttributeSet) :
    Option (Quantity × Option Exemplar) :=
  ((stream.live set).filter fun accumulation =>
    !accumulation.isKnown (stream.last position set)).map fun accumulation =>
      (stream.change (accumulation.seen (stream.last position set)) accumulation,
        accumulation.exemplar)

/-- What a measurement makes of an offer. -/
def raise (stream : Stream) (now : UInt64) (value : Quantity)
    (offered : Option (Quantity × Option Exemplar)) : Quantity × Option Exemplar :=
  (match offered with
    | some (pending, _) => if stream.definition.kind.isSum then pending + value else value
    | none => value,
   stream.exemplar? now value)

section Sound

variable {stream : Stream}

theorem sound_create (definition : StreamDefinition) (filter : ExemplarFilter)
    (start : UInt64) (readers : List TemporalityChoice)
    (synchronous : definition.kind.isObservable = false) :
    (create definition filter start readers).Sound :=
  have blank := blank_create definition filter start readers
  ⟨blank.coherent, limited_create definition filter start readers, synchronous,
    fun _ => blank.typed, fun _ _ _ => nofun⟩

theorem Sound.reportsTotals (sound : stream.Sound) : stream.reportsTotals = false := by
  rw [Stream.reportsTotals, InstrumentKind.isPrecomputed_of_synchronous sound.synchronous]
  cases stream.definition.kind.isSum <;> rfl

theorem Sound.lapses (sound : stream.Sound) (accumulation : Accumulation) :
    stream.lapses accumulation = false := by
  rw [Stream.lapses, sound.reportsTotals, Bool.and_false, Bool.false_and]

theorem Sound.record (sound : stream.Sound) (now : UInt64) (value : Quantity)
    (fits : stream.Fits value) (attributes : List Attribute) :
    (stream.record now value attributes).1.Sound := by
  cases placed : stream.place? value attributes with
  | none =>
    rw [stream.record_refused now value attributes placed]
    exact sound
  | some key =>
    have terms := stream.sameTerms_record now value attributes key placed
    constructor
    case coherent => exact stream.coherent_record now value attributes sound.coherent
    case limited => exact sound.limited.record now value attributes
    case synchronous => rw [terms.definition]; exact sound.synchronous
    case typed =>
      rw [terms.definition]
      intro sums
      exact (sound.typed sums).record stream.definition.kind.isInteger_increments now value
        (fits sums) attributes
    case bare =>
      rw [terms.filter]
      intro silent set accumulation present
      rw [stream.live_record now value attributes key placed] at present
      split at present
      next =>
        have nothing : ((stream.live key).getD (stream.fresh value)).exemplar = none := by
          cases found : stream.live key with
          | none => rfl
          | some before => exact sound.bare silent key before found
        rw [← Option.some.inj present]
        simp [Accumulation.take, exemplar?, silent, nothing]
      next => exact sound.bare silent set accumulation present

theorem Sound.collect (sound : stream.Sound) (collector : Collector) (time : UInt64)
    (bounded : collector.position < stream.slots.length) :
    (stream.collect collector time).1.Sound := by
  have terms := stream.sameTerms_collect collector time
  constructor
  case coherent => exact stream.coherent_collect sound.coherent collector time
  case limited => exact sound.limited.collect sound.coherent.distinct collector time
  case synchronous => rw [terms.definition]; exact sound.synchronous
  case typed =>
    rw [terms.definition]
    exact fun sums => (sound.typed sums).collect sound.coherent collector time
  case bare =>
    rw [terms.filter]
    intro silent set left present
    obtain ⟨accumulation, _, before, rfl⟩ := sound.coherent.live_of_collect collector time bounded
      set present
    exact sound.bare silent set accumulation before

end Sound

section Offer

variable {stream : Stream} {position : Nat} {set : AttributeSet} {accumulation : Accumulation}

theorem offer_absent (absent : stream.live set = none) : stream.offer position set = none := by
  rw [offer, absent]
  rfl

theorem offer_known (present : stream.live set = some accumulation)
    (known : accumulation.isKnown (stream.last position set) = true) :
    stream.offer position set = none := by
  simp [offer, present, known]

theorem offer_news (present : stream.live set = some accumulation)
    (news : accumulation.isKnown (stream.last position set) = false) :
    stream.offer position set =
      some (stream.change (accumulation.seen (stream.last position set)) accumulation,
        accumulation.exemplar) := by
  simp [offer, present, news, Option.filter]

/-- Acknowledgements do not show in an offer. -/
theorem offer_acknowledged {next : Stream} (terms : stream.SameTerms next) (count : Nat)
    (memory : next.last position set = stream.last position set)
    (present : stream.live set = some accumulation)
    (after : next.live set = some { accumulation with acks := count }) :
    next.offer position set = stream.offer position set := by
  have same : ∀ seen, next.change seen { accumulation with acks := count } =
      stream.change seen accumulation := by
    intro seen
    simp only [change, terms.definition]
  cases known : accumulation.isKnown (stream.last position set) with
  | true => rw [offer_known present known, offer_known after (memory ▸ known)]
  | false =>
    rw [offer_news present known, offer_news after (memory ▸ known), same, memory]
    rfl

/-- The change that a measurement makes of what a reader would be given of its series. -/
theorem Sound.change_take (sound : stream.Sound) (now : UInt64) (value : Quantity)
    (fits : stream.Fits value) (position : Nat) (key : AttributeSet) :
    let found := (stream.live key).getD (stream.fresh value)
    stream.change (found.seen (stream.last position key))
        (found.take stream.definition.kind value (stream.exemplar? now value)) =
      (stream.raise now value (stream.offer position key)).1 := by
  intro found
  have replaces := InstrumentKind.isPrecomputed_of_synchronous sound.synchronous
  cases sums : stream.definition.kind.isSum with
  | false =>
    rw [sums, Bool.not_false] at replaces
    have taken : (found.take stream.definition.kind value (stream.exemplar? now value)).value =
        value := by
      simp [Accumulation.take, replaces]
    unfold change raise
    simp only [sums, taken]
    cases found.seen (stream.last position key) <;>
      cases stream.offer position key <;> rfl
  | true =>
    rw [sums, Bool.not_true] at replaces
    have integer := stream.definition.kind.isInteger_increments
    have measured := fits sums
    have typed := sound.typed sums
    have taken : (found.take stream.definition.kind value (stream.exemplar? now value)).value =
        found.value + value := by
      simp [Accumulation.take, replaces]
    cases present : stream.live key with
    | none =>
      have new : found = stream.fresh value := by
        simp only [found, present, Option.getD_none]
      have nothing : (stream.fresh value).value = value.zero := rfl
      rw [new] at taken ⊢
      rw [offer_absent present, sound.coherent.seen_fresh key value position]
      simp only [change, raise, taken]
      rw [nothing, Quantity.zero_eq integer value measured,
        Quantity.zero_add integer value measured]
    | some accumulation =>
      have same : found = accumulation := by
        simp only [found, present, Option.getD_some]
      have before := typed.live key accumulation present
      rw [same] at taken ⊢
      cases seen : accumulation.seen (stream.last position key) with
      | none =>
        have news : accumulation.isKnown (stream.last position key) = false := by
          rw [Accumulation.isKnown, seen]
          rfl
        rw [offer_news present news, seen]
        simp only [change, raise, sums, taken, ↓reduceIte]
      | some report =>
        have remembered := typed.last position key report
          ((Accumulation.seen_eq_some_iff _ _ _).mp seen).1
        cases known : accumulation.isKnown (stream.last position key) with
        | true =>
          -- The reader has seen everything so far, so the measurement is all that is new to it.
          have updates : report.updates = accumulation.updates := by
            rw [Accumulation.isKnown, seen, Option.any_some, decide_eq_true_eq] at known
            exact known
          have current := (sound.coherent.agreed position key accumulation report present
            seen).2 updates
          rw [offer_known present known]
          simp only [change, raise, sums, taken, current, ↓reduceIte]
          exact Quantity.add_sub_cancel integer _ _ before measured
        | false =>
          rw [offer_news present known, seen]
          simp only [change, raise, sums, taken, ↓reduceIte]
          exact Quantity.add_sub_right_comm integer _ _ _ before measured remembered

/-- A measurement raises the offers for its set, and those for no other set. -/
theorem Sound.offer_record (sound : stream.Sound) (now : UInt64) (value : Quantity)
    (fits : stream.Fits value) (attributes : List Attribute) (key : AttributeSet)
    (placed : stream.place? value attributes = some key) (position : Nat)
    (set : AttributeSet) :
    (stream.record now value attributes).1.offer position set =
      if set = key then some (stream.raise now value (stream.offer position key))
      else stream.offer position set := by
  have live := stream.live_record now value attributes key placed set
  have last := stream.last_record now value attributes key placed position set
  have terms := stream.sameTerms_record now value attributes key placed
  have same : ∀ seen accumulation, (stream.record now value attributes).1.change seen
      accumulation = stream.change seen accumulation := by
    intro seen accumulation
    simp only [change, terms.definition]
  split at live
  next here =>
    subst here
    have news := sound.coherent.isKnown_take set stream.definition.kind value
      (stream.exemplar? now value) position
    have exemplar : (((stream.live set).getD (stream.fresh value)).take stream.definition.kind
        value (stream.exemplar? now value)).exemplar = stream.exemplar? now value := by
      cases samples : stream.filter.samples with
      | true => simp [Accumulation.take, exemplar?, samples]
      | false =>
        cases found : stream.live set with
        | none => simp [Accumulation.take, exemplar?, samples, fresh]
        | some before =>
          simp [Accumulation.take, exemplar?, samples, sound.bare samples set before found]
    rw [if_pos rfl, offer_news live (last ▸ news), last, same, exemplar]
    have given := sound.change_take now value fits position set
    dsimp only at given
    rw [← Prod.eta (stream.raise now value (stream.offer position set)), ← given]
    rfl
  next other =>
    rw [if_neg other]
    simp only [offer, live, last, same]

/-- A collection leaves what it does not give to its reader on offer to the others. -/
theorem Sound.offer_collect_other (sound : stream.Sound) (collector : Collector)
    (time : UInt64) (bounded : collector.position < stream.slots.length)
    (reader : position < stream.slots.length) (other : position ≠ collector.position)
    (set : AttributeSet) :
    (stream.collect collector time).1.offer position set = stream.offer position set := by
  cases asked : collector.temporality stream.definition.kind with
  | cumulative => rw [stream.collect_cumulative collector time asked]
  | delta =>
    have terms := stream.sameTerms_collect collector time
    have memory := stream.last_collect collector time position other set
    have visited := stream.visited_collect sound.coherent collector time asked bounded set
    have dropped : ∀ {accumulation}, stream.live set = some accumulation →
        (stream.collect collector time).1.live set = none →
          (stream.collect collector time).1.offer position set = stream.offer position set := by
      intro accumulation before gone
      have known := visited.known_of_dropped sound.coherent bounded before gone position other
        reader
      rw [offer_absent gone, offer_known before known]
    cases visited with
    | absent before after _ => rw [offer_absent before, offer_absent after]
    | quiet accumulation before _ _ after _ =>
      exact offer_acknowledged terms accumulation.acks memory before after
    | lapsed _ before _ _ after _ => exact dropped before after
    | reported _ before _ _ after _ => exact offer_acknowledged terms _ memory before after
    | settled _ before _ _ after _ => exact dropped before after

/-- A collection of changes leaves nothing on offer to its own reader. -/
theorem Sound.offer_collect_own (sound : stream.Sound) (collector : Collector)
    (time : UInt64) (delta : collector.temporality stream.definition.kind = .delta)
    (bounded : collector.position < stream.slots.length) (set : AttributeSet) :
    (stream.collect collector time).1.offer collector.position set = none := by
  cases present : (stream.collect collector time).1.live set with
  | none => exact offer_absent present
  | some left =>
    have visited := stream.visited_collect sound.coherent collector time delta bounded set
    obtain ⟨accumulation, _, ⟨known, same, memory⟩ | ⟨_, same, memory⟩⟩ :=
      visited.of_live present
    · apply offer_known present
      rw [same, memory]
      exact known
    · apply offer_known present
      rw [same, memory]
      exact (Accumulation.isKnown_iff _ _).mpr ⟨_, rfl, rfl, rfl⟩

end Offer

section Shown

/-- What a collection shows its reader of a set: the offer, or the running total. -/
def shown (stream : Stream) (collector : Collector) (set : AttributeSet) :
    Option (Quantity × Option Exemplar) :=
  match collector.temporality stream.definition.kind with
  | .delta => stream.offer collector.position set
  | .cumulative => (stream.live set).map Accumulation.content

/-- When the points of a collection start. -/
def since (stream : Stream) (collector : Collector) : UInt64 :=
  match collector.temporality stream.definition.kind with
  | .delta => collector.lastCollect
  | .cumulative => stream.start

variable {stream : Stream} (coherent : stream.Coherent) (collector : Collector) (time : UInt64)
  (bounded : collector.position < stream.slots.length)
include coherent bounded

/-- The points of a collection are those that it shows, one for each set. -/
theorem mem_pointsFor_iff (point : DataPoint) : point ∈ stream.pointsFor collector time ↔
    ∃ set value exemplar, stream.shown collector set = some (value, exemplar) ∧
      point = ⟨set.toList, stream.since collector, time, value, exemplar.toList⟩ := by
  rw [pointsFor_eq, points]
  cases asked : collector.temporality stream.definition.kind with
  | cumulative =>
    simp only [shown, since, asked, cumulativePoints, Accumulation.content, List.mem_map,
      Prod.exists, Option.map_eq_some_iff, Prod.mk.injEq]
    constructor
    · rintro ⟨set, accumulation, entry, rfl⟩
      exact ⟨set, _, _, ⟨accumulation, (Table.get?_eq_some_iff _ coherent.distinct _ _).mpr entry,
        rfl, rfl⟩, rfl⟩
    · rintro ⟨set, _, _, ⟨accumulation, present, rfl, rfl⟩, rfl⟩
      exact ⟨set, accumulation, (Table.get?_eq_some_iff _ coherent.distinct _ _).mp present, rfl⟩
  | delta =>
    have found := List.getElem?_eq_getElem bounded
    have last := last_of_getElem? found
    have news := stream.mem_news_iff coherent.distinct stream.slots[collector.position]
    simp only [shown, since, asked, stream.points_deltaPoints collector time _ found,
      List.mem_map, Prod.exists, news, ← last]
    constructor
    · rintro ⟨set, accumulation, ⟨present, unknown⟩, rfl⟩
      exact ⟨set, _, _, offer_news present unknown, rfl⟩
    · rintro ⟨set, value, exemplar, offered, rfl⟩
      cases present : stream.live set with
      | none =>
        rw [offer_absent present] at offered
        cases offered
      | some accumulation =>
        cases known : accumulation.isKnown (stream.last collector.position set) with
        | true =>
          rw [offer_known present known] at offered
          cases offered
        | false =>
          rw [offer_news present known] at offered
          cases offered
          exact ⟨set, accumulation, ⟨present, known⟩, rfl⟩

theorem nodup_pointsFor : (stream.pointsFor collector time).Nodup := by
  apply List.Nodup.of_map (·.attributes)
  rw [pointsFor_eq, points]
  cases collector.temporality stream.definition.kind with
  | cumulative =>
    have apart := coherent.nodup_attributes _ (List.Sublist.refl _)
    dsimp only
    rw [cumulativePoints, List.map_map]
    rw [List.map_map] at apart
    exact apart
  | delta =>
    have found := List.getElem?_eq_getElem bounded
    have apart := coherent.nodup_attributes (stream.news stream.slots[collector.position])
      List.filter_sublist
    dsimp only
    rw [stream.points_deltaPoints collector time _ found, List.map_map]
    rw [List.map_map] at apart
    exact apart

end Shown

/-- Streams that show a reader the same answer the same points, in some order. -/
theorem perm_pointsFor {left right : Stream} (first : left.Coherent) (second : right.Coherent)
    (terms : left.SameTerms right) (collector : Collector) (time : UInt64)
    (bounded : collector.position < left.slots.length)
    (same : ∀ set, left.shown collector set = right.shown collector set) :
    (left.pointsFor collector time).Perm (right.pointsFor collector time) := by
  have inside : collector.position < right.slots.length := terms.readers ▸ bounded
  have since : left.since collector = right.since collector := by
    simp only [Stream.since, terms.definition, terms.start]
  rw [List.perm_ext_iff_of_nodup (nodup_pointsFor first collector time bounded)
    (nodup_pointsFor second collector time inside)]
  intro point
  rw [mem_pointsFor_iff first collector time bounded,
    mem_pointsFor_iff second collector time inside]
  simp only [same, since]

end Stream

end Metering
