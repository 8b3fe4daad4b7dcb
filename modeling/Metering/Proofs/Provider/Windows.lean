import Metering.Proofs.Provider.Stamps

/-!
The windows of data points. A point ends at what the clock showed when its collection began. A total
starts when the provider was built, and a change starts when the reader last collected, as that
stands when the stream is read. While the collections of a reader do not overlap, this is how it
stood when the collection began, and the windows join; otherwise another collection that began later
may have ended in between, and the point starts after it ends.
-/

namespace Metering

/-- When points start: totals when the provider was built, changes when the reader last
collected. -/
def Temporality.opens (built since : UInt64) : Temporality → UInt64
  | .delta => since
  | .cumulative => built

def Stream.StartsAt (built : UInt64) (stream : Stream) : Prop := stream.start = built

/-- All streams of a provider start when the provider was built. -/
theorem Stream.rule_startsAt (shared : Shared) :
    Stream.Rule shared (Stream.StartsAt shared.start) := by
  constructor
  case create => exact fun _ _ _ _ _ => rfl
  case record =>
    exact fun stream now value attributes starts =>
      (stream.follows_record now value attributes).terms.start.trans starts
  case collect =>
    exact fun stream collector time starts =>
      (stream.sameTerms_collect collector time).start.trans starts
  case reset => exact fun stream starts => stream.sameTerms_reset.start.trans starts

namespace Interleaving

/-- Every metric of a collection is read off a stream at some moment, and its points start at what
was the reader's last collection time at that moment. -/
theorem origin_window (config : ProviderConfig) (built : UInt64)
    (readers : List (Nat × TemporalityChoice × Bool)) (turns : List Turn) {index : Nat}
    {round : Round} (found : ((start config built readers).run turns).rounds[index]? = some round)
    {scope : ScopeIdentity} {metric : Metric} (member : (scope, metric) ∈ round.metrics) :
    ∃ before order after collector stream, turns = before ++ .advance index order :: after ∧
      ((start config built readers).run before).Origin index round scope metric collector stream ∧
      (readers.map (·.2.1))[round.position]? = some collector.temporality ∧
      ∀ point ∈ metric.points, point.time = round.time ∧
        point.start = (collector.temporality stream.definition.kind).opens built
          (greatest built (((start config built readers).run before).finished round.position)) := by
  let begun := start config built readers
  have rule := Stream.rule_startsAt begun.provider.shared
  have sound : begun.provider.Sound (Stream.StartsAt built) :=
    Provider.sound_build config built readers
  obtain ⟨before, order, after, collector, stream, split, origin⟩ :=
    origin_of_mem_metrics begun rfl rule sound turns index round found scope metric member
  have shared := begun.shared_run before
  have seated := seated_run config built readers before
  have asks := (seated.place round.position collector origin.reader).2
  have inside := seated.lt_length origin.reader
  have count : begun.provider.shared.readers.length = readers.length := List.length_map _
  rw [shared] at asks
  rw [shared, count] at inside
  have stamp := dated_run config built readers before round.position inside
  rw [stamp?, origin.reader] at stamp
  have last : collector.lastCollect = _ := Option.some.inj stamp
  have starts : stream.start = built := origin.meets (begun.sound_run rule sound before)
  refine ⟨before, order, after, collector, stream, split, origin, asks, fun point shown => ?_⟩
  rw [(stream.of_collect collector round.time origin.read).2.2.2.1] at shown
  obtain ⟨opening, closing⟩ := stream.window_pointsFor collector round.time point shown
  refine ⟨closing, opening.trans ?_⟩
  unfold Stream.since
  rw [← last, starts]
  cases collector.temporality stream.definition.kind <;> rfl

/-- With a clock that never goes back, a point ends before it starts exactly if it is a change and
another collection of the same reader, which began later, was over before its stream was read. -/
theorem points_in_order_iff (config : ProviderConfig) (built : UInt64)
    (readers : List (Nat × TemporalityChoice × Bool)) (turns : List Turn)
    (steady : (start config built readers).steady turns = true) (index : Nat) (round : Round)
    (found : ((start config built readers).run turns).rounds[index]? = some round)
    (scope : ScopeIdentity) (metric : Metric) (member : (scope, metric) ∈ round.metrics) :
    ∃ before order after collector stream, turns = before ++ .advance index order :: after ∧
      ((start config built readers).run before).Origin index round scope metric collector stream ∧
      ∀ point ∈ metric.points,
        (point.start ≤ point.time ↔ (collector.temporality stream.definition.kind = .delta →
          ∀ time ∈ ((start config built readers).run before).finished round.position,
            time ≤ round.time)) ∧
        ((start config built readers).serial turns = true → point.start ≤ point.time) := by
  obtain ⟨before, order, after, collector, stream, rfl, origin, _, windows⟩ :=
    origin_window config built readers turns found member
  have timely := timely_run config built readers before (obeys_left steady)
  obtain ⟨earlier, there, position, time, flying⟩ := origin.flying
  have since_built : built ≤ round.time :=
    time ▸ (timely.each _ (List.mem_map_of_mem (List.mem_of_getElem? there))).1
  refine ⟨before, order, after, collector, stream, rfl, origin, fun point shown => ?_⟩
  obtain ⟨ends, starts⟩ := windows point shown
  have ordered : point.start ≤ point.time ↔
      (collector.temporality stream.definition.kind = .delta →
        ∀ time ∈ ((start config built readers).run before).finished round.position,
          time ≤ round.time) := by
    rw [ends, starts]
    cases collector.temporality stream.definition.kind with
    | cumulative => simp [Temporality.opens, since_built]
    | delta => simp [Temporality.opens, greatest_le_iff, since_built]
  refine ⟨ordered, fun serial => ordered.mpr fun _ => ?_⟩
  have alone := alone_run config built readers before (obeys_left serial)
  rw [← position, ← time, alone.finished there flying]
  exact timely.times_le there earlier.position

/-- A counter takes a measurement and is collected for a reader of changes. -/
def collected : List Turn :=
  let scope : ScopeIdentity := ⟨"test", none, none⟩
  [.request { name := "test" } true,
    .create (some scope) { kind := .counter, number := .unsigned, name := "requests" } [],
    .measure scope "requests" (.unsigned 5) [], .tick 20, .begin 0] ++
  List.replicate 5 (.advance 0 ⟨[scope], ["requests"]⟩)

theorem points_in_order_collected :
    let state := (start {} 10 [(0, fun _ => .delta, false)]).run collected
    ∃ round scope metric, state.rounds[0]? = some round ∧ (scope, metric) ∈ round.metrics ∧
      metric.points ≠ [] ∧ ∀ point ∈ metric.points, point.start ≤ point.time := by
  intro state
  let round := state.rounds.get ⟨0, by decide +kernel⟩
  let pair := round.metrics.get ⟨0, by decide +kernel⟩
  have found : state.rounds[0]? = some round := List.getElem?_eq_getElem _
  have member : (pair.1, pair.2) ∈ round.metrics := List.get_mem _ _
  have points : pair.2.points.length = 1 := by decide +kernel
  obtain ⟨before, order, after, collector, stream, _, _, ordered⟩ :=
    points_in_order_iff {} 10 [(0, fun _ => .delta, false)] collected (by decide +kernel) 0 round
      found pair.1 pair.2 member
  refine ⟨round, pair.1, pair.2, found, member, ?_, fun point shown => ?_⟩
  · intro nothing
    rw [nothing] at points
    cases points
  · exact (ordered point shown).2 (by decide +kernel)

/-- A collection begins, another one of the same reader begins later and ends, and then a counter
takes a measurement that the first collection reads. -/
def overtaken : List Turn :=
  let scope : ScopeIdentity := ⟨"test", none, none⟩
  let order : Order := ⟨[scope], ["requests"]⟩
  [.request { name := "test" } true,
    .create (some scope) { kind := .counter, number := .unsigned, name := "requests" } [],
    .begin 0, .tick 20, .begin 0] ++
  List.replicate 5 (.advance 1 order) ++ [.measure scope "requests" (.unsigned 5) []] ++
  List.replicate 5 (.advance 0 order)

theorem point_ends_before_start :
    let begun := start {} 10 [(0, fun _ => .delta, false)]
    begun.steady overtaken = true ∧
      ∃ round ∈ (begun.run overtaken).rounds, round.isOver = true ∧
        ∃ report ∈ round.scopes, ∃ metric ∈ report.metrics, ∃ point ∈ metric.points,
          point.start = 20 ∧ point.time = 10 := by
  decide +kernel

/-- A collection that overlaps none of its reader begins when those before it are over. -/
theorem begin_of_round (begun : Interleaving) (idle : begun.rounds = []) (turns : List Turn)
    (serial : begun.serial turns = true) {index : Nat} {round : Round}
    (found : (begun.run turns).rounds[index]? = some round) :
    ∃ before after, turns = before ++ .begin round.position :: after ∧
      (begun.run before).rounds.length = index ∧ (begun.run before).clock = round.time ∧
      (begun.run before).finished round.position =
        Round.times round.position ((begun.run turns).rounds.take index) := by
  have label : (begun.run turns).labels[index]? = some round.label := by
    rw [labels, List.getElem?_map, found]
    rfl
  obtain ⟨before, after, rfl, count, clock⟩ := begun_of_label begun idle turns index _ label
  have length : (begun.run before).rounds.length = index := (List.length_map _).symm.trans count
  have allowed := (begun.obeys_append _ before _).symm.trans serial
  rw [Bool.and_eq_true] at allowed
  have closed := closed_of_serial allowed.2
  refine ⟨before, after, rfl, length, clock, ?_⟩
  rw [run_append, times_run _ _ _ (Nat.le_of_eq length.symm), ← length, List.take_length]
  exact Round.times_filter_isOver _ _ closed

/-- While it reads, the finished collections of its reader are still those before it. -/
theorem Origin.finished_eq {config : ProviderConfig} {built : UInt64}
    {readers : List (Nat × TemporalityChoice × Bool)} {before after : List Turn} {index : Nat}
    {round : Round} {scope : ScopeIdentity} {metric : Metric} {collector : Collector}
    {stream : Stream}
    (origin : ((start config built readers).run before).Origin index round scope metric collector
      stream)
    (serial : (start config built readers).serial (before ++ after) = true) :
    ((start config built readers).run before).finished round.position = Round.times round.position
      (((start config built readers).run (before ++ after)).rounds.take index) := by
  obtain ⟨earlier, there, position, _, flying⟩ := origin.flying
  have alone := alone_run config built readers before (obeys_left serial)
  have inside := (List.getElem?_eq_some_iff.mp there).1
  rw [← position, alone.finished there flying, run_append, times_run _ _ _ (Nat.le_of_lt inside)]

/-- How the collections of a reader divide the time since a provider was built. -/
structure Tiles (begun : Interleaving) (built : UInt64) (turns : List Turn) (position : Nat)
    (temporality : TemporalityChoice) : Prop where
  /-- The reader last collected at the greatest of the provider's start and the times of its own
  collections that are over. -/
  stamp : ∀ before after, turns = before ++ after → (begun.run before).stamp? position =
    some (greatest built ((begun.run before).finished position))
  /-- That never goes back, and only the end of a collection of the reader changes it. -/
  lasting : ∀ before turn after old new, turns = before ++ turn :: after →
    (begun.run before).stamp? position = some old →
    (begun.run (before ++ [turn])).stamp? position = some new →
      old ≤ new ∧ (new = old ∨ ∃ index order round, turn = .advance index order ∧
        (begun.run before).rounds[index]? = some round ∧ round.position = position ∧
        round.isOver = false ∧ new = round.time ∧
        (begun.run (before ++ [turn])).rounds[index]? = some { round with phase := .over })
  /-- The changes that a collection gives start at what that was before the collection, and the
  totals at the provider's start. With a clock that never goes back that is when the reader's
  previous collection ended its points. -/
  windows : ∀ index round, (begun.run turns).rounds[index]? = some round →
    round.position = position →
      ∃ before after since, turns = before ++ .begin position :: after ∧
        (begun.run before).rounds.length = index ∧ (begun.run before).clock = round.time ∧
        (begun.run before).stamp? position = some since ∧
        (begun.steady turns = true → since =
          (Round.times position ((begun.run turns).rounds.take index)).getLast?.getD built) ∧
        ∀ scope metric, (scope, metric) ∈ round.metrics →
          ∃ earlier order later collector stream,
            turns = earlier ++ .advance index order :: later ∧
            (begun.run earlier).Origin index round scope metric collector stream ∧
            collector.temporality = temporality ∧
            ∀ point ∈ metric.points, point.time = round.time ∧
              point.start = (temporality stream.definition.kind).opens built since

/-- While no two collections of one reader overlap, the windows of each reader's collections tile
the time since the provider was built, whatever the clock shows and other readers do. -/
theorem windows_tile (config : ProviderConfig) (built : UInt64)
    (readers : List (Nat × TemporalityChoice × Bool)) (turns : List Turn)
    (serial : (start config built readers).serial turns = true) (position : Nat)
    (reader : Nat × TemporalityChoice × Bool) (there : readers[position]? = some reader) :
    (start config built readers).Tiles built turns position reader.2.1 := by
  have seated := (List.getElem?_eq_some_iff.mp there).1
  have dated := fun before => dated_run config built readers before position seated
  constructor
  case stamp => exact fun before _ _ => dated before
  case lasting =>
    intro before turn after old new _ last next
    rw [run_append] at next ⊢
    have stepped := ((start config built readers).run before).stepped turn
    rcases stepped.stamp position with same | ⟨index, order, round, earlier, rfl, found, own,
      flying, ended, there, later⟩
    · have unchanged : some new = some old := (next.symm.trans same).trans last
      cases unchanged
      exact ⟨UInt64.le_refl old, .inl rfl⟩
    · cases last.symm.trans there
      cases next.symm.trans later
      refine ⟨UInt64.le_max_left old round.time, ?_⟩
      rcases UInt64.max_eq_or old round.time with same | raised
      · exact .inl same
      · exact .inr ⟨index, order, round, rfl, found, own, flying, raised, ended⟩
  case windows =>
    intro index round found own
    subst own
    obtain ⟨before, after, split, count, clock, closed⟩ :=
      begin_of_round (start config built readers) rfl turns serial found
    refine ⟨before, after, _, split, count, clock, dated before, fun steady => ?_, ?_⟩
    · have timely := timely_run config built readers turns steady
      obtain ⟨bounded, ascending⟩ := timely.times_ascending round.position index
      rw [closed]
      exact greatest_ascending built _ bounded ascending
    · intro scope metric member
      obtain ⟨earlier, order, later, collector, stream, rfl, origin, asks, windows⟩ :=
        origin_window config built readers turns found member
      have same : collector.temporality = reader.2.1 := by
        rw [List.getElem?_map, there] at asks
        exact (Option.some.inj asks).symm
      rw [same, origin.finished_eq serial, ← closed] at windows
      exact ⟨earlier, order, later, collector, stream, rfl, origin, same, windows⟩

/-- Two collections of a reader of changes and, around the second one, one of a reader of totals. -/
def around : List Turn :=
  let scope : ScopeIdentity := ⟨"test", none, none⟩
  let order : Order := ⟨[scope], ["requests"]⟩
  collected ++
  [.tick 30, .begin 1, .measure scope "requests" (.unsigned 7) [], .tick 40, .begin 0] ++
  List.replicate 5 (.advance 2 order) ++ List.replicate 5 (.advance 1 order)

theorem windows_tile_around :
    let begun := start {} 10 [(0, fun _ => .delta, false), (1, fun _ => .cumulative, false)]
    (begun.run around).rounds.map (fun round => (round.position,
      round.metrics.flatMap fun (_, metric) =>
        metric.points.map fun point => (point.start, point.time))) =
      [(0, [(10, 20)]), (1, [(10, 30)]), (0, [(20, 40)])] ∧
    begun.Tiles 10 around 0 (fun _ => .delta) := by
  intro begun
  refine ⟨by decide +kernel, ?_⟩
  exact windows_tile {} 10 [(0, fun _ => .delta, false), (1, fun _ => .cumulative, false)] around
    (by decide +kernel) 0 (0, fun _ => .delta, false) rfl

end Interleaving

end Metering
