import Metering.Proofs.Provider.Origins

/-!
What the answers of collections look like. Scopes and streams are told apart by what they stand
under, and a collection takes each of them once, in whatever order; sorting puts the metrics of a
meter in order; and a metric is as well formed as the stream that it was read off.
-/

namespace Metering

/-- Whether a metric, of a stream that may keep only some keys, is well formed. -/
structure Metric.WellFormed (allowed : Option (List String)) (metric : Metric) : Prop where
  name : IsName metric.name
  unit : IsUnit metric.unit
  shown : metric.points ≠ []
  distinct : (metric.points.map (·.attributes)).Nodup
  ascending : ∀ point ∈ metric.points, Attribute.Ascending point.attributes
  allowed : ∀ keys, allowed = some keys → ∀ point ∈ metric.points,
    (∀ entry ∈ point.attributes, entry.key ∈ keys) ∨
      point.attributes = AttributeSet.overflow.toList

/-- Whether a meter's metrics are well formed as a whole. -/
structure ScopeReport.WellFormed (report : ScopeReport) : Prop where
  named : report.scope.name ≠ ""
  shown : report.metrics ≠ []
  sorted : report.metrics.Pairwise fun left right =>
    Text.before left.name right.name = true ∧
      Text.sameIgnoringCase left.name right.name = false

/-- Whether a stream has sets that it can have, and a name and unit that keep to the rules. -/
structure Stream.Regular (stream : Stream) : Prop where
  shaped : stream.Shaped
  proper : stream.definition.Proper

/-- Streams are regular if the views were built by the rules. -/
theorem Stream.rule_regular (shared : Shared)
    (built : ∀ view ∈ shared.views, ∃ config : ViewConfig, config.build = .ok view) :
    Stream.Rule shared Stream.Regular := by
  constructor
  case create =>
    intro meter config definition accepted member
    exact ⟨shaped_create definition _ _ _,
      View.proper_of_mem_streams shared.views built meter config accepted definition member⟩
  case record =>
    intro stream now value attributes regular
    have terms := (stream.follows_record now value attributes).terms
    exact ⟨regular.shaped.record now value attributes, terms.definition ▸ regular.proper⟩
  case collect =>
    intro stream collector time regular
    have terms := stream.sameTerms_collect collector time
    exact ⟨regular.shaped.collect collector time, terms.definition ▸ regular.proper⟩
  case reset =>
    exact fun stream regular => ⟨stream.shaped_reset, regular.proper⟩

/-- What is read off a regular stream is well formed. -/
theorem Stream.Regular.collected {stream : Stream} (regular : stream.Regular)
    (collector : Collector) (time : UInt64) {metric : Metric}
    (read : (stream.collect collector time).2 = some metric) :
    metric.WellFormed stream.definition.allowedKeys := by
  obtain ⟨name, unit, _, points, shown⟩ := stream.of_collect collector time read
  obtain ⟨sets, apart, fit, attributes⟩ := regular.shaped.pointsFor_sets collector time
  rw [← points] at attributes
  have each : ∀ point ∈ metric.points, ∃ set ∈ sets, set.toList = point.attributes := by
    intro point member
    have listed : point.attributes ∈ sets.map (·.toList) :=
      attributes ▸ List.mem_map_of_mem member
    exact List.mem_map.mp listed
  constructor
  case name => exact name ▸ regular.proper.name
  case unit => exact unit ▸ regular.proper.unit
  case shown => exact shown
  case distinct =>
    rw [attributes]
    exact AttributeSet.nodup_toList apart fun set member => (fit set member).canonical
  case ascending =>
    intro point member
    obtain ⟨set, inside, same⟩ := each point member
    exact same ▸ (fit set inside).ascending
  case allowed =>
    intro keys kept point member
    obtain ⟨set, inside, same⟩ := each point member
    rw [← same]
    exact ((fit set inside).allowed keys kept).imp_right (congrArg AttributeSet.toList)

namespace Round

/-- The meter that a collection is reading. -/
def current (round : Round) : List ScopeIdentity :=
  match round.phase with
  | .reading scope _ _ => [scope]
  | _ => []

/-- The keys of the streams of that meter, of those it has read first. -/
def keys (round : Round) : List String :=
  match round.phase with
  | .reading _ keys metrics => metrics.map Metric.key ++ keys
  | _ => []

/-- The scopes of the meters that a collection has reported, reads, and has yet to read. -/
def taken (round : Round) : List ScopeIdentity :=
  (round.scopes.map fun report => report.scope.identity) ++ round.current ++ round.ahead

/-- Whether a collection takes every meter and every stream once, and what it has of meters is well
formed. -/
structure Orderly (round : Round) : Prop where
  blank : round.phase = .begun → round.scopes = []
  taken : round.taken.Nodup
  keys : round.keys.Nodup
  reports : ∀ report ∈ round.scopes, report.WellFormed

theorem orderly_begin (position : Nat) (time : UInt64) :
    Orderly { position, time } :=
  ⟨fun _ => rfl, List.nodup_nil, List.nodup_nil, nofun⟩

section Advanced

variable {meets : Stream → Prop} {provider next : Provider} {round later : Round}

theorem nodup_streamKeys (sound : provider.Sound meets) (scope : ScopeIdentity) :
    (provider.streamKeys scope).Nodup := by
  unfold Provider.streamKeys
  cases found : provider.meter? scope with
  | none => exact List.nodup_nil
  | some meter => exact (sound.found found).streams.distinct

/-- A metric has the key that it was read under. -/
theorem key_of_readStream (sound : provider.Sound meets) {position : Nat} {time : UInt64}
    {scope : ScopeIdentity} {key : String} {metric : Metric}
    (read : (provider.readStream position time scope key).2 = some metric) : metric.key = key := by
  unfold Provider.readStream at read
  split at read
  next meter stream collector there listed _ =>
    rw [Provider.stream?, there, Option.bind_some] at listed
    rw [Metric.key, (stream.of_collect collector time read).1]
    exact ((sound.found there).streams.each key stream listed).1
  next => cases read

theorem Orderly.advanced (orderly : round.Orderly) (sound : provider.Sound meets)
    (advanced : Advanced provider round next later) : later.Orderly := by
  obtain ⟨blank, taken, keys, reports⟩ := orderly
  unfold Round.taken current at taken
  unfold Round.keys at keys
  cases advanced with
  | idle => exact ⟨blank, taken, keys, reports⟩
  | found scopes phase all =>
    refine ⟨nofun, ?_, List.nodup_nil, reports⟩
    rw [Round.taken, blank phase]
    exact all.nodup_iff.mpr sound.distinct
  | ended phase ahead =>
    rw [phase] at taken
    exact ⟨nofun, taken, List.nodup_nil, reports⟩
  | entered scope rest keys phase ahead all =>
    rw [phase, ahead, List.append_nil] at taken
    refine ⟨nofun, ?_, all.nodup_iff.mpr (nodup_streamKeys sound scope), reports⟩
    rw [Round.taken, List.append_assoc]
    exact taken
  | read scope key rest metrics phase =>
    rw [phase] at taken keys
    refine ⟨nofun, taken, ?_, reports⟩
    change ((metrics ++ _).map Metric.key ++ rest).Nodup
    rw [List.map_append, List.append_assoc]
    cases given : (provider.readStream round.position round.time scope key).2 with
    | none => exact keys.sublist ((List.sublist_cons_self key rest).append_left _)
    | some metric =>
      rw [Option.toList_some, List.map_singleton, key_of_readStream sound given]
      exact keys
  | left scope metrics phase =>
    rw [phase] at taken keys
    dsimp only at taken keys
    rw [List.append_nil] at keys
    cases made : provider.report? scope metrics with
    | none =>
      refine ⟨nofun, ?_, List.nodup_nil, ?_⟩
      · rw [Round.taken, Option.toList_none, List.append_nil]
        rw [List.append_assoc] at taken
        change (_ ++ [] ++ round.ahead).Nodup
        rw [List.append_nil]
        exact taken.sublist ((List.sublist_append_right [scope] round.ahead).append_left _)
      · rwa [Option.toList_none, List.append_nil]
    | some report =>
      obtain ⟨shown, meter, found, rfl⟩ := Provider.of_report? made
      have meter_sound := sound.found found
      refine ⟨nofun, ?_, List.nodup_nil, ?_⟩
      · rw [Round.taken, Option.toList_some, List.map_append, List.map_singleton,
          meter_sound.identity]
        change (_ ++ [scope] ++ [] ++ round.ahead).Nodup
        rwa [List.append_nil]
      · rw [Option.toList_some, List.forall_mem_append, List.forall_mem_singleton]
        refine ⟨reports, meter_sound.named, fun nothing => ?_, Metric.ascending_sortByName _ keys⟩
        have sorted : Metric.sortByName metrics = [] := nothing
        have same := Metric.perm_sortByName metrics
        rw [sorted] at same
        exact shown same.symm.eq_nil

end Advanced

end Round

namespace Interleaving

/-- Whether all collections are orderly, and streams meet a rule that they keep. -/
structure Orderly (meets : Stream → Prop) (state : Interleaving) : Prop where
  rule : Stream.Rule state.provider.shared meets
  sound : state.provider.Sound meets
  rounds : ∀ round ∈ state.rounds, round.Orderly

theorem Orderly.step {meets : Stream → Prop} {state : Interleaving}
    (orderly : state.Orderly meets) (turn : Turn) : (state.step turn).Orderly meets := by
  have stepped := state.stepped turn
  have sound := state.sound_step orderly.rule orderly.sound turn
  refine ⟨stepped.shared_eq ▸ orderly.rule, sound, ?_⟩
  generalize state.step turn = next at stepped
  cases stepped with
  | calm turn next rounds _ _ _ => exact rounds ▸ orderly.rounds
  | begun position reader =>
    rw [List.forall_mem_append, List.forall_mem_singleton]
    exact ⟨orderly.rounds, Round.orderly_begin position state.clock⟩
  | moved index order round later provider found advanced =>
    have before := orderly.rounds round (List.mem_of_getElem? found)
    intro other member
    rcases List.mem_or_eq_of_mem_set member with there | same
    · exact orderly.rounds other there
    · exact same ▸ before.advanced orderly.sound advanced

/-- Every collection is well formed, in whatever order it takes meters and streams, and whatever
happens while it runs. -/
theorem collections_well_formed (config : ProviderConfig) (built : UInt64)
    (readers : List (Nat × TemporalityChoice × Bool)) (turns : List Turn)
    (views : ∀ view ∈ config.views, ∃ source : ViewConfig, source.build = .ok view)
    (index : Nat) (round : Round)
    (found : ((start config built readers).run turns).rounds[index]? = some round) :
    (round.scopes.map fun report => report.scope.identity).Nodup ∧
      ∀ report ∈ round.scopes, report.WellFormed ∧ ∀ metric ∈ report.metrics,
        ∃ before order after collector stream, turns = before ++ .advance index order :: after ∧
          ((start config built readers).run before).Origin index round report.scope.identity metric
            collector stream ∧ metric.WellFormed stream.definition.allowedKeys := by
  let begun := start config built readers
  have rule := Stream.rule_regular begun.provider.shared views
  have sound : begun.provider.Sound Stream.Regular := Provider.sound_build config built readers
  have orderly : (begun.run turns).Orderly Stream.Regular :=
    run_keeps (Orderly Stream.Regular) (fun _ turn orderly => orderly.step turn) begun
      ⟨rule, sound, nofun⟩ turns
  obtain ⟨_, taken, _, reports⟩ := orderly.rounds round (List.mem_of_getElem? found)
  rw [Round.taken, List.append_assoc] at taken
  refine ⟨(List.nodup_append.mp taken).1, fun report reported => ⟨reports report reported, ?_⟩⟩
  intro metric member
  obtain ⟨before, order, after, collector, stream, split, origin⟩ :=
    origin_of_mem_metrics begun rfl rule sound turns index round found report.scope.identity metric
      (Round.mem_metrics reported member)
  have regular := origin.meets (begun.sound_run rule sound before)
  exact ⟨before, order, after, collector, stream, split, origin,
    regular.collected collector round.time origin.read⟩

/-- A view keeps one key and one set, so that the second set is counted as overflow. -/
theorem collections_well_formed_limited :
    let source : ViewConfig :=
      { instrumentKind := some .counter, allowedKeys := some ["route"], cardinalityLimit := some 1 }
    let view : View := ⟨none, some .counter, none, none, none, some ["route"], some 1, false⟩
    let scope : ScopeIdentity := ⟨"test", none, none⟩
    let turns := [.request { name := "test" } true,
      .create (some scope) { kind := .counter, number := .unsigned, name := "requests" } [],
      .measure scope "requests" (.unsigned 5) [⟨"user", .int 1⟩, ⟨"route", .string "/a"⟩],
      .measure scope "requests" (.unsigned 7) [⟨"user", .int 2⟩, ⟨"route", .string "/b"⟩],
      .begin 0] ++ List.replicate 5 (.advance 0 ⟨[scope], ["requests"]⟩)
    let state := (start { views := [view] } 10 [(0, fun _ => .delta, false)]).run turns
    source.build = .ok view ∧ ∃ round, state.rounds[0]? = some round ∧
      (round.metrics.flatMap fun (_, metric) => metric.points.map (·.attributes)) =
        [[⟨"route", .string "/a"⟩], AttributeSet.overflow.toList] ∧
      ∀ report ∈ round.scopes, report.WellFormed := by
  intro source view scope turns state
  have made : source.build = .ok view := rfl
  have views : ∀ other ∈ [view], ∃ source : ViewConfig, source.build = .ok other :=
    List.forall_mem_singleton.mpr ⟨source, made⟩
  let round := state.rounds.get ⟨0, by decide +kernel⟩
  have found : state.rounds[0]? = some round := List.getElem?_eq_getElem _
  have formed := collections_well_formed { views := [view] } 10 [(0, fun _ => .delta, false)] turns
    views 0 round found
  exact ⟨made, round, found, by decide +kernel, fun report reported => (formed.2 report reported).1⟩

end Interleaving

end Metering
