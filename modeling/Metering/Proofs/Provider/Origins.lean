import Mathlib.Data.List.Induction
import Metering.Proofs.Provider.Upkeep
import Metering.Proofs.Stream.Shape

/-!
Where metrics come from. A collection keeps the reader and the time that it began with, and every
metric that it gets is read off one stream at one moment of the run. What holds of a metric is
therefore a matter of what the reader and the stream were at that moment.
-/

namespace Metering

namespace Round

/-- What a collection has got so far, with the scopes of the meters. -/
def metrics (round : Round) : List (ScopeIdentity × Metric) :=
  (round.scopes.flatMap fun report => report.metrics.map (report.scope.identity, ·)) ++
    match round.phase with
    | .reading scope _ metrics => metrics.map (scope, ·)
    | _ => []

theorem mem_metrics {round : Round} {report : ScopeReport} {metric : Metric}
    (reported : report ∈ round.scopes) (member : metric ∈ report.metrics) :
    (report.scope.identity, metric) ∈ round.metrics :=
  List.mem_append_left _ (List.mem_flatMap.mpr
    ⟨report, reported, List.mem_map.mpr ⟨metric, member, rfl⟩⟩)

/-- One step gets at most the metric of the stream that it reads. -/
theorem Advanced.mem_metrics {meets : Stream → Prop} {provider next : Provider}
    {round later : Round} (advanced : Advanced provider round next later)
    (sound : provider.Sound meets) {pair : ScopeIdentity × Metric}
    (member : pair ∈ later.metrics) :
    pair ∈ round.metrics ∨ round.isOver = false ∧
      ∃ key, (provider.readStream round.position round.time pair.1 key).2 = some pair.2 := by
  unfold metrics at member ⊢
  cases advanced with
  | idle => exact .inl member
  | found _ phase _ | ended phase _ | entered _ _ _ phase _ _ =>
    left
    rw [phase]
    exact member
  | read scope key rest metrics phase =>
    rw [phase]
    dsimp only at member ⊢
    rw [List.map_append, ← List.append_assoc] at member
    rcases List.mem_append.mp member with before | new
    · exact .inl before
    · right
      obtain ⟨metric, given, rfl⟩ := List.mem_map.mp new
      exact ⟨by simp only [isOver, phase], key, Option.mem_toList.mp given⟩
  | left scope metrics phase =>
    left
    rw [phase]
    dsimp only at member ⊢
    rw [List.append_nil, List.flatMap_append] at member
    rcases List.mem_append.mp member with before | new
    · exact List.mem_append_left _ before
    · apply List.mem_append_right
      obtain ⟨report, given, inside⟩ := List.mem_flatMap.mp new
      obtain ⟨metric, sorted, rfl⟩ := List.mem_map.mp inside
      obtain ⟨_, meter, found, rfl⟩ := Provider.of_report? (Option.mem_toList.mp given)
      have listed := (Metric.perm_sortByName metrics).subset sorted
      exact List.mem_map.mpr ⟨metric, listed, by rw [(sound.found found).identity]⟩

end Round

namespace Interleaving

/-- Whether at some moment the collection at an index, which is not over yet, reads a metric off a
stream of the meter of a scope. -/
structure Origin (moment : Interleaving) (index : Nat) (round : Round) (scope : ScopeIdentity)
    (metric : Metric) (collector : Collector) (stream : Stream) : Prop where
  flying : ∃ earlier, moment.rounds[index]? = some earlier ∧ earlier.position = round.position ∧
    earlier.time = round.time ∧ earlier.isOver = false
  reader : moment.provider.collector? round.position = some collector
  listed : moment.provider.stream? scope (Text.lower metric.name) = some stream
  read : (stream.collect collector round.time).2 = some metric

/-- The stream that a metric is read off meets what all streams meet at that moment. -/
theorem Origin.meets {meets : Stream → Prop} {moment : Interleaving} {index : Nat} {round : Round}
    {scope : ScopeIdentity} {metric : Metric} {collector : Collector} {stream : Stream}
    (origin : moment.Origin index round scope metric collector stream)
    (sound : moment.provider.Sound meets) : meets stream := by
  have there := origin.listed
  unfold Provider.stream? at there
  obtain ⟨meter, known, listed⟩ := Option.bind_eq_some_iff.mp there
  exact ((sound.found known).streams.each _ stream listed).2

/-- A collection that has moved on has what it had from where it had it. -/
theorem Origin.later {moment : Interleaving} {index : Nat} {round next : Round}
    {scope : ScopeIdentity} {metric : Metric} {collector : Collector} {stream : Stream}
    (origin : moment.Origin index round scope metric collector stream)
    (label : next.position = round.position ∧ next.time = round.time) :
    moment.Origin index next scope metric collector stream := by
  obtain ⟨position, time⟩ := label
  constructor
  case flying => exact position ▸ time ▸ origin.flying
  case reader => exact position ▸ origin.reader
  case listed => exact origin.listed
  case read => exact time ▸ origin.read

/-- A metric that is read is read off the stream of its name. -/
theorem origin_of_readStream {meets : Stream → Prop} {moment : Interleaving}
    (sound : moment.provider.Sound meets) {index : Nat} {round : Round}
    (found : moment.rounds[index]? = some round) (flying : round.isOver = false)
    {scope : ScopeIdentity} {key : String} {metric : Metric}
    (read : (moment.provider.readStream round.position round.time scope key).2 = some metric) :
    ∃ collector stream, moment.Origin index round scope metric collector stream := by
  unfold Provider.readStream at read
  split at read
  next meter stream collector there listed reader =>
    have key_same : Text.lower metric.name = key := by
      rw [(stream.of_collect collector round.time read).1]
      rw [Provider.stream?, there, Option.bind_some] at listed
      exact ((sound.found there).streams.each key stream listed).1
    exact ⟨collector, stream, ⟨round, found, rfl, rfl, flying⟩, reader, key_same ▸ listed, read⟩
  next => cases read

/-- A collection behind a turn was there before, or has just begun, or is the one that moved. -/
theorem Stepped.of_round {state next : Interleaving} {turn : Turn}
    (stepped : Stepped state turn next) {index : Nat} {later : Round}
    (found : next.rounds[index]? = some later) :
    state.rounds[index]? = some later ∨
      (turn = .begin later.position ∧ index = state.rounds.length ∧
        later = { position := later.position, time := state.clock }) ∨
      ∃ order round, turn = .advance index order ∧ state.rounds[index]? = some round ∧
        Round.Advanced state.provider round next.provider later := by
  cases stepped with
  | calm _ _ rounds => exact .inl (rounds ▸ found)
  | begun position reader =>
    rcases Nat.lt_or_ge index state.rounds.length with inside | outside
    · exact .inl ((List.getElem?_append_left inside).symm.trans found)
    · right
      left
      rw [List.getElem?_append_right outside, List.getElem?_singleton] at found
      split at found
      next newest =>
        cases found
        exact ⟨rfl, by omega, rfl⟩
      next => cases found
  | moved place order round moved provider there advanced =>
    by_cases same : place = index
    · subst same
      have inside := (List.getElem?_eq_some_iff.mp there).1
      cases (List.getElem?_set_self inside).symm.trans found
      exact .inr (.inr ⟨order, round, rfl, there, advanced⟩)
    · exact .inl ((List.getElem?_set_ne same).symm.trans found)

/-- Every metric of a collection was read off a stream at some moment of the run. -/
theorem origin_of_mem_metrics {meets : Stream → Prop} (begun : Interleaving)
    (idle : begun.rounds = []) (rule : Stream.Rule begun.provider.shared meets)
    (sound : begun.provider.Sound meets) (turns : List Turn) (index : Nat) (round : Round)
    (found : (begun.run turns).rounds[index]? = some round) (scope : ScopeIdentity)
    (metric : Metric) (member : (scope, metric) ∈ round.metrics) :
    ∃ before order after collector stream, turns = before ++ .advance index order :: after ∧
      (begun.run before).Origin index round scope metric collector stream := by
  -- The last turn of the run has read the metric, or the collection had it before.
  induction turns using List.reverseRecOn generalizing round with
  | nil =>
    change begun.rounds[index]? = some round at found
    rw [idle] at found
    cases found
  | append_singleton earlier turn ih =>
    rw [run_append] at found
    have earlier_sound := begun.sound_run rule sound earlier
    rcases ((begun.run earlier).stepped turn).of_round found with
      same | ⟨_, _, fresh⟩ | ⟨order, previous, rfl, there, advanced⟩
    · obtain ⟨before, order, after, collector, stream, rfl, origin⟩ := ih round same member
      exact ⟨before, order, after ++ [turn], collector, stream, by simp, origin⟩
    · rw [fresh] at member
      cases member
    · rcases advanced.mem_metrics earlier_sound member with old | ⟨flying, key, read⟩
      · obtain ⟨before, order', after, collector, stream, rfl, origin⟩ := ih previous there old
        exact ⟨before, order', after ++ [.advance index order], collector, stream, by simp,
          origin.later advanced.label⟩
      · obtain ⟨collector, stream, origin⟩ :=
          origin_of_readStream earlier_sound there flying read
        exact ⟨earlier, order, [], collector, stream, rfl, origin.later advanced.label⟩

end Interleaving

end Metering
