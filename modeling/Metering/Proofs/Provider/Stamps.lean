import Metering.Proofs.Provider.Origins

/-!
When readers last collected. A collection that ends raises the time of its reader, and nothing else
touches it, so at any moment it is the greatest of the provider's start and the times at which the
reader's finished collections began. While no two collections of a reader overlap, the finished ones
are those that began before.
-/

namespace Metering

namespace Round

/-- The collections around the one at an index, which may be replaced by another. -/
theorem split_set {rounds : List Round} {index : Nat} {round : Round}
    (found : rounds[index]? = some round) :
    rounds = rounds.take index ++ round :: rounds.drop (index + 1) ∧
      ∀ later, rounds.set index later = rounds.take index ++ later :: rounds.drop (index + 1) := by
  obtain ⟨inside, here⟩ := List.getElem?_eq_some_iff.mp found
  constructor
  · rw [← here, ← List.drop_eq_getElem_cons inside, List.take_append_drop]
  · intro later
    rw [List.set_eq_take_append_cons_drop, if_pos inside]

def label (round : Round) : Nat × UInt64 := (round.position, round.time)

theorem Advanced.label_eq {provider next : Provider} {round later : Round}
    (advanced : Advanced provider round next later) : later.label = round.label :=
  Prod.ext advanced.label.1 advanced.label.2

/-- When the collections of a reader among some began, in their order. -/
def times (position : Nat) (rounds : List Round) : List UInt64 :=
  Table.under position (rounds.map label)

theorem times_append (position : Nat) (first second : List Round) :
    times position (first ++ second) = times position first ++ times position second := by
  rw [times, List.map_append, Table.under_append]
  rfl

theorem times_singleton (position : Nat) (round : Round) :
    times position [round] = if round.position = position then [round.time] else [] := by
  by_cases same : round.position = position <;> simp [times, Table.under, label, same]

theorem mem_times_iff (position : Nat) (rounds : List Round) (time : UInt64) :
    time ∈ times position rounds ↔
      ∃ round ∈ rounds, round.position = position ∧ round.time = time := by
  simp [times, Table.under, label, and_assoc]

theorem times_eq_nil (position : Nat) (rounds : List Round)
    (absent : ∀ round ∈ rounds, round.position ≠ position) : times position rounds = [] := by
  apply List.eq_nil_iff_forall_not_mem.mpr
  intro time member
  obtain ⟨round, there, same, _⟩ := (mem_times_iff position rounds time).mp member
  exact absent round there same

/-- When all collections of a reader are over, leaving out those that are not changes nothing. -/
theorem times_filter_isOver (position : Nat) (rounds : List Round)
    (closed : ∀ round ∈ rounds, round.position = position → round.isOver = true) :
    times position (rounds.filter isOver) = times position rounds := by
  induction rounds with
  | nil => rfl
  | cons round rest ih =>
    have later := ih fun other member => closed other (List.mem_cons_of_mem round member)
    have split := times_append position [round] rest
    cases ended : round.isOver with
    | true =>
      rw [List.filter_cons_of_pos ended]
      exact (times_append position [round] _).trans (later ▸ split.symm)
    | false =>
      have other : round.position ≠ position := by
        intro same
        rw [closed round List.mem_cons_self same] at ended
        cases ended
      rw [times_singleton, if_neg other] at split
      rw [List.filter_cons_of_neg (by simp [ended]), later]
      exact split.symm

end Round

section Greatest

theorem UInt64.max_le_iff (first second bound : UInt64) :
    max first second ≤ bound ↔ first ≤ bound ∧ second ≤ bound := by
  change (if first ≤ second then second else first) ≤ bound ↔ _
  simp only [UInt64.le_iff_toNat_le]
  split <;> omega

theorem UInt64.le_max_left (first second : UInt64) : first ≤ max first second :=
  ((max_le_iff first second _).mp (UInt64.le_refl _)).1

theorem UInt64.max_eq_or (first second : UInt64) :
    max first second = first ∨ max first second = second := by
  by_cases ordered : first ≤ second
  · exact .inr (if_pos ordered)
  · exact .inl (if_neg ordered)

/-- The greatest of some times and one that there is in any case. -/
def greatest (least : UInt64) (times : List UInt64) : UInt64 := times.foldl max least

theorem greatest_le_iff (least : UInt64) (times : List UInt64) (bound : UInt64) :
    greatest least times ≤ bound ↔ least ≤ bound ∧ ∀ time ∈ times, time ≤ bound := by
  induction times generalizing least with
  | nil => simp [greatest]
  | cons time rest ih =>
    rw [greatest, List.foldl_cons, ← greatest, ih, UInt64.max_le_iff, List.forall_mem_cons]
    exact and_assoc

/-- Times with the same bounds are the same. -/
theorem UInt64.eq_of_le_iff {first second : UInt64}
    (same : ∀ bound, first ≤ bound ↔ second ≤ bound) : first = second :=
  UInt64.le_antisymm ((same second).mpr (UInt64.le_refl second))
    ((same first).mp (UInt64.le_refl first))

/-- It does not matter where a time stands among the others. -/
theorem greatest_middle (least time : UInt64) (first second : List UInt64) :
    greatest least (first ++ time :: second) = max (greatest least (first ++ second)) time := by
  apply UInt64.eq_of_le_iff
  intro bound
  simp only [UInt64.max_le_iff, greatest_le_iff, List.forall_mem_append, List.forall_mem_cons]
  tauto

/-- The greatest of ascending times is the last one. -/
theorem greatest_ascending (least : UInt64) (times : List UInt64)
    (bounded : ∀ time ∈ times, least ≤ time) (ascending : times.Pairwise (· ≤ ·)) :
    greatest least times = times.getLast?.getD least := by
  induction times using List.reverseRecOn with
  | nil => rfl
  | append_singleton earlier last _ =>
    rw [List.getLast?_concat, Option.getD_some]
    apply UInt64.eq_of_le_iff
    intro bound
    rw [greatest_le_iff, List.forall_mem_append, List.forall_mem_singleton]
    constructor
    · exact fun ⟨_, _, least⟩ => least
    · intro below
      refine ⟨UInt64.le_trans (bounded last (by simp)) below, fun time member => ?_, below⟩
      have sorted := (List.pairwise_append.mp ascending).2.2 time member last (by simp)
      exact UInt64.le_trans sorted below

end Greatest

namespace Interleaving

/-- When the collections of a reader that are over began. -/
def finished (state : Interleaving) (position : Nat) : List UInt64 :=
  Round.times position (state.rounds.filter Round.isOver)

/-- The readers and times of all collections. -/
def labels (state : Interleaving) : List (Nat × UInt64) := state.rounds.map Round.label

section Stepped

variable {state next : Interleaving} {turn : Turn}

/-- A turn begins a collection at the time of the clock, or leaves the readers and the times of the
collections as they are. -/
theorem Stepped.labels (stepped : Stepped state turn next) : (next.labels = state.labels ∧
      (next.clock = state.clock ∨ turn = .tick next.clock)) ∨
    ∃ position, turn = .begin position ∧ next.clock = state.clock ∧
      next.labels = state.labels ++ [(position, state.clock)] := by
  cases stepped with
  | calm turn next rounds bindings shared clock =>
    exact .inl ⟨congrArg (List.map Round.label) rounds, clock⟩
  | begun position reader => exact .inr ⟨position, rfl, rfl, List.map_append⟩
  | moved index order round later provider found advanced =>
    obtain ⟨before, after⟩ := Round.split_set found
    refine .inl ⟨?_, .inl rfl⟩
    calc (state.rounds.set index later).map Round.label
      _ = (state.rounds.take index ++ round :: state.rounds.drop (index + 1)).map Round.label := by
        rw [after, List.map_append, List.map_cons, advanced.label_eq, ← List.map_cons,
          ← List.map_append]
      _ = state.labels := by rw [← before, Interleaving.labels]

/-- A turn ends a collection, or leaves the readers and the finished collections as they are. -/
theorem Stepped.settled (stepped : Stepped state turn next) :
    (next.provider.bindings = state.provider.bindings ∧
      ∀ position, next.finished position = state.finished position) ∨
    ∃ index order round, turn = .advance index order ∧ state.rounds[index]? = some round ∧
      round.isOver = false ∧
      next.provider = state.provider.finish round.position round.time ∧
      next.rounds = state.rounds.set index { round with phase := .over } := by
  cases stepped with
  | calm turn next rounds bindings shared clock =>
    exact .inl ⟨bindings, fun position => by rw [finished, rounds, finished]⟩
  | begun position reader =>
    refine .inl ⟨rfl, fun other => ?_⟩
    rw [finished, List.filter_append]
    exact congrArg (Round.times other) (List.append_nil _)
  | moved index order round later provider found advanced =>
    rcases advanced.provider_eq with ⟨amended, same⟩ | ⟨flying, rfl, ends⟩
    · obtain ⟨before, after⟩ := Round.split_set found
      refine .inl ⟨amended.bindings, fun position => ?_⟩
      have label := advanced.label_eq
      calc Round.times position ((state.rounds.set index later).filter Round.isOver)
        _ = Round.times position ((state.rounds.take index ++
            round :: state.rounds.drop (index + 1)).filter Round.isOver) := by
          rw [after]
          simp only [Round.times, List.filter_append, List.filter_cons, same]
          split <;> simp only [List.map_append, List.map_cons, label]
        _ = state.finished position := by rw [← before, finished]
    · exact .inr ⟨index, order, round, rfl, found, flying, ends, rfl⟩

/-- The end of a collection adds its time to those of its reader. -/
theorem greatest_ended {index : Nat} {round : Round} (found : state.rounds[index]? = some round)
    (flying : round.isOver = false)
    (ended : next.rounds = state.rounds.set index { round with phase := .over })
    (least : UInt64) (position : Nat) :
    greatest least (next.finished position) =
      if round.position = position then max (greatest least (state.finished position)) round.time
      else greatest least (state.finished position) := by
  obtain ⟨before, after⟩ := Round.split_set found
  have left : next.finished position =
      Round.times position ((state.rounds.take index).filter Round.isOver) ++
        ((if round.position = position then [round.time] else []) ++
          Round.times position ((state.rounds.drop (index + 1)).filter Round.isOver)) := by
    rw [finished, ended, after, List.filter_append, List.filter_cons_of_pos rfl,
      Round.times_append, ← List.singleton_append, Round.times_append, Round.times_singleton]
  have right : state.finished position =
      Round.times position ((state.rounds.take index).filter Round.isOver) ++
        Round.times position ((state.rounds.drop (index + 1)).filter Round.isOver) := by
    rw [finished, before, List.filter_append, List.filter_cons_of_neg (by simp [flying]),
      Round.times_append, ← before]
  rw [left, right]
  split
  next => exact greatest_middle least round.time _ _
  next => rfl

theorem stamp_ended {round : Round}
    (ends : next.provider = state.provider.finish round.position round.time) (position : Nat) :
    next.stamp? position = (state.stamp? position).map fun old =>
      if round.position = position then max old round.time else old := by
  rw [stamp?, ends, Provider.collector_finish, stamp?, Option.map_map, Option.map_map]
  apply congrArg (Option.map · _)
  funext collector
  dsimp only [Function.comp]
  split <;> rfl

/-- Only the end of one of its own collections changes when a reader last collected, and that never
goes back. -/
theorem Stepped.stamp (stepped : Stepped state turn next) (position : Nat) :
    next.stamp? position = state.stamp? position ∨
    ∃ index order round old, turn = .advance index order ∧ state.rounds[index]? = some round ∧
      round.position = position ∧ round.isOver = false ∧
      next.rounds[index]? = some { round with phase := .over } ∧
      state.stamp? position = some old ∧ next.stamp? position = some (max old round.time) := by
  rcases stepped.settled with ⟨bindings, _⟩ | ⟨index, order, round, rfl, found, flying, ends, ended⟩
  · left
    rw [stamp?, Provider.collector?, bindings]
    rfl
  · have after := stamp_ended ends position
    by_cases own : round.position = position
    · simp only [own, if_true] at after
      cases there : state.stamp? position with
      | none => exact .inl (by rw [after, there]; rfl)
      | some old =>
        have inside := (List.getElem?_eq_some_iff.mp found).1
        rw [there] at after
        exact .inr ⟨index, order, round, old, rfl, found, own, flying,
          by rw [ended, List.getElem?_set_self inside], rfl, after⟩
    · simp only [own, if_false, Option.map_id'] at after
      exact .inl after

/-- Readers stay where they are and keep what they ask for. -/
theorem Stepped.seated (stepped : Stepped state turn next) (seated : state.provider.Seated) :
    next.provider.Seated := by
  have shared := stepped.shared_eq
  rcases stepped.settled with ⟨bindings, _⟩ | ⟨_, _, round, _, _, _, ends, _⟩
  · have same : next.provider.collector? = state.provider.collector? := by
      funext position
      rw [Provider.collector?, bindings]
      rfl
    exact ⟨by rw [bindings, shared, seated.count], by rw [same, shared]; exact seated.place⟩
  · exact ends ▸ seated.finish round.position round.time

/-- Whether readers last collected at the greatest of the provider's start and the times of their
collections that are over. -/
def Dated (built : UInt64) (readers : Nat) (state : Interleaving) : Prop :=
  ∀ position < readers, state.stamp? position = some (greatest built (state.finished position))

theorem Dated.step {built : UInt64} {readers : Nat} (dated : state.Dated built readers)
    (stepped : Stepped state turn next) : next.Dated built readers := by
  intro position seated
  have before := dated position seated
  rcases stepped.settled with ⟨bindings, same⟩ | ⟨_, _, round, _, found, flying, ends, ended⟩
  · rw [same, ← before, stamp?, Provider.collector?, bindings]
    rfl
  · rw [stamp_ended ends, before, greatest_ended found flying ended, Option.map_some]

end Stepped

/-- Collections keep their readers and times, and new ones are added behind them. -/
theorem labels_run (state : Interleaving) (turns : List Turn) :
    state.labels <+: (state.run turns).labels := by
  induction turns generalizing state with
  | nil => exact List.prefix_refl _
  | cons turn rest ih =>
    refine List.IsPrefix.trans ?_ (ih (state.step turn))
    rcases (state.stepped turn).labels with ⟨same, _⟩ | ⟨position, _, _, longer⟩
    · exact same ▸ List.prefix_refl _
    · exact longer ▸ List.prefix_append _ _

theorem times_run (state : Interleaving) (turns : List Turn) (position : Nat) {index : Nat}
    (inside : index ≤ state.rounds.length) :
    Round.times position ((state.run turns).rounds.take index) =
      Round.times position (state.rounds.take index) := by
  obtain ⟨later, longer⟩ := state.labels_run turns
  have bound : index ≤ state.labels.length := (List.length_map Round.label).symm ▸ inside
  have same : (state.run turns).labels.take index = state.labels.take index := by
    rw [← longer, List.take_append_of_le_length bound]
  unfold Round.times
  rw [List.map_take, List.map_take]
  exact congrArg (Table.under position) same

/-- Every collection began at a turn of the run, at what the clock showed then. -/
theorem begun_of_label (begun : Interleaving) (idle : begun.rounds = []) (turns : List Turn)
    (index : Nat) (label : Nat × UInt64)
    (found : (begun.run turns).labels[index]? = some label) :
    ∃ before after, turns = before ++ .begin label.1 :: after ∧
      (begun.run before).labels.length = index ∧ (begun.run before).clock = label.2 := by
  induction turns using List.reverseRecOn with
  | nil =>
    change begun.labels[index]? = some label at found
    rw [labels, idle] at found
    cases found
  | append_singleton earlier turn ih =>
    rw [run_append] at found
    have extend : (begun.run earlier).labels[index]? = some label →
        ∃ before after, earlier ++ [turn] = before ++ .begin label.1 :: after ∧
          (begun.run before).labels.length = index ∧ (begun.run before).clock = label.2 := by
      intro there
      obtain ⟨before, after, rfl, moment⟩ := ih there
      exact ⟨before, after ++ [turn], by simp, moment⟩
    rcases ((begun.run earlier).stepped turn).labels with ⟨same, _⟩ | ⟨position, rfl, _, longer⟩
    · exact extend (same ▸ found)
    · change ((begun.run earlier).step (.begin position)).labels[index]? = _ at found
      rw [longer] at found
      rcases Nat.lt_or_ge index (begun.run earlier).labels.length with inside | outside
      · exact extend ((List.getElem?_append_left inside).symm.trans found)
      · rw [List.getElem?_append_right outside, List.getElem?_singleton] at found
        split at found
        next newest =>
          cases found
          exact ⟨earlier, [], rfl, by omega, rfl⟩
        next => cases found

/-- Whether collections began one after the other, since a provider was built. -/
structure Timely (built : UInt64) (state : Interleaving) : Prop where
  clock : built ≤ state.clock
  each : ∀ label ∈ state.labels, built ≤ label.2 ∧ label.2 ≤ state.clock
  ascending : state.labels.Pairwise fun earlier later => earlier.2 ≤ later.2

theorem Timely.step {built : UInt64} {state : Interleaving} (timely : state.Timely built)
    (turn : Turn) (steady : state.steady [turn] = true) : (state.step turn).Timely built := by
  rcases (state.stepped turn).labels with ⟨same, clock⟩ | ⟨position, _, clock, longer⟩
  · have later : state.clock ≤ (state.step turn).clock := by
      rcases clock with still | tick
      · rw [still]
        exact UInt64.le_refl _
      · rw [tick] at steady
        simpa [Interleaving.steady, obeys] using steady
    constructor
    case clock => exact UInt64.le_trans timely.clock later
    case each =>
      intro label member
      rw [same] at member
      exact (timely.each label member).imp_right (UInt64.le_trans · later)
    case ascending => exact same ▸ timely.ascending
  · constructor
    case clock => exact clock ▸ timely.clock
    case each =>
      intro label member
      rw [longer] at member
      rw [clock]
      rcases List.mem_append.mp member with before | new
      · exact timely.each label before
      · cases List.mem_singleton.mp new
        exact ⟨timely.clock, UInt64.le_refl _⟩
    case ascending =>
      rw [longer]
      refine List.pairwise_append.mpr ⟨timely.ascending, List.pairwise_singleton _ _, ?_⟩
      intro earlier member later new
      cases List.mem_singleton.mp new
      exact (timely.each earlier member).2

section Timely

variable {built : UInt64} {state : Interleaving} (timely : state.Timely built)
include timely

theorem Timely.times_ascending (position index : Nat) :
    (∀ time ∈ Round.times position (state.rounds.take index), built ≤ time) ∧
      (Round.times position (state.rounds.take index)).Pairwise (· ≤ ·) := by
  constructor
  · intro time member
    obtain ⟨round, there, _, rfl⟩ := (Round.mem_times_iff position _ time).mp member
    exact (timely.each _ (List.mem_map_of_mem (List.mem_of_mem_take there))).1
  · have part : ((state.rounds.take index).map Round.label).Sublist state.labels :=
      (List.take_sublist index state.rounds).map Round.label
    exact List.pairwise_map.mpr ((timely.ascending.sublist part).filter _)

/-- A collection began no earlier than those before it. -/
theorem Timely.times_le {index : Nat} {round : Round} (found : state.rounds[index]? = some round)
    (position : Nat) : ∀ time ∈ Round.times position (state.rounds.take index),
      time ≤ round.time := by
  intro time member
  obtain ⟨earlier, there, _, rfl⟩ := (Round.mem_times_iff position _ time).mp member
  obtain ⟨around, _⟩ := Round.split_set found
  have ascending := timely.ascending
  rw [labels, around, List.map_append, List.pairwise_append] at ascending
  exact ascending.2.2 _ (List.mem_map_of_mem there) _ List.mem_cons_self

end Timely

/-- Whether no collection of a reader began while another was not over. -/
def Alone (state : Interleaving) : Prop :=
  state.rounds.Pairwise fun earlier later =>
    earlier.position = later.position → earlier.isOver = true

theorem closed_of_serial {state : Interleaving} {position : Nat} {rest : List Turn}
    (serial : state.serial (.begin position :: rest) = true) :
    ∀ round ∈ state.rounds, round.position = position → round.isOver = true := by
  intro round member same
  have allowed := List.all_eq_true.mp (Bool.and_eq_true_iff.mp serial).1 round member
  simpa [same] using allowed

theorem Alone.step {state : Interleaving} (alone : state.Alone) (turn : Turn)
    (serial : state.serial [turn] = true) : (state.step turn).Alone := by
  have stepped := state.stepped turn
  generalize state.step turn = next at stepped
  cases stepped with
  | calm turn next rounds _ _ _ =>
    unfold Alone
    rwa [rounds]
  | begun position reader =>
    have closed := closed_of_serial serial
    refine List.pairwise_append.mpr ⟨alone, List.pairwise_singleton _ _, ?_⟩
    intro earlier member later new
    cases List.mem_singleton.mp new
    exact closed earlier member
  | moved index order round later provider found advanced =>
    obtain ⟨before, after⟩ := Round.split_set found
    have stays : round.isOver = true → later.isOver = true := by
      rcases advanced.provider_eq with ⟨_, same⟩ | ⟨flying, _, _⟩
      · exact same.trans
      · exact fun ended => absurd (flying.symm.trans ended) (by decide)
    have label := advanced.label.1
    unfold Alone at alone ⊢
    rw [before] at alone
    change (state.rounds.set index later).Pairwise _
    rw [after]
    simp only [List.pairwise_append, List.pairwise_cons, List.forall_mem_cons] at alone ⊢
    rw [label]
    exact ⟨alone.1, ⟨fun other member same => stays (alone.2.1.1 other member same),
      alone.2.1.2⟩, alone.2.2⟩

/-- While a collection that overlaps none is not over, those of its reader that are over are the
ones that began before it. -/
theorem Alone.finished {state : Interleaving} (alone : state.Alone) {index : Nat} {round : Round}
    (found : state.rounds[index]? = some round) (flying : round.isOver = false) :
    state.finished round.position = Round.times round.position (state.rounds.take index) := by
  obtain ⟨before, _⟩ := Round.split_set found
  unfold Alone at alone
  rw [before, List.pairwise_append, List.pairwise_cons] at alone
  have none_behind : ∀ later ∈ (state.rounds.drop (index + 1)).filter Round.isOver,
      later.position ≠ round.position := by
    intro later member same
    have ended := alone.2.1.1 later (List.mem_of_mem_filter member) same.symm
    exact absurd (flying.symm.trans ended) (by decide)
  calc state.finished round.position
    _ = Round.times round.position (((state.rounds.take index).filter Round.isOver) ++
        (state.rounds.drop (index + 1)).filter Round.isOver) := by
      rw [Interleaving.finished, before, List.filter_append,
        List.filter_cons_of_neg (by simp [flying]), ← before]
    _ = Round.times round.position ((state.rounds.take index).filter Round.isOver) := by
      rw [Round.times_append, Round.times_eq_nil _ _ none_behind, List.append_nil]
    _ = Round.times round.position (state.rounds.take index) :=
      Round.times_filter_isOver _ _ fun earlier member same =>
        alone.2.2 earlier member round List.mem_cons_self same

section Run

variable (config : ProviderConfig) (built : UInt64)
  (readers : List (Nat × TemporalityChoice × Bool)) (turns : List Turn)

theorem dated_run : ((start config built readers).run turns).Dated built readers.length := by
  refine run_keeps (Dated built readers.length)
    (fun state turn dated => dated.step (state.stepped turn)) _ ?_ turns
  intro position seated
  simp [start, stamp?, Provider.collector?, Provider.build, finished, Round.times, Table.under,
    greatest, seated]

theorem seated_run : ((start config built readers).run turns).provider.Seated :=
  run_keeps (fun state => state.provider.Seated) (fun state turn => (state.stepped turn).seated) _
    (Provider.seated_build config built readers) turns

theorem timely_run (steady : (start config built readers).steady turns = true) :
    ((start config built readers).run turns).Timely built := by
  refine obeys_keeps (Timely built) (fun _ turn timely => timely.step turn) _ ?_ turns steady
  exact ⟨UInt64.le_refl built, nofun, .nil⟩

theorem alone_run (serial : (start config built readers).serial turns = true) :
    ((start config built readers).run turns).Alone := by
  refine obeys_keeps Alone (fun _ turn alone => alone.step turn) _ ?_ turns serial
  exact .nil

end Run

end Interleaving

end Metering
