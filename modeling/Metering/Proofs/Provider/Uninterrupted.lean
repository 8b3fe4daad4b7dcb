import Metering.Proofs.Provider.Passes

/-!
Collections that nothing interrupts. What a collection does in one go, with the callbacks of its
meters, it also does step by step, when what happens in between is what the callbacks do. So what
holds of every interleaving holds of the collections of a provider.
-/

namespace Metering

/-- Whether a turn is one that the collection at an index takes, or that one of its callbacks may
bring about. -/
def Turn.belongs (index : Nat) : Turn → Bool
  | .request _ _ | .create _ _ _ | .measure _ _ _ _ => true
  | .advance other _ => other = index
  | _ => false

namespace Round

/-- A collection that has read some streams of a meter and has yet to read others. -/
def reads (round : Round) (scope : ScopeIdentity) (keys : List String) (metrics : List Metric) :
    Round :=
  { round with phase := .reading scope keys metrics }

theorem advance_entered (round : Round) (scope : ScopeIdentity) (rest : List ScopeIdentity)
    (provider : Provider) (phase : round.phase = .between) (ahead : round.ahead = scope :: rest) :
    round.advance ⟨[], provider.streamKeys scope⟩ provider =
      (provider, { round with ahead := rest }.reads scope (provider.streamKeys scope) []) := by
  simp [advance, phase, ahead, reads]

theorem advance_found (position : Nat) (time : UInt64) (provider : Provider) :
    ({ position, time } : Round).advance ⟨provider.registry.components.keys, []⟩ provider =
      (provider, ⟨position, time, .between, provider.registry.components.keys, []⟩) :=
  if_pos (List.Perm.refl _)

end Round

namespace Interleaving

section Leads

variable {index : Nat} {now : UInt64}

/-- Whether the collection at an index and its callbacks can take one provider, and the collection
as it is there, to another at a time of the clock. -/
def Leads (index : Nat) (now : UInt64) (before after : Provider × Round) : Prop :=
  ∃ turns : List Turn, turns.all (Turn.belongs index) = true ∧ ∀ rounds : List Round,
    rounds[index]? = some before.2 → run ⟨before.1, now, rounds⟩ turns =
      ⟨after.1, now, rounds.set index after.2⟩

theorem set_found {rounds : List Round} {round : Round} (found : rounds[index]? = some round) :
    rounds.set index round = rounds := by
  obtain ⟨inside, here⟩ := List.getElem?_eq_some_iff.mp found
  rw [← here, List.set_getElem_self]

theorem Leads.refl (state : Provider × Round) : Leads index now state state :=
  ⟨[], rfl, fun rounds found => by rw [set_found found]; rfl⟩

theorem Leads.trans {first second third : Provider × Round} (begins : Leads index now first second)
    (ends : Leads index now second third) : Leads index now first third := by
  obtain ⟨early, own, leads⟩ := begins
  obtain ⟨late, own', follows⟩ := ends
  refine ⟨early ++ late, ?_, fun rounds found => ?_⟩
  · rw [List.all_append, own, own', Bool.and_true]
  · have inside := (List.getElem?_eq_some_iff.mp found).1
    have there : (rounds.set index second.2)[index]? = some second.2 :=
      List.getElem?_set_self inside
    rw [run_append, leads rounds found, follows _ there, List.set_set]

/-- A step of the collection. -/
theorem leads_advance (index : Nat) (now : UInt64) (provider : Provider) (round : Round)
    (order : Order) : Leads index now (provider, round) (round.advance order provider) := by
  refine ⟨[.advance index order], by simp [Turn.belongs], fun rounds found => ?_⟩
  change advance _ index order = _
  unfold advance
  rw [found]

end Leads

theorem belongs_of_byCallback {scope : ScopeIdentity} {turn : Turn} (index : Nat)
    (inside : turn.ByCallback scope) : turn.belongs index = true := by
  cases turn <;> first | rfl | cases inside

/-- What the callbacks of a meter do may happen turn by turn. -/
theorem leads_runObservers {index : Nat} {now : UInt64} (round : Round) (provider : Provider)
    (cells : Cells) (scope : ScopeIdentity) :
    Leads index now (provider, round) ((provider.runObservers now cells scope).1, round) := by
  let callbacks := provider.callbacks scope
  refine ⟨provider.callsTurns now cells scope callbacks, ?_, fun rounds found => ?_⟩
  · rw [List.all_eq_true]
    intro turn member
    exact belongs_of_byCallback index
      (Provider.byCallback_callsTurns now cells scope provider callbacks turn member)
  · rw [run_callsTurns, set_found found, Provider.runObservers_eq]

section Reading

variable (index : Nat) (now : UInt64) {round : Round} {scope : ScopeIdentity}

/-- Streams are read one by one until none is left. -/
theorem leads_reads (provider : Provider) (keys : List String) (metrics : List Metric) :
    let read := provider.enactAll ⟨.empty, round.position, round.time, scope⟩ (keys.map .read)
    Leads index now (provider, round.reads scope keys metrics)
      (read.1, round.reads scope [] (metrics ++ read.2.1)) := by
  intro read
  induction keys generalizing provider metrics with
  | nil =>
    have nothing : metrics ++ read.2.1 = metrics := List.append_nil metrics
    rw [nothing]
    exact .refl _
  | cons key rest ih =>
    have first := leads_advance index now provider (round.reads scope (key :: rest) metrics) {}
    have second := ih (provider.readStream round.position round.time scope key).1
      (metrics ++ (provider.readStream round.position round.time scope key).2.toList)
    simp only [List.append_assoc] at second
    exact first.trans second

/-- A collection takes its next meter in one go. -/
theorem leads_readMeter {meets : Stream → Prop} (provider : Provider)
    (sound : provider.Sound meets) (rest : List ScopeIdentity) (phase : round.phase = .between)
    (ahead : round.ahead = scope :: rest) :
    let read := provider.readMeter round.position round.time scope
    Leads index now (provider, round) (read.1,
      { round with ahead := rest, scopes := round.scopes ++ read.2.toList }) := by
  intro read
  have entered := leads_advance index now provider round ⟨[], provider.streamKeys scope⟩
  rw [round.advance_entered scope rest provider phase ahead] at entered
  have same : read = _ :=
    (Provider.readMeter_eq ⟨.empty, round.position, round.time, scope⟩ sound).1
  refine (entered.trans (leads_reads index now provider _ _)).trans ?_
  rw [same, phase]
  exact leads_advance index now _ ({ round with ahead := rest }.reads scope [] _) {}

end Reading

section Collection

variable {index : Nat} {cells : Cells}

/-- What a collection and its callbacks do leaves a provider sound. -/
theorem Leads.sound {now : UInt64} {before after : Provider × Round}
    (leads : Leads index now before after) (sound : before.1.Sound fun _ => True) :
    after.1.Sound fun _ => True := by
  obtain ⟨turns, _, runs⟩ := leads
  have there : (List.replicate (index + 1) before.2)[index]? = some before.2 := by simp
  have reached := sound_run ⟨before.1, now, List.replicate (index + 1) before.2⟩
    (Stream.rule_true _) sound turns
  rwa [runs _ there] at reached

/-- A collection takes the meters that it has found one after the other. -/
theorem leads_collectMeters (index : Nat) (cells : Cells) (position : Nat) (time : UInt64)
    (ahead : List ScopeIdentity) (scopes : List ScopeReport) (provider : Provider)
    (sound : provider.Sound fun _ => True) :
    Leads index time (provider, ⟨position, time, .between, ahead, scopes⟩)
      ((Provider.collectMeters cells position time provider ahead).1,
        ⟨position, time, .between, [],
          scopes ++ (Provider.collectMeters cells position time provider ahead).2.1⟩) := by
  induction ahead generalizing provider scopes with
  | nil =>
    rw [Provider.collectMeters, List.append_nil]
    exact .refl _
  | cons scope rest ih =>
    let called := (provider.runObservers time cells scope).1
    let read := called.readMeter position time scope
    let round : Round := ⟨position, time, .between, scope :: rest, scopes⟩
    have calls : Leads index time (provider, round) (called, round) :=
      leads_runObservers round provider cells scope
    have reads : Leads index time (called, round)
        (read.1, ⟨position, time, .between, rest, scopes ++ read.2.toList⟩) :=
      leads_readMeter index time called (calls.sound sound) rest rfl rfl
    have later := ih (scopes ++ read.2.toList) read.1 (reads.sound (calls.sound sound))
    rw [List.append_assoc] at later
    exact (calls.trans reads).trans later

/-- What a rule allows of a collection and its callbacks, a run of theirs obeys. -/
theorem obeys_belongs {rule : Interleaving → Turn → Bool} (state : Interleaving)
    (turns : List Turn) (own : turns.all (Turn.belongs index) = true)
    (allowed : ∀ state turn, Turn.belongs index turn = true → rule state turn = true) :
    state.obeys rule turns = true := by
  induction turns generalizing state with
  | nil => rfl
  | cons turn rest ih =>
    rw [List.all_cons, Bool.and_eq_true] at own
    rw [obeys, allowed state turn own.1, ih (state.step turn) own.2]
    rfl

/-- A collection that answers with a report is a run of turns: it begins, takes its steps with what
its callbacks do, and is over with the same report and the same provider. -/
theorem run_collect (state : Interleaving) (sound : state.provider.Sound fun _ => True)
    (position : Nat) (next : Provider) (report : Report) (events : List Event)
    (answered : state.provider.collect cells state.clock position = (next, .ok report, events)) :
    ∃ turns, turns.all (Turn.belongs state.rounds.length) = true ∧
      state.run (.begin position :: turns) = ⟨next, state.clock, state.rounds ++
        [{ position, time := state.clock, phase := .over, scopes := report.scopes }]⟩ := by
  unfold Provider.collect at answered
  split at answered
  next => cases answered
  next there =>
    split at answered
    next => cases answered
    next seated =>
      have reader : (state.provider.collector? position).isSome := by
        rw [Option.isSome_iff_ne_none]
        exact fun nothing => seated (by rw [nothing]; rfl)
      cases answered
      let begun : Round := { position, time := state.clock }
      let scopes := state.provider.registry.components.keys
      let taken := Provider.collectMeters cells position state.clock state.provider scopes
      have begins : state.begin position = { state with rounds := state.rounds ++ [begun] } := by
        unfold begin
        rw [Option.isNone_eq_false_iff.mpr reader, Bool.or_false, if_neg there]
      have finds : Leads state.rounds.length state.clock (state.provider, begun)
          (state.provider, ⟨position, state.clock, .between, scopes, []⟩) := by
        rw [← Round.advance_found]
        exact leads_advance ..
      have takes := leads_collectMeters state.rounds.length cells position
        state.clock scopes [] state.provider sound
      have ends : Leads state.rounds.length state.clock
          (taken.1, ⟨position, state.clock, .between, [], taken.2.1⟩)
          (taken.1.finish position state.clock, ⟨position, state.clock, .over, [], taken.2.1⟩) :=
        leads_advance _ _ _ _ {}
      obtain ⟨turns, own, runs⟩ := (finds.trans takes).trans ends
      refine ⟨turns, own, ?_⟩
      change (state.begin position).run turns = _
      have last : (state.rounds ++ [begun])[state.rounds.length]? = some begun :=
        List.getElem?_concat_length
      rw [begins, runs _ last, List.set_append_right _ _ (Nat.le_refl _), Nat.sub_self]
      rfl

/-- Such a run keeps the clock where it is, and does not overlap with collections that are over. -/
theorem obeys_collect (state : Interleaving) (position : Nat) (turns : List Turn)
    (own : turns.all (Turn.belongs state.rounds.length) = true) :
    state.steady (.begin position :: turns) = true ∧
      ((∀ round ∈ state.rounds, round.position = position → round.isOver = true) →
        state.serial (.begin position :: turns) = true) := by
  have calm : (state.step (.begin position)).steady turns = true := by
    refine obeys_belongs _ turns own fun state turn belongs => ?_
    cases turn <;> first | rfl | cases belongs
  have apart : (state.step (.begin position)).serial turns = true := by
    refine obeys_belongs _ turns own fun state turn belongs => ?_
    cases turn <;> first | rfl | cases belongs
  refine ⟨calm, fun closed => ?_⟩
  have allowed : (state.rounds.all fun round => round.position ≠ position || round.isOver) = true :=
    List.all_eq_true.mpr fun round member => by
      by_cases same : round.position = position <;> simp [same, closed round member]
  exact Bool.and_eq_true_iff.mpr ⟨allowed, apart⟩

end Collection

end Interleaving

end Metering
