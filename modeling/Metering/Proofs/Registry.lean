import Mathlib.Data.List.Perm.Subperm
import Metering.Proofs.Table
import Metering.Registry

/-!
Registries under contention. A request for a component is a look-up and, when that found nothing,
an insertion that leaves an entry made meanwhile in place; between the two other callers may do
anything. A survey looks into the registry shard by shard, so components may be entered while it
is under way. Whatever the order of these steps, the registry is the list of the runs of its
factory: one run for each identity, in the order of the insertions.
-/

namespace Metering

/-- A component, told apart from all others by the run of the factory that made it. -/
structure Component (ν : Type) where
  run : Nat
  value : ν
  deriving DecidableEq, Repr

/-- A request for the component of a scope. One whose look-up found nothing has no answer yet. -/
structure Call (ν : Type) where
  scope : Scope
  answer? : Option (Component ν)
  deriving DecidableEq, Repr

/-- A walk through all shards of a registry. What it found is what a snapshot shows, and how much
it found is what a count answers. -/
structure Survey (ν : Type) where
  /-- How many shards it has looked into. -/
  passed : Nat := 0
  found : List (ScopeIdentity × Component ν) := []
  deriving DecidableEq, Repr

/-- A registry with the requests and surveys that were begun, oldest first. -/
structure Demand (ν : Type) where
  registry : Registry (Component ν) := .empty
  /-- The scopes that the factory was run with, in order. -/
  made : List Scope := []
  calls : List (Call ν) := []
  surveys : List (Survey ν) := []

namespace Demand

/-- What can happen next. -/
inductive Turn where
  /-- A new request looks its scope up. -/
  | look (scope : Scope)
  /-- The request at an index, if its look-up found nothing, inserts. -/
  | insert (index : Nat)
  /-- A new survey begins. -/
  | survey
  /-- The survey at an index looks into its next shard. -/
  | visit (index : Nat)

variable {ν : Type} {shards : Nat}

def look (state : Demand ν) (scope : Scope) : Demand ν :=
  { state with calls := state.calls ++ [⟨scope, state.registry.find? scope⟩] }

/-- Enters the component of a scope unless there is one; the factory runs only if there is none. -/
def insert (build : Scope → ν) (state : Demand ν) (index : Nat) : Demand ν :=
  match state.calls[index]? with
  | some ⟨scope, none⟩ =>
    let (registry, component, isNew) :=
      state.registry.insertIfAbsent scope fun scope => ⟨state.made.length, build scope⟩
    { state with
      registry
      made := if isNew then state.made ++ [scope] else state.made
      calls := state.calls.set index ⟨scope, some component⟩ }
  | _ => state

def visit (shard : ScopeIdentity → Fin shards) (state : Demand ν) (index : Nat) : Demand ν :=
  match state.surveys[index]? with
  | none => state
  | some survey =>
    if survey.passed < shards then
      let seen := state.registry.components.entries.filter fun entry =>
        (shard entry.1).val = survey.passed
      { state with surveys :=
          state.surveys.set index ⟨survey.passed + 1, survey.found ++ seen⟩ }
    else state

def step (build : Scope → ν) (shard : ScopeIdentity → Fin shards) (state : Demand ν) :
    Turn → Demand ν
  | .look scope => state.look scope
  | .insert index => state.insert build index
  | .survey => { state with surveys := state.surveys ++ [{}] }
  | .visit index => state.visit shard index

def run (build : Scope → ν) (shard : ScopeIdentity → Fin shards) (state : Demand ν)
    (turns : List Turn) : Demand ν :=
  turns.foldl (step build shard) state

theorem run_append (build : Scope → ν) (shard : ScopeIdentity → Fin shards) (state : Demand ν)
    (first second : List Turn) :
    state.run build shard (first ++ second) =
      (state.run build shard first).run build shard second :=
  List.foldl_append

/-- A request that nothing interrupts is one request of the registry. -/
theorem run_alone (build : Scope → ν) (shard : ScopeIdentity → Fin shards) (state : Demand ν)
    (scope : Scope) :
    let alone := state.run build shard [.look scope, .insert state.calls.length]
    let got := state.registry.get scope fun scope => ⟨state.made.length, build scope⟩
    alone.registry = got.1 ∧ alone.calls = state.calls ++ [⟨scope, some got.2.1⟩] := by
  intro alone got
  simp only [alone, got, run, List.foldl_cons, List.foldl_nil, step, look, insert,
    List.getElem?_concat_length]
  cases found : state.registry.find? scope with
  | some component => simp [Registry.get, found]
  | none => simp [Registry.get, Registry.insertIfAbsent, found]

/-- What one turn does to the registry, the runs of the factory and the requests. -/
inductive Stepped (build : Scope → ν) (state next : Demand ν) (turn : Turn) : Prop where
  | idle (registry : next.registry = state.registry) (made : next.made = state.made)
      (calls : next.calls = state.calls)
  | looked (scope : Scope) (registry : next.registry = state.registry)
      (made : next.made = state.made)
      (calls : next.calls = state.calls ++ [⟨scope, state.registry.find? scope⟩])
  /-- The request finds what another one has entered meanwhile. -/
  | met (index : Nat) (scope : Scope) (component : Component ν)
      (waiting : state.calls[index]? = some ⟨scope, none⟩)
      (found : state.registry.find? scope = some component)
      (registry : next.registry = state.registry) (made : next.made = state.made)
      (calls : next.calls = state.calls.set index ⟨scope, some component⟩)
  | entered (index : Nat) (scope : Scope) (inserts : turn = .insert index)
      (waiting : state.calls[index]? = some ⟨scope, none⟩)
      (absent : state.registry.find? scope = none)
      (registry : next.registry.components.entries = state.registry.components.entries ++
        [(scope.identity, ⟨state.made.length, build scope⟩)])
      (made : next.made = state.made ++ [scope])
      (calls : next.calls = state.calls.set index ⟨scope, some ⟨state.made.length, build scope⟩⟩)

theorem stepped (build : Scope → ν) (shard : ScopeIdentity → Fin shards) (state : Demand ν)
    (turn : Turn) : Stepped build state (state.step build shard turn) turn := by
  cases turn with
  | look scope => exact .looked scope rfl rfl rfl
  | insert index =>
    simp only [step]
    unfold insert
    split
    next scope waiting =>
      cases found : state.registry.find? scope with
      | some component =>
        refine .met index scope component waiting found ?_ ?_ ?_ <;>
          simp [Registry.insertIfAbsent, found]
      | none =>
        refine .entered index scope rfl waiting found ?_ ?_ ?_
        · simp only [Registry.insertIfAbsent, found]
          exact Table.entries_insert_of_absent _ _ _ found
        · simp [Registry.insertIfAbsent, found]
        · simp [Registry.insertIfAbsent, found]
    next => exact .idle rfl rfl rfl
  | survey => exact .idle rfl rfl rfl
  | visit index =>
    simp only [step]
    unfold visit
    split
    next => exact .idle rfl rfl rfl
    next => split <;> exact .idle rfl rfl rfl

/-- Whether a registry is the list of the runs of its factory, and every answer what it keeps. -/
structure Sound (build : Scope → ν) (state : Demand ν) : Prop where
  entries : state.registry.components.entries =
    state.made.mapIdx fun run scope => (scope.identity, ⟨run, build scope⟩)
  distinct : (state.made.map Scope.identity).Nodup
  answered : ∀ call ∈ state.calls, ∀ component, call.answer? = some component →
    state.registry.find? call.scope = some component
  /-- Every run of the factory answered the request that it was made for. -/
  inserted : ∀ run scope, state.made[run]? = some scope →
    ⟨scope, some ⟨run, build scope⟩⟩ ∈ state.calls

section Sound

variable {build : Scope → ν} {state : Demand ν}

theorem sound_start (build : Scope → ν) : Sound build {} :=
  ⟨rfl, List.nodup_nil, nofun, nofun⟩

theorem keys_made (build : Scope → ν) (made : List Scope) :
    (made.mapIdx fun run scope => (scope.identity, (⟨run, build scope⟩ : Component ν))).map (·.1) =
      made.map Scope.identity := by
  apply List.ext_getElem?
  intro index
  simp only [List.getElem?_map, List.getElem?_mapIdx, Option.map_map, Function.comp_def]

theorem Sound.keys (sound : state.Sound build) :
    state.registry.components.keys = state.made.map Scope.identity := by
  rw [Table.keys, sound.entries, keys_made]

theorem Sound.length (sound : state.Sound build) :
    state.registry.components.entries.length = state.made.length := by
  rw [sound.entries, List.length_mapIdx]

theorem Sound.apart (sound : state.Sound build) : state.registry.components.Distinct := by
  rw [Table.Distinct, sound.keys]
  exact sound.distinct

/-- A scope has the component that the factory made for its identity. -/
theorem Sound.find?_iff (sound : state.Sound build) (scope : Scope) (component : Component ν) :
    state.registry.find? scope = some component ↔
      ∃ maker, state.made[component.run]? = some maker ∧ maker.identity = scope.identity ∧
        component.value = build maker := by
  rw [Registry.find?, Table.get?_eq_some_iff _ sound.apart, sound.entries, List.mem_mapIdx]
  constructor
  · rintro ⟨run, inside, same⟩
    obtain ⟨identity, rfl⟩ := Prod.mk.inj same
    exact ⟨_, List.getElem?_eq_getElem inside, identity, rfl⟩
  · rintro ⟨maker, made, identity, value⟩
    obtain ⟨inside, there⟩ := List.getElem?_eq_some_iff.mp made
    exact ⟨component.run, inside, by rw [there, identity, ← value]⟩

theorem Sound.find?_eq_none (sound : state.Sound build) (scope : Scope)
    (absent : state.registry.find? scope = none) :
    scope.identity ∉ state.made.map Scope.identity := by
  rw [← sound.keys]
  exact (Table.lookup_eq_none_iff _ _).mp absent

end Sound

section Stepped

variable {build : Scope → ν} {state next : Demand ν} {turn : Turn}

/-- Components are only ever added. -/
theorem Stepped.entries (stepped : Stepped build state next turn) :
    state.registry.components.entries <+: next.registry.components.entries := by
  cases stepped with
  | idle registry => exact registry ▸ List.prefix_rfl
  | looked _ registry => exact registry ▸ List.prefix_rfl
  | met _ _ _ _ _ registry => exact registry ▸ List.prefix_rfl
  | entered _ _ _ _ _ registry => exact registry ▸ List.prefix_append _ _

/-- A request keeps its answer. -/
theorem Stepped.answer (stepped : Stepped build state next turn) (index : Nat) (scope : Scope)
    (component : Component ν) (answered : state.calls[index]? = some ⟨scope, some component⟩) :
    next.calls[index]? = some ⟨scope, some component⟩ := by
  have elsewhere : ∀ (other : Nat) (asked : Scope) (call : Call ν),
      state.calls[other]? = some ⟨asked, none⟩ →
        (state.calls.set other call)[index]? = some ⟨scope, some component⟩ := by
    intro other asked call waiting
    have different : other ≠ index := by
      rintro rfl
      rw [answered] at waiting
      cases waiting
    rw [List.getElem?_set_ne different, answered]
  cases stepped with
  | idle _ _ calls => rw [calls, answered]
  | looked _ _ _ calls =>
    have inside := (List.getElem?_eq_some_iff.mp answered).1
    rw [calls, List.getElem?_append_left inside, answered]
  | met other _ _ waiting _ _ _ calls => exact calls ▸ elsewhere other _ _ waiting
  | entered other _ _ waiting _ _ _ calls => exact calls ▸ elsewhere other _ _ waiting

/-- Behind a turn an answer is an old one, or what the registry has for the scope. -/
theorem Stepped.of_answer (stepped : Stepped build state next turn) (call : Call ν)
    (member : call ∈ next.calls) (component : Component ν)
    (answered : call.answer? = some component) :
    call ∈ state.calls ∨ state.registry.find? call.scope = some component ∨
      (call.scope.identity, component) ∈ next.registry.components.entries := by
  cases stepped with
  | idle _ _ calls => exact .inl (calls ▸ member)
  | looked scope _ _ calls =>
    rw [calls, List.mem_append, List.mem_singleton] at member
    rcases member with before | rfl
    · exact .inl before
    · exact .inr (.inl answered)
  | met index scope found _ there _ _ calls =>
    rw [calls] at member
    rcases List.mem_or_eq_of_mem_set member with before | rfl
    · exact .inl before
    · exact .inr (.inl (there.trans answered))
  | entered index scope _ _ _ registry _ calls =>
    rw [calls] at member
    rcases List.mem_or_eq_of_mem_set member with before | rfl
    · exact .inl before
    · cases answered
      exact .inr (.inr (registry ▸ List.mem_append_right _ (List.mem_singleton_self _)))

theorem Stepped.sound (stepped : Stepped build state next turn) (sound : state.Sound build) :
    next.Sound build := by
  have grows := stepped.entries
  have entries : next.registry.components.entries =
      next.made.mapIdx fun run scope => (scope.identity, ⟨run, build scope⟩) := by
    cases stepped with
    | idle registry made => rw [registry, made, sound.entries]
    | looked _ registry made => rw [registry, made, sound.entries]
    | met _ _ _ _ _ registry made => rw [registry, made, sound.entries]
    | entered _ _ _ _ _ registry made => rw [registry, made, sound.entries, List.mapIdx_concat]
  have distinct : (next.made.map Scope.identity).Nodup := by
    cases stepped with
    | idle _ made => exact made ▸ sound.distinct
    | looked _ _ made => exact made ▸ sound.distinct
    | met _ _ _ _ _ _ made => exact made ▸ sound.distinct
    | entered _ scope _ _ absent _ made =>
      have new := sound.find?_eq_none scope absent
      rw [made, List.map_append, List.map_singleton, List.nodup_append]
      refine ⟨sound.distinct, List.nodup_singleton _, ?_⟩
      intro other member last final same
      rw [same, List.mem_singleton.mp final] at member
      exact new member
  have apart : next.registry.components.Distinct := by
    rw [Table.Distinct, Table.keys, entries, keys_made]
    exact distinct
  refine ⟨entries, distinct, ?_, ?_⟩
  · intro call member component answered
    rw [Registry.find?, Table.get?_eq_some_iff _ apart]
    have kept : state.registry.find? call.scope = some component →
        (call.scope.identity, component) ∈ next.registry.components.entries := by
      intro found
      exact grows.subset ((Table.get?_eq_some_iff _ sound.apart _ _).mp found)
    rcases stepped.of_answer call member component answered with before | found | entered
    · exact kept (sound.answered call before component answered)
    · exact kept found
    · exact entered
  · intro run scope made
    have lasting : ∀ scope, state.made[run]? = some scope →
        ⟨scope, some ⟨run, build scope⟩⟩ ∈ next.calls := by
      intro scope made
      obtain ⟨index, found⟩ := List.getElem?_of_mem (sound.inserted run scope made)
      exact List.mem_of_getElem? (stepped.answer index scope _ found)
    cases stepped with
    | idle _ same => exact lasting scope (same ▸ made)
    | looked _ _ same => exact lasting scope (same ▸ made)
    | met _ _ _ _ _ _ same => exact lasting scope (same ▸ made)
    | entered index asked _ waiting _ _ grown calls =>
      rw [grown] at made
      by_cases inside : run < state.made.length
      · rw [List.getElem?_append_left inside] at made
        exact lasting scope made
      · obtain ⟨rfl, rfl⟩ : run = state.made.length ∧ scope = asked := by
          have bound := (List.getElem?_eq_some_iff.mp made).1
          rw [List.length_append, List.length_singleton] at bound
          have last : run = state.made.length := by omega
          subst last
          rw [List.getElem?_concat_length] at made
          exact ⟨rfl, (Option.some.inj made).symm⟩
        rw [calls]
        exact List.mem_of_getElem?
          (List.getElem?_set_self (List.getElem?_eq_some_iff.mp waiting).1)

end Stepped

section Run

variable (build : Scope → ν) (shard : ScopeIdentity → Fin shards)

theorem sound_run (state : Demand ν) (sound : state.Sound build) (turns : List Turn) :
    (state.run build shard turns).Sound build := by
  induction turns generalizing state with
  | nil => exact sound
  | cons turn rest ih => exact ih _ ((stepped build shard state turn).sound sound)

theorem entries_run (state : Demand ν) (turns : List Turn) :
    state.registry.components.entries <+:
      (state.run build shard turns).registry.components.entries := by
  induction turns generalizing state with
  | nil => exact List.prefix_rfl
  | cons turn rest ih => exact (stepped build shard state turn).entries.trans (ih _)

theorem answer_run (state : Demand ν) (turns : List Turn) (index : Nat) (scope : Scope)
    (component : Component ν) (answered : state.calls[index]? = some ⟨scope, some component⟩) :
    (state.run build shard turns).calls[index]? = some ⟨scope, some component⟩ := by
  induction turns generalizing state with
  | nil => exact answered
  | cons turn rest ih =>
    exact ih _ ((stepped build shard state turn).answer index scope component answered)

end Run

section Survey

variable {shard : ScopeIdentity → Fin shards}

/-- Whether a survey has found, in the shards that it has looked into, all that was there at its
beginning and nothing but what is there now. -/
structure Covers (shard : ScopeIdentity → Fin shards)
    (before now : List (ScopeIdentity × Component ν)) (survey : Survey ν) : Prop where
  present : ∀ entry ∈ survey.found, entry ∈ now ∧ (shard entry.1).val < survey.passed
  apart : (survey.found.map (·.1)).Nodup
  complete : ∀ entry ∈ before, (shard entry.1).val < survey.passed → entry ∈ survey.found

theorem covers_begin (entries : List (ScopeIdentity × Component ν)) :
    Covers shard entries entries {} :=
  ⟨nofun, List.nodup_nil, fun _ _ behind => absurd behind (Nat.not_lt_zero _)⟩

variable {before now : List (ScopeIdentity × Component ν)} {survey : Survey ν}

theorem Covers.later (covers : Covers shard before now survey)
    {later : List (ScopeIdentity × Component ν)} (grows : now ⊆ later) :
    Covers shard before later survey :=
  ⟨fun entry member => ⟨grows (covers.present entry member).1, (covers.present entry member).2⟩,
    covers.apart, covers.complete⟩

/-- The next shard has nothing that was found in earlier ones. -/
theorem Covers.visit (covers : Covers shard before now survey) (old : before ⊆ now)
    (distinct : (now.map (·.1)).Nodup) :
    Covers shard before now ⟨survey.passed + 1, survey.found ++
      now.filter fun entry => (shard entry.1).val = survey.passed⟩ := by
  constructor
  case present =>
    intro entry member
    rcases List.mem_append.mp member with earlier | here
    · obtain ⟨there, behind⟩ := covers.present entry earlier
      exact ⟨there, Nat.lt_succ_of_lt behind⟩
    · obtain ⟨there, same⟩ := List.mem_filter.mp here
      exact ⟨there, Nat.lt_succ_of_le (Nat.le_of_eq (of_decide_eq_true same))⟩
  case apart =>
    rw [List.map_append, List.nodup_append]
    refine ⟨covers.apart, (List.filter_sublist.map _).nodup distinct, ?_⟩
    intro identity earlier other here same
    obtain ⟨first, found, rfl⟩ := List.mem_map.mp earlier
    obtain ⟨second, seen, rfl⟩ := List.mem_map.mp here
    have behind := (covers.present first found).2
    have current := of_decide_eq_true (List.mem_filter.mp seen).2
    rw [same] at behind
    omega
  case complete =>
    intro entry member behind
    rcases Nat.lt_or_eq_of_le (Nat.le_of_lt_succ behind) with earlier | current
    · exact List.mem_append_left _ (covers.complete entry member earlier)
    · exact List.mem_append_right _
        (List.mem_filter.mpr ⟨old member, decide_eq_true current⟩)

section Over

variable (covers : Covers shard before now survey) (ended : shards ≤ survey.passed)
include covers ended

theorem Covers.subset : before ⊆ survey.found := fun entry member =>
  covers.complete entry member (Nat.lt_of_lt_of_le (shard entry.1).isLt ended)

/-- What was there at the beginning of a survey that is over was found once. -/
theorem Covers.filter_found {identity : ScopeIdentity} {component : Component ν}
    (member : (identity, component) ∈ before) :
    (survey.found.filter fun entry => entry.1 = identity) = [(identity, component)] := by
  rw [Table.filter_key _ _ covers.apart,
    (Table.lookup_eq_some_iff _ _ _ covers.apart).mpr (covers.subset ended member)]
  rfl

theorem Covers.length_between (distinct : (before.map (·.1)).Nodup) :
    before.length ≤ survey.found.length ∧ survey.found.length ≤ now.length := by
  constructor
  · exact (List.subperm_of_subset (distinct.of_map _) (covers.subset ended)).length_le
  · exact (List.subperm_of_subset (covers.apart.of_map _)
      fun entry member => (covers.present entry member).1).length_le

/-- A survey during which nothing is entered finds what there is. -/
theorem Covers.perm (distinct : (before.map (·.1)).Nodup) (same : now = before) :
    survey.found.Perm before := by
  rw [List.perm_ext_iff_of_nodup (covers.apart.of_map _) (distinct.of_map _)]
  exact fun entry => ⟨fun member => same ▸ (covers.present entry member).1,
    fun member => covers.subset ended member⟩

end Over

variable (build : Scope → ν)

/-- A turn leaves a survey as it is unless it takes it into its next shard. -/
theorem surveys_step (state : Demand ν) (turn : Turn) (index : Nat)
    (found : state.surveys[index]? = some survey) :
    (state.step build shard turn).surveys[index]? = some survey ∨
      (survey.passed < shards ∧
        (state.step build shard turn).registry = state.registry ∧
        (state.step build shard turn).surveys[index]? = some ⟨survey.passed + 1, survey.found ++
          state.registry.components.entries.filter fun entry =>
            (shard entry.1).val = survey.passed⟩) := by
  have inside := (List.getElem?_eq_some_iff.mp found).1
  cases turn with
  | look scope => exact .inl found
  | insert other =>
    simp only [step]
    unfold Demand.insert
    split <;> exact .inl found
  | survey => exact .inl ((List.getElem?_append_left inside).trans found)
  | visit other =>
    simp only [step]
    unfold Demand.visit
    by_cases same : other = index
    · subst same
      rw [found]
      dsimp only
      split
      next left => exact .inr ⟨left, rfl, List.getElem?_set_self inside⟩
      next => exact .inl found
    · split
      next => exact .inl found
      next =>
        split
        next => exact .inl ((List.getElem?_set_ne same).trans found)
        next => exact .inl found

theorem covers_run (state : Demand ν) (sound : state.Sound build) (turns : List Turn) (index : Nat)
    (found : state.surveys[index]? = some survey)
    (covers : Covers shard before state.registry.components.entries survey)
    (old : before ⊆ state.registry.components.entries) :
    ∃ later, (state.run build shard turns).surveys[index]? = some later ∧
      Covers shard before (state.run build shard turns).registry.components.entries later := by
  induction turns generalizing state survey with
  | nil => exact ⟨survey, found, covers⟩
  | cons turn rest ih =>
    have next := stepped build shard state turn
    have grows := next.entries.subset
    rcases surveys_step build state turn index found with
      same | ⟨_, registry, visited⟩
    · exact ih _ (next.sound sound) same (covers.later grows) (List.Subset.trans old grows)
    · refine ih _ (next.sound sound) visited ?_ (List.Subset.trans old grows)
      rw [registry]
      exact covers.visit old sound.apart

/-- A survey that is over stays as it is. -/
theorem over_run (state : Demand ν) (turns : List Turn) (index : Nat)
    (found : state.surveys[index]? = some survey) (ended : shards ≤ survey.passed) :
    (state.run build shard turns).surveys[index]? = some survey := by
  induction turns generalizing state with
  | nil => exact found
  | cons turn rest ih =>
    rcases surveys_step build state turn index found with same | ⟨left, _⟩
    · exact ih _ same
    · exact absurd ended (Nat.not_le_of_lt left)

end Survey

/-- How the requests and surveys that are made of a registry are served. -/
structure Unique (build : Scope → ν) (shard : ScopeIdentity → Fin shards) (turns : List Turn) :
    Prop where
  /-- The factory runs once for each identity whose component is answered, and for no other. -/
  once : ((run build shard {} turns).made.map Scope.identity).Nodup
  wanted : ∀ identity, identity ∈ (run build shard {} turns).made.map Scope.identity ↔
    ∃ call ∈ (run build shard {} turns).calls, call.scope.identity = identity ∧
      call.answer?.isSome
  /-- It runs in an insertion that finds nothing, with the scope of the request, attributes
  included, and what it makes is the answer to the request. -/
  runs : ∀ before turn after, turns = before ++ turn :: after →
    let state := run build shard {} before
    let next := run build shard {} (before ++ [turn])
    next.made = state.made ∨ ∃ index scope, turn = .insert index ∧
      state.calls[index]? = some ⟨scope, none⟩ ∧ state.registry.find? scope = none ∧
      next.made = state.made ++ [scope] ∧
      next.calls[index]? = some ⟨scope, some ⟨state.made.length, build scope⟩⟩
  /-- A request is answered by its look-up or else by its insertion, and keeps its answer. -/
  returns : ∀ before index after scope, turns = before ++ .insert index :: after →
    (run build shard {} before).calls[index]? = some ⟨scope, none⟩ →
      ∃ component, (run build shard {} (before ++ [.insert index])).calls[index]? =
        some ⟨scope, some component⟩
  lasting : ∀ before after (index : Nat) (call : Call ν), turns = before ++ after →
    call.answer?.isSome → (run build shard {} before).calls[index]? = some call →
      (run build shard {} turns).calls[index]? = some call
  /-- Its answer is the component that was made for its identity. -/
  answers : ∀ call ∈ (run build shard {} turns).calls, ∀ component,
    call.answer? = some component → ∃ maker,
      (run build shard {} turns).made[component.run]? = some maker ∧
        maker.identity = call.scope.identity ∧ component.value = build maker
  /-- Two requests have the same answer, whenever they are made, if they are for one identity. -/
  same : ∀ first ∈ (run build shard {} turns).calls, ∀ second ∈ (run build shard {} turns).calls,
    ∀ one two, first.answer? = some one → second.answer? = some two →
      (one = two ↔ first.scope.identity = second.scope.identity)
  snapshot : (run build shard {} turns).registry.snapshot =
    (run build shard {} turns).made.mapIdx fun run scope => ⟨run, build scope⟩
  size : (run build shard {} turns).registry.size = (run build shard {} turns).made.length
  /-- A survey goes on to the end, and what it then has found stays as it is: one component for
  each identity that was there at its beginning, and no other than were there at its end. -/
  advances : ∀ before index after survey, turns = before ++ .visit index :: after →
    (run build shard {} before).surveys[index]? = some survey → survey.passed < shards →
      ∃ later, (run build shard {} (before ++ [.visit index])).surveys[index]? = some later ∧
        later.passed = survey.passed + 1
  surveyed : ∀ before during after survey, turns = before ++ .survey :: (during ++ after) →
    let begun := run build shard {} before
    let closing := run build shard {} (before ++ .survey :: during)
    closing.surveys[begun.surveys.length]? = some survey → shards ≤ survey.passed →
      (run build shard {} turns).surveys[begun.surveys.length]? = some survey ∧
      (survey.found.map (·.1)).Nodup ∧
      (∀ scope component, begun.registry.find? scope = some component →
        (survey.found.filter fun entry => entry.1 = scope.identity) =
          [(scope.identity, component)]) ∧
      (∀ entry ∈ survey.found, entry ∈ closing.registry.components.entries) ∧
      begun.made.length ≤ survey.found.length ∧ survey.found.length ≤ closing.made.length ∧
      (closing.made.length = begun.made.length →
        (survey.found.map (·.2)).Perm begun.registry.snapshot)

theorem unique (build : Scope → ν) (shard : ScopeIdentity → Fin shards) (turns : List Turn) :
    Unique build shard turns := by
  have sound := fun turns => sound_run build shard {} (sound_start build) turns
  have turned : ∀ before turn, run build shard {} (before ++ [turn]) =
      (run build shard {} before).step build shard turn := by
    intro before turn
    rw [run_append]
    rfl
  constructor
  case once => exact (sound turns).distinct
  case wanted =>
    intro identity
    constructor
    · intro member
      obtain ⟨scope, made, rfl⟩ := List.mem_map.mp member
      obtain ⟨run, there⟩ := List.getElem?_of_mem made
      exact ⟨_, (sound turns).inserted run scope there, rfl, rfl⟩
    · rintro ⟨call, member, rfl, answered⟩
      obtain ⟨component, answer⟩ := Option.isSome_iff_exists.mp answered
      have found := (sound turns).answered call member component answer
      obtain ⟨maker, made, identity, _⟩ := ((sound turns).find?_iff _ _).mp found
      exact List.mem_map.mpr ⟨maker, List.mem_of_getElem? made, identity⟩
  case runs =>
    intro before turn after _ state next
    have stepped := stepped build shard state turn
    rw [← turned before turn] at stepped
    cases stepped with
    | idle _ made => exact .inl made
    | looked _ _ made => exact .inl made
    | met _ _ _ _ _ _ made => exact .inl made
    | entered index scope inserts waiting absent _ made calls =>
      refine .inr ⟨index, scope, inserts, waiting, absent, made, ?_⟩
      exact calls ▸ List.getElem?_set_self (List.getElem?_eq_some_iff.mp waiting).1
  case returns =>
    intro before index after scope _ waiting
    have inside := (List.getElem?_eq_some_iff.mp waiting).1
    rw [turned]
    simp only [step, insert, waiting]
    exact ⟨_, List.getElem?_set_self inside⟩
  case lasting =>
    rintro before after index ⟨scope, answer?⟩ split answered found
    obtain ⟨component, rfl⟩ := Option.isSome_iff_exists.mp answered
    rw [split, run_append]
    exact answer_run build shard _ after index scope component found
  case answers =>
    intro call member component answer
    exact ((sound turns).find?_iff _ _).mp ((sound turns).answered call member component answer)
  case same =>
    intro first here second there one two answer answer'
    have found := (sound turns).answered first here one answer
    have found' := (sound turns).answered second there two answer'
    constructor
    · rintro rfl
      obtain ⟨maker, made, identity, _⟩ := ((sound turns).find?_iff _ _).mp found
      obtain ⟨other, made', identity', _⟩ := ((sound turns).find?_iff _ _).mp found'
      cases made.symm.trans made'
      exact identity.symm.trans identity'
    · intro identity
      rw [Registry.find?, identity] at found
      exact Option.some.inj (found.symm.trans found')
  case snapshot =>
    rw [Registry.snapshot, Table.values, (sound turns).entries]
    apply List.ext_getElem?
    intro index
    simp only [List.getElem?_map, List.getElem?_mapIdx, Option.map_map, Function.comp_def]
  case size =>
    exact (sound turns).length
  case advances =>
    intro before index after survey _ found left
    have inside := (List.getElem?_eq_some_iff.mp found).1
    rw [turned]
    simp only [step, visit, found, if_pos left]
    exact ⟨_, List.getElem?_set_self inside, rfl⟩
  case surveyed =>
    intro before during after survey split begun closing found complete
    have early : begun.Sound build := sound before
    have late : closing.Sound build := sound (before ++ .survey :: during)
    have first : closing = (begun.step build shard .survey).run build shard during :=
      run_append _ _ _ _ _
    have fresh : (begun.step build shard .survey).surveys[begun.surveys.length]? = some {} :=
      List.getElem?_concat_length
    obtain ⟨later, there, covers⟩ := covers_run build (begun.step build shard .survey)
      ((stepped build shard begun .survey).sound early) during _ fresh (covers_begin _)
      (List.Subset.refl _)
    rw [← first] at there covers
    cases found.symm.trans there
    change Covers shard begun.registry.components.entries _ survey at covers
    have between := covers.length_between complete early.apart
    rw [early.length, late.length] at between
    refine ⟨?_, covers.apart, ?_, fun entry member => (covers.present entry member).1, between.1,
      between.2, ?_⟩
    · rw [split, ← List.cons_append, ← List.append_assoc, run_append]
      exact over_run build closing after _ found complete
    · intro scope component known
      exact covers.filter_found complete ((Table.get?_eq_some_iff _ early.apart _ _).mp known)
    · intro quiet
      have grown : begun.registry.components.entries <+: closing.registry.components.entries :=
        first ▸ entries_run build shard begun (.survey :: during)
      have same := grown.eq_of_length (by rw [early.length, late.length, quiet])
      exact (covers.perm complete early.apart same.symm).map _

end Demand

end Metering
