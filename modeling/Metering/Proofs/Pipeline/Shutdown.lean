import Mathlib.Logic.ExistsUnique
import Metering.Proofs.Pipeline.Requests

/-!
Shutting a provider down. Callers race for the provider's flag; the one that sets it asks the
readers one after the other and answers a code that follows all of theirs, and every other caller
returns at once. The last handle of a provider is dropped after all calls have returned.
-/

namespace Metering

open Completion

/-- How a provider can be shut down: by its shutdown or close, on any of its handles, and by
dropping the last handle. -/
inductive ClosingCall where
  | shutdown
  | close
  | drop
  deriving DecidableEq, Repr

/-- How far a call has come. -/
inductive ClosingStage where
  | fresh
  /-- A drop that has found the provider still running. -/
  | dropping
  /-- It has set the flag, and so many readers have answered with their codes. -/
  | asking (answers : List CodeId)
  /-- It has answered a code that follows those of the readers. -/
  | tracking (answers : List CodeId) (code : CodeId)
  /-- It has found the flag set and answered a code of its own. -/
  | refused (code : CodeId)
  /-- A drop that has found the provider shut down. -/
  | skipped
  deriving DecidableEq, Repr

namespace ClosingStage

/-- Whether a call has returned, or goes on to wait for its code only. -/
def isOver : ClosingStage → Bool
  | .tracking _ _ => true
  | .refused _ => true
  | .skipped => true
  | _ => false

/-- Whether the readers of a provider have been asked by this call, or are being asked. -/
def isWinner : ClosingStage → Bool
  | .asking _ => true
  | .tracking _ _ => true
  | _ => false

def code? : ClosingStage → Option CodeId
  | .tracking _ code => some code
  | .refused code => some code
  | _ => none

/-- How many steps of its own a call of a provider with so many readers has ahead of it. -/
def left (readers : Nat) : ClosingStage → Nat
  | .fresh => readers + 3
  | .dropping => readers + 2
  | .asking answers => readers + 1 - answers.length
  | _ => 0

end ClosingStage

/-- Calls that shut a provider down, and the readers asked so far by their positions. -/
structure Closing where
  pipeline : Pipeline
  calls : List (ClosingCall × ClosingStage)
  asked : List Nat := []

/-- What happens meanwhile: a call goes on, a caller waits for its code, a thread goes on, time
passes, somebody completes another code or follows an instruction. -/
inductive ClosingEvent where
  | advance (call : Nat)
  | wait (call : Nat)
  | work (reader : Nat)
  | pass (nanos : Nat)
  | complete (code : CodeId) (outcome : Outcome)
  | follow (command : Command)

def ClosingEvent.advances (index : Nat) : ClosingEvent → Bool
  | .advance call => call == index
  | _ => false

namespace Closing

def begin (pipeline : Pipeline) (calls : List ClosingCall) : Closing :=
  { pipeline, calls := calls.map (·, .fresh) }

def setStage (closing : Closing) (index : Nat) (call : ClosingCall) (stage : ClosingStage) :
    Closing :=
  { closing with calls := closing.calls.set index (call, stage) }

/-- A call sets the provider's flag, unless it is set. -/
def claim (closing : Closing) (provider index : Nat) (call : ClosingCall) : Closing :=
  match closing.pipeline.providers[provider]? with
  | none => closing
  | some target =>
    if target.isShutdown then
      let (pipeline, code) := (closing.pipeline.note [.shutdownRepeated]).newCode .succeeded
      { closing with pipeline }.setStage index call (.refused code)
    else
      { closing with
        pipeline := closing.pipeline.setProvider provider { target with isShutdown := true } }
        |>.setStage index call (.asking [])

/-- A call asks the next reader; when all have answered, its code follows theirs. -/
def ask (closing : Closing) (provider index : Nat) (call : ClosingCall)
    (answers : List CodeId) : Closing :=
  match closing.pipeline.providers[provider]? with
  | none => closing
  | some target =>
    match target.bindings[answers.length]? with
    | some binding =>
      let (pipeline, code) := closing.pipeline.shutdownBinding binding
      { closing with pipeline, asked := closing.asked ++ [answers.length] }
        |>.setStage index call (.asking (answers ++ [code]))
    | none =>
      let (codes, code) := closing.pipeline.codes.allOf answers
      { closing with pipeline := { closing.pipeline with codes } }
        |>.setStage index call (.tracking answers code)

/-- Whether all calls but one have returned. -/
def othersOver (closing : Closing) (index : Nat) : Bool :=
  (closing.calls.eraseIdx index).all (·.2.isOver)

/-- The drop of the last handle looks at the flag first; it comes after all calls on handles. -/
def drop (closing : Closing) (provider index : Nat) : Closing :=
  match closing.pipeline.providers[provider]? with
  | none => closing
  | some target =>
    if !closing.othersOver index then closing
    else if target.isShutdown then
      { closing with pipeline := closing.pipeline.note [.providerDroppedAfterShutdown] }
        |>.setStage index .drop .skipped
    else
      { closing with pipeline := closing.pipeline.note [.providerDropped] }
        |>.setStage index .drop .dropping

def advance (closing : Closing) (provider index : Nat) : Closing :=
  match closing.calls[index]? with
  | some (.drop, .fresh) => closing.drop provider index
  | some (call, .fresh) =>
    { closing with pipeline := closing.pipeline.note [.shutdownRequested] }
      |>.claim provider index call
  | some (call, .dropping) => closing.claim provider index call
  | some (call, .asking answers) => closing.ask provider index call answers
  | _ => closing

/-- The readers that have been asked, each of them shielded or not. -/
def asks (closing : Closing) (outlets : List (Nat × Bool)) : List (Nat × Bool) :=
  closing.asked.filterMap (outlets[·]?)

/-- The codes that calls have answered. -/
def codes (closing : Closing) : List CodeId := closing.calls.filterMap (·.2.code?)

def step (closing : Closing) (provider : Nat) : ClosingEvent → Closing
  | .advance call => closing.advance provider call
  | .wait call =>
    match (closing.calls[call]?).bind (·.2.code?) with
    | none => closing
    | some code =>
      { closing with pipeline := closing.pipeline.join code Pipeline.closeTimeout }
  | .work reader => { closing with pipeline := closing.pipeline.stepWorker reader }
  | .pass nanos =>
    { closing with pipeline := { closing.pipeline with time := closing.pipeline.time + nanos } }
  | .complete code outcome =>
    if code ∈ closing.codes ∨ closing.pipeline.codes.cells.length ≤ code then closing
    else { closing with pipeline := closing.pipeline.complete code outcome }
  | .follow command =>
    { closing with pipeline :=
        { closing.pipeline with codes := closing.pipeline.codes.run command } }

def run (closing : Closing) (provider : Nat) (events : List ClosingEvent) : Closing :=
  events.foldl (fun closing event => closing.step provider event) closing

section Alone

variable {pipeline : Pipeline} {provider : Nat} {target : Provider}

/-- A call that has set the flag and is not interrupted asks all readers left. -/
theorem run_asking_alone (call : ClosingCall) (rest : List Binding) (answers : List CodeId)
    (asked : List Nat) (found : pipeline.providers[provider]? = some target)
    (ahead : target.bindings.drop answers.length = rest) :
    let told := Pipeline.requestAll Pipeline.shutdownBinding pipeline rest
    let made := told.1.codes.allOf (answers ++ told.2)
    Closing.run { pipeline, calls := [(call, .asking answers)], asked } provider
        (List.replicate (rest.length + 1) (.advance 0)) =
      { pipeline := { told.1 with codes := made.1 }
        calls := [(call, .tracking (answers ++ told.2) made.2)]
        asked := asked ++ List.range' answers.length rest.length } := by
  induction rest generalizing pipeline answers asked with
  | nil =>
    have none : target.bindings[answers.length]? = none :=
      List.getElem?_eq_none_iff.mpr (List.drop_eq_nil_iff.mp ahead)
    simp [Closing.run, Closing.step, Closing.advance, Closing.ask, found, none,
      Pipeline.requestAll, Closing.setStage]
  | cons binding rest ih =>
    have next : target.bindings[answers.length]? = some binding := by
      rw [← List.head?_drop, ahead, List.head?_cons]
    have later : target.bindings.drop (answers ++ [(pipeline.shutdownBinding binding).2]).length =
        rest := by
      rw [List.length_append, List.length_singleton, ← List.tail_drop, ahead, List.tail_cons]
    have goesOn := ih (answers ++ [(pipeline.shutdownBinding binding).2])
      (asked ++ [answers.length]) ((pipeline.providers_shutdownBinding binding) ▸ found) later
    have asks : Closing.step { pipeline, calls := [(call, .asking answers)], asked } provider
        (.advance 0) =
        { pipeline := (pipeline.shutdownBinding binding).1
          calls := [(call, .asking (answers ++ [(pipeline.shutdownBinding binding).2]))]
          asked := asked ++ [answers.length] } := by
      simp [Closing.step, Closing.advance, Closing.ask, found, next, Closing.setStage]
    rw [List.length_cons, List.replicate_succ, Closing.run, List.foldl_cons, asks]
    refine goesOn.trans ?_
    simp [Pipeline.requestAll, List.range'_succ]

/-- A shutdown that is not interrupted is what a provider's shutdown does. -/
theorem run_shutdown_alone (found : pipeline.providers[provider]? = some target)
    (running : target.isShutdown = false) :
    ∃ answers, (Closing.begin pipeline [.shutdown]).run provider
        (List.replicate (target.bindings.length + 2) (.advance 0)) =
      { pipeline := (pipeline.shutdown provider).1
        calls := [(.shutdown, .tracking answers (pipeline.shutdown provider).2)]
        asked := List.range target.bindings.length } := by
  let flagged := (pipeline.note [.shutdownRequested]).setProvider provider
    { target with isShutdown := true }
  have there : flagged.providers[provider]? = some { target with isShutdown := true } :=
    List.getElem?_set_self (List.getElem?_eq_some_iff.mp found).1
  have claims : (Closing.begin pipeline [.shutdown]).step provider (.advance 0) =
      { pipeline := flagged, calls := [(.shutdown, .asking [])] } := by
    have noted : (pipeline.note [.shutdownRequested]).providers[provider]? = some target := found
    simp [Closing.begin, Closing.step, Closing.advance, Closing.claim, noted, running,
      Closing.setStage, flagged]
  have shutdown : pipeline.shutdown provider =
      flagged.broadcast target.bindings Pipeline.shutdownBinding := by
    have noted : (pipeline.note [.shutdownRequested]).providers[provider]? = some target := found
    simp [Pipeline.shutdown, Pipeline.shutdownOnce, noted, running, flagged]
  have asks := run_asking_alone .shutdown target.bindings [] [] there rfl
  refine ⟨(Pipeline.requestAll Pipeline.shutdownBinding flagged target.bindings).2, ?_⟩
  rw [List.replicate_succ, Closing.run, List.foldl_cons, claims, shutdown, List.range_eq_range']
  exact asks

end Alone

/-- Whether a call is the one that asks the readers. -/
def Wins (closing : Closing) (index : Nat) : Prop :=
  ∃ call stage, closing.calls[index]? = some (call, stage) ∧ stage.isWinner = true

/-- What the stage of a call says about the readers and about its code. -/
def Stands (closing : Closing) (outlets : List (Nat × Bool)) : ClosingStage → Prop
  | .asking answers => closing.asked = List.range answers.length ∧
      answers.length ≤ outlets.length ∧
      ∀ answer ∈ answers, answer < closing.pipeline.codes.cells.length
  | .tracking answers code => closing.asked = List.range outlets.length ∧
      answers.length = outlets.length ∧ closing.pipeline.Watches answers code
  | .refused code => code < closing.pipeline.codes.cells.length ∧
      closing.pipeline.codes.outcome code = .succeeded
  | _ => True

/-- The calls on a provider with certain readers: at most one of them has set the flag, and only
that one asks the readers. -/
structure Sound (provider : Nat) (outlets : List (Nat × Bool)) (closing : Closing) : Prop where
  closed : closing.pipeline.Closed
  stands : ∃ target, closing.pipeline.providers[provider]? = some target ∧
    target.standing.2 = outlets ∧ (target.isShutdown = true ↔ ∃ index, closing.Wins index)
  unique : ∀ first second, closing.Wins first → closing.Wins second → first = second
  untold : (∀ index, ¬closing.Wins index) → closing.asked = []
  staged : ∀ call stage, (call, stage) ∈ closing.calls → closing.Stands outlets stage
  finished : ∀ call stage, (call, stage) ∈ closing.calls → stage.isOver = true →
    ∃ index, closing.Wins index
  /-- The drop of the last handle finds the flag set, unless there has been no call before. -/
  last : ∀ stage, (.drop, stage) ∈ closing.calls →
    stage = .fresh ∨ stage = .skipped ∨ closing.calls.length = 1

section Stages

variable {closing : Closing} {index : Nat} {call : ClosingCall} {old stage : ClosingStage}
  (found : closing.calls[index]? = some (call, old))

include found

theorem wins_setStage (other : Nat) :
    (closing.setStage index call stage).Wins other ↔
      if other = index then stage.isWinner = true else closing.Wins other := by
  have inside := (List.getElem?_eq_some_iff.mp found).1
  by_cases same : other = index
  · subst same
    rw [Wins, setStage, List.getElem?_set_self inside, if_pos rfl]
    exact ⟨fun ⟨_, _, here, winner⟩ => by cases here; exact winner,
      fun winner => ⟨call, stage, rfl, winner⟩⟩
  · simp [Wins, setStage, same, List.getElem?_set_ne (Ne.symm same)]

theorem mem_setStage {entry : ClosingCall × ClosingStage}
    (member : entry ∈ (closing.setStage index call stage).calls) :
    entry = (call, stage) ∨ ∃ other, other ≠ index ∧ closing.calls[other]? = some entry := by
  have inside := (List.getElem?_eq_some_iff.mp found).1
  obtain ⟨other, there⟩ := List.getElem?_of_mem member
  by_cases same : other = index
  · subst same
    rw [setStage, List.getElem?_set_self inside] at there
    exact .inl (Option.some.inj there).symm
  · rw [setStage, List.getElem?_set_ne (Ne.symm same)] at there
    exact .inr ⟨other, same, there⟩

end Stages

namespace Sound

variable {provider : Nat} {outlets : List (Nat × Bool)} {closing : Closing}
  (sound : Sound provider outlets closing)

include sound

/-- The calls are where they were while something else goes on. -/
theorem goOn {after : Pipeline} {spared : CodeId → Prop}
    (goes : closing.pipeline.Continues after spared)
    (safe : ∀ call answers code, (call, .tracking answers code) ∈ closing.calls → spared code) :
    Sound provider outlets { closing with pipeline := after } := by
  constructor
  case closed => exact goes.closed
  case stands =>
    obtain ⟨target, found, outlet, flag⟩ := sound.stands
    have same := goes.kept.providers provider
    rw [found] at same
    obtain ⟨later, there, standing⟩ := Option.map_eq_some_iff.mp same
    refine ⟨later, there, standing ▸ outlet, ?_⟩
    have flags : later.isShutdown = target.isShutdown := congrArg Prod.fst standing
    rw [flags]
    exact flag
  case unique => exact sound.unique
  case untold => exact sound.untold
  case staged =>
    intro call stage member
    have before := sound.staged call stage member
    cases stage with
    | asking answers =>
      exact ⟨before.1, before.2.1, fun answer listed =>
        Nat.lt_of_lt_of_le (before.2.2 answer listed) goes.longer⟩
    | tracking answers code =>
      exact ⟨before.1, before.2.1, goes.watches answers code (safe call answers code member)
        before.2.2⟩
    | refused code =>
      exact ⟨Nat.lt_of_lt_of_le before.1 goes.longer,
        (goes.done code before.1 (by simp [before.2])).trans before.2⟩
    | _ => trivial
  case finished => exact sound.finished
  case last => exact sound.last

/-- A call moves to another stage. Only the call that has set the flag can have asked more. -/
theorem setStage {index : Nat} {call : ClosingCall} {old stage : ClosingStage} {asked : List Nat}
    (found : closing.calls[index]? = some (call, old)) (same : stage.isWinner = old.isWinner)
    (silent : asked = closing.asked ∨ old.isWinner = true)
    (stands : { closing with asked }.Stands outlets stage)
    (finished : stage.isOver = true → ∃ index, closing.Wins index)
    (last : call = .drop → stage = .skipped ∨ closing.calls.length = 1) :
    Sound provider outlets ({ closing with asked }.setStage index call stage) := by
  have wins : ∀ other, ({ closing with asked }.setStage index call stage).Wins other ↔
      closing.Wins other := by
    intro other
    refine (wins_setStage found other).trans ?_
    by_cases here : other = index
    · subst here
      rw [if_pos rfl, same]
      exact ⟨fun winner => ⟨call, old, found, winner⟩, fun ⟨_, _, there, winner⟩ => by
        cases found.symm.trans there
        exact winner⟩
    · rw [if_neg here]
  constructor
  case closed => exact sound.closed
  case stands =>
    simp only [wins]
    exact sound.stands
  case unique => simpa only [wins] using sound.unique
  case untold =>
    simp only [wins]
    intro nobody
    rcases silent with same | winner
    · exact same.trans (sound.untold nobody)
    · exact absurd ⟨call, old, found, winner⟩ (nobody index)
  case staged =>
    intro other now member
    rcases mem_setStage found member with here | ⟨place, apart, there⟩
    · cases here
      exact stands
    · have before := sound.staged other now (List.mem_of_getElem? there)
      have alike : now.isWinner = true → asked = closing.asked := fun wins =>
        silent.resolve_right fun winner =>
          apart (sound.unique place index ⟨other, now, there, wins⟩ ⟨call, old, found, winner⟩)
      cases now with
      | asking answers => exact ⟨(alike rfl).trans before.1, before.2⟩
      | tracking answers code => exact ⟨(alike rfl).trans before.1, before.2⟩
      | refused code => exact before
      | _ => trivial
  case finished =>
    intro other now member ended
    simp only [wins]
    rcases List.mem_or_eq_of_mem_set member with before | here
    · exact sound.finished other now before ended
    · cases here
      exact finished ended
  case last =>
    intro now member
    rw [Closing.setStage, List.length_set]
    rcases List.mem_or_eq_of_mem_set member with before | here
    · exact sound.last now before
    · cases here
      exact .inr (last rfl)

/-- A call reaches the flag: the first one sets it. -/
theorem claim {index : Nat} {call : ClosingCall} {old : ClosingStage}
    (found : closing.calls[index]? = some (call, old)) (idle : old.isWinner = false)
    (last : call = .drop → closing.calls.length = 1) :
    Sound provider outlets (closing.claim provider index call) := by
  obtain ⟨target, there, outlet, flag⟩ := sound.stands
  simp only [Closing.claim, there]
  split
  next shut =>
    have noted := Pipeline.Continues.note sound.closed [.shutdownRepeated]
    have added := Pipeline.Continues.newCode noted.closed .succeeded
    have went := sound.goOn (noted.trans added) fun _ _ _ _ => trivial
    refine went.setStage found idle.symm (.inl rfl) ⟨?_, ?_⟩ (fun _ => flag.mp shut)
      fun drop => .inr (last drop)
    · exact closing.pipeline.codes.length_create .succeeded ▸ Nat.lt_succ_self _
    · exact closing.pipeline.codes.outcome_create .succeeded
  next running =>
    have nobody : ∀ index, ¬closing.Wins index := fun index wins =>
      running (flag.mpr ⟨index, wins⟩)
    have wins : ∀ stage, stage.isWinner = true → ∀ other,
        (closing.setStage index call stage).Wins other ↔ other = index := by
      intro stage winner other
      rw [wins_setStage found]
      by_cases here : other = index
      · simp [here, winner]
      · simp [here, nobody other]
    have won := wins (.asking []) rfl
    constructor
    case closed => exact ⟨sound.closed.codes, sound.closed.held⟩
    case stands =>
      refine ⟨{ target with isShutdown := true }, ?_, outlet, iff_of_true rfl
        ⟨index, (won index).mpr rfl⟩⟩
      exact List.getElem?_set_self (List.getElem?_eq_some_iff.mp there).1
    case unique =>
      exact fun first second begins ends =>
        ((won first).mp begins).trans ((won second).mp ends).symm
    case untold => exact fun none => absurd ((won index).mpr rfl) (none index)
    case staged =>
      intro other now member
      rcases mem_setStage found member with here | ⟨place, apart, there⟩
      · cases here
        exact ⟨sound.untold nobody, Nat.zero_le _, nofun⟩
      · have before := sound.staged other now (List.mem_of_getElem? there)
        cases now with
        | asking answers => exact absurd ⟨other, _, there, rfl⟩ (nobody place)
        | tracking answers code => exact absurd ⟨other, _, there, rfl⟩ (nobody place)
        | refused code => exact before
        | _ => trivial
    case finished => exact fun _ _ _ _ => ⟨index, (won index).mpr rfl⟩
    case last =>
      intro now member
      have longer : (closing.calls.set index (call, .asking [])).length = closing.calls.length :=
        List.length_set
      rcases List.mem_or_eq_of_mem_set member with before | here
      · exact (sound.last now before).imp_right (.imp_right longer.trans)
      · cases here
        exact .inr (.inr (longer.trans (last rfl)))

/-- The call that has set the flag asks the next reader, or makes its code from their answers. -/
theorem ask {index : Nat} {call : ClosingCall} {answers : List CodeId}
    (found : closing.calls[index]? = some (call, .asking answers)) :
    Sound provider outlets (closing.ask provider index call answers) := by
  obtain ⟨target, there, outlet, flag⟩ := sound.stands
  obtain ⟨asked, few, known⟩ := sound.staged call _ (List.mem_of_getElem? found)
  have winner : closing.Wins index := ⟨call, _, found, rfl⟩
  have readers : outlets.length = target.bindings.length := by
    rw [← outlet, Provider.standing, List.length_map]
  have last : call = .drop → closing.calls.length = 1 := by
    rintro rfl
    rcases sound.last _ (List.mem_of_getElem? found) with early | late | alone
    · cases early
    · cases late
    · exact alone
  simp only [Closing.ask, there]
  split
  next binding next =>
    have told := Pipeline.asked_shutdownBinding sound.closed binding
    have went := sound.goOn told.goes fun other finals code member => by
      obtain ⟨place, here⟩ := List.getElem?_of_mem member
      have same := sound.unique place index ⟨other, _, here, rfl⟩ winner
      rw [same, found] at here
      cases here
    refine went.setStage found rfl (.inr rfl) ⟨?_, ?_, ?_⟩
      (fun never => absurd never Bool.false_ne_true) fun drop => .inr (last drop)
    · rw [asked, List.length_append, List.length_singleton, List.range_succ]
    · rw [List.length_append, readers]
      exact (List.getElem?_eq_some_iff.mp next).1
    · intro answer listed
      rcases List.mem_append.mp listed with old | new
      · exact Nat.lt_of_lt_of_le (known answer old) told.goes.longer
      · cases List.mem_singleton.mp new
        exact told.inside
  next none =>
    have all : answers.length = outlets.length :=
      Nat.le_antisymm few (readers ▸ List.getElem?_eq_none_iff.mp none)
    have went := sound.goOn (Pipeline.Continues.allOf sound.closed known) fun _ _ _ _ => trivial
    refine went.setStage found rfl (.inr rfl) ⟨all ▸ asked, all, ?_, ?_⟩ (fun _ => ⟨index, winner⟩)
      fun drop => .inr (last drop)
    · exact sound.closed.codes.allOf known
    · exact fun member => Nat.lt_irrefl _ (sound.closed.held _ member)

/-- The drop of the last handle looks at the flag. -/
theorem drop {index : Nat} (found : closing.calls[index]? = some (.drop, .fresh)) :
    Sound provider outlets (closing.drop provider index) := by
  obtain ⟨target, there, outlet, flag⟩ := sound.stands
  simp only [Closing.drop, there]
  split
  next => exact sound
  next others =>
    split
    next shut =>
      have noted := Pipeline.Continues.note sound.closed [.providerDroppedAfterShutdown]
      have went := sound.goOn noted fun _ _ _ _ => trivial
      exact went.setStage found rfl (.inl rfl) trivial (fun _ => flag.mp shut) fun _ => .inl rfl
    next running =>
      have noted := Pipeline.Continues.note sound.closed [.providerDropped]
      have went := sound.goOn noted fun _ _ _ _ => trivial
      refine went.setStage found rfl (.inl rfl) trivial nofun fun _ => .inr ?_
      -- Another call that is over would have left the flag set.
      have none : closing.calls.eraseIdx index = [] := by
        refine List.eq_nil_iff_forall_not_mem.mpr fun entry member => running (flag.mpr ?_)
        have returned : entry.2.isOver = true := by
          have all : closing.othersOver index = true := by simpa using others
          exact List.all_eq_true.mp all entry member
        exact sound.finished entry.1 entry.2 (List.mem_of_mem_eraseIdx member) returned
      have shorter := List.length_eraseIdx_of_lt (List.getElem?_eq_some_iff.mp found).1
      have inside := (List.getElem?_eq_some_iff.mp found).1
      rw [none, List.length_nil] at shorter
      show closing.calls.length = 1
      omega

theorem advance (index : Nat) : Sound provider outlets (closing.advance provider index) := by
  unfold Closing.advance
  split
  next found => exact sound.drop found
  next call other found =>
    have noted := Pipeline.Continues.note sound.closed [.shutdownRequested]
    have went := sound.goOn noted fun _ _ _ _ => trivial
    exact went.claim found rfl fun drop => absurd drop other
  next call found =>
    refine sound.claim found rfl ?_
    rintro rfl
    rcases sound.last _ (List.mem_of_getElem? found) with early | late | alone
    · cases early
    · cases late
    · exact alone
  next call answers found => exact sound.ask found
  next => exact sound

theorem step (event : ClosingEvent) : Sound provider outlets (closing.step provider event) := by
  cases event with
  | advance call => exact sound.advance call
  | wait call =>
    unfold Closing.step
    dsimp only
    split
    next => exact sound
    next code _ =>
      exact sound.goOn (.join sound.closed code _) fun _ _ _ _ => trivial
  | work reader => exact sound.goOn (.stepWorker sound.closed reader) fun _ _ _ _ => trivial
  | pass nanos => exact sound.goOn (.setTime sound.closed _) fun _ _ _ _ => trivial
  | complete code outcome =>
    unfold Closing.step
    dsimp only
    split
    next => exact sound
    next free =>
      rw [not_or, Nat.not_le] at free
      refine sound.goOn (.complete sound.closed free.2 outcome) ?_
      rintro call answers other member rfl
      exact free.1 (List.mem_filterMap.mpr ⟨_, member, rfl⟩)
  | follow command => exact sound.goOn (.run sound.closed command) fun _ _ _ _ => trivial

theorem run (events : List ClosingEvent) :
    Sound provider outlets (closing.run provider events) := by
  induction events generalizing closing with
  | nil => exact sound
  | cons event rest ih => exact ih (sound.step event)

end Sound

theorem Sound.begin {pipeline : Pipeline} {provider : Nat} {target : Provider}
    (closed : pipeline.Closed) (found : pipeline.providers[provider]? = some target)
    (running : target.isShutdown = false) (calls : List ClosingCall) :
    Sound provider target.standing.2 (Closing.begin pipeline calls) := by
  have fresh : ∀ call stage, (call, stage) ∈ (Closing.begin pipeline calls).calls →
      stage = .fresh := by
    intro call stage member
    obtain ⟨_, _, same⟩ := List.mem_map.mp member
    cases same
    rfl
  have nobody : ∀ index, ¬(Closing.begin pipeline calls).Wins index := by
    rintro index ⟨call, stage, there, winner⟩
    cases fresh call stage (List.mem_of_getElem? there)
    cases winner
  constructor
  case closed => exact closed
  case stands =>
    exact ⟨target, found, rfl, iff_of_false (running ▸ Bool.false_ne_true)
      fun ⟨index, wins⟩ => nobody index wins⟩
  case unique => exact fun first _ wins => absurd wins (nobody first)
  case untold => exact fun _ => rfl
  case staged =>
    intro call stage member
    cases fresh call stage member
    trivial
  case finished =>
    intro call stage member finished
    cases fresh call stage member
    cases finished
  case last => exact fun stage member => .inl (fresh .drop stage member)

/-- Whether the shutdowns that have reached readers meanwhile are those that calls have asked for. -/
def Tells (outlets : List (Nat × Bool)) (before after : Closing) : Prop :=
  ∃ more, after.asked = before.asked ++ more ∧
    before.pipeline.Reached after.pipeline fun reader =>
      (more.filterMap (outlets[·]?)).count (reader, false)

section Tells

variable {provider : Nat} {outlets : List (Nat × Bool)} {closing : Closing}

theorem Tells.of_asked {before after : Closing} (asked : after.asked = before.asked)
    (reached : before.pipeline.Reached after.pipeline fun _ => 0) : Tells outlets before after :=
  ⟨[], by rw [List.append_nil, asked], reached⟩

theorem Tells.trans {first second third : Closing} (begins : Tells outlets first second)
    (ends : Tells outlets second third) : Tells outlets first third := by
  obtain ⟨early, asked, reached⟩ := begins
  obtain ⟨late, further, more⟩ := ends
  refine ⟨early ++ late, by rw [further, asked, List.append_assoc], ?_⟩
  refine (reached.trans more).congr fun reader => ?_
  rw [List.filterMap_append, List.count_append]

theorem tells_claim (closing : Closing) (provider index : Nat) (call : ClosingCall) :
    Tells outlets closing (closing.claim provider index call) := by
  unfold claim
  split
  next => exact .of_asked rfl (.of_readers rfl)
  next => split <;> exact .of_asked rfl (.of_readers rfl)

theorem tells_drop (closing : Closing) (provider index : Nat) :
    Tells outlets closing (closing.drop provider index) := by
  unfold drop
  split
  next => exact .of_asked rfl (.of_readers rfl)
  next =>
    split
    next => exact .of_asked rfl (.of_readers rfl)
    next => split <;> exact .of_asked rfl (.of_readers rfl)

/-- A reader is asked at its position, and asking it is what reaches it. -/
theorem Sound.tells_ask (sound : Sound provider outlets closing) (index : Nat)
    (call : ClosingCall) (answers : List CodeId) :
    Tells outlets closing (closing.ask provider index call answers) := by
  obtain ⟨target, there, outlet, _⟩ := sound.stands
  simp only [Closing.ask, there]
  split
  next binding next =>
    have place : outlets[answers.length]? = some (binding.reader, binding.shielded) := by
      rw [← outlet, Provider.standing, List.getElem?_map, next]
      rfl
    refine ⟨[answers.length], rfl, ?_⟩
    refine (closing.pipeline.reached_shutdownBinding binding).congr fun reader => ?_
    rw [List.filterMap_cons_some place, List.filterMap_nil]
  next => exact .of_asked rfl (.of_readers rfl)

theorem Sound.tells_step (sound : Sound provider outlets closing) (event : ClosingEvent) :
    Tells outlets closing (closing.step provider event) := by
  cases event with
  | advance index =>
    simp only [Closing.step, Closing.advance]
    split
    next => exact tells_drop closing provider index
    next call _ _ =>
      have noted : Tells outlets closing
          { closing with pipeline := closing.pipeline.note [.shutdownRequested] } :=
        .of_asked rfl (.of_readers rfl)
      exact noted.trans (tells_claim _ provider index call)
    next call _ => exact tells_claim closing provider index call
    next call answers _ => exact sound.tells_ask index call answers
    next => exact .of_asked rfl (.of_readers rfl)
  | wait call =>
    unfold Closing.step
    dsimp only
    split
    next => exact .of_asked rfl (.of_readers rfl)
    next code _ => exact .of_asked rfl (closing.pipeline.reached_join code _)
  | work reader => exact .of_asked rfl (closing.pipeline.reached_stepWorker reader)
  | pass nanos => exact .of_asked rfl (.of_readers rfl)
  | complete code outcome =>
    unfold Closing.step
    dsimp only
    split <;> exact .of_asked rfl (.of_readers rfl)
  | follow command => exact .of_asked rfl (.of_readers rfl)

theorem Sound.tells_run (sound : Sound provider outlets closing) (events : List ClosingEvent) :
    Tells outlets closing (closing.run provider events) := by
  induction events generalizing closing with
  | nil => exact .of_asked rfl (.of_readers rfl)
  | cons event rest ih => exact (sound.tells_step event).trans (ih (sound.step event))

end Tells

section Progress

variable {provider : Nat} {outlets : List (Nat × Bool)} {closing : Closing}

theorem calls_claim (closing : Closing) (provider index : Nat) (call : ClosingCall)
    {target : Provider} (there : closing.pipeline.providers[provider]? = some target)
    (readers : Nat) :
    ∃ stage, (closing.claim provider index call).calls = closing.calls.set index (call, stage) ∧
      stage.left readers ≤ readers + 1 := by
  simp only [claim, there]
  split
  next => exact ⟨_, rfl, Nat.zero_le _⟩
  next => exact ⟨_, rfl, Nat.le_refl _⟩

/-- What a step of a call's own makes of the calls. Only a drop may have to wait. -/
theorem Sound.calls_advance (sound : Sound provider outlets closing) {index : Nat}
    {call : ClosingCall} {old : ClosingStage} (found : closing.calls[index]? = some (call, old)) :
    ∃ stage, (closing.advance provider index).calls = closing.calls.set index (call, stage) ∧
      (call = .drop ∧ closing.othersOver index = false ∨
        stage.left outlets.length ≤ old.left outlets.length - 1) := by
  obtain ⟨target, there, _⟩ := sound.stands
  cases old with
  | fresh =>
    by_cases drop : call = .drop
    · subst drop
      simp only [Closing.advance, found, Closing.drop, there]
      cases others : closing.othersOver index with
      | false => exact ⟨.fresh, (Pipeline.set_same found).symm, .inl ⟨trivial, rfl⟩⟩
      | true =>
        simp only [Bool.not_true, Bool.false_eq_true, if_false]
        split
        next => exact ⟨_, rfl, .inr (Nat.zero_le _)⟩
        next => exact ⟨_, rfl, .inr (Nat.le_refl _)⟩
    · have step : closing.advance provider index =
          { closing with pipeline := closing.pipeline.note [.shutdownRequested] }.claim provider
            index call := by
        simp only [Closing.advance, found]
      obtain ⟨stage, calls, fewer⟩ :=
        { closing with pipeline := closing.pipeline.note [.shutdownRequested] }.calls_claim
          provider index call there outlets.length
      exact ⟨stage, step ▸ calls, .inr (Nat.le_succ_of_le fewer)⟩
  | dropping =>
    obtain ⟨stage, calls, fewer⟩ :=
      closing.calls_claim provider index call there outlets.length
    refine ⟨stage, ?_, .inr fewer⟩
    simpa only [Closing.advance, found] using calls
  | asking answers =>
    simp only [Closing.advance, found, Closing.ask, there]
    split
    next =>
      refine ⟨_, rfl, .inr ?_⟩
      simp only [ClosingStage.left, List.length_append, List.length_singleton]
      omega
    next => exact ⟨_, rfl, .inr (Nat.zero_le _)⟩
  | tracking answers code =>
    refine ⟨.tracking answers code, ?_, .inr (Nat.zero_le _)⟩
    simp only [Closing.advance, found, Pipeline.set_same found]
  | refused code =>
    refine ⟨.refused code, ?_, .inr (Nat.zero_le _)⟩
    simp only [Closing.advance, found, Pipeline.set_same found]
  | skipped =>
    refine ⟨.skipped, ?_, .inr (Nat.zero_le _)⟩
    simp only [Closing.advance, found, Pipeline.set_same found]

theorem othersOver_of_alone {index : Nat} {entry : ClosingCall × ClosingStage}
    (found : closing.calls[index]? = some entry) (alone : closing.calls.length = 1) :
    closing.othersOver index = true := by
  have inside := (List.getElem?_eq_some_iff.mp found).1
  have none : closing.calls.eraseIdx index = [] := List.eq_nil_of_length_eq_zero (by
    rw [List.length_eraseIdx_of_lt inside, alone])
  rw [othersOver, none, List.all_nil]

/-- What any step makes of a call that need not wait for others. -/
theorem Sound.calls_step (sound : Sound provider outlets closing) {index : Nat}
    {call : ClosingCall} {old : ClosingStage} (found : closing.calls[index]? = some (call, old))
    (free : call ≠ .drop ∨ closing.calls.length = 1) (event : ClosingEvent) :
    ∃ stage, (closing.step provider event).calls[index]? = some (call, stage) ∧
      (closing.step provider event).calls.length = closing.calls.length ∧
      stage.left outlets.length ≤
        old.left outlets.length - if event.advances index then 1 else 0 := by
  have still : (closing.step provider event).calls = closing.calls →
      event.advances index = false → ∃ stage,
        (closing.step provider event).calls[index]? = some (call, stage) ∧
        (closing.step provider event).calls.length = closing.calls.length ∧
        stage.left outlets.length ≤
          old.left outlets.length - if event.advances index then 1 else 0 :=
    fun same other => ⟨old, same ▸ found, by rw [same], by simp [other]⟩
  cases event with
  | advance place =>
    by_cases here : place = index
    · subst here
      obtain ⟨stage, calls, waits | fewer⟩ := sound.calls_advance found
      · rcases free with other | alone
        · exact absurd waits.1 other
        · rw [othersOver_of_alone found alone] at waits
          cases waits.2
      · refine ⟨stage, ?_, ?_, ?_⟩
        · rw [Closing.step, calls, List.getElem?_set_self (List.getElem?_eq_some_iff.mp found).1]
        · rw [Closing.step, calls, List.length_set]
        · simpa [ClosingEvent.advances] using fewer
    · have elsewhere : (ClosingEvent.advance place).advances index = false :=
        beq_eq_false_iff_ne.mpr here
      cases there : closing.calls[place]? with
      | none => exact still (by simp only [Closing.step, Closing.advance, there]) elsewhere
      | some entry =>
        obtain ⟨stage, calls, _⟩ := sound.calls_advance there
        refine ⟨old, ?_, ?_, by simp [elsewhere]⟩
        · rw [Closing.step, calls, List.getElem?_set_ne here, found]
        · rw [Closing.step, calls, List.length_set]
  | wait other =>
    refine still ?_ rfl
    rw [Closing.step]
    split <;> rfl
  | complete code outcome =>
    refine still ?_ rfl
    rw [Closing.step]
    split <;> rfl
  | work reader => exact still rfl rfl
  | pass nanos => exact still rfl rfl
  | follow command => exact still rfl rfl

theorem Sound.calls_run (sound : Sound provider outlets closing) {index : Nat}
    {call : ClosingCall} {old : ClosingStage} (found : closing.calls[index]? = some (call, old))
    (free : call ≠ .drop ∨ closing.calls.length = 1) (events : List ClosingEvent) :
    ∃ stage, (closing.run provider events).calls[index]? = some (call, stage) ∧
      stage.left outlets.length ≤
        old.left outlets.length - events.countP (·.advances index) := by
  -- What is left for the call falls with each of its own turns and never rises.
  induction events generalizing closing old with
  | nil => exact ⟨old, found, Nat.le_refl _⟩
  | cons event rest ih =>
    obtain ⟨stage, there, length, fewer⟩ := sound.calls_step found free event
    obtain ⟨last, present, less⟩ := ih (sound.step event) there (length ▸ free)
    refine ⟨last, present, ?_⟩
    rw [List.countP_cons]
    omega

/-- A call with nothing ahead of it is over. -/
theorem Sound.over_of_left (sound : Sound provider outlets closing) {call : ClosingCall}
    {stage : ClosingStage} (member : (call, stage) ∈ closing.calls)
    (none : stage.left outlets.length = 0) : stage.isOver = true := by
  cases stage with
  | asking answers =>
    have few := (sound.staged call _ member).2.1
    rw [ClosingStage.left] at none
    omega
  | fresh => cases none
  | dropping => cases none
  | _ => rfl

end Progress

/-- What the calls on a provider with certain readers, shielded or not, have come to. One of them
asks the readers, in their order, and the code that it answers follows theirs; the others answer
codes that have succeeded. -/
structure ReachesOnce (before : Pipeline) (outlets : List (Nat × Bool)) (closing : Closing) :
    Prop where
  /-- Every reader shows the shutdowns that it has been asked for and no other ones. -/
  told : before.Reached closing.pipeline fun reader => (closing.asks outlets).count (reader, false)
  untold : (∀ call stage, (call, stage) ∈ closing.calls → stage.isWinner = false) →
    closing.asked = []
  asking : ∀ call answers, (call, .asking answers) ∈ closing.calls →
    closing.asked = List.range answers.length ∧ answers.length ≤ outlets.length
  tracking : ∀ call answers code, (call, .tracking answers code) ∈ closing.calls →
    closing.asked = List.range outlets.length ∧ answers.length = outlets.length ∧
      (closing.pipeline.codes.outcome code = .succeeded ↔
        ∀ answer ∈ answers, closing.pipeline.codes.outcome answer = .succeeded) ∧
      ((∃ reason, closing.pipeline.codes.outcome code = .failed reason) ↔
        ∃ answer ∈ answers, ∃ reason, closing.pipeline.codes.outcome answer = .failed reason) ∧
      ∀ reason, closing.pipeline.codes.outcome code = .failed reason →
        ∃ answer ∈ answers, closing.pipeline.codes.outcome answer = .failed reason
  refused : ∀ call code, (call, .refused code) ∈ closing.calls →
    closing.pipeline.codes.outcome code = .succeeded
  unique : ∀ first second, closing.Wins first → closing.Wins second → first = second
  /-- The drop of the last handle asks the readers only if there has been no call before. -/
  dropped : ∀ index stage, closing.calls[index]? = some (.drop, stage) → closing.Wins index →
    closing.calls.length = 1
  /-- When all calls are over, one of them has asked all readers, and each shutdown has reached its
  reader unless that is shielded. -/
  settled : closing.calls ≠ [] → (∀ call stage, (call, stage) ∈ closing.calls →
    stage.isOver = true) → closing.asked = List.range outlets.length ∧
      before.Reached closing.pipeline (fun reader => outlets.count (reader, false)) ∧
      ∃! index : Nat, ∃ call answers code,
        closing.calls[index]? = some (call, .tracking answers code)

theorem filterMap_range_length {α : Type} (items : List α) :
    (List.range items.length).filterMap (items[·]?) = items := by
  induction items with
  | nil => rfl
  | cons item rest ih =>
    rw [List.length_cons, List.range_succ_eq_map, List.filterMap_cons, List.filterMap_map]
    exact congrArg (item :: ·) ih

theorem Sound.reachesOnce {before : Pipeline} {provider : Nat} {outlets : List (Nat × Bool)}
    {closing : Closing} (sound : Sound provider outlets closing)
    (told : before.Reached closing.pipeline fun reader =>
      (closing.asks outlets).count (reader, false)) :
    closing.ReachesOnce before outlets := by
  constructor
  case told => exact told
  case untold =>
    intro idle
    refine sound.untold ?_
    rintro index ⟨call, stage, there, winner⟩
    rw [idle call stage (List.mem_of_getElem? there)] at winner
    cases winner
  case asking =>
    intro call answers member
    have stands := sound.staged call _ member
    exact ⟨stands.1, stands.2.1⟩
  case tracking =>
    intro call answers code member
    obtain ⟨asked, all, watches⟩ := sound.staged call _ member
    exact ⟨asked, all, watches.tracks.succeeded_iff, watches.tracks.failed_iff,
      watches.tracks.gathered.failed⟩
  case refused => exact fun call code member => (sound.staged call _ member).2
  case unique => exact sound.unique
  case dropped =>
    rintro index stage found ⟨call, now, there, winner⟩
    cases found.symm.trans there
    rcases sound.last stage (List.mem_of_getElem? found) with rfl | rfl | alone
    · cases winner
    · cases winner
    · exact alone
  case settled =>
    intro some finished
    obtain ⟨entry, member⟩ := List.exists_mem_of_ne_nil _ some
    obtain ⟨index, call, stage, there, winner⟩ :=
      sound.finished entry.1 entry.2 member (finished entry.1 entry.2 member)
    have returned := finished call stage (List.mem_of_getElem? there)
    cases stage with
    | tracking answers code =>
      have all := (sound.staged call _ (List.mem_of_getElem? there)).1
      rw [asks, all, filterMap_range_length] at told
      refine ⟨all, told, index, ⟨call, answers, code, there⟩, ?_⟩
      rintro other ⟨caller, others, follows, here⟩
      exact sound.unique other index ⟨caller, _, here, rfl⟩ ⟨call, _, there, rfl⟩
    | asking answers => cases returned
    | _ => cases winner

/-- However the calls on a provider take turns, with each other, with the threads of the readers and
with whoever completes their codes, its shutdown reaches each reader once. Every call is over after
at most three steps of its own and one for each reader, but a drop that is not alone waits for the
others. -/
theorem shutdown_reaches_readers_once (pipeline : Pipeline) (provider : Nat) (target : Provider)
    (calls : List ClosingCall) (events : List ClosingEvent) (closed : pipeline.Closed)
    (found : pipeline.providers[provider]? = some target) (running : target.isShutdown = false) :
    let closing := (Closing.begin pipeline calls).run provider events
    closing.ReachesOnce pipeline
        (target.bindings.map fun binding => (binding.reader, binding.shielded)) ∧
      ∀ index call, calls[index]? = some call → (call ≠ .drop ∨ calls.length = 1) →
        target.bindings.length + 3 ≤ events.countP (·.advances index) →
        ∃ stage, closing.calls[index]? = some (call, stage) ∧ stage.isOver = true := by
  intro closing
  have sound := Sound.begin closed found running calls
  have readers : target.standing.2.length = target.bindings.length := List.length_map ..
  rw [← readers]
  obtain ⟨asked, all, reached⟩ := sound.tells_run events
  have told : pipeline.Reached closing.pipeline fun reader =>
      (closing.asks target.standing.2).count (reader, false) := by
    rw [asks, all]
    exact reached
  refine ⟨(sound.run events).reachesOnce told, fun index call there free enough => ?_⟩
  have fresh : (Closing.begin pipeline calls).calls[index]? = some (call, .fresh) := by
    rw [Closing.begin, List.getElem?_map, there]
    rfl
  have length : (Closing.begin pipeline calls).calls.length = calls.length := List.length_map ..
  obtain ⟨stage, present, fewer⟩ := sound.calls_run fresh (length ▸ free) events
  refine ⟨stage, present, (sound.run events).over_of_left (List.mem_of_getElem? present) ?_⟩
  rw [ClosingStage.left] at fewer
  omega

/-- A close wins the flag before a shutdown that was called first. The first reader's code fails
before the second reader is asked; the last handle is dropped at the end. -/
theorem shutdown_reaches_readers_once_raced :
    let pipeline : Pipeline :=
      { clock := 0
        codes := (Codes.empty.create .pending).1
        readers := [{ kind := .counting .delta (some 0) 0 0 }, { kind := .manual .delta }]
        providers := [.build {} 0 [(0, TemporalityPreference.delta.temporality, false),
          (1, TemporalityPreference.delta.temporality, false)]] }
    let events : List ClosingEvent :=
      [.advance 1, .advance 0, .advance 1, .complete 0 (.failed none), .advance 1, .advance 1,
        .wait 1, .advance 1, .advance 2, .advance 2]
    let closing := (Closing.begin pipeline [.shutdown, .close, .drop]).run 0 events
    closing.ReachesOnce pipeline [(0, false), (1, false)] ∧ closing.asked = [0, 1] ∧
      closing.pipeline.readers.map Reader.mark = [.count 1, .flag true] ∧
      closing.calls =
        [(.shutdown, .refused 1), (.close, .tracking [0, 2] 3), (.drop, .skipped)] ∧
      closing.pipeline.codes.outcome 3 = .failed none ∧
      ∃ stage, closing.calls[1]? = some (.close, stage) ∧ stage.isOver = true := by
  intro pipeline events closing
  have closed : pipeline.Closed := ⟨Codes.closed_empty.create .pending, by decide⟩
  have reaches := shutdown_reaches_readers_once pipeline 0 _ [.shutdown, .close, .drop] events
    closed rfl rfl
  exact ⟨reaches.1, by decide +kernel, by decide +kernel, by decide +kernel, by decide +kernel,
    reaches.2 1 .close rfl (.inl nofun) (by decide)⟩

end Closing

end Metering
