import Metering.Proofs.Meter.Registration
import Metering.Proofs.Provider.Upkeep
import Metering.Proofs.Stream.Renewal

/-!
Resets of a provider. Every stream of every meter is reset and then answers as one that its meter
had just made of the same definition. Nothing else changes: meters, callbacks and the readers'
last collection times stay.
-/

namespace Metering

/-- Whether a stream was made with what all meters of its provider share. -/
def Stream.MadeWith (shared : Shared) (stream : Stream) : Prop :=
  (shared.create stream.definition).SameTerms stream

theorem Stream.MadeWith.of_terms {shared : Shared} {stream next : Stream}
    (made : stream.MadeWith shared) (terms : stream.SameTerms next) : next.MadeWith shared := by
  unfold MadeWith
  rw [terms.definition]
  exact made.trans terms

/-- All streams of a provider are made with what its meters share. -/
theorem Stream.rule_madeWith (shared : Shared) : Stream.Rule shared (Stream.MadeWith shared) := by
  constructor
  case create => exact fun _ _ definition _ _ => .refl (shared.create definition)
  case record =>
    exact fun stream now value attributes made =>
      made.of_terms (stream.follows_record now value attributes).terms
  case collect =>
    exact fun stream collector time made => made.of_terms (stream.sameTerms_collect collector time)
  case reset => exact fun stream made => made.of_terms stream.sameTerms_reset

namespace Provider

variable (provider : Provider)

/-- What a reset of a provider does. -/
structure StartsAfresh : Prop where
  /-- Only the meters change. -/
  outside : provider.reset = { provider with registry := provider.reset.registry }
  stamps : ∀ position, (provider.reset.collector? position).map (·.lastCollect) =
    (provider.collector? position).map (·.lastCollect)
  meters : provider.reset.registry.components.keys = provider.registry.components.keys
  scopes : ∀ scope, (provider.reset.meter? scope).map (·.scope) =
    (provider.meter? scope).map (·.scope)
  callbacks : ∀ scope, provider.reset.observers scope = provider.observers scope
  streamKeys : ∀ scope, provider.reset.streamKeys scope = provider.streamKeys scope
  /-- Every stream keeps its definition and answers as a new one. -/
  streams : ∀ scope key stream, provider.stream? scope key = some stream →
    ∃ next, provider.reset.stream? scope key = some next ∧
      next.definition = stream.definition ∧
      ∀ operations, next.answers provider.shared.readers operations =
        (provider.shared.create stream.definition).answers provider.shared.readers operations

theorem stream?_reset (scope : ScopeIdentity) (key : String) :
    provider.reset.stream? scope key = (provider.stream? scope key).map Stream.reset := by
  unfold stream?
  rw [meter?_reset]
  cases provider.meter? scope with
  | none => rfl
  | some meter => exact Table.get?_mapValues Stream.reset meter.streams key

variable {provider}

theorem Sound.startsAfresh (sound : provider.Sound (Stream.MadeWith provider.shared)) :
    provider.StartsAfresh := by
  constructor
  case outside => rfl
  case stamps => exact fun _ => rfl
  case meters => exact Table.keys_mapValues Meter.reset provider.registry.components
  case scopes =>
    intro scope
    rw [meter?_reset, Option.map_map]
    rfl
  case callbacks =>
    intro scope
    unfold observers
    rw [meter?_reset, Option.map_map]
    rfl
  case streamKeys =>
    intro scope
    unfold streamKeys
    rw [meter?_reset]
    cases provider.meter? scope with
    | none => rfl
    | some meter => exact Table.keys_mapValues Stream.reset meter.streams
  case streams =>
    intro scope key stream found
    refine ⟨stream.reset, ?_, rfl, ?_⟩
    · rw [stream?_reset, found, Option.map_some]
    · obtain ⟨meter, there, present⟩ := Option.bind_eq_some_iff.mp found
      have made := ((sound.found there).streams.each key stream present).2
      exact Stream.answers_reset provider.shared.readers _ _ _ made

end Provider

namespace Interleaving

/-- After a reset a stream answers as if it had just been made, whatever happened to it before and
whatever happens next; and a reset of a provider does this to all its streams, and nothing else. -/
theorem reset_starts_afresh :
    (∀ definition filter start readers earlier later,
      let fresh := Stream.create definition filter start readers
      (fresh.performAll readers earlier).reset.answers readers later =
        fresh.answers readers later) ∧
      ∀ config built readers turns,
        ((start config built readers).run turns).provider.StartsAfresh := by
  constructor
  · intro definition filter start readers earlier later fresh
    exact Stream.answers_reset readers definition filter start
      (fresh.sameTerms_performAll readers earlier) later
  · intro config built readers turns
    let begun := start config built readers
    have sound : begun.provider.Sound (Stream.MadeWith begun.provider.shared) :=
      Provider.sound_build config built readers
    have later := begun.sound_run (Stream.rule_madeWith _) sound turns
    rw [← begun.shared_run turns] at later
    exact later.startsAfresh

/-- A stream that has run out of room has room again once it is reset, and reports anew that it has
none. -/
example :
    let readers : List TemporalityChoice := [fun _ => .delta]
    let stream := Stream.create ⟨"visits", "", "", .counter, none, 1⟩ .alwaysOff 10 readers
    let visit (user : String) : Operation := .record 20 (.unsigned 1) [⟨"user", .string user⟩]
    ((stream.performAll readers [visit "a", visit "b"]).reset.answers readers
      [visit "c", visit "d", visit "e"]).map (·.events.length) = [0, 1, 0] := by
  decide +kernel

end Interleaving

end Metering
