import Metering.Proofs.Provider.Upkeep
import Metering.Proofs.Registry

/-!
The identity of meters. A meter belongs to the name, version and schema address of a scope. It is
requested by a builder, which settles the name of the scope first, or by a whole scope, whose name
is settled when the registry is asked; a scope without a name gets the same one on both ways, so it
is answered the meter of the scope that bears this name.
-/

namespace Metering

theorem Scope.identity_eq_iff (left right : Scope) : left.identity = right.identity ↔
    left.name = right.name ∧ left.version = right.version ∧ left.schemaUrl = right.schemaUrl := by
  rw [identity, identity, ScopeIdentity.mk.injEq]

namespace Provider

/-- A request for a meter, by a builder or by a whole scope. -/
def request (provider : Provider) (builder : Bool) (scope : Scope) :
    Provider × MeterHandle × List Event :=
  if builder then provider.namedMeter scope else provider.meter scope

theorem nameScope_named (scope : Scope) (named : scope.name ≠ "") :
    (nameScope scope).1 = scope := by
  have filled : scope.name.isEmpty = false := by
    rw [← Bool.not_eq_true, String.isEmpty_iff]
    exact named
  simp [nameScope, filled]

theorem nameScope_unnamed (scope : Scope) (unnamed : scope.name = "") :
    (nameScope scope).1 = { scope with name := "unknown" } := by
  simp [nameScope, unnamed, Event.defaultMeterName]

theorem nameScope_nameScope (scope : Scope) :
    (nameScope (nameScope scope).1).1 = (nameScope scope).1 :=
  nameScope_named _ (named_nameScope scope)

section Request

variable (provider : Provider) (builder : Bool) (scope : Scope)

/-- A provider without readers, or one that is shut down, hands out nothing. -/
theorem request_closed (closed : (provider.bindings.isEmpty || provider.isShutdown) = true) :
    (provider.request builder scope).1 = provider ∧
      (provider.request builder scope).2.1 = none := by
  have answered : ∀ scope, (provider.meter scope).1 = provider ∧
      (provider.meter scope).2.1 = none := by
    intro scope
    unfold meter
    cases bound : provider.bindings.isEmpty with
    | true => exact ⟨rfl, rfl⟩
    | false =>
      rw [bound, Bool.false_or] at closed
      rw [if_neg Bool.false_ne_true, if_pos closed]
      exact ⟨rfl, rfl⟩
  cases builder with
  | false => exact answered scope
  | true => exact answered (nameScope scope).1

/-- Both ways lead to the meter of the settled scope. -/
theorem request_open (opened : (provider.bindings.isEmpty || provider.isShutdown) = false) :
    let named := (nameScope scope).1
    (provider.request builder scope).1 = (if (provider.meter? named.identity).isSome then provider
        else provider.setMeter named.identity (.create named)) ∧
      (provider.request builder scope).2.1 = some named.identity := by
  intro named
  obtain ⟨bound, running⟩ := Bool.or_eq_false_iff.mp opened
  cases builder with
  | false => exact provider.meter_open bound running scope
  | true =>
    have settled := provider.meter_open bound running (nameScope scope).1
    rw [nameScope_nameScope] at settled
    exact settled

theorem handle_request : (provider.request builder scope).2.1 =
    if provider.bindings.isEmpty || provider.isShutdown then none
    else some (nameScope scope).1.identity := by
  cases closed : provider.bindings.isEmpty || provider.isShutdown with
  | true => exact (provider.request_closed builder scope closed).2
  | false => exact (provider.request_open builder scope closed).2

/-- A second request for an identity finds the meter of the first one. -/
theorem request_request (second : Bool) (other : Scope)
    (same : (nameScope other).1.identity = (nameScope scope).1.identity) :
    ((provider.request builder scope).1.request second other).1 =
      (provider.request builder scope).1 := by
  cases closed : provider.bindings.isEmpty || provider.isShutdown with
  | true =>
    rw [(provider.request_closed builder scope closed).1]
    exact (provider.request_closed second other closed).1
  | false =>
    have first := (provider.request_open builder scope closed).1
    rw [first]
    split
    next there =>
      rw [(provider.request_open second other closed).1, same, if_pos there]
    next =>
      let entered := provider.setMeter (nameScope scope).1.identity (.create (nameScope scope).1)
      have there : entered.meter? (nameScope scope).1.identity =
          some (.create (nameScope scope).1) := (Table.get?_insert _ _ _ _).trans (if_pos rfl)
      change (entered.request second other).1 = entered
      rw [(entered.request_open second other closed).1, same, there]
      rfl

end Request

/-- Whether requests for two scopes get one meter, by whatever way and whichever comes first. -/
structure Shares (provider : Provider) (left right : Scope) : Prop where
  handle : ∀ builder second,
    (provider.request builder left).2.1 = (provider.request second right).2.1
  later : ∀ builder second,
    ((provider.request builder left).1.request second right).1 =
      (provider.request builder left).1
  earlier : ∀ builder second,
    ((provider.request second right).1.request builder left).1 =
      (provider.request second right).1

theorem shares_of_identity (provider : Provider) {left right : Scope}
    (same : (nameScope left).1.identity = (nameScope right).1.identity) :
    provider.Shares left right := by
  refine ⟨fun builder second => ?_, fun builder second => ?_, fun builder second => ?_⟩
  · rw [handle_request, handle_request, same]
  · exact provider.request_request builder left second right same.symm
  · exact provider.request_request second right builder left same

end Provider

namespace Demand

/-- There is one component for each identity, however requests and surveys of the registry
interleave. A scope without a name shares the meter of the scope that is named `unknown` and has
the same version and schema address. -/
theorem one_component_per_identity {ν : Type} {shards : Nat} (build : Scope → ν)
    (shard : ScopeIdentity → Fin shards) (turns : List Turn) :
    Unique build shard turns ∧
    (∀ left right : Scope, left.identity = right.identity ↔
      left.name = right.name ∧ left.version = right.version ∧
        left.schemaUrl = right.schemaUrl) ∧
    ∀ (unnamed : Scope) (attributes : List Attribute), unnamed.name = "" →
      let standard : Scope := { unnamed with name := "unknown", attributes }
      (∀ provider : Provider, provider.Shares unnamed standard ∧
        ∀ builder, (provider.request builder unnamed).2.1 =
          if provider.bindings.isEmpty || provider.isShutdown then none
          else some ⟨"unknown", unnamed.version, unnamed.schemaUrl⟩) ∧
      ∀ first ∈ (run build shard {} turns).calls, ∀ second ∈ (run build shard {} turns).calls,
        first.scope = (Provider.nameScope unnamed).1 →
          second.scope = (Provider.nameScope standard).1 →
            ∀ one two, first.answer? = some one → second.answer? = some two → one = two := by
  have served := unique build shard turns
  refine ⟨served, Scope.identity_eq_iff, ?_⟩
  intro unnamed attributes empty standard
  have left := Provider.nameScope_unnamed unnamed empty
  have filled : "unknown" ≠ "" := by decide
  have right : (Provider.nameScope standard).1 = standard :=
    Provider.nameScope_named standard filled
  have same : (Provider.nameScope unnamed).1.identity =
      (Provider.nameScope standard).1.identity := by
    rw [left, right]
    rfl
  refine ⟨fun provider => ⟨provider.shares_of_identity same, fun builder => ?_⟩, ?_⟩
  · rw [Provider.handle_request, left]
    rfl
  · intro first here second there asked asked' one two answer answer'
    refine (served.same first here second there one two answer answer').mpr ?_
    rw [asked, asked', same]

/-- Two requests for one identity find nothing, and the second one inserts first: both are answered
what was built from its scope. A survey meets a scope with an empty version half-way. -/
theorem one_component_per_identity_raced :
    let tagged : Scope := ⟨"", none, none, [⟨"tag", .bool true⟩]⟩
    let plain : Scope := ⟨"unknown", none, none, []⟩
    let versioned : Scope := ⟨"unknown", some "", none, []⟩
    let shard : ScopeIdentity → Fin 2 := fun identity => if identity.version.isSome then 1 else 0
    let turns : List Turn :=
      [.look (Provider.nameScope tagged).1, .look plain, .insert 1, .insert 0, .survey, .visit 0,
        .look versioned, .insert 2, .visit 0, .look plain]
    let state := run id shard {} turns
    state.made = [plain, versioned] ∧
      state.calls.map (·.answer?) =
        [some ⟨0, plain⟩, some ⟨0, plain⟩, some ⟨1, versioned⟩, some ⟨0, plain⟩] ∧
      state.surveys.map (fun survey => (survey.passed, survey.found.map (·.2))) =
        [(2, [⟨0, plain⟩, ⟨1, versioned⟩])] ∧
      Unique id shard turns ∧ ∀ provider : Provider, provider.Shares tagged plain := by
  intro tagged plain versioned shard turns state
  have served := one_component_per_identity id shard turns
  refine ⟨by decide, by decide, by decide, served.1, fun provider => ?_⟩
  exact ((served.2.2 tagged [] rfl).1 provider).1

end Demand

end Metering
