import Metering.Proofs.Meter.Resolution
import Metering.Provider.Collect

/-!
Changes to a provider. Whatever the callbacks of a collection do comes down to requesting meters,
creating instruments and recording, so what these keep and reading keeps, a collection keeps. No
change to what is measured changes who the readers are or whether the provider is shut down.
-/

namespace Metering

namespace Provider

/-- Whether a relation between a provider and a later one holds across everything that a collection
does to its meters. -/
structure Stable (keeps : Provider → Provider → Prop) : Prop where
  refl : ∀ provider, keeps provider provider
  trans : ∀ {first second third}, keeps first second → keeps second third → keeps first third
  meter : ∀ (provider : Provider) scope, keeps provider (provider.meter scope).1
  instrument : ∀ (provider : Provider) handle config cells,
    keeps provider (provider.instrument handle config cells).1
  record : ∀ (provider : Provider) now handle instrument reading attributes,
    keeps provider (provider.record now handle instrument reading attributes).1
  read : ∀ (provider : Provider) position time scope,
    keeps provider (provider.readMeter position time scope).1

namespace Stable

variable {keeps : Provider → Provider → Prop} (stable : Stable keeps) (provider : Provider)
include stable

theorem act (now : UInt64) (scope : ScopeIdentity) (observer : Observer) (action : Action) :
    keeps provider (provider.act now scope observer action).1 := by
  cases action with
  | observe reading attributes => exact stable.record provider ..
  | create config reading attributes =>
    exact stable.trans (stable.instrument provider ..) (stable.record ..)
  | register config cells => exact stable.instrument provider ..
  | record handle instrument reading attributes => exact stable.record provider ..
  | request scope => exact stable.meter provider _

theorem runObservers (now : UInt64) (cells : Cells) (scope : ScopeIdentity) :
    keeps provider (provider.runObservers now cells scope).1 :=
  Event.gather_keeps stable.refl stable.trans (fun provider observer =>
    Event.gather_keeps stable.refl stable.trans (fun provider _ =>
      Event.gather_keeps stable.refl stable.trans (fun provider action =>
        stable.act provider now scope observer action) provider _) provider _) provider _

theorem collectMeters (cells : Cells) (position : Nat) (time : UInt64)
    (scopes : List ScopeIdentity) :
    keeps provider (Provider.collectMeters cells position time provider scopes).1 := by
  induction scopes generalizing provider with
  | nil => exact stable.refl provider
  | cons scope rest ih =>
    have here : keeps provider (provider.collectMeter cells position time scope).1 :=
      stable.trans (stable.runObservers provider ..) (stable.read ..)
    exact stable.trans here (ih _)

end Stable

/-- Whether a provider differs from an earlier one in its meters only. -/
def Amended (before after : Provider) : Prop := ∃ registry, after = { before with registry }

namespace Amended

theorem refl (provider : Provider) : provider.Amended provider := ⟨provider.registry, rfl⟩

theorem trans {first second third : Provider} (begins : first.Amended second)
    (ends : second.Amended third) : first.Amended third := by
  obtain ⟨_, rfl⟩ := begins
  obtain ⟨registry, rfl⟩ := ends
  exact ⟨registry, rfl⟩

end Amended

variable (provider : Provider)

theorem amended_setMeter (scope : ScopeIdentity) (meter : Meter) :
    provider.Amended (provider.setMeter scope meter) := ⟨_, rfl⟩

theorem amended_instrument (handle : MeterHandle) (config : InstrumentConfig)
    (cells : List String) : provider.Amended (provider.instrument handle config cells).1 := by
  unfold instrument
  split
  next => exact .refl provider
  next scope meter _ => exact provider.amended_setMeter scope _

theorem amended_record (now : UInt64) (handle : MeterHandle) (instrument : Instrument)
    (reading : Reading) (attributes : List Attribute) :
    provider.Amended (provider.record now handle instrument reading attributes).1 := by
  unfold record
  split
  next => exact .refl provider
  next scope meter _ => exact provider.amended_setMeter scope _

theorem amended_meter (scope : Scope) : provider.Amended (provider.meter scope).1 := by
  unfold meter
  split
  next => exact .refl provider
  next =>
    split
    next => exact .refl provider
    next => exact ⟨_, rfl⟩

theorem amended_readMeter (position : Nat) (time : UInt64) (scope : ScopeIdentity) :
    provider.Amended (provider.readMeter position time scope).1 := by
  unfold readMeter
  split
  next => exact provider.amended_setMeter scope _
  next => exact .refl provider

theorem stable_amended : Stable Amended :=
  ⟨.refl, .trans, amended_meter, amended_instrument, amended_record, amended_readMeter⟩

/-- Whether a provider has been shut down, and which readers it would then tell, with whether each
of them is shielded. -/
def standing : Bool × List (Nat × Bool) :=
  (provider.isShutdown, provider.bindings.map fun binding => (binding.reader, binding.shielded))

theorem Amended.standing {before after : Provider} (amended : before.Amended after) :
    after.standing = before.standing := by
  obtain ⟨_, rfl⟩ := amended
  rfl

theorem standing_finish (position : Nat) (time : UInt64) :
    (provider.finish position time).standing = provider.standing := by
  refine Prod.ext rfl (List.ext_getElem? fun place => ?_)
  simp only [standing, finish, List.getElem?_map, List.getElem?_modify]
  cases provider.bindings[place]? with
  | none => rfl
  | some binding => by_cases here : position = place <;> simp [here]

theorem standing_collect (cells : Cells) (now : UInt64) (position : Nat) :
    (provider.collect cells now position).1.standing = provider.standing := by
  unfold collect
  split
  next => rfl
  next =>
    split
    next => rfl
    next => exact (standing_finish ..).trans (stable_amended.collectMeters provider ..).standing

end Provider

end Metering
