import Metering.Proofs.Pipeline.ExportThread
import Metering.Proofs.Provider.Changes

/-!
What the work of export threads leaves as it is. Collecting changes what a provider has measured,
not who its readers are or whether it has been shut down; an exporter whose calls return stays so.
-/

namespace Metering

open Completion

namespace Pipeline

/-- What a change to a pipeline leaves as it is. -/
structure Kept (before after : Pipeline) : Prop where
  providers : ∀ id : Nat, (after.providers[id]?).map Provider.standing =
    (before.providers[id]?).map Provider.standing
  exporters : ∀ (id : Nat) target, before.exporters[id]? = some target →
    ∃ later, after.exporters[id]? = some later ∧ (target.Calm → later.Calm)

namespace Kept

theorem of_eq {before after : Pipeline} (providers : after.providers = before.providers)
    (exporters : after.exporters = before.exporters) : before.Kept after :=
  ⟨fun id => by rw [providers], fun _ target found => ⟨target, exporters ▸ found, id⟩⟩

theorem trans {first second third : Pipeline} (begins : first.Kept second)
    (ends : second.Kept third) : first.Kept third := by
  refine ⟨fun id => (ends.providers id).trans (begins.providers id), fun id target found => ?_⟩
  obtain ⟨middle, there, calm⟩ := begins.exporters id target found
  obtain ⟨later, present, still⟩ := ends.exporters id middle there
  exact ⟨later, present, fun quiet => still (calm quiet)⟩

theorem after {before early later : Pipeline} (kept : early.Kept later)
    (providers : early.providers = before.providers)
    (exporters : early.exporters = before.exporters) : before.Kept later :=
  (of_eq providers exporters).trans kept

end Kept

theorem kept_setWorker (pipeline : Pipeline) (id : Nat) (worker : Worker) :
    pipeline.Kept (pipeline.setWorker id worker) := by
  unfold setWorker
  split
  next => exact .of_eq rfl rfl
  next => exact .of_eq rfl rfl

theorem kept_setExporter {pipeline : Pipeline} {id : Nat} {target later : Exporter}
    (found : pipeline.exporters[id]? = some target) (calm : target.Calm → later.Calm) :
    pipeline.Kept (pipeline.setExporter id later) := by
  refine ⟨fun _ => rfl, fun other exporter there => ?_⟩
  by_cases same : id = other
  · subst same
    cases found.symm.trans there
    refine ⟨later, ?_, calm⟩
    simp [setExporter, (List.getElem?_eq_some_iff.mp found).1]
  · refine ⟨exporter, ?_, fun calm => calm⟩
    rw [setExporter, List.getElem?_set_ne same, there]

theorem kept_produce (pipeline : Pipeline) (lease : Lease) :
    pipeline.Kept (pipeline.produce lease).1 := by
  unfold produce change
  split
  next => exact .of_eq rfl rfl
  next provider found =>
    refine ⟨fun id => ?_, fun id target present => ⟨target, present, fun calm => calm⟩⟩
    simp only [setProvider, note]
    by_cases same : lease.provider = id
    · subst same
      rw [List.getElem?_set_self (List.getElem?_eq_some_iff.mp found).1, found, Option.map_some,
        Option.map_some, provider.standing_collect]
    · rw [List.getElem?_set_ne same]

theorem kept_settle (pipeline : Pipeline) (id : Nat) (worker : Worker) (job : Job)
    (exported : Except Failure Unit) (outcome : Outcome) :
    pipeline.Kept (pipeline.settle id worker job exported outcome) := by
  cases job with
  | timer => exact pipeline.kept_setWorker ..
  | flush code => exact (kept_setWorker ..).after rfl rfl
  | shutdown code => exact (kept_setWorker ..).after rfl rfl

theorem kept_close (pipeline : Pipeline) (id : Nat) (worker : Worker) (job : Job)
    (exported : Except Failure Unit) (response : Response) :
    pipeline.Kept (pipeline.close id worker job exported response) := by
  cases response with
  | code outcome => exact pipeline.kept_settle ..
  | slow duration => exact pipeline.kept_setWorker ..
  | crash => exact pipeline.kept_setWorker ..

theorem kept_conclude (pipeline : Pipeline) (id : Nat) (worker : Worker) (exporter : Nat)
    (job : Job) (began : Nat) (exported : Except Failure Unit) :
    pipeline.Kept (pipeline.conclude id worker exporter job began exported) := by
  unfold conclude
  split
  next => exact (kept_setWorker ..).after rfl rfl
  next present => exact (kept_setExporter present fun calm => calm.flush.1).trans (kept_close ..)
  next present => exact (kept_setExporter present fun calm => calm.shutdown.1).trans (kept_close ..)
  next => exact .of_eq rfl rfl

theorem kept_begin (pipeline : Pipeline) (id : Nat) (worker : Worker) (exporter : Nat)
    (lease : Option Lease) (job : Job) :
    pipeline.Kept (pipeline.begin id worker exporter lease job) := by
  cases lease with
  | none => exact (kept_conclude ..).after rfl rfl
  | some lease =>
    have produced := pipeline.kept_produce lease
    simp only [begin]
    generalize pipeline.produce lease = production at produced
    obtain ⟨early, collected⟩ := production
    refine produced.trans ?_
    cases collected with
    | error error => exact (kept_conclude ..).after rfl rfl
    | ok report =>
      cases present : early.exporters[exporter]? with
      | none => exact .of_eq rfl rfl
      | some target =>
        dsimp only
        split
        next => exact (kept_conclude ..).after rfl rfl
        next =>
          have accepted := kept_setExporter present fun calm => (calm.accept report).1
          refine accepted.trans ?_
          cases (target.accept report).2.1 with
          | code outcome => exact (kept_setWorker ..).after rfl rfl
          | slow duration => exact (kept_setWorker ..).after rfl rfl
          | crash => exact (kept_setWorker ..).after rfl rfl

theorem kept_stepWorker (pipeline : Pipeline) (id : Nat) :
    pipeline.Kept (pipeline.stepWorker id) := by
  unfold stepWorker
  split
  next => exact .of_eq rfl rfl
  next reader _ =>
    split
    next exporter worker _ =>
      unfold proceed
      split
      next => exact (kept_begin ..).after rfl rfl
      next => exact (kept_begin ..).after rfl rfl
      next =>
        split
        next => exact pipeline.kept_setWorker ..
        next => exact (kept_begin ..).after rfl rfl
      next => exact (kept_conclude ..).after rfl rfl
      next => exact (kept_conclude ..).after rfl rfl
      next => exact pipeline.kept_settle ..
      next => exact .of_eq rfl rfl
    next => exact .of_eq rfl rfl

end Pipeline

end Metering
