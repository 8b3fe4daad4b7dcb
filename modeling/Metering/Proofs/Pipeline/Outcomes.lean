import Metering.Proofs.Pipeline.Course

/-!
What a flush or shutdown of a provider comes to. The code of the provider succeeds if all readers
have collected, exported and closed with success, and fails with the failure of the first reader to
fail; that is the one of its export if that has failed.
-/

namespace Metering

open Completion

namespace Course

/-- What the code of a provider's flush or shutdown and those of its readers come to. -/
structure Propagates (bindings : List Binding) (limits : Nat → Span) (code : CodeId)
    (course : Course) : Prop where
  readers : course.errands.map Errand.reader = bindings.map (·.reader)
  succeeded : course.pipeline.codes.outcome code = .succeeded ↔
    ∀ errand ∈ course.errands, course.Prospers errand
  failed : (∃ reason, course.pipeline.codes.outcome code = .failed reason) ↔
    ∃ errand ∈ course.errands, ∃ reason,
      course.pipeline.codes.outcome errand.token = .failed reason
  /-- The first reader to fail gives the provider its failure. -/
  arrived : ∀ errand ∈ course.errands, errand ∈ course.failures ↔
    ∃ reason, course.pipeline.codes.outcome errand.token = .failed reason
  first : ∀ errand, course.failures.head? = some errand →
    course.pipeline.codes.outcome code = course.pipeline.codes.outcome errand.token
  /-- A failure of the export is that of the reader, whatever the exporter's code comes to. -/
  blamed : ∀ errand ∈ course.errands, ∀ failure,
    course.Suffers (limits errand.reader) errand failure → course.IsHandled errand →
      course.pipeline.codes.outcome errand.token = .failed (some failure)
  followed : ∀ errand ∈ course.errands, ∀ told closing,
    .closed errand told closing ∈ course.found →
      (∀ failure, ¬course.Suffers (limits errand.reader) errand failure) →
        course.pipeline.codes.outcome errand.token = course.pipeline.codes.outcome closing
  /-- The exporter's code stays as it was answered, unless it was answered pending. -/
  told : ∀ errand ∈ course.errands, ∀ told closing,
    .closed errand told closing ∈ course.found → told ≠ .pending →
      course.pipeline.codes.outcome closing = told
  /-- An export that somebody may still complete is not given up early. -/
  late : ∀ errand ∈ course.errands, course.IsHandled errand → ∀ waited,
    .exported errand .pending waited ∈ course.found → (limits errand.reader).nanos ≤ waited
  waiting : ∀ errand ∈ course.errands, ¬course.IsHandled errand →
    course.pipeline.codes.outcome errand.token = .pending

theorem Sound.propagates {limits : Nat → Span} {bindings : List Binding} {course : Course}
    {code : CodeId} (sound : Sound limits course) (asks : Asks limits bindings course)
    (gathers : course.code? = some code) : Propagates bindings limits code course := by
  have tracks := (sound.watches code gathers).1.tracks
  constructor
  case readers =>
    have all := asks.asked
    rwa [asks.finished code gathers, List.map_nil, List.append_nil] at all
  case succeeded =>
    rw [tracks.succeeded_iff, List.forall_mem_map]
    exact forall₂_congr fun errand listed => sound.prospers_iff listed
  case failed =>
    rw [tracks.failed_iff]
    simp only [List.mem_map, exists_exists_and_eq_and]
  case arrived => exact sound.arrived
  case first => exact sound.first code gathers
  case blamed =>
    rintro errand listed failure suffers ⟨told, closing, member⟩
    obtain ⟨early, exported, preface, about, replied⟩ := sound.answered listed member
    have failed := (suffers_iff preface about failure).mp suffers
    subst failed
    cases replied with
    | failed _ same => exact same
  case followed =>
    intro errand listed told closing member spared
    obtain ⟨early, exported, preface, about, replied⟩ := sound.answered listed member
    cases replied with
    | failed failure _ =>
      exact absurd ((suffers_iff preface about failure).mpr rfl) (spared failure)
    | followed _ _ mirrors _ => exact mirrors.outcome_eq
  case told =>
    intro errand listed told closing member final
    exact (sound.offered listed member).told final
  case late =>
    rintro errand listed ⟨told, closing, member⟩ waited exported
    obtain ⟨early, _, preface, about, _⟩ := sound.answered listed member
    have here : .exported errand .pending waited ∈ course.about errand :=
      mem_about.mpr ⟨exported, rfl⟩
    rw [about, List.mem_append, List.mem_singleton] at here
    exact preface.late (here.resolve_right nofun)
  case waiting => exact fun errand listed => sound.pending_of_not_handled listed

section Begin

variable {pipeline : Pipeline} {provider : Nat} {target : Provider} {call : ReaderCall}

/-- Nobody has been asked yet. -/
theorem sound_begin (closed : pipeline.Closed) (limits : Nat → Span) :
    Sound limits (begin pipeline provider target call) := by
  have known : ∀ code ∈ List.range pipeline.codes.cells.length,
      code < pipeline.codes.cells.length := fun _ => List.mem_range.mp
  constructor
  case closed => cases call <;> exact ⟨closed.codes, closed.held⟩
  case watches => exact nofun
  case distinct => exact List.nodup_nil
  case inside => exact nofun
  case known => cases call <;> exact known
  case dated => exact nofun
  case apart => exact nofun
  case stands => exact nofun
  case closings => exact nofun
  case single => exact nofun
  case listed => exact List.nil_subset _
  case arrived => exact nofun
  case first => exact nofun

variable (open_ : call = .shutdown → ∀ binding ∈ target.bindings, binding.shielded = false)

include open_

theorem asks_begin {limits : Nat → Span} (equipped : ∀ binding ∈ target.bindings,
    pipeline.Equipped binding.reader (limits binding.reader)) :
    Asks limits target.bindings (begin pipeline provider target call) where
  asked := rfl
  finished := nofun
  equipped := by cases call <;> exact equipped
  open_ := open_

end Begin

/-- A request leaves the readers as they are that it is not about, and the exporters. -/
theorem untouched_request {pipeline : Pipeline} {call : ReaderCall} {binding : Binding}
    (open_ : call = .shutdown → binding.shielded = false)
    (serves : pipeline.serves binding.reader = true) :
    (call.request pipeline binding).1.exporters = pipeline.exporters ∧
      ∀ other, other ≠ binding.reader →
        (call.request pipeline binding).1.periodic? other = pipeline.periodic? other := by
  obtain ⟨reader, exporter, worker, found, running, alive⟩ := Pipeline.serves_iff.mp serves
  obtain ⟨later, _, requests⟩ := Pipeline.request_eq found running alive call open_
  rw [requests]
  exact ⟨rfl, fun other apart => Pipeline.periodic?_congr (List.getElem?_set_ne (Ne.symm apart))⟩

/-- A caller that nothing comes between asks all readers. -/
theorem run_asks (course : Course)
    (serves : ∀ binding ∈ course.waiting, course.pipeline.serves binding.reader = true)
    (open_ : course.call = .shutdown → ∀ binding ∈ course.waiting, binding.shielded = false)
    (once : (course.waiting.map (·.reader)).Nodup) :
    let told := Pipeline.requestAll course.call.request course.pipeline course.waiting
    let after := course.run (List.replicate course.waiting.length .proceed)
    after.pipeline = told.1 ∧ after.errands = course.errands ++ Errand.list course.waiting told.2 ∧
      after.waiting = [] ∧ after.code? = course.code? := by
  generalize all : course.waiting = bindings at serves open_ once
  induction bindings generalizing course with
  | nil => exact ⟨rfl, (List.append_nil _).symm, all, rfl⟩
  | cons binding rest ih =>
    have served := serves binding List.mem_cons_self
    have unshielded := fun shuts => open_ shuts binding List.mem_cons_self
    rw [List.map_cons, List.nodup_cons] at once
    have goes : course.step .proceed = course.ask binding rest := by
      simp only [step, proceed, all, served, if_true]
    have later := ih (course.ask binding rest) rfl (fun other member => ?_)
      (fun shuts other member => open_ shuts other (List.mem_cons_of_mem _ member)) once.2
    · simp only [List.length_cons, List.replicate_succ, run, List.foldl_cons, goes]
      simp only [run] at later
      refine ⟨later.1, later.2.1.trans ?_, later.2.2⟩
      exact List.append_assoc ..
    · have apart : other.reader ≠ binding.reader := fun same =>
        once.1 (same ▸ List.mem_map_of_mem member)
      have same : (course.ask binding rest).pipeline.periodic? other.reader =
          course.pipeline.periodic? other.reader :=
        (untouched_request unshielded served).2 other.reader apart
      rw [Pipeline.serves, same]
      exact serves other (List.mem_cons_of_mem _ member)

/-- A caller that nothing comes between does what flushing or shutting down the provider does. -/
theorem run_proceed {pipeline : Pipeline} {provider : Nat} {target : Provider}
    (found : pipeline.providers[provider]? = some target) (running : target.isShutdown = false)
    (call : ReaderCall)
    (serves : ∀ binding ∈ target.bindings, pipeline.serves binding.reader = true)
    (open_ : call = .shutdown → ∀ binding ∈ target.bindings, binding.shielded = false)
    (once : (target.bindings.map (·.reader)).Nodup) :
    let course := (begin pipeline provider target call).run
      (List.replicate (target.bindings.length + 1) .proceed)
    course.pipeline = (pipeline.tell provider call).1 ∧
      course.code? = some (pipeline.tell provider call).2 := by
  have served : ∀ binding ∈ (begin pipeline provider target call).waiting,
      (begin pipeline provider target call).pipeline.serves binding.reader = true := by
    cases call <;> exact serves
  obtain ⟨asked, errands, waiting, ungathered⟩ :=
    run_asks (begin pipeline provider target call) served open_ once
  have answered := Pipeline.length_requestAll call.request
    (pipeline.heralded provider target call) target.bindings
  have tokens := Errand.tokens_list answered
  have split : (begin pipeline provider target call).run
      (List.replicate (target.bindings.length + 1) .proceed) =
        ((begin pipeline provider target call).run
          (List.replicate target.bindings.length .proceed)).step .proceed := by
    rw [List.replicate_succ', run, List.foldl_append]
    rfl
  rw [split, Pipeline.tell_eq found running call]
  have waits : (begin pipeline provider target call).waiting = target.bindings := rfl
  rw [waits] at asked errands waiting ungathered
  generalize (begin pipeline provider target call).run
    (List.replicate target.bindings.length .proceed) = after at asked errands waiting ungathered ⊢
  have last : after.step .proceed = after.gather := by
    have none : after.code? = none := ungathered
    simp only [step, proceed, waiting, none]
  have known : after.errands.map Errand.token =
      (Pipeline.requestAll call.request (pipeline.heralded provider target call)
        target.bindings).2 := by
    rw [errands]
    exact tokens
  rw [last, Pipeline.broadcast]
  simp only [gather, reach, known, asked]
  exact ⟨rfl, rfl⟩

/-- The readers that have yet to be asked, each of them once, are willing. -/
structure Clear (course : Course) : Prop where
  willing : ∀ binding ∈ course.waiting, ∃ reader exporter worker,
    course.pipeline.Willing binding.reader reader exporter worker
  open_ : course.call = .shutdown → ∀ binding ∈ course.waiting, binding.shielded = false
  once : (course.waiting.map (·.reader)).Nodup

section Clear

variable {course : Course} (clear : course.Clear)

include clear

theorem Clear.ask {binding : Binding} {rest : List Binding}
    (waiting : course.waiting = binding :: rest) :
    course.step .proceed = course.ask binding rest ∧ (course.ask binding rest).Clear := by
  have member : binding ∈ course.waiting := waiting ▸ List.mem_cons_self
  have within : ∀ other ∈ rest, other ∈ course.waiting := fun other member =>
    waiting ▸ List.mem_cons_of_mem _ member
  have once := clear.once
  rw [waiting, List.map_cons, List.nodup_cons] at once
  obtain ⟨_, _, _, willing⟩ := clear.willing binding member
  have serves := willing.serves
  obtain ⟨exporters, same⟩ :=
    untouched_request (fun shuts => clear.open_ shuts binding member) serves
  refine ⟨by simp only [step, proceed, waiting, serves, if_true], fun other later => ?_,
    fun shuts other later => clear.open_ shuts other (within other later), once.2⟩
  obtain ⟨reader, exporter, worker, willing⟩ := clear.willing other (within other later)
  have apart : other.reader ≠ binding.reader := fun alike =>
    once.1 (alike ▸ List.mem_map_of_mem later)
  exact ⟨reader, exporter, worker, willing.of_eq (same other.reader apart) exporters⟩

theorem Clear.reach {after : Pipeline} (given : List CodeId) (learned : List Finding)
    (kept : ∀ {id reader exporter worker}, course.pipeline.Willing id reader exporter worker →
      ∃ later thread, after.Willing id later exporter thread) :
    (course.reach after given learned).Clear := by
  refine ⟨fun binding member => ?_, clear.open_, clear.once⟩
  obtain ⟨reader, exporter, worker, willing⟩ := clear.willing binding member
  obtain ⟨later, thread, willing⟩ := kept willing
  exact ⟨later, exporter, thread, willing⟩

/-- Threads, exporters and measurements keep nobody from asking. -/
theorem Clear.step {event : CourseEvent} (undisturbed : event.isCall = false)
    (other : event.isProceed = false) :
    (course.step event).Clear ∧ (course.step event).waiting = course.waiting := by
  cases event with
  | proceed => cases other
  | work id =>
    simp only [Course.step]
    split
    next => exact ⟨clear.reach _ _ fun willing => willing.stepWorker id, rfl⟩
    next => exact ⟨clear, rfl⟩
  | pass nanos => exact ⟨clear.reach _ _ fun willing => ⟨_, _, willing.of_eq rfl rfl⟩, rfl⟩
  | complete code outcome =>
    simp only [Course.step]
    split
    next => exact ⟨clear.reach _ _ fun willing => ⟨_, _, willing.of_eq rfl rfl⟩, rfl⟩
    next => exact ⟨clear, rfl⟩
  | ask call reader => cases undisturbed
  | tell provider call => cases undisturbed
  | change clock cells providers =>
    exact ⟨clear.reach _ _ fun willing => ⟨_, _, willing.of_eq rfl rfl⟩, rfl⟩

omit clear in
/-- The code of the provider stays the one it is. -/
theorem code?_step (event : CourseEvent) {code : CodeId} (gathers : course.code? = some code) :
    (course.step event).code? = some code := by
  cases event with
  | proceed =>
    simp only [Course.step, proceed]
    split
    next =>
      split
      next => exact gathers
      next => exact gathers
    next ungathered => cases ungathered.symm.trans gathers
    next => exact gathers
  | work id =>
    simp only [Course.step]
    split <;> exact gathers
  | complete code outcome =>
    simp only [Course.step]
    split <;> exact gathers
  | ask call reader => cases call <;> exact gathers
  | _ => exact gathers

omit clear in
theorem code?_run (events : List CourseEvent) {code : CodeId} (gathers : course.code? = some code) :
    (course.run events).code? = some code := by
  induction events generalizing course with
  | nil => exact gathers
  | cons event rest ih => exact ih (code?_step event gathers)

/-- A caller that nobody else disturbs has a code once it has gone on for each reader and once
more. -/
theorem Clear.gathers {events : List CourseEvent}
    (undisturbed : ∀ event ∈ events, event.isCall = false)
    (enough : course.waiting.length < events.countP CourseEvent.isProceed) :
    ∃ code, (course.run events).code? = some code := by
  induction events generalizing course with
  | nil => cases enough
  | cons event rest ih =>
    have calm := fun other member => undisturbed other (List.mem_cons_of_mem _ member)
    cases proceeds : event.isProceed with
    | false =>
      obtain ⟨goes, same⟩ := clear.step (undisturbed event List.mem_cons_self) proceeds
      rw [List.countP_cons_of_neg (by simp [proceeds])] at enough
      exact ih goes calm (same ▸ enough)
    | true =>
      obtain rfl : event = .proceed := by
        cases event with
        | proceed => rfl
        | _ => cases proceeds
      rw [List.countP_cons_of_pos rfl] at enough
      cases waiting : course.waiting with
      | nil =>
        cases gathered : course.code? with
        | some code => exact ⟨code, code?_run (.proceed :: rest) gathered⟩
        | none =>
          have goes : course.step .proceed = course.gather := by
            simp only [Course.step, proceed, waiting, gathered]
          exact ⟨_, code?_run rest (by rw [goes]; rfl)⟩
      | cons binding others =>
        obtain ⟨goes, clear⟩ := clear.ask waiting
        rw [waiting, List.length_cons] at enough
        have later := ih clear calm (Nat.lt_of_succ_lt_succ enough)
        rwa [← goes] at later

end Clear

/-- A flush or shutdown of a provider whose readers are periodic succeeds just if each of them
collects, exports in time and has its exporter flushed or shut down with success, in whatever order
the caller and the threads go on and exporters' codes complete. Otherwise it has the failure of the
first reader to fail, and that is the one of its export if that has failed. It has a code once the
caller has gone on often enough, as far as no other caller and no exporter prevents it. -/
theorem outcome_propagates (pipeline : Pipeline) (provider : Nat) (target : Provider)
    (call : ReaderCall) (limits : Nat → Span) (events : List CourseEvent) (closed : pipeline.Closed)
    (equipped : ∀ binding ∈ target.bindings,
      pipeline.Equipped binding.reader (limits binding.reader))
    (open_ : call = .shutdown → ∀ binding ∈ target.bindings, binding.shielded = false) :
    let course := (begin pipeline provider target call).run events
    (∀ code, course.code? = some code → Propagates target.bindings limits code course) ∧
      ((begin pipeline provider target call).Clear →
        (∀ event ∈ events, event.isCall = false) →
          target.bindings.length < events.countP CourseEvent.isProceed →
            ∃ code, course.code? = some code) := by
  obtain ⟨sound, asks⟩ := (sound_begin closed limits).run (asks_begin open_ equipped) events
  exact ⟨fun code gathers => sound.propagates asks gathers, fun clear undisturbed enough =>
    clear.gathers undisturbed enough⟩

/-- The thread of the first reader begins before the second reader is asked, whose export fails
without a reason and whose exporter's flush fails too. The export of the first reader does not
complete in time, and somebody shuts that reader down meanwhile. -/
theorem outcome_propagates_late :
    let silent : Exporter :=
      { kind := .scripted [.code .pending] (.code .succeeded) (.code .succeeded) }
    let refusal : Response := .code (.failed (some .alreadyShutdown))
    let failing : Exporter := { kind := .scripted [.code (.failed none)] refusal refusal }
    let exporters := (((Pipeline.start 0).addExporter silent).1.addExporter failing).1
    let built := ((exporters.addPeriodics [0, 1]).1.build {} [(0, false), (1, false)]).1
    let metered := built.meter 0 ⟨"test", none, none, []⟩ true
    let counter := metered.1.instrument 0 metered.2 ⟨.counter, .unsigned, "requests", none, none⟩ []
    let pipeline := counter.1.record 0 metered.2 counter.2 (.integer 5) []
    let limit := PeriodicConfig.timeout (.ofSettings none none)
    let events : List CourseEvent :=
      [.proceed, .work 0, .proceed, .proceed, .ask .shutdown 0, .work 1, .work 1,
        .pass limit.nanos, .work 0]
    let target := (pipeline.providers[0]?).get (by decide +kernel)
    let course := (begin pipeline 0 target .flush).run events
    (begin pipeline 0 target .flush).Clear ∧ course.code? = some 3 ∧
      Propagates target.bindings (fun _ => limit) 3 course ∧ course.failures = [⟨1, 2⟩, ⟨0, 0⟩] ∧
      course.pipeline.codes.outcome 0 = .failed (some (.timeout limit)) ∧
      course.pipeline.codes.outcome 3 = .failed (some .unexplained) := by
  intro silent refusal failing exporters built metered counter pipeline limit events target course
  have closed : pipeline.Closed := ⟨Codes.closed_empty, by decide +kernel⟩
  have gathers : course.code? = some 3 := by decide +kernel
  have propagates :=
    (outcome_propagates pipeline 0 target .flush (fun _ => limit) events closed ?equipped nofun).1
  case equipped => decide +kernel
  exact ⟨⟨by decide +kernel, nofun, by decide +kernel⟩, gathers, propagates 3 gathers,
    by decide +kernel⟩

end Course

end Metering
