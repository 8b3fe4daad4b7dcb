import Metering.Proofs.Completion.FirstFailure
import Metering.Proofs.Pipeline.Calls

/-!
A flush or shutdown of a provider while the threads of its readers, the exporters and other callers
go on in any order. The caller asks one reader after the other and then gathers their codes. What
comes of asking a reader depends on its own thread and exporter only, and no step completes the
codes of two readers.
-/

namespace Metering

open Completion

/-- A request to all readers of a provider, with what their threads have found out so far. -/
structure Course where
  pipeline : Pipeline
  call : ReaderCall
  /-- The readers that have yet to be asked. -/
  waiting : List Binding
  errands : List Errand := []
  /-- The code that follows those of the readers, once all of them have been asked. -/
  code? : Option CodeId := none
  /-- The codes that others complete: those from before, and those that exporters have given. -/
  given : List CodeId
  found : List Finding := []
  /-- The errands whose codes have failed, in the order in which their failures arrive. -/
  failures : List Errand := []

inductive CourseEvent where
  /-- The caller asks the next reader, or gathers the codes when there are no more to ask. -/
  | proceed
  /-- A thread goes on if it can. -/
  | work (reader : Nat)
  | pass (nanos : Nat)
  | complete (code : CodeId) (outcome : Outcome)
  /-- Somebody else flushes or shuts down a reader. -/
  | ask (call : ReaderCall) (reader : Nat)
  /-- Somebody else flushes or shuts down a provider. -/
  | tell (provider : Nat) (call : ReaderCall)
  /-- Instruments are made, measured and observed, and the clock goes on. -/
  | change (clock : UInt64) (cells : Cells) (providers : List Provider)

def CourseEvent.isProceed : CourseEvent → Bool
  | .proceed => true
  | _ => false

/-- Whether somebody else makes a call. -/
def CourseEvent.isCall : CourseEvent → Bool
  | .ask _ _ => true
  | .tell _ _ => true
  | _ => false

namespace Course

/-- A request is made; a shutdown has set the provider's flag. -/
def begin (pipeline : Pipeline) (provider : Nat) (target : Provider) (call : ReaderCall) :
    Course where
  pipeline := pipeline.heralded provider target call
  call := call
  waiting := target.bindings
  given := List.range pipeline.codes.cells.length

/-- Whether the thread of a reader need not wait any longer. -/
def isDue (course : Course) (id : Nat) : Bool :=
  ((course.pipeline.readers[id]?).bind course.pipeline.ready?).any (· ≤ course.pipeline.time)

/-- Whether the code of an errand fails when the pipeline goes on. -/
def fails (course : Course) (after : Pipeline) (errand : Errand) : Bool :=
  (course.pipeline.codes.outcome errand.token).isPending &&
    (after.codes.outcome errand.token).isFailure

/-- The pipeline goes on, and the codes of `given` are left to others. -/
def reach (course : Course) (after : Pipeline) (given : List CodeId) (learned : List Finding) :
    Course :=
  { course with
    pipeline := after
    given
    found := course.found ++ learned
    failures := course.failures ++ course.errands.filter (course.fails after) }

/-- The pipeline goes on, and new codes are left to others. -/
def goOn (course : Course) (after : Pipeline) (learned : List Finding) : Course :=
  course.reach after
    (course.given ++ after.codes.newcomers course.pipeline.codes.cells.length) learned

/-- The caller asks a reader. -/
def ask (course : Course) (binding : Binding) (rest : List Binding) : Course :=
  let told := course.call.request course.pipeline binding
  { course.reach told.1 course.given [] with
    waiting := rest
    errands := course.errands ++ [⟨binding.reader, told.2⟩] }

/-- The caller gathers the codes. Those that have failed before tell so in the order of the
readers. -/
def gather (course : Course) : Course :=
  let made := course.pipeline.codes.allOf (course.errands.map Errand.token)
  { course.reach { course.pipeline with codes := made.1 } course.given [] with
    code? := some made.2
    failures := course.errands.filter fun errand =>
      (course.pipeline.codes.outcome errand.token).isFailure }

/-- The caller goes on, as long as it comes upon no reader that somebody else has shut down or whose
thread has ended. -/
def proceed (course : Course) : Course :=
  match course.waiting, course.code? with
  | binding :: rest, _ =>
    if course.pipeline.serves binding.reader then course.ask binding rest else course
  | [], none => course.gather
  | [], some _ => course

def step (course : Course) : CourseEvent → Course
  | .proceed => course.proceed
  | .work id =>
    if course.isDue id then
      course.goOn (course.pipeline.stepWorker id) (course.pipeline.learns id)
    else course
  | .pass nanos =>
    course.goOn { course.pipeline with time := course.pipeline.time + nanos } []
  | .complete code outcome =>
    if code ∈ course.given then course.goOn (course.pipeline.complete code outcome) [] else course
  | .ask .flush id => course.goOn (course.pipeline.flushReader id).1 []
  | .ask .shutdown id => course.goOn (course.pipeline.shutdownReader id).1 []
  | .tell provider call => course.goOn (course.pipeline.tell provider call).1 []
  | .change clock cells providers =>
    course.goOn { course.pipeline with clock, cells, providers } []

def run (course : Course) (events : List CourseEvent) : Course := events.foldl step course

/-- What has been found out about an errand. -/
def about (course : Course) (errand : Errand) : List Finding :=
  course.found.filter fun finding => finding.errand = errand

/-- Whether the message of an errand has been handled. -/
def IsHandled (course : Course) (errand : Errand) : Prop :=
  ∃ told closing, .closed errand told closing ∈ course.found

/-- Whether a thread has collected, exported what there was to export in time, and had its exporter
flushed or shut down, all with success. -/
def Prospers (course : Course) (errand : Errand) : Prop :=
  ∃ (report? : Option Report) (waited : Nat) (told : Outcome) (closing : CodeId),
    course.about errand =
      .gathered errand (.ok report?) ::
        ((report?.map fun _ => Finding.exported errand .succeeded waited).toList ++
          [.closed errand told closing]) ∧
      course.pipeline.codes.outcome closing = .succeeded

/-- Whether collecting or exporting has failed with a failure. -/
def Suffers (course : Course) (limit : Span) (errand : Errand) (failure : Failure) : Prop :=
  .gathered errand (.error failure) ∈ course.found ∨
    ∃ outcome waited, .exported errand outcome waited ∈ course.found ∧
      outcome.fault? limit = some failure

end Course

namespace Errand.Stage

section Closed

variable {codes : Codes} {given held : List CodeId} {errand : Errand} {message : Message}
  {limit : Span} {worker : Worker} {found : List Finding}
  (stage : Errand.Stage codes given held errand message limit worker found)

include stage

/-- An errand that has been handled. -/
theorem of_closed {told : Outcome} {closing : CodeId}
    (member : .closed errand told closing ∈ found) :
    ∃ early exported, Preface errand limit early exported ∧
      found = early ++ [.closed errand told closing] ∧ codes.Offered closing told ∧
      codes.Replied (· ∉ given ++ held) errand.token closing exported := by
  cases stage with
  | queued => cases member
  | exporting => simp at member
  | closing _ _ _ _ _ _ _ preface => exact absurd member (preface.unanswered told closing)
  | answered gone early exported preface told closing offered unheld replied =>
    rcases List.mem_append.mp member with before | last
    · exact absurd before (preface.unanswered _ _)
    · cases List.mem_singleton.mp last
      exact ⟨early, exported, preface, rfl, offered, replied⟩
  | lost _ _ _ unanswered => exact absurd member (unanswered told closing)

/-- The code of an errand is pending until the message has been handled. -/
theorem pending_of_unanswered (unanswered : ∀ told closing, .closed errand told closing ∉ found) :
    codes.outcome errand.token = .pending := by
  cases stage with
  | queued _ heeds => exact heeds.pending
  | exporting _ _ _ heeds => exact heeds.pending
  | closing _ _ _ _ _ heeds => exact heeds.pending
  | answered gone early exported preface told closing =>
    exact absurd (List.mem_append_right _ (List.mem_singleton_self _)) (unanswered told closing)
  | lost _ heeds => exact heeds.pending

end Closed

end Errand.Stage

namespace Course

/-- The errands of the readers that have been asked, while the code that gathers theirs follows
them. -/
structure Sound (limits : Nat → Span) (course : Course) : Prop where
  closed : course.pipeline.Closed
  watches : ∀ code, course.code? = some code →
    course.pipeline.Watches (course.errands.map Errand.token) code ∧ code ∉ course.given
  distinct : (course.errands.map Errand.token).Nodup
  inside : ∀ errand ∈ course.errands, errand.token < course.pipeline.codes.cells.length
  known : ∀ other ∈ course.given, other < course.pipeline.codes.cells.length
  dated : ∀ finding ∈ course.found, finding.errand.token < course.pipeline.codes.cells.length
  apart : ∀ errand ∈ course.errands, errand.token ∉ course.given
  stands : ∀ errand ∈ course.errands, ∃ reader exporter worker,
    errand.Stands course.call (limits errand.reader) course.pipeline course.given
      (course.about errand) reader exporter worker
  /-- The codes that exporters have given are not those of errands, nor shared by two of them. -/
  closings : ∀ errand ∈ course.errands, ∀ told closing,
    .closed errand told closing ∈ course.found → ∀ other ∈ course.errands, other.token ≠ closing
  single : ∀ first ∈ course.errands, ∀ second ∈ course.errands, ∀ told later closing,
    .closed first told closing ∈ course.found → .closed second later closing ∈ course.found →
      first = second
  listed : course.failures ⊆ course.errands
  arrived : ∀ errand ∈ course.errands, errand ∈ course.failures ↔
    ∃ reason, course.pipeline.codes.outcome errand.token = .failed reason
  first : ∀ code, course.code? = some code → ∀ errand, course.failures.head? = some errand →
    course.pipeline.codes.outcome code = course.pipeline.codes.outcome errand.token

theorem mem_about {course : Course} {errand : Errand} {finding : Finding} :
    finding ∈ course.about errand ↔ finding ∈ course.found ∧ finding.errand = errand := by
  simp [about]

/-- A reader whose thread has handled its message has suffered what made its export fail. -/
theorem suffers_iff {course : Course} {limit : Span} {errand : Errand} {told : Outcome}
    {closing : CodeId} {early : List Finding} {exported : Except Failure Unit}
    (preface : errand.Preface limit early exported)
    (about : course.about errand = early ++ [.closed errand told closing]) (failure : Failure) :
    course.Suffers limit errand failure ↔ exported = .error failure := by
  have known : ∀ finding : Finding, finding.errand = errand →
      (∀ told closing, finding ≠ .closed errand told closing) →
        (finding ∈ course.found ↔ finding ∈ early) := by
    intro finding same early
    have here : finding ∈ course.about errand ↔ finding ∈ course.found ∧ finding.errand = errand :=
      mem_about
    rw [about, List.mem_append, List.mem_singleton] at here
    simp only [same, and_true, early, or_false] at here
    exact here.symm
  rw [preface.error_iff, Suffers, known (.gathered errand (.error failure)) rfl nofun]
  exact or_congr_right <| exists₂_congr fun outcome waited =>
    and_congr_left' (known (.exported errand outcome waited) rfl nofun)

theorem more_goOn (course : Course) (after : Pipeline) (learned : List Finding) :
    ∀ other ∈ (course.goOn after learned).given,
      other ∈ course.given ∨ course.pipeline.codes.cells.length ≤ other := by
  intro other member
  rcases List.mem_append.mp member with old | new
  · exact .inl old
  · exact .inr (Codes.mem_newcomers.mp new).2.1

namespace Sound

variable {limits : Nat → Span} {course : Course} (sound : Sound limits course)

include sound

/-- Two errands with the same code are one. -/
theorem eq_of_token {first second : Errand} (here : first ∈ course.errands)
    (there : second ∈ course.errands) (same : first.token = second.token) : first = second :=
  List.inj_on_of_nodup_map sound.distinct here there same

theorem offered {errand : Errand} (listed : errand ∈ course.errands) {told : Outcome}
    {closing : CodeId} (member : .closed errand told closing ∈ course.found) :
    course.pipeline.codes.Offered closing told := by
  obtain ⟨_, _, _, stands⟩ := sound.stands errand listed
  obtain ⟨_, _, _, _, offered, _⟩ := stands.stage.of_closed (mem_about.mpr ⟨member, rfl⟩)
  exact offered

/-- What is known about an errand that has been handled. -/
theorem answered {errand : Errand} (listed : errand ∈ course.errands) {told : Outcome}
    {closing : CodeId} (member : .closed errand told closing ∈ course.found) :
    ∃ early exported, errand.Preface (limits errand.reader) early exported ∧
      course.about errand = early ++ [.closed errand told closing] ∧
      course.pipeline.codes.Replied (· ∉ course.given ++ course.pipeline.held) errand.token closing
        exported := by
  obtain ⟨_, _, _, stands⟩ := sound.stands errand listed
  obtain ⟨early, exported, preface, about, _, replied⟩ :=
    stands.stage.of_closed (mem_about.mpr ⟨member, rfl⟩)
  exact ⟨early, exported, preface, about, replied⟩

theorem pending_of_not_handled {errand : Errand} (listed : errand ∈ course.errands)
    (unhandled : ¬course.IsHandled errand) :
    course.pipeline.codes.outcome errand.token = .pending := by
  obtain ⟨_, _, _, stands⟩ := sound.stands errand listed
  exact stands.stage.pending_of_unanswered fun told closing member =>
    unhandled ⟨told, closing, (mem_about.mp member).1⟩

theorem prospers_iff {errand : Errand} (listed : errand ∈ course.errands) :
    course.pipeline.codes.outcome errand.token = .succeeded ↔ course.Prospers errand := by
  constructor
  · intro succeeded
    by_cases handled : course.IsHandled errand
    · obtain ⟨told, closing, member⟩ := handled
      obtain ⟨early, exported, preface, about, replied⟩ := sound.answered listed member
      obtain ⟨fine, closes⟩ := replied.succeeded_iff.mp succeeded
      obtain ⟨report?, waited, rfl⟩ := preface.ok_iff.mp fine
      exact ⟨report?, waited, told, closing, about, closes⟩
    · exact absurd ((sound.pending_of_not_handled listed handled).symm.trans succeeded) nofun
  · rintro ⟨report?, waited, told, closing, whole, closes⟩
    have member : .closed errand told closing ∈ course.about errand := by
      rw [whole]
      simp
    obtain ⟨early, exported, preface, about, replied⟩ :=
      sound.answered listed (mem_about.mp member).1
    have fine := preface.ok_iff.mpr ⟨report?, waited,
      List.append_cancel_right (about.symm.trans whole)⟩
    exact replied.succeeded_iff.mpr ⟨fine, closes⟩

section Reach

variable {after : Pipeline} {given : List CodeId} {learned : List Finding} {aim : CodeId}
  (advances : course.pipeline.codes.Advances course.given course.pipeline.held aim after.codes
    given after.held)

include advances

/-- Of all errands at most one has its code completed at a time. -/
theorem eq_of_changed {first second : Errand} (here : first ∈ course.errands)
    (there : second ∈ course.errands)
    (pending : ∀ errand ∈ [first, second],
      course.pipeline.codes.outcome errand.token = .pending)
    (done : ∀ errand ∈ [first, second], after.codes.outcome errand.token ≠ .pending) :
    first = second := by
  have aimed : ∀ errand ∈ [first, second], errand ∈ course.errands → errand.token = aim ∨
      ∃ told, .closed errand told aim ∈ course.found := by
    intro errand either listed
    by_cases same : aim = errand.token
    · exact .inl same.symm
    · obtain ⟨_, _, _, stands⟩ := sound.stands errand listed
      obtain ⟨told, member⟩ :=
        stands.stage.changed advances same (pending errand either) (done errand either)
      exact .inr ⟨told, (mem_about.mp member).1⟩
  rcases aimed first List.mem_cons_self here with same | ⟨told, closed⟩
  · rcases aimed second (by simp) there with other | ⟨told, closed⟩
    · exact sound.eq_of_token here there (same.trans other.symm)
    · exact absurd same (sound.closings second there told aim closed first here)
  · rcases aimed second (by simp) there with other | ⟨later, closes⟩
    · exact absurd other (sound.closings first here told aim closed second there)
    · exact sound.single first here second there told later aim closed closes

theorem lasts {errand : Errand} (listed : errand ∈ course.errands)
    (done : course.pipeline.codes.outcome errand.token ≠ .pending) :
    after.codes.outcome errand.token = course.pipeline.codes.outcome errand.token :=
  advances.abides.lasts _ (sound.inside errand listed) done

theorem arrived_reach {errand : Errand} (listed : errand ∈ course.errands) :
    errand ∈ (course.reach after given learned).failures ↔
      ∃ reason, after.codes.outcome errand.token = .failed reason := by
  have before := sound.arrived errand listed
  simp only [reach, List.mem_append, List.mem_filter, listed, true_and, fails, Bool.and_eq_true,
    Outcome.isPending_iff, Outcome.isFailure_iff, before]
  constructor
  · rintro (⟨reason, failed⟩ | ⟨_, failed⟩)
    · exact ⟨reason, (sound.lasts advances listed (failed ▸ nofun)).trans failed⟩
    · exact failed
  · rintro ⟨reason, failed⟩
    by_cases pending : course.pipeline.codes.outcome errand.token = .pending
    · exact .inr ⟨pending, reason, failed⟩
    · exact .inl ⟨reason, (sound.lasts advances listed pending).symm.trans failed⟩

theorem watches_reach {code : CodeId} (gathers : course.code? = some code) :
    after.Watches (course.errands.map Errand.token) code ∧ code ∉ given := by
  obtain ⟨watches, spared⟩ := sound.watches code gathers
  have inside := watches.tracks.gathered.present
  have free : code ∉ course.given ++ course.pipeline.held := fun member =>
    (List.mem_append.mp member).elim spared watches.apart
  have still := advances.still inside free
  exact ⟨⟨advances.abides.tracks _ _ (advances.unaimed inside free) watches.tracks,
    fun member => still (List.mem_append_right _ member)⟩,
    fun member => still (List.mem_append_left _ member)⟩

/-- The first errand to fail makes the code of the provider fail with its own failure. -/
theorem first_reach {code : CodeId} (gathers : course.code? = some code) {errand : Errand}
    (head : (course.reach after given learned).failures.head? = some errand) :
    after.codes.outcome code = after.codes.outcome errand.token := by
  have member : errand ∈ (course.reach after given learned).failures := List.mem_of_head? head
  have listed : errand ∈ course.errands := by
    rcases List.mem_append.mp member with old | new
    · exact sound.listed old
    · exact (List.mem_filter.mp new).1
  obtain ⟨watches, _⟩ := sound.watches_reach advances gathers
  obtain ⟨reason, failed⟩ := (sound.arrived_reach advances listed).mp member
  cases earlier : course.failures with
  | cons first rest =>
    have same : first = errand := by
      simpa [reach, earlier] using head
    subst same
    have told := sound.first code gathers first (by rw [earlier]; rfl)
    obtain ⟨_, known⟩ := (sound.arrived first listed).mp (earlier ▸ List.mem_cons_self)
    have inside := (sound.watches code gathers).1.tracks.gathered.present
    rw [sound.lasts advances listed (known ▸ nofun), ← told]
    exact advances.abides.lasts code inside (told.trans known ▸ nofun)
  | nil =>
    have pending : ∀ other ∈ course.errands, ∀ cause,
        after.codes.outcome other.token = .failed cause →
          course.pipeline.codes.outcome other.token = .pending := by
      intro other there cause now
      refine Decidable.byContradiction fun done => ?_
      have before := (sound.lasts advances there done).symm.trans now
      have early := (sound.arrived other there).mpr ⟨cause, before⟩
      rw [earlier] at early
      cases early
    obtain ⟨cause, told⟩ := watches.tracks.failed_iff.mpr
      ⟨errand.token, List.mem_map_of_mem listed, reason, failed⟩
    obtain ⟨token, here, blamed⟩ := watches.tracks.gathered.failed cause told
    obtain ⟨other, there, rfl⟩ := List.mem_map.mp here
    have same : other = errand := by
      refine sound.eq_of_changed advances there listed (fun each either => ?_)
        fun each either => ?_
      · rcases List.mem_cons.mp either with rfl | second
        · exact pending _ there cause blamed
        · exact List.mem_singleton.mp second ▸ pending _ listed reason failed
      · rcases List.mem_cons.mp either with rfl | second
        · exact blamed ▸ nofun
        · exact List.mem_singleton.mp second ▸ failed ▸ nofun
    exact told.trans (same ▸ blamed.symm)

theorem reach (closed : after.Closed) (known : ∀ other ∈ given, other < after.codes.cells.length)
    (news : ∀ errand told closing, .closed errand told closing ∈ learned →
      closing = course.pipeline.codes.cells.length + 1)
    (one : ∀ first ∈ learned, ∀ second ∈ learned, first.errand = second.errand)
    (dated : ∀ finding ∈ learned, finding.errand.token < course.pipeline.codes.cells.length)
    (stands : ∀ errand ∈ course.errands, ∃ reader exporter worker,
      errand.Stands course.call (limits errand.reader) after given
        (course.about errand ++ learned.filter fun finding => finding.errand = errand)
        reader exporter worker) :
    Sound limits (course.reach after given learned) := by
  have longer := advances.abides.longer
  have fresh : ∀ {errand told closing}, errand ∈ course.errands →
      .closed errand told closing ∈ course.found → closing < course.pipeline.codes.cells.length :=
    fun listed member => (sound.offered listed member).inside
  constructor
  case closed => exact closed
  case watches => exact fun code gathers => sound.watches_reach advances gathers
  case distinct => exact sound.distinct
  case inside => exact fun errand listed => Nat.lt_of_lt_of_le (sound.inside errand listed) longer
  case known => exact known
  case dated =>
    intro finding member
    refine Nat.lt_of_lt_of_le ?_ longer
    exact (List.mem_append.mp member).elim (sound.dated finding) (dated finding)
  case apart =>
    intro errand listed member
    rcases advances.more _ member with old | beyond
    · exact sound.apart errand listed old
    · exact Nat.not_lt_of_le beyond (sound.inside errand listed)
  case stands =>
    intro errand listed
    have whole : (course.reach after given learned).about errand = course.about errand ++
        learned.filter fun finding => finding.errand = errand := List.filter_append _ _
    rw [whole]
    exact stands errand listed
  case closings =>
    intro errand listed told closing member other there same
    rcases List.mem_append.mp member with old | new
    · exact sound.closings errand listed told closing old other there same
    · have lower := sound.inside other there
      rw [same, news _ _ _ new] at lower
      exact Nat.not_succ_lt_self lower
  case single =>
    intro first here second there told later closing closes recloses
    rcases List.mem_append.mp closes with old | new
    · rcases List.mem_append.mp recloses with other | late
      · exact sound.single first here second there told later closing old other
      · have lower := fresh here old
        rw [news _ _ _ late] at lower
        exact absurd lower Nat.not_succ_lt_self
    · rcases List.mem_append.mp recloses with other | late
      · have lower := fresh there other
        rw [news _ _ _ new] at lower
        exact absurd lower Nat.not_succ_lt_self
      · exact one _ new _ late
  case listed =>
    intro errand member
    rcases List.mem_append.mp member with old | new
    · exact sound.listed old
    · exact (List.mem_filter.mp new).1
  case arrived => exact fun errand listed => sound.arrived_reach advances listed
  case first => exact fun code gathers errand head => sound.first_reach advances gathers head

/-- No thread has found anything out. -/
theorem reach_quiet (closed : after.Closed)
    (known : ∀ other ∈ given, other < after.codes.cells.length)
    (stands : ∀ errand ∈ course.errands, ∃ reader exporter worker,
      errand.Stands course.call (limits errand.reader) after given (course.about errand) reader
        exporter worker) :
    Sound limits (course.reach after given []) := by
  refine sound.reach advances closed known ?news ?one (List.forall_mem_nil _)
    fun errand listed => ?stands
  case news => exact fun _ _ _ member => absurd member List.not_mem_nil
  case one => exact fun _ member => absurd member List.not_mem_nil
  case stands =>
    rw [List.filter_nil, List.append_nil]
    exact stands errand listed

end Reach

/-- The codes that are left to others when the pipeline goes on are there. -/
theorem known_goOn {after : Pipeline}
    (longer : course.pipeline.codes.cells.length ≤ after.codes.cells.length)
    (learned : List Finding) :
    ∀ other ∈ (course.goOn after learned).given, other < after.codes.cells.length := by
  intro other member
  rcases List.mem_append.mp member with old | new
  · exact Nat.lt_of_lt_of_le (sound.known other old) longer
  · exact (Codes.mem_newcomers.mp new).1

/-- No reader has been asked and no thread has gone on. -/
theorem goOn_codes {after : Pipeline} {aim : CodeId} (closed : after.Closed)
    (abides : course.pipeline.codes.Abides after.codes aim)
    (aimed : course.pipeline.codes.cells.length ≤ aim ∨
      (aim ∈ course.given ∧ after.codes.outcome aim ≠ .pending))
    (readers : after.readers = course.pipeline.readers)
    (exporters : after.exporters = course.pipeline.exporters) :
    Sound limits (course.goOn after []) := by
  have held : after.held = course.pipeline.held := by rw [Pipeline.held, readers, Pipeline.held]
  have advances : course.pipeline.codes.Advances course.given course.pipeline.held aim after.codes
      (course.goOn after []).given after.held :=
    ⟨abides, aimed.imp_right .inr, course.more_goOn after [], fun _ member => .inl (held ▸ member)⟩
  refine sound.reach_quiet advances closed (sound.known_goOn abides.longer [])
    fun errand listed => ?_
  obtain ⟨reader, exporter, worker, stands⟩ := sound.stands errand listed
  have apart : aim ≠ errand.token := by
    rintro rfl
    rcases aimed with beyond | ⟨given, _⟩
    · exact Nat.not_lt_of_le beyond (sound.inside errand listed)
    · exact sound.apart errand listed given
  refine ⟨reader, exporter, worker, ?_⟩
  exact stands.goOn (by rw [readers]) (exporters ▸ stands.present)
    (fun other there here concerned => ⟨there, readers ▸ here, concerned⟩) advances apart
    (sound.inside errand listed)

theorem goOn_unchanged {after : Pipeline} (codes : after.codes = course.pipeline.codes)
    (readers : after.readers = course.pipeline.readers)
    (exporters : after.exporters = course.pipeline.exporters) :
    Sound limits (course.goOn after []) := by
  have held : after.held = course.pipeline.held := by rw [Pipeline.held, readers, Pipeline.held]
  have closed : after.Closed := ⟨codes ▸ sound.closed.codes, by
    rw [held, codes]
    exact sound.closed.held⟩
  exact sound.goOn_codes closed (codes ▸ .refl sound.closed.codes _) (.inl (Nat.le_refl _)) readers
    exporters

/-- Somebody completes a code that is left to others. -/
theorem complete {other : CodeId} (given : other ∈ course.given) (outcome : Outcome) :
    Sound limits (course.goOn (course.pipeline.complete other outcome) []) := by
  by_cases pending : outcome = .pending
  · subst pending
    exact sound.goOn_unchanged (Codes.settle_pending _ _) rfl rfl
  · have inside := sound.known other given
    exact sound.goOn_codes (Pipeline.Continues.complete sound.closed inside outcome).closed
      (.settle sound.closed.codes inside outcome)
      (.inr ⟨given, Codes.outcome_settle_ne inside pending⟩) rfl rfl

/-- Somebody flushes or shuts down readers. -/
theorem called {after : Pipeline} (called : course.pipeline.Called after) {given : List CodeId}
    (more : ∀ code ∈ given, code ∈ course.given ∨ course.pipeline.codes.cells.length ≤ code)
    (known : ∀ other ∈ given, other < after.codes.cells.length) :
    Sound limits (course.reach after given []) := by
  have grows := called.grows sound.closed
  have advances : course.pipeline.codes.Advances course.given course.pipeline.held
      course.pipeline.codes.cells.length after.codes given after.held :=
    ⟨grows.abides _, .inl (Nat.le_refl _), more, fun _ member => grows.held member⟩
  refine sound.reach_quiet advances grows.closed known fun errand listed => ?_
  obtain ⟨reader, exporter, worker, stands⟩ := sound.stands errand listed
  have lower := sound.inside errand listed
  obtain ⟨later, thread, stands⟩ :=
    stands.called called.toLeaves grows advances (Nat.ne_of_gt lower) lower
  exact ⟨later, exporter, thread, stands⟩

theorem goOn_called {after : Pipeline} (called : course.pipeline.Called after) :
    Sound limits (course.goOn after []) :=
  sound.called called (course.more_goOn after []) (sound.known_goOn called.longer [])

/-- Codes that were there stay those of others when the caller goes on. -/
theorem reach_called {after : Pipeline} (called : course.pipeline.Called after) :
    Sound limits (course.reach after course.given []) :=
  sound.called called (fun _ => .inl) fun other member =>
    Nat.lt_of_lt_of_le (sound.known other member) called.longer

section Work

variable {id exporter : Nat} {reader : Reader} {worker : Worker}
  (found : course.pipeline.readers[id]? = some reader)
  (kind : reader.kind = .periodic exporter worker)

section Own

variable {errand : Errand} {aim : CodeId} (listed : errand ∈ course.errands)
  (stands : errand.Stands course.call (limits errand.reader) course.pipeline course.given
    (course.about errand) reader exporter worker)
  (advances : course.pipeline.codes.Advances course.given course.pipeline.held aim
    (course.pipeline.stepWorker id).codes
    (course.goOn (course.pipeline.stepWorker id) (course.pipeline.learns id)).given
    (course.pipeline.stepWorker id).held)

include listed stands advances

/-- The thread of a reader has gone on with the message of an errand. -/
theorem stage_attended (own : errand.reader = id) {target changed : Exporter} {later : Worker}
    (present : course.pipeline.exporters[exporter]? = some target)
    (move : course.pipeline.Move reader worker target changed (course.pipeline.stepWorker id) later)
    (due : ∃ time, course.pipeline.ready? reader = some time ∧ time ≤ course.pipeline.time)
    (current : worker.current? reader.handles = some (course.call.message errand.token)) :
    Errand.Stage (course.pipeline.stepWorker id).codes
      (course.goOn (course.pipeline.stepWorker id) (course.pipeline.learns id)).given
      (course.pipeline.stepWorker id).held errand (course.call.message errand.token)
      (limits errand.reader) later
      (course.about errand ++
        (course.pipeline.learns id).filter fun finding => finding.errand = errand) := by
  subst own
  have token : (course.call.message errand.token).code = errand.token := course.call.code_message _
  have learned := Pipeline.filter_learns stands.periodic current
  rw [token] at learned
  have known : ∀ other ∈ course.given ++ course.pipeline.held,
      other < course.pipeline.codes.cells.length := fun other member =>
    (List.mem_append.mp member).elim (sound.known other) (sound.closed.held other)
  have attended := stands.stage.attend move stands.periodic present current token
    sound.closed.codes known stands.timed stands.single due
  have lower := Nat.lt_of_lt_of_le (sound.inside errand listed) advances.abides.longer
  have rests := Codes.Advances.rest advances.abides.closed (course.goOn
    (course.pipeline.stepWorker errand.reader) (course.pipeline.learns errand.reader)).given
    (course.pipeline.codes_stepWorker errand.reader).1
  rw [learned]
  exact attended.advance rests (Nat.ne_of_gt lower) lower

/-- The thread of a reader has gone on with something else than the message of an errand. -/
theorem stage_left (own : errand.reader = id) {target changed : Exporter} {later : Worker}
    (move : course.pipeline.Move reader worker target changed (course.pipeline.stepWorker id) later)
    (aimed : course.pipeline.codes.cells.length ≤ aim ∨
      (worker.current? reader.handles).map Message.code = some aim)
    (elsewhere : worker.current? reader.handles ≠ some (course.call.message errand.token)) :
    Errand.Stage (course.pipeline.stepWorker id).codes
      (course.goOn (course.pipeline.stepWorker id) (course.pipeline.learns id)).given
      (course.pipeline.stepWorker id).held errand (course.call.message errand.token)
      (limits errand.reader) later
      (course.about errand ++
        (course.pipeline.learns id).filter fun finding => finding.errand = errand) := by
  subst own
  have token : (course.call.message errand.token).code = errand.token := course.call.code_message _
  have other : ∀ message, worker.current? reader.handles = some message →
      message.code ≠ errand.token := fun message is =>
    stands.stage.code_ne elsewhere token stands.single is
  have unlearned := Pipeline.filter_learns_of_ne stands.periodic fun message is same =>
    other message is (congrArg Errand.token same).symm
  have apart : aim ≠ errand.token := by
    rintro rfl
    rcases aimed with beyond | is
    · exact Nat.not_lt_of_le beyond (sound.inside errand listed)
    · obtain ⟨message, current, same⟩ := Option.map_eq_some_iff.mp is
      exact other message current same
  rw [unlearned, List.append_nil]
  exact (stands.stage.leave elsewhere token move.mailbox.2 move.messages.subset).advance advances
    apart (sound.inside errand listed)

include found kind

/-- The reader of an errand when its own thread has gone on. -/
theorem stands_own (own : errand.reader = id)
    (due : ∃ time, course.pipeline.ready? reader = some time ∧ time ≤ course.pipeline.time)
    (aimed : course.pipeline.codes.cells.length ≤ aim ∨
      (worker.current? reader.handles).map Message.code = some aim) :
    ∃ holder later, errand.Stands course.call (limits errand.reader) (course.pipeline.stepWorker id)
      (course.goOn (course.pipeline.stepWorker id) (course.pipeline.learns id)).given
      (course.about errand ++
        (course.pipeline.learns id).filter fun finding => finding.errand = errand)
      holder exporter later := by
  have present := List.getElem?_eq_getElem stands.present
  obtain ⟨changed, later, spares, move⟩ := Pipeline.stepWorker_move found kind present
  refine ⟨reader.setWorker later, later, ?_⟩
  constructor
  case periodic => exact own ▸ spares.periodic? found kind
  case present =>
    rw [spares.exporters, List.length_set]
    exact stands.present
  case timed => exact move.mailbox.1.trans stands.timed
  case single =>
    exact Nat.le_trans (List.Sublist.count_le _ (move.messages.map Message.code)) stands.single
  case alone =>
    intro other holder here concerned
    obtain ⟨old, before, held⟩ := Pipeline.holder_stepWorker found kind here concerned
    exact stands.alone other old before held
  case stage =>
    by_cases current : worker.current? reader.handles = some (course.call.message errand.token)
    · exact sound.stage_attended listed stands advances own present move due current
    · exact sound.stage_left listed stands advances own move aimed current

end Own

include found kind

/-- The reader of an errand when a thread has gone on that is not its own. -/
theorem stands_apart {errand : Errand} {holder : Reader} {number : Nat} {thread : Worker}
    {aim : CodeId} (listed : errand ∈ course.errands)
    (stands : errand.Stands course.call (limits errand.reader) course.pipeline course.given
      (course.about errand) holder number thread)
    (other : errand.reader ≠ id)
    (aimed : course.pipeline.codes.cells.length ≤ aim ∨ aim ∈ reader.codes)
    (advances : course.pipeline.codes.Advances course.given course.pipeline.held aim
      (course.pipeline.stepWorker id).codes
      (course.goOn (course.pipeline.stepWorker id) (course.pipeline.learns id)).given
      (course.pipeline.stepWorker id).held) :
    errand.Stands course.call (limits errand.reader) (course.pipeline.stepWorker id)
      (course.goOn (course.pipeline.stepWorker id) (course.pipeline.learns id)).given
      (course.about errand ++
        (course.pipeline.learns id).filter fun finding => finding.errand = errand)
      holder number thread := by
  obtain ⟨later, readers, fewer⟩ := Pipeline.readers_stepWorker found kind
  have unlearned := Pipeline.filter_learns_of_ne (Pipeline.periodic?_of found kind)
    fun message _ same => other (congrArg Errand.reader same)
  have apart : aim ≠ errand.token := by
    rintro rfl
    rcases aimed with beyond | held
    · exact Nat.not_lt_of_le beyond (sound.inside errand listed)
    · exact other (stands.alone id reader found held).symm
  obtain ⟨target, there, _⟩ := (course.pipeline.kept_stepWorker id).exporters number _
    (List.getElem?_eq_getElem stands.present)
  rw [unlearned, List.append_nil]
  refine stands.goOn ?_ (List.getElem?_eq_some_iff.mp there).1
    (fun place holder here concerned => ?_) advances apart (sound.inside errand listed)
  · rw [readers, List.getElem?_set_ne (Ne.symm other)]
  · exact Pipeline.holder_stepWorker found kind here concerned

/-- The thread of a reader goes on. -/
theorem work (due : ∃ time, course.pipeline.ready? reader = some time ∧
      time ≤ course.pipeline.time) :
    Sound limits
      (course.goOn (course.pipeline.stepWorker id) (course.pipeline.learns id)) := by
  have periodic : course.pipeline.periodic? id = some (reader, exporter, worker) :=
    Pipeline.periodic?_of found kind
  have holds : reader.codes ⊆ course.pipeline.held := fun other member =>
    List.mem_flatMap.mpr ⟨reader, List.mem_of_getElem? found, member⟩
  obtain ⟨aim, abides, aimed, own⟩ := Pipeline.aim_stepWorker found kind sound.closed
  have advances : course.pipeline.codes.Advances course.given course.pipeline.held aim
      (course.pipeline.stepWorker id).codes
      (course.goOn (course.pipeline.stepWorker id) (course.pipeline.learns id)).given
      (course.pipeline.stepWorker id).held :=
    ⟨abides, aimed.imp_right fun member => .inl (holds member), course.more_goOn _ _,
      fun _ member => .inl ((course.pipeline.codes_stepWorker id).1 member)⟩
  have known := sound.known_goOn abides.longer (course.pipeline.learns id)
  refine sound.reach advances (sound.closed.stepWorker id) known ?news ?one ?dated
    fun errand listed => ?stands
  case news =>
    intro errand told closing member
    exact Pipeline.closing_of_mem_learns member
  case one =>
    intro first here second there
    obtain ⟨message, current, is⟩ := Pipeline.errand_of_mem_learns periodic here
    obtain ⟨other, same, alike⟩ := Pipeline.errand_of_mem_learns periodic there
    cases current.symm.trans same
    exact is.trans alike.symm
  case dated =>
    intro finding member
    obtain ⟨message, current, is⟩ := Pipeline.errand_of_mem_learns periodic member
    have codes : reader.codes = worker.messages.map Message.code := by
      simp only [Reader.codes, kind]
    have inside : message.code ∈ reader.codes := by
      rw [codes, worker.messages_eq reader.handles, current]
      exact List.mem_map_of_mem List.mem_cons_self
    exact is ▸ sound.closed.held _ (holds inside)
  case stands =>
    obtain ⟨holder, number, thread, stands⟩ := sound.stands errand listed
    by_cases mine : errand.reader = id
    · have same := stands.periodic
      rw [mine, periodic] at same
      cases same
      obtain ⟨holder, later, stands⟩ :=
        sound.stands_own found kind listed stands advances mine due (own stands.present)
      exact ⟨holder, exporter, later, stands⟩
    · exact ⟨holder, number, thread,
        sound.stands_apart found kind listed stands mine aimed advances⟩

end Work

/-- A reader is asked: its errand is one more. -/
theorem enlist {token : CodeId} {binding : Binding} {rest : List Binding}
    (ungathered : course.code? = none) (inside : token < course.pipeline.codes.cells.length)
    (apart : token ∉ course.given)
    (fresh : ∀ errand ∈ course.errands, errand.token ≠ token)
    (unknown : ∀ finding ∈ course.found, finding.errand.token ≠ token)
    (unshared : ∀ errand ∈ course.errands, ∀ told closing,
      .closed errand told closing ∈ course.found → closing ≠ token)
    (pending : course.pipeline.codes.outcome token = .pending)
    (stands : ∃ reader exporter worker,
      Errand.Stands course.call (limits binding.reader) course.pipeline course.given
        ⟨binding.reader, token⟩ [] reader exporter worker) :
    Sound limits { course with
      waiting := rest
      errands := course.errands ++ [⟨binding.reader, token⟩] } := by
  have unheard : ∀ told closing,
      .closed (⟨binding.reader, token⟩ : Errand) told closing ∉ course.found :=
    fun told closing member => unknown _ member rfl
  constructor
  case closed => exact sound.closed
  case watches => exact fun code gathers => absurd (ungathered.symm.trans gathers) nofun
  case distinct =>
    rw [List.map_append, List.map_singleton, List.nodup_append]
    refine ⟨sound.distinct, List.nodup_singleton _, ?_⟩
    rintro code member other here rfl
    obtain ⟨errand, listed, rfl⟩ := List.mem_map.mp member
    exact fresh errand listed (List.mem_singleton.mp here)
  case inside =>
    exact List.forall_mem_append.mpr ⟨sound.inside, List.forall_mem_singleton.mpr inside⟩
  case known => exact sound.known
  case dated => exact sound.dated
  case apart => exact List.forall_mem_append.mpr ⟨sound.apart, List.forall_mem_singleton.mpr apart⟩
  case stands =>
    refine List.forall_mem_append.mpr ⟨sound.stands, List.forall_mem_singleton.mpr ?_⟩
    have none : course.about ⟨binding.reader, token⟩ = [] :=
      List.filter_eq_nil_iff.mpr fun finding member => by
        simpa using fun same => unknown finding member (congrArg Errand.token same)
    exact none ▸ stands
  case closings =>
    intro errand listed told closing member other there
    rcases List.mem_append.mp listed with former | new
    · rcases List.mem_append.mp there with old | last
      · exact sound.closings errand former told closing member other old
      · rw [List.mem_singleton.mp last]
        exact (unshared errand former told closing member).symm
    · cases List.mem_singleton.mp new
      exact absurd member (unheard told closing)
  case single =>
    intro first here second there told later closing closes recloses
    rcases List.mem_append.mp here with former | new
    · rcases List.mem_append.mp there with old | last
      · exact sound.single first former second old told later closing closes recloses
      · cases List.mem_singleton.mp last
        exact absurd recloses (unheard later closing)
    · cases List.mem_singleton.mp new
      exact absurd closes (unheard told closing)
  case listed => exact fun errand failed => List.mem_append_left _ (sound.listed failed)
  case arrived =>
    refine List.forall_mem_append.mpr ⟨sound.arrived, List.forall_mem_singleton.mpr ⟨?_, ?_⟩⟩
    · exact fun failed => absurd rfl (fresh _ (sound.listed failed))
    · exact fun ⟨reason, failed⟩ => absurd (pending.symm.trans failed) nofun
  case first => exact fun code gathers => absurd (ungathered.symm.trans gathers) nofun

/-- The caller asks a reader. -/
theorem ask {binding : Binding} {rest : List Binding} (ungathered : course.code? = none)
    (equipped : course.pipeline.Equipped binding.reader (limits binding.reader))
    (open_ : course.call = .shutdown → binding.shielded = false)
    (serves : course.pipeline.serves binding.reader = true) :
    Sound limits (course.ask binding rest) := by
  obtain ⟨reader, exporter, worker, found, present, timed⟩ := equipped
  obtain ⟨_, _, _, periodic, running, alive⟩ := Pipeline.serves_iff.mp serves
  cases found.symm.trans periodic
  obtain ⟨later, kind, requests⟩ := Pipeline.request_eq found running alive course.call open_
  obtain ⟨there, before⟩ := Pipeline.of_periodic? found
  have told := Pipeline.called_request course.call course.pipeline binding
  have reached := sound.reach_called told
  have codes : later.codes = reader.codes ++ [course.pipeline.codes.cells.length] := by
    simp only [Reader.codes, kind, before, Worker.messages, List.map_append, List.append_assoc,
      List.map_singleton, ReaderCall.code_message]
  have stands : Errand.Stands course.call (limits binding.reader)
      (course.pipeline.posted binding.reader later) course.given
      ⟨binding.reader, course.pipeline.codes.cells.length⟩ [] later exporter _ :=
    Errand.stands_posted sound.closed there kind codes present timed
  have grown : (course.pipeline.posted binding.reader later).codes.cells.length =
      course.pipeline.codes.cells.length + 1 := course.pipeline.codes.length_create .pending
  unfold Course.ask
  rw [requests] at reached ⊢
  refine reached.enlist ungathered (grown ▸ Nat.lt_succ_self _) ?_ ?_ ?_ ?_ ?_
    ⟨later, exporter, _, stands⟩
  · exact fun member => Nat.lt_irrefl _ (sound.known _ member)
  · exact fun errand listed => Nat.ne_of_lt (sound.inside errand listed)
  · intro finding member
    rw [Course.reach, List.append_nil] at member
    exact Nat.ne_of_lt (sound.dated finding member)
  · intro errand listed told closing member
    rw [Course.reach, List.append_nil] at member
    exact Nat.ne_of_lt (sound.offered listed member).inside
  · exact Codes.outcome_create _ _

theorem tokens_inside : ∀ child ∈ course.errands.map Errand.token,
    child < course.pipeline.codes.cells.length :=
  List.forall_mem_map.mpr sound.inside

theorem abides_gather : course.pipeline.codes.Abides course.gather.pipeline.codes
    course.pipeline.codes.cells.length :=
  .allOf sound.closed.codes sound.tokens_inside _

/-- Gathering completes no code that is there. -/
theorem failed_gather {errand : Errand} (listed : errand ∈ course.errands) :
    (∃ reason, course.pipeline.codes.outcome errand.token = .failed reason) ↔
      ∃ reason, course.gather.pipeline.codes.outcome errand.token = .failed reason := by
  by_cases pending : course.pipeline.codes.outcome errand.token = .pending
  · refine ⟨fun ⟨_, failed⟩ => absurd (pending.symm.trans failed) nofun, fun ⟨_, failed⟩ => ?_⟩
    have advances : course.pipeline.codes.Advances course.given course.pipeline.held
        course.pipeline.codes.cells.length course.gather.pipeline.codes course.given
        course.pipeline.held :=
      ⟨sound.abides_gather, .inl (Nat.le_refl _), fun _ => .inl, fun _ => .inl⟩
    obtain ⟨_, _, _, stands⟩ := sound.stands errand listed
    obtain ⟨told, member⟩ := stands.stage.changed advances
      (Nat.ne_of_gt (sound.inside errand listed)) pending (failed ▸ nofun)
    have lower := (sound.offered listed (mem_about.mp member).1).inside
    exact absurd lower (Nat.lt_irrefl _)
  · rw [sound.abides_gather.lasts _ (sound.inside errand listed) pending]

/-- Of the codes that have failed before, the first one tells. -/
theorem first_gather {code : CodeId} (gathers : course.gather.code? = some code) {errand : Errand}
    (head : course.gather.failures.head? = some errand) :
    course.gather.pipeline.codes.outcome code =
      course.gather.pipeline.codes.outcome errand.token := by
  cases gathers
  have found : course.errands.find? (fun errand =>
      (course.pipeline.codes.outcome errand.token).isFailure) = some errand :=
    List.head?_filter.symm.trans head
  obtain ⟨fails, early, rest, split, fine⟩ := List.find?_eq_some_iff_append.mp found
  obtain ⟨reason, failed⟩ := (Outcome.isFailure_iff _).mp fails
  have inside := sound.inside errand (List.mem_of_find?_eq_some found)
  have tokens : course.errands.map Errand.token =
      early.map Errand.token ++ errand.token :: rest.map Errand.token := by
    rw [split, List.map_append, List.map_cons]
  have unfailed : ∀ child ∈ early.map Errand.token, child < course.pipeline.codes.cells.length ∧
      ∀ cause, course.pipeline.codes.outcome child ≠ .failed cause := by
    refine List.forall_mem_map.mpr fun other before => ?_
    refine ⟨sound.inside other (split ▸ List.mem_append_left _ before), fun cause told => ?_⟩
    have spared := fine other before
    rw [told] at spared
    cases spared
  have blamed := Codes.outcome_allOf_of_failed (early.map Errand.token) (rest.map Errand.token)
    unfailed inside failed
  rw [← tokens] at blamed
  exact blamed.trans
    ((sound.abides_gather.lasts _ inside (failed ▸ nofun)).trans failed).symm

/-- The caller gathers the codes of all readers. -/
theorem gather : Sound limits course.gather := by
  have called : course.pipeline.Called course.gather.pipeline :=
    .of_codes rfl rfl rfl rfl sound.abides_gather.longer fun _ =>
      ⟨_, Nat.le_refl _, sound.abides_gather⟩
  have reached := sound.reach_called called
  constructor
  case closed => exact reached.closed
  case watches =>
    rintro code gathers
    cases gathers
    exact ⟨⟨sound.closed.codes.allOf sound.tokens_inside, fun member =>
      Nat.lt_irrefl _ (sound.closed.held _ member)⟩, fun member =>
      Nat.lt_irrefl _ (sound.known _ member)⟩
  case distinct => exact reached.distinct
  case inside => exact reached.inside
  case known => exact reached.known
  case dated => exact reached.dated
  case apart => exact reached.apart
  case stands => exact reached.stands
  case closings => exact reached.closings
  case single => exact reached.single
  case listed => exact fun errand member => (List.mem_filter.mp member).1
  case arrived =>
    intro errand listed
    refine Iff.trans ?_ (sound.failed_gather listed)
    simp only [Course.gather, List.mem_filter, Outcome.isFailure_iff]
    exact and_iff_right listed
  case first => exact fun code gathers errand head => sound.first_gather gathers head

end Sound

/-- The readers that the caller has asked, and those that it has yet to ask. -/
structure Asks (limits : Nat → Span) (bindings : List Binding) (course : Course) : Prop where
  asked : course.errands.map Errand.reader ++ course.waiting.map (·.reader) =
    bindings.map (·.reader)
  finished : ∀ code, course.code? = some code → course.waiting = []
  equipped : ∀ binding ∈ course.waiting,
    course.pipeline.Equipped binding.reader (limits binding.reader)
  open_ : course.call = .shutdown → ∀ binding ∈ course.waiting, binding.shielded = false

section Asks

variable {limits : Nat → Span} {bindings : List Binding} {course : Course}
  (asks : Asks limits bindings course)

include asks

theorem Asks.reach {after : Pipeline} (given : List CodeId) (learned : List Finding)
    (equipped : ∀ id limit, course.pipeline.Equipped id limit → after.Equipped id limit) :
    Asks limits bindings (course.reach after given learned) where
  asked := asks.asked
  finished := asks.finished
  equipped := fun binding member => equipped _ _ (asks.equipped binding member)
  open_ := asks.open_

theorem Asks.proceed : Asks limits bindings course.proceed := by
  unfold Course.proceed
  split
  next _ binding rest waiting =>
    split
    next =>
      have told := (Pipeline.called_request course.call course.pipeline binding).toLeaves
      have within : ∀ other ∈ rest, other ∈ course.waiting := fun other member =>
        waiting ▸ List.mem_cons_of_mem _ member
      constructor
      case asked =>
        rw [← asks.asked, waiting]
        simp [Course.ask]
      case finished =>
        exact fun code gathers => nomatch waiting.symm.trans (asks.finished code gathers)
      case equipped =>
        exact fun other member => (asks.equipped other (within other member)).leaves told
      case open_ => exact fun shuts other member => asks.open_ shuts other (within other member)
    next => exact asks
  next waiting ungathered =>
    constructor
    case asked => exact asks.asked
    case finished => exact fun _ _ => waiting
    case equipped => exact fun binding member => nomatch waiting ▸ member
    case open_ => exact asks.open_
  next => exact asks

theorem Asks.step (event : CourseEvent) : Asks limits bindings (course.step event) := by
  cases event with
  | proceed => exact asks.proceed
  | work id =>
    simp only [Course.step]
    split
    next => exact asks.reach _ _ fun other limit equipped => equipped.stepWorker id
    next => exact asks
  | pass nanos => exact asks.reach _ _ fun _ _ => id
  | complete code outcome =>
    simp only [Course.step]
    split
    next => exact asks.reach _ _ fun _ _ => id
    next => exact asks
  | ask call reader =>
    cases call with
    | flush =>
      exact asks.reach _ _ fun _ _ equipped =>
        equipped.leaves (course.pipeline.called_flushReader reader).toLeaves
    | shutdown =>
      exact asks.reach _ _ fun _ _ equipped =>
        equipped.leaves (course.pipeline.called_shutdownReader reader).toLeaves
  | tell provider call =>
    exact asks.reach _ _ fun _ _ equipped =>
      equipped.leaves (course.pipeline.called_tell provider call).toLeaves
  | change clock cells providers => exact asks.reach _ _ fun _ _ => id

variable (sound : Sound limits course)

include sound

theorem Sound.proceed : Sound limits course.proceed := by
  unfold Course.proceed
  split
  next _ binding rest waiting =>
    split
    next serves =>
      have member : binding ∈ course.waiting := waiting ▸ List.mem_cons_self
      have ungathered : course.code? = none := by
        cases gathers : course.code? with
        | none => rfl
        | some code => cases waiting.symm.trans (asks.finished code gathers)
      exact sound.ask ungathered (asks.equipped binding member)
        (fun shuts => asks.open_ shuts binding member) serves
    next => exact sound
  next => exact sound.gather
  next => exact sound

theorem Sound.step (event : CourseEvent) : Sound limits (course.step event) := by
  cases event with
  | proceed => exact sound.proceed asks
  | work id =>
    simp only [Course.step]
    split
    next due =>
      simp only [isDue, Option.any_eq_true, Option.bind_eq_some_iff, decide_eq_true_eq] at due
      obtain ⟨time, ⟨reader, found, ready⟩, passed⟩ := due
      cases kind : reader.kind with
      | periodic exporter worker => exact sound.work found kind ⟨time, ready, passed⟩
      | manual _ => simp [Pipeline.ready?, Reader.worker?, kind] at ready
      | counting _ _ _ _ => simp [Pipeline.ready?, Reader.worker?, kind] at ready
    next => exact sound
  | pass nanos => exact sound.goOn_unchanged rfl rfl rfl
  | complete code outcome =>
    simp only [Course.step]
    split
    next given => exact sound.complete given outcome
    next => exact sound
  | ask call reader =>
    cases call with
    | flush => exact sound.goOn_called (course.pipeline.called_flushReader reader)
    | shutdown => exact sound.goOn_called (course.pipeline.called_shutdownReader reader)
  | tell provider call => exact sound.goOn_called (course.pipeline.called_tell provider call)
  | change clock cells providers => exact sound.goOn_unchanged rfl rfl rfl

theorem Sound.run (events : List CourseEvent) :
    Sound limits (course.run events) ∧ Asks limits bindings (course.run events) := by
  induction events generalizing course with
  | nil => exact ⟨sound, asks⟩
  | cons event rest ih => exact ih (asks.step event) (sound.step asks event)

end Asks

end Course

end Metering
