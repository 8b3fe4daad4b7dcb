import Metering.Proofs.Pipeline.Held

/-!
How codes go on when one of them is completed or answered: aggregates and links between the others
are kept, and a code that nothing concerns stays that way. The code of a message that has been
answered completes with the code that the exporter has given.
-/

namespace Metering

open Completion

namespace Completion.Codes

/-- How codes have changed if nothing but `target` was completed on request. -/
structure Evolves (before after : Codes) (target : CodeId) : Prop where
  closed : after.Closed
  longer : before.cells.length ≤ after.cells.length
  done : ∀ code < before.cells.length, before.outcome code ≠ .pending →
    after.outcome code ≠ .pending
  tracks : ∀ children aggregate, target ≠ aggregate → before.Tracks children aggregate →
    after.Tracks children aggregate
  links : ∀ source < before.cells.length, ∀ sink < before.cells.length,
    before.Links [] source sink → after.Links [] source sink
  untouched : ∀ code, target ≠ code → before.Untouched [] code → after.Untouched [] code

namespace Evolves

variable {codes : Codes} (closed : codes.Closed)

include closed

theorem refl (target : CodeId) : codes.Evolves codes target :=
  ⟨closed, Nat.le_refl _, fun _ _ done => done, fun _ _ _ tracks => tracks,
    fun _ _ _ _ links => links, fun _ _ untouched => untouched⟩

theorem create (outcome : Outcome) (target : CodeId) :
    codes.Evolves (codes.create outcome).1 target where
  closed := closed.create outcome
  longer := codes.length_create outcome ▸ Nat.le_succ _
  done := fun code inside done => by
    have same : (codes.create outcome).1.outcome code = codes.outcome code :=
      outcome_push rfl inside
    exact same ▸ done
  tracks := fun _ _ _ tracks => tracks.create outcome
  links := fun _ _ _ inside links => links.push rfl rfl inside
  untouched := fun _ _ untouched => untouched.push rfl rfl rfl

theorem settle {code : CodeId} (inside : code < codes.cells.length) (outcome : Outcome) :
    codes.Evolves (codes.settle code outcome) code where
  closed := closed.settle inside outcome
  longer := length_le_drain _ _
  done := fun other present done => (outcome_drain_of_done present done).symm ▸ done
  tracks := fun _ _ other tracks => tracks.settle inside other outcome
  links := fun source present sink there links => (links.enter _).drain present there
  untouched := fun other apart untouched => untouched.drain fun task member concerned => by
    cases List.mem_singleton.mp member
    exact apart (List.mem_singleton.mp concerned).symm

omit closed

theorem trans {first second third : Codes} {target : CodeId}
    (begins : first.Evolves second target) (ends : second.Evolves third target) :
    first.Evolves third target where
  closed := ends.closed
  longer := Nat.le_trans begins.longer ends.longer
  done := fun code inside done =>
    ends.done code (Nat.lt_of_lt_of_le inside begins.longer) (begins.done code inside done)
  tracks := fun children aggregate other tracks =>
    ends.tracks children aggregate other (begins.tracks children aggregate other tracks)
  links := fun source inside sink present links =>
    ends.links source (Nat.lt_of_lt_of_le inside begins.longer) sink
      (Nat.lt_of_lt_of_le present begins.longer) (begins.links source inside sink present links)
  untouched := fun code other untouched =>
    ends.untouched code other (begins.untouched code other untouched)

end Evolves

theorem Links.allOf {codes : Codes} {source target : CodeId} (links : codes.Links [] source target)
    (inside : source < codes.cells.length) (present : target < codes.cells.length)
    (children : List CodeId) : (codes.allOf children).1.Links [] source target := by
  have cells := codes.gather_cells children
  have longer := length_push cells
  have pushed : (codes.gather children).1.Links [] source target := links.push rfl cells present
  exact (pushed.enter _).drain (longer ▸ Nat.lt_succ_of_lt inside)
    (longer ▸ Nat.lt_succ_of_lt present)

theorem Untouched.allOf {codes : Codes} {code : CodeId} (untouched : codes.Untouched [] code)
    {children : List CodeId} (apart : code ∉ children) :
    (codes.allOf children).1.Untouched [] code := by
  have pushed : (codes.gather children).1.Untouched [] code :=
    untouched.push rfl (codes.gather_cells children) rfl
  refine pushed.drain fun task member concerned => ?_
  obtain ⟨child, listed, rfl⟩ := List.mem_map.mp member
  simp only [Task.codes, Callback.codes, List.mem_cons, List.not_mem_nil, or_false] at concerned
  rcases concerned with rfl | rfl | rfl
  · exact apart listed
  · exact apart listed
  · exact Nat.lt_irrefl _ untouched.present

section Answer

variable {codes : Codes} (closed : codes.Closed) {target : CodeId}
  (present : target < codes.cells.length) (exported : Except Failure Unit) (outcome : Outcome)

include closed present

theorem Evolves.answer : codes.Evolves (codes.answer target exported outcome) target where
  closed := closed.answer exported outcome present
  longer := Nat.le_of_lt (Nat.lt_of_le_of_lt (Nat.le_add_right _ 2)
    (codes.length_le_answer target exported outcome))
  done := fun code inside done =>
    (outcome_answer_of_done exported outcome inside done).symm ▸ done
  tracks := fun children aggregate other tracks =>
    tracks.answer exported outcome present other
  links := by
    intro source inside sink there links
    have longer := codes.length_offers exported outcome
    have wider := length_lt_allOf (codes.offers exported outcome)
      [codes.cells.length, codes.cells.length + 1]
    have within : ∀ code < codes.cells.length,
        code < (codes.offers exported outcome).cells.length := fun code before =>
      longer ▸ Nat.lt_add_right 2 before
    have offered : (codes.offers exported outcome).Links [] source sink :=
      (links.push rfl rfl there).push rfl rfl (codes.length_create _ ▸ Nat.lt_succ_of_lt there)
    have gathered := offered.allOf (within source inside) (within sink there)
      [codes.cells.length, codes.cells.length + 1]
    rw [answer_eq]
    exact (gathered.enter _).drain (Nat.lt_trans (within source inside) wider)
      (Nat.lt_trans (within sink there) wider)
  untouched := by
    intro code other untouched
    have inside := untouched.present
    have offered : (codes.offers exported outcome).Untouched [] code := by
      have first : (codes.create (.ofResult exported)).1.Untouched [] code :=
        untouched.push rfl rfl rfl
      exact first.push rfl rfl rfl
    have strange : code ∉ [codes.cells.length, codes.cells.length + 1] := by
      rintro listed
      rcases List.mem_cons.mp listed with rfl | later
      · exact Nat.lt_irrefl _ inside
      · cases List.mem_singleton.mp later
        exact Nat.not_succ_lt_self inside
    rw [answer_eq]
    refine (offered.allOf strange).drain fun task member concerned => ?_
    cases List.mem_singleton.mp member
    simp only [Task.codes, Callback.codes, List.mem_cons, List.not_mem_nil, or_false] at concerned
    rcases concerned with rfl | rfl | rfl
    · exact Nat.lt_irrefl _ (Nat.lt_of_le_of_lt (Nat.le_add_right _ 2) inside)
    · exact Nat.lt_irrefl _ (Nat.lt_of_le_of_lt (Nat.le_add_right _ 2) inside)
    · exact other rfl

end Answer

/-- The codes from a place on that are pending and follow no others: somebody has yet to complete
them. -/
def newcomers (codes : Codes) (place : Nat) : List CodeId :=
  (List.range codes.cells.length).filter fun code =>
    place ≤ code && (codes.outcome code).isPending && codes.awaiting code = 0

theorem mem_newcomers {codes : Codes} {place : Nat} {code : CodeId} :
    code ∈ codes.newcomers place ↔ code < codes.cells.length ∧ place ≤ code ∧
      codes.outcome code = .pending ∧ codes.awaiting code = 0 := by
  simp [newcomers, Outcome.isPending_iff, and_assoc]

theorem awaiting_create (codes : Codes) (outcome : Outcome) :
    (codes.create outcome).1.awaiting codes.cells.length = 0 := by
  simp [awaiting, cell?, create, push]

theorem awaiting_drain_of_eq_zero {codes : Codes} {code : CodeId}
    (inside : code < codes.cells.length) (none : codes.awaiting code = 0) (tasks : List Task) :
    (codes.drain tasks).awaiting code = 0 := by
  have kept := codes.drain_induct
    (fun now _ => code < now.cells.length ∧ now.awaiting code = 0)
    (fun now task _ before => ⟨Nat.lt_of_lt_of_le before.1 (now.length_le_step task), by
      rw [now.awaiting_step code task before.1, before.2, Nat.zero_sub]⟩) tasks ⟨inside, none⟩
  exact kept.2

/-- An aggregate that is pending still waits for reports. -/
theorem Tracks.awaiting_ne {codes : Codes} {children : List CodeId} {aggregate : CodeId}
    (tracks : codes.Tracks children aggregate) (pending : codes.outcome aggregate = .pending) :
    codes.awaiting aggregate ≠ 0 := by
  intro none
  rcases tracks.gathered.finished none with done | ending
  · exact done pending
  · rw [Threads.tasks_alone] at ending
    cases ending

section Answer

variable {codes : Codes} (closed : codes.Closed) (target : CodeId)
  (exported : Except Failure Unit) (outcome : Outcome)

include closed

/-- The result of the export is known when a message is answered. -/
theorem Closed.outcome_answer_exported :
    (codes.answer target exported outcome).outcome codes.cells.length ≠ .pending := by
  have begun : (codes.create (.ofResult exported)).1.outcome codes.cells.length ≠ .pending := by
    rw [outcome_create]
    cases exported <;> exact nofun
  have inside : codes.cells.length < (codes.create (.ofResult exported)).1.cells.length :=
    codes.length_create _ ▸ Nat.lt_succ_self _
  have offered : (codes.offers exported outcome).outcome codes.cells.length ≠ .pending :=
    (Evolves.create (closed.create _) outcome target).done _ inside begun
  have within : codes.cells.length < (codes.offers exported outcome).cells.length :=
    codes.length_offers exported outcome ▸ Nat.lt_add_of_pos_right Nat.two_pos
  have made := outcome_allOf_of_done within offered
    [codes.cells.length, codes.cells.length + 1]
  have wider := length_lt_allOf (codes.offers exported outcome)
    [codes.cells.length, codes.cells.length + 1]
  rw [answer_eq, Codes.forwardTo, outcome_drain_of_done (Nat.lt_trans within wider)
    (made.symm ▸ offered), made]
  exact offered

omit closed in
/-- The code that the exporter has given follows no others. -/
theorem awaiting_answer_closing :
    (codes.answer target exported outcome).awaiting (codes.cells.length + 1) = 0 := by
  have begun : (codes.offers exported outcome).awaiting (codes.cells.length + 1) = 0 :=
    codes.length_create (.ofResult exported) ▸ awaiting_create _ outcome
  have within : codes.cells.length + 1 < (codes.offers exported outcome).cells.length :=
    codes.length_offers exported outcome ▸ Nat.lt_succ_self _
  have cells := (codes.offers exported outcome).gather_cells
    [codes.cells.length, codes.cells.length + 1]
  have pushed : ((codes.offers exported outcome).gather
      [codes.cells.length, codes.cells.length + 1]).1.awaiting (codes.cells.length + 1) = 0 := by
    rw [awaiting, cell?_push cells within]
    exact begun
  have made := awaiting_drain_of_eq_zero (length_push cells ▸ Nat.lt_succ_of_lt within) pushed
    ((codes.offers exported outcome).gather [codes.cells.length, codes.cells.length + 1]).2.2
  have wider := length_lt_allOf (codes.offers exported outcome)
    [codes.cells.length, codes.cells.length + 1]
  rw [answer_eq]
  exact awaiting_drain_of_eq_zero (Nat.lt_trans within wider) made _

variable {target}

/-- The code of a message follows the result of the export and the code of the exporter. -/
theorem Closed.tracks_answer (present : target < codes.cells.length) :
    (codes.answer target exported outcome).Tracks [codes.cells.length, codes.cells.length + 1]
        (codes.cells.length + 2) ∧
      (codes.answer target exported outcome).Links [] (codes.cells.length + 2) target := by
  have follows := closed.follows exported outcome
  have source := follows.gathered.present
  have sink := Nat.lt_trans (Nat.lt_add_right 2 present) source
  rw [answer_eq]
  exact ⟨follows.forwardTo source sink (Nat.ne_of_lt (Nat.lt_add_right 2 present)),
    Links.drain (.registering (List.mem_singleton_self _)) source sink⟩

end Answer

theorem outcome_settle_ne {codes : Codes} {code : CodeId} (inside : code < codes.cells.length)
    {outcome : Outcome} (final : outcome ≠ .pending) :
    (codes.settle code outcome).outcome code ≠ .pending := by
  have kept := codes.drain_induct
    (fun now tasks => code < now.cells.length ∧
      (now.outcome code ≠ .pending ∨ .complete code outcome ∈ tasks))
    (fun now task rest before => by
      obtain ⟨present, state⟩ := before
      refine ⟨Nat.lt_of_lt_of_le present (now.length_le_step task), ?_⟩
      by_cases pending : now.outcome code = .pending
      · rcases List.mem_cons.mp (state.resolve_left (not_not_intro pending)) with rfl | later
        · exact .inl ((now.outcome_step_complete present pending final).symm ▸ final)
        · exact .inr (List.mem_append_right _ later)
      · exact .inl ((now.outcome_step_of_done task present pending).symm ▸ pending))
    _ ⟨inside, .inr (List.mem_singleton_self _)⟩
  exact kept.2.resolve_right List.not_mem_nil

/-- Whether the code of a message is done, or follows codes that are done or that the exporter has
given. -/
inductive Answered (codes : Codes) (given tokens : List CodeId) (token : CodeId) : Prop where
  | done (done : codes.outcome token ≠ .pending)
  | follows (first second both : CodeId) (tracks : codes.Tracks [first, second] both)
      (links : codes.Links [] both token) (exported : codes.outcome first ≠ .pending)
      (closing : codes.outcome second ≠ .pending ∨ second ∈ given) (apart : both ∉ given ++ tokens)

namespace Answered

variable {codes : Codes} {given tokens : List CodeId} {token : CodeId}

/-- Once the codes that the exporter has given are done, so is the code of the message. -/
theorem outcome_ne (answered : codes.Answered given tokens token)
    (all : ∀ code ∈ given, codes.outcome code ≠ .pending) : codes.outcome token ≠ .pending := by
  cases answered with
  | done done => exact done
  | follows first second both tracks links exported closing apart =>
    have closed : codes.outcome second ≠ .pending := closing.elim id (all second)
    refine links.target_done tracks.closed fun pending => ?_
    have unfailed : ∀ child ∈ [first, second], codes.outcome child = .succeeded := by
      intro child listed
      cases outcome : codes.outcome child with
      | pending =>
        rcases List.mem_cons.mp listed with rfl | later
        · exact absurd outcome exported
        · cases List.mem_singleton.mp later
          exact absurd outcome closed
      | succeeded => rfl
      | failed reason =>
        obtain ⟨other, failed⟩ := tracks.failed_iff.mpr ⟨child, listed, reason, outcome⟩
        cases pending.symm.trans failed
    cases pending.symm.trans (tracks.succeeded_iff.mpr unfailed)

/-- Answers last while other codes are completed, those of later messages among them. -/
theorem evolve {after : Codes} {target : CodeId} {laterGiven laterTokens : List CodeId}
    (answered : codes.Answered given tokens token) (evolves : codes.Evolves after target)
    (present : token < codes.cells.length)
    (aimed : target ∈ given ++ tokens ∨ codes.cells.length ≤ target) (more : given ⊆ laterGiven)
    (fresh : ∀ code ∈ laterGiven ++ laterTokens,
      code ∈ given ++ tokens ∨ codes.cells.length ≤ code) :
    after.Answered laterGiven laterTokens token := by
  cases answered with
  | done done => exact .done (evolves.done token present done)
  | follows first second both tracks links exported closing apart =>
    have inside := tracks.gathered.present
    have known := tracks.gathered.known
    have other : target ≠ both := by
      rintro rfl
      exact aimed.elim apart (Nat.not_le_of_lt inside)
    refine .follows first second both (evolves.tracks _ _ other tracks)
      (evolves.links both inside token present links)
      (evolves.done first (known first List.mem_cons_self) exported)
      (closing.imp (evolves.done second (known second (by simp))) fun member => more member) ?_
    exact fun member => (fresh both member).elim apart (Nat.not_le_of_lt inside)

/-- Answering a message. -/
theorem answer (closed : codes.Closed) (present : token < codes.cells.length)
    (known : ∀ code ∈ given ++ tokens, code < codes.cells.length) (exported : Except Failure Unit)
    (outcome : Outcome) :
    (codes.answer token exported outcome).Answered
      (given ++ (codes.answer token exported outcome).newcomers codes.cells.length) tokens
        token := by
  let answered := codes.answer token exported outcome
  obtain ⟨tracks, links⟩ := closed.tracks_answer exported outcome present
  refine .follows _ _ _ tracks links (closed.outcome_answer_exported token exported outcome) ?_ ?_
  · by_cases pending : answered.outcome (codes.cells.length + 1) = .pending
    · exact .inr (List.mem_append_right _ (mem_newcomers.mpr
        ⟨Nat.lt_trans (Nat.lt_succ_self _) tracks.gathered.present, Nat.le_succ _, pending,
          awaiting_answer_closing token exported outcome⟩))
    · exact .inl pending
  · intro member
    have beyond : ¬ codes.cells.length + 2 < codes.cells.length :=
      Nat.not_lt_of_le (Nat.le_add_right _ 2)
    rcases List.mem_append.mp member with here | sent
    · rcases List.mem_append.mp here with old | new
      · exact beyond (known _ (List.mem_append_left _ old))
      · obtain ⟨_, _, pending, none⟩ := mem_newcomers.mp new
        exact tracks.awaiting_ne pending none
    · exact beyond (known _ (List.mem_append_right _ sent))

end Answered

end Completion.Codes

end Metering
