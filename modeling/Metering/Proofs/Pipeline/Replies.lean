import Metering.Proofs.Completion.Passing
import Metering.Proofs.Pipeline.Answers

/-!
What the code of a message comes to when the message is answered. A failure of the export becomes
the outcome of the code at once, whatever the exporter's own code comes to; after an export that has
not failed the code has the outcome of the exporter's code, now or whenever that completes.
-/

namespace Metering.Completion.Codes

/-- How codes have changed if nothing but `target` was completed on request: outcomes that were
there have stayed, and what was passed on or counted still is. -/
structure Abides (before after : Codes) (target : CodeId) : Prop where
  closed : after.Closed
  longer : before.cells.length ≤ after.cells.length
  lasts : ∀ code < before.cells.length, before.outcome code ≠ .pending →
    after.outcome code = before.outcome code
  tracks : ∀ children aggregate, target ≠ aggregate → before.Tracks children aggregate →
    after.Tracks children aggregate
  links : ∀ source < before.cells.length, ∀ sink < before.cells.length,
    before.Links [] source sink → after.Links [] source sink
  heeds : ∀ source code, target ≠ code → before.Heeds [] source code →
    after.Heeds [] source code

namespace Abides

theorem of_evolves {before after : Codes} {target : CodeId}
    (evolves : before.Evolves after target)
    (lasts : ∀ code < before.cells.length, before.outcome code ≠ .pending →
      after.outcome code = before.outcome code)
    (heeds : ∀ source code, target ≠ code → before.Heeds [] source code →
      after.Heeds [] source code) : before.Abides after target :=
  ⟨evolves.closed, evolves.longer, lasts, evolves.tracks, evolves.links, heeds⟩

variable {codes : Codes} (closed : codes.Closed)

include closed

theorem refl (target : CodeId) : codes.Abides codes target :=
  .of_evolves (.refl closed target) (fun _ _ _ => rfl) fun _ _ _ heeds => heeds

theorem create (outcome : Outcome) (target : CodeId) :
    codes.Abides (codes.create outcome).1 target :=
  .of_evolves (.create closed outcome target) (fun _ inside _ => outcome_push rfl inside)
    fun _ _ _ heeds => heeds.create outcome

theorem settle {code : CodeId} (inside : code < codes.cells.length) (outcome : Outcome) :
    codes.Abides (codes.settle code outcome) code :=
  .of_evolves (.settle closed inside outcome)
    (fun _ present done => outcome_drain_of_done present done)
    fun _ _ other heeds => heeds.settle other outcome

theorem allOf {children : List CodeId} (within : ∀ child ∈ children, child < codes.cells.length)
    (target : CodeId) : codes.Abides (codes.allOf children).1 target where
  closed := (closed.allOf within).closed
  longer := Nat.le_of_lt (length_lt_allOf _ _)
  lasts := fun _ inside done => outcome_allOf_of_done inside done children
  tracks := fun _ _ _ tracks => tracks.allOf within
  links := fun _ inside _ present links => links.allOf inside present children
  heeds := fun _ _ _ heeds => heeds.allOf children

theorem answer {target : CodeId} (present : target < codes.cells.length)
    (exported : Except Failure Unit) (outcome : Outcome) :
    codes.Abides (codes.answer target exported outcome) target :=
  .of_evolves (.answer closed present exported outcome)
    (fun _ inside done => outcome_answer_of_done exported outcome inside done)
    fun source code other heeds => by
      rw [answer_eq]
      exact (((heeds.create _).create outcome).allOf _).forwardTo _ other

theorem forwardTo {source target : CodeId} (inside : source < codes.cells.length)
    (present : target < codes.cells.length) :
    codes.Abides (codes.forwardTo source target) target where
  closed := closed.forwardTo inside present
  longer := length_le_drain _ _
  lasts := fun _ inside done => outcome_drain_of_done inside done
  tracks := fun _ _ other tracks => tracks.forwardTo inside present other
  links := fun _ within _ there links => (links.enter _).drain within there
  heeds := fun _ _ other heeds => heeds.forwardTo source other

omit closed

section Trans

variable {first second third : Codes} {target : CodeId} (begins : first.Abides second target)

include begins

theorem trans (ends : second.Abides third target) : first.Abides third target where
  closed := ends.closed
  longer := Nat.le_trans begins.longer ends.longer
  lasts := fun code inside done => by
    have same := begins.lasts code inside done
    exact (ends.lasts code (Nat.lt_of_lt_of_le inside begins.longer) (same ▸ done)).trans same
  tracks := fun children aggregate other tracks =>
    ends.tracks children aggregate other (begins.tracks children aggregate other tracks)
  links := fun source inside sink present links =>
    ends.links source (Nat.lt_of_lt_of_le inside begins.longer) sink
      (Nat.lt_of_lt_of_le present begins.longer) (begins.links source inside sink present links)
  heeds := fun source code other heeds =>
    ends.heeds source code other (begins.heeds source code other heeds)

/-- If only a new code was completed on request, none of those from before was. -/
theorem of_fresh (fresh : first.cells.length ≤ target) (other : CodeId) :
    first.Abides second other where
  closed := begins.closed
  longer := begins.longer
  lasts := begins.lasts
  tracks := fun children aggregate _ tracks =>
    begins.tracks children aggregate
      (Nat.ne_of_gt (Nat.lt_of_lt_of_le tracks.gathered.present fresh)) tracks
  links := begins.links
  heeds := fun source code _ heeds =>
    begins.heeds source code (Nat.ne_of_gt (Nat.lt_of_lt_of_le heeds.present fresh)) heeds

end Trans

end Abides

/-- How codes go on, and with them the codes that others and threads may complete. -/
structure Advances (before : Codes) (given held : List CodeId) (aim : CodeId) (after : Codes)
    (laterGiven laterHeld : List CodeId) : Prop where
  abides : before.Abides after aim
  aimed : before.cells.length ≤ aim ∨ aim ∈ held ∨
    (aim ∈ given ∧ after.outcome aim ≠ .pending)
  more : ∀ code ∈ laterGiven, code ∈ given ∨ before.cells.length ≤ code
  fewer : ∀ code ∈ laterHeld, code ∈ held ∨ before.cells.length ≤ code

/-- Fewer codes are held by threads, and nothing else goes on. -/
theorem Advances.rest {codes : Codes} (closed : codes.Closed) (given : List CodeId)
    {held fewer : List CodeId} (less : fewer ⊆ held) :
    codes.Advances given held codes.cells.length codes given fewer :=
  ⟨.refl closed _, .inl (Nat.le_refl _), fun _ => .inl, fun _ member => .inl (less member)⟩

section Advances

variable {before after : Codes} {given held laterGiven laterHeld : List CodeId} {aim code : CodeId}
  (advances : before.Advances given held aim after laterGiven laterHeld)
  (inside : code < before.cells.length) (apart : code ∉ given ++ held)

include advances inside apart

/-- A code that neither others nor threads complete is not completed. -/
theorem Advances.unaimed : aim ≠ code := by
  rintro rfl
  rcases advances.aimed with beyond | heldThere | ⟨givenThere, _⟩
  · exact Nat.not_lt_of_le beyond inside
  · exact apart (List.mem_append_right _ heldThere)
  · exact apart (List.mem_append_left _ givenThere)

theorem Advances.still : code ∉ laterGiven ++ laterHeld := by
  intro member
  have before : code ∈ given ++ held ∨ before.cells.length ≤ code :=
    (List.mem_append.mp member).elim
      (fun new => (advances.more code new).imp_left (List.mem_append_left _))
      fun new => (advances.fewer code new).imp_left (List.mem_append_right _)
  exact before.elim apart (Nat.not_le_of_lt inside)

end Advances

theorem settle_pending (codes : Codes) (code : CodeId) : codes.settle code .pending = codes := by
  have idle : codes.step (.complete code .pending) = (codes, []) := by
    simp only [step, complete, Outcome.isPending, Bool.not_true, Bool.and_false]
    split <;> rfl
  have fuel : codes.weight + total Task.weight [.complete code .pending] = codes.weight + 1 := rfl
  rw [settle, drain, fuel, drainFor, idle]
  cases codes.weight <;> rfl

/-- A code with the outcome of `closing`, which an aggregate with `first` passes on to it. -/
structure Mirrors (codes : Codes) (first closing both token : CodeId) : Prop where
  tracks : codes.Tracks [first, closing] both
  succeeded : codes.outcome first = .succeeded
  links : codes.Links [] both token
  heeds : codes.Heeds [] (some both) token

namespace Mirrors

variable {codes after : Codes} {first closing both token : CodeId}
  (mirrors : codes.Mirrors first closing both token)

include mirrors

theorem outcome_eq : codes.outcome token = codes.outcome closing := by
  rw [mirrors.links.outcome_eq mirrors.tracks.closed mirrors.heeds]
  have all := mirrors.tracks.succeeded_iff
  have some := mirrors.tracks.failed_iff
  have first_succeeded := mirrors.succeeded
  cases there : codes.outcome both with
  | pending =>
    cases here : codes.outcome closing with
    | pending => rfl
    | succeeded => simp [there, here, first_succeeded] at all
    | failed reason => simp [there, here] at some
  | succeeded => exact (all.mp there closing (by simp)).symm
  | failed reason =>
    obtain ⟨child, listed, same⟩ := mirrors.tracks.gathered.failed reason there
    rcases List.mem_cons.mp listed with rfl | later
    · exact absurd (first_succeeded.symm.trans same) nofun
    · cases List.mem_singleton.mp later
      exact same.symm

theorem abide {target : CodeId} (abides : codes.Abides after target) (apart : target ≠ both)
    (other : target ≠ token) : after.Mirrors first closing both token where
  tracks := abides.tracks _ _ apart mirrors.tracks
  succeeded := by
    have known := mirrors.tracks.gathered.known first List.mem_cons_self
    exact (abides.lasts first known (mirrors.succeeded ▸ nofun)).trans mirrors.succeeded
  links := abides.links both mirrors.tracks.gathered.present token mirrors.heeds.present
    mirrors.links
  heeds := abides.heeds _ _ other mirrors.heeds

end Mirrors

/-- A code that an exporter has given with some outcome; a pending one is left to those who
complete it. -/
structure Offered (codes : Codes) (closing : CodeId) (told : Outcome) : Prop where
  inside : closing < codes.cells.length
  told : told ≠ .pending → codes.outcome closing = told
  heeds : codes.outcome closing = .pending → codes.Heeds [] none closing

theorem Offered.abide {codes after : Codes} {closing target : CodeId} {told : Outcome}
    (offered : codes.Offered closing told) (abides : codes.Abides after target)
    (done : target = closing → after.outcome closing ≠ .pending) :
    after.Offered closing told where
  inside := Nat.lt_of_lt_of_le offered.inside abides.longer
  told := by
    intro final
    have same := offered.told final
    exact (abides.lasts closing offered.inside (same ▸ final)).trans same
  heeds := by
    intro pending
    have before : codes.outcome closing = .pending := Decidable.byContradiction fun final =>
      final ((abides.lasts closing offered.inside final).symm.trans pending)
    exact abides.heeds _ _ (fun same => done same pending) (offered.heeds before)

/-- What the code of a message comes to that has been answered with the result of an export and a
code of the exporter. -/
inductive Replied (codes : Codes) (free : CodeId → Prop) (token closing : CodeId) :
    Except Failure Unit → Prop where
  | failed (failure : Failure) (same : codes.outcome token = .failed (some failure)) :
      codes.Replied free token closing (.error failure)
  | followed (first both : CodeId) (mirrors : codes.Mirrors first closing both token)
      (apart : free both) : codes.Replied free token closing (.ok ())

namespace Replied

variable {codes after : Codes} {free : CodeId → Prop} {token closing : CodeId}
  {exported : Except Failure Unit} (replied : codes.Replied free token closing exported)

include replied

theorem abide (present : token < codes.cells.length) {laterFree : CodeId → Prop}
    {target : CodeId} (abides : codes.Abides after target) (other : target ≠ token)
    (unaimed : ∀ code < codes.cells.length, free code → target ≠ code)
    (fewer : ∀ code < codes.cells.length, free code → laterFree code) :
    after.Replied laterFree token closing exported := by
  cases replied with
  | failed failure same =>
    exact .failed failure ((abides.lasts token present (same ▸ nofun)).trans same)
  | followed first both mirrors apart =>
    have inside := mirrors.tracks.gathered.present
    exact .followed first both (mirrors.abide abides (unaimed both inside apart) other)
      (fewer both inside apart)

theorem succeeded_iff :
    codes.outcome token = .succeeded ↔
      exported = .ok () ∧ codes.outcome closing = .succeeded := by
  cases replied with
  | failed failure same => simp [same]
  | followed first both mirrors apart => simp [mirrors.outcome_eq]

end Replied

theorem ofResult_ne_pending (result : Except Failure Unit) :
    Outcome.ofResult result ≠ .pending := by
  cases result <;> exact nofun

section Answer

variable {codes : Codes} (closed : codes.Closed) {token : CodeId}
  (exported : Except Failure Unit) (told : Outcome)

include closed

/-- The code of the exporter that an answer follows. -/
theorem Closed.offered_answer (target : CodeId) (present : target < codes.cells.length) :
    (codes.answer target exported told).Offered (codes.cells.length + 1) told := by
  have shorter := codes.length_create (.ofResult exported)
  have longer := codes.length_offers exported told
  have within : codes.cells.length + 1 < (codes.offers exported told).cells.length :=
    longer ▸ Nat.lt_succ_self _
  have wider := length_lt_allOf (codes.offers exported told)
    [codes.cells.length, codes.cells.length + 1]
  have offered : (codes.offers exported told).outcome (codes.cells.length + 1) = told :=
    shorter ▸ outcome_create _ told
  have told_stays : told ≠ .pending →
      (codes.answer target exported told).outcome (codes.cells.length + 1) = told := by
    intro final
    have gathered := outcome_allOf_of_done within (offered.symm ▸ final)
      [codes.cells.length, codes.cells.length + 1]
    rw [answer_eq, Codes.forwardTo, outcome_drain_of_done (Nat.lt_trans within wider)
      (gathered.symm ▸ offered.symm ▸ final), gathered, offered]
  constructor
  case inside =>
    exact Nat.lt_trans (Nat.lt_succ_self _) (codes.length_le_answer target exported told)
  case told => exact told_stays
  case heeds =>
    intro pending
    have still : told = .pending := Decidable.byContradiction fun final =>
      final ((told_stays final).symm.trans pending)
    subst still
    have begun : (codes.offers exported .pending).Heeds [] none (codes.cells.length + 1) :=
      shorter ▸ (closed.create (.ofResult exported)).heeds_create
    rw [answer_eq]
    exact (begun.allOf _).forwardTo _ (Nat.ne_of_lt (Nat.lt_succ_of_lt present))

/-- The code of a message has the failure of the export, or else the outcome of the exporter's
code. -/
theorem Closed.replied_answer (heeds : codes.Heeds [] none token) {free : CodeId → Prop}
    (apart : free (codes.cells.length + 2)) :
    (codes.answer token exported told).Replied free token (codes.cells.length + 1) exported := by
  have present := heeds.present
  obtain ⟨tracks, links⟩ := closed.tracks_answer exported told present
  have longer := codes.length_offers exported told
  have within : codes.cells.length < (codes.offers exported told).cells.length :=
    longer ▸ Nat.lt_add_of_pos_right Nat.two_pos
  have wider := length_lt_allOf (codes.offers exported told)
    [codes.cells.length, codes.cells.length + 1]
  have passed : (codes.answer token exported told).Heeds [] (some (codes.cells.length + 2))
      token := by
    rw [answer_eq]
    exact (((heeds.create _).create told).allOf _).forwarded (longer ▸ wider)
  have first : (codes.offers exported told).outcome codes.cells.length = .ofResult exported :=
    (outcome_push rfl (codes.length_create _ ▸ Nat.lt_succ_self _)).trans (outcome_create ..)
  have done : (codes.offers exported told).outcome codes.cells.length ≠ .pending :=
    first ▸ ofResult_ne_pending exported
  cases exported with
  | ok _ =>
    refine .followed codes.cells.length _ ⟨tracks, ?_, links, passed⟩ apart
    have gathered := outcome_allOf_of_done within done
      [codes.cells.length, codes.cells.length + 1]
    rw [answer_eq, Codes.forwardTo, outcome_drain_of_done (Nat.lt_trans within wider)
      (gathered.symm ▸ done), gathered, first]
    rfl
  | error failure =>
    refine .failed failure ?_
    have blamed : ((codes.offers (.error failure) told).allOf
        [codes.cells.length, codes.cells.length + 1]).1.outcome
          (codes.offers (.error failure) told).cells.length = .failed (some failure) :=
      outcome_allOf_of_failed [] [codes.cells.length + 1] (List.forall_mem_nil _) within first
    rw [longer] at blamed
    rw [links.outcome_eq tracks.closed passed, answer_eq, Codes.forwardTo,
      outcome_drain_of_done (longer ▸ wider)
        (blamed.symm ▸ ofResult_ne_pending (.error failure)), blamed]

end Answer

end Metering.Completion.Codes
