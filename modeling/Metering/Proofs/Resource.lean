import Metering.Proofs.Attribute.Canonical
import Metering.Resource

/-!
Resources by their definition. A merge has the canonical form of the attributes of both sides, those
of the right side behind those of the left one, whether or not it is cut short. What a builder makes
is therefore a matter of two lists, the attributes of all steps and the schema addresses that were
set, and it does not matter how steps of the two kinds alternate.
-/

namespace Metering

open Attribute

/-- Attributes may be put in canonical form before others come behind them. -/
theorem Attribute.canonical_canonical_append (first second : List Attribute) :
    canonical (canonical first ++ second) = canonical (first ++ second) := by
  rw [canonical_eq_iff]
  intro key
  rw [last?_append, last?_append, last?_canonical]

namespace Resource

/-- The attributes that a step adds. -/
def Step.attributes : Step → List Attribute
  | .entry content => [content]
  | .entries content => content
  | .serviceName name => [⟨serviceNameKey, name⟩]
  | .schemaUrl _ => []

/-- The schema address that a step sets, which may be empty. -/
def Step.schemaUrl? : Step → Option String
  | .schemaUrl address => some address
  | _ => none

/-- The resources that there are. -/
inductive Made : Resource → Prop where
  | empty : Made .empty
  | standard : Made .standard
  | applied {resource : Resource} (made : resource.Made) (step : Step) : Made (resource.apply step)
  | merged {left right : Resource} (first : left.Made) (second : right.Made) :
      Made (left.merge right)

theorem Made.build {start : Resource} (made : start.Made) (steps : List Step) :
    (start.build steps).Made := by
  induction steps generalizing start with
  | nil => exact made
  | cons step rest ih => exact ih (made.applied step)

section Merge

variable {left right : Resource}

theorem mergeSchema_none (address : Option String) : mergeSchema address none = address := by
  cases address <;> rfl

theorem eq_empty_of_blank {resource : Resource}
    (blank : (resource.isEmpty && resource.schemaUrl.isNone) = true) : resource = empty := by
  rcases resource with ⟨attributes, schemaUrl⟩
  rw [Bool.and_eq_true, isEmpty, List.isEmpty_iff, Option.isNone_iff_eq_none] at blank
  exact congrArg₂ Resource.mk blank.1 blank.2

/-- A merge that is cut short is the merge that it saves. -/
theorem merge_eq (first : Ascending left.attributes) (second : Ascending right.attributes) :
    left.merge right = ⟨canonical (left.attributes ++ right.attributes),
      mergeSchema left.schemaUrl right.schemaUrl⟩ := by
  unfold merge
  split
  next blank =>
    obtain rfl := eq_empty_of_blank blank
    exact congrArg (Resource.mk · right.schemaUrl) (canonical_of_ascending second).symm
  next =>
    split
    next blank =>
      obtain rfl := eq_empty_of_blank blank
      have attributes : canonical (left.attributes ++ empty.attributes) = left.attributes := by
        rw [empty, List.append_nil, canonical_of_ascending first]
      rw [attributes, empty, mergeSchema_none]
    next =>
      rw [canonical_append, canonical_of_ascending first, canonical_of_ascending second]

theorem ascending_merge (first : Ascending left.attributes)
    (second : Ascending right.attributes) : Ascending (left.merge right).attributes := by
  rw [merge_eq first second]
  exact ascending_canonical _

theorem apply_eq (first : Ascending left.attributes) (step : Step) :
    left.apply step = ⟨canonical (left.attributes ++ step.attributes),
      (step.schemaUrl?.map fun address => if address.isEmpty then none else some address).getD
        left.schemaUrl⟩ := by
  have added : ∀ attributes, left.merge (ofAttributes attributes) =
      ⟨canonical (left.attributes ++ attributes), left.schemaUrl⟩ := by
    intro attributes
    rw [merge_eq first (ascending_canonical attributes), ofAttributes, mergeSchema_none,
      canonical_append, canonical_of_ascending (ascending_canonical attributes), ← canonical_append]
  cases step with
  | entry content => exact added _
  | entries content => exact added _
  | serviceName name => exact added _
  | schemaUrl address =>
    have kept : canonical (left.attributes ++ []) = left.attributes := by
      rw [List.append_nil, canonical_of_ascending first]
    exact congrArg (Resource.mk · _) kept.symm

theorem Made.ascending {resource : Resource} (made : resource.Made) :
    Ascending resource.attributes := by
  induction made with
  | empty => exact List.Pairwise.nil
  | standard => exact ascending_canonical _
  | applied _ step ih =>
    rw [apply_eq ih]
    exact ascending_canonical _
  | merged _ _ one other => exact ascending_merge one other

/-- A merged resource has an address if both sides have it, or only one side has any. -/
theorem mergeSchema_eq_some_iff (left right : Option String) (address : String) :
    mergeSchema left right = some address ↔ left = some address ∧ right = some address ∨
      left = some address ∧ right = none ∨ left = none ∧ right = some address := by
  cases left with
  | none => cases right <;> simp [mergeSchema]
  | some one =>
    cases right with
    | none => simp [mergeSchema]
    | some other =>
      simp only [mergeSchema]
      split
      next same => simp [same]
      next different =>
        simp only [Option.some.injEq, reduceCtorEq, and_false, false_and, or_false, false_iff]
        exact fun ⟨first, second⟩ => different (first.trans second.symm)

end Merge

section Build

variable {start : Resource}

theorem build_eq (first : Ascending start.attributes) (steps : List Step) :
    build start steps = ⟨canonical (start.attributes ++ steps.flatMap Step.attributes),
      ((steps.filterMap Step.schemaUrl?).getLast?.map fun address =>
        if address.isEmpty then none else some address).getD start.schemaUrl⟩ := by
  induction steps generalizing start with
  | nil => exact congrArg (Resource.mk · _) (by
      rw [List.flatMap_nil, List.append_nil, canonical_of_ascending first])
  | cons step rest ih =>
    change build (start.apply step) rest = _
    have next := apply_eq first step
    rw [ih (next ▸ ascending_canonical _), next]
    congr 1
    · rw [canonical_canonical_append, List.append_assoc, List.flatMap_cons]
    · cases set : step.schemaUrl? with
      | none => simp [set]
      | some address =>
        cases later : (rest.filterMap Step.schemaUrl?).getLast? <;>
          simp [set, later, List.getLast?_cons]

end Build

/-- What a builder makes of steps. -/
structure Builds (start : Resource) (steps : List Step) : Prop where
  ascending : Ascending (build start steps).attributes
  value : ∀ key, (build start steps).get? key =
    last? key (start.attributes ++ steps.flatMap Step.attributes)
  /-- The address that was set last stands, unless it is empty. -/
  schema : (build start steps).schemaUrl =
    (steps.filterMap Step.schemaUrl?).getLast?.filter fun address => !address.isEmpty
  interleaved : ∀ other, other.flatMap Step.attributes = steps.flatMap Step.attributes →
    other.filterMap Step.schemaUrl? = steps.filterMap Step.schemaUrl? →
      build start other = build start steps

/-- What merging resources comes to. -/
structure Merges (left right third : Resource) : Prop where
  ascending : Ascending (left.merge right).attributes
  /-- The right side wins. -/
  value : ∀ key, (left.merge right).get? key = (right.get? key).or (left.get? key)
  schema : ∀ address, (left.merge right).schemaUrl = some address ↔
    left.schemaUrl = some address ∧ right.schemaUrl = some address ∨
      left.schemaUrl = some address ∧ right.schemaUrl = none ∨
      left.schemaUrl = none ∧ right.schemaUrl = some address
  identity : empty.merge left = left ∧ left.merge empty = left
  idempotent : left.merge left = left
  associative : ((left.merge right).merge third).attributes =
    (left.merge (right.merge third)).attributes

theorem builds (start : Resource) (ascending : Ascending start.attributes)
    (unset : start.schemaUrl = none) (steps : List Step) : Builds start steps := by
  have built := build_eq ascending
  constructor
  case ascending => exact built steps ▸ ascending_canonical _
  case value =>
    intro key
    rw [get?, built, lookup_canonical]
  case schema =>
    rw [built, unset]
    cases (steps.filterMap Step.schemaUrl?).getLast? with
    | none => rfl
    | some address =>
      simp only [Option.map_some, Option.getD_some, Option.filter_some]
      cases address.isEmpty <;> rfl
  case interleaved =>
    intro other attributes addresses
    rw [built, built, attributes, addresses]

theorem merges {left right third : Resource} (first : Ascending left.attributes)
    (second : Ascending right.attributes) (last : Ascending third.attributes) :
    Merges left right third := by
  have merged := merge_eq first second
  have nothing : Ascending empty.attributes := List.Pairwise.nil
  constructor
  case ascending => exact ascending_merge first second
  case value =>
    intro key
    rw [get?, merged, lookup_canonical, last?_append, first.last?, second.last?]
    rfl
  case schema =>
    intro address
    rw [merged, mergeSchema_eq_some_iff]
  case identity => exact ⟨rfl, by
    rw [merge_eq first nothing, empty, List.append_nil, canonical_of_ascending first,
      mergeSchema_none]⟩
  case idempotent =>
    have attributes : canonical (left.attributes ++ left.attributes) = left.attributes := by
      conv_rhs => rw [← canonical_of_ascending first]
      rw [canonical_eq_iff]
      intro key
      rw [last?_append, Option.or_self]
    have address : mergeSchema left.schemaUrl left.schemaUrl = left.schemaUrl := by
      cases left.schemaUrl <;> simp [mergeSchema]
    rw [merge_eq first first, attributes, address]
  case associative =>
    rw [merge_eq (ascending_merge first second) last,
      merge_eq first (ascending_merge second last), canonical_eq_iff]
    intro key
    rw [last?_append, last?_append, merged, merge_eq second last, last?_canonical,
      last?_canonical, last?_append, last?_append, Option.or_assoc]

/-- A built resource has the last value that is given for each key and the last schema address,
and a merged one the values of both sides, of which the right one wins, and the address that the
sides do not disagree about. -/
theorem built_and_merged_exactly :
    (∀ steps, Builds standard steps ∧ Builds empty steps) ∧
      ∀ left right third : Resource, left.Made → right.Made → third.Made →
        Merges left right third := by
  constructor
  · intro steps
    exact ⟨builds standard (ascending_canonical _) rfl steps,
      builds empty List.Pairwise.nil rfl steps⟩
  · exact fun left right third first second last =>
      merges first.ascending second.ascending last.ascending

/-- Two addresses cancel each other; the merged resource then takes the address of a third one, which
also wins the key that both have. -/
theorem built_and_merged_exactly_conflict :
    let left := build empty [.entry ⟨"a", .int 1⟩, .schemaUrl "http://schema/1"]
    let right := standard.merge (build empty [.schemaUrl "http://schema/2", .entry ⟨"b", .int 2⟩])
    let third := build empty [.entry ⟨"a", .bool true⟩, .schemaUrl "http://schema/3"]
    left.Made ∧ right.Made ∧ third.Made ∧ Merges left right third ∧
      Merges (left.merge right) third standard ∧
      (left.merge right).size = 6 ∧ (left.merge right).schemaUrl = none ∧
      ((left.merge right).merge third).schemaUrl = third.schemaUrl ∧
      ((left.merge right).merge third).get? "a" = some (.bool true) := by
  intro left right third
  have first : left.Made := Made.empty.build _
  have second : right.Made := .merged .standard (Made.empty.build _)
  have last : third.Made := Made.empty.build _
  exact ⟨first, second, last, built_and_merged_exactly.2 left right third first second last,
    built_and_merged_exactly.2 _ third standard (.merged first second) last .standard,
    by decide, by decide, by decide, by decide⟩

end Resource

end Metering
