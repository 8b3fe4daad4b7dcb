import Mathlib.Data.List.Induction
import Mathlib.Data.List.Nodup
import Metering.Attribute

/-!
Canonical lists of attributes. A list in ascending order is determined by what it has under each
key, and the canonical form of a list has the last entry of each key, so lists have the same form
if and only if they define the same values. The form can also be had by sorting, where entries of
one key stay in their order, and replacing the last entry by each further one of its key.
-/

namespace Metering

open Text

namespace Attribute

/-- Whether attributes are in strictly ascending order of their keys' bytes. -/
def Ascending (attributes : List Attribute) : Prop :=
  attributes.Pairwise fun left right => before left.key right.key = true

/-- The entries of a key, in their order. -/
def named (key : String) (attributes : List Attribute) : List Attribute :=
  attributes.filter fun entry => entry.key = key

/-- The value that attributes define for a key: the last one given. -/
def last? (key : String) (attributes : List Attribute) : Option Value :=
  (named key attributes).getLast?.map (·.value)

theorem mem_of_mem_insertAscending {entry other : Attribute} {attributes : List Attribute}
    (member : other ∈ insertAscending entry attributes) : other = entry ∨ other ∈ attributes := by
  induction attributes with
  | nil => exact .inl (List.mem_singleton.mp member)
  | cons first rest ih =>
    unfold insertAscending at member
    split at member
    next => exact List.mem_cons.mp member
    next =>
      split at member
      next => exact (List.mem_cons.mp member).imp_right (List.mem_cons_of_mem _)
      next =>
        rcases List.mem_cons.mp member with rfl | later
        · exact .inr List.mem_cons_self
        · exact (ih later).imp_right (List.mem_cons_of_mem _)

theorem ascending_insertAscending (entry : Attribute) (attributes : List Attribute)
    (ascending : Ascending attributes) : Ascending (insertAscending entry attributes) := by
  induction attributes with
  | nil => exact List.pairwise_singleton _ entry
  | cons first rest ih =>
    obtain ⟨least, sorted⟩ := List.pairwise_cons.mp ascending
    unfold insertAscending
    split
    next earlier =>
      apply List.pairwise_cons.mpr
      refine ⟨fun later member => ?_, ascending⟩
      rcases List.mem_cons.mp member with rfl | member
      · exact earlier
      · exact before_trans earlier (least later member)
    next late =>
      split
      next same =>
        apply List.pairwise_cons.mpr
        exact ⟨fun later member => same ▸ least later member, sorted⟩
      next different =>
        apply List.pairwise_cons.mpr
        refine ⟨fun later member => ?_, ih sorted⟩
        rcases mem_of_mem_insertAscending member with rfl | member
        · rcases before_or later.key first.key with earlier | same | ascends
          · exact absurd earlier late
          · exact absurd same different
          · exact ascends
        · exact least later member

section Named

variable (key : String)

theorem named_append (first second : List Attribute) :
    named key (first ++ second) = named key first ++ named key second := List.filter_append ..

theorem last?_append (first second : List Attribute) :
    last? key (first ++ second) = (last? key second).or (last? key first) := by
  rw [last?, named_append, List.getLast?_append, Option.map_or]
  rfl

theorem last?_cons (entry : Attribute) (rest : List Attribute) : last? key (entry :: rest) =
    (last? key rest).or (if entry.key = key then some entry.value else none) := by
  rw [← List.singleton_append, last?_append]
  by_cases same : entry.key = key <;> simp [last?, named, same]

/-- Only what comes behind a key has a greater one. -/
theorem named_eq_nil {attributes : List Attribute}
    (greater : ∀ entry ∈ attributes, before key entry.key = true) : named key attributes = [] := by
  rw [named, List.filter_eq_nil_iff]
  intro entry member same
  have later := greater entry member
  rw [of_decide_eq_true same, before_irrefl] at later
  cases later

/-- In ascending attributes the entries of a key are the one that a look-up finds. -/
theorem Ascending.named {attributes : List Attribute} (ascending : Ascending attributes) :
    named key attributes = ((lookup key attributes).map (Attribute.mk key)).toList := by
  induction attributes with
  | nil => rfl
  | cons entry rest ih =>
    obtain ⟨least, sorted⟩ := List.pairwise_cons.mp ascending
    by_cases same : entry.key = key
    · subst same
      have others := named_eq_nil entry.key least
      rw [Attribute.named] at others
      simp [Attribute.named, lookup, others]
    · simpa [Attribute.named, lookup, same] using ih sorted

theorem named_insertAscending (entry : Attribute) {attributes : List Attribute}
    (ascending : Ascending attributes) : named key (insertAscending entry attributes) =
      if entry.key = key then [entry] else named key attributes := by
  induction attributes with
  | nil => by_cases same : entry.key = key <;> simp [insertAscending, named, same]
  | cons first rest ih =>
    obtain ⟨least, sorted⟩ := List.pairwise_cons.mp ascending
    unfold insertAscending
    split
    next earlier =>
      by_cases same : entry.key = key
      · subst same
        have others : named entry.key (first :: rest) = [] := by
          refine named_eq_nil entry.key fun other member => ?_
          rcases List.mem_cons.mp member with rfl | later
          · exact earlier
          · exact before_trans earlier (least other later)
        rw [named] at others
        simp [named, others]
      · simp [named, same]
    next =>
      split
      next equal =>
        by_cases same : entry.key = key
        · subst same
          have others := named_eq_nil entry.key (equal ▸ least)
          rw [named] at others
          simp [named, others]
        · simp [named, same, ← equal]
      next different =>
        have later := ih sorted
        rw [named, named] at later
        by_cases same : entry.key = key
        · subst same
          simpa [named, Ne.symm different] using later
        · by_cases here : first.key = key <;> simpa [named, same, here] using later

end Named

theorem canonical_concat (attributes : List Attribute) (entry : Attribute) :
    canonical (attributes ++ [entry]) = insertAscending entry (canonical attributes) := by
  rw [canonical, List.foldl_append]
  rfl

theorem ascending_canonical (attributes : List Attribute) :
    Ascending (canonical attributes) := by
  induction attributes using List.reverseRecOn with
  | nil => exact List.Pairwise.nil
  | append_singleton rest entry ih =>
    rw [canonical_concat]
    exact ascending_insertAscending entry _ ih

theorem mem_of_mem_canonical {entry : Attribute} {attributes : List Attribute}
    (member : entry ∈ canonical attributes) : entry ∈ attributes := by
  induction attributes using List.reverseRecOn with
  | nil => cases member
  | append_singleton rest last ih =>
    rw [canonical_concat] at member
    rw [List.mem_append, List.mem_singleton]
    exact (mem_of_mem_insertAscending member).symm.imp_left ih

/-- The canonical form has one entry for each key that is given, with its last value. -/
theorem named_canonical (key : String) (attributes : List Attribute) :
    named key (canonical attributes) = ((last? key attributes).map (Attribute.mk key)).toList := by
  induction attributes using List.reverseRecOn with
  | nil => rfl
  | append_singleton rest entry ih =>
    rw [canonical_concat, named_insertAscending key entry (ascending_canonical rest), ih,
      last?_append]
    by_cases same : entry.key = key
    · subst same
      simp [last?, named]
    · simp [last?, named, same]

theorem lookup_canonical (key : String) (attributes : List Attribute) :
    lookup key (canonical attributes) = last? key attributes := by
  have entries := congrArg List.head? ((ascending_canonical attributes).named key)
  rw [named_canonical, Option.head?_toList, Option.head?_toList] at entries
  exact (Option.map_injective (fun _ _ same => congrArg Attribute.value same) entries).symm

/-- Attributes in ascending order are determined by what is found under each key. -/
theorem eq_of_lookup {left right : List Attribute} (first : Ascending left)
    (second : Ascending right) (same : ∀ key, lookup key left = lookup key right) :
    left = right := by
  have apart : ∀ {attributes : List Attribute}, Ascending attributes → attributes.Nodup := by
    refine fun ascending => ascending.imp fun {one other} earlier equal => ?_
    rw [equal, before_irrefl] at earlier
    cases earlier
  have members : ∀ entry, entry ∈ left ↔ entry ∈ right := by
    intro entry
    have under : named entry.key left = named entry.key right := by
      rw [first.named, second.named, same]
    have own : ∀ attributes, entry ∈ named entry.key attributes ↔ entry ∈ attributes := by
      simp [named]
    rw [← own left, under, own right]
  refine List.Perm.eq_of_pairwise (fun one other _ _ earlier later => ?_) first second
    ((List.perm_ext_iff_of_nodup (apart first) (apart second)).mpr members)
  have loop := before_trans earlier later
  rw [before_irrefl] at loop
  cases loop

theorem Ascending.last? {attributes : List Attribute} (ascending : Ascending attributes)
    (key : String) : last? key attributes = lookup key attributes := by
  rw [Attribute.last?, ascending.named]
  cases lookup key attributes <;> rfl

theorem canonical_of_ascending {attributes : List Attribute} (ascending : Ascending attributes) :
    canonical attributes = attributes := by
  refine eq_of_lookup (ascending_canonical attributes) ascending fun key => ?_
  rw [lookup_canonical, ascending.last?]

theorem last?_canonical (key : String) (attributes : List Attribute) :
    Attribute.last? key (canonical attributes) = Attribute.last? key attributes := by
  rw [(ascending_canonical attributes).last?, lookup_canonical]

/-- Lists have the same canonical form if and only if they define the same values. -/
theorem canonical_eq_iff (left right : List Attribute) :
    canonical left = canonical right ↔ ∀ key, last? key left = last? key right := by
  constructor
  · intro same key
    rw [← lookup_canonical, ← lookup_canonical, same]
  · intro same
    refine eq_of_lookup (ascending_canonical left) (ascending_canonical right) fun key => ?_
    rw [lookup_canonical, lookup_canonical, same]

/-- What is put in order may be put in canonical form first. -/
theorem canonical_append (first second : List Attribute) :
    canonical (first ++ second) =
      (canonical second).foldl (fun sorted entry => insertAscending entry sorted)
        (canonical first) := by
  have combined : canonical (canonical first ++ canonical second) = (canonical second).foldl
      (fun sorted entry => insertAscending entry sorted) (canonical (canonical first)) :=
    List.foldl_append
  rw [canonical_of_ascending (ascending_canonical first)] at combined
  rw [← combined, canonical_eq_iff]
  intro key
  rw [last?_append, last?_append, last?_canonical, last?_canonical]

/-- Of the entries of a key either all are kept or none. -/
theorem last?_filter (keep : String → Bool) (key : String) (attributes : List Attribute) :
    Attribute.last? key (attributes.filter fun entry => keep entry.key) =
      if keep key then Attribute.last? key attributes else none := by
  have entries : Attribute.named key (attributes.filter fun entry => keep entry.key) =
      (Attribute.named key attributes).filter fun _ => keep key := by
    rw [Attribute.named, Attribute.named, List.filter_filter, List.filter_filter]
    refine List.filter_congr fun entry _ => ?_
    by_cases same : entry.key = key <;> simp [same]
  rw [Attribute.last?, entries, Attribute.last?]
  cases keep key with
  | true => rw [List.filter_true, if_pos rfl]
  | false => rw [List.filter_false, if_neg Bool.false_ne_true, List.getLast?_nil, Option.map_none]

/-- Keeping some keys only commutes with putting in order. -/
theorem filter_canonical (keep : String → Bool) (attributes : List Attribute) :
    (canonical attributes).filter (fun entry => keep entry.key) =
      canonical (attributes.filter fun entry => keep entry.key) := by
  have ascending : Ascending ((canonical attributes).filter fun entry => keep entry.key) :=
    List.Pairwise.filter _ (ascending_canonical attributes)
  rw [← canonical_of_ascending ascending, canonical_eq_iff]
  intro key
  rw [last?_filter, last?_filter, last?_canonical]

section Sorting

/-- Whether an entry may stand before another one when keys may be repeated. -/
def notAfter (left right : Attribute) : Bool := !before right.key left.key

/-- Puts an entry behind others, in the place of the last one if that has the same key. -/
def replaceLast (attributes : List Attribute) (entry : Attribute) : List Attribute :=
  if attributes.getLast?.any fun last => last.key = entry.key then
    attributes.dropLast ++ [entry]
  else attributes ++ [entry]

theorem notAfter_trans (first second third : Attribute) (one : notAfter first second = true)
    (two : notAfter second third = true) : notAfter first third = true := by
  simp only [notAfter, Bool.not_eq_true'] at one two ⊢
  rw [← Bool.not_eq_true]
  intro descends
  rcases before_or second.key third.key with earlier | same | later
  · rw [before_trans earlier descends] at one
    cases one
  · rw [same, descends] at one
    cases one
  · rw [later] at two
    cases two

theorem notAfter_total (left right : Attribute) :
    (notAfter left right || notAfter right left) = true := by
  rw [Bool.or_eq_true, notAfter, notAfter, Bool.not_eq_true', Bool.not_eq_true']
  by_contra neither
  rw [not_or, Bool.not_eq_false, Bool.not_eq_false] at neither
  have loop := before_trans neither.1 neither.2
  rw [before_irrefl] at loop
  cases loop

/-- Sorting keeps entries of one key in their order. -/
theorem named_mergeSort (key : String) (attributes : List Attribute) :
    Attribute.named key (attributes.mergeSort notAfter) = Attribute.named key attributes := by
  have ties : (Attribute.named key attributes).Pairwise fun one other =>
      notAfter one other = true := by
    refine List.pairwise_of_forall_mem_list fun one here other there => ?_
    have first : one.key = key := of_decide_eq_true (List.mem_filter.mp here).2
    have second : other.key = key := of_decide_eq_true (List.mem_filter.mp there).2
    rw [notAfter, first, second, before_irrefl, Bool.not_false]
  have kept := (List.sublist_mergeSort notAfter_trans notAfter_total ties
    List.filter_sublist).filter fun entry => decide (entry.key = key)
  simp only [Attribute.named, List.filter_filter, Bool.and_self] at kept
  exact (kept.eq_of_length
    (((List.mergeSort_perm attributes notAfter).filter _).length_eq.symm)).symm

/-- Behind entries that are not after it an entry is inserted at the end. -/
theorem replaceLast_eq (attributes : List Attribute) (entry : Attribute)
    (ascending : Ascending attributes)
    (last : ∀ other ∈ attributes, notAfter other entry = true) :
    replaceLast attributes entry = insertAscending entry attributes := by
  induction attributes with
  | nil => rfl
  | cons first rest ih =>
    obtain ⟨least, sorted⟩ := List.pairwise_cons.mp ascending
    have here := last first List.mem_cons_self
    rw [notAfter, Bool.not_eq_true'] at here
    have later := ih sorted fun other member => last other (List.mem_cons_of_mem _ member)
    rw [insertAscending, here, if_neg Bool.false_ne_true]
    cases rest with
    | nil =>
      by_cases same : entry.key = first.key <;>
        simp [replaceLast, insertAscending, same, eq_comm]
    | cons second others =>
      have different : entry.key ≠ first.key := by
        intro same
        have behind := last second (List.mem_cons_of_mem _ List.mem_cons_self)
        rw [notAfter, same, least second List.mem_cons_self] at behind
        cases behind
      rw [if_neg different, ← later, replaceLast, replaceLast, List.getLast?_cons_cons]
      split <;> rfl

/-- The canonical form is had by sorting and then replacing repeated keys. -/
theorem canonical_eq_foldl (attributes : List Attribute) :
    canonical attributes = (attributes.mergeSort notAfter).foldl replaceLast [] := by
  have built : ∀ sorted : List Attribute, sorted.Pairwise (fun one other =>
      notAfter one other = true) → sorted.foldl replaceLast [] = canonical sorted := by
    intro sorted
    induction sorted using List.reverseRecOn with
    | nil => exact fun _ => rfl
    | append_singleton rest entry ih =>
      intro ordered
      obtain ⟨earlier, _, least⟩ := List.pairwise_append.mp ordered
      rw [List.foldl_append, ih earlier, canonical_concat]
      refine replaceLast_eq _ entry (ascending_canonical rest) fun other member => ?_
      exact least other (mem_of_mem_canonical member) entry (List.mem_singleton_self entry)
  rw [built _ (List.pairwise_mergeSort notAfter_trans notAfter_total attributes),
    canonical_eq_iff]
  intro key
  rw [Attribute.last?, Attribute.last?, named_mergeSort]

end Sorting

end Attribute

end Metering
