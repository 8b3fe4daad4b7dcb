import Metering.Proofs.Attribute.Canonical
import Metering.Stream.Basic

/-!
Attribute sets as the identity of series. Two lists of attributes make the same set if and only if
they define the same last value for every key, so a measurement goes to the same series whatever
the order in which different keys are given and whether or not overwritten values are left in.
Keeping some keys of a set is the same as keeping them of the list, and leaves no trace in the
digest.
-/

namespace Metering

namespace AttributeSet

/-- Whether a set is the one that its own attributes make. -/
def Canonical (set : AttributeSet) : Prop := set = .ofCanonical set.entries

theorem canonical_ofList (attributes : List Attribute) : (ofList attributes).Canonical := rfl

theorem canonical_restrict (set : AttributeSet) (keys : List String) :
    (set.restrict keys).Canonical := rfl

/-- Canonical sets with the same attributes are the same. -/
theorem eq_of_toList_eq {left right : AttributeSet} (first : left.Canonical)
    (second : right.Canonical) (same : left.toList = right.toList) : left = right := by
  rw [first, second]
  exact congrArg ofCanonical same

/-- Canonical sets are told apart by their attributes alone. -/
theorem nodup_toList {sets : List AttributeSet} (apart : sets.Nodup)
    (proper : ∀ set ∈ sets, set.Canonical) : (sets.map (·.toList)).Nodup :=
  apart.map_on fun left first right second equal =>
    eq_of_toList_eq (proper left first) (proper right second) equal

/-- The sets that there are: those of lists of attributes, and what is left of a set when only some
keys are kept. -/
inductive Made : AttributeSet → Prop where
  | listed (attributes : List Attribute) : Made (ofList attributes)
  | narrowed {set : AttributeSet} (made : set.Made) (keys : List String) : Made (set.restrict keys)

/-- Whether a set is in order, has the last value of each key that is given and nothing else, and
carries the digest of just these entries. -/
structure Represents (attributes : List Attribute) (set : AttributeSet) : Prop where
  ascending : Attribute.Ascending set.toList
  entries : ∀ key, Attribute.named key set.toList =
    ((Attribute.last? key attributes).map (Attribute.mk key)).toList
  digest : set.digest = Digest.attributes set.toList

theorem ofList_eq_iff (left right : List Attribute) : ofList left = ofList right ↔
    ∀ key, Attribute.last? key left = Attribute.last? key right := by
  rw [← Attribute.canonical_eq_iff]
  exact ⟨congrArg entries, congrArg ofCanonical⟩

theorem represents_ofList (attributes : List Attribute) :
    (ofList attributes).Represents attributes :=
  ⟨Attribute.ascending_canonical attributes,
    fun key => Attribute.named_canonical key attributes, rfl⟩

theorem Represents.eq_ofList {attributes : List Attribute} {set : AttributeSet}
    (represents : set.Represents attributes) : set = ofList attributes := by
  have canonical : set.Canonical := by
    rcases set with ⟨digest, entries⟩
    exact congrArg (AttributeSet.mk · entries) represents.digest
  refine eq_of_toList_eq canonical (canonical_ofList attributes) ?_
  have ascending := represents.ascending
  refine Attribute.eq_of_lookup ascending (Attribute.ascending_canonical attributes) fun key => ?_
  refine Eq.trans ?_ (Attribute.lookup_canonical key attributes).symm
  rw [← ascending.last?, Attribute.last?, represents.entries]
  cases Attribute.last? key attributes <;> rfl

/-- A set may be made anew of the entries that it has. -/
theorem ofList_toList (attributes : List Attribute) :
    ofList (ofList attributes).toList = ofList attributes :=
  (ofList_eq_iff _ _).mpr fun key => Attribute.last?_canonical key attributes

theorem restrict_ofList (attributes : List Attribute) (keys : List String) :
    (ofList attributes).restrict keys =
      ofList (attributes.filter fun entry => keys.contains entry.key) :=
  congrArg ofCanonical (Attribute.filter_canonical keys.contains attributes)

theorem Made.exists_eq_ofList {set : AttributeSet} (made : set.Made) :
    ∃ attributes, set = ofList attributes := by
  induction made with
  | listed attributes => exact ⟨attributes, rfl⟩
  | narrowed _ keys ih =>
    obtain ⟨attributes, rfl⟩ := ih
    exact ⟨_, restrict_ofList attributes keys⟩

/-- Keys that are kept twice are those in both lists. -/
theorem restrict_restrict (set : AttributeSet) (keys more both : List String)
    (common : ∀ key, key ∈ both ↔ key ∈ keys ∧ key ∈ more) :
    (set.restrict keys).restrict more = set.restrict both := by
  have kept : ∀ entry : Attribute,
      (more.contains entry.key && keys.contains entry.key) = both.contains entry.key := by
    intro entry
    rw [Bool.eq_iff_iff, Bool.and_eq_true, List.contains_iff_mem, List.contains_iff_mem,
      List.contains_iff_mem, common]
    exact And.comm
  unfold restrict ofCanonical
  simp only [List.filter_filter, kept]

end AttributeSet

/-- A stream does not tell attributes from others that make the same set. -/
theorem Stream.record_congr (stream : Stream) (now : UInt64) (value : Quantity)
    {left right : List Attribute} (same : AttributeSet.ofList left = .ofList right) :
    stream.record now value left = stream.record now value right := by
  simp only [record, attributeSet, same]

namespace AttributeSet

/-- What holds of the set that attributes make. -/
structure OneForm (attributes : List Attribute) : Prop where
  form : ∀ set : AttributeSet, set = ofList attributes ↔ set.Represents attributes
  /-- Sorting, where entries of one key stay in their order, and then putting each entry in the
  place of one before it that has its key makes the same entries. -/
  sorted : (ofList attributes).toList =
    (attributes.mergeSort Attribute.notAfter).foldl Attribute.replaceLast []
  equal : ∀ other, ofList other = ofList attributes ↔
    ∀ key, Attribute.last? key other = Attribute.last? key attributes
  /-- Attributes may be put in another order as long as those of one key stay in theirs. -/
  reordered : ∀ other, (∀ key, Attribute.named key other = Attribute.named key attributes) →
    ∀ (stream : Stream) now value,
      stream.record now value other = stream.record now value attributes
  /-- A value that another one of its key follows may be left out. -/
  overwritten : ∀ early entry between later rest,
    attributes = early ++ entry :: between ++ later :: rest → entry.key = later.key →
      ∀ (stream : Stream) now value,
        stream.record now value (early ++ between ++ later :: rest) =
          stream.record now value attributes
  filtered : ∀ keys, (ofList attributes).restrict keys =
    ofList (attributes.filter fun entry => keys.contains entry.key)
  filtered_form : ∀ keys, ((ofList attributes).restrict keys).Represents
    (attributes.filter fun entry => keys.contains entry.key)
  filtered_again : ∀ keys, ((ofList attributes).restrict keys).restrict keys =
    (ofList attributes).restrict keys
  filtered_both : ∀ keys more both : List String,
    (∀ key, key ∈ both ↔ key ∈ keys ∧ key ∈ more) →
      ((ofList attributes).restrict keys).restrict more = (ofList attributes).restrict both
  /-- A set of which keys were dropped carries the digest of a set made afresh. -/
  rehashed : ∀ keys, ((ofList attributes).restrict keys).digest =
    (ofList ((ofList attributes).restrict keys).toList).digest

/-- The set of a list of attributes is the one set in order that has the last value of each key,
keeping keys commutes with making it, and sets with the same entries are the same and have the same
digest, in whatever way they were made. -/
theorem one_form_for_equal_values :
    (∀ attributes, OneForm attributes) ∧
      ∀ left right : AttributeSet, left.Made → right.Made → left.toList = right.toList →
        left = right ∧ left.digest = right.digest := by
  constructor
  case left =>
    intro attributes
    constructor
    case form =>
      intro set
      constructor
      · rintro rfl
        exact represents_ofList attributes
      · exact Represents.eq_ofList
    case sorted => exact Attribute.canonical_eq_foldl attributes
    case equal => exact fun other => ofList_eq_iff other attributes
    case reordered =>
      intro other same stream now value
      refine stream.record_congr now value ((ofList_eq_iff other attributes).mpr fun key => ?_)
      rw [Attribute.last?, same, Attribute.last?]
    case overwritten =>
      rintro early entry between later rest rfl same stream now value
      refine stream.record_congr now value ((ofList_eq_iff _ _).mpr fun key => ?_)
      simp only [Attribute.last?_append, List.append_assoc, List.cons_append,
        Attribute.last?_cons]
      by_cases own : later.key = key <;> simp [same, own]
    case filtered => exact restrict_ofList attributes
    case filtered_form =>
      intro keys
      rw [restrict_ofList]
      exact represents_ofList _
    case filtered_again =>
      exact fun keys => restrict_restrict _ keys keys keys fun key => (and_self_iff).symm
    case filtered_both => exact fun keys more both => restrict_restrict _ keys more both
    case rehashed =>
      intro keys
      rw [restrict_ofList, ofList_toList]
  case right =>
    intro left right first second same
    obtain ⟨_, rfl⟩ := first.exists_eq_ofList
    obtain ⟨_, rfl⟩ := second.exists_eq_ofList
    have equal := eq_of_toList_eq (canonical_ofList _) (canonical_ofList _) same
    exact ⟨equal, congrArg digest equal⟩

/-- A set that two keys were dropped from, one after the other, and a set listed in another order,
of which the key that is given twice keeps its last value. -/
theorem one_form_for_equal_values_restricted :
    let left := ((ofList [⟨"k", .string "last"⟩, ⟨"port", .int 1⟩, ⟨"other", .bool true⟩,
      ⟨"host", .string "a"⟩]).restrict ["k", "other", "host"]).restrict ["other", "k"]
    let right := ofList [⟨"k", .string "first"⟩, ⟨"other", .bool true⟩, ⟨"k", .string "last"⟩]
    left.Made ∧ right.Made ∧ left.toList = right.toList ∧
      left = right ∧ left.digest = right.digest := by
  intro left right
  have narrowed : left.Made := .narrowed (.narrowed (.listed _) _) _
  have listed : right.Made := .listed _
  have same : left.toList = right.toList := by decide
  exact ⟨narrowed, listed, same, one_form_for_equal_values.2 left right narrowed listed same⟩

end AttributeSet

end Metering
