import Mathlib.Data.List.Basic
import Mathlib.Data.List.Forall2
import Mathlib.Data.List.Nodup
import Metering.Table

/-!
Tables with distinct keys. Such a table is determined by its look-ups, and every way in which a
table is changed keeps its keys distinct. Tables are compared entry by entry if they are changed in
step, and by their look-ups if one comes from the other.
-/

namespace Metering.Table

variable {κ ν μ : Type} [DecidableEq κ]

/-- Whether no key stands in a table twice. -/
def Distinct (table : Table κ ν) : Prop := table.keys.Nodup

theorem lookup_eq_none_iff (key : κ) (entries : List (κ × ν)) :
    lookup key entries = none ↔ key ∉ entries.map (·.1) := by
  induction entries with
  | nil => simp [lookup]
  | cons entry rest ih =>
    by_cases same : key = entry.1
    · simp [lookup, same]
    · simp [lookup, same, ih]

theorem lookup_eq_some_iff (key : κ) (value : ν) (entries : List (κ × ν))
    (distinct : (entries.map (·.1)).Nodup) :
    lookup key entries = some value ↔ (key, value) ∈ entries := by
  induction entries with
  | nil => simp [lookup]
  | cons entry rest ih =>
    rcases entry with ⟨head, first⟩
    rw [List.map_cons, List.nodup_cons] at distinct
    by_cases same : key = head
    · subst same
      have absent : (key, value) ∉ rest :=
        fun member => distinct.1 (List.mem_map.mpr ⟨_, member, rfl⟩)
      simp [lookup, absent, eq_comm]
    · simp [lookup, same, ih distinct.2]

theorem get?_eq_some_iff (table : Table κ ν) (distinct : table.Distinct) (key : κ) (value : ν) :
    table.get? key = some value ↔ (key, value) ∈ table.entries :=
  lookup_eq_some_iff key value table.entries distinct

/-- Looking for the entries of a key finds at most the one that a look-up finds. -/
theorem filter_key (key : κ) (entries : List (κ × ν)) (distinct : (entries.map (·.1)).Nodup) :
    (entries.filter fun entry => decide (entry.1 = key)) =
      ((lookup key entries).map (Prod.mk key)).toList := by
  induction entries with
  | nil => rfl
  | cons entry rest ih =>
    rcases entry with ⟨head, value⟩
    rw [List.map_cons, List.nodup_cons] at distinct
    have rest_same := ih distinct.2
    by_cases same : key = head
    · subst same
      rw [(lookup_eq_none_iff key rest).mpr distinct.1] at rest_same
      simpa [lookup] using rest_same
    · simpa [lookup, same, Ne.symm same] using rest_same

/-- What the entries of a key come to is what the one found by a look-up does. -/
theorem flatMap_key (key : κ) (made : ν → List μ) (entries : List (κ × ν))
    (distinct : (entries.map (·.1)).Nodup) :
    (entries.flatMap fun entry => if entry.1 = key then made entry.2 else []) =
      ((lookup key entries).map made).getD [] := by
  induction entries with
  | nil => rfl
  | cons entry rest ih =>
    rcases entry with ⟨head, value⟩
    rw [List.map_cons, List.nodup_cons] at distinct
    have rest_same := ih distinct.2
    by_cases same : key = head
    · subst same
      rw [(lookup_eq_none_iff key rest).mpr distinct.1] at rest_same
      simpa [lookup] using rest_same
    · simpa [lookup, same, Ne.symm same] using rest_same

theorem mem_keys_iff (table : Table κ ν) (key : κ) :
    key ∈ table.keys ↔ (table.get? key).isSome := by
  have absent := lookup_eq_none_iff key table.entries
  rw [get?, keys, Option.isSome_iff_ne_none, ne_eq, absent, not_not]

/-- Replacing every value keeps the keys and replaces what is found. -/
theorem lookup_map (change : κ → ν → μ) (key : κ) (entries : List (κ × ν)) :
    lookup key (entries.map fun (key, value) => (key, change key value)) =
      (lookup key entries).map (change key) := by
  induction entries with
  | nil => rfl
  | cons entry rest ih =>
    by_cases same : key = entry.1
    · subst same
      simp [lookup]
    · simp [lookup, same, ih]

theorem lookup_filter (keep : κ → ν → Bool) (key : κ) (entries : List (κ × ν))
    (distinct : (entries.map (·.1)).Nodup) :
    lookup key (entries.filter fun (key, value) => keep key value) =
      (lookup key entries).filter (keep key) := by
  induction entries with
  | nil => rfl
  | cons entry rest ih =>
    rcases entry with ⟨head, value⟩
    rw [List.map_cons, List.nodup_cons] at distinct
    have rest_same := ih distinct.2
    by_cases same : key = head
    · subst same
      have absent := (lookup_eq_none_iff key rest).mpr distinct.1
      rw [absent] at rest_same
      by_cases kept : keep key value
      · simp [lookup, kept, Option.filter]
      · simpa [lookup, kept, Option.filter] using rest_same
    · by_cases kept : keep head value
      · simpa [lookup, kept, same] using rest_same
      · simpa [lookup, kept, same] using rest_same

theorem get?_filter (table : Table κ ν) (distinct : table.Distinct) (keep : κ → ν → Bool)
    (key : κ) : (table.filter keep).get? key = (table.get? key).filter (keep key) :=
  lookup_filter keep key table.entries distinct

/-- Insertions one after the other, where only some entries are chosen: each chosen entry is found
under its key, and the other keys keep what they had. -/
theorem get?_foldl_insert (chosen : μ → Bool) (made : μ → ν) (entries : List (κ × μ))
    (distinct : (entries.map (·.1)).Nodup) (table : Table κ ν) (key : κ) :
    (entries.foldl (fun table (key, item) =>
      if chosen item then table.insert key (made item) else table) table).get? key =
      (((lookup key entries).filter chosen).map made).or (table.get? key) := by
  induction entries generalizing table with
  | nil => simp [lookup]
  | cons entry rest ih =>
    rcases entry with ⟨head, item⟩
    rw [List.map_cons, List.nodup_cons] at distinct
    rw [List.foldl_cons, ih distinct.2]
    by_cases same : key = head
    · subst same
      have absent := (lookup_eq_none_iff key rest).mpr distinct.1
      by_cases taken : chosen item
      · simp [absent, lookup, taken, get?_insert, Option.filter]
      · simp [absent, lookup, taken, Option.filter]
    · by_cases taken : chosen item
      · simp [lookup, taken, same, get?_insert]
      · simp [lookup, taken, same]

theorem keys_put (key : κ) (value : ν) (entries : List (κ × ν)) :
    (put key value entries).map (·.1) =
      if key ∈ entries.map (·.1) then entries.map (·.1) else entries.map (·.1) ++ [key] := by
  induction entries with
  | nil => simp [put]
  | cons entry rest ih =>
    by_cases same : key = entry.1
    · simp [put, same]
    · by_cases later : key ∈ rest.map (·.1)
      · simpa [put, same, later] using ih
      · simpa [put, same, later] using ih

theorem remove_eq_filter (key : κ) (entries : List (κ × ν)) :
    remove key entries = entries.filter fun entry => decide (entry.1 ≠ key) := by
  induction entries with
  | nil => rfl
  | cons entry rest ih =>
    rcases entry with ⟨head, value⟩
    by_cases same : key = head
    · subst same
      simpa [remove] using ih
    · have apart : head ≠ key := fun equal => same equal.symm
      simpa [remove, same, apart] using ih

theorem keys_erase (table : Table κ ν) (key : κ) :
    (table.erase key).keys = table.keys.filter fun other => decide (other ≠ key) := by
  rw [keys, erase, remove_eq_filter, keys, List.filter_map]
  rfl

omit [DecidableEq κ] in
theorem distinct_empty : (empty : Table κ ν).Distinct := List.nodup_nil

theorem Distinct.insert {table : Table κ ν} (distinct : table.Distinct) (key : κ) (value : ν) :
    (table.insert key value).Distinct := by
  have unchanged := keys_put key value table.entries
  unfold Distinct keys Table.insert
  rw [unchanged]
  split
  next => exact distinct
  next absent =>
    rw [List.nodup_append]
    refine ⟨distinct, List.nodup_singleton key, ?_⟩
    intro other member last final same
    rw [same, List.mem_singleton.mp final] at member
    exact absent member

theorem Distinct.erase {table : Table κ ν} (distinct : table.Distinct) (key : κ) :
    (table.erase key).Distinct := by
  rw [Distinct, keys_erase]
  exact distinct.filter _

omit [DecidableEq κ] in
theorem Distinct.filter {table : Table κ ν} (distinct : table.Distinct) (keep : κ → ν → Bool) :
    (table.filter keep).Distinct :=
  (List.filter_sublist.map _).nodup distinct

/-- A value under a new key goes to the end. -/
theorem entries_insert_of_absent (table : Table κ ν) (key : κ) (value : ν)
    (absent : table.get? key = none) :
    (table.insert key value).entries = table.entries ++ [(key, value)] := by
  have last : ∀ entries : List (κ × ν), lookup key entries = none →
      put key value entries = entries ++ [(key, value)] := by
    intro entries
    induction entries with
    | nil => exact fun _ => rfl
    | cons entry rest ih =>
      rcases entry with ⟨head, previous⟩
      by_cases same : key = head
      · simp [lookup, same]
      · simpa [lookup, put, same] using ih
  exact last table.entries absent

/-- Putting a value where it was found changes nothing. -/
theorem insert_self (table : Table κ ν) (key : κ) (value : ν)
    (found : table.get? key = some value) : table.insert key value = table := by
  have unchanged : ∀ entries : List (κ × ν), lookup key entries = some value →
      put key value entries = entries := by
    intro entries
    induction entries with
    | nil => nofun
    | cons entry rest ih =>
      rcases entry with ⟨head, previous⟩
      by_cases same : key = head
      · subst same
        intro here
        simp only [lookup, ↓reduceIte, Option.some.injEq] at here
        simp [put, here]
      · simpa [lookup, put, same] using ih
  exact congrArg Table.mk (unchanged table.entries found)

/-- Of two values put under one key the last one stays. -/
theorem insert_insert (table : Table κ ν) (key : κ) (first second : ν) :
    (table.insert key first).insert key second = table.insert key second := by
  have last : ∀ entries : List (κ × ν),
      put key second (put key first entries) = put key second entries := by
    intro entries
    induction entries with
    | nil => simp [put]
    | cons entry rest ih => by_cases same : key = entry.1 <;> simp [put, same, ih]
  exact congrArg Table.mk (last table.entries)

/-- A value goes where its key first stands. -/
theorem insert_middle (before : List (κ × ν)) (key : κ) (value next : ν) (rest : List (κ × ν))
    (absent : key ∉ before.map (·.1)) :
    insert ⟨before ++ (key, value) :: rest⟩ key next = ⟨before ++ (key, next) :: rest⟩ := by
  have placed : put key next (before ++ (key, value) :: rest) = before ++ (key, next) :: rest := by
    induction before with
    | nil => simp [put]
    | cons entry earlier ih =>
      rw [List.map_cons, List.mem_cons, not_or] at absent
      rw [List.cons_append, put, if_neg absent.1, ih absent.2, List.cons_append]
  exact congrArg Table.mk placed

section Alike

/-- Whether two tables have the same keys in the same order, and related values under them. -/
def Alike (related : ν → μ → Prop) (left : Table κ ν) (right : Table κ μ) : Prop :=
  List.Forall₂ (fun one other => one.1 = other.1 ∧ related one.2 other.2) left.entries
    right.entries

variable {left : Table κ ν} {right : Table κ μ} {related : ν → μ → Prop}

omit [DecidableEq κ] in
theorem alike_empty : Alike related (empty : Table κ ν) (empty : Table κ μ) := .nil

omit [DecidableEq κ] in
theorem Alike.keys (alike : Alike related left right) : left.keys = right.keys := by
  have same : ∀ {first : List (κ × ν)} {second : List (κ × μ)},
      List.Forall₂ (fun one other => one.1 = other.1 ∧ related one.2 other.2) first second →
        first.map (·.1) = second.map (·.1) := by
    intro first second pairs
    induction pairs with
    | nil => rfl
    | cons here _ ih => rw [List.map_cons, List.map_cons, here.1, ih]
  exact same alike

theorem Alike.get? (alike : Alike related left right) (key : κ) :
    Option.Rel related (left.get? key) (right.get? key) := by
  have found : ∀ {first : List (κ × ν)} {second : List (κ × μ)},
      List.Forall₂ (fun one other => one.1 = other.1 ∧ related one.2 other.2) first second →
        Option.Rel related (lookup key first) (lookup key second) := by
    intro first second pairs
    induction pairs with
    | nil => exact .none
    | cons here _ ih =>
      unfold lookup
      rw [← here.1]
      split
      next => exact .some here.2
      next => exact ih
  exact found alike

theorem Alike.insert (alike : Alike related left right) (key : κ) {first : ν} {second : μ}
    (values : related first second) :
    Alike related (left.insert key first) (right.insert key second) := by
  have entered : ∀ {one : List (κ × ν)} {other : List (κ × μ)},
      List.Forall₂ (fun one other => one.1 = other.1 ∧ related one.2 other.2) one other →
        List.Forall₂ (fun one other => one.1 = other.1 ∧ related one.2 other.2)
          (put key first one) (put key second other) := by
    intro one other pairs
    induction pairs with
    | nil => exact .cons ⟨rfl, values⟩ .nil
    | cons here rest ih =>
      unfold put
      rw [← here.1]
      split
      next => exact .cons ⟨rfl, values⟩ rest
      next => exact .cons ⟨rfl, here.2⟩ ih
  exact entered alike

omit [DecidableEq κ] in
theorem Alike.map {ν' μ' : Type} {later : ν' → μ' → Prop} (alike : Alike related left right)
    (change : ν → ν') (other : μ → μ')
    (each : ∀ one two, related one two → later (change one) (other two)) :
    Alike later ⟨left.entries.map fun entry => (entry.1, change entry.2)⟩
      ⟨right.entries.map fun entry => (entry.1, other entry.2)⟩ := by
  unfold Alike
  rw [List.forall₂_map_left_iff, List.forall₂_map_right_iff]
  exact alike.imp fun _ _ here => ⟨here.1, each _ _ here.2⟩

omit [DecidableEq κ] in
theorem Alike.mono {later : ν → μ → Prop} (alike : Alike related left right)
    (each : ∀ one two, related one two → later one two) : Alike later left right :=
  List.Forall₂.imp (fun _ _ here => ⟨here.1, each _ _ here.2⟩) alike

end Alike

section MapValues

/-- A table with every value replaced. -/
def mapValues (change : ν → μ) (table : Table κ ν) : Table κ μ :=
  ⟨table.entries.map fun entry => (entry.1, change entry.2)⟩

variable (change : ν → μ) (table : Table κ ν)

omit [DecidableEq κ] in
theorem keys_mapValues : (table.mapValues change).keys = table.keys := by
  rw [keys, mapValues, List.map_map]
  rfl

theorem get?_mapValues (key : κ) :
    (table.mapValues change).get? key = (table.get? key).map change :=
  lookup_map (fun _ => change) key table.entries

theorem contains_mapValues (key : κ) :
    (table.mapValues change).contains key = table.contains key := by
  rw [contains, get?_mapValues, Option.isSome_map, contains]

theorem insert_mapValues (key : κ) (value : ν) :
    (table.mapValues change).insert key (change value) =
      (table.insert key value).mapValues change := by
  have placed : ∀ entries : List (κ × ν),
      put key (change value) (entries.map fun entry => (entry.1, change entry.2)) =
        (put key value entries).map fun entry => (entry.1, change entry.2) := by
    intro entries
    induction entries with
    | nil => rfl
    | cons entry rest ih => by_cases same : key = entry.1 <;> simp [put, same, ih]
  exact congrArg Table.mk (placed table.entries)

theorem erase_mapValues (key : κ) :
    (table.mapValues change).erase key = (table.erase key).mapValues change := by
  simp only [erase, mapValues, remove_eq_filter, List.filter_map]
  rfl

omit [DecidableEq κ] in
theorem filter_mapValues (keep : κ → μ → Bool) :
    (table.mapValues change).filter keep =
      (table.filter fun key value => keep key (change value)).mapValues change := by
  simp only [filter, mapValues, List.filter_map]
  rfl

end MapValues

section Extends

/-- Whether all that was found in a table is still found behind a change, as something that
follows it. -/
def Extends (follows : ν → ν → Prop) (before after : Table κ ν) : Prop :=
  ∀ key value, before.get? key = some value →
    ∃ later, after.get? key = some later ∧ follows value later

variable {follows : ν → ν → Prop}

theorem Extends.refl (refl : ∀ value, follows value value) (table : Table κ ν) :
    Extends follows table table := fun _ value found => ⟨value, found, refl value⟩

theorem Extends.trans {first second third : Table κ ν} (begins : Extends follows first second)
    (ends : Extends follows second third) (trans : ∀ {one two three}, follows one two →
      follows two three → follows one three) : Extends follows first third := by
  intro key value found
  obtain ⟨middle, there, one⟩ := begins key value found
  obtain ⟨later, present, two⟩ := ends key middle there
  exact ⟨later, present, trans one two⟩

theorem extends_insert (refl : ∀ value, follows value value) (table : Table κ ν) (key : κ)
    (value : ν) (next : ∀ previous, table.get? key = some previous → follows previous value) :
    Extends follows table (table.insert key value) := by
  intro other previous found
  rw [get?_insert]
  split
  next same => exact ⟨value, rfl, next previous (same ▸ found)⟩
  next => exact ⟨previous, found, refl previous⟩

theorem extends_map (change : ν → ν) (each : ∀ value, follows value (change value))
    (table : Table κ ν) :
    Extends follows table ⟨table.entries.map fun entry => (entry.1, change entry.2)⟩ := by
  intro key value found
  have changed := lookup_map (fun _ => change) key table.entries
  refine ⟨change value, changed.trans ?_, each value⟩
  rw [← Table.get?, found, Option.map_some]

end Extends

/-- Whether something that a table finds has a property. -/
def anyFound (table : Table κ ν) (holds : ν → Bool) : Bool :=
  table.keys.any fun key => (table.get? key).any holds

theorem anyFound_iff (table : Table κ ν) (holds : ν → Bool) : table.anyFound holds = true ↔
    ∃ key value, table.get? key = some value ∧ holds value = true := by
  simp only [anyFound, List.any_eq_true, Option.any_eq_true, mem_keys_iff]
  constructor
  · rintro ⟨key, _, value, found, held⟩
    exact ⟨key, value, found, held⟩
  · rintro ⟨key, value, found, held⟩
    exact ⟨key, found ▸ rfl, value, found, held⟩

/-- Whether no key stands in a table twice and every entry fits its key. -/
structure Holds (fits : κ → ν → Prop) (table : Table κ ν) : Prop where
  distinct : table.Distinct
  each : ∀ key value, table.get? key = some value → fits key value

section Holds

variable {fits : κ → ν → Prop} {table : Table κ ν}

theorem holds_empty : (empty : Table κ ν).Holds fits := ⟨distinct_empty, nofun⟩

theorem Holds.insert (holds : table.Holds fits) (key : κ) (value : ν) (here : fits key value) :
    (table.insert key value).Holds fits := by
  refine ⟨holds.distinct.insert key value, fun other found there => ?_⟩
  rw [get?_insert] at there
  split at there
  next same =>
    cases there
    exact same ▸ here
  next => exact holds.each other found there

theorem Holds.map (holds : table.Holds fits) (change : ν → ν)
    (each : ∀ key value, fits key value → fits key (change value)) :
    Holds fits ⟨table.entries.map fun entry => (entry.1, change entry.2)⟩ := by
  constructor
  case distinct =>
    change ((table.entries.map fun entry => (entry.1, change entry.2)).map (·.1)).Nodup
    rw [List.map_map]
    exact holds.distinct
  case each =>
    intro key value found
    have changed := lookup_map (fun _ => change) key table.entries
    obtain ⟨before, there, rfl⟩ := Option.map_eq_some_iff.mp (changed.symm.trans found)
    exact each key before (holds.each key before there)

end Holds

/-- What stands under a key in a list of pairs, in the order of the list. -/
def under (key : κ) (pairs : List (κ × ν)) : List ν :=
  (pairs.filter fun pair => pair.1 = key).map (·.2)

theorem under_append (key : κ) (first second : List (κ × ν)) :
    under key (first ++ second) = under key first ++ under key second := by
  rw [under, List.filter_append, List.map_append]
  rfl

theorem under_pair (key other : κ) (values : List ν) :
    under key (values.map (Prod.mk other)) = if other = key then values else [] := by
  by_cases same : other = key <;> simp [under, List.filter_map, Function.comp_def, same]

theorem under_filter (keep : κ → Bool) (key : κ) (pairs : List (κ × ν)) :
    under key (pairs.filter fun pair => keep pair.1) =
      if keep key then under key pairs else [] := by
  induction pairs with
  | nil => simp [under]
  | cons pair rest ih =>
    rcases pair with ⟨other, value⟩
    by_cases same : other = key
    · subst same
      cases kept : keep other <;> simp_all [under]
    · cases kept : keep other <;> simp_all [under]

end Metering.Table
