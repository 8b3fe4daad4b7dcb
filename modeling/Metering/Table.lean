/-!
Tables: entries by key, in the order in which their keys were first inserted. A look-up sees the
value of the last insertion under its key.
-/

namespace Metering

structure Table (κ : Type) (ν : Type) where
  entries : List (κ × ν)
  deriving DecidableEq, Repr

namespace Table

variable {κ ν : Type} [DecidableEq κ]

def empty : Table κ ν := ⟨[]⟩

instance : Inhabited (Table κ ν) := ⟨empty⟩

def size (table : Table κ ν) : Nat := table.entries.length

def keys (table : Table κ ν) : List κ := table.entries.map (·.1)

def values (table : Table κ ν) : List ν := table.entries.map (·.2)

def lookup (key : κ) : List (κ × ν) → Option ν
  | [] => none
  | (other, value) :: rest => if key = other then some value else lookup key rest

/-- Puts a value in the place of the one found under its key, or at the end. -/
def put (key : κ) (value : ν) : List (κ × ν) → List (κ × ν)
  | [] => [(key, value)]
  | (other, previous) :: rest =>
    if key = other then (key, value) :: rest else (other, previous) :: put key value rest

/-- Takes every entry under a key away. -/
def remove (key : κ) : List (κ × ν) → List (κ × ν)
  | [] => []
  | (other, value) :: rest =>
    if key = other then remove key rest else (other, value) :: remove key rest

def get? (table : Table κ ν) (key : κ) : Option ν := lookup key table.entries

def contains (table : Table κ ν) (key : κ) : Bool := (table.get? key).isSome

def insert (table : Table κ ν) (key : κ) (value : ν) : Table κ ν := ⟨put key value table.entries⟩

def erase (table : Table κ ν) (key : κ) : Table κ ν := ⟨remove key table.entries⟩

def filter (keep : κ → ν → Bool) (table : Table κ ν) : Table κ ν :=
  ⟨table.entries.filter fun (key, value) => keep key value⟩

theorem get?_empty (key : κ) : (empty : Table κ ν).get? key = none := rfl

theorem lookup_put (key other : κ) (value : ν) (entries : List (κ × ν)) :
    lookup other (put key value entries) =
      if other = key then some value else lookup other entries := by
  induction entries with
  | nil => simp [put, lookup]
  | cons entry rest ih =>
    rcases entry with ⟨head, previous⟩
    by_cases found : key = head
    · subst found
      by_cases same : other = key <;> simp [put, lookup, same]
    · have apart : head ≠ key := fun equal => found equal.symm
      by_cases same : other = head
      · subst same
        simp [put, lookup, found, apart]
      · simp [put, lookup, found, same, ih]

theorem get?_insert (table : Table κ ν) (key other : κ) (value : ν) :
    (table.insert key value).get? other = if other = key then some value else table.get? other :=
  lookup_put key other value table.entries

theorem lookup_remove (key other : κ) (entries : List (κ × ν)) :
    lookup other (remove key entries) = if other = key then none else lookup other entries := by
  induction entries with
  | nil => simp [remove, lookup]
  | cons entry rest ih =>
    rcases entry with ⟨head, value⟩
    by_cases found : key = head
    · subst found
      by_cases same : other = key
      · subst same
        simpa [remove] using ih
      · simp [remove, lookup, same, ih]
    · have apart : head ≠ key := fun equal => found equal.symm
      by_cases same : other = head
      · subst same
        simp [remove, lookup, found, apart]
      · simp [remove, lookup, found, same, ih]

theorem get?_erase (table : Table κ ν) (key other : κ) :
    (table.erase key).get? other = if other = key then none else table.get? other :=
  lookup_remove key other table.entries

end Table

end Metering
