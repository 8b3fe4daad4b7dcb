import Mathlib.Data.List.Forall2
import Mathlib.Data.String.Basic
import Metering.Proofs.Meter.Resolution

/-!
Spellings. The case of ASCII letters plays no part in what a name means: names that differ in
nothing else break the same rules and are selected by the same views, and instruments of such names
ask for the same streams.
-/

namespace Metering

namespace Text

/-- A capital letter and its small letter are letters of one byte. -/
theorem lowerChar_capital (c : Char) (capital : 'A' ≤ c ∧ c ≤ 'Z') :
    (isAsciiLetter c = true ∧ c.utf8Size = 1) ∧
      (isAsciiLetter (lowerChar c) = true ∧ (lowerChar c).utf8Size = 1) := by
  have each : ∀ n < 26, let c := Char.ofNat (65 + n)
      (isAsciiLetter c = true ∧ c.utf8Size = 1) ∧
        (isAsciiLetter (lowerChar c) = true ∧ (lowerChar c).utf8Size = 1) := by decide
  have low : 65 ≤ c.toNat := Char.le_def.mp capital.1
  have high : c.toNat ≤ 90 := Char.le_def.mp capital.2
  have number : Char.ofNat (65 + (c.toNat - 65)) = c := by
    rw [Nat.add_sub_cancel' low, Char.ofNat_toNat]
  have here := each (c.toNat - 65) (by omega)
  rwa [number] at here

theorem isAsciiLetter_lowerChar (c : Char) : isAsciiLetter (lowerChar c) = isAsciiLetter c := by
  by_cases capital : 'A' ≤ c ∧ c ≤ 'Z'
  · obtain ⟨⟨letter, _⟩, small, _⟩ := lowerChar_capital c capital
    rw [letter, small]
  · rw [lowerChar, if_neg capital]

theorem isNameChar_lowerChar (c : Char) : isNameChar (lowerChar c) = isNameChar c := by
  by_cases capital : 'A' ≤ c ∧ c ≤ 'Z'
  · obtain ⟨⟨letter, _⟩, small, _⟩ := lowerChar_capital c capital
    simp [isNameChar, letter, small]
  · rw [lowerChar, if_neg capital]

theorem utf8Size_lowerChar (c : Char) : (lowerChar c).utf8Size = c.utf8Size := by
  by_cases capital : 'A' ≤ c ∧ c ≤ 'Z'
  · obtain ⟨⟨_, size⟩, _, small⟩ := lowerChar_capital c capital
    rw [size, small]
  · rw [lowerChar, if_neg capital]

theorem toList_lower (text : String) : (lower text).toList = text.toList.map lowerChar :=
  String.toList_ofList

theorem byteLength_lower (text : String) : byteLength (lower text) = byteLength text := by
  have size : ∀ cs : List Char, String.utf8Len (cs.map lowerChar) = String.utf8Len cs := by
    intro cs
    induction cs with
    | nil => rfl
    | cons c rest ih => simp only [List.map_cons, String.utf8Len_cons, utf8Size_lowerChar, ih]
  have whole : ∀ text, byteLength text = String.utf8Len text.toList := by
    intro text
    rw [← String.utf8ByteSize_ofList, String.ofList_toList]
    simp [byteLength, utf8]
  rw [whole, whole, toList_lower, size]

end Text

open Text

theorem nameFault?_lower (name : String) : nameFault? (lower name) = nameFault? name := by
  unfold nameFault?
  rw [toList_lower, byteLength_lower]
  cases name.toList with
  | nil => rfl
  | cons first rest =>
    simp only [List.map_cons, isAsciiLetter_lowerChar, List.all_cons, isNameChar_lowerChar,
      List.all_map, Function.comp_def]
    rfl

namespace InstrumentConfig

/-- Whether two instruments are the same but for the case of their names, the number type, and an
absent description or unit instead of an empty one. -/
structure Alike (left right : InstrumentConfig) : Prop where
  name : lower left.name = lower right.name
  kind : left.kind = right.kind
  description : left.description.getD "" = right.description.getD ""
  unit : left.unit.getD "" = right.unit.getD ""

theorem Alike.refl (config : InstrumentConfig) : config.Alike config := ⟨rfl, rfl, rfl, rfl⟩

theorem Alike.symm {left right : InstrumentConfig} (alike : left.Alike right) :
    right.Alike left :=
  ⟨alike.name.symm, alike.kind.symm, alike.description.symm, alike.unit.symm⟩

/-- An absent unit breaks as few rules as an empty one. -/
theorem fault?_eq (config : InstrumentConfig) : config.fault? =
    (nameFault? (lower config.name)).or (unitFault? (config.unit.getD "")) := by
  rw [fault?, nameFault?_lower]
  cases nameFault? config.name with
  | some fault => rfl
  | none =>
    cases config.unit with
    | none =>
      have harmless : none = unitFault? "" := by decide
      exact harmless
    | some unit => rfl

theorem Alike.fault? {left right : InstrumentConfig} (alike : left.Alike right) :
    left.fault? = right.fault? := by
  rw [fault?_eq, fault?_eq, alike.name, alike.unit]

end InstrumentConfig

namespace View

variable {left right : InstrumentConfig} (alike : left.Alike right)
include alike

theorem selects_eq (view : View) (meter : String) :
    view.selects meter left = view.selects meter right := by
  simp only [selects, Glob.accepts, alike.name, alike.kind]

/-- Instruments that are alike ask for the same streams. -/
theorem same_streams (views : List View) (meter : String) :
    List.Forall₂ (fun one other => StreamDefinition.same one other = true)
      (streams views meter left) (streams views meter right) := by
  have defined : (defaultStream left).same (defaultStream right) = true :=
    (StreamDefinition.same_iff _ _).mpr
      ⟨alike.name, alike.description, alike.unit, alike.kind, rfl, rfl⟩
  have viewed : ∀ view : View, Option.Rel
      (fun one other => StreamDefinition.same one other = true) (view.stream? left)
      (view.stream? right) := by
    intro view
    unfold stream?
    split
    next => exact .none
    next =>
      refine .some ((StreamDefinition.same_iff _ _).mpr ⟨?_, ?_, alike.unit, alike.kind, rfl, rfl⟩)
      · cases renamed : view.streamName with
        | none => simpa [StreamDefinition.key, renamed] using alike.name
        | some name => simp [StreamDefinition.key]
      · dsimp only
        rw [alike.description]
  have selecting : (views.filter fun view => view.selects meter left) =
      views.filter fun view => view.selects meter right :=
    List.filter_congr fun view _ => view.selects_eq alike meter
  unfold streams
  rw [selecting]
  dsimp only
  split
  next => exact .cons defined .nil
  next =>
    induction views.filter fun view => view.selects meter right with
    | nil => exact .nil
    | cons view rest ih =>
      have here := viewed view
      rw [List.filterMap_cons, List.filterMap_cons]
      generalize view.stream? left = one, view.stream? right = other at here
      cases here with
      | none => exact ih
      | some agrees => exact .cons agrees ih

end View

end Metering
