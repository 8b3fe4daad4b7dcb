/-!
Texts without regard to the case of ASCII letters, and texts compared by the bytes of their UTF-8
form. Characters beyond ASCII belong to no class and have no case here. The form in bytes determines
the text, so the order is strict and any two different texts are ordered one way or the other.
-/

namespace Metering.Text

def isAsciiLetter (c : Char) : Bool := ('a' ≤ c && c ≤ 'z') || ('A' ≤ c && c ≤ 'Z')

def isAsciiDigit (c : Char) : Bool := '0' ≤ c && c ≤ '9'

def isAscii (c : Char) : Bool := c.toNat < 128

def lowerChar (c : Char) : Char :=
  if 'A' ≤ c ∧ c ≤ 'Z' then Char.ofNat (c.toNat + 32) else c

def lower (text : String) : String := String.ofList (text.toList.map lowerChar)

/-- Whether two texts differ at most in the case of ASCII letters. -/
def sameIgnoringCase (left right : String) : Bool := lower left = lower right

def utf8 (text : String) : List UInt8 := text.toUTF8.data.toList

def byteLength (text : String) : Nat := (utf8 text).length

/-- `left` comes strictly before `right` in the order of their bytes. -/
def before (left right : String) : Bool := decide (utf8 left < utf8 right)

theorem utf8_injective {left right : String} (same : utf8 left = utf8 right) : left = right := by
  have bytes : left.toByteArray.data = right.toByteArray.data := Array.toList_inj.1 same
  exact String.toByteArray_inj.1 (congrArg ByteArray.mk bytes)

theorem before_iff {left right : String} : before left right = true ↔ utf8 left < utf8 right := by
  simp [before]

theorem before_irrefl (text : String) : before text text = false := by
  simp [before, List.lt_irrefl]

theorem before_trans {first second third : String} (left : before first second = true)
    (right : before second third = true) : before first third = true :=
  before_iff.2 (List.lt_trans (before_iff.1 left) (before_iff.1 right))

theorem before_or (left right : String) :
    before left right = true ∨ left = right ∨ before right left = true := by
  rw [before_iff, before_iff]
  by_cases ascends : utf8 left < utf8 right
  · exact .inl ascends
  · by_cases descends : utf8 right < utf8 left
    · exact .inr (.inr descends)
    · have bytes := List.le_antisymm (List.not_lt.mp descends) (List.not_lt.mp ascends)
      exact .inr (.inl (utf8_injective bytes))

/-- Inserts a text into a list in ascending order, keeping one copy of it. -/
def insertAscending (text : String) : List String → List String
  | [] => [text]
  | other :: rest =>
    if before text other then text :: other :: rest
    else if text = other then other :: rest
    else other :: insertAscending text rest

/-- The distinct texts of a list in ascending order, so that equal results mean equal sets. -/
def ascending (texts : List String) : List String :=
  texts.foldl (fun sorted text => insertAscending text sorted) []

end Metering.Text
