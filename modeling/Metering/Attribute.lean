import Metering.Number
import Metering.Text.Basic
import Metering.Text.Outline

/-!
Attributes: keys with a value of one of four types. Floating-point values are identified by the
bits of their encoding, so a value always equals itself and zero differs from negative zero.

A canonical set has one attribute for each key, in ascending order of the keys' bytes, so that two
lists of attributes that define the same values give the same set. It carries a digest of its
entries, which tells most unequal sets apart before their entries are looked at.
-/

namespace Metering

inductive Value where
  | bool (value : Bool)
  | int (value : Int64)
  | float (bits : UInt64)
  | string (value : String)
  deriving DecidableEq, Repr

structure Attribute where
  key : String
  value : Value
  deriving DecidableEq, Repr

open Text Number

def Value.text : Value → String
  | .bool value => Outline.bool value
  | .int value => toString value.toInt
  | .float bits => Layout.plain.write bits
  | .string value => value

/-- The value with its type. -/
def Value.outline : Value → String
  | .bool value => Outline.applied "Bool" (Outline.bool value)
  | .int value => Outline.applied "I64" (toString value.toInt)
  | .float bits => Outline.applied "F64" (Layout.literal.write bits)
  | .string value => Outline.applied "String" (quote value)

def Attribute.outline (entry : Attribute) : String :=
  Outline.fields "KeyValue" [("key", quote entry.key), ("value", entry.value.outline)]

namespace Attribute

/-- Puts an attribute at its place in an ascending list, over one with the same key. -/
def insertAscending (entry : Attribute) : List Attribute → List Attribute
  | [] => [entry]
  | other :: rest =>
    if before entry.key other.key then entry :: other :: rest
    else if entry.key = other.key then entry :: rest
    else other :: insertAscending entry rest

/-- The attributes in ascending order of their keys; the last one given for a key is kept. -/
def canonical (attributes : List Attribute) : List Attribute :=
  attributes.foldl (fun sorted entry => insertAscending entry sorted) []

def lookup (key : String) (attributes : List Attribute) : Option Value :=
  (attributes.find? (·.key = key)).map (·.value)

end Attribute

namespace Digest

def word (state next : UInt64) : UInt64 := (state ^^^ next) * 1099511628211

/-- Mixes a text into a digest, with its length behind it. -/
def text (state : UInt64) (content : String) : UInt64 :=
  let bytes := utf8 content
  word (bytes.foldl (fun mixed byte => word mixed byte.toUInt64) state) bytes.length.toUInt64

/-- Mixes a value into a digest, with a mark for its type in front. -/
def value (state : UInt64) : Value → UInt64
  | .bool content => word (word state 1) (if content then 1 else 0)
  | .int content => word (word state 2) content.toUInt64
  | .float bits => word (word state 3) bits
  | .string content => text (word state 4) content

def attributes (content : List Attribute) : UInt64 :=
  content.foldl (fun state entry => value (text state entry.key) entry.value)
    14695981039346656037

end Digest

/-- A set of attributes that identifies one series of a stream. -/
structure AttributeSet where
  digest : UInt64
  entries : List Attribute
  deriving DecidableEq, Repr

namespace AttributeSet

def ofCanonical (entries : List Attribute) : AttributeSet := ⟨Digest.attributes entries, entries⟩

def ofList (attributes : List Attribute) : AttributeSet :=
  ofCanonical (Attribute.canonical attributes)

/-- The attributes whose key is among `keys`. -/
def restrict (set : AttributeSet) (keys : List String) : AttributeSet :=
  ofCanonical (set.entries.filter fun entry => keys.contains entry.key)

def isEmpty (set : AttributeSet) : Bool := set.entries.isEmpty

def toList (set : AttributeSet) : List Attribute := set.entries

end AttributeSet

end Metering
