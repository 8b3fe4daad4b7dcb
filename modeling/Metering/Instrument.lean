import Metering.Text.Basic
import Metering.Text.Outline

/-!
Instruments: their kinds and number types, the rules for their names and units, and what an
instrument is configured with. A stream is defined by its name, description, unit and kind, the
attribute keys it keeps and the number of attribute sets it tracks.
-/

namespace Metering

inductive InstrumentKind where
  | counter
  | upDownCounter
  | gauge
  | observableCounter
  | observableUpDownCounter
  | observableGauge
  deriving DecidableEq, Repr

namespace InstrumentKind

def isSum : InstrumentKind → Bool
  | .gauge | .observableGauge => false
  | _ => true

/-- Whether the sum only ever increases. -/
def isMonotonic : InstrumentKind → Bool
  | .counter | .observableCounter => true
  | _ => false

/-- Whether a measurement replaces the value instead of being added to it. -/
def isPrecomputed : InstrumentKind → Bool
  | .counter | .upDownCounter => false
  | _ => true

/-- Whether measurements come from callbacks. -/
def isObservable : InstrumentKind → Bool
  | .observableCounter | .observableUpDownCounter | .observableGauge => true
  | _ => false

def name : InstrumentKind → String
  | .counter => "Counter"
  | .upDownCounter => "UpDownCounter"
  | .gauge => "Gauge"
  | .observableCounter => "ObservableCounter"
  | .observableUpDownCounter => "ObservableUpDownCounter"
  | .observableGauge => "ObservableGauge"

end InstrumentKind

inductive NumberType where
  | unsigned
  | signed
  | float
  deriving DecidableEq, Repr

def NumberType.name : NumberType → String
  | .unsigned => "u64"
  | .signed => "i64"
  | .float => "f64"

inductive InstrumentFault where
  | emptyName
  | longName
  | nameStart
  | nameCharacter
  | longUnit
  | unitCharacter
  deriving DecidableEq, Repr

def InstrumentFault.message : InstrumentFault → String
  | .emptyName => "instrument name must be non-empty"
  | .longName => "instrument name must be less than 256 characters"
  | .nameStart => "instrument name must start with an alphabetic character"
  | .nameCharacter => "characters in instrument name must be ASCII and belong to the " ++
      "alphanumeric characters, '_', '.', '-' and '/'"
  | .longUnit => "instrument unit must be less than 64 characters"
  | .unitCharacter => "characters in instrument unit must be ASCII"

open Text

/-- Whether a character may stand behind the first one of an instrument's name. -/
def isNameChar (c : Char) : Bool :=
  isAsciiLetter c || isAsciiDigit c || c == '_' || c == '.' || c == '-' || c == '/'

/-- The first rule that a name breaks. -/
def nameFault? (name : String) : Option InstrumentFault :=
  match name.toList with
  | [] => some .emptyName
  | first :: rest =>
    if 255 < byteLength name then some .longName
    else if !isAsciiLetter first then some .nameStart
    else if !(first :: rest).all isNameChar then some .nameCharacter
    else none

def unitFault? (unit : String) : Option InstrumentFault :=
  if 63 < byteLength unit then some .longUnit
  else if !unit.toList.all isAscii then some .unitCharacter
  else none

structure InstrumentConfig where
  kind : InstrumentKind
  number : NumberType
  name : String
  description : Option String := none
  unit : Option String := none
  deriving DecidableEq, Repr

namespace InstrumentConfig

/-- The first rule that the name, or else the unit, breaks. -/
def fault? (config : InstrumentConfig) : Option InstrumentFault :=
  match nameFault? config.name with
  | some fault => some fault
  | none => config.unit.bind unitFault?

def typeName (config : InstrumentConfig) : String :=
  "opentelemetry_metrics_core::metrics::instrument::" ++ config.kind.name ++ "<" ++
    config.number.name ++ ">"

/-- The outline of a configuration, with the number of its callbacks if it is observable. -/
def outline (config : InstrumentConfig) (callbacks : Nat) : String :=
  let entries := [("name", quote config.name),
    ("description", Outline.option (config.description.map quote)),
    ("unit", Outline.option (config.unit.map quote)),
    ("kind", quote config.typeName)]
  if config.kind.isObservable then
    Outline.fields "AsyncInstrumentBuilder" (entries ++ [("callbacks_len", toString callbacks)])
  else Outline.fields "InstrumentBuilder" entries

end InstrumentConfig

/-- The identity and shape of a stream. The kept keys are distinct and in ascending order. -/
structure StreamDefinition where
  name : String
  description : String
  unit : String
  kind : InstrumentKind
  allowedKeys : Option (List String)
  cardinalityLimit : Nat
  deriving DecidableEq, Repr

namespace StreamDefinition

/-- The number of attribute sets tracked unless a view says otherwise. -/
def defaultCardinalityLimit : Nat := 2000

/-- The key under which a meter keeps its stream of a name: names differ only if they differ
beyond the case of letters. -/
def key (definition : StreamDefinition) : String := Text.lower definition.name

/-- Whether two definitions describe the same stream. -/
def same (left right : StreamDefinition) : Bool :=
  Text.sameIgnoringCase left.name right.name && left.description = right.description &&
    left.unit = right.unit && left.kind = right.kind && left.allowedKeys = right.allowedKeys &&
    left.cardinalityLimit = right.cardinalityLimit

end StreamDefinition

end Metering
