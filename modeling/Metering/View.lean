import Metering.Failure

/-!
Views: rules that select instruments by name, kind or meter, and say which stream each selected
instrument records into. An instrument has one stream for each view that selects it, and its own
stream if none does.

In the patterns for names `*` stands for any run of characters, `?` for exactly one, and every other
character for itself, where the case of ASCII letters does not matter. A text is matched by keeping
track of which of its beginnings the part of the pattern read so far can match.
-/

namespace Metering

structure Glob where
  symbols : List Char
  deriving DecidableEq, Repr

namespace Glob

def hasWildcard (pattern : String) : Bool := pattern.toList.any fun c => c == '*' || c == '?'

def ofString (pattern : String) : Glob := ⟨(Text.lower pattern).toList⟩

/-- From which beginnings of a text are matched, by length, those matched after any further run. -/
def closeRuns (reached : Bool) : List Bool → List Bool
  | [] => []
  | here :: rest => (reached || here) :: closeRuns (reached || here) rest

/-- Which beginnings of `text` are matched, by length, after one more symbol. -/
def advance (text : List Char) (reached : List Bool) (symbol : Char) : List Bool :=
  if symbol = '*' then closeRuns false reached
  else false :: List.zipWith (fun c here => here && (symbol = '?' || symbol = c)) text reached

def accepts (glob : Glob) (name : String) : Bool :=
  let text := (Text.lower name).toList
  let start := true :: text.map fun _ => false
  ((glob.symbols.foldl (advance text) start).getLast?).getD false

end Glob

structure ViewConfig where
  instrumentName : Option String := none
  instrumentKind : Option InstrumentKind := none
  meterName : Option String := none
  streamName : Option String := none
  streamDescription : Option String := none
  allowedKeys : Option (List String) := none
  cardinalityLimit : Option Nat := none
  /-- Whether measurements are dropped. -/
  drops : Bool := false
  deriving DecidableEq, Repr

structure View where
  instrumentName : Option Glob
  instrumentKind : Option InstrumentKind
  meterName : Option String
  streamName : Option String
  streamDescription : Option String
  allowedKeys : Option (List String)
  cardinalityLimit : Option Nat
  drops : Bool
  deriving DecidableEq, Repr

namespace ViewConfig

/-- Whether the view selects instruments of exactly one name. -/
def selectsOneName (config : ViewConfig) : Bool :=
  match config.instrumentName with
  | none => false
  | some pattern => !Glob.hasWildcard pattern

/-- The first reason not to build the view. A view must select something, must leave room for at
least one attribute set, and may rename only instruments of one name, to a valid name. -/
def error? (config : ViewConfig) : Option MetricError :=
  if config.instrumentName.isNone && config.instrumentKind.isNone && config.meterName.isNone then
    some .viewSelectsNothing
  else if config.cardinalityLimit = some 0 then some .zeroCardinalityLimit
  else
    match config.streamName with
    | none => none
    | some name =>
      if config.selectsOneName then (nameFault? name).map .invalidInstrument
      else some .renameByWildcard

def build (config : ViewConfig) : Except MetricError View :=
  match config.error? with
  | some error => .error error
  | none => .ok
    { instrumentName := config.instrumentName.map Glob.ofString
      instrumentKind := config.instrumentKind
      meterName := config.meterName
      streamName := config.streamName
      streamDescription := config.streamDescription
      allowedKeys := config.allowedKeys.map Text.ascending
      cardinalityLimit := config.cardinalityLimit
      drops := config.drops }

end ViewConfig

namespace View

def selects (view : View) (meter : String) (config : InstrumentConfig) : Bool :=
  (match view.instrumentName with
    | none => true
    | some pattern => pattern.accepts config.name) &&
  (match view.instrumentKind with
    | none => true
    | some kind => kind = config.kind) &&
  (match view.meterName with
    | none => true
    | some name => name = meter)

/-- The stream that a view gives a selected instrument, if it does not drop measurements. -/
def stream? (view : View) (config : InstrumentConfig) : Option StreamDefinition :=
  if view.drops then none
  else some
    { name := view.streamName.getD config.name
      description := view.streamDescription.getD (config.description.getD "")
      unit := config.unit.getD ""
      kind := config.kind
      allowedKeys := view.allowedKeys
      cardinalityLimit := view.cardinalityLimit.getD StreamDefinition.defaultCardinalityLimit }

/-- The stream of an instrument that no view selects. -/
def defaultStream (config : InstrumentConfig) : StreamDefinition :=
  { name := config.name
    description := config.description.getD ""
    unit := config.unit.getD ""
    kind := config.kind
    allowedKeys := none
    cardinalityLimit := StreamDefinition.defaultCardinalityLimit }

def streams (views : List View) (meter : String) (config : InstrumentConfig) :
    List StreamDefinition :=
  let selecting := views.filter fun view => view.selects meter config
  if selecting.isEmpty then [defaultStream config]
  else selecting.filterMap fun view => view.stream? config

end View

end Metering
