import Metering.Attribute

/-!
Where measurements come from: resources and instrumentation scopes.

A resource has the attributes of the entity that produces measurements, with the address of the
schema they follow. Resources are built in steps and merged; the later of two values for a key wins,
and two different schema addresses cancel each other.

A scope is the library that a meter belongs to. It is identified by its name, version and schema
address, where an absent version or address differs from an empty one; its attributes are carried
along but do not identify it.
-/

namespace Metering

/-- A resource; its attributes are in canonical order. -/
structure Resource where
  attributes : List Attribute
  schemaUrl : Option String
  deriving DecidableEq, Repr

namespace Resource

open Text

def empty : Resource := ⟨[], none⟩

/-- The resource with the given attributes; the last value of a key is kept. -/
def ofAttributes (attributes : List Attribute) : Resource := ⟨Attribute.canonical attributes, none⟩

def size (resource : Resource) : Nat := resource.attributes.length

def isEmpty (resource : Resource) : Bool := resource.attributes.isEmpty

def get? (resource : Resource) (key : String) : Option Value :=
  Attribute.lookup key resource.attributes

/-- The schema address of a merged resource: the only one given, or the one both agree on. -/
def mergeSchema : Option String → Option String → Option String
  | some left, some right => if left = right then some left else none
  | none, right => right
  | left, none => left

/-- Combines two resources; the values of `other` win. A side with neither attributes nor a
schema address leaves the other side as it is. -/
def merge (resource other : Resource) : Resource :=
  if resource.isEmpty && resource.schemaUrl.isNone then other
  else if other.isEmpty && other.schemaUrl.isNone then resource
  else
    { attributes := other.attributes.foldl
        (fun combined entry => Attribute.insertAscending entry combined)
        resource.attributes
      schemaUrl := mergeSchema resource.schemaUrl other.schemaUrl }

inductive Step where
  | entry (content : Attribute)
  | entries (content : List Attribute)
  | serviceName (name : Value)
  | schemaUrl (address : String)
  deriving DecidableEq, Repr

def serviceNameKey : String := "service.name"

/-- The attributes that a built resource has unless they are replaced. -/
def standardAttributes : List Attribute := [
  ⟨serviceNameKey, .string "unknown_service"⟩,
  ⟨"telemetry.sdk.name", .string "opentelemetry"⟩,
  ⟨"telemetry.sdk.language", .string "rust"⟩,
  ⟨"telemetry.sdk.version", .string "0.1.0"⟩]

def standard : Resource := ofAttributes standardAttributes

/-- Applies one step. An empty schema address takes the address away. -/
def apply (resource : Resource) : Step → Resource
  | .entry entry => resource.merge (ofAttributes [entry])
  | .entries entries => resource.merge (ofAttributes entries)
  | .serviceName name => resource.merge (ofAttributes [⟨serviceNameKey, name⟩])
  | .schemaUrl address =>
    { resource with schemaUrl := if address.isEmpty then none else some address }

def build (start : Resource) (steps : List Step) : Resource := steps.foldl apply start

def outline (resource : Resource) : String :=
  let attributes := Outline.dictionary <|
    resource.attributes.map fun entry => (quote entry.key, entry.value.outline)
  Outline.fields "Resource" [("inner", Outline.fields "ResourceInner" [
    ("attrs", attributes), ("schema_url", Outline.option (resource.schemaUrl.map quote))])]

end Resource

structure Scope where
  name : String
  version : Option String := none
  schemaUrl : Option String := none
  attributes : List Attribute := []
  deriving DecidableEq, Repr

/-- What tells one scope from another. -/
structure ScopeIdentity where
  name : String
  version : Option String
  schemaUrl : Option String
  deriving DecidableEq, Repr

namespace Scope

def identity (scope : Scope) : ScopeIdentity := ⟨scope.name, scope.version, scope.schemaUrl⟩

def same (left right : Scope) : Bool := left.identity = right.identity

end Scope

end Metering
