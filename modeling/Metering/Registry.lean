import Metering.Resource
import Metering.Table

/-!
Registries: one component for each scope, built when its scope is first asked for and kept for
ever. Asking for a component is a look-up followed, when nothing was found, by an insertion that
leaves an entry made meanwhile in place.
-/

namespace Metering

/-- Components by the identity of their scope. -/
structure Registry (ν : Type) where
  components : Table ScopeIdentity ν
  deriving Repr

namespace Registry

variable {ν : Type}

def empty : Registry ν := ⟨Table.empty⟩

instance : Inhabited (Registry ν) := ⟨empty⟩

def find? (registry : Registry ν) (scope : Scope) : Option ν :=
  registry.components.get? scope.identity

/-- Builds and enters the component of a scope that has none, and answers the scope's component
together with whether it was built by this call. -/
def insertIfAbsent (registry : Registry ν) (scope : Scope) (build : Scope → ν) :
    Registry ν × ν × Bool :=
  match registry.find? scope with
  | some component => (registry, component, false)
  | none =>
    let component := build scope
    (⟨registry.components.insert scope.identity component⟩, component, true)

/-- The component of a scope, built from the scope when this is the first request for it, and
whether it was built. -/
def get (registry : Registry ν) (scope : Scope) (build : Scope → ν) : Registry ν × ν × Bool :=
  match registry.find? scope with
  | some component => (registry, component, false)
  | none => registry.insertIfAbsent scope build

def snapshot (registry : Registry ν) : List ν := registry.components.values

def size (registry : Registry ν) : Nat := registry.components.size

def isEmpty (registry : Registry ν) : Bool := registry.size = 0

def outline (registry : Registry ν) : String :=
  Text.Outline.fields "ComponentRegistry" [("components", toString registry.size)]

end Registry

end Metering
