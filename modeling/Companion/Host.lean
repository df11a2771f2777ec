import Companion.Declaration.Source
import Companion.Hierarchy.Assignable

namespace Companion

structure TypeHost where
  isAssignable : HostType → HostType → Bool
  wellKnown : String → Except SymbolError HostType
  knownTypes : List String
  typeParameters : String → List String
  /-- A type seen as its supertype of the given name. -/
  view : HostType → String → Option HostType

/-- A hierarchy answers for itself; it knows the root class whether declared or not. -/
def Hierarchy.host (h : Hierarchy) : TypeHost where
  isAssignable := h.isAssignable
  wellKnown name :=
    if name == Platform.object || h.contains name then .ok (.declared name [])
    else .error (.unknownWellKnownType name)
  knownTypes := h.names
  typeParameters := h.typeParameters
  view := h.view

def TypeHost.forgetting (host : TypeHost) (names : List String) : TypeHost :=
  { host with
    wellKnown := fun name =>
      if names.contains name then .error (.unknownWellKnownType name) else host.wellKnown name }

end Companion
