import Companion.Host

namespace Companion

inductive Capability where
  | transferable
  | opaqueSerializable
  | orderedList
  | sparseIndexed
  deriving DecidableEq, Repr

structure Capabilities where
  transferable : Bool := false
  opaqueSerializable : Bool := false
  orderedList : Bool := false
  sparseIndexed : Bool := false
  deriving DecidableEq, Repr

def Capabilities.has (cs : Capabilities) : Capability → Bool
  | .transferable => cs.transferable
  | .opaqueSerializable => cs.opaqueSerializable
  | .orderedList => cs.orderedList
  | .sparseIndexed => cs.sparseIndexed

structure CatalogEntry where
  capabilities : Capabilities
  params : List String
  listView : Option HostType
  sparseView : Option HostType
  deriving DecidableEq, Repr

structure CapabilityCatalog where
  entries : List (String × CatalogEntry) := []
  deriving DecidableEq, Repr

namespace CapabilityCatalog

def genericType (name : String) (params : List String) : HostType :=
  .declared name (params.map .var)

def describe (host : TypeHost) (transferable serializable : HostType) (name : String) :
    CatalogEntry :=
  let params := host.typeParameters name
  let generic := genericType name params
  let listView := host.view generic Platform.arrayList
  let sparseView := host.view generic Platform.sparseArray
  { capabilities :=
      { transferable := host.isAssignable generic transferable
        opaqueSerializable := host.isAssignable generic serializable
        orderedList := listView.isSome
        sparseIndexed := sparseView.isSome }
    params, listView, sparseView }

/-- The catalog of all known types. It cannot be built unless the platform types that define the
capabilities resolve. -/
def build (host : TypeHost) : Except SymbolError CapabilityCatalog := do
  let transferable ← host.wellKnown Platform.parcelable
  let serializable ← host.wellKnown Platform.serializable
  let _ ← host.wellKnown Platform.arrayList
  let _ ← host.wellKnown Platform.sparseArray
  return ⟨host.knownTypes.map fun name => (name, describe host transferable serializable name)⟩

def find? (c : CapabilityCatalog) (name : String) : Option CatalogEntry := c.entries.lookup name

def size (c : CapabilityCatalog) : Nat := c.entries.length

/-- Arguments do not matter; every array is serializable; a bounded wildcard is what its bound
is. -/
def capabilities (c : CapabilityCatalog) : HostType → Capabilities
  | .declared name _ => ((c.find? name).map (·.capabilities)).getD {}
  | .array _ => { opaqueSerializable := true }
  | .wildcardExtends upper => c.capabilities upper
  | .primitive _ | .wildcard | .var _ => {}

def has (c : CapabilityCatalog) (t : HostType) (capability : Capability) : Bool :=
  (c.capabilities t).has capability

def CatalogEntry.viewFor (e : CatalogEntry) : Capability → Option HostType
  | .orderedList => e.listView
  | .sparseIndexed => e.sparseView
  | .transferable | .opaqueSerializable => none

/-- A declared type seen as a container, with its own arguments carried along. If they do not fit,
the container is raw. -/
def containerView (c : CapabilityCatalog) (t : HostType) (capability : Capability) :
    Option HostType :=
  match t with
  | .declared name args => do
    let e ← c.find? name
    let v ← CatalogEntry.viewFor e capability
    if args.length = e.params.length then some (v.substitute (e.params.zip args))
    else some v.erasure
  | _ => none

end CapabilityCatalog

end Companion
