import Companion.Planning.Capability
import Companion.Vocabulary.Operation

namespace Companion

inductive ResolutionRule where
  | catalog | homogeneousList | transferableList | sparseTransferable | transferable
  | opaqueSerializable
  deriving DecidableEq, Repr

namespace ResolutionRule

def keyword : ResolutionRule → String
  | catalog => "catalog"
  | homogeneousList => "homogeneous_list"
  | transferableList => "transferable_list"
  | sparseTransferable => "sparse_transferable"
  | transferable => "transferable"
  | opaqueSerializable => "opaque_serializable"

def text : ResolutionRule → String
  | catalog => "catalog"
  | homogeneousList => "homogeneous list"
  | transferableList => "transferable list"
  | sparseTransferable => "sparse transferable"
  | transferable => "transferable"
  | opaqueSerializable => "opaque serializable"

end ResolutionRule

structure Resolution where
  transfer : Transfer
  rule : ResolutionRule
  deriving DecidableEq, Repr

namespace CapabilityCatalog

open HostType

def listed? (t : HostType) : Option Operation := t.catalogSpelling?.bind Operation.ofSpelling?

def catalogTransfer? : HostType → Option Transfer
  | .array component => (listed? component).map fun op => { operation := op, isArray := true }
  | t => (listed? t).map fun op => { operation := op }

def homogeneousList? (c : CapabilityCatalog) (t : HostType) : Option Operation := do
  let view ← c.containerView t .orderedList
  match view.args with
  | [] => Operation.elementCatalog.head?.map (·.2)
  | [.declared name []] => Operation.ofElement? name
  | _ => none

def holdsTransferable (c : CapabilityCatalog) (t : HostType) (container : Capability) : Bool :=
  match c.containerView t container with
  | none => false
  | some view =>
    match view.args with
    | [] => true
    | [element] => c.has element .transferable
    | _ => false

def ruleTransfer? (c : CapabilityCatalog) (t : HostType) : ResolutionRule → Option Transfer
  | .catalog => catalogTransfer? t
  | .homogeneousList => (c.homogeneousList? t).map fun op => { operation := op }
  | .transferableList =>
    if c.holdsTransferable t .orderedList then some { operation := .parcelableList } else none
  | .sparseTransferable =>
    if c.holdsTransferable t .sparseIndexed then some { operation := .parcelableSparseArray }
    else none
  | .transferable => if c.has t .transferable then some { operation := .parcelable } else none
  | .opaqueSerializable =>
    if c.has t .opaqueSerializable then some { operation := .serializable } else none

/-- The rules in the order in which they are tried. -/
def rules : List ResolutionRule :=
  [.catalog, .homogeneousList, .transferableList, .sparseTransferable, .transferable,
    .opaqueSerializable]

def resolve (c : CapabilityCatalog) (t : HostType) : Option Resolution :=
  rules.findSome? fun rule => (c.ruleTransfer? t rule).map fun transfer => ⟨transfer, rule⟩

end CapabilityCatalog

end Companion
