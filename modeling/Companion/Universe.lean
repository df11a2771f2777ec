import Companion.Declaration.Json
import Companion.Hierarchy.Basic
import Companion.Host

namespace Companion

structure Manifest where
  types : List Declaration := []
  deriving DecidableEq, Repr

namespace Manifest

open Json

def record : Record Manifest where
  name := "Manifest"
  strict := true
  blank := {}
  slots := [.field "types" (readList Declaration.read) fun m types => { m with types }]

def parse (source : String) : Except Problem Manifest := readDocument record.read source

def duplicate? : (seen : List String) → List Declaration → Option String
  | _, [] => none
  | seen, d :: ds => if d.name ∈ seen then some d.name else duplicate? (d.name :: seen) ds

end Manifest

inductive ManifestError where
  | unreadable (path : String)
  | json (p : Json.Problem)
  | duplicateDeclaration (name : String)
  deriving DecidableEq, Repr

structure Universe where
  hierarchy : Hierarchy
  declarations : List Declaration

namespace Universe

def declare (h : Hierarchy) (d : Declaration) : Hierarchy :=
  h.declare d.name d.typeParams d.supertypes

/-- Declaring a platform type again extends it; declaring another name twice is refused, after the
whole manifest was read. -/
def ofManifest (m : Manifest) : Except ManifestError Universe :=
  match Manifest.duplicate? [] m.types with
  | some name => .error (.duplicateDeclaration name)
  | none => .ok ⟨m.types.foldl declare Hierarchy.platform, m.types⟩

def parse (source : String) : Except ManifestError Universe := do
  ofManifest (← (Manifest.parse source).mapError .json)

def annotated (u : Universe) : List Declaration := u.declarations.filter (·.annotated)

def declaration? (u : Universe) (name : String) : Option Declaration :=
  u.declarations.find? (·.name == name)

def host (u : Universe) : TypeHost := u.hierarchy.host

end Universe

end Companion
