import Companion.HostType.Basic
import Companion.Vocabulary.Platform

namespace Companion

structure TypeEntry where
  params : List String := []
  supertypes : List HostType := []
  deriving DecidableEq, Repr

namespace TypeEntry

def addSupertypes (known : List HostType) : List HostType → List HostType
  | [] => known
  | t :: ts => addSupertypes (if t ∈ known then known else known ++ [t]) ts

/-- A further declaration adds supertypes and replaces the parameters if it gives any. -/
def extend (e : TypeEntry) (params : List String) (supertypes : List HostType) : TypeEntry where
  params := if params.isEmpty then e.params else params
  supertypes := addSupertypes e.supertypes supertypes

def fits (e : TypeEntry) (args : List HostType) : Bool := args.length == e.params.length

/-- The direct supertypes of the type with the given arguments: instantiated if the arguments fit,
and otherwise erased. -/
def supertypesOf (e : TypeEntry) (args : List HostType) : List HostType :=
  if e.fits args then e.supertypes.map (HostType.substitute (e.params.zip args))
  else e.supertypes.map HostType.erasure

end TypeEntry

structure Hierarchy where
  entries : List (String × TypeEntry) := []
  deriving DecidableEq, Repr

namespace Hierarchy

def empty : Hierarchy := {}

def find? (h : Hierarchy) (name : String) : Option TypeEntry := h.entries.lookup name

def updateEntry (name : String) (f : TypeEntry → TypeEntry) :
    List (String × TypeEntry) → List (String × TypeEntry)
  | [] => [(name, f {})]
  | (k, e) :: rest =>
    if name = k then (k, f e) :: rest
    else if name < k then (name, f {}) :: (k, e) :: rest
    else (k, e) :: updateEntry name f rest

def declare (h : Hierarchy) (name : String) (params : List String) (supertypes : List HostType) :
    Hierarchy :=
  ⟨updateEntry name (·.extend params supertypes) h.entries⟩

def contains (h : Hierarchy) (name : String) : Bool := (h.find? name).isSome

def names (h : Hierarchy) : List String := h.entries.map (·.1)

def typeParameters (h : Hierarchy) (name : String) : List String :=
  ((h.find? name).map (·.params)).getD []

def directSupertypes (h : Hierarchy) (name : String) : List HostType :=
  ((h.find? name).map (·.supertypes)).getD []

def platformParams (arity : Nat) : List String :=
  (List.range arity).map fun i => "T" ++ toString i

/-- A supertype with as many parameters as its subtype receives them in order, and any other is
used raw. -/
def platformSupertype (params : List String) (sup : String) : HostType :=
  let arity := ((Platform.find? sup).map (·.arity)).getD 0
  if 0 < arity ∧ arity = params.length then .declared sup (params.map .var) else .declared sup []

def declarePlatform (h : Hierarchy) (t : PlatformType) : Hierarchy :=
  let params := platformParams t.arity
  h.declare t.name params (t.supertypes.map (platformSupertype params))

def platform : Hierarchy := Platform.types.foldl declarePlatform empty

end Hierarchy

end Companion
