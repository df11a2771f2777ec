import Companion.Naming
import Companion.Planning.Rejection

namespace Companion

inductive ReadAccess where
  | field
  | getter (method : String)
  deriving DecidableEq, Repr

def ReadAccess.text : ReadAccess → String
  | field => "field"
  | getter method => method ++ "()"

inductive WriteAccess where
  | constructorArg (position : Nat)
  | field
  | setter (method : String)
  deriving DecidableEq, Repr

def WriteAccess.text : WriteAccess → String
  | constructorArg position => "constructor arg " ++ toString position
  | field => "field"
  | setter method => method ++ "(..)"

inductive WriteMode where
  | construction | mutation
  deriving DecidableEq, Repr

def WriteMode.text : WriteMode → String
  | construction => "constructor"
  | mutation => "mutation"

namespace Constructor

/-- Whether the parameters are the fields: the same names and types in the same order. -/
def takesFields (c : Constructor) (fields : List Field) : Bool :=
  c.params.map (fun p => (p.name, p.type)) == fields.map (fun f => (f.name, f.type))

def writeMode (c : Constructor) (fields : List Field) : WriteMode :=
  if c.takesFields fields then .construction else .mutation

def choose (model : String) (cs : List Constructor) : Except Objection Constructor :=
  match cs.filter (·.visibility.isForConstruction) with
  | [c] => .ok c
  | eligible => .error (.constructorCount model eligible.length)

end Constructor

namespace Method

def isUsable (m : Method) : Bool := !m.isStatic && m.visibility.isReachable

def isGetterOf (m : Method) (f : Field) : Bool :=
  m.isUsable && m.name == Naming.getterName f.name && m.params.isEmpty
    && m.returns == some f.type

def isSetterOf (m : Method) (f : Field) : Bool :=
  m.isUsable && m.name == Naming.setterName f.name && m.params.map (·.type) == [f.type]

end Method

namespace Field

def readAccess (f : Field) (methods : List Method) : Except Objection ReadAccess :=
  if f.visibility.isPublic then .ok .field
  else if methods.any (·.isGetterOf f) then .ok (.getter (Naming.getterName f.name))
  else .error (.notReadable f.name (Naming.getterName f.name))

def writeAccess (f : Field) (methods : List Method) (mode : WriteMode) (position : Nat) :
    Except Objection WriteAccess :=
  match mode with
  | .construction => .ok (.constructorArg position)
  | .mutation =>
    if f.visibility.isPublic then .ok .field
    else if methods.any (·.isSetterOf f) then .ok (.setter (Naming.setterName f.name))
    else .error (.notWritable f.name (Naming.setterName f.name))

end Field

end Companion
