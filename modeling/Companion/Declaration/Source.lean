import Companion.Declaration.Basic

namespace Companion

inductive SymbolError where
  | unknownDeclaration (name : String)
  | unknownWellKnownType (name : String)
  | query (reason : String)
  deriving DecidableEq, Repr

def SymbolError.message : SymbolError → String
  | unknownDeclaration name => "declaration `" ++ name ++ "` is not known to the symbol table"
  | unknownWellKnownType name => "well-known type `" ++ name ++ "` cannot be resolved"
  | query reason => "symbol table query failed: " ++ reason

/-- A crash of the host, with the text it leaves, if any. -/
structure Crash where
  text? : Option String
  deriving DecidableEq, Repr

def Crash.message (c : Crash) : String := c.text?.getD "collaborator panicked"

inductive Fault where
  | crash (c : Crash)
  | failure (e : SymbolError)
  deriving DecidableEq, Repr

/-- A declaration as its host tells of it: a question may find the host unable to answer or crash
it, and has the same answer each time it is asked. -/
structure DeclarationSource where
  qualifiedName : Except Crash String
  packageName : Except Crash String
  kind : Except Crash DeclarationKind
  fields : Except Fault (List Field)
  constructors : Except Fault (List Constructor)
  methods : Except Fault (List Method)

def Declaration.source (d : Declaration) : DeclarationSource where
  qualifiedName := .ok d.name
  packageName := .ok d.packageName
  kind := .ok d.kind
  fields := .ok d.fields
  constructors := .ok d.allConstructors
  methods := .ok d.methods

end Companion
