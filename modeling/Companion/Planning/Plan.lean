import Companion.Planning.Access
import Companion.Planning.Resolution

namespace Companion

structure FieldPlan where
  name : String
  containerKey : String
  declaredType : HostType
  transfer : Transfer
  matchedBy : ResolutionRule
  read : ReadAccess
  write : WriteAccess
  getHelper : String
  putHelper : String
  deriving DecidableEq, Repr

structure Plan where
  model : String
  package : String
  /-- The simple name of the companion. -/
  companion : String
  writeMode : WriteMode
  fields : List FieldPlan
  deriving DecidableEq, Repr

namespace Plan

def companionName (p : Plan) : String :=
  if p.package.isEmpty then p.companion else p.package ++ "." ++ p.companion

def field? (p : Plan) (name : String) : Option FieldPlan := p.fields.find? (·.name == name)

end Plan

end Companion
