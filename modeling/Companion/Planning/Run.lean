import Companion.Planning.Model
import Companion.Universe

namespace Companion

structure Outcome where
  plans : List Plan := []
  rejections : List Rejection := []
  deriving DecidableEq, Repr

namespace Outcome

def isSuccess (o : Outcome) : Bool := o.rejections.isEmpty

def plan? (o : Outcome) (model : String) : Option Plan := o.plans.find? (·.model == model)

def rejection? (o : Outcome) (model : String) : Option Rejection :=
  o.rejections.find? (·.model == model)

def prepend (result : Except Rejection Plan) (o : Outcome) : Outcome :=
  match result with
  | .ok p => { o with plans := p :: o.plans }
  | .error r => { o with rejections := r :: o.rejections }

end Outcome

/-- What is known of a model whose host crashes when asked for its name. -/
def unknownModel : String := "<unknown>"

namespace DeclarationSource

/-- The plan for one declaration; a crash of the host is an objection like others. -/
def plan (source : DeclarationSource) (catalog : CapabilityCatalog) (options : PlanningOptions) :
    Except Rejection Plan :=
  match Model.ofSource source catalog options with
  | .ok m => .ok m.plan
  | .error (.rejection r) => .error r
  | .error (.crash c) =>
    let model :=
      match source.qualifiedName with
      | .ok name => name
      | .error _ => unknownModel
    .error { model, stage := .discovered, first := .internal c.message }

end DeclarationSource

namespace Outcome

def ofCandidates (catalog : CapabilityCatalog) (options : PlanningOptions)
    (candidates : List DeclarationSource) : Outcome :=
  candidates.foldr (fun source o => o.prepend (source.plan catalog options)) {}

end Outcome

/-- Plans the candidates against a host. The run fails only if the host cannot resolve the platform
types that capabilities depend on. -/
def TypeHost.plan (host : TypeHost) (options : PlanningOptions)
    (candidates : List DeclarationSource) : Except SymbolError Outcome := do
  return .ofCandidates (← CapabilityCatalog.build host) options candidates

def Universe.plan (u : Universe) (options : PlanningOptions) : Except SymbolError Outcome :=
  u.host.plan options (u.annotated.map (·.source))

end Companion
