import Companion.Proofs.Planning.Objections
import Companion.Proofs.Planning.Profile
import Companion.Proofs.Planning.Run
import Mathlib.Tactic.Common

namespace Companion

/-- What befalls a host at each question about a declaration, every time that it is asked. -/
structure Faults where
  qualifiedName : Option Crash := none
  packageName : Option Crash := none
  kind : Option Crash := none
  fields : Option Fault := none
  constructors : Option Fault := none
  methods : Option Fault := none
  deriving DecidableEq, Repr

/-- The questions about a declaration, in the order in which planning asks them. -/
inductive Question where
  | qualifiedName | kind | fields | constructors | methods | packageName
  deriving DecidableEq, Repr

def Faults.fault? (faults : Faults) : Question → Option Fault
  | .qualifiedName => faults.qualifiedName.map .crash
  | .kind => faults.kind.map .crash
  | .fields => faults.fields
  | .constructors => faults.constructors
  | .methods => faults.methods
  | .packageName => faults.packageName.map .crash

section Answers

variable {ε α : Type} {fault : Option ε} {e : ε} {told : Except ε α}

end Answers

def Fault.message : Fault → String
  | .crash c => c.message
  | .failure e => e.message

namespace Faults

variable {d : Declaration} {catalog : CapabilityCatalog} {options : PlanningOptions}
  {faults faults' : Faults} {q : Question} {f : Fault}

end Faults

namespace DeclarationSource

variable {source source' : DeclarationSource} {catalog : CapabilityCatalog}
  {options : PlanningOptions} {name : String} {f : Fault} {stage : Stage}

end DeclarationSource

namespace Faults

variable {d : Declaration} {catalog : CapabilityCatalog} {options : PlanningOptions}
  {faults faults' : Faults} {q : Question} {f : Fault}

end Faults

end Companion
