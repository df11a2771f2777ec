import Companion.Hierarchy.View

namespace Companion.Hierarchy

open HostType

mutual

/-- Whether a value of the one type fits a variable of the other. Nothing is boxed, a type without
arguments on either side converts unchecked, and arrays are covariant in reference types. -/
def isAssignable (h : Hierarchy) (t target : HostType) : Bool :=
  if t = target then true
  else
    match t, target with
    | .primitive _, _ => false
    | _, .primitive _ => false
    | .array _, .declared name args =>
      name == Platform.object && args.isEmpty || name == Platform.serializable
        || name == Platform.cloneable
    | .declared n as, .declared name args =>
      name == Platform.object && args.isEmpty ||
        match h.view (.declared n as) name with
        | none => false
        | some v => args.isEmpty || v.args.isEmpty || holdsAll h v.args args
    | .wildcardExtends upper, .declared name args =>
      name == Platform.object && args.isEmpty || isAssignable h upper (.declared name args)
    | _, .declared name args => name == Platform.object && args.isEmpty
    | .array c, .array d => isAssignable h c d
    | .wildcardExtends upper, target => isAssignable h upper target
    | _, _ => false
termination_by (sizeOf target, sizeOf t)

/-- Whether a type argument fits where the target has the argument `slot`. -/
def holds (h : Hierarchy) (arg slot : HostType) : Bool :=
  match slot with
  | .wildcard => true
  | .wildcardExtends bound =>
    match arg with
    | .wildcardExtends upper => isAssignable h upper bound
    | .wildcard => bound.rawName? == some Platform.object
    | arg => isAssignable h arg bound
  | slot => arg == slot
termination_by (sizeOf slot, sizeOf arg)

def holdsAll (h : Hierarchy) : (args slots : List HostType) → Bool
  | [], [] => true
  | a :: as, s :: ss => holds h a s && holdsAll h as ss
  | _, _ => false
termination_by args slots => (sizeOf slots, sizeOf args)

end

end Companion.Hierarchy
