import Companion.Declaration.Source

namespace Companion

inductive Stage where
  | discovered | fieldsCollected | constructorResolved | validated | ready
  deriving DecidableEq, Repr

namespace Stage

def keyword : Stage → String
  | discovered => "discovered"
  | fieldsCollected => "fields_collected"
  | constructorResolved => "constructor_resolved"
  | validated => "validated"
  | ready => "ready"

def text : Stage → String
  | discovered => "discovery"
  | fieldsCollected => "field collection"
  | constructorResolved => "constructor resolution"
  | validated => "validation"
  | ready => "planning"

end Stage

inductive Objection where
  | notAClass (model : String) (kind : DeclarationKind)
  | constructorCount (model : String) (found : Nat)
  | noOperation (field : String) (type : HostType)
  | notReadable (field getter : String)
  | notWritable (field setter : String)
  | duplicateKey (key first second : String)
  | noDefaultConstructor (model : String) (arity : Nat)
  | internal (message : String)
  deriving DecidableEq, Repr

namespace Objection

def keyword : Objection → String
  | notAClass .. => "invalid_annotation_target"
  | constructorCount .. => "constructor_count"
  | noOperation .. => "unresolvable_type"
  | notReadable .. => "unresolvable_read_strategy"
  | notWritable .. => "unresolvable_write_strategy"
  | duplicateKey .. => "duplicate_container_key"
  | noDefaultConstructor .. => "missing_default_constructor"
  | internal .. => "internal"

def code (o : Objection) : String := "bundler::" ++ o.keyword

def message : Objection → String
  | notAClass model kind =>
    "`" ++ model ++ "` is an " ++ kind.text ++ "; generation targets classes only"
  | constructorCount model found =>
    "`" ++ model ++ "` must declare exactly one public or protected constructor, found " ++
      toString found
  | noOperation field type =>
    "field `" ++ field ++ "` of type `" ++ type.text ++ "` has no container operation"
  | notReadable field getter =>
    "field `" ++ field ++ "` is not public and has no `" ++ getter ++
      "()` returning its declared type"
  | notWritable field setter =>
    "field `" ++ field ++ "` is not public and has no `" ++ setter ++
      "(..)` taking its declared type"
  | duplicateKey key first second =>
    "fields `" ++ first ++ "` and `" ++ second ++ "` both map to container key `" ++ key ++ "`"
  | noDefaultConstructor model arity =>
    "`" ++ model ++ "` is written field by field but its constructor takes " ++ toString arity ++
      " parameter(s)"
  | internal message => "internal error: " ++ message

def help? : Objection → Option String
  | notAClass .. => some "move the annotation to a class declaration"
  | constructorCount .. => some "make all but one constructor private or package-private"
  | noOperation .. => some ("use a primitive, a boxed primitive, String, CharSequence, Bundle, " ++
      "a Parcelable or Serializable type, or an ArrayList/SparseArray of Parcelable elements")
  | notReadable .. => some "make the field public or add a non-private, no-argument getter"
  | notWritable .. => some ("make the field public, add a non-private one-argument setter, or " ++
      "declare a constructor whose parameters match the fields in order")
  | duplicateKey .. => some "rename one of the fields"
  | noDefaultConstructor .. => some ("declare a no-argument constructor, or match the " ++
      "constructor parameters to the fields by name, type and order")
  | internal .. => none

def isInternal : Objection → Bool
  | internal _ => true
  | _ => false

end Objection

structure Rejection where
  model : String
  /-- The last stage that the model completed. -/
  stage : Stage
  first : Objection
  others : List Objection := []
  deriving DecidableEq, Repr

namespace Rejection

def objections (r : Rejection) : List Objection := r.first :: r.others

def ofList? (model : String) (stage : Stage) : List Objection → Option Rejection
  | [] => none
  | o :: os => some { model, stage, first := o, others := os }

def hasInternal (r : Rejection) : Bool := r.objections.any (·.isInternal)

def code : String := "bundler::rejected"

def message (r : Rejection) : String :=
  "cannot generate a companion for `" ++ r.model ++ "` (rejected after " ++ r.stage.text ++ ")"

end Rejection

end Companion
