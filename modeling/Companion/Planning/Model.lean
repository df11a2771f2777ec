import Companion.Planning.Plan

namespace Companion

inductive Diagnostics where
  | firstFailure | allFailures
  deriving DecidableEq, Repr

structure PlanningOptions where
  diagnostics : Diagnostics := .firstFailure
  checkKeyCollisions : Bool := true
  deriving DecidableEq, Repr

def PlanningOptions.collectsAll (o : PlanningOptions) : Bool := o.diagnostics == .allFailures

structure ModelField where
  field : Field
  resolution : Resolution
  read : ReadAccess
  write : WriteAccess
  deriving DecidableEq, Repr

structure Model where
  name : String
  package : String
  companion : String
  constructor : Constructor
  writeMode : WriteMode
  fields : List ModelField
  deriving DecidableEq, Repr

inductive Interruption where
  | crash (c : Crash)
  | rejection (r : Rejection)
  deriving DecidableEq, Repr

namespace Model

structure FieldContext where
  catalog : CapabilityCatalog
  methods : List Method
  writeMode : WriteMode

def errors {α : Type} : Except Objection α → List Objection
  | .ok _ => []
  | .error o => [o]

def checkField (ctx : FieldContext) (position : Nat) (f : Field) :
    Except (List Objection) ModelField :=
  let read := f.readAccess ctx.methods
  let write := f.writeAccess ctx.methods ctx.writeMode position
  let resolution : Except Objection Resolution :=
    match ctx.catalog.resolve f.type with
    | some r => .ok r
    | none => .error (.noOperation f.name f.type)
  match read, write, resolution with
  | .ok read, .ok write, .ok resolution => .ok { field := f, resolution, read, write }
  | read, write, resolution => .error (errors read ++ errors write ++ errors resolution)

/-- Checks the fields from a position on. Unless all objections are wanted, the first field that
fails is the last to be checked. -/
def checkFields (ctx : FieldContext) (all : Bool) :
    Nat → List Field → List Objection × List ModelField
  | _, [] => ([], [])
  | position, f :: fs =>
    match checkField ctx position f with
    | .ok field =>
      let (os, fields) := checkFields ctx all (position + 1) fs
      (os, field :: fields)
    | .error os =>
      if all then
        let (os', fields) := checkFields ctx all (position + 1) fs
        (os ++ os', fields)
      else (os, [])

/-- One objection for each field whose key a field before it has, naming the first that has it. -/
def keyCollisions (owners : List (String × String)) : List Field → List Objection
  | [] => []
  | f :: fs =>
    let key := Naming.containerKey f.name
    match owners.lookup key with
    | some first => .duplicateKey key first f.name :: keyCollisions owners fs
    | none => keyCollisions ((key, f.name) :: owners) fs

def defaultConstructor (name : String) (mode : WriteMode) (c : Constructor) : List Objection :=
  if mode = .mutation ∧ ¬c.params.isEmpty then [.noDefaultConstructor name c.params.length] else []

def check (ctx : FieldContext) (options : PlanningOptions) (name : String) (fields : List Field)
    (c : Constructor) : List Objection × List ModelField :=
  let (os, passed) := checkFields ctx options.collectsAll 0 fields
  let collisions := if options.checkKeyCollisions then keyCollisions [] fields else []
  let os :=
    if os.isEmpty || options.collectsAll then
      os ++ collisions ++ defaultConstructor name ctx.writeMode c
    else os
  (if options.collectsAll then os else os.take 1, passed)

def ask {α : Type} (model : String) (stage : Stage) : Except Fault α → Except Interruption α
  | .ok a => .ok a
  | .error (.crash c) => .error (.crash c)
  | .error (.failure e) =>
    .error (.rejection { model, stage, first := .internal e.message })

def ofSource (source : DeclarationSource) (catalog : CapabilityCatalog)
    (options : PlanningOptions) : Except Interruption Model := do
  let name ← source.qualifiedName.mapError .crash
  let kind ← source.kind.mapError .crash
  if kind ≠ .classType then
    throw (.rejection { model := name, stage := .discovered, first := .notAClass name kind })
  let fields ← ask name .discovered source.fields
  let constructors ← ask name .fieldsCollected source.constructors
  let constructor ← (Constructor.choose name constructors).mapError fun o =>
    .rejection { model := name, stage := .fieldsCollected, first := o }
  let methods ← ask name .constructorResolved source.methods
  let writeMode := constructor.writeMode fields
  let (os, passed) := check { catalog, methods, writeMode } options name fields constructor
  match Rejection.ofList? name .constructorResolved os with
  | some r => throw (.rejection r)
  | none =>
    let package ← source.packageName.mapError .crash
    return {
      name
      package
      companion := Naming.companionName (simpleNames package name)
      constructor
      writeMode
      fields := passed }

end Model

def ModelField.plan (m : ModelField) : FieldPlan where
  name := m.field.name
  containerKey := Naming.containerKey m.field.name
  declaredType := m.field.type
  transfer := m.resolution.transfer
  matchedBy := m.resolution.rule
  read := m.read
  write := m.write
  getHelper := Naming.getHelperName m.field.name
  putHelper := Naming.putHelperName m.field.name

def Model.plan (m : Model) : Plan where
  model := m.name
  package := m.package
  companion := m.companion
  writeMode := m.writeMode
  fields := m.fields.map (·.plan)

end Companion
