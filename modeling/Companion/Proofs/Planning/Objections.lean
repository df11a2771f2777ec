import Companion.Proofs.Planning.FieldChecks
import Companion.Proofs.Planning.Profile

namespace Companion

structure DeclarationSource.Answers (source : DeclarationSource) (name package : String)
    (kind : DeclarationKind) (fields : List Field) (constructors : List Constructor)
    (methods : List Method) : Prop where
  qualifiedName : source.qualifiedName = .ok name
  packageName : source.packageName = .ok package
  kind : source.kind = .ok kind
  fields : source.fields = .ok fields
  constructors : source.constructors = .ok constructors
  methods : source.methods = .ok methods

theorem Declaration.source_answers (d : Declaration) :
    d.source.Answers d.name d.packageName d.kind d.fields d.allConstructors d.methods :=
  ⟨rfl, rfl, rfl, rfl, rfl, rfl⟩

namespace Model

variable {source : DeclarationSource} {catalog : CapabilityCatalog} {options : PlanningOptions}
  {ctx : FieldContext}

def Refused (source : DeclarationSource) (catalog : CapabilityCatalog) (options : PlanningOptions)
    (model : String) (stage : Stage) (os : List Objection) : Prop :=
  ∃ r, ofSource source catalog options = .error (.rejection r) ∧ r.model = model ∧
    r.stage = stage ∧ r.objections = os

def fieldObjections (ctx : FieldContext) (f : Field) : List Objection :=
  (if f.visibility ≠ .publicMember ∧ ¬∃ m ∈ ctx.methods, m.Reads f then
      [.notReadable f.name (Naming.getterName f.name)] else []) ++
    (if ctx.writeMode = .mutation ∧ f.visibility ≠ .publicMember ∧
        ¬∃ m ∈ ctx.methods, m.Writes f then
      [.notWritable f.name (Naming.setterName f.name)] else []) ++
    (if ctx.catalog.resolve f.type = none then [.noOperation f.name f.type] else [])

def owner? (fields : List Field) (key : String) : Option Field :=
  fields.find? fun g => Naming.containerKey g.name == key

/-- What is to be said against the key of a field at its position: that a field before it, the
earliest one, has the key already. -/
def sharedKey? (fields : List Field) (p : Field × Nat) : Option Objection :=
  (owner? (fields.take p.2) (Naming.containerKey p.1.name)).map fun first =>
    .duplicateKey (Naming.containerKey p.1.name) first.name p.1.name

/-- All that is to be said against a class with one constructor. -/
def modelObjections (ctx : FieldContext) (checkKeys : Bool) (name : String) (fields : List Field)
    (c : Constructor) : List Objection :=
  fields.flatMap (fieldObjections ctx) ++
    (if checkKeys then fields.zipIdx.filterMap (sharedKey? fields) else []) ++
    (if ctx.writeMode = .mutation ∧ c.params ≠ [] then
      [.noDefaultConstructor name c.params.length] else [])

def reported {α : Type} : Except (List Objection) α → List Objection
  | .ok _ => []
  | .error os => os

theorem errors_readAccess (f : Field) (methods : List Method) :
    errors (f.readAccess methods) =
      if f.visibility ≠ .publicMember ∧ ¬∃ m ∈ methods, m.Reads f then
        [.notReadable f.name (Naming.getterName f.name)] else [] := by
  rw [Field.readAccess]
  simp only [← Method.isGetterOf_iff, ← List.any_eq_true, ← Visibility.isPublic_iff, ne_eq]
  cases f.visibility.isPublic with
  | true => rfl
  | false => cases methods.any (·.isGetterOf f) <;> rfl

theorem errors_writeAccess (f : Field) (methods : List Method) (mode : WriteMode)
    (position : Nat) :
    errors (f.writeAccess methods mode position) =
      if mode = .mutation ∧ f.visibility ≠ .publicMember ∧ ¬∃ m ∈ methods, m.Writes f then
        [.notWritable f.name (Naming.setterName f.name)] else [] := by
  cases mode with
  | construction => rfl
  | mutation =>
      rw [Field.writeAccess]
      simp only [← Method.isSetterOf_iff, ← List.any_eq_true, ← Visibility.isPublic_iff, ne_eq]
      cases f.visibility.isPublic with
      | true => rfl
      | false => cases methods.any (·.isSetterOf f) <;> rfl

theorem reported_checkField (position : Nat) (f : Field) :
    reported (checkField ctx position f) = fieldObjections ctx f := by
  rw [fieldObjections, ← errors_readAccess,
    ← errors_writeAccess f ctx.methods ctx.writeMode position, checkField]
  cases ctx.catalog.resolve f.type with
  | none => cases f.readAccess ctx.methods <;>
      cases f.writeAccess ctx.methods ctx.writeMode position <;> rfl
  | some resolution => cases f.readAccess ctx.methods <;>
      cases f.writeAccess ctx.methods ctx.writeMode position <;> rfl

theorem checkFields_collecting (position : Nat) (fs : List Field) :
    (checkFields ctx true position fs).1 = fs.flatMap (fieldObjections ctx) := by
  induction fs generalizing position with
  | nil => rfl
  | cons f fs ih =>
      rw [List.flatMap_cons, ← ih (position + 1), ← reported_checkField position f, checkFields]
      cases checkField ctx position f with
      | ok m => rfl
      | error os => rfl

/-- The owners of keys that the search remembers are the earliest fields with these keys. -/
theorem keyCollisions_eq_filterMap (earlier fs : List Field) (owners : List (String × String))
    (howners : ∀ key, owners.lookup key = (owner? earlier key).map (·.name)) :
    keyCollisions owners fs =
      (fs.zipIdx earlier.length).filterMap (sharedKey? (earlier ++ fs)) := by
  -- the owners answer for the fields passed, of which only the first with a key is remembered
  induction fs generalizing earlier owners with
  | nil => rfl
  | cons f fs ih =>
      have hshared : sharedKey? (earlier ++ f :: fs) (f, earlier.length) =
          (owner? earlier (Naming.containerKey f.name)).map fun first =>
            .duplicateKey (Naming.containerKey f.name) first.name f.name := by
        rw [sharedKey?, List.take_left]
      have hlater : ∀ key, owner? (earlier ++ [f]) key =
          (owner? earlier key).or (if Naming.containerKey f.name == key then some f else none) := by
        intro key
        rw [owner?, List.find?_append, List.find?_singleton]
        rfl
      have hsplit : earlier ++ f :: fs = (earlier ++ [f]) ++ fs := by simp
      have hlength : earlier.length + 1 = (earlier ++ [f]).length := by simp
      rw [keyCollisions, List.zipIdx_cons, List.filterMap_cons, hshared, hsplit, hlength, howners]
      cases howner : owner? earlier (Naming.containerKey f.name) with
      | some first =>
          rw [← ih (earlier ++ [f]) owners]
          · rfl
          · intro key
            rw [howners, hlater]
            by_cases hkey : Naming.containerKey f.name = key
            · subst hkey
              rw [howner]
              rfl
            · simp [hkey]
      | none =>
          rw [← ih (earlier ++ [f]) ((Naming.containerKey f.name, f.name) :: owners)]
          · rfl
          · intro key
            rw [List.lookup_cons, howners, hlater]
            by_cases hkey : Naming.containerKey f.name = key
            · subst hkey
              simp [howner]
            · have hne : (key == Naming.containerKey f.name) = false := by simpa using Ne.symm hkey
              simp [hkey, hne]

theorem check_collecting (hall : options.diagnostics = .allFailures) (name : String)
    (fields : List Field) (c : Constructor) :
    (check ctx options name fields c).1 =
      modelObjections ctx options.checkKeyCollisions name fields c := by
  have hcollects : options.collectsAll = true := by rw [PlanningOptions.collectsAll, hall]; rfl
  have hkeys : keyCollisions [] fields = fields.zipIdx.filterMap (sharedKey? fields) :=
    keyCollisions_eq_filterMap [] fields [] fun _ => rfl
  have hconstructor : defaultConstructor name ctx.writeMode c =
      if ctx.writeMode = .mutation ∧ c.params ≠ [] then
        [.noDefaultConstructor name c.params.length] else [] := by
    simp only [defaultConstructor, List.isEmpty_iff, ne_eq]
  simp only [check, hcollects, Bool.or_true, if_true, checkFields_collecting, hkeys,
    hconstructor, modelObjections]

def eligible (constructors : List Constructor) : List Constructor :=
  constructors.filter fun c => c.visibility = .publicMember ∨ c.visibility = .protectedMember

theorem filter_isForConstruction (constructors : List Constructor) :
    constructors.filter (·.visibility.isForConstruction) = eligible constructors :=
  List.filter_congr fun c _ => by
    rw [Bool.eq_iff_iff, decide_eq_true_iff, Visibility.isForConstruction_iff]

theorem choose_eq_error {constructors : List Constructor} (model : String)
    (hcount : (eligible constructors).length ≠ 1) :
    Constructor.choose model constructors =
      .error (.constructorCount model (eligible constructors).length) := by
  rw [Constructor.choose, filter_isForConstruction]
  split
  · next c heq => exact absurd (by rw [heq]; rfl) hcount
  · rfl

section Answered

variable {name package : String} {kind : DeclarationKind} {fields : List Field}
  {constructors : List Constructor} {methods : List Method}

theorem refused_of_not_class (h : source.Answers name package kind fields constructors methods)
    (hkind : kind ≠ .classType) :
    Refused source catalog options name .discovered [.notAClass name kind] := by
  refine ⟨⟨name, .discovered, .notAClass name kind, []⟩, ?_, rfl, rfl, rfl⟩
  exact ofSource_of_profile_error (profile_of_not_class h.qualifiedName h.kind hkind)

theorem refused_of_eligible_length_ne_one
    (h : source.Answers name package .classType fields constructors methods)
    (hcount : (eligible constructors).length ≠ 1) :
    Refused source catalog options name .fieldsCollected
      [.constructorCount name (eligible constructors).length] := by
  refine ⟨⟨name, .fieldsCollected, .constructorCount name (eligible constructors).length, []⟩, ?_,
    rfl, rfl, rfl⟩
  exact ofSource_of_profile_error (profile_of_choose_error ⟨h.qualifiedName, h.kind⟩ h.fields
    h.constructors (choose_eq_error name hcount))

theorem verdict_of_eligible_eq_singleton {c : Constructor} {os : List Objection}
    (h : source.Answers name package .classType fields constructors methods)
    (hc : eligible constructors = [c])
    (hos : (check { catalog, methods, writeMode := c.writeMode fields } options name fields c).1 =
      os) :
    ((∃ m, ofSource source catalog options = .ok m) ↔ os = []) ∧
      (os ≠ [] → Refused source catalog options name .constructorResolved os) := by
  have hchoose : Constructor.choose name constructors = .ok c := by
    rw [Constructor.choose_ok_iff, filter_isForConstruction, hc]
  let p : Profile := { name, fields, constructor := c, methods }
  have hp : profile source = .ok p := profile_ok_iff.mpr ⟨h.qualifiedName, h.kind, h.fields,
    constructors, h.constructors, hchoose, h.methods⟩
  have hchecked : (p.checked catalog options).1 = os := hos
  constructor
  · rw [ofSource_of_profile hp]
    constructor
    · rintro ⟨m, hm⟩
      exact hchecked.symm.trans (Profile.judge_eq_ok_iff.mp hm).1
    · intro hnil
      exact ⟨_, Profile.judge_eq_ok_iff.mpr ⟨hchecked.trans hnil, package, h.packageName, rfl⟩⟩
  · intro hne
    obtain ⟨o, os', rfl⟩ := List.exists_cons_of_ne_nil hne
    refine ⟨⟨name, .constructorResolved, o, os'⟩, ?_, rfl, rfl, rfl⟩
    rw [ofSource_of_profile hp]
    exact Profile.judge_eq_rejection_iff.mpr ⟨rfl, rfl, hchecked.symm⟩

theorem Refused.ne_nil {model : String} {stage : Stage} {os : List Objection}
    (h : Refused source catalog options model stage os) : os ≠ [] := by
  obtain ⟨r, -, -, -, rfl⟩ := h
  exact List.cons_ne_nil r.first r.others

/-- When all objections are wanted, the verdict on a declaration that answers is exact: what is not
a class is refused for that, a class is refused for the number of its constructors unless there is
one to call, and else it is refused for all that is to be said against it, in order, or accepted if
there is nothing to say. No refusal is without objections. -/
theorem refused_exactly (hall : options.diagnostics = .allFailures)
    (h : source.Answers name package kind fields constructors methods) :
    (kind ≠ .classType →
      Refused source catalog options name .discovered [.notAClass name kind]) ∧
    (kind = .classType → (eligible constructors).length ≠ 1 →
      Refused source catalog options name .fieldsCollected
        [.constructorCount name (eligible constructors).length]) ∧
    (∀ c, kind = .classType → eligible constructors = [c] →
      let os := modelObjections { catalog, methods, writeMode := c.writeMode fields }
        options.checkKeyCollisions name fields c
      ((∃ m, ofSource source catalog options = .ok m) ↔ os = []) ∧
        (os ≠ [] → Refused source catalog options name .constructorResolved os)) ∧
    ∀ model stage os, Refused source catalog options model stage os → os ≠ [] := by
  refine ⟨refused_of_not_class h, ?_, ?_, fun _ _ _ => Refused.ne_nil⟩
  · rintro rfl
    exact refused_of_eligible_length_ne_one h
  · rintro c rfl hc
    exact verdict_of_eligible_eq_singleton h hc (check_collecting hall name fields c)

end Answered

def ledger : Declaration where
  name := "a.Ledger"
  fields := [
    { name := "userId", type := .declared "java.lang.Object" [] },
    { name := "rows", type := .primitive .int, visibility := .publicMember },
    { name := "user_id", type := .primitive .int, visibility := .publicMember },
    { name := "userId", type := .primitive .int, visibility := .publicMember }]
  constructors := some [
    { params := [{ name := "rows", type := .primitive .int }], visibility := .protectedMember },
    { visibility := .privateMember }]

theorem ledger_is_refused :
    Refused ledger.source {} { diagnostics := .allFailures } "a.Ledger" .constructorResolved [
      .notReadable "userId" "getUserId", .notWritable "userId" "setUserId",
      .noOperation "userId" (.declared "java.lang.Object" []),
      .duplicateKey "ARG_USER_ID" "userId" "user_id",
      .duplicateKey "ARG_USER_ID" "userId" "userId", .noDefaultConstructor "a.Ledger" 1] :=
  ((refused_exactly rfl ledger.source_answers).2.2.1 _ rfl rfl).2 (by decide)

end Model

end Companion
