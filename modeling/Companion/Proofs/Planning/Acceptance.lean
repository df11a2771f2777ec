import Companion.Proofs.Planning.FieldChecks
import Companion.Proofs.Planning.Profile
import Mathlib.Data.List.Forall2

namespace Companion

namespace Model

variable {source : DeclarationSource} {catalog : CapabilityCatalog} {options : PlanningOptions}
  {m : Model}

theorem ofSource_ok_iff :
    ofSource source catalog options = .ok m ↔
      source.qualifiedName = .ok m.name ∧ source.kind = .ok .classType ∧
        ∃ fields constructors methods,
          source.fields = .ok fields ∧ source.constructors = .ok constructors ∧
            Constructor.choose m.name constructors = .ok m.constructor ∧
            source.methods = .ok methods ∧ m.writeMode = m.constructor.writeMode fields ∧
            check { catalog, methods, writeMode := m.writeMode } options m.name fields
              m.constructor = ([], m.fields) ∧
            source.packageName = .ok m.package ∧
            m.companion = Naming.companionName (simpleNames m.package m.name) := by
  obtain ⟨name, package, companion, constructor, writeMode, fields⟩ := m
  rw [ofSource_eq_bind_judge, bind_ok_iff]
  dsimp only
  constructor
  · rintro ⟨p, hp, hm⟩
    obtain ⟨hname, hkind, hfields, constructors, hconstructors, hchoose, hmethods⟩ :=
      profile_ok_iff.mp hp
    obtain ⟨hos, package, hpackage, hm⟩ := Profile.judge_eq_ok_iff.mp hm
    cases hm
    exact ⟨hname, hkind, p.fields, constructors, p.methods, hfields, hconstructors, hchoose,
      hmethods, rfl, Prod.ext hos rfl, hpackage, rfl⟩
  · rintro ⟨hname, hkind, fields, constructors, methods, hfields, hconstructors, hchoose, hmethods,
      rfl, hcheck, hpackage, rfl⟩
    let p : Profile := { name, fields, constructor, methods }
    have hchecked : p.checked catalog options = _ := hcheck
    refine ⟨p, profile_ok_iff.mpr ⟨hname, hkind, hfields, constructors, hconstructors, hchoose,
      hmethods⟩, Profile.judge_eq_ok_iff.mpr ⟨congrArg Prod.fst hchecked, package, hpackage, ?_⟩⟩
    rw [Profile.model, hchecked]

end Model

/-- The plan of a field, at a position among the fields of its model, can be carried out with the
methods that the model has. -/
structure FieldPlan.Executable (catalog : CapabilityCatalog) (methods : List Method)
    (mode : WriteMode) (position : Nat) (f : Field) (p : FieldPlan) : Prop where
  named : p.name = f.name
  typed : p.declaredType = f.type
  keyed : p.containerKey = Naming.containerKey f.name
  getHelper : p.getHelper = Naming.getHelperName f.name
  putHelper : p.putHelper = Naming.putHelperName f.name
  resolved : catalog.resolve f.type = some ⟨p.transfer, p.matchedBy⟩
  read : (f.visibility = .publicMember ∧ p.read = .field) ∨
    (f.visibility ≠ .publicMember ∧ (∃ m ∈ methods, m.Reads f) ∧
      p.read = .getter (Naming.getterName f.name))
  constructed : mode = .construction → p.write = .constructorArg position
  mutated : mode = .mutation →
    (f.visibility = .publicMember ∧ p.write = .field) ∨
      (f.visibility ≠ .publicMember ∧ (∃ m ∈ methods, m.Writes f) ∧
        p.write = .setter (Naming.setterName f.name))

structure Constructor.Suits (c : Constructor) (fields : List Field) (mode : WriteMode) :
    Prop where
  constructed : mode = .construction →
    c.params.map (fun p => (p.name, p.type)) = fields.map (fun f => (f.name, f.type))
  mutated : mode = .mutation →
    c.params.map (fun p => (p.name, p.type)) ≠ fields.map (fun f => (f.name, f.type)) ∧
      c.params = []

theorem Constructor.suits {c : Constructor} {fields : List Field} {mode : WriteMode}
    (hmode : mode = c.writeMode fields) (hc : mode = .mutation → c.params = []) :
    c.Suits fields mode := by
  subst hmode
  refine ⟨writeMode_eq_construction_iff.mp, fun hmode => ⟨?_, hc hmode⟩⟩
  intro heq
  rw [writeMode_eq_construction_iff.mpr heq] at hmode
  cases hmode

namespace Model

variable {source : DeclarationSource} {catalog : CapabilityCatalog} {options : PlanningOptions}
  {ctx : FieldContext} {m : Model} {fields : List Field}

theorem executable_of_checkField {position : Nat} {f : Field} {mf : ModelField}
    (h : checkField ctx position f = .ok mf) :
    FieldPlan.Executable ctx.catalog ctx.methods ctx.writeMode position f mf.plan := by
  obtain ⟨rfl, hread, hwrite, hresolution⟩ := checkField_ok_iff.mp h
  refine ⟨rfl, rfl, rfl, rfl, rfl, hresolution, Field.readAccess_ok_iff.mp hread, ?_, ?_⟩
  · intro hmode
    rw [hmode, Field.writeAccess_construction] at hwrite
    exact (Except.ok.inj hwrite).symm
  · intro hmode
    rw [hmode] at hwrite
    exact Field.writeAccess_mutation_ok_iff.mp hwrite

theorem forall₂_executable_of_checkFields {all : Bool} {passed : List ModelField}
    (h : checkFields ctx all 0 fields = ([], passed)) :
    List.Forall₂ (fun f p => FieldPlan.Executable ctx.catalog ctx.methods ctx.writeMode f.2 f.1 p)
      fields.zipIdx (passed.map (·.plan)) := by
  rw [List.forall₂_map_right_iff]
  exact (checkFields_ok_iff.mp h).imp fun _ _ => executable_of_checkField

theorem map_field_of_checkFields {all : Bool} {passed : List ModelField}
    (h : checkFields ctx all 0 fields = ([], passed)) : passed.map (·.field) = fields := by
  have hfield : List.Forall₂ (fun f m => f.1 = m.field) fields.zipIdx passed :=
    (checkFields_ok_iff.mp h).imp fun _ _ hm => (checkField_ok_iff.mp hm).1.symm
  have heq : List.Forall₂ Eq (fields.zipIdx.map (·.1)) (passed.map (·.field)) := by
    simpa only [List.forall₂_map_left_iff, List.forall₂_map_right_iff] using hfield
  rw [List.forall₂_eq_eq_eq, List.zipIdx_map_fst] at heq
  exact heq.symm

/-- An accepted model has a plan that can be carried out: its declaration is a class with one
constructor that others may call, each of its fields is planned in its place, and no two fields
share a key unless that is permitted. -/
theorem executable_plan_of_ofSource (hm : ofSource source catalog options = .ok m) :
    ∃ fields constructors methods constructor,
      source.kind = .ok .classType ∧ source.fields = .ok fields ∧
        source.constructors = .ok constructors ∧ source.methods = .ok methods ∧
        source.qualifiedName = .ok m.plan.model ∧ source.packageName = .ok m.plan.package ∧
        m.plan.companion = Naming.companionName (simpleNames m.plan.package m.plan.model) ∧
        (constructors.filter fun c =>
          c.visibility = .publicMember ∨ c.visibility = .protectedMember) = [constructor] ∧
        constructor.Suits fields m.plan.writeMode ∧
        List.Forall₂
          (fun f p => FieldPlan.Executable catalog methods m.plan.writeMode f.2 f.1 p)
          fields.zipIdx m.plan.fields ∧
        (options.checkKeyCollisions = true → (m.plan.fields.map (·.containerKey)).Nodup) := by
  obtain ⟨hname, hkind, fields, constructors, methods, hfields, hconstructors, hchoose, hmethods,
    hmode, hcheck, hpackage, hcompanion⟩ := ofSource_ok_iff.mp hm
  obtain ⟨hpassed, hkeys, hconstructor⟩ := check_ok_iff.mp hcheck
  refine ⟨fields, constructors, methods, m.constructor, hkind, hfields, hconstructors, hmethods,
    hname, hpackage, hcompanion, ?_, Constructor.suits hmode hconstructor,
    forall₂_executable_of_checkFields hpassed, ?_⟩
  · rw [← Constructor.choose_ok_iff.mp hchoose]
    exact List.filter_congr fun c _ => by
      rw [Bool.eq_iff_iff, decide_eq_true_iff, Visibility.isForConstruction_iff]
  · intro hcheckKeys
    have hdistinct := hkeys hcheckKeys
    rw [← map_field_of_checkFields hpassed, List.map_map] at hdistinct
    rw [plan, List.map_map]
    exact hdistinct

def account : Declaration where
  name := "a.Account"
  fields := [
    { name := "id", type := .declared "java.lang.String" [], visibility := .publicMember },
    { name := "total", type := .primitive .long, visibility := .privateMember }]
  methods := [
    { name := "getTotal", returns := some (.primitive .long) },
    { name := "setTotal", params := [{ name := "value", type := .primitive .long }] }]

theorem account_is_planned :
    ∃ m, ofSource account.source {} {} = .ok m ∧ m.plan.fields.length = 2 ∧
      (m.plan.fields.map (·.containerKey)).Nodup := by
  obtain ⟨m, hm⟩ : ∃ m, ofSource account.source {} {} = .ok m := ⟨_, rfl⟩
  obtain ⟨fields, _, _, _, _, hfields, _, _, _, _, _, _, _, hplanned, hkeys⟩ :=
    executable_plan_of_ofSource hm
  cases hfields
  exact ⟨m, hm, hplanned.length_eq.symm, hkeys rfl⟩

end Model

end Companion
