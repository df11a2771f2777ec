import Companion.Planning.Model
import Companion.Proofs.Except

namespace Companion

def Fault.interrupt (model : String) (stage : Stage) : Fault → Interruption
  | .crash c => .crash c
  | .failure e => .rejection { model, stage, first := .internal e.message }

/-- An objection that ends the examination before the model is judged. -/
def Objection.isPreliminary : Objection → Bool
  | .notAClass .. | .constructorCount .. | .internal _ => true
  | _ => false

namespace Model

/-- What a class has told when its model is judged. -/
structure Profile where
  name : String
  fields : List Field
  constructor : Constructor
  methods : List Method
  deriving DecidableEq, Repr

namespace Profile

def context (p : Profile) (catalog : CapabilityCatalog) : FieldContext where
  catalog
  methods := p.methods
  writeMode := p.constructor.writeMode p.fields

def checked (p : Profile) (catalog : CapabilityCatalog) (options : PlanningOptions) :
    List Objection × List ModelField :=
  check (p.context catalog) options p.name p.fields p.constructor

def model (p : Profile) (catalog : CapabilityCatalog) (options : PlanningOptions)
    (package : String) : Model where
  name := p.name
  package
  companion := Naming.companionName (simpleNames package p.name)
  constructor := p.constructor
  writeMode := p.constructor.writeMode p.fields
  fields := (p.checked catalog options).2

def judge (p : Profile) (catalog : CapabilityCatalog) (options : PlanningOptions)
    (package : Except Crash String) : Except Interruption Model :=
  match (p.checked catalog options).1 with
  | [] => (package.mapError .crash).map (p.model catalog options)
  | o :: os =>
    .error (.rejection { model := p.name, stage := .constructorResolved, first := o, others := os })

end Profile

def profile (source : DeclarationSource) : Except Interruption Profile := do
  let name ← source.qualifiedName.mapError .crash
  let kind ← source.kind.mapError .crash
  if kind ≠ .classType then
    throw (.rejection { model := name, stage := .discovered, first := .notAClass name kind })
  let fields ← ask name .discovered source.fields
  let constructors ← ask name .fieldsCollected source.constructors
  let constructor ← (Constructor.choose name constructors).mapError fun o =>
    .rejection { model := name, stage := .fieldsCollected, first := o }
  let methods ← ask name .constructorResolved source.methods
  return { name, fields, constructor, methods }

variable {source : DeclarationSource} {catalog : CapabilityCatalog} {options : PlanningOptions}

theorem ofSource_eq_bind_judge (source : DeclarationSource) (catalog : CapabilityCatalog)
    (options : PlanningOptions) :
    ofSource source catalog options =
      profile source >>= fun p => p.judge catalog options source.packageName := by
  simp only [ofSource, profile, bind_assoc]
  refine bind_congr_of_ok fun name _ => bind_congr_of_ok fun kind _ => ?_
  by_cases hkind : kind = .classType
  · rw [if_neg (not_not_intro hkind), if_neg (not_not_intro hkind)]
    simp only [bind_assoc, pure_bind]
    refine bind_congr_of_ok fun fields _ => bind_congr_of_ok fun constructors _ => ?_
    refine bind_congr_of_ok fun constructor _ => bind_congr_of_ok fun methods _ => ?_
    dsimp only [Profile.judge, Profile.checked, Profile.context]
    cases (check ⟨catalog, methods, constructor.writeMode fields⟩ options name fields
        constructor).1 with
    | nil => cases source.packageName <;> rfl
    | cons o os => rfl
  · rw [if_pos hkind, if_pos hkind]
    rfl

theorem ask_error {α : Type} (model : String) (stage : Stage) (f : Fault) :
    ask model stage (.error f : Except Fault α) = .error (f.interrupt model stage) := by
  cases f <;> rfl

theorem ask_ok_iff {α : Type} {model : String} {stage : Stage} {x : Except Fault α} {a : α} :
    ask model stage x = .ok a ↔ x = .ok a := by
  cases x with
  | ok b => simp [ask]
  | error e => cases e <;> simp [ask]

theorem ofSource_of_profile_error {i : Interruption} (hp : profile source = .error i) :
    ofSource source catalog options = .error i := by
  rw [ofSource_eq_bind_judge, hp]
  rfl

theorem ofSource_of_profile {p : Profile} (hp : profile source = .ok p) :
    ofSource source catalog options = p.judge catalog options source.packageName := by
  rw [ofSource_eq_bind_judge, hp]
  rfl

theorem Profile.judge_eq_ok_iff {p : Profile} {package : Except Crash String} {m : Model} :
    p.judge catalog options package = .ok m ↔
      (p.checked catalog options).1 = [] ∧
        ∃ name, package = .ok name ∧ p.model catalog options name = m := by
  rw [judge]
  cases (p.checked catalog options).1 with
  | nil => cases package <;> simp [Except.mapError, Except.map]
  | cons o os => simp

theorem Profile.judge_congr {p p' : Profile} {catalog' : CapabilityCatalog}
    (hchecked : p'.checked catalog' options = p.checked catalog options)
    (hname : p'.name = p.name) (hfields : p'.fields = p.fields)
    (hconstructor : p'.constructor = p.constructor)
    (package : Except Crash String) :
    p'.judge catalog' options package = p.judge catalog options package := by
  have hmodel : p'.model catalog' options = p.model catalog options := by
    funext name
    rw [model, model, hname, hfields, hconstructor, hchecked]
  rw [judge, judge, hchecked, hmodel, hname]

section Ends

variable {name : String} {kind : DeclarationKind} {c : Crash} {f : Fault} {fields : List Field}
  {constructors : List Constructor} {constructor : Constructor}

theorem profile_of_nameless (hn : source.qualifiedName = .error c) :
    profile source = .error (.crash c) := by
  rw [profile, hn]
  rfl

theorem profile_of_not_class (hn : source.qualifiedName = .ok name) (hk : source.kind = .ok kind)
    (hkind : kind ≠ .classType) :
    profile source =
      .error (.rejection
        { model := name, stage := .discovered, first := .notAClass name kind }) := by
  rw [profile, hn, hk]
  exact if_pos hkind

structure ClassNamed (source : DeclarationSource) (name : String) : Prop where
  named : source.qualifiedName = .ok name
  kind : source.kind = .ok .classType

theorem profile_of_class (hc : ClassNamed source name) :
    profile source = do
      let fields ← ask name .discovered source.fields
      let constructors ← ask name .fieldsCollected source.constructors
      let constructor ← (Constructor.choose name constructors).mapError fun o =>
        .rejection { model := name, stage := .fieldsCollected, first := o }
      let methods ← ask name .constructorResolved source.methods
      return { name, fields, constructor, methods } := by
  rw [profile, hc.named, hc.kind]
  rfl

theorem profile_of_choose_error {o : Objection} (hc : ClassNamed source name)
    (hf : source.fields = .ok fields) (hcs : source.constructors = .ok constructors)
    (ho : Constructor.choose name constructors = .error o) :
    profile source =
      .error (.rejection { model := name, stage := .fieldsCollected, first := o }) := by
  rw [profile_of_class hc, hf, hcs]
  simp only [ask, bind, Except.bind, ho, Except.mapError]

end Ends

section Rejections

variable {α β : Type} {P : Rejection → Prop} {name : String} {stage : Stage}

def Rejects (P : Rejection → Prop) (x : Except Interruption α) : Prop :=
  ∀ r, x = .error (.rejection r) → P r

theorem rejects_ok (P : Rejection → Prop) (a : α) : Rejects P (.ok a) := nofun

theorem rejects_rejection {r : Rejection} (hr : P r) :
    Rejects P (.error (.rejection r) : Except Interruption α) := by
  intro r' hr'
  cases hr'
  exact hr

theorem Rejects.bind {x : Except Interruption α} {g : α → Except Interruption β}
    (hx : Rejects P x) (hg : ∀ a, Rejects P (g a)) : Rejects P (x >>= g) := by
  intro r hr
  cases x with
  | ok a => exact hg a r hr
  | error i =>
      obtain rfl : i = .rejection r := by simpa [Bind.bind, Except.bind] using hr
      exact hx r rfl

theorem rejects_crash (P : Rejection → Prop) (x : Except Crash α) :
    Rejects P (x.mapError .crash) := by
  cases x <;> exact nofun

theorem rejects_objection {x : Except Objection α}
    (hP : ∀ o, x = .error o → P { model := name, stage, first := o }) :
    Rejects P (x.mapError fun o => .rejection { model := name, stage, first := o }) := by
  cases x with
  | ok a => exact rejects_ok P a
  | error o => exact rejects_rejection (hP o rfl)

theorem rejects_ask (hP : ∀ message, P { model := name, stage, first := .internal message })
    (x : Except Fault α) : Rejects P (ask name stage x) := by
  rcases x with (c | e) | a
  · exact nofun
  · exact rejects_rejection (hP e.message)
  · exact rejects_ok P a

/-- A rejection before the model is judged: one objection, which is not about the fields. -/
structure Preliminary (name : String) (r : Rejection) : Prop where
  model : r.model = name
  alone : r.others = []
  preliminary : r.first.isPreliminary = true

theorem rejects_profile (hn : source.qualifiedName = .ok name) :
    Rejects (Preliminary name) (profile source) := by
  rw [profile, hn]
  refine (rejects_crash _ source.kind).bind fun kind => ?_
  by_cases hkind : kind = .classType
  · rw [if_neg (not_not_intro hkind)]
    refine (rejects_ask (fun _ => ⟨rfl, rfl, rfl⟩) source.fields).bind fun fields => ?_
    refine (rejects_ask (fun _ => ⟨rfl, rfl, rfl⟩) source.constructors).bind fun constructors => ?_
    refine (rejects_objection fun o ho => ?_).bind fun constructor => ?_
    · rw [Constructor.choose] at ho
      split at ho
      · cases ho
      · cases ho
        exact ⟨rfl, rfl, rfl⟩
    · exact (rejects_ask (fun _ => ⟨rfl, rfl, rfl⟩) source.methods).bind fun _ => rejects_ok _ _
  · rw [if_pos hkind]
    exact rejects_rejection ⟨rfl, rfl, rfl⟩

theorem exists_preliminary_of_profile {r : Rejection}
    (hr : profile source = .error (.rejection r)) :
    ∃ name, source.qualifiedName = .ok name ∧ Preliminary name r := by
  cases hn : source.qualifiedName with
  | ok name => exact ⟨name, rfl, rejects_profile hn r hr⟩
  | error c =>
      rw [profile_of_nameless hn] at hr
      cases hr

end Rejections

theorem profile_ok_iff {p : Profile} :
    profile source = .ok p ↔
      source.qualifiedName = .ok p.name ∧ source.kind = .ok .classType ∧
        source.fields = .ok p.fields ∧
        ∃ constructors, source.constructors = .ok constructors ∧
          Constructor.choose p.name constructors = .ok p.constructor ∧
          source.methods = .ok p.methods := by
  obtain ⟨name, fields, constructor, methods⟩ := p
  simp only [profile, bind_ok_iff, mapError_ok_iff, guard_ok_iff, ask_ok_iff]
  constructor
  · rintro ⟨name, hn, kind, hk, hclass, fields, hf, constructors, hcs, constructor, hc, methods, hm,
      h⟩
    obtain rfl := not_not.mp hclass
    cases h
    exact ⟨hn, hk, hf, constructors, hcs, hc, hm⟩
  · rintro ⟨hn, hk, hf, constructors, hcs, hc, hm⟩
    exact ⟨name, hn, .classType, hk, not_not_intro rfl, fields, hf, constructors, hcs, constructor,
      hc, methods, hm, rfl⟩

theorem Profile.judge_eq_rejection_iff {p : Profile} {package : Except Crash String}
    {r : Rejection} :
    p.judge catalog options package = .error (.rejection r) ↔
      r.model = p.name ∧ r.stage = .constructorResolved ∧
        r.objections = (p.checked catalog options).1 := by
  obtain ⟨model, stage, first, others⟩ := r
  rw [judge, Rejection.objections]
  cases (p.checked catalog options).1 with
  | nil => cases package <;> simp [Except.mapError, Except.map]
  | cons o os =>
      simp only [Except.error.injEq, Interruption.rejection.injEq, Rejection.mk.injEq,
        List.cons.injEq]
      tauto

end Model

end Companion
