import Companion.Proofs.Planning.Acceptance
import Companion.Proofs.Planning.Objections
import Companion.Proofs.Planning.Profile
import Mathlib.Data.List.Forall2

namespace Companion

namespace Model

def usable (methods : List Method) : List Method :=
  methods.filter fun m => m.visibility ≠ .privateMember ∧ m.isStatic = false

structure Profile.UsableAlike (p p' : Profile) : Prop where
  name : p'.name = p.name
  fields : p'.fields = p.fields
  constructor : p'.constructor = p.constructor
  methods : (usable p.methods).Perm (usable p'.methods)

end Model

/-- The sources tell of the same fields, the same constructors that others may call and, in some
order, the same methods that a companion can call. Where one does not answer, the other one fails
alike. -/
structure DeclarationSource.UsableAlike (source source' : DeclarationSource) : Prop where
  qualifiedName : source'.qualifiedName = source.qualifiedName
  packageName : source'.packageName = source.packageName
  kind : source'.kind = source.kind
  fields : source'.fields = source.fields
  constructors : Alike (fun cs cs' => Model.eligible cs = Model.eligible cs') source.constructors
    source'.constructors
  methods : Alike (fun ms ms' => (Model.usable ms).Perm (Model.usable ms')) source.methods
    source'.methods

namespace Model

variable {source source' : DeclarationSource} {catalog : CapabilityCatalog}
  {options : PlanningOptions} {p p' : Profile} {methods more : List Method} {m : Model}

section Ignoring

theorem filter_isUsable (methods : List Method) : methods.filter (·.isUsable) = usable methods :=
  List.filter_congr fun m _ => by
    rw [Bool.eq_iff_iff, decide_eq_true_iff, Method.isUsable_iff]

theorem any_usable {test : Method → Bool} (htest : ∀ m, test m = true → m.isUsable = true)
    (methods : List Method) : (usable methods).any test = methods.any test := by
  rw [← filter_isUsable, List.any_filter]
  congr 1
  funext m
  cases ht : test m with
  | false => exact Bool.and_false _
  | true => rw [htest m ht, Bool.and_true]

theorem any_eq_of_perm {test : Method → Bool} (htest : ∀ m, test m = true → m.isUsable = true)
    (hp : (usable methods).Perm (usable more)) : more.any test = methods.any test := by
  rw [← any_usable htest methods, ← any_usable htest more]
  exact hp.symm.any_eq

theorem isUsable_of_isGetterOf {f : Field} {m : Method} (hm : m.isGetterOf f = true) :
    m.isUsable = true :=
  (Method.callable_iff.mp (Method.isGetterOf_iff.mp hm).1).1

theorem isUsable_of_isSetterOf {f : Field} {m : Method} (hm : m.isSetterOf f = true) :
    m.isUsable = true :=
  (Method.callable_iff.mp (Method.isSetterOf_iff.mp hm).1).1

theorem readAccess_eq_of_perm (hp : (usable methods).Perm (usable more)) (f : Field) :
    f.readAccess more = f.readAccess methods := by
  rw [Field.readAccess, Field.readAccess, any_eq_of_perm (fun _ => isUsable_of_isGetterOf) hp]

theorem writeAccess_eq_of_perm (hp : (usable methods).Perm (usable more)) (f : Field)
    (mode : WriteMode) (position : Nat) :
    f.writeAccess more mode position = f.writeAccess methods mode position := by
  cases mode with
  | construction => rfl
  | mutation =>
      rw [Field.writeAccess, Field.writeAccess, any_eq_of_perm (fun _ => isUsable_of_isSetterOf) hp]

theorem Profile.judge_eq_of_usableAlike (hp : p.UsableAlike p') (package : Except Crash String) :
    p.judge catalog options package = p'.judge catalog options package := by
  obtain ⟨name, fields, constructor, methods⟩ := p
  obtain ⟨name', fields', constructor', methods'⟩ := p'
  obtain ⟨rfl, rfl, rfl, hmethods⟩ := hp
  have hcheck : ∀ f ∈ fields', ∀ position,
      checkField (context ⟨name', fields', constructor', methods⟩ catalog) position f =
        checkField (context ⟨name', fields', constructor', methods'⟩ catalog) position f := by
    intro f _ position
    rw [checkField, checkField]
    dsimp only [context]
    rw [readAccess_eq_of_perm hmethods, writeAccess_eq_of_perm hmethods]
  exact judge_congr (check_congr hcheck rfl options name' constructor') rfl rfl rfl package

theorem choose_eq_of_eligible {cs cs' : List Constructor} (h : eligible cs = eligible cs')
    (model : String) : Constructor.choose model cs = Constructor.choose model cs' := by
  rw [Constructor.choose, Constructor.choose, filter_isForConstruction, filter_isForConstruction, h]

theorem ask_alike {α : Type} {R : α → α → Prop} {x y : Except Fault α} (hx : Alike R x y)
    (model : String) (stage : Stage) : Alike R (ask model stage x) (ask model stage y) := by
  cases hx with
  | ok h => exact .ok h
  | error e =>
      rw [ask_error]
      exact .error _

theorem profile_alike (h : source.UsableAlike source') :
    Alike Profile.UsableAlike (profile source) (profile source') := by
  rw [profile, profile, h.qualifiedName, h.kind, h.fields]
  refine Alike.after _ fun name => Alike.after _ fun kind => ?_
  by_cases hkind : kind = .classType
  · rw [if_neg (not_not_intro hkind), if_neg (not_not_intro hkind)]
    refine Alike.after _ fun fields => ?_
    refine (ask_alike h.constructors name .fieldsCollected).bind fun cs cs' hcs => ?_
    rw [choose_eq_of_eligible hcs]
    refine Alike.after _ fun constructor => ?_
    refine (ask_alike h.methods name .constructorResolved).bind fun ms ms' hms => ?_
    exact .ok ⟨rfl, rfl, rfl, hms⟩
  · rw [if_pos hkind, if_pos hkind]
    exact .error _

theorem ofSource_eq_of_usableAlike (h : source.UsableAlike source') (catalog : CapabilityCatalog)
    (options : PlanningOptions) :
    ofSource source' catalog options = ofSource source catalog options := by
  rw [ofSource_eq_bind_judge, ofSource_eq_bind_judge, h.packageName]
  exact ((profile_alike h).bind_eq fun p p' hp => Profile.judge_eq_of_usableAlike hp _).symm

end Ignoring

section Adding

theorem readAccess_ok_of_subset {f : Field} {access : ReadAccess} (hmore : methods ⊆ more)
    (hread : f.readAccess methods = .ok access) : f.readAccess more = .ok access := by
  rw [Field.readAccess_ok_iff] at hread ⊢
  rcases hread with hpublic | ⟨hv, ⟨m, hm, hreads⟩, haccess⟩
  · exact .inl hpublic
  · exact .inr ⟨hv, ⟨m, hmore hm, hreads⟩, haccess⟩

theorem writeAccess_ok_of_subset {f : Field} {mode : WriteMode} {position : Nat}
    {access : WriteAccess} (hmore : methods ⊆ more)
    (hwrite : f.writeAccess methods mode position = .ok access) :
    f.writeAccess more mode position = .ok access := by
  cases mode with
  | construction => exact hwrite
  | mutation =>
      rw [Field.writeAccess_mutation_ok_iff] at hwrite ⊢
      rcases hwrite with hpublic | ⟨hv, ⟨m, hm, hwrites⟩, haccess⟩
      · exact .inl hpublic
      · exact .inr ⟨hv, ⟨m, hmore hm, hwrites⟩, haccess⟩

theorem checkField_ok_of_subset {mode : WriteMode} {position : Nat} {f : Field} {mf : ModelField}
    (hmore : methods ⊆ more) (hf : checkField ⟨catalog, methods, mode⟩ position f = .ok mf) :
    checkField ⟨catalog, more, mode⟩ position f = .ok mf := by
  obtain ⟨hfield, hread, hwrite, hresolution⟩ := checkField_ok_iff.mp hf
  exact checkField_ok_iff.mpr ⟨hfield, readAccess_ok_of_subset hmore hread,
    writeAccess_ok_of_subset hmore hwrite, hresolution⟩

theorem Profile.checked_of_subset (hmore : p.methods ⊆ more)
    (hos : (p.checked catalog options).1 = []) :
    ({ p with methods := more } : Profile).checked catalog options = p.checked catalog options := by
  have hchecked : p.checked catalog options = ([], (p.checked catalog options).2) :=
    Prod.ext hos rfl
  rw [hchecked]
  obtain ⟨hfields, hkeys, hconstructor⟩ := check_ok_iff.mp hchecked
  refine check_ok_iff.mpr ⟨checkFields_ok_iff.mpr ?_, hkeys, hconstructor⟩
  exact (checkFields_ok_iff.mp hfields).imp fun _ _ => checkField_ok_of_subset hmore

theorem ofSource_of_subset (hmethods : source.methods = .ok methods) (hmore : methods ⊆ more)
    (hm : ofSource source catalog options = .ok m) :
    ofSource { source with methods := .ok more } catalog options = .ok m := by
  rw [ofSource_eq_bind_judge, bind_ok_iff] at hm ⊢
  obtain ⟨p, hp, hm⟩ := hm
  obtain ⟨hname, hkind, hfields, constructors, hconstructors, hchoose, hp⟩ := profile_ok_iff.mp hp
  obtain rfl : methods = p.methods := Except.ok.inj (hmethods.symm.trans hp)
  refine ⟨{ p with methods := more }, profile_ok_iff.mpr ⟨hname, hkind, hfields, constructors,
    hconstructors, hchoose, rfl⟩, ?_⟩
  have hos := (Profile.judge_eq_ok_iff.mp hm).1
  rw [← hm]
  exact Profile.judge_congr (Profile.checked_of_subset hmore hos) rfl rfl rfl _

end Adding

/-- Private and static methods, the order of the others, and private and package-private
constructors make no difference to what becomes of a declaration: it is accepted with the same
result or rejected for the same reasons. An accepted declaration stays so, with the same result,
whatever methods are added to it. -/
theorem unusable_members_are_ignored :
    (∀ source source' : DeclarationSource, source.UsableAlike source' →
      ∀ catalog options, ofSource source' catalog options = ofSource source catalog options) ∧
    ∀ (source : DeclarationSource) (catalog : CapabilityCatalog) (options : PlanningOptions)
      (m : Model) (methods more : List Method), ofSource source catalog options = .ok m →
      source.methods = .ok methods → methods ⊆ more →
      ofSource { source with methods := .ok more } catalog options = .ok m :=
  ⟨fun _ _ => ofSource_eq_of_usableAlike,
    fun _ _ _ _ _ _ hm hmethods hmore => ofSource_of_subset hmethods hmore hm⟩

/-- The account among members that a companion has no use for: a constructor that takes its fields,
but only within the package, and accessors that are private or static. -/
def crowdedAccount : Declaration :=
  { account with
    constructors := some [
      { params := [{ name := "id", type := .declared "java.lang.String" [] },
                   { name := "total", type := .primitive .long }] },
      .implicit]
    methods := [
      { name := "getTotal", returns := some (.primitive .long), visibility := .privateMember },
      { name := "setTotal", params := [{ name := "value", type := .primitive .long }] },
      { name := "getTotal", returns := some (.primitive .long), isStatic := true },
      { name := "getTotal", returns := some (.primitive .long) }] }

def overloads : List Method := [
  { name := "getTotal", params := [{ name := "at", type := .primitive .int }],
    returns := some (.primitive .long) },
  { name := "setTotal", params := [{ name := "value", type := .primitive .int }] }]

theorem crowded_account_is_planned :
    ∃ m, ofSource account.source {} {} = .ok m ∧ ofSource crowdedAccount.source {} {} = .ok m ∧
      ofSource { crowdedAccount.source with methods := .ok (overloads ++ crowdedAccount.methods) }
        {} {} = .ok m := by
  obtain ⟨heq, hadd⟩ := unusable_members_are_ignored
  obtain ⟨m, hm⟩ : ∃ m, ofSource account.source {} {} = .ok m := ⟨_, rfl⟩
  have halike : account.source.UsableAlike crowdedAccount.source :=
    ⟨rfl, rfl, rfl, rfl, .ok rfl, .ok (List.Perm.swap _ _ [])⟩
  have hcrowded : ofSource crowdedAccount.source {} {} = .ok m := by
    rw [heq account.source crowdedAccount.source halike]
    exact hm
  refine ⟨m, hm, hcrowded, ?_⟩
  exact hadd _ _ _ m _ _ hcrowded rfl (List.subset_append_right _ _)

end Model

end Companion
