import Companion.Proofs.Planning.Acceptance
import Companion.Proofs.Planning.Diagnostics
import Companion.Proofs.Planning.Objections
import Companion.Proofs.Planning.Profile
import Mathlib.Tactic.Common

namespace Companion

def Objection.isSharedKey : Objection → Bool
  | .duplicateKey .. => true
  | _ => false

theorem Objection.isSharedKey_of_isPreliminary {o : Objection} (ho : o.isPreliminary = true) :
    o.isSharedKey = false := by
  cases o with
  | notAClass | constructorCount | internal => rfl
  | noOperation | notReadable | notWritable | duplicateKey | noDefaultConstructor => cases ho

theorem Rejection.eq_iff {r r' : Rejection} :
    r' = r ↔ r'.model = r.model ∧ r'.stage = r.stage ∧ r'.objections = r.objections := by
  obtain ⟨model, stage, first, others⟩ := r
  obtain ⟨model', stage', first', others'⟩ := r'
  simp only [Rejection.mk.injEq, objections, List.cons.injEq]

namespace Model

variable {source : DeclarationSource} {catalog : CapabilityCatalog} {options : PlanningOptions}
  {ctx : FieldContext} {o : Objection} {m : Model}

theorem isSharedKey_of_fieldObjections {f : Field} (ho : o ∈ fieldObjections ctx f) :
    o.isSharedKey = false := by
  simp only [fieldObjections, List.mem_append, List.mem_ite_nil_right, List.mem_singleton] at ho
  rcases ho with (⟨-, rfl⟩ | ⟨-, rfl⟩) | ⟨-, rfl⟩
  · rfl
  · rfl
  · rfl

theorem isSharedKey_of_sharedKey? {fields : List Field} {p : Field × Nat}
    (ho : sharedKey? fields p = some o) : o.isSharedKey = true := by
  obtain ⟨first, -, rfl⟩ := Option.map_eq_some_iff.mp ho
  rfl

theorem filter_modelObjections (ctx : FieldContext) (name : String) (fields : List Field)
    (c : Constructor) :
    (modelObjections ctx true name fields c).filter (fun o => !o.isSharedKey) =
      modelObjections ctx false name fields c := by
  have hfields : (fields.flatMap (fieldObjections ctx)).filter (fun o => !o.isSharedKey) =
      fields.flatMap (fieldObjections ctx) := by
    rw [List.filter_eq_self]
    intro o ho
    obtain ⟨f, -, ho⟩ := List.mem_flatMap.mp ho
    rw [isSharedKey_of_fieldObjections ho]
    rfl
  have hkeys : (fields.zipIdx.filterMap (sharedKey? fields)).filter (fun o => !o.isSharedKey) =
      [] := by
    rw [List.filter_eq_nil_iff]
    intro o ho
    obtain ⟨p, -, ho⟩ := List.mem_filterMap.mp ho
    rw [isSharedKey_of_sharedKey? ho]
    exact Bool.false_ne_true
  rw [modelObjections, modelObjections, List.filter_append, List.filter_append, hfields,
    if_pos rfl, hkeys]
  by_cases hc : ctx.writeMode = .mutation ∧ c.params ≠ []
  · rw [if_pos hc]
    rfl
  · rw [if_neg hc]
    rfl

theorem Profile.filter_checked (p : Profile) (catalog : CapabilityCatalog) :
    (p.checked catalog ⟨.allFailures, false⟩).1 =
      (p.checked catalog ⟨.allFailures, true⟩).1.filter fun o => !o.isSharedKey := by
  rw [checked, checked, check_collecting rfl, check_collecting rfl, filter_modelObjections]

def unshared (r : Rejection) : List Objection := r.objections.filter fun o => !o.isSharedKey

theorem Profile.judge_unshared {p : Profile} {package : Except Crash String} {r : Rejection}
    (hr : p.judge catalog ⟨.allFailures, true⟩ package = .error (.rejection r)) :
    (∀ r', p.judge catalog ⟨.allFailures, false⟩ package = .error (.rejection r') ↔
      r'.model = r.model ∧ r'.stage = r.stage ∧ r'.objections = unshared r) ∧
    ((∃ m, p.judge catalog ⟨.allFailures, false⟩ package = .ok m) ↔
      unshared r = [] ∧ ∃ name, package = .ok name) := by
  obtain ⟨hmodel, hstage, hobjections⟩ := judge_eq_rejection_iff.mp hr
  have hrest : (p.checked catalog ⟨.allFailures, false⟩).1 = unshared r := by
    rw [filter_checked, unshared, hobjections]
  constructor
  · intro r'
    rw [judge_eq_rejection_iff, hmodel, hstage, hrest]
  · simp only [judge_eq_ok_iff, hrest]
    constructor
    · rintro ⟨m, hnone, name, hname, -⟩
      exact ⟨hnone, name, hname⟩
    · rintro ⟨hnone, name, hname⟩
      exact ⟨_, hnone, name, hname, rfl⟩

/-- Among all objections to a declaration, the check of the keys adds those to shared keys and no
others. -/
theorem ofSource_unshared {r : Rejection}
    (hr : ofSource source catalog ⟨.allFailures, true⟩ = .error (.rejection r)) :
    (∀ r', ofSource source catalog ⟨.allFailures, false⟩ = .error (.rejection r') ↔
      r'.model = r.model ∧ r'.stage = r.stage ∧ r'.objections = unshared r) ∧
    ((∃ m, ofSource source catalog ⟨.allFailures, false⟩ = .ok m) ↔
      unshared r = [] ∧ ∃ package, source.packageName = .ok package) := by
  cases hp : profile source with
  | ok p =>
      rw [ofSource_of_profile hp] at hr ⊢
      exact Profile.judge_unshared hr
  | error i =>
      rw [ofSource_of_profile_error hp] at hr ⊢
      cases hr
      -- the one objection that ends the examination early is not about keys
      obtain ⟨name, -, hpreliminary⟩ := exists_preliminary_of_profile hp
      have hfirst := Objection.isSharedKey_of_isPreliminary hpreliminary.preliminary
      have hunshared : unshared r = r.objections := by
        rw [unshared, Rejection.objections, hpreliminary.alone]
        simp [hfirst]
      rw [hunshared]
      constructor
      · intro r'
        rw [← Rejection.eq_iff]
        simp [eq_comm]
      · refine iff_of_false ?_ fun h => List.cons_ne_nil _ _ h.1
        rintro ⟨m, hm⟩
        cases hm

theorem ofSource_ok_diagnostics (source : DeclarationSource) (diagnostics : Diagnostics)
    (checkKeys : Bool) :
    ofSource source catalog ⟨diagnostics, checkKeys⟩ = .ok m ↔
      ofSource source catalog ⟨.allFailures, checkKeys⟩ = .ok m := by
  cases diagnostics with
  | allFailures => exact Iff.rfl
  | firstFailure => rw [ofSource_firstFailure, mapError_ok_iff]

theorem ofSource_ok_sharing {diagnostics : Diagnostics} {checkKeys : Bool}
    (hm : ofSource source catalog ⟨diagnostics, checkKeys⟩ = .ok m) :
    ofSource source catalog ⟨diagnostics, false⟩ = .ok m := by
  obtain ⟨hname, hkind, fields, constructors, methods, hfields, hconstructors, hchoose, hmethods,
    hmode, hcheck, hpackage⟩ := ofSource_ok_iff.mp hm
  refine ofSource_ok_iff.mpr ⟨hname, hkind, fields, constructors, methods, hfields, hconstructors,
    hchoose, hmethods, hmode, ?_, hpackage⟩
  obtain ⟨hpassed, -, hconstructor⟩ := check_ok_iff.mp hcheck
  exact check_ok_iff.mpr ⟨hpassed, nofun, hconstructor⟩

theorem ofSource_first_unshared {r : Rejection}
    (hr : ofSource source catalog ⟨.firstFailure, true⟩ = .error (.rejection r))
    (hfirst : r.first.isSharedKey = false) :
    ofSource source catalog ⟨.firstFailure, false⟩ = .error (.rejection r) := by
  rw [ofSource_firstFailure] at hr ⊢
  cases hall : ofSource source catalog ⟨.allFailures, true⟩ with
  | ok m =>
      rw [hall] at hr
      cases hr
  | error i =>
  cases i with
  | crash c =>
      rw [hall] at hr
      cases hr
  | rejection all =>
      rw [hall] at hr
      cases hr
      have hrest : unshared all = all.first :: all.others.filter fun o => !o.isSharedKey := by
        rw [unshared, Rejection.objections, List.filter_cons_of_pos]
        rw [hfirst]
        rfl
      have hwithout := ((ofSource_unshared hall).1
        { all with others := all.others.filter fun o => !o.isSharedKey }).mpr ⟨rfl, rfl, hrest.symm⟩
      rw [hwithout]
      rfl

/-- Without the check of the keys, a model that is accepted with it is accepted with the same
result; where all objections are wanted, those to shared keys are left out and the others told in
their order, after the same stage, and the model is accepted exactly if no other is left; and where
one is wanted, it is the same unless it is to a shared key. -/
theorem only_shared_keys_are_permitted (source : DeclarationSource) (catalog : CapabilityCatalog) :
    (∀ diagnostics m, ofSource source catalog ⟨diagnostics, true⟩ = .ok m →
      ofSource source catalog ⟨diagnostics, false⟩ = .ok m) ∧
    (∀ r, ofSource source catalog ⟨.allFailures, true⟩ = .error (.rejection r) →
      let rest := r.objections.filter fun o => !o.isSharedKey
      (∀ r', ofSource source catalog ⟨.allFailures, false⟩ = .error (.rejection r') ↔
        r'.model = r.model ∧ r'.stage = r.stage ∧ r'.objections = rest) ∧
      ((∃ m, ofSource source catalog ⟨.allFailures, false⟩ = .ok m) ↔
        rest = [] ∧ ∃ package, source.packageName = .ok package)) ∧
    ∀ r, ofSource source catalog ⟨.firstFailure, true⟩ = .error (.rejection r) →
      r.first.isSharedKey = false →
      ofSource source catalog ⟨.firstFailure, false⟩ = .error (.rejection r) :=
  ⟨fun _ _ => ofSource_ok_sharing, fun _ => ofSource_unshared, fun _ => ofSource_first_unshared⟩

def pair : Declaration where
  name := "a.Pair"
  fields := [
    { name := "userId", type := .primitive .int, visibility := .publicMember },
    { name := "user_id", type := .primitive .int, visibility := .publicMember }]

theorem ledger_keeps_other_objections :
    (∃ m, ofSource pair.source {} ⟨.allFailures, false⟩ = .ok m) ∧
      Refused ledger.source {} ⟨.allFailures, false⟩ "a.Ledger" .constructorResolved [
        .notReadable "userId" "getUserId", .notWritable "userId" "setUserId",
        .noOperation "userId" (.declared "java.lang.Object" []),
        .noDefaultConstructor "a.Ledger" 1] ∧
      Refused ledger.source {} ⟨.firstFailure, false⟩ "a.Ledger" .constructorResolved [
        .notReadable "userId" "getUserId"] := by
  obtain ⟨-, hpair, -⟩ := only_shared_keys_are_permitted pair.source {}
  obtain ⟨-, hledger, hfirst⟩ := only_shared_keys_are_permitted ledger.source {}
  refine ⟨((hpair _ rfl).2).mpr ⟨rfl, "a", rfl⟩, ?_, ?_⟩
  · refine ⟨⟨"a.Ledger", .constructorResolved, .notReadable "userId" "getUserId", _⟩, ?_, rfl, rfl,
      rfl⟩
    exact ((hledger _ rfl).1 _).mpr ⟨rfl, rfl, rfl⟩
  · exact ⟨_, hfirst _ rfl rfl, rfl, rfl, rfl⟩

end Model

end Companion
