import Companion.Proofs.Planning.FieldChecks
import Companion.Proofs.Planning.Profile

namespace Companion.Model

variable {ctx : FieldContext}

theorem checkField_error_eq_cons {position : Nat} {f : Field} {os : List Objection}
    (h : checkField ctx position f = .error os) : ∃ o os', os = o :: os' :=
  List.exists_cons_of_ne_nil (ne_nil_of_checkField_error h)

theorem checkFields_take_one (ctx : FieldContext) (position : Nat) (fs : List Field) :
    (checkFields ctx false position fs).1.take 1 = (checkFields ctx true position fs).1.take 1 := by
  induction fs generalizing position with
  | nil => rfl
  | cons f fs ih =>
      cases hf : checkField ctx position f with
      | ok m =>
          rw [checkFields, checkFields, hf]
          exact ih (position + 1)
      | error os =>
          obtain ⟨o, os, rfl⟩ := checkField_error_eq_cons hf
          rw [checkFields, checkFields, hf]
          rfl

theorem checkFields_eq_of_nil {position : Nat} {fs : List Field}
    (h : (checkFields ctx false position fs).1 = []) :
    checkFields ctx true position fs = checkFields ctx false position fs := by
  have hone : checkFields ctx false position fs = ([], (checkFields ctx false position fs).2) :=
    Prod.ext h rfl
  rw [hone]
  exact checkFields_ok_iff.mpr (checkFields_ok_iff.mp hone)

theorem check_take_one (checkKeys : Bool) (name : String) (fields : List Field) (c : Constructor) :
    (check ctx ⟨.firstFailure, checkKeys⟩ name fields c).1 =
      (check ctx ⟨.allFailures, checkKeys⟩ name fields c).1.take 1 := by
  have hfirst := checkFields_take_one ctx 0 fields
  have hone : PlanningOptions.collectsAll ⟨.firstFailure, checkKeys⟩ = false := rfl
  have hall : PlanningOptions.collectsAll ⟨.allFailures, checkKeys⟩ = true := rfl
  simp only [check, hone, hall]
  cases hos : (checkFields ctx false 0 fields).1 with
  | nil =>
      -- the checks of the model as a whole follow in both modes
      rw [checkFields_eq_of_nil hos, hos]
      rfl
  | cons o os =>
      rw [hos] at hfirst
      cases hos' : (checkFields ctx true 0 fields).1 with
      | nil =>
          rw [hos'] at hfirst
          cases hfirst
      | cons o' os' =>
          rw [hos'] at hfirst
          cases hfirst
          rfl

theorem check_snd_of_nil {checkKeys : Bool} {name : String} {fields : List Field} {c : Constructor}
    (h : (check ctx ⟨.allFailures, checkKeys⟩ name fields c).1 = []) :
    (check ctx ⟨.firstFailure, checkKeys⟩ name fields c).2 =
      (check ctx ⟨.allFailures, checkKeys⟩ name fields c).2 := by
  obtain ⟨hfields, -⟩ := check_ok_iff.mp (Prod.ext h rfl : check ctx ⟨.allFailures, checkKeys⟩ name
    fields c = ([], (check ctx ⟨.allFailures, checkKeys⟩ name fields c).2))
  have hone : checkFields ctx false 0 fields = checkFields ctx true 0 fields :=
    (checkFields_ok_iff.mpr (checkFields_ok_iff.mp hfields)).trans hfields.symm
  change (checkFields ctx false 0 fields).2 = (checkFields ctx true 0 fields).2
  rw [hone]

def firstOnly : Interruption → Interruption
  | .crash c => .crash c
  | .rejection r => .rejection { r with others := [] }

theorem Profile.judge_firstFailure (p : Profile) (catalog : CapabilityCatalog) (checkKeys : Bool)
    (package : Except Crash String) :
    p.judge catalog ⟨.firstFailure, checkKeys⟩ package =
      (p.judge catalog ⟨.allFailures, checkKeys⟩ package).mapError firstOnly := by
  have hos : (p.checked catalog ⟨.firstFailure, checkKeys⟩).1 =
      (p.checked catalog ⟨.allFailures, checkKeys⟩).1.take 1 := check_take_one ..
  have hpassed : (p.checked catalog ⟨.allFailures, checkKeys⟩).1 = [] →
      (p.checked catalog ⟨.firstFailure, checkKeys⟩).2 =
        (p.checked catalog ⟨.allFailures, checkKeys⟩).2 := check_snd_of_nil
  rw [judge, judge, hos]
  cases hall : (p.checked catalog ⟨.allFailures, checkKeys⟩).1 with
  | nil =>
      have hmodel : p.model catalog ⟨.firstFailure, checkKeys⟩ =
          p.model catalog ⟨.allFailures, checkKeys⟩ := by
        funext name
        rw [model, model, hpassed hall]
      rw [hmodel]
      cases package <;> rfl
  | cons o os => rfl

theorem firstOnly_of_profile_error {source : DeclarationSource} {i : Interruption}
    (hp : profile source = .error i) : firstOnly i = i := by
  cases i with
  | crash c => rfl
  | rejection r =>
      obtain ⟨_, -, hr⟩ := exists_preliminary_of_profile hp
      rw [firstOnly, ← hr.alone]

theorem ofSource_firstFailure (source : DeclarationSource) (catalog : CapabilityCatalog)
    (checkKeys : Bool) :
    ofSource source catalog ⟨.firstFailure, checkKeys⟩ =
      (ofSource source catalog ⟨.allFailures, checkKeys⟩).mapError firstOnly := by
  cases hp : profile source with
  | ok p =>
      rw [ofSource_of_profile hp, ofSource_of_profile hp]
      exact p.judge_firstFailure catalog checkKeys source.packageName
  | error i =>
      rw [ofSource_of_profile_error hp, ofSource_of_profile_error hp]
      exact congrArg Except.error (firstOnly_of_profile_error hp).symm

/-- The modes agree on every declaration: they accept the same models with the same result, crash
together, and refuse together after the same stage, where the mode that stops early tells the first
of the objections that the other one tells. -/
theorem diagnostics_agree (source : DeclarationSource) (catalog : CapabilityCatalog)
    (checkKeys : Bool) :
    (∀ m, ofSource source catalog ⟨.firstFailure, checkKeys⟩ = .ok m ↔
      ofSource source catalog ⟨.allFailures, checkKeys⟩ = .ok m) ∧
    (∀ c, ofSource source catalog ⟨.firstFailure, checkKeys⟩ = .error (.crash c) ↔
      ofSource source catalog ⟨.allFailures, checkKeys⟩ = .error (.crash c)) ∧
    ∀ r, ofSource source catalog ⟨.firstFailure, checkKeys⟩ = .error (.rejection r) ↔
      ∃ all, ofSource source catalog ⟨.allFailures, checkKeys⟩ = .error (.rejection all) ∧
        r.model = all.model ∧ r.stage = all.stage ∧ r.objections = [all.first] := by
  rw [ofSource_firstFailure]
  rcases ofSource source catalog ⟨.allFailures, checkKeys⟩ with (c | all) | m
  · simp [Except.mapError, firstOnly]
  · refine ⟨by simp [Except.mapError], by simp [Except.mapError, firstOnly], ?_⟩
    intro r
    constructor
    · intro h
      cases h
      exact ⟨all, rfl, rfl, rfl, rfl⟩
    · rintro ⟨all', h, hmodel, hstage, hobjections⟩
      cases h
      obtain ⟨model, stage, first, others⟩ := r
      obtain ⟨rfl, rfl⟩ := List.cons.inj hobjections
      cases hmodel
      cases hstage
      rfl
  · simp [Except.mapError]

end Companion.Model
