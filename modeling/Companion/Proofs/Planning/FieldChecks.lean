import Companion.Planning.Model
import Companion.Proofs.Planning.Access
import Mathlib.Data.List.Forall2

namespace Companion.Model

variable {ctx : FieldContext} {all : Bool} {position : Nat} {f : Field} {fs : List Field}
  {m : ModelField} {ms : List ModelField}

theorem checkField_ok_iff :
    checkField ctx position f = .ok m ↔
      m.field = f ∧ f.readAccess ctx.methods = .ok m.read ∧
        f.writeAccess ctx.methods ctx.writeMode position = .ok m.write ∧
        ctx.catalog.resolve f.type = some m.resolution := by
  obtain ⟨field, resolution, read, write⟩ := m
  rw [checkField]
  cases f.readAccess ctx.methods with
  | error o => simp
  | ok read' =>
      cases f.writeAccess ctx.methods ctx.writeMode position with
      | error o => simp
      | ok write' =>
          cases ctx.catalog.resolve f.type with
          | none => simp
          | some resolution' =>
              simp only [Except.ok.injEq, ModelField.mk.injEq, Option.some.injEq]
              tauto

theorem exists_ok_of_errors_eq_nil {α : Type} {x : Except Objection α} (hx : errors x = []) :
    ∃ a, x = .ok a := by
  cases x with
  | ok a => exact ⟨a, rfl⟩
  | error o => cases hx

theorem ne_nil_of_checkField_error {os : List Objection}
    (h : checkField ctx position f = .error os) : os ≠ [] := by
  rw [checkField] at h
  split at h
  · cases h
  · next hne =>
    cases h
    intro hnil
    obtain ⟨hnil, hresolution⟩ := List.append_eq_nil_iff.mp hnil
    obtain ⟨hread, hwrite⟩ := List.append_eq_nil_iff.mp hnil
    obtain ⟨read, hread⟩ := exists_ok_of_errors_eq_nil hread
    obtain ⟨write, hwrite⟩ := exists_ok_of_errors_eq_nil hwrite
    obtain ⟨resolution, hresolution⟩ := exists_ok_of_errors_eq_nil hresolution
    exact hne read write resolution hread hwrite hresolution

theorem checkFields_ok_iff :
    checkFields ctx all position fs = ([], ms) ↔
      List.Forall₂ (fun p m => checkField ctx p.2 p.1 = .ok m) (fs.zipIdx position) ms := by
  induction fs generalizing position ms with
  | nil => simp [checkFields, eq_comm]
  | cons f fs ih =>
      rw [checkFields, List.zipIdx_cons, List.forall₂_cons_left_iff]
      cases hf : checkField ctx position f with
      | ok m =>
          constructor
          · intro h
            obtain ⟨hos, rfl⟩ := Prod.mk.inj h
            exact ⟨m, _, rfl, ih.mp (Prod.ext hos rfl), rfl⟩
          · rintro ⟨m', ms', hm, hms, rfl⟩
            cases hm
            rw [ih.mpr hms]
      | error os =>
          -- the objections to `f` stay, whether or not the fields after it are checked
          have hos := ne_nil_of_checkField_error hf
          constructor
          · intro h
            cases all with
            | true => exact absurd (List.append_eq_nil_iff.mp (Prod.mk.inj h).1).1 hos
            | false => exact absurd (Prod.mk.inj h).1 hos
          · rintro ⟨m', ms', hm, _⟩
            cases hm

theorem checkFields_congr {ctx' : FieldContext}
    (hcheck : ∀ f ∈ fs, ∀ position, checkField ctx' position f = checkField ctx position f)
    (all : Bool) (position : Nat) :
    checkFields ctx' all position fs = checkFields ctx all position fs := by
  induction fs generalizing position with
  | nil => rfl
  | cons f fs ih =>
      obtain ⟨hf, hfs⟩ := List.forall_mem_cons.mp hcheck
      rw [checkFields, checkFields, hf, ih hfs]

theorem keyCollisions_eq_nil_iff {owners : List (String × String)} :
    keyCollisions owners fs = [] ↔
      (fs.map fun f => Naming.containerKey f.name).Nodup ∧
        (fs.map fun f => Naming.containerKey f.name).Disjoint (owners.map (·.1)) := by
  induction fs generalizing owners with
  | nil => simp [keyCollisions]
  | cons f fs ih =>
      have howner : owners.lookup (Naming.containerKey f.name) = none ↔
          Naming.containerKey f.name ∉ owners.map (·.1) := by
        rw [List.lookup_eq_none_iff]
        simp only [bne_iff_ne, List.mem_map, not_exists, not_and]
        exact forall₂_congr fun _ _ => ne_comm
      rw [keyCollisions, List.map_cons, List.nodup_cons, List.disjoint_cons_left]
      cases hf : owners.lookup (Naming.containerKey f.name) with
      | some first =>
          have hmem : ¬Naming.containerKey f.name ∉ owners.map (·.1) := by
            rw [← howner, hf]
            exact Option.some_ne_none first
          simp only [hmem, reduceCtorEq, false_and, and_false]
      | none =>
          have hmem := howner.mp hf
          rw [ih, List.map_cons, List.disjoint_cons_right]
          tauto

theorem defaultConstructor_eq_nil_iff {name : String} {mode : WriteMode} {c : Constructor} :
    defaultConstructor name mode c = [] ↔ (mode = .mutation → c.params = []) := by
  rw [defaultConstructor]
  split
  · next h => simpa [h.1] using h.2
  · next h => simpa using h

/-- A model is not objected to exactly if each of its checks succeeds; how many objections would
have been collected does not matter. -/
theorem check_ok_iff {options : PlanningOptions} {name : String} {c : Constructor} :
    check ctx options name fs c = ([], ms) ↔
      checkFields ctx options.collectsAll 0 fs = ([], ms) ∧
        (options.checkKeyCollisions = true →
          (fs.map fun f => Naming.containerKey f.name).Nodup) ∧
        (ctx.writeMode = .mutation → c.params = []) := by
  have hkeys : (if options.checkKeyCollisions then keyCollisions [] fs else []) = [] ↔
      (options.checkKeyCollisions = true →
        (fs.map fun f => Naming.containerKey f.name).Nodup) := by
    cases options.checkKeyCollisions with
    | true => simp [keyCollisions_eq_nil_iff]
    | false => simp
  -- fewer objections may be told than there are, but never none instead of some
  have htake : ∀ os : List Objection,
      (if options.collectsAll then os else os.take 1) = [] ↔ os = [] := by
    intro os
    cases options.collectsAll <;> simp
  have hwhole : ∀ os collisions constructor : List Objection,
      (if os.isEmpty || options.collectsAll then os ++ collisions ++ constructor else os) = [] ↔
        os = [] ∧ collisions = [] ∧ constructor = [] := by
    intro os collisions constructor
    cases os with
    | nil => simp
    | cons o os => cases options.collectsAll <;> simp
  have hconstructor : defaultConstructor name ctx.writeMode c = [] ↔
      (ctx.writeMode = .mutation → c.params = []) := defaultConstructor_eq_nil_iff
  rw [← hkeys, ← hconstructor]
  simp only [check, Prod.ext_iff, htake, hwhole]
  tauto

theorem check_congr {ctx' : FieldContext}
    (hcheck : ∀ f ∈ fs, ∀ position, checkField ctx' position f = checkField ctx position f)
    (hmode : ctx'.writeMode = ctx.writeMode) (options : PlanningOptions) (name : String)
    (c : Constructor) :
    check ctx' options name fs c = check ctx options name fs c := by
  rw [check, check, checkFields_congr hcheck, hmode]

end Companion.Model
