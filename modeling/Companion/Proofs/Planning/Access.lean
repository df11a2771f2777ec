import Companion.Planning.Access

namespace Companion

namespace Visibility

theorem isPublic_iff {v : Visibility} : v.isPublic = true ↔ v = .publicMember := beq_iff_eq

theorem isPublic_eq_false_iff {v : Visibility} : v.isPublic = false ↔ v ≠ .publicMember :=
  beq_eq_false_iff_ne

theorem isForConstruction_iff {v : Visibility} :
    v.isForConstruction = true ↔ v = .publicMember ∨ v = .protectedMember := by
  rw [isForConstruction, Bool.or_eq_true, beq_iff_eq, beq_iff_eq]

theorem isReachable_iff {v : Visibility} : v.isReachable = true ↔ v ≠ .privateMember := bne_iff_ne

end Visibility

namespace Method

variable {m : Method} {f : Field}

/-- A companion can call the method by the name on an instance of the model. -/
structure Callable (m : Method) (name : String) : Prop where
  named : m.name = name
  reachable : m.visibility ≠ .privateMember
  ofInstance : m.isStatic = false

def Reads (m : Method) (f : Field) : Prop :=
  m.Callable (Naming.getterName f.name) ∧ m.params = [] ∧ m.returns = some f.type

def Writes (m : Method) (f : Field) : Prop :=
  m.Callable (Naming.setterName f.name) ∧ ∃ p, m.params = [p] ∧ p.type = f.type

theorem isUsable_iff : m.isUsable = true ↔ m.visibility ≠ .privateMember ∧ m.isStatic = false := by
  rw [isUsable, Bool.and_eq_true, Bool.not_eq_true', Visibility.isReachable_iff, and_comm]

theorem callable_iff {name : String} :
    m.Callable name ↔ m.isUsable = true ∧ m.name = name := by
  rw [isUsable_iff]
  constructor
  · rintro ⟨hn, hv, hs⟩
    exact ⟨⟨hv, hs⟩, hn⟩
  · rintro ⟨⟨hv, hs⟩, hn⟩
    exact ⟨hn, hv, hs⟩

theorem isGetterOf_iff : m.isGetterOf f = true ↔ m.Reads f := by
  rw [isGetterOf, Reads, callable_iff]
  simp only [Bool.and_eq_true, beq_iff_eq, List.isEmpty_iff, and_assoc]

theorem isSetterOf_iff : m.isSetterOf f = true ↔ m.Writes f := by
  have hparams : m.params.map (·.type) = [f.type] ↔ ∃ p, m.params = [p] ∧ p.type = f.type := by
    rw [List.map_eq_singleton_iff]
  rw [isSetterOf, Writes, callable_iff, ← hparams]
  simp only [Bool.and_eq_true, beq_iff_eq]

instance : Decidable (m.Reads f) := decidable_of_iff _ isGetterOf_iff

instance : Decidable (m.Writes f) := decidable_of_iff _ isSetterOf_iff

end Method

namespace Field

variable {f : Field} {methods : List Method}

theorem guarded_ok_iff {ε α : Type} {p q : Bool} {a b c : α} {e : ε} :
    (if p then .ok a else if q then .ok b else .error e : Except ε α) = .ok c ↔
      (p = true ∧ c = a) ∨ (p = false ∧ q = true ∧ c = b) := by
  cases p with
  | true => simp [eq_comm]
  | false => cases q <;> simp [eq_comm]

theorem readAccess_ok_iff {access : ReadAccess} :
    f.readAccess methods = .ok access ↔
      (f.visibility = .publicMember ∧ access = .field) ∨
        (f.visibility ≠ .publicMember ∧ (∃ m ∈ methods, m.Reads f) ∧
          access = .getter (Naming.getterName f.name)) := by
  rw [readAccess, guarded_ok_iff, Visibility.isPublic_iff,
    Visibility.isPublic_eq_false_iff]
  simp only [List.any_eq_true, Method.isGetterOf_iff]

theorem writeAccess_construction (f : Field) (methods : List Method) (position : Nat) :
    f.writeAccess methods .construction position = .ok (.constructorArg position) := rfl

theorem writeAccess_mutation_ok_iff {position : Nat} {access : WriteAccess} :
    f.writeAccess methods .mutation position = .ok access ↔
      (f.visibility = .publicMember ∧ access = .field) ∨
        (f.visibility ≠ .publicMember ∧ (∃ m ∈ methods, m.Writes f) ∧
          access = .setter (Naming.setterName f.name)) := by
  rw [writeAccess, guarded_ok_iff, Visibility.isPublic_iff,
    Visibility.isPublic_eq_false_iff]
  simp only [List.any_eq_true, Method.isSetterOf_iff]

end Field

namespace Constructor

variable {c : Constructor} {fields : List Field}

theorem writeMode_eq_construction_iff :
    c.writeMode fields = .construction ↔
      c.params.map (fun p => (p.name, p.type)) = fields.map (fun f => (f.name, f.type)) := by
  rw [writeMode, takesFields]
  split
  · next heq => simpa using heq
  · next hne => simpa using hne

theorem choose_ok_iff {model : String} {cs : List Constructor} :
    choose model cs = .ok c ↔ cs.filter (·.visibility.isForConstruction) = [c] := by
  rw [choose]
  split
  · next c' heq => simp [heq]
  · next hne =>
    constructor
    · intro h
      cases h
    · intro h
      exact absurd h (hne c)

end Constructor

end Companion
