import Companion.Proofs.HostType.Substitution

namespace Companion.HostType

variable {b r s : Bindings} {t : HostType} {v : String}

theorem mem_vars_declared {n : String} {as : List HostType} :
    v ∈ (declared n as).vars ↔ ∃ a ∈ as, v ∈ a.vars := by
  rw [vars, varsAll_eq_flatMap, List.mem_flatMap]

theorem substitute_eq_iff :
    t.substitute b = t.substitute r ↔
      ∀ v ∈ t.vars, (var v).substitute b = (var v).substitute r := by
  induction t with
  | primitive | wildcard => exact iff_of_true rfl nofun
  | var n => rw [vars, List.forall_mem_singleton]
  | array c ih => rw [substitute, substitute, array.injEq, ih, vars]
  | wildcardExtends u ih => rw [substitute, substitute, wildcardExtends.injEq, ih, vars]
  | declared n as ih =>
      simp only [substitute_declared, declared.injEq, true_and, List.map_inj_left,
        mem_vars_declared]
      constructor
      · rintro h v ⟨a, ha, hv⟩
        exact (ih a ha).mp (h a ha) v hv
      · intro h a ha
        exact (ih a ha).mpr fun v hv => h v ⟨a, ha, hv⟩

theorem vars_substitute (s : Bindings) (t : HostType) :
    (t.substitute s).vars = t.vars.flatMap fun v => ((var v).substitute s).vars := by
  induction t with
  | primitive | wildcard => rfl
  | var n => rw [vars, List.flatMap_singleton]
  | array c ih => exact ih
  | wildcardExtends u ih => exact ih
  | declared n as ih =>
      rw [substitute_declared, vars, vars, varsAll_eq_flatMap, varsAll_eq_flatMap,
        List.flatMap_map, List.flatMap_assoc]
      exact List.flatMap_congr ih

theorem substitute_twice_iff :
    (t.substitute s).substitute s = t.substitute s ↔
      ∀ v ∈ t.vars, ((var v).substitute s).substitute s = (var v).substitute s := by
  simp only [substitute_comp]
  exact substitute_eq_iff

theorem substitute_of_first {before after : Bindings} {image : HostType}
    (hbefore : ∀ p ∈ before, p.1 ≠ v) :
    (var v).substitute (before ++ (v, image) :: after) = image := by
  have hfirst : (before ++ (v, image) :: after).lookup v = some image :=
    List.lookup_eq_some_iff.mpr
      ⟨before, after, rfl, fun p hp => bne_iff_ne.mpr (hbefore p hp).symm⟩
  rw [substitute, hfirst, Option.getD_some]

/-- Substitutions compose, also if they bind variables again: the second one acts on the images of
the first and on the variables that the first leaves, and on the images alone if none is left. All
images are put in at once: the first image that is given for a variable takes its place as it is,
with the variables it has, so that a second pass changes a type unless it changes no image. -/
theorem substitutions_compose (t : HostType) (s r : Bindings) :
    (t.substitute s).substitute r =
      t.substitute (s.map (fun p => (p.1, p.2.substitute r)) ++ r) ∧
    (t.MentionsOnly (s.map (·.1)) →
      (t.substitute s).substitute r = t.substitute (s.map fun p => (p.1, p.2.substitute r))) ∧
    (∀ before v image after, s = before ++ (v, image) :: after → (∀ p ∈ before, p.1 ≠ v) →
      (var v).substitute s = image) ∧
    (t.substitute s).vars = (t.vars.flatMap fun v => ((var v).substitute s).vars) ∧
    ((t.substitute s).substitute s = t.substitute s ↔
      ∀ v ∈ t.vars, ((var v).substitute s).substitute s = (var v).substitute s) := by
  refine ⟨substitute_comp s r t, fun ht => ht.substitute_comp r, ?_, vars_substitute s t,
    substitute_twice_iff⟩
  rintro before v image after rfl hbefore
  exact substitute_of_first hbefore

def couple : HostType :=
  .declared "a.Couple" [.wildcardExtends (.var "T"), .array (.var "U")]

/-- Exchanges the variables of a couple, and binds one of them once more. -/
def exchange : Bindings :=
  [("T", .var "U"), ("U", .declared "a.Item" [.var "T"]), ("T", .declared "a.Note" [])]

theorem couple_is_exchanged_at_once :
    couple.MentionsOnly (exchange.map (·.1)) ∧
    (couple.substitute exchange).substitute [("T", .primitive .int), ("U", .var "T")] =
      .declared "a.Couple" [.wildcardExtends (.var "T"),
        .array (.declared "a.Item" [.primitive .int])] ∧
    (var "T").substitute exchange = var "U" ∧
    (couple.substitute exchange).vars = ["U", "T"] ∧
    (couple.substitute exchange).substitute exchange ≠ couple.substitute exchange := by
  have hbound : couple.MentionsOnly (exchange.map (·.1)) := by decide
  obtain ⟨_, hcomp, hfirst, hvars, htwice⟩ :=
    substitutions_compose couple exchange [("T", .primitive .int), ("U", .var "T")]
  refine ⟨hbound, (hcomp hbound).trans (by decide), hfirst [] "T" _ _ rfl (by decide),
    hvars.trans (by decide), ?_⟩
  rw [Ne, htwice]
  decide

end Companion.HostType
