import Companion.Proofs.Hierarchy.Grounds
import Mathlib.Tactic.Common

namespace Companion

namespace HostType

def IsReference : HostType → Prop
  | .declared .. | .array _ | .var _ => True
  | .primitive _ | .wildcard | .wildcardExtends _ => False

instance : DecidablePred IsReference := fun t => by
  cases t <;> unfold IsReference <;> infer_instance

variable {b : Bindings}

theorem IsClass.args_substitute {t : HostType} (h : t.IsClass) (b : Bindings) :
    (t.substitute b).args = t.args.map (substitute b) := by
  obtain ⟨n, as, rfl⟩ := h.eq_declared
  rw [substitute_declared]
  rfl

theorem isReference_image (hb : ∀ p ∈ b, p.2.IsReference) (v : String) :
    ((var v).substitute b).IsReference := by
  rw [substitute]
  cases hv : b.lookup v with
  | none => exact trivial
  | some image =>
      obtain ⟨before, after, rfl, _⟩ := List.lookup_eq_some_iff.mp hv
      exact hb (v, image) (by simp)

theorem isPrimitive_substitute (hb : ∀ p ∈ b, p.2.IsReference) {t : HostType}
    (ht : t.isPrimitive = false) : (t.substitute b).isPrimitive = false := by
  cases t with
  | primitive p => cases ht
  | declared | array | wildcard | wildcardExtends => simp [substitute, isPrimitive]
  | var v =>
      have hv := isReference_image hb v
      cases hi : (var v).substitute b with
      | primitive p => simp [hi, IsReference] at hv
      | declared | array | wildcard | wildcardExtends | var => rfl

end HostType

namespace Hierarchy

open HostType

variable {h : Hierarchy} {b : Bindings} {t u : HostType}

theorem Fits.substitute {r : HostType → HostType → Prop} (hb : ∀ p ∈ b, p.2.IsReference)
    (hr : ∀ t, r t t) {a slot : HostType}
    (hfits : Fits (fun t u => r (t.substitute b) (u.substitute b)) a slot) :
    Fits r (a.substitute b) (slot.substitute b) := by
  cases slot with
  | wildcard => exact trivial
  | wildcardExtends bound =>
      cases a with
      | wildcard =>
          have hobject : bound.rawName? = some Platform.object := hfits
          exact ((isClass_of_rawName? hobject).rawName?_substitute b).trans hobject
      | primitive | declared | array | wildcardExtends => exact hfits
      | var v =>
          have hv := isReference_image hb v
          change r ((var v).substitute b) (bound.substitute b) at hfits
          change Fits r ((var v).substitute b) (.wildcardExtends (bound.substitute b))
          generalize (var v).substitute b = image at hfits hv
          cases image with
          | declared | array | var => exact hfits
          | primitive | wildcard | wildcardExtends => cases hv
  | primitive | declared | array | var =>
      cases hfits
      exact Fits.refl hr _

/-- Assignability is stable under instantiating type variables: where one type is assignable to
another, so is each instance of the one to the same instance of the other. -/
theorem isAssignable_substitute (hc : h.ClassSupertypes) (hv : h.OwnVariables)
    (hb : ∀ p ∈ b, p.2.IsReference) (ha : h.isAssignable t u = true) :
    h.isAssignable (t.substitute b) (u.substitute b) = true := by
  refine assignable_induction
    (motive := fun t u => h.isAssignable (t.substitute b) (u.substitute b) = true) ?_ ha
  intro t u hground
  apply isAssignable_of_ground
  cases hground with
  | same => exact .same _
  | object ht => exact .object (isPrimitive_substitute hb ht)
  | arrayClass hn => exact .arrayClass hn
  | covariant hc => exact .covariant hc
  | bounded hu hw => exact .bounded (isPrimitive_substitute hb hu) hw
  | @viewed n as name bs v hview hargs =>
      -- the view of the instance is the instance of the view
      have hinstance : h.view ((declared n as).substitute b) name = some (v.substitute b) := by
        rw [view_substitute hc hv (isClass_declared n as), hview, Option.map_some]
      have hclass : v.IsClass := by
        rw [eq_declared_of_view hview]
        exact isClass_declared name v.args
      rw [substitute_declared] at hinstance ⊢
      rw [substitute_declared]
      refine .viewed hinstance ?_
      rw [hclass.args_substitute]
      rcases hargs with rfl | hraw | hargs
      · exact .inl rfl
      · exact .inr (.inl (by rw [hraw, List.map_nil]))
      · refine .inr (.inr ?_)
        rw [List.forall₂_map_left_iff, List.forall₂_map_right_iff]
        exact hargs.imp fun a slot => Fits.substitute hb (isAssignable_self h)

/-- A tree is a sequence of trees, and a sequence is a bag of its elements. -/
def trees : Hierarchy :=
  ((empty.declare "a.Tree" ["E"] [.declared "a.Sequence" [.declared "a.Tree" [.var "E"]]]).declare
    "a.Sequence" ["T"] [.declared "a.Bag" [.var "T"]])

theorem wellDeclared_trees : trees.WellDeclared := .of_entries (by decide +kernel)

theorem tree_of_arrays_is_bag :
    trees.ClassSupertypes ∧ trees.OwnVariables ∧
      trees.isAssignable (.declared "a.Tree" [.var "X"])
        (.declared "a.Bag" [.wildcardExtends (.declared "a.Sequence" [.wildcard])]) = true ∧
      trees.isAssignable (.declared "a.Tree" [.array (.var "Y")])
        (.declared "a.Bag" [.wildcardExtends (.declared "a.Sequence" [.wildcard])]) = true := by
  have htree : trees.find? "a.Tree" =
      some ⟨["E"], [.declared "a.Sequence" [.declared "a.Tree" [.var "E"]]]⟩ := by decide +kernel
  have hsequence : trees.find? "a.Sequence" = some ⟨["T"], [.declared "a.Bag" [.var "T"]]⟩ := by
    decide +kernel
  have hbag : trees.view (.declared "a.Tree" [.var "X"]) "a.Bag" =
      some (.declared "a.Bag" [.declared "a.Tree" [.var "X"]]) := by
    simp [view, search_declared, htree, hsequence, TypeEntry.supertypesOf, TypeEntry.fits,
      substitute, substituteAll]
  have hrow : trees.view (.declared "a.Tree" [.var "X"]) "a.Sequence" =
      some (.declared "a.Sequence" [.declared "a.Tree" [.var "X"]]) := by
    simp [view, search_declared, htree, TypeEntry.supertypesOf, TypeEntry.fits, substitute,
      substituteAll]
  have hbound : trees.isAssignable (.declared "a.Tree" [.var "X"])
      (.declared "a.Sequence" [.wildcard]) = true :=
    isAssignable_of_ground (.viewed hrow (.inr (.inr (.cons trivial .nil))))
  have hgeneric : trees.isAssignable (.declared "a.Tree" [.var "X"])
      (.declared "a.Bag" [.wildcardExtends (.declared "a.Sequence" [.wildcard])]) = true :=
    isAssignable_of_ground (.viewed hbag (.inr (.inr (.cons hbound .nil))))
  exact ⟨wellDeclared_trees.classes, wellDeclared_trees.ownVariables, hgeneric,
    isAssignable_substitute (b := [("X", .array (.var "Y"))]) wellDeclared_trees.classes
      wellDeclared_trees.ownVariables (by decide) hgeneric⟩

end Hierarchy

end Companion
