import Companion.Hierarchy.Basic
import Companion.Proofs.Hierarchy.WellDeclared

namespace Companion.Hierarchy

variable {h : Hierarchy} {name : String}

theorem isSome_lookup_updateEntry (key : String) (f : TypeEntry → TypeEntry)
    (es : List (String × TypeEntry)) (name : String) :
    ((updateEntry key f es).lookup name).isSome = (name == key || (es.lookup name).isSome) := by
  induction es with
  | nil =>
      rw [updateEntry, List.lookup_cons]
      cases name == key <;> rfl
  | cons p es ih =>
      obtain ⟨k, e⟩ := p
      rw [updateEntry]
      split
      · next heq =>
        subst heq
        simp only [List.lookup_cons]
        cases name == key <;> rfl
      · split
        · rw [List.lookup_cons]
          cases name == key <;> rfl
        · simp only [List.lookup_cons]
          cases name == k with
          | true => simp
          | false => exact ih

theorem contains_declare (h : Hierarchy) (key : String) (params : List String)
    (supertypes : List HostType) (name : String) :
    (h.declare key params supertypes).contains name = (name == key || h.contains name) :=
  isSome_lookup_updateEntry key _ h.entries name

theorem contains_declare_of_contains (hn : h.contains name = true) (key : String)
    (params : List String) (supertypes : List HostType) :
    (h.declare key params supertypes).contains name = true := by
  rw [contains_declare, hn, Bool.or_true]

theorem contains_foldl {α : Type} {f : Hierarchy → α → Hierarchy}
    (hf : ∀ h a, h.contains name = true → (f h a).contains name = true) (as : List α)
    (hn : h.contains name = true) : (as.foldl f h).contains name = true := by
  induction as generalizing h with
  | nil => exact hn
  | cons a as ih => exact ih (hf h a hn)

theorem contains_platform (hn : name ∈ Platform.types.map (·.name)) :
    platform.contains name = true := by
  obtain ⟨t, ht, rfl⟩ := List.mem_map.mp hn
  obtain ⟨before, after, hsplit⟩ := List.append_of_mem ht
  rw [platform, hsplit, List.foldl_append, List.foldl_cons]
  refine contains_foldl (fun h t hn => contains_declare_of_contains hn _ _ _) after ?_
  rw [declarePlatform, contains_declare, beq_self_eq_true, Bool.true_or]

end Companion.Hierarchy
