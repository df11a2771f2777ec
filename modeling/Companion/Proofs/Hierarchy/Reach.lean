import Companion.Proofs.Hierarchy.Search
import Mathlib.Logic.Relation

namespace Companion.Hierarchy

open HostType Relation

variable {h h' : Hierarchy} {a b name target : String} {as : List HostType} {ps : List HostType}
  {seen : List String} {e : TypeEntry}

def Below (h : Hierarchy) (a b : String) : Prop :=
  ∃ t ∈ h.directSupertypes a, t.rawName? = some b

def Reaches (h : Hierarchy) : String → String → Prop := ReflTransGen h.Below

def Unvisited (h : Hierarchy) (seen : List String) (a b : String) : Prop := a ∉ seen ∧ h.Below a b

theorem not_below_of_unknown (hf : h.find? a = none) : ¬h.Below a b := by
  rintro ⟨t, ht, _⟩
  simp [directSupertypes, hf] at ht

theorem Below.exists_supertypesOf (hf : h.find? a = some e) (hab : h.Below a b)
    (as : List HostType) : ∃ t ∈ e.supertypesOf as, t.rawName? = some b := by
  obtain ⟨t, ht, hn⟩ := hab
  rw [directSupertypes_of_find? hf] at ht
  rw [TypeEntry.supertypesOf]
  split
  · refine ⟨t.substitute _, List.mem_map_of_mem ht, ?_⟩
    rw [(isClass_of_rawName? hn).rawName?_substitute, hn]
  · exact ⟨t.erasure, List.mem_map_of_mem ht, by rw [rawName?_erasure, hn]⟩

theorem below_of_mem_supertypesOf (hc : h.ClassSupertypes) (hf : h.find? a = some e)
    {t : HostType} (ht : t ∈ e.supertypesOf as) (hn : t.rawName? = some b) : h.Below a b := by
  have hmem : t.rawName? ∈ e.supertypes.map rawName? := by
    rw [← TypeEntry.map_rawName?_supertypesOf (hc.of_find? hf) as]
    exact List.mem_map_of_mem ht
  obtain ⟨s, hs, heq⟩ := List.mem_map.mp hmem
  exact ⟨s, directSupertypes_of_find? hf ▸ hs, heq.trans hn⟩

/-- A chain of steps either avoids a name or can be taken up again after the last time that it
leaves the name. -/
theorem avoids_or_resumes (name : String) (hr : ReflTransGen (h.Unvisited seen) a target) :
    ReflTransGen (h.Unvisited (name :: seen)) a target ∨
      ∃ b, h.Below name b ∧ ReflTransGen (h.Unvisited (name :: seen)) b target := by
  induction hr using ReflTransGen.head_induction_on with
  | refl => exact .inl .refl
  | @head a c hac hct ih =>
      rcases ih with ih | ih
      · by_cases ha : a = name
        · exact .inr ⟨c, ha ▸ hac.2, ih⟩
        · exact .inl (.head ⟨by simp [ha, hac.1], hac.2⟩ ih)
      · exact .inr ih

theorem not_reaches_of_visited (hn : name ≠ target) (hs : name ∈ seen) :
    ¬ReflTransGen (h.Unvisited seen) name target := by
  intro hr
  rcases hr.cases_head with rfl | ⟨b, hstep, _⟩
  · exact hn rfl
  · exact hstep.1 hs

/-- A search that fails has left no chain from a pending type to the target that it could still
take. -/
theorem not_reaches_of_search_eq_none (hnone : h.search target ps seen = none) :
    ∀ t ∈ ps, ∀ a, t.rawName? = some a → ¬ReflTransGen (h.Unvisited seen) a target := by
  fun_induction search h target ps seen with
  | case1 => simp
  | case2 => cases hnone
  | case3 name as rest seen hn hf ih =>
      intro t ht a ha hr
      rcases List.mem_cons.mp ht with rfl | ht
      · cases ha
        rcases hr.cases_head with rfl | ⟨b, hstep, _⟩
        · exact hn rfl
        · exact not_below_of_unknown hf hstep.2
      · exact ih hnone t ht a ha hr
  | case4 name as rest seen hn e hf hs ih =>
      intro t ht a ha hr
      rcases List.mem_cons.mp ht with rfl | ht
      · cases ha
        exact not_reaches_of_visited hn hs hr
      · exact ih hnone t ht a ha hr
  | case5 name as rest seen hn e hf hs ih =>
      intro t ht a ha hr
      rcases avoids_or_resumes name hr with hr | ⟨b, hb, hr⟩
      · rcases List.mem_cons.mp ht with rfl | ht
        · cases ha
          exact not_reaches_of_visited hn List.mem_cons_self hr
        · exact ih hnone t (List.mem_append_right _ ht) a ha hr
      · obtain ⟨s, hs, hsb⟩ := hb.exists_supertypesOf hf as
        exact ih hnone s (List.mem_append_left _ hs) b hsb hr
  | case6 p rest seen hp ih =>
      intro t ht a ha hr
      rcases List.mem_cons.mp ht with rfl | ht
      · exact not_isClass_of_ne hp (isClass_of_rawName? ha)
      · exact ih hnone t ht a ha hr

theorem isSome_view_of_reaches (hr : h.Reaches name target) (as : List HostType) :
    (h.view (.declared name as) target).isSome = true := by
  rw [Option.isSome_iff_ne_none]
  intro hnone
  refine not_reaches_of_search_eq_none hnone (.declared name as) List.mem_cons_self name rfl ?_
  have hsteps : ∀ a b, h.Below a b → h.Unvisited [] a b := fun _ _ hab => ⟨List.not_mem_nil, hab⟩
  exact ReflTransGen.mono hsteps name target hr

theorem exists_reaches_of_search (hc : h.ClassSupertypes)
    (hsome : (h.search target ps seen).isSome = true) :
    ∃ t ∈ ps, ∃ a, t.rawName? = some a ∧ h.Reaches a target := by
  fun_induction search h target ps seen with
  | case1 => cases hsome
  | case2 as rest seen => exact ⟨_, List.mem_cons_self, _, rfl, .refl⟩
  | case3 _ _ _ _ _ _ ih | case4 _ _ _ _ _ _ _ _ ih | case6 _ _ _ _ ih =>
      obtain ⟨t, ht, hr⟩ := ih hsome
      exact ⟨t, List.mem_cons_of_mem _ ht, hr⟩
  | case5 name as rest seen hn e hf hs ih =>
      obtain ⟨t, ht, a, ha, hr⟩ := ih hsome
      rcases List.mem_append.mp ht with ht | ht
      · refine ⟨_, List.mem_cons_self, name, rfl, ?_⟩
        exact ReflTransGen.head (below_of_mem_supertypesOf hc hf ht ha) hr
      · exact ⟨t, List.mem_cons_of_mem _ ht, a, ha, hr⟩

theorem isSome_view_iff_reaches (hc : h.ClassSupertypes) (name target : String)
    (as : List HostType) :
    (h.view (.declared name as) target).isSome = true ↔ h.Reaches name target := by
  refine ⟨fun hsome => ?_, fun hr => isSome_view_of_reaches hr as⟩
  obtain ⟨t, ht, a, ha, hr⟩ := exists_reaches_of_search hc hsome
  obtain rfl := List.mem_singleton.mp ht
  cases ha
  exact hr

theorem Reaches.mono (hsub : ∀ a b, h.Below a b → h'.Below a b) (hr : h.Reaches a b) :
    h'.Reaches a b :=
  ReflTransGen.mono hsub a b hr

end Companion.Hierarchy
