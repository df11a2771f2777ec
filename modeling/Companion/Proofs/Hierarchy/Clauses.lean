import Companion.Proofs.Hierarchy.Entries
import Companion.Proofs.Hierarchy.Reach
import Mathlib.Logic.Relation
import Mathlib.Tactic.Common

namespace Companion

structure TypeClause where
  name : String
  params : List String := []
  supertypes : List HostType := []
  deriving DecidableEq, Repr

def TypeClause.ClassSupertypes (c : TypeClause) : Prop := ∀ t ∈ c.supertypes, t.IsClass

instance : DecidablePred TypeClause.ClassSupertypes := fun c =>
  inferInstanceAs (Decidable (∀ t ∈ c.supertypes, t.IsClass))

def PlatformType.clause (t : PlatformType) : TypeClause where
  name := t.name
  params := Hierarchy.platformParams t.arity
  supertypes := t.supertypes.map (Hierarchy.platformSupertype (Hierarchy.platformParams t.arity))

theorem TypeEntry.mem_addSupertypes {t : HostType} (known ts : List HostType) :
    t ∈ addSupertypes known ts ↔ t ∈ known ∨ t ∈ ts := by
  induction ts generalizing known with
  | nil => simp [addSupertypes]
  | cons s ts ih =>
      rw [addSupertypes, ih, List.mem_cons]
      split
      · next hs =>
        constructor
        · rintro (ht | ht)
          · exact .inl ht
          · exact .inr (.inr ht)
        · rintro (ht | rfl | ht)
          · exact .inl ht
          · exact .inl hs
          · exact .inr ht
      · rw [List.mem_append, List.mem_singleton, or_assoc]

namespace Hierarchy

variable {h : Hierarchy} {name a b : String} {t : HostType} {cs : List TypeClause}

def declareClause (h : Hierarchy) (c : TypeClause) : Hierarchy :=
  h.declare c.name c.params c.supertypes

def ofClauses (cs : List TypeClause) : Hierarchy := cs.foldl declareClause empty

theorem ascending_empty : empty.Ascending := List.Pairwise.nil

theorem mem_directSupertypes_declare (hs : h.Ascending) (key : String) (params : List String)
    (supertypes : List HostType) :
    t ∈ (h.declare key params supertypes).directSupertypes name ↔
      t ∈ h.directSupertypes name ∨ key = name ∧ t ∈ supertypes := by
  rw [directSupertypes_eq, directSupertypes_eq, entry_declare hs]
  split
  · next heq =>
    rw [TypeEntry.extend, TypeEntry.mem_addSupertypes]
    simp [heq]
  · next hne => simp [Ne.symm hne]

theorem mem_directSupertypes_foldl (hs : h.Ascending) (cs : List TypeClause) :
    t ∈ (cs.foldl declareClause h).directSupertypes name ↔
      t ∈ h.directSupertypes name ∨ ∃ c ∈ cs, c.name = name ∧ t ∈ c.supertypes := by
  induction cs generalizing h with
  | nil => simp
  | cons c cs ih =>
      rw [List.foldl_cons, declareClause, ih (hs.declare _ _ _), mem_directSupertypes_declare hs,
        List.exists_mem_cons_iff, or_assoc]

theorem mem_directSupertypes_ofClauses (cs : List TypeClause) :
    t ∈ (ofClauses cs).directSupertypes name ↔
      ∃ c ∈ cs, c.name = name ∧ t ∈ c.supertypes := by
  rw [ofClauses, mem_directSupertypes_foldl ascending_empty]
  exact or_iff_right List.not_mem_nil

theorem classSupertypes_ofClauses (hc : ∀ c ∈ cs, c.ClassSupertypes) :
    (ofClauses cs).ClassSupertypes := by
  intro name t ht
  obtain ⟨c, hmem, _, hsup⟩ := (mem_directSupertypes_ofClauses cs).mp ht
  exact hc c hmem t hsup

theorem platform_eq_ofClauses : platform = ofClauses (Platform.types.map PlatformType.clause) := by
  rw [ofClauses, List.foldl_map]
  rfl

theorem exists_eq_of_mem_platform (ht : t ∈ platform.directSupertypes name) :
    ∃ sup params, t = .declared sup (List.map .var params) := by
  rw [platform_eq_ofClauses] at ht
  obtain ⟨c, hc, _, ht⟩ := (mem_directSupertypes_ofClauses _).mp ht
  obtain ⟨p, _, rfl⟩ := List.mem_map.mp hc
  obtain ⟨sup, _, rfl⟩ := List.mem_map.mp ht
  rw [platformSupertype]
  split
  · exact ⟨sup, _, rfl⟩
  · exact ⟨sup, [], rfl⟩

theorem below_ofClauses_append (hab : (ofClauses cs).Below a b) (more : List TypeClause) :
    (ofClauses (cs ++ more)).Below a b := by
  obtain ⟨t, ht, hn⟩ := hab
  obtain ⟨c, hc, hname, hsup⟩ := (mem_directSupertypes_ofClauses cs).mp ht
  refine ⟨t, (mem_directSupertypes_ofClauses _).mpr ?_, hn⟩
  exact ⟨c, List.mem_append_left more hc, hname, hsup⟩

theorem isSubtype_iff_reaches (hc : h.ClassSupertypes) :
    h.isSubtype a b = true ↔ b = Platform.object ∨ h.Reaches a b := by
  rw [isSubtype, Bool.or_eq_true, beq_iff_eq, isSome_view_iff_reaches hc]

/-- Subtyping is the reflexive and transitive closure of the direct supertypes, the root class
apart; clauses that are added keep what was a subtype. -/
theorem subtype_closure (hc : ∀ c ∈ cs, c.ClassSupertypes) :
    (∀ a b, (ofClauses cs).isSubtype a b = true ↔
      b = Platform.object ∨ (ofClauses cs).Reaches a b) ∧
    (∀ a, (ofClauses cs).isSubtype a a = true) ∧
    (∀ a b c, b ≠ Platform.object → (ofClauses cs).isSubtype a b = true →
      (ofClauses cs).isSubtype b c = true → (ofClauses cs).isSubtype a c = true) ∧
    ∀ more : List TypeClause, (∀ c ∈ more, c.ClassSupertypes) → ∀ a b,
      (ofClauses cs).isSubtype a b = true → (ofClauses (cs ++ more)).isSubtype a b = true := by
  have hiff : ∀ a b, (ofClauses cs).isSubtype a b = true ↔
      b = Platform.object ∨ (ofClauses cs).Reaches a b :=
    fun a b => isSubtype_iff_reaches (classSupertypes_ofClauses hc)
  refine ⟨hiff, fun a => (hiff a a).mpr (.inr .refl), fun a b c hb hab hbc => ?_,
    fun more hmore a b hab => ?_⟩
  · have hr : (ofClauses cs).Reaches a b := ((hiff a b).mp hab).resolve_left hb
    exact (hiff a c).mpr (((hiff b c).mp hbc).imp_right hr.trans)
  · have hall : ∀ c ∈ cs ++ more, c.ClassSupertypes := fun c hmem =>
      (List.mem_append.mp hmem).elim (hc c) (hmore c)
    rw [isSubtype_iff_reaches (classSupertypes_ofClauses hall)]
    exact ((hiff a b).mp hab).imp_right
      (Reaches.mono fun _ _ hstep => below_ofClauses_append hstep more)

/-- Two classes below each other, one of them generic. -/
def circle : List TypeClause := [
  { name := "a.Ring", params := ["T"], supertypes := [.declared "a.Band" [.var "T", .var "T"]] },
  { name := "a.Band", supertypes := [.declared "a.Ring" []] }]

def bandIsJewel : TypeClause := { name := "a.Band", supertypes := [.declared "a.Jewel" []] }

theorem circle_stays_closed :
    (∀ c ∈ circle, c.ClassSupertypes) ∧ bandIsJewel.ClassSupertypes ∧
      (ofClauses circle).isSubtype "a.Ring" "a.Ring" = true ∧
      (ofClauses circle).isSubtype "a.Ring" "a.Jewel" = false ∧
      (ofClauses (circle ++ [bandIsJewel])).isSubtype "a.Ring" "a.Band" = true ∧
      (ofClauses (circle ++ [bandIsJewel])).isSubtype "a.Ring" "a.Jewel" = true := by
  have hc : ∀ c ∈ circle, c.ClassSupertypes := by decide
  have hmore : bandIsJewel.ClassSupertypes := by decide
  have hall : ∀ c ∈ circle ++ [bandIsJewel], c.ClassSupertypes := by decide
  obtain ⟨hiff, hrefl, _, hadd⟩ := subtype_closure hc
  obtain ⟨hiffAll, _, htrans, _⟩ := subtype_closure hall
  have hring : (ofClauses circle).find? "a.Ring" =
      some ⟨["T"], [.declared "a.Band" [.var "T", .var "T"]]⟩ := by decide +kernel
  have hband : (ofClauses circle).find? "a.Band" = some ⟨[], [.declared "a.Ring" []]⟩ := by
    decide +kernel
  have hjewel : (ofClauses circle).isSubtype "a.Ring" "a.Jewel" = false := by
    simp [isSubtype, view, search_declared, search_nil, hring, hband, TypeEntry.supertypesOf,
      TypeEntry.fits, HostType.erasure, Platform.object]
  have hringBand : (ofClauses circle).isSubtype "a.Ring" "a.Band" = true :=
    (hiff _ _).mpr <| .inr <|
      .single ⟨.declared "a.Band" [.var "T", .var "T"], by decide +kernel, rfl⟩
  have hbandJewel : (ofClauses (circle ++ [bandIsJewel])).isSubtype "a.Band" "a.Jewel" = true :=
    (hiffAll _ _).mpr <| .inr <| .single ⟨.declared "a.Jewel" [], by decide +kernel, rfl⟩
  have hkept := hadd [bandIsJewel] (by simpa using hmore) _ _ hringBand
  exact ⟨hc, hmore, hrefl "a.Ring", hjewel, hkept, htrans _ _ _ (by decide) hkept hbandJewel⟩

end Hierarchy

def Declaration.clause (d : Declaration) : TypeClause where
  name := d.name
  params := d.typeParams
  supertypes := d.supertypes

/-- The direct supertypes in a universe are those of the platform and those that the manifest
gives. -/
theorem Universe.mem_directSupertypes {m : Manifest} {u : Universe} (hu : ofManifest m = .ok u)
    {name : String} {t : HostType} :
    t ∈ u.hierarchy.directSupertypes name ↔
      t ∈ Hierarchy.platform.directSupertypes name ∨
        ∃ d ∈ m.types, d.name = name ∧ t ∈ d.supertypes := by
  obtain ⟨_, rfl⟩ := ofManifest_ok_iff.mp hu
  have hclauses : m.types.foldl declare Hierarchy.platform =
      (m.types.map Declaration.clause).foldl Hierarchy.declareClause Hierarchy.platform := by
    rw [List.foldl_map]
    rfl
  rw [hclauses, Hierarchy.mem_directSupertypes_foldl Hierarchy.ascending_platform]
  simp only [List.mem_map, exists_exists_and_eq_and, Declaration.clause]

end Companion
