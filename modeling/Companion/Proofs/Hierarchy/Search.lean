import Companion.Proofs.Hierarchy.WellDeclared
import Mathlib.Data.List.Forall2

namespace Companion.Hierarchy

open HostType

variable {h : Hierarchy} {name target : String} {as bs : List HostType} {rest : List HostType}
  {seen : List String} {e : TypeEntry} {t : HostType}

theorem search_nil (h : Hierarchy) (target : String) (seen : List String) :
    h.search target [] seen = none := by
  rw [search]

theorem search_target (h : Hierarchy) (name : String) (as rest : List HostType)
    (seen : List String) :
    h.search name (.declared name as :: rest) seen = some (.declared name as) := by
  rw [search, if_pos rfl]

theorem search_notClass (ht : ¬t.IsClass) :
    h.search target (t :: rest) seen = h.search target rest seen := by
  cases t with
  | declared n as => exact absurd (isClass_declared n as) ht
  | primitive | array | wildcard | wildcardExtends | var =>
      rw [search]
      intro n as he
      cases he

/-- One step of the search at a declared type. -/
theorem search_declared (h : Hierarchy) (target name : String) (as rest : List HostType)
    (seen : List String) :
    h.search target (.declared name as :: rest) seen =
      if name = target then some (.declared name as)
      else (h.find? name).elim (h.search target rest seen) fun e =>
        if name ∈ seen then h.search target rest seen
        else h.search target (e.supertypesOf as ++ rest) (name :: seen) := by
  rw [search]
  refine if_congr Iff.rfl rfl ?_
  split
  · next hf => rw [hf, Option.elim_none]
  · next e hf =>
    rw [hf, Option.elim_some]
    rfl

theorem search_unknown (hn : name ≠ target) (hf : h.find? name = none) :
    h.search target (.declared name as :: rest) seen = h.search target rest seen := by
  rw [search_declared, if_neg hn, hf, Option.elim_none]

theorem search_seen (hn : name ≠ target) (hs : name ∈ seen) :
    h.search target (.declared name as :: rest) seen = h.search target rest seen := by
  rw [search_declared, if_neg hn]
  cases h.find? name with
  | none => rfl
  | some e => rw [Option.elim_some, if_pos hs]

theorem search_known (hn : name ≠ target) (hf : h.find? name = some e) (hs : name ∉ seen) :
    h.search target (.declared name as :: rest) seen =
      h.search target (e.supertypesOf as ++ rest) (name :: seen) := by
  rw [search_declared, if_neg hn, hf, Option.elim_some, if_neg hs]

/-- Searches started from related types give related results, if related types have one name and
their supertypes are related again. -/
theorem search_rel {R : HostType → HostType → Prop}
    (hname : ∀ a b, R a b → a.rawName? = b.rawName?)
    (hstep : ∀ name e as bs, h.find? name = some e → R (.declared name as) (.declared name bs) →
      List.Forall₂ R (e.supertypesOf as) (e.supertypesOf bs))
    (target : String) {ps qs : List HostType} (hpq : List.Forall₂ R ps qs) (seen : List String) :
    Option.Rel R (h.search target ps seen) (h.search target qs seen) := by
  have hclass : ∀ {name as b}, R (.declared name as) b → ∃ bs, b = .declared name bs := by
    intro name as b hab
    have hb := hname _ _ hab
    cases b with
    | declared m bs =>
        cases hb
        exact ⟨bs, rfl⟩
    | primitive | array | wildcard | wildcardExtends | var => cases hb
  -- both searches have visited the same names, so they skip and expand the same types
  fun_induction search h target ps seen generalizing qs with
  | case1 seen =>
      cases hpq
      rw [search_nil]
      exact .none
  | case2 as rest seen =>
      cases hpq with
      | cons hab hrest =>
          obtain ⟨bs, rfl⟩ := hclass hab
          rw [search_target]
          exact .some hab
  | case3 name as rest seen hn hf ih =>
      cases hpq with
      | cons hab hrest =>
          obtain ⟨bs, rfl⟩ := hclass hab
          rw [search_unknown hn hf]
          exact ih hrest
  | case4 name as rest seen hn e hf hs ih =>
      cases hpq with
      | cons hab hrest =>
          obtain ⟨bs, rfl⟩ := hclass hab
          rw [search_seen hn hs]
          exact ih hrest
  | case5 name as rest seen hn e hf hs ih =>
      cases hpq with
      | cons hab hrest =>
          obtain ⟨bs, rfl⟩ := hclass hab
          rw [search_known hn hf hs]
          exact ih (List.rel_append (hstep name e as bs hf hab) hrest)
  | case6 a rest seen hne ih =>
      cases hpq with
      | cons hab hrest =>
          have ha : ¬a.IsClass := not_isClass_of_ne hne
          rw [search_notClass (by rwa [IsClass, ← hname _ _ hab])]
          exact ih hrest

theorem eq_declared_of_search {ps : List HostType} {v : HostType}
    (hv : h.search target ps seen = some v) : ∃ as, v = .declared target as := by
  fun_induction search h target ps seen with
  | case1 => cases hv
  | case2 as rest seen =>
      cases hv
      exact ⟨_, rfl⟩
  | case3 _ _ _ _ _ _ ih | case4 _ _ _ _ _ _ _ _ ih | case5 _ _ _ _ _ _ _ _ ih => exact ih hv
  | case6 _ _ _ _ ih => exact ih hv

theorem forall₂_of_map_rawName?_eq {ps qs : List HostType}
    (hpq : ps.map rawName? = qs.map rawName?) :
    List.Forall₂ (fun a b => a.rawName? = b.rawName?) ps qs := by
  have heq : List.Forall₂ Eq (ps.map rawName?) (qs.map rawName?) := by
    rw [hpq]
    exact List.forall₂_same.mpr fun _ _ => rfl
  simpa only [List.forall₂_map_left_iff, List.forall₂_map_right_iff] using heq

theorem isSome_search_congr (hc : h.ClassSupertypes) (target : String) {ps qs : List HostType}
    (hpq : ps.map rawName? = qs.map rawName?) (seen : List String) :
    (h.search target ps seen).isSome = (h.search target qs seen).isSome := by
  have hrel := search_rel (h := h) (R := fun a b => a.rawName? = b.rawName?) (fun _ _ hab => hab)
    (fun name e as bs hf _ => forall₂_of_map_rawName?_eq <| by
      rw [TypeEntry.map_rawName?_supertypesOf (hc.of_find? hf),
        TypeEntry.map_rawName?_supertypesOf (hc.of_find? hf)])
    target (forall₂_of_map_rawName?_eq hpq) seen
  generalize h.search target ps seen = v, h.search target qs seen = w at hrel
  cases hrel with
  | none | some => rfl

theorem search_map_substitute (hc : h.ClassSupertypes) (hv : h.OwnVariables) (target : String)
    {ps : List HostType} (hps : ∀ t ∈ ps, t.IsClass) (b : Bindings) (seen : List String) :
    h.search target (ps.map (substitute b)) seen =
      (h.search target ps seen).map (substitute b) := by
  have hinst : ∀ {ts : List HostType}, (∀ t ∈ ts, t.IsClass) →
      List.Forall₂ (fun t u => t.IsClass ∧ u = t.substitute b) ts (ts.map (substitute b)) := by
    intro ts hts
    rw [List.forall₂_map_right_iff, List.forall₂_same]
    exact fun t ht => ⟨hts t ht, rfl⟩
  have hrel := search_rel (h := h) (R := fun t u => t.IsClass ∧ u = t.substitute b)
    (fun t u htu => by rw [htu.2, htu.1.rawName?_substitute])
    (fun name e as bs hf htu => by
      have hbs : bs = as.map (substitute b) := by simpa using htu.2
      rw [hbs, TypeEntry.supertypesOf_map_substitute (hc.of_find? hf) (hv.of_find? hf)]
      exact hinst fun t ht => TypeEntry.isClass_of_mem_supertypesOf (hc.of_find? hf) ht)
    target (hinst hps) seen
  generalize h.search target ps seen = v, h.search target (ps.map (substitute b)) seen = w at hrel
  cases hrel with
  | none => rfl
  | some htu => rw [Option.map_some, htu.2]

theorem eq_declared_of_view {v : HostType} (hv : h.view t target = some v) :
    v = .declared target v.args := by
  obtain ⟨as, rfl⟩ := eq_declared_of_search hv
  rfl

theorem view_self (h : Hierarchy) (name : String) (as : List HostType) :
    h.view (.declared name as) name = some (.declared name as) := search_target h name as [] []

theorem view_notClass (ht : ¬t.IsClass) : h.view t target = none := by
  rw [view, search_notClass ht, search_nil]

theorem view_unknown (hn : name ≠ target) (hf : h.find? name = none) :
    h.view (.declared name as) target = none := by
  rw [view, search_unknown hn hf, search_nil]

theorem isSome_view_congr (hc : h.ClassSupertypes) (name target : String) (as bs : List HostType) :
    (h.view (.declared name as) target).isSome = (h.view (.declared name bs) target).isSome := by
  have hn : [HostType.declared name as].map rawName? = [HostType.declared name bs].map rawName? :=
    rfl
  exact isSome_search_congr hc target hn []

theorem view_map_erasure_congr (hc : h.ClassSupertypes) (name target : String)
    (as bs : List HostType) :
    (h.view (.declared name as) target).map erasure =
      (h.view (.declared name bs) target).map erasure := by
  have hs := isSome_view_congr hc name target as bs
  cases ha : h.view (.declared name as) target with
  | none =>
      have hb : h.view (.declared name bs) target = none := by simpa [ha] using hs.symm
      rw [hb]
  | some v =>
      obtain ⟨w, hb⟩ := Option.isSome_iff_exists.mp (hs.symm.trans (by rw [ha]; rfl))
      rw [hb, Option.map_some, Option.map_some, eq_declared_of_view ha, eq_declared_of_view hb]
      rfl

theorem view_substitute (hc : h.ClassSupertypes) (hv : h.OwnVariables) (ht : t.IsClass)
    (b : Bindings) (target : String) :
    h.view (t.substitute b) target = (h.view t target).map (substitute b) := by
  have hps : ∀ u ∈ [t], u.IsClass := by simpa using ht
  exact search_map_substitute hc hv target hps b []

end Companion.Hierarchy
