import Companion.Proofs.Hierarchy.Clauses

namespace Companion.Hierarchy

open HostType Relation

variable {h : Hierarchy} {name target : String} {as : List HostType} {path seen seen' : List String}
  {e : TypeEntry} {t v w : HostType} {is js : List Nat}

/-- The first type named `target` on the ways up from a type that pass no name of `path` and no name
twice; nothing else is remembered of the ways that were tried. -/
def climb (h : Hierarchy) (target : String) (path : List String) : HostType → Option HostType
  | .declared name args =>
    if name = target then some (.declared name args)
    else
      match _hf : h.find? name with
      | none => none
      | some e =>
        if _hs : name ∈ path then none
        else (e.supertypesOf args).findSome? fun t => climb h target (name :: path) t
  | _ => none
termination_by h.unseen path
decreasing_by exact unseen_cons_lt _hf _hs

theorem climb_target (h : Hierarchy) (name : String) (as : List HostType) (path : List String) :
    h.climb name path (.declared name as) = some (.declared name as) := by
  rw [climb, if_pos rfl]

theorem climb_notClass (ht : ¬t.IsClass) : h.climb target path t = none := by
  cases t with
  | declared n as => exact absurd (isClass_declared n as) ht
  | primitive | array | wildcard | wildcardExtends | var =>
      rw [climb]
      intro n as he
      cases he

theorem climb_unknown (hn : name ≠ target) (hf : h.find? name = none) :
    h.climb target path (.declared name as) = none := by
  rw [climb, if_neg hn]
  split
  · rfl
  · next e hf' => rw [hf] at hf'; cases hf'

theorem climb_passed (hn : name ≠ target) (hs : name ∈ path) :
    h.climb target path (.declared name as) = none := by
  rw [climb, if_neg hn]
  split
  · rfl
  · rw [dif_pos hs]

theorem climb_known (hn : name ≠ target) (hf : h.find? name = some e) (hs : name ∉ path) :
    h.climb target path (.declared name as) =
      (e.supertypesOf as).findSome? (h.climb target (name :: path)) := by
  rw [climb, if_neg hn]
  split
  · next hf' => rw [hf] at hf'; cases hf'
  · next e' hf' =>
    rw [hf] at hf'
    cases hf'
    rw [dif_neg hs]

theorem unvisited_anti (hsub : path ⊆ seen) (hr : ReflTransGen (h.Unvisited seen) name target) :
    ReflTransGen (h.Unvisited path) name target :=
  ReflTransGen.mono (fun _ _ hab => ⟨fun ha => hab.1 (hsub ha), hab.2⟩) name target hr

theorem isSome_climb_iff (hc : h.ClassSupertypes) (target : String) (path : List String)
    (t : HostType) : (h.climb target path t).isSome = true ↔
      ∃ a, t.rawName? = some a ∧ ReflTransGen (h.Unvisited path) a target := by
  fun_induction climb h target path t with
  | case1 path as => exact iff_of_true rfl ⟨_, rfl, .refl⟩
  | case2 path name as hn hf =>
      refine iff_of_false (by simp) ?_
      rintro ⟨a, ha, hr⟩
      cases ha
      rcases hr.cases_head with rfl | ⟨b, hstep, _⟩
      · exact hn rfl
      · exact not_below_of_unknown hf hstep.2
  | case3 path name as hn e hf hs =>
      refine iff_of_false (by simp) ?_
      rintro ⟨a, ha, hr⟩
      cases ha
      exact not_reaches_of_visited hn hs hr
  | case4 path name as hn e hf hs ih =>
      rw [List.findSome?_isSome_iff]
      constructor
      · rintro ⟨s, hmem, hsome⟩
        obtain ⟨b, hb, hr⟩ := (ih s).mp hsome
        have hstep : h.Unvisited path name b := ⟨hs, below_of_mem_supertypesOf hc hf hmem hb⟩
        exact ⟨name, rfl, .head hstep (unvisited_anti (List.subset_cons_self name path) hr)⟩
      · rintro ⟨a, ha, hr⟩
        cases ha
        -- a chain that comes back to the name has a part that never does
        rcases avoids_or_resumes name hr with hr | ⟨b, hb, hr⟩
        · exact absurd hr (not_reaches_of_visited hn List.mem_cons_self)
        · obtain ⟨s, hmem, hsb⟩ := hb.exists_supertypesOf hf as
          exact ⟨s, hmem, (ih s).mpr ⟨b, hsb, hr⟩⟩
  | case5 path t ht =>
      refine iff_of_false (by simp) ?_
      rintro ⟨n, hn, _⟩
      exact not_isClass_of_ne ht (isClass_of_rawName? hn)

theorem climb_eq_none_iff (hc : h.ClassSupertypes) (name target : String) (as : List HostType)
    (path : List String) : h.climb target path (.declared name as) = none ↔
      ¬ReflTransGen (h.Unvisited path) name target := by
  rw [← Option.not_isSome_iff_eq_none, isSome_climb_iff hc]
  refine not_congr ⟨?_, fun hr => ⟨name, rfl, hr⟩⟩
  rintro ⟨a, ha, hr⟩
  cases ha
  exact hr

theorem climb_congr (hc : h.ClassSupertypes)
    (hagree : ∀ a, ReflTransGen (h.Unvisited path) a target → (a ∈ seen ↔ a ∈ seen'))
    (hseen : path ⊆ seen) (hseen' : path ⊆ seen') (t : HostType) :
    h.climb target seen t = h.climb target seen' t := by
  fun_induction climb h target seen t generalizing seen' with
  | case1 seen as => rw [climb_target]
  | case2 seen name as hn hf => rw [climb_unknown hn hf]
  | case3 seen name as hn e hf hs =>
      by_cases hs' : name ∈ seen'
      · rw [climb_passed hn hs']
      · refine ((climb_eq_none_iff hc name target as seen').mpr fun hr => hs' ?_).symm
        exact (hagree name (unvisited_anti hseen' hr)).mp hs
  | case4 seen name as hn e hf hs ih =>
      rw [← climb_known hn hf hs]
      by_cases hs' : name ∈ seen'
      · rw [climb_passed hn hs', climb_eq_none_iff hc]
        exact fun hr => hs ((hagree name (unvisited_anti hseen hr)).mpr hs')
      · rw [climb_known hn hf hs, climb_known hn hf hs']
        congr 1
        funext s
        refine ih s (fun a ha => ?_) (List.subset_cons_of_subset name hseen)
          (List.subset_cons_of_subset name hseen')
        rw [List.mem_cons, List.mem_cons, hagree a ha]
  | case5 seen t ht => rw [climb_notClass (not_isClass_of_ne ht)]

/-- A search over several types tries one after the other; that names stay visited when it fails at
one of them makes no difference to the next. -/
theorem search_eq_findSome?_climb (hc : h.ClassSupertypes) (target : String) (ps : List HostType)
    (seen : List String) : h.search target ps seen = ps.findSome? (h.climb target seen) := by
  fun_induction search h target ps seen with
  | case1 => rfl
  | case2 as rest seen => rw [List.findSome?_cons, climb_target]
  | case3 name as rest seen hn hf ih => rw [List.findSome?_cons, climb_unknown hn hf, ih]
  | case4 name as rest seen hn e hf hs ih => rw [List.findSome?_cons, climb_passed hn hs, ih]
  | case5 name as rest seen hn e hf hs ih =>
      rw [ih, List.findSome?_append, ← climb_known hn hf hs, List.findSome?_cons]
      cases hcl : h.climb target seen (.declared name as) with
      | some v => rfl
      | none =>
          -- no way leads from the name to the target, so it may as well stay visited
          have hdead := (climb_eq_none_iff hc name target as seen).mp hcl
          have hsame : h.climb target (name :: seen) = h.climb target seen := by
            funext s
            refine climb_congr hc (fun a ha => ?_) (List.subset_cons_self name seen)
              (List.Subset.refl seen) s
            rw [List.mem_cons]
            exact or_iff_right fun heq => hdead (heq ▸ ha)
          rw [Option.none_or, hsame]
  | case6 p rest seen hp ih =>
      rw [List.findSome?_cons, climb_notClass (not_isClass_of_ne hp), ih]

theorem view_eq_climb (hc : h.ClassSupertypes) (t : HostType) (target : String) :
    h.view t target = h.climb target [] t := by
  rw [view, search_eq_findSome?_climb hc, List.findSome?_singleton]

/-- The way up from a type that takes, from each type on, the direct supertype at the next of the
given places. It passes the given names, both ends included, and ends at the last type. -/
inductive Way (h : Hierarchy) : HostType → List Nat → List String → HostType → Prop
  | stop (n : String) (as : List HostType) : Way h (.declared n as) [] [n] (.declared n as)
  | step {n names} {e : TypeEntry} {as : List HostType} {i : Nat} {is : List Nat} {t v : HostType} :
      h.find? n = some e → (e.supertypesOf as)[i]? = some t → Way h t is names v →
      Way h (.declared n as) (i :: is) (n :: names) v

/-- The order of ways from one type: where two of them part, the supertype that is declared earlier
comes first. -/
inductive Precedes : List Nat → List Nat → Prop
  | stop (js : List Nat) : Precedes [] js
  | earlier {i j : Nat} {is js : List Nat} : i < j → Precedes (i :: is) (j :: js)
  | same {i : Nat} {is js : List Nat} : Precedes is js → Precedes (i :: is) (i :: js)

theorem Precedes.antisymm (hij : Precedes is js) (hji : Precedes js is) : is = js := by
  induction hij with
  | stop js => cases hji; rfl
  | earlier hlt =>
      cases hji with
      | earlier hgt => exact absurd hlt (Nat.lt_asymm hgt)
      | same => exact absurd hlt (Nat.lt_irrefl _)
  | same _ ih =>
      cases hji with
      | earlier hlt => exact absurd hlt (Nat.lt_irrefl _)
      | same hji => rw [ih hji]

def Route (h : Hierarchy) (target : String) (path : List String) (t : HostType) (is : List Nat)
    (v : HostType) : Prop :=
  ∃ names, h.Way t is names v ∧ (path ++ names).Nodup ∧ v.rawName? = some target

theorem Way.unique {names names' : List String} (hv : h.Way t is names v)
    (hw : h.Way t is names' w) : v = w := by
  induction hv generalizing names' with
  | stop name as => cases hw; rfl
  | step hf ht _ ih =>
      cases hw with
      | step hf' ht' hw =>
          rw [hf] at hf'
          cases hf'
          rw [ht] at ht'
          cases ht'
          exact ih hw

theorem Route.unique (hv : h.Route target path t is v) (hw : h.Route target path t is w) :
    v = w := by
  obtain ⟨_, hv, _⟩ := hv
  obtain ⟨_, hw, _⟩ := hw
  exact hv.unique hw

theorem route_known (hn : name ≠ target) (hf : h.find? name = some e) :
    h.Route target path (.declared name as) is v ↔
      ∃ i js t, is = i :: js ∧ (e.supertypesOf as)[i]? = some t ∧
        h.Route target (name :: path) t js v := by
  constructor
  · rintro ⟨names, hway, hnodup, htarget⟩
    cases hway with
    | stop => exact absurd (Option.some.inj htarget) hn
    | step hf' ht hway =>
        rw [hf] at hf'
        cases hf'
        exact ⟨_, _, _, rfl, ht, _, hway, List.nodup_middle.mp hnodup, htarget⟩
  · rintro ⟨i, js, t, rfl, ht, names, hway, hnodup, htarget⟩
    exact ⟨name :: names, .step hf ht hway, List.nodup_middle.mpr hnodup, htarget⟩

theorem not_route_of_climb_eq_none (hnone : h.climb target path t = none) :
    ¬h.Route target path t is v := by
  fun_induction climb h target path t generalizing is with
  | case1 => cases hnone
  | case2 path name as hn hf =>
      rintro ⟨_, hway, _, htarget⟩
      cases hway with
      | stop => exact hn (Option.some.inj htarget)
      | step hf' => rw [hf] at hf'; cases hf'
  | case3 path name as hn e hf hs =>
      rw [route_known hn hf]
      rintro ⟨_, _, _, _, _, _, _, hnodup, _⟩
      exact (List.nodup_cons.mp hnodup).1 (List.mem_append_left _ hs)
  | case4 path name as hn e hf hs ih =>
      rw [route_known hn hf]
      rintro ⟨i, js, t, rfl, ht, hroute⟩
      exact ih t (List.findSome?_eq_none_iff.mp hnone t (List.mem_of_getElem? ht)) hroute
  | case5 path t ht =>
      rintro ⟨_, hway, _⟩
      cases hway with
      | stop name as | step => exact ht _ _ rfl

theorem exists_first_route_of_climb (htarget : (target :: path).Nodup)
    (hv : h.climb target path t = some v) :
    ∃ is, h.Route target path t is v ∧ ∀ js w, h.Route target path t js w → Precedes is js := by
  fun_induction climb h target path t with
  | case1 path as =>
      cases hv
      refine ⟨[], ⟨[_], .stop _ _, ?_, rfl⟩, fun js w _ => .stop js⟩
      rw [List.nodup_middle, List.append_nil]
      exact htarget
  | case2 | case3 | case5 => cases hv
  | case4 path name as hn e hf hs ih =>
      obtain ⟨before, t, after, hsup, ht, hbefore⟩ := List.findSome?_eq_some_iff.mp hv
      have hpath : (target :: name :: path).Nodup := by
        obtain ⟨hmem, hnodup⟩ := List.nodup_cons.mp htarget
        refine List.nodup_cons.mpr ⟨?_, List.nodup_cons.mpr ⟨hs, hnodup⟩⟩
        rw [List.mem_cons, not_or]
        exact ⟨Ne.symm hn, hmem⟩
      obtain ⟨is, hroute, hfirst⟩ := ih t hpath ht
      have hplace : (e.supertypesOf as)[before.length]? = some t := by simp [hsup]
      refine ⟨before.length :: is, (route_known hn hf).mpr ⟨_, _, _, rfl, hplace, hroute⟩, ?_⟩
      intro js w hw
      obtain ⟨i, js, s, rfl, hs, hw⟩ := (route_known hn hf).mp hw
      -- a route by an earlier supertype would have ended the climb there
      rcases Nat.lt_trichotomy before.length i with hlt | rfl | hgt
      · exact .earlier hlt
      · rw [hplace] at hs
        cases hs
        exact .same (hfirst js w hw)
      · rw [hsup, List.getElem?_append_left hgt] at hs
        exact absurd hw (not_route_of_climb_eq_none (hbefore s (List.mem_of_getElem? hs)))

theorem climb_eq_some_iff (htarget : (target :: path).Nodup) :
    h.climb target path t = some v ↔
      ∃ is, h.Route target path t is v ∧ ∀ js w, h.Route target path t js w → Precedes is js := by
  refine ⟨exists_first_route_of_climb htarget, ?_⟩
  rintro ⟨is, hroute, hfirst⟩
  cases hw : h.climb target path t with
  | none => exact absurd hroute (not_route_of_climb_eq_none hw)
  | some w =>
      obtain ⟨js, hroute', hfirst'⟩ := exists_first_route_of_climb htarget hw
      obtain rfl : is = js := (hfirst js w hroute').antisymm (hfirst' is v hroute)
      rw [hroute.unique hroute']

theorem climb_eq_none_iff_not_route (htarget : (target :: path).Nodup) :
    h.climb target path t = none ↔ ¬∃ is v, h.Route target path t is v := by
  refine ⟨fun hnone => ?_, fun hnot => ?_⟩
  · rintro ⟨is, v, hroute⟩
    exact not_route_of_climb_eq_none hnone hroute
  · cases hv : h.climb target path t with
    | none => rfl
    | some v =>
        obtain ⟨is, hroute, _⟩ := exists_first_route_of_climb htarget hv
        exact absurd ⟨is, v, hroute⟩ hnot

/-- A type is seen as the end of the first route in the order of declaration on which no name is
repeated; the names that a search has visited on other ways make no difference. It cannot be seen as
the target exactly if there is no such route. -/
theorem view_finds_first_route {cs : List TypeClause} (hc : ∀ c ∈ cs, c.ClassSupertypes)
    (t : HostType) (target : String) :
    (ofClauses cs).view t target = (ofClauses cs).climb target [] t ∧
    (∀ v, (ofClauses cs).view t target = some v ↔
      ∃ is, (ofClauses cs).Route target [] t is v ∧
        ∀ js w, (ofClauses cs).Route target [] t js w → Precedes is js) ∧
    ((ofClauses cs).view t target = none ↔ ¬∃ is v, (ofClauses cs).Route target [] t is v) := by
  have hclimb := view_eq_climb (classSupertypes_ofClauses hc) t target
  have htarget : [target].Nodup := List.nodup_singleton target
  refine ⟨hclimb, fun v => ?_, ?_⟩
  · rw [hclimb, climb_eq_some_iff htarget]
  · rw [hclimb, climb_eq_none_iff_not_route htarget]

/-- Two ways up meet at a stem, with different arguments; from the stem, one can only come back. -/
def fork : List TypeClause := [
  { name := "a.Fork", params := ["T"],
    supertypes := [.declared "a.Left" [.var "T"], .declared "a.Right" [.var "T"]] },
  { name := "a.Left", params := ["T"], supertypes := [.declared "a.Stem" [.var "T"]] },
  { name := "a.Right", params := ["T"],
    supertypes := [.declared "a.Stem" [.array (.var "T")], .declared "a.Tree" [.var "T"]] },
  { name := "a.Stem", params := ["T"], supertypes := [.declared "a.Fork" [.array (.var "T")]] }]

theorem fork_is_tree_on_the_right :
    (∀ c ∈ fork, c.ClassSupertypes) ∧
      (ofClauses fork).view (.declared "a.Fork" [.var "X"]) "a.Tree" =
        some (.declared "a.Tree" [.var "X"]) ∧
      (ofClauses fork).climb "a.Tree" [] (.declared "a.Fork" [.var "X"]) =
        some (.declared "a.Tree" [.var "X"]) ∧
      (∃ is, (ofClauses fork).Route "a.Tree" [] (.declared "a.Fork" [.var "X"]) is
          (.declared "a.Tree" [.var "X"]) ∧
        ∀ js w, (ofClauses fork).Route "a.Tree" [] (.declared "a.Fork" [.var "X"]) js w →
          Precedes is js) ∧
      ¬∃ is v, (ofClauses fork).Route "a.Leaf" [] (.declared "a.Fork" [.var "X"]) is v := by
  have hc : ∀ c ∈ fork, c.ClassSupertypes := by decide
  have hfork : (ofClauses fork).find? "a.Fork" =
      some ⟨["T"], [.declared "a.Left" [.var "T"], .declared "a.Right" [.var "T"]]⟩ := by
    decide +kernel
  have hleft : (ofClauses fork).find? "a.Left" = some ⟨["T"], [.declared "a.Stem" [.var "T"]]⟩ := by
    decide +kernel
  have hright : (ofClauses fork).find? "a.Right" = some ⟨["T"],
      [.declared "a.Stem" [.array (.var "T")], .declared "a.Tree" [.var "T"]]⟩ := by decide +kernel
  have hstem : (ofClauses fork).find? "a.Stem" =
      some ⟨["T"], [.declared "a.Fork" [.array (.var "T")]]⟩ := by decide +kernel
  have htree : (ofClauses fork).find? "a.Tree" = none := by decide +kernel
  have hview : (ofClauses fork).view (.declared "a.Fork" [.var "X"]) "a.Tree" =
      some (.declared "a.Tree" [.var "X"]) := by
    simp [view, search_declared, hfork, hleft, hright, hstem, TypeEntry.supertypesOf,
      TypeEntry.fits, substitute, substituteAll]
  have hleaf : (ofClauses fork).view (.declared "a.Fork" [.var "X"]) "a.Leaf" = none := by
    simp [view, search_declared, search_nil, hfork, hleft, hright, hstem, htree,
      TypeEntry.supertypesOf, TypeEntry.fits, substitute, substituteAll]
  obtain ⟨hclimb, hroute, _⟩ := view_finds_first_route hc (.declared "a.Fork" [.var "X"]) "a.Tree"
  obtain ⟨_, _, hnone⟩ := view_finds_first_route hc (.declared "a.Fork" [.var "X"]) "a.Leaf"
  exact ⟨hc, hview, hclimb.symm.trans hview, (hroute _).mp hview, hnone.mp hleaf⟩

end Companion.Hierarchy
