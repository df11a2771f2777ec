import Companion.Proofs.Hierarchy.Assignable
import Companion.Proofs.Hierarchy.Entries

namespace Companion

namespace HostType

mutual

def classNames : HostType → List String
  | .declared n as => n :: classNamesAll as
  | .array c => classNames c
  | .wildcardExtends u => classNames u
  | .primitive _ | .wildcard | .var _ => []

def classNamesAll : List HostType → List String
  | [] => []
  | a :: as => classNames a ++ classNamesAll as

end

def Avoids (t : HostType) (name : String) : Prop := name ∉ t.classNames

instance (t : HostType) (name : String) : Decidable (t.Avoids name) :=
  inferInstanceAs (Decidable (name ∉ t.classNames))

variable {t : HostType} {name n : String} {as : List HostType} {b : Bindings}

theorem classNamesAll_eq_flatMap (as : List HostType) :
    classNamesAll as = as.flatMap classNames := by
  induction as with
  | nil => rfl
  | cons a as ih => rw [classNamesAll, ih, List.flatMap_cons]

theorem avoids_declared_iff :
    (declared n as).Avoids name ↔ n ≠ name ∧ ∀ a ∈ as, a.Avoids name := by
  simp [Avoids, classNames, classNamesAll_eq_flatMap, eq_comm]

theorem avoids_var (v name : String) : (var v).Avoids name := List.not_mem_nil

theorem Avoids.substitute (ht : t.Avoids name) (hb : ∀ p ∈ b, p.2.Avoids name) :
    (t.substitute b).Avoids name := by
  induction t with
  | primitive | wildcard => exact List.not_mem_nil
  | array c ih => exact ih ht
  | wildcardExtends u ih => exact ih ht
  | var v =>
      rw [HostType.substitute]
      cases hv : b.lookup v with
      | none => exact List.not_mem_nil
      | some image =>
          obtain ⟨before, after, rfl, _⟩ := List.lookup_eq_some_iff.mp hv
          exact hb (v, image) (by simp)
  | declared n as ih =>
      obtain ⟨hn, has⟩ := avoids_declared_iff.mp ht
      rw [substitute_declared, avoids_declared_iff, List.forall_mem_map]
      exact ⟨hn, fun a ha => ih a ha (has a ha)⟩

theorem Avoids.erasure (ht : t.Avoids name) : t.erasure.Avoids name := by
  cases t with
  | declared n as => exact avoids_declared_iff.mpr ⟨(avoids_declared_iff.mp ht).1, by simp⟩
  | primitive | array | wildcard | wildcardExtends | var => exact ht

theorem Avoids.args (ht : t.Avoids name) : ∀ a ∈ t.args, a.Avoids name := by
  cases t with
  | declared n as => exact (avoids_declared_iff.mp ht).2
  | primitive | array | wildcard | wildcardExtends | var => exact nofun

theorem avoids_of_mem_zip {params : List String} (has : ∀ a ∈ as, a.Avoids name) :
    ∀ p ∈ params.zip as, p.2.Avoids name := fun p hp => has p.2 (List.of_mem_zip hp).2

end HostType

open HostType

theorem TypeEntry.avoids_supertypesOf {e : TypeEntry} {as : List HostType} {name : String}
    (he : ∀ t ∈ e.supertypes, t.Avoids name) (has : ∀ a ∈ as, a.Avoids name) :
    ∀ t ∈ e.supertypesOf as, t.Avoids name := by
  rw [supertypesOf]
  split
  · exact List.forall_mem_map.mpr fun t ht => (he t ht).substitute (avoids_of_mem_zip has)
  · exact List.forall_mem_map.mpr fun t ht => (he t ht).erasure

namespace Hierarchy

variable {h h' : Hierarchy} {name target stranger : String} {ps : List HostType} {t v : HostType}

/-- Two hierarchies that record the same of the names of some types agree on every search among
these types, if the types are closed under supertypes; and the search finds one of them. -/
theorem search_frame {R : HostType → Prop}
    (hfind : ∀ n as, R (.declared n as) → h'.find? n = h.find? n)
    (hstep : ∀ n as e, R (.declared n as) → h.find? n = some e → ∀ t ∈ e.supertypesOf as, R t)
    (hps : ∀ t ∈ ps, R t) (target : String) (seen : List String) :
    h'.search target ps seen = h.search target ps seen ∧
      ∀ v, h.search target ps seen = some v → R v := by
  fun_induction search h target ps seen with
  | case1 =>
      refine ⟨search_nil h' _ _, fun v hv => ?_⟩
      cases hv
  | case2 as rest seen =>
      refine ⟨search_target h' _ as rest seen, fun v hv => ?_⟩
      cases hv
      exact hps _ List.mem_cons_self
  | case3 name as rest seen hn hf ih =>
      obtain ⟨ha, hrest⟩ := List.forall_mem_cons.mp hps
      rw [search_unknown hn ((hfind name as ha).trans hf)]
      exact ih hrest
  | case4 name as rest seen hn e hf hs ih =>
      rw [search_seen hn hs]
      exact ih (List.forall_mem_cons.mp hps).2
  | case5 name as rest seen hn e hf hs ih =>
      obtain ⟨ha, hrest⟩ := List.forall_mem_cons.mp hps
      rw [search_known hn ((hfind name as ha).trans hf) hs]
      refine ih fun t ht => ?_
      rcases List.mem_append.mp ht with ht | ht
      · exact hstep name as e ha hf t ht
      · exact hrest t ht
  | case6 p rest seen hp ih =>
      rw [search_notClass (not_isClass_of_ne hp)]
      exact ih (List.forall_mem_cons.mp hps).2

/-- The second hierarchy records the same as the first but for a stranger, a name that no supertype
mentions. -/
structure AgreesBeside (h : Hierarchy) (stranger : String) (h' : Hierarchy) : Prop where
  find? : ∀ n, n ≠ stranger → h'.find? n = h.find? n
  avoids : ∀ n e, h.find? n = some e → ∀ t ∈ e.supertypes, t.Avoids stranger

theorem AgreesBeside.search_avoiding (hs : h.AgreesBeside stranger h') (ht : t.Avoids stranger)
    (target : String) :
    h'.view t target = h.view t target ∧ ∀ v, h.view t target = some v → v.Avoids stranger :=
  search_frame (R := (·.Avoids stranger))
    (fun n _ hn => hs.find? n (avoids_declared_iff.mp hn).1)
    (fun n _ e hn hf =>
      TypeEntry.avoids_supertypesOf (hs.avoids n e hf) (avoids_declared_iff.mp hn).2)
    (by simpa using ht) target []

theorem AgreesBeside.view_eq (hs : h.AgreesBeside stranger h') (ht : t.Avoids stranger)
    (target : String) : h'.view t target = h.view t target := (hs.search_avoiding ht target).1

theorem AgreesBeside.avoids_view (hs : h.AgreesBeside stranger h') (ht : t.Avoids stranger)
    (hv : h.view t target = some v) : v.Avoids stranger := (hs.search_avoiding ht target).2 v hv

theorem agreesBeside_declare (havoids : ∀ n, ∀ t ∈ h.directSupertypes n, t.Avoids stranger)
    (params : List String) (supertypes : List HostType) :
    h.AgreesBeside stranger (h.declare stranger params supertypes) where
  find? n hn := lookup_updateEntry_ne hn _
  avoids n e hf t ht := havoids n t (by rwa [directSupertypes_of_find? hf])

end Hierarchy

end Companion
