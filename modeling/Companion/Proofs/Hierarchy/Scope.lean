import Companion.Proofs.Hierarchy.Clauses
import Companion.Proofs.Hierarchy.Strangers

namespace Companion

namespace HostType

variable {t : HostType} {b : Bindings} {n : String} {as : List HostType}
  {params scope : List String}

theorem mentionsOnly_declared_iff :
    (declared n as).MentionsOnly scope ↔ ∀ a ∈ as, a.MentionsOnly scope := by
  simp only [MentionsOnly, vars, varsAll_eq_flatMap, List.mem_flatMap]
  constructor
  · intro h a ha v hv
    exact h v ⟨a, ha, hv⟩
  · rintro h v ⟨a, ha, hv⟩
    exact h a ha v hv

theorem mentionsOnly_substitute (ht : ∀ v ∈ t.vars, ((var v).substitute b).MentionsOnly scope) :
    (t.substitute b).MentionsOnly scope := by
  induction t with
  | primitive | wildcard => exact nofun
  | array c ih => exact ih ht
  | wildcardExtends u ih => exact ih ht
  | var v => exact ht v List.mem_cons_self
  | declared n as ih =>
      rw [substitute_declared, mentionsOnly_declared_iff, List.forall_mem_map]
      intro a ha
      refine ih a ha fun v hv => ht v ?_
      rw [vars, varsAll_eq_flatMap, List.mem_flatMap]
      exact ⟨a, ha, hv⟩

theorem MentionsOnly.substitute_args (ht : t.MentionsOnly params)
    (hl : as.length = params.length) (has : ∀ a ∈ as, a.MentionsOnly scope) :
    (t.substitute (params.zip as)).MentionsOnly scope := by
  refine mentionsOnly_substitute fun v hv => ?_
  obtain ⟨image, himage⟩ := Option.isSome_iff_exists.mp (isSome_lookup_zip hl (ht v hv))
  obtain ⟨before, after, hsplit, _⟩ := List.lookup_eq_some_iff.mp himage
  have hmem : (v, image) ∈ params.zip as := by simp [hsplit]
  rw [substitute, himage]
  exact has image (List.of_mem_zip hmem).2

end HostType

open HostType

theorem TypeEntry.mentionsOnly_supertypesOf {e : TypeEntry} {as : List HostType}
    {scope : List String} (he : ∀ t ∈ e.supertypes, t.MentionsOnly e.params)
    (has : ∀ a ∈ as, a.MentionsOnly scope) :
    ∀ t ∈ e.supertypesOf as, t.IsClass → t.MentionsOnly scope := by
  rw [supertypesOf]
  split
  · next hf =>
    have hl : as.length = e.params.length := by simpa [fits] using hf
    exact List.forall_mem_map.mpr fun t ht _ => (he t ht).substitute_args hl has
  · -- arguments that do not fit are dropped, and a class without arguments has no variables
    refine List.forall_mem_map.mpr fun t _ hclass => ?_
    obtain ⟨n, as, heq⟩ := hclass.eq_declared
    cases t with
    | declared => exact mentionsOnly_declared_iff.mpr (by simp)
    | primitive | array | wildcard | wildcardExtends | var => cases heq

namespace Hierarchy

variable {h : Hierarchy} {t v : HostType} {target : String} {scope : List String}

theorem mentionsOnly_search (hv : h.OwnVariables) {ps : List HostType}
    (hps : ∀ t ∈ ps, t.IsClass → t.MentionsOnly scope) (seen : List String)
    (hs : h.search target ps seen = some v) : v.MentionsOnly scope := by
  have hframe := search_frame (R := fun t => t.IsClass → t.MentionsOnly scope)
    (fun n _ _ => Eq.refl (h.find? n))
    (fun n as e hR hf => TypeEntry.mentionsOnly_supertypesOf (hv.of_find? hf)
      (mentionsOnly_declared_iff.mp (hR (isClass_declared n as))))
    hps target seen
  obtain ⟨as, rfl⟩ := eq_declared_of_search hs
  exact hframe.2 _ hs (isClass_declared target as)

/-- A view is a class of the name asked for, and each of its type variables occurs in the type that
is viewed, whatever form the supertypes on the way have and whether or not arguments fit. -/
theorem view_stays_in_scope (hv : h.OwnVariables) (hview : h.view t target = some v) :
    (∃ as, v = .declared target as) ∧ (∀ x ∈ v.vars, x ∈ t.vars) ∧ (t.vars = [] → v.vars = []) := by
  have hscope : v.MentionsOnly t.vars := by
    refine mentionsOnly_search hv (fun u hu _ => ?_) [] hview
    obtain rfl := List.mem_singleton.mp hu
    exact fun _ hx => hx
  refine ⟨eq_declared_of_search hview, hscope, fun hnone => ?_⟩
  rw [List.eq_nil_iff_forall_not_mem]
  intro x hx
  have hmem := hscope x hx
  rw [hnone] at hmem
  cases hmem

/-- A knot is of its own argument, which is no class, and of a ring and a string, each of which
leads back to knots; the ring is given too few arguments and gives the knot too many. -/
def knots : Hierarchy := ofClauses [
  { name := "a.Knot", params := ["T"],
    supertypes := [.var "T", .declared "a.Ring" [.declared "a.Knot" [.var "T"]],
      .declared "a.String" [.array (.var "T"), .wildcardExtends (.var "T")]] },
  { name := "a.Ring", params := ["K", "V"],
    supertypes := [.array (.var "K"), .declared "a.Knot" [.var "K", .var "V"]] },
  { name := "a.String", params := ["K", "V"],
    supertypes := [.declared "a.Knot" [.var "K"], .declared "a.Thread" [.var "V", .var "K"]] }]

theorem knot_is_thread_of_its_argument :
    knots.OwnVariables ∧
      knots.view (.declared "a.Knot" [.var "X"]) "a.Thread" =
        some (.declared "a.Thread" [.wildcardExtends (.var "X"), .array (.var "X")]) ∧
      (∃ as, declared "a.Thread" [.wildcardExtends (.var "X"), .array (.var "X")] =
        .declared "a.Thread" as) ∧
      ∀ x ∈ (declared "a.Thread" [.wildcardExtends (.var "X"), .array (.var "X")]).vars,
        x ∈ (declared "a.Knot" [.var "X"]).vars := by
  have hv : knots.OwnVariables := .of_entries (by decide +kernel)
  have hknot : knots.find? "a.Knot" = some ⟨["T"], [.var "T",
      .declared "a.Ring" [.declared "a.Knot" [.var "T"]],
      .declared "a.String" [.array (.var "T"), .wildcardExtends (.var "T")]]⟩ := by decide +kernel
  have hring : knots.find? "a.Ring" =
      some ⟨["K", "V"], [.array (.var "K"), .declared "a.Knot" [.var "K", .var "V"]]⟩ := by
    decide +kernel
  have hstring : knots.find? "a.String" = some ⟨["K", "V"],
      [.declared "a.Knot" [.var "K"], .declared "a.Thread" [.var "V", .var "K"]]⟩ := by
    decide +kernel
  have hview : knots.view (.declared "a.Knot" [.var "X"]) "a.Thread" =
      some (.declared "a.Thread" [.wildcardExtends (.var "X"), .array (.var "X")]) := by
    simp [view, search_declared, search_notClass, IsClass, rawName?, hknot, hring, hstring,
      TypeEntry.supertypesOf, TypeEntry.fits, erasure, substitute, substituteAll,
      List.lookup_cons]
  obtain ⟨hnamed, hscope, -⟩ := view_stays_in_scope hv hview
  exact ⟨hv, hview, hnamed, hscope⟩

end Hierarchy

end Companion
