import Companion.Proofs.Planning.DecisionList
import Mathlib.Tactic.Common

namespace Companion

open HostType

namespace CapabilityCatalog

variable {c : CapabilityCatalog} {t : HostType} {k : Capability} {transfer : Transfer}

theorem ruleTransfer?_of_resolve {r : Resolution} (hr : c.resolve t = some r) :
    c.ruleTransfer? t r.rule = some r.transfer := by
  obtain ⟨rule, _, hmap⟩ := List.exists_of_findSome?_eq_some hr
  obtain ⟨transfer, htransfer, rfl⟩ := Option.map_eq_some_iff.mp hmap
  exact htransfer

theorem exists_containerView_of_homogeneousList
    (ht : c.ruleTransfer? t .homogeneousList = some transfer) :
    ∃ v, c.containerView t .orderedList = some v := by
  obtain ⟨op, hop, _⟩ := Option.map_eq_some_iff.mp ht
  obtain ⟨v, hv, _⟩ := Option.bind_eq_some_iff.mp hop
  exact ⟨v, hv⟩

theorem exists_containerView_of_holdsTransferable (ht : c.holdsTransferable t k = true) :
    ∃ v, c.containerView t k = some v := by
  rw [holdsTransferable] at ht
  cases hv : c.containerView t k with
  | none => simp [hv] at ht
  | some v => exact ⟨v, rfl⟩

theorem rule_of_mem_containers {d : Decision} (hd : d ∈ Decision.containers) :
    (d.rule = .homogeneousList ∧ ∃ slot, d.target = Decision.listOf slot) ∨
      (d.rule = .transferableList ∧ ∃ slot, d.target = Decision.listOf slot) ∨
      (d.rule = .sparseTransferable ∧ ∃ slot, d.target = Decision.sparseArrayOf slot) := by
  simp only [Decision.containers, List.mem_cons, List.not_mem_nil, or_false] at hd
  rcases hd with rfl | rfl | rfl | rfl | rfl
  · exact .inl ⟨rfl, _, rfl⟩
  · exact .inl ⟨rfl, _, rfl⟩
  · exact .inl ⟨rfl, _, rfl⟩
  · exact .inr (.inl ⟨rfl, _, rfl⟩)
  · exact .inr (.inr ⟨rfl, _, rfl⟩)

theorem exists_containerView_of_resolve {d : Decision} (hd : d ∈ Decision.containers)
    (hr : c.resolve t = some d.resolution) :
    ∃ k container slot v, k.container? = some container ∧ d.target = .declared container [slot] ∧
      c.containerView t k = some v := by
  have hrule : c.ruleTransfer? t d.rule = some d.resolution.transfer := ruleTransfer?_of_resolve hr
  rcases rule_of_mem_containers hd with ⟨hd, slot, ht⟩ | ⟨hd, slot, ht⟩ | ⟨hd, slot, ht⟩
  · rw [hd] at hrule
    obtain ⟨v, hv⟩ := exists_containerView_of_homogeneousList hrule
    exact ⟨.orderedList, _, slot, v, rfl, ht, hv⟩
  · rw [hd, ruleTransfer?] at hrule
    have hholds := (Option.ite_none_right_eq_some.mp hrule).1
    obtain ⟨v, hv⟩ := exists_containerView_of_holdsTransferable hholds
    exact ⟨.orderedList, _, slot, v, rfl, ht, hv⟩
  · rw [hd, ruleTransfer?] at hrule
    have hholds := (Option.ite_none_right_eq_some.mp hrule).1
    obtain ⟨v, hv⟩ := exists_containerView_of_holdsTransferable hholds
    exact ⟨.sparseIndexed, _, slot, v, rfl, ht, hv⟩

end CapabilityCatalog

namespace Hierarchy

theorem map_erasure_view_eq_iff (h : Hierarchy) (t : HostType) (target : String) :
    (h.view t target).map erasure = h.view t target ↔
      ∀ v, h.view t target = some v → v.args = [] := by
  cases hv : h.view t target with
  | none => simp
  | some v =>
      obtain ⟨as, rfl⟩ := eq_declared_of_search hv
      simp only [Option.map_some, erasure, Option.some.injEq, declared.injEq, true_and, forall_eq',
        args]
      exact eq_comm

end Hierarchy

namespace Universe

variable {m : Manifest} {u : Universe}

/-- Used without arguments, a generic class is for the catalog the erasure of what it is for the
host. It is the same where the host sees a raw container, and the operation chosen for it takes it
where the arguments that the host sees fill the slot of the operation. -/
theorem exists_catalog_erasing (hu : ofManifest m = .ok u) (hc : u.hierarchy.ClassSupertypes) :
    ∃ c, CapabilityCatalog.build u.host = .ok c ∧
      ∀ name, u.hierarchy.contains name = true → u.host.typeParameters name ≠ [] →
        (∀ k container, k.container? = some container →
          c.containerView (.declared name []) k =
              (u.host.view (.declared name []) container).map erasure ∧
            (c.containerView (.declared name []) k = u.host.view (.declared name []) container ↔
              ∀ v, u.host.view (.declared name []) container = some v → v.args = [])) ∧
        ∀ d ∈ Decision.containers, c.resolve (.declared name []) = some d.resolution →
          ∃ container slot v, d.target = .declared container [slot] ∧
            u.host.view (.declared name []) container = some v ∧
            (u.host.isAssignable (.declared name []) d.target = true ↔
              u.hierarchy.fills v.args slot = true) := by
  obtain ⟨c, hb, hd⟩ := exists_catalog hu
  refine ⟨c, hb, fun name hn hp => ?_⟩
  obtain ⟨e, hf⟩ := Hierarchy.contains_iff.mp hn
  have hl : ([] : List HostType).length ≠ e.params.length := by
    intro hl
    have he := Hierarchy.typeParameters_of_find? hf
    exact hp (he.trans (List.length_eq_zero_iff.mp hl.symm))
  -- a generic class without arguments is the case in which arguments do not fit
  have hview : ∀ {k container}, k.container? = some container →
      c.containerView (.declared name []) k =
        (u.hierarchy.view (.declared name []) container).map erasure :=
    fun hk => hd.containerView_misfit hc hk hf hl
  refine ⟨fun k container hk => ⟨hview hk, ?_⟩, fun d hdec hr => ?_⟩
  · rw [hview hk]
    exact Hierarchy.map_erasure_view_eq_iff _ _ _
  · obtain ⟨k, container, slot, w, hk, htarget, hw⟩ :=
      CapabilityCatalog.exists_containerView_of_resolve hdec hr
    obtain ⟨v, hv, _⟩ := Option.map_eq_some_iff.mp ((hview hk).symm.trans hw)
    refine ⟨container, slot, v, htarget, hv, ?_⟩
    have hassign : u.hierarchy.isAssignable (.declared name []) d.target =
        u.hierarchy.fills v.args slot := by
      rw [htarget, Hierarchy.isAssignable_declared (Capability.container_ne_object hk), hv,
        Option.any_some, Hierarchy.fills_eq]
      rfl
    rw [← hassign]
    rfl

/-- A generic class above which the elements of a list are given once and for all. -/
def boxes : Manifest where
  types := [
    { name := "a.Item" },
    { name := "a.Items", supertypes := [.declared "java.util.ArrayList" [.declared "a.Item" []]] },
    { name := "a.Box", typeParams := ["T"], supertypes := [.declared "a.Items" []] }]

theorem wellDeclared_boxes : (boxes.types.foldl declare Hierarchy.platform).WellDeclared :=
  .of_entries (by decide +kernel)

theorem raw_box_differs :
    ∃ u, ofManifest boxes = .ok u ∧ u.hierarchy.WellDeclared ∧
      ∃ c, CapabilityCatalog.build u.host = .ok c ∧
        c.containerView (.declared "a.Box" []) .orderedList =
          some (.declared "java.util.ArrayList" []) ∧
        u.host.view (.declared "a.Box" []) "java.util.ArrayList" =
          some (.declared "java.util.ArrayList" [.declared "a.Item" []]) ∧
        c.resolve (.declared "a.Box" []) = some ⟨{ operation := .stringList }, .homogeneousList⟩ ∧
        u.host.isAssignable (.declared "a.Box" [])
          (.declared "java.util.ArrayList" [.declared "java.lang.String" []]) = false := by
  obtain ⟨c, hb, hraw⟩ := exists_catalog_erasing (m := boxes) rfl wellDeclared_boxes.classes
  obtain ⟨hviews, _⟩ := hraw "a.Box" (by decide +kernel) (by decide +kernel)
  have hview : (boxes.types.foldl declare Hierarchy.platform).view (.declared "a.Box" [])
      "java.util.ArrayList" =
        some (.declared "java.util.ArrayList" [.declared "a.Item" []]) := by
    have hbox : (boxes.types.foldl declare Hierarchy.platform).find? "a.Box" =
        some ⟨["T"], [.declared "a.Items" []]⟩ := by decide +kernel
    have hitems : (boxes.types.foldl declare Hierarchy.platform).find? "a.Items" =
        some ⟨[], [.declared "java.util.ArrayList" [.declared "a.Item" []]]⟩ := by decide +kernel
    generalize boxes.types.foldl declare Hierarchy.platform = h at hbox hitems
    simp [Hierarchy.view, Hierarchy.search_declared, hbox, hitems, TypeEntry.supertypesOf,
      TypeEntry.fits, substitute, substituteAll, erasure]
  have hcatalog : c.containerView (.declared "a.Box" []) .orderedList =
      some (.declared "java.util.ArrayList" []) :=
    (hviews .orderedList "java.util.ArrayList" rfl).1.trans (congrArg (Option.map erasure) hview)
  have hstrings : (boxes.types.foldl declare Hierarchy.platform).isAssignable
      (.declared "a.Box" [])
      (.declared "java.util.ArrayList" [.declared "java.lang.String" []]) = false := by
    rw [Hierarchy.isAssignable_declared (by decide), hview]
    simp [args, Hierarchy.holdsAll, Hierarchy.holds_declared]
  refine ⟨_, rfl, wellDeclared_boxes, c, hb, hcatalog, hview, ?_, hstrings⟩
  simp only [CapabilityCatalog.resolve, CapabilityCatalog.rules, List.findSome?_cons,
    CapabilityCatalog.ruleTransfer?, CapabilityCatalog.homogeneousList?, hcatalog]
  rfl

end Universe

end Companion
