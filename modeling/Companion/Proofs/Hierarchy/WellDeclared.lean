import Companion.Hierarchy.View
import Companion.Proofs.HostType.Substitution

namespace Companion

open HostType

namespace TypeEntry

variable {e : TypeEntry}

theorem map_rawName?_supertypesOf (hc : ∀ t ∈ e.supertypes, t.IsClass) (as : List HostType) :
    (e.supertypesOf as).map rawName? = e.supertypes.map rawName? := by
  simp only [supertypesOf]
  split
  · rw [List.map_map]
    exact List.map_congr_left fun t ht => (hc t ht).rawName?_substitute _
  · rw [List.map_map]
    exact List.map_congr_left fun t _ => rawName?_erasure t

theorem isClass_of_mem_supertypesOf (hc : ∀ t ∈ e.supertypes, t.IsClass) {as : List HostType}
    {t : HostType} (ht : t ∈ e.supertypesOf as) : t.IsClass := by
  have hn : t.rawName? ∈ e.supertypes.map rawName? := by
    rw [← map_rawName?_supertypesOf hc as]
    exact List.mem_map_of_mem ht
  obtain ⟨s, hs, heq⟩ := List.mem_map.mp hn
  have h := hc s hs
  rwa [IsClass, heq] at h

theorem supertypesOf_map_substitute (hc : ∀ t ∈ e.supertypes, t.IsClass)
    (hv : ∀ t ∈ e.supertypes, t.MentionsOnly e.params) (as : List HostType) (b : Bindings) :
    e.supertypesOf (as.map (substitute b)) = (e.supertypesOf as).map (substitute b) := by
  have hfit : e.fits (as.map (substitute b)) = e.fits as := by simp [fits]
  simp only [supertypesOf, hfit]
  split
  · next hf =>
    have hl : as.length = e.params.length := by simpa [fits] using hf
    rw [List.map_map]
    exact List.map_congr_left fun t ht => ((hv t ht).substitute_zip hl b).symm
  · rw [List.map_map]
    exact List.map_congr_left fun t ht => ((hc t ht).substitute_erasure b).symm

end TypeEntry

namespace Hierarchy

variable {h : Hierarchy} {name : String} {e : TypeEntry}

def ClassSupertypes (h : Hierarchy) : Prop := ∀ name, ∀ t ∈ h.directSupertypes name, t.IsClass

def OwnVariables (h : Hierarchy) : Prop :=
  ∀ name, ∀ t ∈ h.directSupertypes name, t.MentionsOnly (h.typeParameters name)

def DistinctParameters (h : Hierarchy) : Prop := ∀ name, (h.typeParameters name).Nodup

structure WellDeclared (h : Hierarchy) : Prop where
  classes : h.ClassSupertypes
  ownVariables : h.OwnVariables
  distinct : h.DistinctParameters

theorem typeParameters_of_find? (hf : h.find? name = some e) :
    h.typeParameters name = e.params := by
  simp [typeParameters, hf]

theorem directSupertypes_of_find? (hf : h.find? name = some e) :
    h.directSupertypes name = e.supertypes := by
  simp [directSupertypes, hf]

theorem ClassSupertypes.of_find? (hc : h.ClassSupertypes) (hf : h.find? name = some e) :
    ∀ t ∈ e.supertypes, t.IsClass := by
  intro t ht
  exact hc name t (directSupertypes_of_find? hf ▸ ht)

theorem OwnVariables.of_find? (hv : h.OwnVariables) (hf : h.find? name = some e) :
    ∀ t ∈ e.supertypes, t.MentionsOnly e.params := by
  intro t ht
  rw [← typeParameters_of_find? hf]
  exact hv name t (directSupertypes_of_find? hf ▸ ht)

theorem contains_iff : h.contains name = true ↔ ∃ e, h.find? name = some e :=
  Option.isSome_iff_exists

theorem exists_find?_of_mem {t : HostType} (ht : t ∈ h.directSupertypes name) :
    ∃ e, h.find? name = some e ∧ t ∈ e.supertypes := by
  cases hf : h.find? name with
  | none => simp [directSupertypes, hf] at ht
  | some e => exact ⟨e, rfl, directSupertypes_of_find? hf ▸ ht⟩

theorem ClassSupertypes.of_entries (he : ∀ p ∈ h.entries, ∀ t ∈ p.2.supertypes, t.IsClass) :
    h.ClassSupertypes := by
  intro name t ht
  obtain ⟨e, hf, hmem⟩ := exists_find?_of_mem ht
  exact he _ (mem_of_find? hf) t hmem

theorem OwnVariables.of_entries
    (he : ∀ p ∈ h.entries, ∀ t ∈ p.2.supertypes, t.MentionsOnly p.2.params) : h.OwnVariables := by
  intro name t ht
  obtain ⟨e, hf, hmem⟩ := exists_find?_of_mem ht
  rw [typeParameters_of_find? hf]
  exact he _ (mem_of_find? hf) t hmem

theorem WellDeclared.of_entries
    (he : ∀ p ∈ h.entries, p.2.params.Nodup ∧
      ∀ t ∈ p.2.supertypes, t.IsClass ∧ t.MentionsOnly p.2.params) : h.WellDeclared := by
  refine ⟨.of_entries fun p hp t ht => ((he p hp).2 t ht).1,
    .of_entries fun p hp t ht => ((he p hp).2 t ht).2, fun name => ?_⟩
  cases hf : h.find? name with
  | none => simp [typeParameters, hf]
  | some e =>
      rw [typeParameters_of_find? hf]
      exact (he _ (mem_of_find? hf)).1

end Hierarchy

end Companion
