import Companion.Planning.Capability
import Companion.Proofs.Hierarchy.Assignable
import Companion.Proofs.Hierarchy.Declare
import Companion.Universe
import Mathlib.Data.Option.Basic
import Mathlib.Tactic.Common

namespace Companion

open HostType

namespace Capability

def marker? : Capability → Option String
  | transferable => some Platform.parcelable
  | opaqueSerializable => some Platform.serializable
  | orderedList | sparseIndexed => none

def container? : Capability → Option String
  | orderedList => some Platform.arrayList
  | sparseIndexed => some Platform.sparseArray
  | transferable | opaqueSerializable => none

variable {k : Capability} {marker : String}

theorem marker_ne_object (hk : k.marker? = some marker) : marker ≠ Platform.object := by
  cases k with
  | transferable | opaqueSerializable => cases hk; decide
  | orderedList | sparseIndexed => cases hk

theorem container_ne_object {container : String} (hk : k.container? = some container) :
    container ≠ Platform.object := by
  cases k with
  | orderedList | sparseIndexed => cases hk; decide
  | transferable | opaqueSerializable => cases hk

theorem container_ne_arraySupertype {container : String} (hk : k.container? = some container) :
    (container == Platform.serializable || container == Platform.cloneable) = false := by
  cases k with
  | orderedList | sparseIndexed => cases hk; decide
  | transferable | opaqueSerializable => cases hk

theorem has_none (hk : k.marker? = some marker) : ({} : Capabilities).has k = false := by
  cases k with
  | transferable | opaqueSerializable => rfl
  | orderedList | sparseIndexed => cases hk

theorem has_array (hk : k.marker? = some marker) :
    ({ opaqueSerializable := true } : Capabilities).has k =
      (marker == Platform.serializable || marker == Platform.cloneable) := by
  cases k with
  | transferable | opaqueSerializable => cases hk; decide
  | orderedList | sparseIndexed => cases hk

end Capability

namespace CapabilityCatalog

variable {c : CapabilityCatalog} {h : Hierarchy} {name : String} {e : TypeEntry}
  {k : Capability} {marker container : String} {as : List HostType}

def entryOf (h : Hierarchy) (name : String) : CatalogEntry :=
  describe h.host (.declared Platform.parcelable []) (.declared Platform.serializable []) name

/-- The catalog has an entry for each type that the hierarchy knows and for no other. -/
def Describes (c : CapabilityCatalog) (h : Hierarchy) : Prop :=
  ∀ name, c.find? name = (h.find? name).map fun _ => entryOf h name

theorem lookup_map_key {α β : Type} (g : String → β) (es : List (String × α)) (name : String) :
    ((es.map (·.1)).map fun key => (key, g key)).lookup name =
      (es.lookup name).map fun _ => g name := by
  induction es with
  | nil => rfl
  | cons p es ih =>
      obtain ⟨key, a⟩ := p
      simp only [List.map_cons, List.lookup_cons]
      cases hn : name == key with
      | true => rw [eq_of_beq hn, Option.map_some]
      | false => exact ih

theorem wellKnown_host (hn : h.contains name = true) :
    h.host.wellKnown name = .ok (.declared name []) := by
  simp [Hierarchy.host, hn]

theorem exists_build (hp : h.contains Platform.parcelable = true)
    (hs : h.contains Platform.serializable = true) (hl : h.contains Platform.arrayList = true)
    (ha : h.contains Platform.sparseArray = true) :
    ∃ c, build h.host = .ok c ∧ c.Describes h := by
  refine ⟨⟨h.names.map fun name => (name, entryOf h name)⟩, ?_, ?_⟩
  · simp only [build, wellKnown_host hp, wellKnown_host hs, wellKnown_host hl, wellKnown_host ha]
    rfl
  · exact fun name => lookup_map_key (entryOf h) h.entries name

theorem Describes.find?_known (hd : c.Describes h) (hf : h.find? name = some e) :
    c.find? name = some (entryOf h name) := by
  rw [hd name, hf, Option.map_some]

theorem Describes.find?_unknown (hd : c.Describes h) (hf : h.find? name = none) :
    c.find? name = none := by
  rw [hd name, hf, Option.map_none]

theorem params_entryOf (hf : h.find? name = some e) : (entryOf h name).params = e.params :=
  Hierarchy.typeParameters_of_find? hf

theorem viewFor_entryOf (hk : k.container? = some container) (hf : h.find? name = some e) :
    CatalogEntry.viewFor (entryOf h name) k = h.view (genericType name e.params) container := by
  rw [← params_entryOf hf]
  cases k with
  | orderedList | sparseIndexed => cases hk; rfl
  | transferable | opaqueSerializable => cases hk

theorem has_entryOf (hk : k.marker? = some marker) (h : Hierarchy) (name : String) :
    (entryOf h name).capabilities.has k =
      h.isAssignable (genericType name (h.typeParameters name)) (.declared marker []) := by
  cases k with
  | transferable | opaqueSerializable => cases hk; rfl
  | orderedList | sparseIndexed => cases hk

theorem Describes.has_eq_isAssignable (hd : c.Describes h) (hc : h.ClassSupertypes)
    (hk : k.marker? = some marker) (hm : h.contains marker = true) (t : HostType) :
    c.has t k = h.isAssignable t (.declared marker []) := by
  have hobj := Capability.marker_ne_object hk
  induction t with
  | primitive p =>
      rw [Hierarchy.isAssignable_primitive]
      exact Capability.has_none hk
  | wildcard =>
      rw [Hierarchy.isAssignable_wildcard hobj]
      exact Capability.has_none hk
  | var v =>
      rw [Hierarchy.isAssignable_var hobj]
      exact Capability.has_none hk
  | array component _ =>
      rw [Hierarchy.isAssignable_array hobj]
      exact Capability.has_array hk
  | wildcardExtends u ih =>
      rw [Hierarchy.isAssignable_wildcardExtends hobj]
      exact ih
  | declared name as _ =>
      rw [Hierarchy.isAssignable_raw hobj, has, capabilities]
      cases hf : h.find? name with
      | none =>
          -- the marker is known, so an unknown class is another one
          have hn : name ≠ marker := by
            rintro rfl
            rw [Hierarchy.contains, hf] at hm
            cases hm
          rw [hd.find?_unknown hf, Hierarchy.view_unknown hn hf]
          exact Capability.has_none hk
      | some e =>
          rw [hd.find?_known hf]
          change (entryOf h name).capabilities.has k = _
          rw [has_entryOf hk, genericType, Hierarchy.isAssignable_raw hobj]
          exact Hierarchy.isSome_view_congr hc name marker _ as

theorem Describes.containerView_known (hd : c.Describes h) (hk : k.container? = some container)
    (hf : h.find? name = some e) (as : List HostType) :
    c.containerView (.declared name as) k =
      (h.view (genericType name e.params) container).map fun v =>
        if as.length = e.params.length then v.substitute (e.params.zip as) else v.erasure := by
  simp only [containerView, hd.find?_known hf, Option.bind_eq_bind, Option.bind_some,
    viewFor_entryOf hk hf, params_entryOf hf]
  cases h.view (genericType name e.params) container with
  | none => rfl
  | some v => rw [Option.bind_some, Option.map_some, ← apply_ite some]

theorem Describes.containerView_eq_view (hd : c.Describes h) (hw : h.WellDeclared)
    (hk : k.container? = some container) (hf : h.find? name = some e)
    (hl : as.length = e.params.length) :
    c.containerView (.declared name as) k = h.view (.declared name as) container := by
  have hp : e.params.Nodup := Hierarchy.typeParameters_of_find? hf ▸ hw.distinct name
  -- the class itself is an instance of the type whose view is kept
  have hgen : (genericType name e.params).substitute (e.params.zip as) = .declared name as := by
    rw [genericType, substitute_declared, map_substitute_zip_var hp hl]
  simp only [hd.containerView_known hk hf, if_pos hl]
  rw [← hgen]
  exact (Hierarchy.view_substitute hw.classes hw.ownVariables (isClass_declared _ _) _ _).symm

/-- A type whose arguments do not fit is seen as the erased view that the hierarchy gives. -/
theorem Describes.containerView_misfit (hd : c.Describes h) (hc : h.ClassSupertypes)
    (hk : k.container? = some container) (hf : h.find? name = some e)
    (hl : as.length ≠ e.params.length) :
    c.containerView (.declared name as) k =
      (h.view (.declared name as) container).map erasure := by
  simp only [hd.containerView_known hk hf, if_neg hl]
  exact Hierarchy.view_map_erasure_congr hc name container _ as

theorem Describes.containerView_unknown (hd : c.Describes h) (hf : h.find? name = none) :
    c.containerView (.declared name as) k = none := by
  simp only [containerView, hd.find?_unknown hf]
  rfl

end CapabilityCatalog

namespace Universe

variable {m : Manifest} {u : Universe}

theorem contains_platform (hu : ofManifest m = .ok u) {name : String}
    (hn : name ∈ Platform.types.map (·.name)) : u.hierarchy.contains name = true := by
  rw [ofManifest] at hu
  split at hu
  · cases hu
  · cases hu
    exact Hierarchy.contains_foldl
      (fun _ _ hn => Hierarchy.contains_declare_of_contains hn _ _ _) m.types
      (Hierarchy.contains_platform hn)

theorem contains_marker (hu : ofManifest m = .ok u) {k : Capability} {marker : String}
    (hk : k.marker? = some marker) : u.hierarchy.contains marker = true := by
  cases k with
  | transferable | opaqueSerializable =>
      cases hk
      exact contains_platform hu (by decide)
  | orderedList | sparseIndexed => cases hk

theorem exists_catalog (hu : ofManifest m = .ok u) :
    ∃ c, CapabilityCatalog.build u.host = .ok c ∧ c.Describes u.hierarchy :=
  CapabilityCatalog.exists_build (contains_platform hu (by decide))
    (contains_platform hu (by decide)) (contains_platform hu (by decide))
    (contains_platform hu (by decide))

/-- The catalog answers as the host does: capabilities of markers for every type, and views for
every known type with one argument for each parameter. -/
theorem exists_catalog_agreeing (hu : ofManifest m = .ok u) (hw : u.hierarchy.WellDeclared) :
    ∃ c, CapabilityCatalog.build u.host = .ok c ∧
      (∀ t, c.has t .transferable = u.host.isAssignable t (.declared Platform.parcelable []) ∧
        c.has t .opaqueSerializable =
          u.host.isAssignable t (.declared Platform.serializable [])) ∧
      ∀ name as, u.hierarchy.contains name = true →
        as.length = (u.host.typeParameters name).length →
        c.containerView (.declared name as) .orderedList =
            u.host.view (.declared name as) Platform.arrayList ∧
          c.containerView (.declared name as) .sparseIndexed =
            u.host.view (.declared name as) Platform.sparseArray := by
  obtain ⟨c, hb, hd⟩ := exists_catalog hu
  refine ⟨c, hb, fun t => ⟨?_, ?_⟩, fun name as hn hl => ?_⟩
  · exact hd.has_eq_isAssignable hw.classes rfl (contains_marker hu (k := .transferable) rfl) t
  · exact hd.has_eq_isAssignable hw.classes rfl
      (contains_marker hu (k := .opaqueSerializable) rfl) t
  · obtain ⟨e, hf⟩ := Hierarchy.contains_iff.mp hn
    have hl : as.length = e.params.length := by
      rw [hl, ← Hierarchy.typeParameters_of_find? hf]
      rfl
    exact ⟨hd.containerView_eq_view hw rfl hf hl, hd.containerView_eq_view hw rfl hf hl⟩

def shelves : Manifest where
  types := [
    { name := "a.Item", supertypes := [.declared "android.os.Parcelable" []] },
    { name := "a.Shelf", typeParams := ["E"],
      supertypes := [.declared "a.Rack" [.var "E", .declared "java.util.ArrayList" [.var "E"]]] },
    { name := "a.Rack", typeParams := ["K", "V"],
      supertypes := [.declared "a.Shelf" [.var "V"], .declared "java.util.ArrayList" [.var "V"]] }]

theorem wellDeclared_shelves : (shelves.types.foldl declare Hierarchy.platform).WellDeclared :=
  .of_entries (by decide +kernel)

theorem find?_shelves :
    let h := shelves.types.foldl declare Hierarchy.platform
    h.find? "a.Item" = some ⟨[], [.declared "android.os.Parcelable" []]⟩ ∧
      h.find? "a.Shelf" = some ⟨["E"],
        [.declared "a.Rack" [.var "E", .declared "java.util.ArrayList" [.var "E"]]]⟩ ∧
      h.find? "a.Rack" = some ⟨["K", "V"],
        [.declared "a.Shelf" [.var "V"], .declared "java.util.ArrayList" [.var "V"]]⟩ := by
  decide +kernel

theorem shelf_of_items_agrees :
    ∃ u, ofManifest shelves = .ok u ∧ u.hierarchy.WellDeclared ∧
      ∃ c, CapabilityCatalog.build u.host = .ok c ∧
        c.containerView (.declared "a.Shelf" [.declared "a.Item" []]) .orderedList =
          some (.declared "java.util.ArrayList"
            [.declared "java.util.ArrayList" [.declared "a.Item" []]]) ∧
        c.has (.wildcardExtends (.declared "a.Item" [])) .transferable = true := by
  obtain ⟨c, hb, hhas, hview⟩ := exists_catalog_agreeing (m := shelves) rfl wellDeclared_shelves
  have hlists : (shelves.types.foldl declare Hierarchy.platform).view
      (.declared "a.Shelf" [.declared "a.Item" []]) "java.util.ArrayList" =
        some (.declared "java.util.ArrayList"
          [.declared "java.util.ArrayList" [.declared "a.Item" []]]) := by
    obtain ⟨_, hshelf, hrack⟩ := find?_shelves
    generalize shelves.types.foldl declare Hierarchy.platform = h at hshelf hrack
    simp [Hierarchy.view, Hierarchy.search_declared, hshelf, hrack, TypeEntry.supertypesOf,
      TypeEntry.fits, substitute, substituteAll, List.lookup_cons]
  have hitem : (shelves.types.foldl declare Hierarchy.platform).isAssignable
      (.declared "a.Item" []) (.declared Platform.parcelable []) = true := by
    obtain ⟨hitem, _⟩ := find?_shelves
    generalize shelves.types.foldl declare Hierarchy.platform = h at hitem
    rw [Hierarchy.isAssignable_raw (by decide)]
    simp [Hierarchy.view, Hierarchy.search_declared, hitem, TypeEntry.supertypesOf, TypeEntry.fits,
      substitute, substituteAll, Platform.parcelable]
  refine ⟨_, rfl, wellDeclared_shelves, c, hb, ?_, ?_⟩
  · rw [(hview "a.Shelf" [.declared "a.Item" []] (by decide +kernel) (by decide +kernel)).1]
    exact hlists
  · rw [(hhas _).1]
    exact (Hierarchy.isAssignable_wildcardExtends (by decide) _).trans hitem

end Universe

end Companion
