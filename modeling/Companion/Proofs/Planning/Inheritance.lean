import Companion.Proofs.Hierarchy.Reach
import Companion.Proofs.Planning.Catalog

namespace Companion

open HostType Relation

namespace Capability

def className : Capability → String
  | transferable => Platform.parcelable
  | opaqueSerializable => Platform.serializable
  | orderedList => Platform.arrayList
  | sparseIndexed => Platform.sparseArray

theorem marker_or_container (k : Capability) :
    k.marker? = some k.className ∨ k.container? = some k.className := by
  cases k with
  | transferable | opaqueSerializable => exact .inl rfl
  | orderedList | sparseIndexed => exact .inr rfl

theorem className_ne_object (k : Capability) : k.className ≠ Platform.object := by
  rcases k.marker_or_container with hk | hk
  · exact marker_ne_object hk
  · exact container_ne_object hk

end Capability

namespace Hierarchy

variable {h : Hierarchy} {a b : String} {as bs : List HostType}

theorem Reaches.eq_of_no_supertypes (hr : h.Reaches a b) (ha : h.directSupertypes a = []) :
    a = b := by
  rcases hr.cases_head with rfl | ⟨c, ⟨t, ht, -⟩, -⟩
  · rfl
  · rw [ha] at ht
    cases ht

theorem Reaches.eq_of_unknown (hr : h.Reaches a b) (ha : h.find? a = none) : a = b := by
  apply hr.eq_of_no_supertypes
  rw [directSupertypes, ha]
  rfl

/-- The arguments decide whether a class is assignable to another one, but only where a chain of
direct supertypes leads there. -/
theorem reaches_of_isAssignable (hc : h.ClassSupertypes) (hb : b ≠ Platform.object)
    (hab : h.isAssignable (.declared a as) (.declared b bs) = true) : h.Reaches a b := by
  rw [isAssignable_declared hb] at hab
  apply (isSome_view_iff_reaches hc a b as).mp
  cases hv : h.view (.declared a as) b with
  | some v => rfl
  | none =>
      rw [hv] at hab
      cases hab

end Hierarchy

namespace CapabilityCatalog

variable {c : CapabilityCatalog} {h : Hierarchy} {name : String} {e : TypeEntry}

theorem has_entryOf_eq_isSome (h : Hierarchy) (name : String) (k : Capability) :
    (entryOf h name).capabilities.has k =
      (h.view (genericType name (h.typeParameters name)) k.className).isSome := by
  cases k with
  | transferable | opaqueSerializable =>
      rw [has_entryOf rfl, genericType, Hierarchy.isAssignable_raw (by decide)]
      rfl
  | orderedList | sparseIndexed => rfl

theorem Describes.has_known (hd : c.Describes h) (hf : h.find? name = some e) (as : List HostType)
    (k : Capability) :
    c.has (.declared name as) k = (entryOf h name).capabilities.has k := by
  rw [has, capabilities, hd.find?_known hf]
  rfl

theorem Describes.has_unknown (hd : c.Describes h) (hf : h.find? name = none) (as : List HostType)
    (k : Capability) : c.has (.declared name as) k = false := by
  rw [has, capabilities, hd.find?_unknown hf]
  cases k <;> rfl

theorem Describes.has_iff_reaches (hd : c.Describes h) (hc : h.ClassSupertypes) {k : Capability}
    (hk : h.contains k.className = true) (name : String) (as : List HostType) :
    c.has (.declared name as) k = true ↔ h.Reaches name k.className := by
  cases hf : h.find? name with
  | some e =>
      rw [hd.has_known hf, has_entryOf_eq_isSome, genericType,
        Hierarchy.isSome_view_iff_reaches hc]
  | none =>
      rw [hd.has_unknown hf]
      refine iff_of_false Bool.false_ne_true fun hr => ?_
      obtain rfl := hr.eq_of_unknown hf
      rw [Hierarchy.contains, hf] at hk
      cases hk

theorem Describes.has_of_isAssignable (hd : c.Describes h) (hc : h.ClassSupertypes)
    (hroot : h.directSupertypes Platform.object = []) {k : Capability}
    (hk : h.contains k.className = true) {a b : String} {as bs : List HostType}
    (hab : h.isAssignable (.declared a as) (.declared b bs) = true)
    (hb : c.has (.declared b bs) k = true) : c.has (.declared a as) k = true := by
  rw [hd.has_iff_reaches hc hk] at hb ⊢
  -- everything is assignable to the root class, which itself has no capability
  by_cases hobject : b = Platform.object
  · subst hobject
    exact absurd (hb.eq_of_no_supertypes hroot).symm k.className_ne_object
  · exact (Hierarchy.reaches_of_isAssignable hc hobject hab).trans hb

end CapabilityCatalog

namespace Universe

variable {m : Manifest} {u : Universe}

theorem contains_className (hu : ofManifest m = .ok u) (k : Capability) :
    u.hierarchy.contains k.className = true := by
  cases k with
  | transferable | opaqueSerializable | orderedList | sparseIndexed =>
      exact contains_platform hu (by decide)

/-- A class has every capability of the classes that it is assignable to, whatever arguments are
given on either side and whether or not the classes are known; all that is asked of the manifest is
that supertypes are classes and that the root class stays the root. -/
theorem capabilities_are_inherited (hu : ofManifest m = .ok u)
    (hc : u.hierarchy.ClassSupertypes)
    (hroot : u.hierarchy.directSupertypes Platform.object = []) :
    ∃ c, CapabilityCatalog.build u.host = .ok c ∧
      ∀ a as b bs, u.host.isAssignable (.declared a as) (.declared b bs) = true →
        ∀ k, c.has (.declared b bs) k = true → c.has (.declared a as) k = true := by
  obtain ⟨c, hb, hd⟩ := exists_catalog hu
  refine ⟨c, hb, fun a as b bs hab k hk => ?_⟩
  exact hd.has_of_isAssignable hc hroot (contains_className hu k) hab hk

/-- A generic list of parcels, and a class that is below it and above it. -/
def crates : Manifest where
  types := [
    { name := "a.Crate", typeParams := ["E"],
      supertypes := [.declared "a.Basket" [.var "E"], .declared "java.util.ArrayList" [.var "E"],
        .declared "android.os.Parcelable" []] },
    { name := "a.Basket", typeParams := ["E"],
      supertypes := [.declared "a.Crate" [.array (.var "E")]] }]

theorem wellDeclared_crates : (crates.types.foldl declare Hierarchy.platform).WellDeclared :=
  .of_entries (by decide +kernel)

theorem basket_has_what_crate_has :
    ∃ u, ofManifest crates = .ok u ∧ u.hierarchy.ClassSupertypes ∧
      u.hierarchy.directSupertypes Platform.object = [] ∧
      ∃ c, CapabilityCatalog.build u.host = .ok c ∧
        c.has (.declared "a.Basket" []) .orderedList = true ∧
        c.has (.declared "a.Basket" [.wildcard, .wildcard]) .transferable = true := by
  have hroot : (crates.types.foldl declare Hierarchy.platform).directSupertypes Platform.object =
      [] := by decide +kernel
  obtain ⟨c, hb, hinherited⟩ :=
    capabilities_are_inherited (m := crates) rfl wellDeclared_crates.classes hroot
  obtain ⟨c', hb', hd⟩ := exists_catalog (m := crates) rfl
  obtain rfl : c' = c := Except.ok.inj (hb'.symm.trans hb)
  have hcrate : ∀ k : Capability, k = .orderedList ∨ k = .transferable →
      c'.has (.declared "a.Crate" [.declared "java.lang.String" []]) k = true := by
    rintro k hk
    apply (hd.has_iff_reaches wellDeclared_crates.classes
      (contains_className (m := crates) rfl k) _ _).mpr
    apply ReflTransGen.single
    rcases hk with rfl | rfl
    · exact ⟨.declared "java.util.ArrayList" [.var "E"], by decide +kernel, rfl⟩
    · exact ⟨.declared "android.os.Parcelable" [], by decide +kernel, rfl⟩
  have hbasket : ∀ as : List HostType, as.length ≠ 1 →
      (crates.types.foldl declare Hierarchy.platform).isAssignable (.declared "a.Basket" as)
        (.declared "a.Crate" [.declared "java.lang.String" []]) = true := by
    intro as has
    have hfind : (crates.types.foldl declare Hierarchy.platform).find? "a.Basket" =
        some ⟨["E"], [.declared "a.Crate" [.array (.var "E")]]⟩ := by decide +kernel
    generalize crates.types.foldl declare Hierarchy.platform = h at hfind
    rw [Hierarchy.isAssignable_declared (by decide)]
    simp [Hierarchy.view, Hierarchy.search_declared, hfind, TypeEntry.supertypesOf, TypeEntry.fits,
      has, erasure, args]
  refine ⟨_, rfl, wellDeclared_crates.classes, hroot, c', hb, ?_, ?_⟩
  · exact hinherited _ _ _ _ (hbasket [] (by decide)) _ (hcrate .orderedList (.inl rfl))
  · exact hinherited _ _ _ _ (hbasket [.wildcard, .wildcard] (by decide)) _
      (hcrate .transferable (.inr rfl))

end Universe

end Companion
