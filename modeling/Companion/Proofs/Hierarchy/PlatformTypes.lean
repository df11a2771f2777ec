import Companion.Hierarchy.Basic
import Companion.Proofs.Hierarchy.Entries
import Companion.Proofs.Hierarchy.Reach

namespace Companion.Hierarchy

open HostType Relation

variable {h : Hierarchy} {a b n target : String}

def platformRank (name : String) : Nat := Platform.types.findIdx (·.name == name)

structure PlatformSupertype (a : String) (e : TypeEntry) (t : HostType) (b : String) : Prop where
  earlier : platformRank b < platformRank a
  generic : t.vars ≠ [] → platform.typeParameters b ≠ []
  first : platform.typeParameters b ≠ [] →
    e.params ≠ [] ∧ (platform.typeParameters b).length = e.params.length ∧
      e.supertypes.head? = some (.declared b (e.params.map .var))

structure PlatformEntry (a : String) (e : TypeEntry) : Prop where
  distinct : e.params.Nodup
  listed : ∃ t ∈ Platform.types, t.name = a
  arity : ∀ t ∈ Platform.types, t.name = a → e.params.length = t.arity ∧ t.arity ≤ 2
  classes : ∀ t ∈ e.supertypes, t.IsClass
  supertypes : ∀ t ∈ e.supertypes, ∀ b ∈ t.rawName?, PlatformSupertype a e t b

/-- The table of platform types is evaluated here, and nowhere else. -/
theorem platform_entries : ∀ p ∈ platform.entries,
    p.2.params.Nodup ∧
      (∃ t ∈ Platform.types, t.name = p.1) ∧
      (∀ t ∈ Platform.types, t.name = p.1 → p.2.params.length = t.arity ∧ t.arity ≤ 2) ∧
      (∀ t ∈ p.2.supertypes, t.IsClass) ∧
      ∀ t ∈ p.2.supertypes, ∀ b ∈ t.rawName?,
        platformRank b < platformRank p.1 ∧
        (t.vars ≠ [] → platform.typeParameters b ≠ []) ∧
        (platform.typeParameters b ≠ [] →
          p.2.params ≠ [] ∧ (platform.typeParameters b).length = p.2.params.length ∧
            p.2.supertypes.head? = some (.declared b (p.2.params.map .var))) := by
  decide +kernel

theorem platformEntry_of_find? {e : TypeEntry} (hf : platform.find? a = some e) :
    PlatformEntry a e := by
  obtain ⟨hdistinct, hlisted, harity, hclasses, hsupertypes⟩ :=
    platform_entries _ (mem_of_find? hf)
  refine ⟨hdistinct, hlisted, harity, hclasses, fun t ht b hb => ?_⟩
  obtain ⟨hearlier, hgeneric, hfirst⟩ := hsupertypes t ht b hb
  exact ⟨hearlier, hgeneric, hfirst⟩

theorem classSupertypes_platform : platform.ClassSupertypes := by
  intro name t ht
  obtain ⟨e, hf, hmem⟩ := exists_find?_of_mem ht
  exact (platformEntry_of_find? hf).classes t hmem

theorem nodup_typeParameters_platform (n : String) : (platform.typeParameters n).Nodup := by
  cases hf : platform.find? n with
  | none => simp [typeParameters, hf]
  | some e =>
      rw [typeParameters_of_find? hf]
      exact (platformEntry_of_find? hf).distinct

theorem length_typeParameters_platform {t : PlatformType} (ht : t ∈ Platform.types) :
    (platform.typeParameters t.name).length = t.arity := by
  obtain ⟨e, hf⟩ := contains_iff.mp (contains_platform (List.mem_map_of_mem ht))
  rw [typeParameters_of_find? hf]
  exact ((platformEntry_of_find? hf).arity t ht rfl).1

theorem exists_platformType (hn : platform.typeParameters n ≠ []) :
    ∃ t ∈ Platform.types, t.name = n ∧ t.arity ≤ 2 := by
  cases hf : platform.find? n with
  | none => simp [typeParameters, hf] at hn
  | some e =>
      obtain ⟨t, ht, htn⟩ := (platformEntry_of_find? hf).listed
      exact ⟨t, ht, htn, ((platformEntry_of_find? hf).arity t ht htn).2⟩

theorem platformRank_lt_of_below (hab : platform.Below a b) : platformRank b < platformRank a := by
  obtain ⟨t, ht, hn⟩ := hab
  obtain ⟨e, hf, hmem⟩ := exists_find?_of_mem ht
  exact ((platformEntry_of_find? hf).supertypes t hmem b hn).earlier

theorem mem_types_of_below (hab : platform.Below a b) : b ∈ Platform.types.map (·.name) := by
  have hlt : platformRank b < Platform.types.length :=
    (platformRank_lt_of_below hab).trans_le List.findIdx_le_length
  obtain ⟨t, ht, hname⟩ := List.findIdx_lt_length.mp hlt
  exact List.mem_map.mpr ⟨t, ht, eq_of_beq hname⟩

theorem head_directSupertypes (hab : platform.Below a b) (hb : platform.typeParameters b ≠ []) :
    platform.typeParameters a ≠ [] ∧
      (platform.typeParameters b).length = (platform.typeParameters a).length ∧
      ∃ others, platform.directSupertypes a =
        .declared b ((platform.typeParameters a).map .var) :: others := by
  obtain ⟨t, ht, hn⟩ := hab
  obtain ⟨e, hf, hmem⟩ := exists_find?_of_mem ht
  obtain ⟨hparams, hlength, hhead⟩ := ((platformEntry_of_find? hf).supertypes t hmem b hn).first hb
  rw [typeParameters_of_find? hf, directSupertypes_of_find? hf]
  exact ⟨hparams, hlength, List.head?_eq_some_iff.mp hhead⟩

theorem exists_below_of_vars (ht : ∃ t ∈ platform.directSupertypes a, t.vars ≠ []) :
    ∃ b, platform.Below a b ∧ platform.typeParameters b ≠ [] := by
  obtain ⟨t, ht, hvars⟩ := ht
  obtain ⟨e, hf, hmem⟩ := exists_find?_of_mem ht
  obtain ⟨b, as, rfl⟩ := ((platformEntry_of_find? hf).classes t hmem).eq_declared
  exact ⟨b, ⟨_, ht, rfl⟩, ((platformEntry_of_find? hf).supertypes _ hmem b rfl).generic hvars⟩

theorem typeParameters_ne_nil_of_reaches (hr : platform.Reaches a b)
    (hb : platform.typeParameters b ≠ []) :
    platform.typeParameters a ≠ [] ∧
      (platform.typeParameters b).length = (platform.typeParameters a).length := by
  induction hr using ReflTransGen.head_induction_on with
  | refl => exact ⟨hb, rfl⟩
  | head hac _ ih =>
      obtain ⟨ha, hlength, _⟩ := head_directSupertypes hac ih.1
      exact ⟨ha, ih.2.trans hlength⟩

theorem exists_find?_of_prefix {t : HostType} {others : List HostType}
    (hp : t :: others <+: h.directSupertypes n) :
    ∃ e added, h.find? n = some e ∧ e.supertypes = t :: added := by
  obtain ⟨e, hf, _⟩ := exists_find?_of_mem (hp.subset List.mem_cons_self)
  rw [directSupertypes_of_find? hf] at hp
  obtain ⟨added, hadded⟩ := hp
  exact ⟨e, others ++ added, hf, hadded.symm⟩

theorem search_first {e : TypeEntry} {as ts added : List HostType} {seen : List String}
    (hn : n ≠ target) (hf : h.find? n = some e) (hs : e.supertypes = .declared a ts :: added)
    (hfits : e.fits as = true) (hfresh : n ∉ seen) (rest : List HostType) :
    ∃ pending, h.search target (.declared n as :: rest) seen =
      h.search target (.declared a (ts.map (substitute (e.params.zip as))) :: pending)
        (n :: seen) := by
  rw [search_known hn hf hfresh, TypeEntry.supertypesOf, if_pos hfits, hs, List.map_cons,
    List.cons_append, substitute_declared]
  exact ⟨_, rfl⟩

/-- All direct supertypes of the platform come first, with the parameters that they mention. -/
structure KeepsPlatform (h : Hierarchy) : Prop where
  supertypes : ∀ n, platform.directSupertypes n <+: h.directSupertypes n
  parameters : ∀ n, (∃ t ∈ platform.directSupertypes n, t.vars ≠ []) →
    h.typeParameters n = platform.typeParameters n

theorem keepsPlatform_platform : platform.KeepsPlatform where
  supertypes _ := List.prefix_rfl
  parameters _ _ := rfl

theorem KeepsPlatform.below (hk : h.KeepsPlatform) (hab : platform.Below a b) : h.Below a b := by
  obtain ⟨t, ht, hn⟩ := hab
  exact ⟨t, (hk.supertypes a).subset ht, hn⟩

/-- The search goes up the first supertypes until it meets the target: names that come up later were
not visited before. -/
theorem KeepsPlatform.search_eq (hk : h.KeepsPlatform) (hr : platform.Reaches n target)
    (htarget : platform.typeParameters target ≠ []) {as : List HostType}
    (hl : as.length = (platform.typeParameters n).length) (rest : List HostType)
    {seen : List String} (hseen : ∀ m ∈ seen, platformRank n < platformRank m) :
    h.search target (.declared n as :: rest) seen = some (.declared target as) := by
  induction hr using ReflTransGen.head_induction_on generalizing rest seen with
  | refl => exact search_target h target as rest seen
  | @head n c hnc hr ih =>
      by_cases hn : n = target
      · rw [hn]
        exact search_target h target as rest seen
      obtain ⟨hc, _⟩ := typeParameters_ne_nil_of_reaches hr htarget
      obtain ⟨hparams, hlength, others, hothers⟩ := head_directSupertypes hnc hc
      have hsame : h.typeParameters n = platform.typeParameters n := by
        refine hk.parameters n ⟨_, by rw [hothers]; exact List.mem_cons_self, ?_⟩
        simpa [vars, varsAll_eq_flatMap] using List.exists_mem_of_ne_nil _ hparams
      have hfirst := hk.supertypes n
      rw [hothers] at hfirst
      obtain ⟨e, added, hf, hsupertypes⟩ := exists_find?_of_prefix hfirst
      rw [typeParameters_of_find? hf] at hsame
      have hfits : e.fits as = true := by rw [TypeEntry.fits, hsame, hl, beq_self_eq_true]
      -- the ranks grow on the way up, so nothing above has been visited yet
      have hfresh : n ∉ seen := fun hmem => Nat.lt_irrefl _ (hseen n hmem)
      obtain ⟨rest, hstep⟩ := search_first hn hf hsupertypes hfits hfresh rest
      rw [hstep, hsame, map_substitute_zip_var (nodup_typeParameters_platform n) hl]
      refine ih (hl.trans hlength.symm) _ fun m hm => ?_
      have hrank := platformRank_lt_of_below hnc
      rcases List.mem_cons.mp hm with rfl | hm
      · exact hrank
      · exact hrank.trans (hseen m hm)

theorem KeepsPlatform.view_eq (hk : h.KeepsPlatform) (hr : platform.Reaches n target)
    (htarget : platform.typeParameters target ≠ []) {as : List HostType}
    (hl : as.length = (platform.typeParameters n).length) :
    h.view (.declared n as) target = some (.declared target as) :=
  hk.search_eq hr htarget hl [] fun _ hm => absurd hm List.not_mem_nil

end Companion.Hierarchy
