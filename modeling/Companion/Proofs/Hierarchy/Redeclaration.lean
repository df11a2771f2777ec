import Companion.Proofs.Hierarchy.Grounds
import Companion.Proofs.Hierarchy.PlatformTypes

namespace Companion

/-- Written with platform types only, each with one argument for each of its parameters. -/
inductive HostType.OnPlatform : HostType → Prop
  | primitive (p) : OnPlatform (.primitive p)
  | declared {n as t} : t ∈ Platform.types → t.name = n → as.length = t.arity →
      (∀ a ∈ as, OnPlatform a) → OnPlatform (.declared n as)
  | array {c} : OnPlatform c → OnPlatform (.array c)
  | wildcard : OnPlatform .wildcard
  | wildcardExtends {u} : OnPlatform u → OnPlatform (.wildcardExtends u)
  | var (v) : OnPlatform (.var v)

namespace Hierarchy

open HostType

variable {h : Hierarchy} {a slot t u : HostType} {as bs : List HostType}
  {r : HostType → HostType → Prop}

theorem length_args_of_onPlatform {n : String} (hn : (HostType.declared n as).OnPlatform) :
    as.length = (platform.typeParameters n).length := by
  cases hn with
  | declared ht hname hl has => rw [hl, ← hname, length_typeParameters_platform ht]

theorem Fits.onPlatform (ha : a.OnPlatform) (hs : slot.OnPlatform)
    (hfits : Fits (fun t u => t.OnPlatform → u.OnPlatform → r t u) a slot) : Fits r a slot := by
  cases hs with
  | wildcardExtends hbound =>
      cases ha with
      | wildcardExtends hupper => exact hfits hupper hbound
      | wildcard => exact hfits
      | primitive p => exact hfits (.primitive p) hbound
      | declared ht hn hl has => exact hfits (.declared ht hn hl has) hbound
      | array hc => exact hfits (.array hc) hbound
      | var v => exact hfits (.var v) hbound
  | primitive | declared | array | wildcard | var => exact hfits

theorem forall₂_fits_onPlatform (has : ∀ a ∈ as, a.OnPlatform) (hbs : ∀ b ∈ bs, b.OnPlatform)
    (hfits : List.Forall₂ (Fits fun t u => t.OnPlatform → u.OnPlatform → r t u) as bs) :
    List.Forall₂ (Fits r) as bs := by
  induction hfits with
  | nil => exact .nil
  | cons ha _ ih =>
      obtain ⟨ha', has⟩ := List.forall_mem_cons.mp has
      obtain ⟨hb, hbs⟩ := List.forall_mem_cons.mp hbs
      exact .cons (ha.onPlatform ha' hb) (ih has hbs)

/-- Where the platform is kept, its assignments are: a generic target is met with the same
arguments, and any other target needs to be met only. -/
theorem KeepsPlatform.isAssignable (hk : h.KeepsPlatform) (ht : t.OnPlatform) (hu : u.OnPlatform)
    (ha : platform.isAssignable t u = true) : h.isAssignable t u = true := by
  refine assignable_induction
    (motive := fun t u => t.OnPlatform → u.OnPlatform → h.isAssignable t u = true) ?_ ha ht hu
  intro t u hground ht hu
  apply isAssignable_of_ground
  cases hground with
  | same => exact .same _
  | object hp => exact .object hp
  | arrayClass hn => exact .arrayClass hn
  | covariant hc =>
      cases ht with
      | array ht =>
          cases hu with
          | array hu => exact .covariant (hc ht hu)
  | bounded hp hw =>
      cases ht with
      | wildcardExtends ht => exact .bounded hp (hw ht hu)
  | @viewed n as name bs v hview hargs =>
      have hr : platform.Reaches n name :=
        (isSome_view_iff_reaches classSupertypes_platform n name as).mp (by rw [hview]; rfl)
      -- a raw target needs to be met only, and a generic one with the same arguments
      by_cases hbs : bs = []
      · obtain ⟨w, hw⟩ := Option.isSome_iff_exists.mp
          (isSome_view_of_reaches (hr.mono fun _ _ => hk.below) as)
        exact .viewed hw (.inl hbs)
      · have hgeneric : platform.typeParameters name ≠ [] := by
          rw [← List.length_pos_iff, ← length_args_of_onPlatform hu, List.length_pos_iff]
          exact hbs
        have hl := length_args_of_onPlatform ht
        rw [keepsPlatform_platform.view_eq hr hgeneric hl] at hview
        cases hview
        refine .viewed (hk.view_eq hr hgeneric hl) (hargs.imp_right fun hargs => ?_)
        cases ht with
        | declared _ _ _ has =>
            cases hu with
            | declared _ _ _ hbs => exact hargs.imp_right (forall₂_fits_onPlatform has hbs)

theorem Fits.eq_of_isClass (hs : slot.IsClass) (hfits : Fits r a slot) : a = slot := by
  obtain ⟨n, as, rfl⟩ := hs.eq_declared
  exact hfits

theorem eq_of_forall₂_fits (hbs : ∀ b ∈ bs, b.IsClass) (hfits : List.Forall₂ (Fits r) as bs) :
    as = bs := by
  induction hfits with
  | nil => rfl
  | cons ha _ ih =>
      obtain ⟨hb, hbs⟩ := List.forall_mem_cons.mp hbs
      rw [ha.eq_of_isClass hb, ih hbs]

theorem typeParameters_of_isAssignable {n name : String}
    (hsup : platform.directSupertypes n <+: h.directSupertypes n) (hbelow : platform.Below n name)
    (hgeneric : platform.typeParameters name ≠ [])
    (hl : as.length = (h.typeParameters n).length)
    (hplatform : as.length = (platform.typeParameters n).length)
    (hclass : ∀ a ∈ as, a.IsClass) (hnodup : as.Nodup)
    (ha : h.isAssignable (.declared n as) (.declared name as) = true) :
    h.typeParameters n = platform.typeParameters n := by
  obtain ⟨hparams, _, others, hothers⟩ := head_directSupertypes hbelow hgeneric
  rw [hothers] at hsup
  obtain ⟨e, added, hf, hs⟩ := exists_find?_of_prefix hsup
  rw [typeParameters_of_find? hf] at hl ⊢
  have hne : n ≠ name := fun heq => by
    have hrank := platformRank_lt_of_below hbelow
    rw [heq] at hrank
    exact Nat.lt_irrefl _ hrank
  have hargs : as ≠ [] := by
    rw [← List.length_pos_iff, hplatform, List.length_pos_iff]
    exact hparams
  have hfits : e.fits as = true := by rw [TypeEntry.fits, hl, beq_self_eq_true]
  obtain ⟨pending, hstep⟩ := search_first hne hf hs hfits List.not_mem_nil []
  rw [search_target] at hstep
  -- from here on the platform's parameters are any names, not a table to look up
  generalize platform.typeParameters n = names at hparams hstep ⊢
  cases ground_of_isAssignable ha with
  | same => exact absurd rfl hne
  | object => exact absurd rfl hargs
  | viewed hview hground =>
      rw [view, hstep] at hview
      cases hview
      rcases hground with hnil | hraw | hfits
      · exact absurd hnil hargs
      · simp [args, hparams] at hraw
      · have hvar : ∀ v, var v ∉ as := fun v hv => by cases hclass _ hv
        exact (eq_of_map_substitute_zip_var hl hnodup hvar (eq_of_forall₂_fits hclass hfits)).symm

def distinctClasses (count : Nat) : List HostType :=
  ([Platform.string, Platform.number].take count).map (.declared · [])

theorem length_distinctClasses {count : Nat} (hc : count ≤ 2) :
    (distinctClasses count).length = count := by
  simpa [distinctClasses] using hc

theorem nodup_distinctClasses (count : Nat) : (distinctClasses count).Nodup := by
  rw [distinctClasses, List.map_take]
  exact List.Nodup.sublist (List.take_sublist _ _) (by decide)

theorem exists_platformType_of_mem_distinctClasses {count : Nat} (ha : a ∈ distinctClasses count) :
    ∃ t ∈ Platform.types, t.arity = 0 ∧ a = .declared t.name [] := by
  obtain ⟨n, hn, rfl⟩ := List.mem_map.mp ha
  have hall : ∀ n ∈ [Platform.string, Platform.number],
      ∃ t ∈ Platform.types, t.arity = 0 ∧ t.name = n := by decide +kernel
  obtain ⟨t, ht, harity, rfl⟩ := hall n (List.mem_of_mem_take hn)
  exact ⟨t, ht, harity, rfl⟩

theorem isClass_of_mem_distinctClasses {count : Nat} (ha : a ∈ distinctClasses count) :
    a.IsClass := by
  obtain ⟨t, _, _, rfl⟩ := exists_platformType_of_mem_distinctClasses ha
  exact isClass_declared t.name []

variable {n name : String}

theorem length_distinctClasses_platform (hn : platform.typeParameters n ≠ []) :
    (distinctClasses (platform.typeParameters n).length).length =
      (platform.typeParameters n).length := by
  obtain ⟨t, ht, rfl, htwo⟩ := exists_platformType hn
  exact length_distinctClasses (length_typeParameters_platform ht ▸ htwo)

theorem onPlatform_distinctClasses (hn : platform.typeParameters n ≠ []) :
    (HostType.declared n (distinctClasses (platform.typeParameters n).length)).OnPlatform := by
  obtain ⟨t, ht, rfl, _⟩ := exists_platformType hn
  refine .declared ht rfl ?_ fun a ha => ?_
  · rw [length_distinctClasses_platform hn, length_typeParameters_platform ht]
  · obtain ⟨s, hs, harity, rfl⟩ := exists_platformType_of_mem_distinctClasses ha
    exact .declared hs rfl harity.symm (by simp)

theorem isAssignable_platform (hr : platform.Reaches n name)
    (hgeneric : platform.typeParameters name ≠ [])
    (hl : as.length = (platform.typeParameters n).length) :
    platform.isAssignable (.declared n as) (.declared name as) = true := by
  refine isAssignable_of_ground
    (.viewed (keepsPlatform_platform.view_eq hr hgeneric hl) (.inr (.inr ?_)))
  exact List.forall₂_same.mpr fun a _ => Fits.refl (isAssignable_self platform) a

end Hierarchy

namespace Universe

open Hierarchy

variable {m : Manifest} {u : Universe} {d : Declaration}

theorem prefix_directSupertypes (hu : ofManifest m = .ok u) (name : String) :
    platform.directSupertypes name <+: u.hierarchy.directSupertypes name := by
  rw [directSupertypes_eq, directSupertypes_eq, entry_hierarchy hu]
  exact TypeEntry.prefix_foldl_extend _ _

theorem typeParameters_of_mem (hu : ofManifest m = .ok u) (hd : d ∈ m.types)
    (hp : d.typeParams ≠ []) : u.hierarchy.typeParameters d.name = d.typeParams := by
  have hone := Manifest.filter_name_eq_singleton (ofManifest_ok_iff.mp hu).1 hd
  rw [typeParameters_eq, entry_hierarchy hu, hone]
  simp [TypeEntry.extend, hp]

theorem keepsPlatform_of_same_parameters (hu : ofManifest m = .ok u)
    (hsame : ∀ d ∈ m.types, (∃ t ∈ platform.directSupertypes d.name, t.vars ≠ []) →
      d.typeParams = [] ∨ d.typeParams = platform.typeParameters d.name) :
    u.hierarchy.KeepsPlatform where
  supertypes := prefix_directSupertypes hu
  parameters n ht := by
    rw [typeParameters_eq, typeParameters_eq, entry_hierarchy hu]
    refine TypeEntry.params_foldl_extend fun d hd => ?_
    obtain ⟨hmem, hname⟩ := List.mem_filter.mp hd
    obtain rfl : d.name = n := of_decide_eq_true hname
    rw [← typeParameters_eq]
    exact hsame d hmem ht

/-- Declaring platform types again extends the platform exactly if the parameters of those types
whose supertypes mention them keep their names. -/
theorem extends_platform_iff (hu : ofManifest m = .ok u)
    (hcount : ∀ d ∈ m.types, ∀ t ∈ Platform.types, d.name = t.name →
      d.typeParams = [] ∨ d.typeParams.length = t.arity) :
    (∀ a b, a.OnPlatform → b.OnPlatform → platform.isAssignable a b = true →
      u.host.isAssignable a b = true) ↔
    ∀ d ∈ m.types, (∃ t ∈ platform.directSupertypes d.name, t.vars ≠ []) →
      d.typeParams = [] ∨ d.typeParams = platform.typeParameters d.name := by
  constructor
  · intro hext d hd hvars
    by_cases hp : d.typeParams = []
    · exact .inl hp
    right
    obtain ⟨name, hbelow, hgeneric⟩ := exists_below_of_vars hvars
    have hr : platform.Reaches d.name name := .single hbelow
    obtain ⟨hgeneric', hsame⟩ := typeParameters_ne_nil_of_reaches hr hgeneric
    obtain ⟨t, ht, htn, _⟩ := exists_platformType hgeneric'
    have hparams := typeParameters_of_mem hu hd hp
    have hcount : d.typeParams.length = (platform.typeParameters d.name).length := by
      rw [(hcount d hd t ht htn.symm).resolve_left hp, ← htn, length_typeParameters_platform ht]
    -- different classes as arguments come through only where the names agree
    have hl := length_distinctClasses_platform hgeneric'
    have htarget := onPlatform_distinctClasses hgeneric
    rw [hsame] at htarget
    have hloaded := hext _ _ (onPlatform_distinctClasses hgeneric') htarget
      (isAssignable_platform hr hgeneric hl)
    rw [← hparams] at hcount ⊢
    exact typeParameters_of_isAssignable (prefix_directSupertypes hu d.name) hbelow hgeneric
      (hl.trans hcount.symm) hl (fun a ha => isClass_of_mem_distinctClasses ha)
      (nodup_distinctClasses _) hloaded
  · intro hsame a b ha hb hassign
    exact (keepsPlatform_of_same_parameters hu hsame).isAssignable ha hb hassign

def renamed : Manifest := { types := [{ name := Platform.arrayList, typeParams := ["E"] }] }

def marked : Manifest :=
  { types := [{ name := "a.Marker" },
      { name := Platform.arrayList, supertypes := [.declared "a.Marker" []] }] }

theorem find?_arrayList : platform.find? Platform.arrayList = some
    { params := ["T0"]
      supertypes := [.declared Platform.list [.var "T0"], .declared Platform.cloneable [],
        .declared Platform.serializable []] } := by
  decide +kernel

/-- Under the new name, a list of strings is no longer met above an array list of strings; a mere
addition loses nothing. -/
theorem renamed_array_list_loses_list :
    (∃ u, ofManifest renamed = .ok u ∧
      (∀ d ∈ renamed.types, ∀ t ∈ Platform.types, d.name = t.name →
        d.typeParams = [] ∨ d.typeParams.length = t.arity) ∧
      ¬∀ a b, a.OnPlatform → b.OnPlatform → platform.isAssignable a b = true →
        u.host.isAssignable a b = true) ∧
    ∃ u, ofManifest marked = .ok u ∧
      (∀ d ∈ marked.types, ∀ t ∈ Platform.types, d.name = t.name →
        d.typeParams = [] ∨ d.typeParams.length = t.arity) ∧
      ∀ a b, a.OnPlatform → b.OnPlatform → platform.isAssignable a b = true →
        u.host.isAssignable a b = true := by
  have hcount : ∀ d ∈ renamed.types, ∀ t ∈ Platform.types, d.name = t.name →
      d.typeParams = [] ∨ d.typeParams.length = t.arity := by decide +kernel
  have hcount' : ∀ d ∈ marked.types, ∀ t ∈ Platform.types, d.name = t.name →
      d.typeParams = [] ∨ d.typeParams.length = t.arity := by decide +kernel
  refine ⟨⟨_, ofManifest_ok_iff.mpr ⟨by decide, rfl⟩, hcount, fun hext => ?_⟩,
    ⟨_, ofManifest_ok_iff.mpr ⟨by decide, rfl⟩, hcount', ?_⟩⟩
  · have hkept := (extends_platform_iff (ofManifest_ok_iff.mpr ⟨by decide, rfl⟩) hcount).mp hext _
      List.mem_cons_self
    rw [directSupertypes_of_find? find?_arrayList, typeParameters_of_find? find?_arrayList] at hkept
    revert hkept
    decide +kernel
  · refine (extends_platform_iff (ofManifest_ok_iff.mpr ⟨by decide, rfl⟩) hcount').mpr ?_
    intro d hd _
    left
    revert d
    decide

end Universe

end Companion
