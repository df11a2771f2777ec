import Companion.Proofs.Hierarchy.Declare
import Companion.Universe
import Mathlib.Data.String.Basic

namespace Companion.Hierarchy

variable {h : Hierarchy} {es : List (String × TypeEntry)}

def Ascending (h : Hierarchy) : Prop := h.names.Pairwise (· < ·)

theorem mem_keys_updateEntry {key name : String} {f : TypeEntry → TypeEntry}
    (hn : name ∈ (updateEntry key f es).map (·.1)) : name = key ∨ name ∈ es.map (·.1) := by
  induction es with
  | nil => simpa [updateEntry] using hn
  | cons p es ih =>
      obtain ⟨k, e⟩ := p
      rw [updateEntry] at hn
      split at hn
      · exact .inr hn
      · split at hn
        · simpa using hn
        · rcases List.mem_cons.mp hn with rfl | hn
          · exact .inr List.mem_cons_self
          · exact (ih hn).imp_right (List.mem_cons_of_mem k)

theorem lt_of_mem_keys {key k : String} {e : TypeEntry} (hlt : key < k)
    (hs : (((k, e) :: es).map (·.1)).Pairwise (· < ·)) :
    ∀ name ∈ ((k, e) :: es).map (·.1), key < name := by
  intro name hn
  rcases List.mem_cons.mp hn with rfl | hn
  · exact hlt
  · exact hlt.trans ((List.pairwise_cons.mp hs).1 name hn)

theorem pairwise_updateEntry (key : String) (f : TypeEntry → TypeEntry)
    (hs : (es.map (·.1)).Pairwise (· < ·)) :
    ((updateEntry key f es).map (·.1)).Pairwise (· < ·) := by
  induction es with
  | nil => simp [updateEntry]
  | cons p es ih =>
      obtain ⟨k, e⟩ := p
      obtain ⟨hk, htail⟩ := List.pairwise_cons.mp hs
      rw [updateEntry]
      split
      · exact hs
      · next hne =>
        split
        · next hlt => exact List.pairwise_cons.mpr ⟨lt_of_mem_keys hlt hs, hs⟩
        · next hge =>
          refine List.pairwise_cons.mpr ⟨fun name hn => ?_, ih htail⟩
          rcases mem_keys_updateEntry hn with rfl | hn
          · exact lt_of_le_of_ne (not_lt.mp hge) (Ne.symm hne)
          · exact hk name hn

theorem lookup_eq_none_of_lt {name : String} (hn : ∀ k ∈ es.map (·.1), name < k) :
    es.lookup name = none := by
  rw [List.lookup_eq_none_iff]
  intro p hp
  exact bne_iff_ne.mpr (hn p.1 (List.mem_map_of_mem hp)).ne

theorem lookup_updateEntry_self (key : String) (f : TypeEntry → TypeEntry)
    (hs : (es.map (·.1)).Pairwise (· < ·)) :
    (updateEntry key f es).lookup key = some (f ((es.lookup key).getD {})) := by
  induction es with
  | nil => simp [updateEntry]
  | cons p es ih =>
      obtain ⟨k, e⟩ := p
      rw [updateEntry]
      split
      · next heq => simp [heq]
      · next hne =>
        split
        · next hlt =>
          rw [lookup_eq_none_of_lt (lt_of_mem_keys hlt hs), List.lookup_cons, beq_self_eq_true]
          rfl
        · rw [List.lookup_cons, List.lookup_cons, beq_false_of_ne hne]
          exact ih (List.pairwise_cons.mp hs).2

theorem lookup_updateEntry_ne {key name : String} (hn : name ≠ key) (f : TypeEntry → TypeEntry) :
    (updateEntry key f es).lookup name = es.lookup name := by
  induction es with
  | nil => simp [updateEntry, hn]
  | cons p es ih =>
      obtain ⟨k, e⟩ := p
      rw [updateEntry]
      split
      · next heq =>
        subst heq
        rw [List.lookup_cons, List.lookup_cons, beq_false_of_ne hn]
      · split
        · rw [List.lookup_cons, beq_false_of_ne hn]
        · rw [List.lookup_cons, List.lookup_cons, ih]

theorem updateEntry_of_lt {key k : String} (hlt : key < k) (f : TypeEntry → TypeEntry)
    (e : TypeEntry) (es : List (String × TypeEntry)) :
    updateEntry key f ((k, e) :: es) = (key, f {}) :: (k, e) :: es := by
  rw [updateEntry, if_neg hlt.ne, if_pos hlt]

theorem updateEntry_self (k : String) (f : TypeEntry → TypeEntry) (e : TypeEntry)
    (es : List (String × TypeEntry)) : updateEntry k f ((k, e) :: es) = (k, f e) :: es := by
  rw [updateEntry, if_pos rfl]

theorem updateEntry_of_gt {key k : String} (hgt : k < key) (f : TypeEntry → TypeEntry)
    (e : TypeEntry) (es : List (String × TypeEntry)) :
    updateEntry key f ((k, e) :: es) = (k, e) :: updateEntry key f es := by
  rw [updateEntry, if_neg hgt.ne', if_neg hgt.not_gt]

theorem updateEntry_comm_of_lt {a b : String} (hab : a < b) (f g : TypeEntry → TypeEntry)
    (es : List (String × TypeEntry)) :
    updateEntry a f (updateEntry b g es) = updateEntry b g (updateEntry a f es) := by
  induction es with
  | nil => rw [updateEntry, updateEntry, updateEntry_of_lt hab, updateEntry_of_gt hab, updateEntry]
  | cons p es ih =>
      obtain ⟨k, e⟩ := p
      rcases lt_trichotomy a k with hak | rfl | hka
      · rw [updateEntry_of_lt hak, updateEntry_of_gt hab]
        -- whatever is done for the greater name, the first name stays greater than `a`
        rcases lt_trichotomy b k with hbk | rfl | hkb
        · rw [updateEntry_of_lt hbk, updateEntry_of_lt hab]
        · rw [updateEntry_self, updateEntry_of_lt hab]
        · rw [updateEntry_of_gt hkb, updateEntry_of_lt hak]
      · rw [updateEntry_of_gt hab, updateEntry_self, updateEntry_self, updateEntry_of_gt hab]
      · have hkb := hka.trans hab
        rw [updateEntry_of_gt hkb, updateEntry_of_gt hka, updateEntry_of_gt hka,
          updateEntry_of_gt hkb, ih]

theorem declare_comm {a b : String} (hne : a ≠ b) (h : Hierarchy) (params params' : List String)
    (supertypes supertypes' : List HostType) :
    (h.declare a params supertypes).declare b params' supertypes' =
      (h.declare b params' supertypes').declare a params supertypes := by
  simp only [declare, mk.injEq]
  rcases lt_or_gt_of_ne hne with hlt | hgt
  · exact (updateEntry_comm_of_lt hlt _ _ _).symm
  · exact updateEntry_comm_of_lt hgt _ _ _

theorem Ascending.declare (hs : h.Ascending) (key : String) (params : List String)
    (supertypes : List HostType) : (h.declare key params supertypes).Ascending :=
  pairwise_updateEntry key _ hs

def entry (h : Hierarchy) (name : String) : TypeEntry := (h.find? name).getD {}

theorem directSupertypes_eq (h : Hierarchy) (name : String) :
    h.directSupertypes name = (h.entry name).supertypes := by
  rw [directSupertypes, entry]
  cases h.find? name <;> rfl

theorem typeParameters_eq (h : Hierarchy) (name : String) :
    h.typeParameters name = (h.entry name).params := by
  rw [typeParameters, entry]
  cases h.find? name <;> rfl

theorem entry_declare (hs : h.Ascending) (key : String) (params : List String)
    (supertypes : List HostType) (name : String) :
    (h.declare key params supertypes).entry name =
      if name = key then (h.entry name).extend params supertypes else h.entry name := by
  rw [entry, find?, Hierarchy.declare]
  split
  · next heq =>
    subst heq
    rw [lookup_updateEntry_self name _ hs]
    rfl
  · next hne => rw [lookup_updateEntry_ne hne]; rfl

theorem ascending_foldl {α : Type} {f : Hierarchy → α → Hierarchy}
    (hf : ∀ h a, h.Ascending → (f h a).Ascending) (as : List α) (hs : h.Ascending) :
    (as.foldl f h).Ascending := by
  induction as generalizing h with
  | nil => exact hs
  | cons a as ih => exact ih (hf h a hs)

theorem ascending_platform : platform.Ascending :=
  ascending_foldl (fun _ _ hs => hs.declare _ _ _) Platform.types List.Pairwise.nil

end Companion.Hierarchy

namespace Companion

namespace TypeEntry

theorem prefix_addSupertypes (known ts : List HostType) : known <+: addSupertypes known ts := by
  induction ts generalizing known with
  | nil => exact List.prefix_rfl
  | cons t ts ih =>
      rw [addSupertypes]
      split
      · exact ih known
      · exact (List.prefix_append known [t]).trans (ih _)

theorem prefix_foldl_extend (e : TypeEntry) (ds : List Declaration) : e.supertypes <+:
    (ds.foldl (fun e d => e.extend d.typeParams d.supertypes) e).supertypes := by
  induction ds generalizing e with
  | nil => exact List.prefix_rfl
  | cons d ds ih =>
      rw [List.foldl_cons]
      exact (prefix_addSupertypes e.supertypes d.supertypes).trans (ih (e.extend _ _))

theorem params_foldl_extend {e : TypeEntry} {ds : List Declaration}
    (hd : ∀ d ∈ ds, d.typeParams = [] ∨ d.typeParams = e.params) :
    (ds.foldl (fun e d => e.extend d.typeParams d.supertypes) e).params = e.params := by
  induction ds generalizing e with
  | nil => rfl
  | cons d ds ih =>
      obtain ⟨hfirst, hrest⟩ := List.forall_mem_cons.mp hd
      have hparams : (e.extend d.typeParams d.supertypes).params = e.params := by
        rcases hfirst with hnil | heq
        · simp [extend, hnil]
        · simp [extend, heq]
      rw [List.foldl_cons, ih (by rwa [hparams]), hparams]

end TypeEntry

namespace Manifest

theorem filter_name_eq_singleton {ds : List Declaration} {d : Declaration}
    (hnodup : (ds.map (·.name)).Nodup) (hd : d ∈ ds) : ds.filter (·.name = d.name) = [d] := by
  obtain ⟨before, after, rfl⟩ := List.append_of_mem hd
  rw [List.map_append, List.map_cons, List.nodup_middle, List.nodup_cons, ← List.map_append,
    List.mem_map] at hnodup
  have hother : ∀ e ∈ before ++ after, ¬decide (e.name = d.name) = true := fun e he heq =>
    hnodup.1 ⟨e, he, of_decide_eq_true heq⟩
  rw [List.filter_append, List.filter_cons_of_pos (by simp),
    List.filter_eq_nil_iff.mpr fun e he => hother e (List.mem_append_left _ he),
    List.filter_eq_nil_iff.mpr fun e he => hother e (List.mem_append_right _ he), List.nil_append]

theorem duplicate?_eq_none_iff {seen : List String} {ds : List Declaration} :
    duplicate? seen ds = none ↔ (ds.map (·.name)).Nodup ∧ ∀ d ∈ ds, d.name ∉ seen := by
  induction ds generalizing seen with
  | nil => simp [duplicate?]
  | cons d ds ih =>
      rw [duplicate?]
      split
      · next hd => simp [hd]
      · next hd =>
        rw [ih, List.map_cons, List.nodup_cons, List.forall_mem_cons]
        have hfresh : (∀ e ∈ ds, e.name ∉ d.name :: seen) ↔
            d.name ∉ ds.map (·.name) ∧ ∀ e ∈ ds, e.name ∉ seen := by
          simp [not_or, forall_and]
        rw [hfresh]
        tauto

end Manifest

namespace Universe

variable {h : Hierarchy} {m : Manifest} {u : Universe}

theorem ofManifest_ok_iff :
    ofManifest m = .ok u ↔ (m.types.map (·.name)).Nodup ∧
      u = ⟨m.types.foldl declare Hierarchy.platform, m.types⟩ := by
  rw [ofManifest]
  cases hd : Manifest.duplicate? [] m.types with
  | none =>
      have hnodup := (Manifest.duplicate?_eq_none_iff.mp hd).1
      simp [hnodup, eq_comm]
  | some name =>
      have hdup : ¬(m.types.map (·.name)).Nodup := fun hnodup => by
        have hnone : Manifest.duplicate? [] m.types = none :=
          Manifest.duplicate?_eq_none_iff.mpr ⟨hnodup, by simp⟩
        rw [hd] at hnone
        cases hnone
      simp [hdup]

theorem foldl_declare_perm {ds ds' : List Declaration} (hp : ds'.Perm ds)
    (hnodup : (ds.map (·.name)).Nodup) (h : Hierarchy) :
    ds'.foldl declare h = ds.foldl declare h := by
  refine hp.foldl_eq' (fun d hd e he h => ?_) h
  by_cases hne : d.name = e.name
  · rw [List.inj_on_of_nodup_map hnodup (hp.subset hd) (hp.subset he) hne]
  · exact Hierarchy.declare_comm hne h _ _ _ _

/-- The entry of a name after declarations is what the declarations of that name make of the entry
before. -/
theorem entry_foldl_declare (hs : h.Ascending) (ds : List Declaration) (name : String) :
    (ds.foldl declare h).entry name =
      (ds.filter (·.name = name)).foldl (fun e d => e.extend d.typeParams d.supertypes)
        (h.entry name) := by
  induction ds generalizing h with
  | nil => rfl
  | cons d ds ih =>
      rw [List.foldl_cons, declare, ih (hs.declare _ _ _), Hierarchy.entry_declare hs]
      by_cases hd : d.name = name
      · simp [hd]
      · simp [hd, Ne.symm hd]

theorem entry_hierarchy (hu : ofManifest m = .ok u) (name : String) :
    u.hierarchy.entry name =
      (m.types.filter (·.name = name)).foldl (fun e d => e.extend d.typeParams d.supertypes)
        (Hierarchy.platform.entry name) := by
  obtain ⟨_, rfl⟩ := ofManifest_ok_iff.mp hu
  exact entry_foldl_declare Hierarchy.ascending_platform m.types name

end Universe

end Companion
