import Companion.Proofs.Planning.Run

namespace Companion.Universe

variable {m m' : Manifest} {u u' : Universe}

theorem exists_ofManifest_perm (hu : ofManifest m = .ok u) (hp : m'.types.Perm m.types) :
    ∃ u', ofManifest m' = .ok u' ∧ u'.hierarchy = u.hierarchy ∧
      u'.annotated = m'.types.filter (·.annotated) := by
  obtain ⟨hnodup, rfl⟩ := ofManifest_ok_iff.mp hu
  have hnodup' : (m'.types.map (·.name)).Nodup := (hp.map _).nodup_iff.mpr hnodup
  exact ⟨_, ofManifest_ok_iff.mpr ⟨hnodup', rfl⟩, foldl_declare_perm hp hnodup _, rfl⟩

/-- The declarations of a manifest may come in any order: the hierarchy and the catalog are the
same, and each annotated declaration has the same plan or the same rejection, listed in the order of
the manifest. -/
theorem reordered_manifest_agrees (hu : ofManifest m = .ok u) (hp : m'.types.Perm m.types) :
    ∃ u' catalog, ofManifest m' = .ok u' ∧ u'.hierarchy = u.hierarchy ∧
      CapabilityCatalog.build u.host = .ok catalog ∧
      CapabilityCatalog.build u'.host = .ok catalog ∧
      ∀ options, ∃ o o', u.plan options = .ok o ∧ u'.plan options = .ok o' ∧
        o.Judges catalog options (m.types.filter (·.annotated)) ∧
        o'.Judges catalog options (m'.types.filter (·.annotated)) ∧
        o'.plans.Perm o.plans ∧ o'.rejections.Perm o.rejections ∧
        ∀ d ∈ m.types, d.annotated = true →
          o'.plan? d.name = o.plan? d.name ∧ o'.rejection? d.name = o.rejection? d.name := by
  obtain ⟨u', hu', hhierarchy, hannotated'⟩ := exists_ofManifest_perm hu hp
  obtain ⟨catalog, hb, _⟩ := exists_catalog hu
  have hb' : CapabilityCatalog.build u'.host = .ok catalog := by rw [host, hhierarchy]; exact hb
  have hperm : (m'.types.filter (·.annotated)).Perm (m.types.filter (·.annotated)) := hp.filter _
  refine ⟨u', catalog, hu', hhierarchy, hb, hb', fun options => ?_⟩
  obtain ⟨o, ho, hj⟩ := exists_judgement hb options
  obtain ⟨o', ho', hj'⟩ := exists_judgement hb' options
  have hnodup := nodup_annotated hu
  have hnodup' := nodup_annotated hu'
  rw [annotated_eq hu] at hj hnodup
  rw [annotated_eq hu'] at hj' hnodup'
  refine ⟨o, o', ho, ho', hj, hj', ?_, ?_, fun d hd ha => ?_⟩
  · rw [hj.plans, hj'.plans]
    exact hperm.filterMap _
  · rw [hj.rejections, hj'.rejections]
    exact hperm.filterMap _
  · have hmem : d ∈ m.types.filter (·.annotated) := List.mem_filter.mpr ⟨hd, ha⟩
    have hmem' := hperm.symm.subset hmem
    rw [hj.plan?_eq hnodup hmem, hj'.plan?_eq hnodup' hmem', hj.rejection?_eq hnodup hmem,
      hj'.rejection?_eq hnodup' hmem']
    exact ⟨rfl, rfl⟩

def note : Declaration where
  name := "a.Note"
  annotated := true
  fields := [{ name := "lines", type := .declared "a.Lines" [], visibility := .publicMember }]

def draft : Declaration where
  name := "a.Draft"
  annotated := true
  constructors := some []

/-- A note has a list by way of a class that comes later, and lists can be printed. -/
def notes : Manifest where
  types := [note,
    { name := "a.Lines",
      supertypes := [.declared "java.util.ArrayList" [.declared "java.lang.String" []]] },
    { name := "java.util.ArrayList", supertypes := [.declared "a.Printable" []] }, draft]

theorem reversed_notes_agree :
    ∃ u u' o o', ofManifest notes = .ok u ∧ ofManifest ⟨notes.types.reverse⟩ = .ok u' ∧
      u'.hierarchy = u.hierarchy ∧ u.plan {} = .ok o ∧ u'.plan {} = .ok o' ∧
      o'.plan? note.name = o.plan? note.name ∧
      o'.rejection? draft.name = o.rejection? draft.name := by
  have hu : ofManifest notes = .ok ⟨notes.types.foldl declare Hierarchy.platform, notes.types⟩ :=
    ofManifest_ok_iff.mpr ⟨by decide, rfl⟩
  have hp : (Manifest.mk notes.types.reverse).types.Perm notes.types := List.reverse_perm _
  obtain ⟨u', _, hu', hhierarchy, _, _, hplan⟩ := reordered_manifest_agrees hu hp
  obtain ⟨o, o', ho, ho', _, _, _, _, hsame⟩ := hplan {}
  exact ⟨_, u', o, o', hu, hu', hhierarchy, ho, ho', (hsame note (by decide) rfl).1,
    (hsame draft (by decide) rfl).2⟩

end Companion.Universe
