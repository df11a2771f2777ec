import Companion.Proofs.Except
import Companion.Proofs.Hierarchy.Clauses
import Companion.Proofs.Hierarchy.PlatformTypes
import Companion.Proofs.Hierarchy.Strangers
import Companion.Proofs.Planning.Run

namespace Companion

open HostType

namespace CapabilityCatalog

variable {c c' : CapabilityCatalog} {h h' : Hierarchy} {n stranger : String} {t v : HostType}
  {k : Capability}

theorem avoids_genericType (hn : n ≠ stranger) (params : List String) :
    (genericType n params).Avoids stranger := by
  rw [genericType, avoids_declared_iff, List.forall_mem_map]
  exact ⟨hn, fun v _ => avoids_var v stranger⟩

theorem entryOf_eq (hs : h.AgreesBeside stranger h') (hn : n ≠ stranger) :
    entryOf h' n = entryOf h n := by
  have hparams : h'.typeParameters n = h.typeParameters n := by
    rw [Hierarchy.typeParameters, Hierarchy.typeParameters, hs.find? n hn]
  have hview : ∀ target, h'.view (genericType n (h.typeParameters n)) target =
      h.view (genericType n (h.typeParameters n)) target :=
    fun target => hs.view_eq (avoids_genericType hn _) target
  have hmarker : ∀ marker, marker ≠ Platform.object →
      h'.isAssignable (genericType n (h.typeParameters n)) (.declared marker []) =
        h.isAssignable (genericType n (h.typeParameters n)) (.declared marker []) := by
    intro marker hm
    rw [genericType, Hierarchy.isAssignable_raw hm, Hierarchy.isAssignable_raw hm]
    exact congrArg Option.isSome (hview marker)
  simp only [entryOf, describe, Hierarchy.host, hparams, hview,
    hmarker Platform.parcelable (by decide), hmarker Platform.serializable (by decide)]

theorem containerView_of_container?_eq_none (hk : k.container? = none) (c : CapabilityCatalog)
    (t : HostType) : c.containerView t k = none := by
  have hview : ∀ e, CatalogEntry.viewFor e k = none := by
    cases k with
    | orderedList | sparseIndexed => cases hk
    | transferable | opaqueSerializable => exact fun _ => rfl
  cases t with
  | declared n as => cases hf : c.find? n <;> simp [containerView, hf, hview]
  | primitive | array | wildcard | wildcardExtends | var => rfl

structure AgreesBeside (c : CapabilityCatalog) (h : Hierarchy) (stranger : String)
    (c' : CapabilityCatalog) (h' : Hierarchy) : Prop where
  describes : c.Describes h
  describes' : c'.Describes h'
  hierarchies : h.AgreesBeside stranger h'

namespace AgreesBeside

theorem find?_eq (hc : c.AgreesBeside h stranger c' h') (hn : n ≠ stranger) :
    c'.find? n = c.find? n := by
  rw [hc.describes n, hc.describes' n, hc.hierarchies.find? n hn, entryOf_eq hc.hierarchies hn]

theorem capabilities_eq (hc : c.AgreesBeside h stranger c' h') (ht : t.Avoids stranger) :
    c'.capabilities t = c.capabilities t := by
  induction t with
  | primitive | wildcard | var | array => rfl
  | wildcardExtends u ih => exact ih ht
  | declared n as _ =>
      rw [capabilities, capabilities, hc.find?_eq (avoids_declared_iff.mp ht).1]

theorem has_eq (hc : c.AgreesBeside h stranger c' h') (ht : t.Avoids stranger) (k : Capability) :
    c'.has t k = c.has t k := by
  rw [has, has, hc.capabilities_eq ht]

theorem containerView_eq (hc : c.AgreesBeside h stranger c' h') (ht : t.Avoids stranger)
    (k : Capability) : c'.containerView t k = c.containerView t k := by
  cases t with
  | declared n as =>
      rw [containerView, containerView, hc.find?_eq (avoids_declared_iff.mp ht).1]
  | primitive | array | wildcard | wildcardExtends | var => rfl

theorem avoids_containerView (hc : c.AgreesBeside h stranger c' h') (ht : t.Avoids stranger)
    (hv : c.containerView t k = some v) : v.Avoids stranger := by
  cases hk : k.container? with
  | none => rw [containerView_of_container?_eq_none hk] at hv; cases hv
  | some container =>
      cases t with
      | primitive | array | wildcard | wildcardExtends | var => cases hv
      | declared n as =>
          obtain ⟨hn, has⟩ := avoids_declared_iff.mp ht
          cases hf : h.find? n with
          | none => simp [hc.describes.containerView_unknown hf] at hv
          | some e =>
              rw [hc.describes.containerView_known hk hf] at hv
              obtain ⟨w, hw, rfl⟩ := Option.map_eq_some_iff.mp hv
              have hw := hc.hierarchies.avoids_view (avoids_genericType hn e.params) hw
              split
              · exact hw.substitute (avoids_of_mem_zip has)
              · exact hw.erasure

theorem holdsTransferable_eq (hc : c.AgreesBeside h stranger c' h') (ht : t.Avoids stranger)
    (k : Capability) : c'.holdsTransferable t k = c.holdsTransferable t k := by
  rw [holdsTransferable, holdsTransferable, hc.containerView_eq ht]
  cases hv : c.containerView t k with
  | none => rfl
  | some v =>
      have has : ∀ a ∈ v.args, a.Avoids stranger := (hc.avoids_containerView ht hv).args
      dsimp only
      generalize v.args = as at has ⊢
      match as with
      | [] | _ :: _ :: _ => rfl
      | [a] => exact hc.has_eq (has a List.mem_cons_self) _

theorem ruleTransfer?_eq (hc : c.AgreesBeside h stranger c' h') (ht : t.Avoids stranger)
    (rule : ResolutionRule) : c'.ruleTransfer? t rule = c.ruleTransfer? t rule := by
  cases rule with
  | catalog => rfl
  | homogeneousList =>
      rw [ruleTransfer?, ruleTransfer?, homogeneousList?, homogeneousList?, hc.containerView_eq ht]
  | transferableList | sparseTransferable =>
      rw [ruleTransfer?, ruleTransfer?, hc.holdsTransferable_eq ht]
  | transferable | opaqueSerializable => rw [ruleTransfer?, ruleTransfer?, hc.has_eq ht]

theorem resolve_eq (hc : c.AgreesBeside h stranger c' h') (ht : t.Avoids stranger) :
    c'.resolve t = c.resolve t := by
  rw [resolve, resolve]
  congr 1
  funext rule
  rw [hc.ruleTransfer?_eq ht]

end AgreesBeside

end CapabilityCatalog

namespace Model

variable {c c' : CapabilityCatalog} {source : DeclarationSource}

theorem ofSource_congr
    (hr : ∀ fs, source.fields = .ok fs → ∀ f ∈ fs, c'.resolve f.type = c.resolve f.type)
    (options : PlanningOptions) : ofSource source c' options = ofSource source c options := by
  rw [ofSource_eq_bind_judge, ofSource_eq_bind_judge]
  refine bind_congr_of_ok fun p hp => ?_
  obtain ⟨-, -, hfields, -⟩ := profile_ok_iff.mp hp
  -- the catalog is asked for the types of the fields and for nothing else
  have hcheck : ∀ f ∈ p.fields, ∀ position,
      checkField (p.context c') position f = checkField (p.context c) position f := by
    intro f hf position
    rw [checkField, checkField]
    dsimp only [Profile.context]
    rw [hr p.fields hfields f hf]
  exact Profile.judge_congr (check_congr hcheck rfl options p.name p.constructor) rfl rfl rfl _

end Model

theorem Hierarchy.avoids_platform {stranger : String}
    (hplatform : stranger ∉ Platform.types.map (·.name)) {name : String} :
    ∀ t ∈ platform.directSupertypes name, t.Avoids stranger := by
  intro t ht
  obtain ⟨sup, params, rfl⟩ := exists_eq_of_mem_platform ht
  have hsup : sup ∈ Platform.types.map (·.name) := mem_types_of_below ⟨_, ht, rfl⟩
  rw [avoids_declared_iff, List.forall_mem_map]
  exact ⟨ne_of_mem_of_not_mem hsup hplatform, fun v _ => avoids_var v stranger⟩

namespace Universe

variable {m : Manifest} {u u' : Universe} {d : Declaration} {before after : List Declaration}

theorem avoids_directSupertypes {stranger : String} (hu : ofManifest m = .ok u)
    (hplatform : stranger ∉ Platform.types.map (·.name))
    (hsup : ∀ e ∈ m.types, ∀ t ∈ e.supertypes, t.Avoids stranger) (name : String) :
    ∀ t ∈ u.hierarchy.directSupertypes name, t.Avoids stranger := by
  intro t ht
  rcases (mem_directSupertypes hu).mp ht with ht | ⟨e, he, _, ht⟩
  · exact Hierarchy.avoids_platform hplatform t ht
  · exact hsup e he t ht

theorem perm_insert (before after : List Declaration) (d : Declaration) :
    (before ++ d :: after).Perm (before ++ after ++ [d]) :=
  List.perm_middle.trans (List.perm_append_singleton d _).symm

theorem ofManifest_insert (hu : ofManifest m = .ok u) (hm : m.types = before ++ after)
    (hnew : d.name ∉ m.types.map (·.name)) :
    ofManifest ⟨before ++ d :: after⟩ = .ok ⟨declare u.hierarchy d, before ++ d :: after⟩ := by
  obtain ⟨hnodup, rfl⟩ := ofManifest_ok_iff.mp hu
  have hnodup' : ((before ++ after ++ [d]).map (·.name)).Nodup := by
    rw [← hm, ((List.perm_append_singleton d m.types).map _).nodup_iff]
    exact List.nodup_cons.mpr ⟨hnew, hnodup⟩
  have hp := perm_insert before after d
  refine ofManifest_ok_iff.mpr ⟨(hp.map _).nodup_iff.mpr hnodup', ?_⟩
  rw [foldl_declare_perm hp hnodup', List.foldl_append, ← hm]
  rfl

theorem filter_annotated_insert (hnew : d.name ∉ (before ++ after).map (·.name)) :
    ((before ++ d :: after).filter (·.annotated)).filter (·.name ≠ d.name) =
      (before ++ after).filter (·.annotated) := by
  have hne : ∀ e ∈ before ++ after, decide (e.name ≠ d.name) = true := fun e he =>
    decide_eq_true fun heq => hnew (heq ▸ List.mem_map_of_mem he)
  rw [List.filter_comm, List.filter_append, List.filter_cons_of_neg (by simp), ← List.filter_append,
    List.filter_eq_self.mpr hne]

/-- A declaration that nothing mentions, added anywhere to a manifest, leaves the plans and the
rejections of all other declarations as they are, whatever it declares and whatever becomes of it.
Parameters and results of methods may even mention it. -/
theorem stranger_changes_nothing (hu : ofManifest m = .ok u) (hm : m.types = before ++ after)
    (hplatform : d.name ∉ Platform.types.map (·.name)) (hnew : d.name ∉ m.types.map (·.name))
    (hsup : ∀ e ∈ m.types, ∀ t ∈ e.supertypes, t.Avoids d.name)
    (hfields : ∀ e ∈ m.types, ∀ f ∈ e.fields, f.type.Avoids d.name) :
    ∃ u', ofManifest ⟨before ++ d :: after⟩ = .ok u' ∧
      ∀ options, ∃ o o', u.plan options = .ok o ∧ u'.plan options = .ok o' ∧
        o'.without d.name = o ∧
        ∀ e ∈ m.types, o'.plan? e.name = o.plan? e.name ∧
          o'.rejection? e.name = o.rejection? e.name := by
  have hu' := ofManifest_insert hu hm hnew
  obtain ⟨c, hb, hd⟩ := exists_catalog hu
  obtain ⟨c', hb', hd'⟩ := exists_catalog hu'
  have hagree : c.AgreesBeside u.hierarchy d.name c' (declare u.hierarchy d) :=
    ⟨hd, hd', Hierarchy.agreesBeside_declare (avoids_directSupertypes hu hplatform hsup) _ _⟩
  have hplan : ∀ options, ∀ e ∈ m.types.filter (·.annotated),
      e.source.plan c' options = e.source.plan c options := by
    intro options e he
    rw [DeclarationSource.plan, DeclarationSource.plan, Model.ofSource_congr]
    intro fs hfs f hf
    cases hfs
    exact hagree.resolve_eq (hfields e (List.mem_of_mem_filter he) f hf)
  refine ⟨_, hu', fun options => ?_⟩
  obtain ⟨o, ho, hj⟩ := exists_judgement hb options
  obtain ⟨o', ho', hj'⟩ := exists_judgement hb' options
  rw [annotated_eq hu] at hj
  have hrest := hj'.without d.name
  rw [annotated_eq hu', filter_annotated_insert (hm ▸ hnew), ← hm] at hrest
  -- but for the stranger both runs judge the same declarations, and alike
  have hsame : o'.without d.name = o := hj.eq_of_plan_eq hrest (hplan options)
  refine ⟨o, o', ho, ho', hsame, fun e he => ?_⟩
  have hne : e.name ≠ d.name := fun heq => hnew (heq ▸ List.mem_map_of_mem he)
  rw [← hsame, Outcome.plan?_without hne, Outcome.rejection?_without hne]
  exact ⟨rfl, rfl⟩

def order : Declaration where
  name := "a.Order"
  annotated := true
  fields := [{ name := "items", visibility := .publicMember,
               type := .declared "java.util.ArrayList" [.declared "a.Item" []] }]

def receipt : Declaration where
  name := "a.Receipt"
  annotated := true
  constructors := some []
  methods := [{ name := "file", params := [{ name := "hub", type := .declared "a.Hub" [] }] }]

def orders : Manifest where
  types := [order, { name := "a.Item", supertypes := [.declared "android.os.Parcelable" []] },
    receipt]

/-- An annotated interface below itself, below orders and below lists of hubs. -/
def hub : Declaration where
  name := "a.Hub"
  kind := .interfaceType
  annotated := true
  typeParams := ["T"]
  supertypes := [.declared "a.Hub" [.array (.var "T")], .declared "a.Order" [],
    .declared "java.util.ArrayList" [.declared "a.Hub" []]]

theorem hub_changes_no_order :
    ∃ u u' o o', ofManifest orders = .ok u ∧
      ofManifest ⟨order :: hub :: orders.types.tail⟩ = .ok u' ∧
      u.plan {} = .ok o ∧ u'.plan {} = .ok o' ∧ o'.without hub.name = o ∧
      o'.plan? order.name = o.plan? order.name ∧
      o'.rejection? receipt.name = o.rejection? receipt.name := by
  have hu : ofManifest orders = .ok ⟨orders.types.foldl declare Hierarchy.platform, orders.types⟩ :=
    ofManifest_ok_iff.mpr ⟨by decide, rfl⟩
  have hm : orders.types = [order] ++ orders.types.tail := rfl
  have hplatform : hub.name ∉ Platform.types.map (·.name) := by decide +kernel
  have hnew : hub.name ∉ orders.types.map (·.name) := by decide
  have hsup : ∀ e ∈ orders.types, ∀ t ∈ e.supertypes, t.Avoids hub.name := by decide +kernel
  have hfields : ∀ e ∈ orders.types, ∀ f ∈ e.fields, f.type.Avoids hub.name := by decide +kernel
  obtain ⟨u', hu', hplan⟩ := stranger_changes_nothing hu hm hplatform hnew hsup hfields
  obtain ⟨o, o', ho, ho', hwithout, hsame⟩ := hplan {}
  exact ⟨_, u', o, o', hu, hu', ho, ho', hwithout, (hsame order (by simp [orders])).1,
    (hsame receipt (by simp [orders])).2⟩

end Universe

end Companion
