import Companion.Planning.Run
import Companion.Proofs.Hierarchy.Entries
import Companion.Proofs.Planning.Acceptance
import Companion.Proofs.Planning.Catalog

namespace Companion

theorem Model.model_of_rejection {source : DeclarationSource} {catalog : CapabilityCatalog}
    {options : PlanningOptions} {name : String} {r : Rejection}
    (hname : source.qualifiedName = .ok name)
    (hr : ofSource source catalog options = .error (.rejection r)) : r.model = name := by
  cases hp : profile source with
  | ok p =>
      rw [ofSource_of_profile hp] at hr
      rw [(Profile.judge_eq_rejection_iff.mp hr).1]
      exact Except.ok.inj ((profile_ok_iff.mp hp).1.symm.trans hname)
  | error i =>
      rw [ofSource_of_profile_error hp] at hr
      cases hr
      exact (rejects_profile hname r hp).model

namespace DeclarationSource

variable {source : DeclarationSource} {catalog : CapabilityCatalog} {options : PlanningOptions}
  {p : Plan} {r : Rejection}

theorem plan_ok_iff : source.plan catalog options = .ok p ↔
    ∃ m, Model.ofSource source catalog options = .ok m ∧ m.plan = p := by
  rw [plan]
  cases Model.ofSource source catalog options with
  | ok m => simp
  | error e => cases e <;> simp

def rejection? (source : DeclarationSource) (catalog : CapabilityCatalog)
    (options : PlanningOptions) : Option Rejection :=
  match source.plan catalog options with
  | .ok _ => none
  | .error r => some r

theorem model_of_plan_error {name : String} (hname : source.qualifiedName = .ok name)
    (hr : source.plan catalog options = .error r) : r.model = name := by
  rw [plan] at hr
  split at hr
  · cases hr
  · next r' hsource =>
    cases hr
    exact Model.model_of_rejection hname hsource
  · cases hr
    rw [hname]

end DeclarationSource

variable {catalog : CapabilityCatalog} {options : PlanningOptions} {p : Plan}

def Declaration.plan? (catalog : CapabilityCatalog) (options : PlanningOptions) (d : Declaration) :
    Option Plan :=
  (d.source.plan catalog options).toOption

theorem Declaration.plan?_eq_some_iff {d : Declaration} :
    d.plan? catalog options = some p ↔
      ∃ m, Model.ofSource d.source catalog options = .ok m ∧ m.plan = p := by
  rw [← DeclarationSource.plan_ok_iff, plan?]
  cases d.source.plan catalog options with
  | ok q => simp [Except.toOption]
  | error r => simp [Except.toOption]

theorem Declaration.plan?_eq_some {d : Declaration} (hp : d.plan? catalog options = some p) :
    p.model = d.name ∧ p.package = d.packageName ∧
      p.companion = Naming.companionName (simpleNames p.package p.model) := by
  obtain ⟨m, hm, rfl⟩ := plan?_eq_some_iff.mp hp
  obtain ⟨hname, _, _, _, _, _, _, _, _, _, _, hpackage, hcompanion⟩ :=
    Model.ofSource_ok_iff.mp hm
  exact ⟨(Except.ok.inj hname).symm, (Except.ok.inj hpackage).symm, hcompanion⟩

theorem Declaration.declaredTypes_of_plan? {d : Declaration}
    (hp : d.plan? catalog options = some p) :
    p.fields.map (·.declaredType) = d.fields.map (·.type) := by
  obtain ⟨m, hm, rfl⟩ := plan?_eq_some_iff.mp hp
  obtain ⟨-, -, fields, _, _, hfields, -, -, -, -, hcheck, -, -⟩ := Model.ofSource_ok_iff.mp hm
  obtain rfl : d.fields = fields := Except.ok.inj hfields
  obtain ⟨hpassed, -, -⟩ := Model.check_ok_iff.mp hcheck
  rw [← Model.map_field_of_checkFields hpassed, Model.plan, List.map_map, List.map_map]
  rfl

theorem Declaration.model_of_rejection {d : Declaration} {r : Rejection}
    (hr : d.source.rejection? catalog options = some r) : r.model = d.name := by
  cases hplan : d.source.plan catalog options with
  | ok p => simp [DeclarationSource.rejection?, hplan] at hr
  | error r' =>
      obtain rfl : r' = r := by simpa [DeclarationSource.rejection?, hplan] using hr
      exact DeclarationSource.model_of_plan_error rfl hplan

theorem Outcome.plans_ofCandidates (sources : List DeclarationSource) :
    (ofCandidates catalog options sources).plans =
      sources.filterMap fun source => (source.plan catalog options).toOption := by
  induction sources with
  | nil => rfl
  | cons source sources ih =>
      rw [ofCandidates, List.foldr_cons, List.filterMap_cons, ← ih]
      cases source.plan catalog options with
      | ok p => rfl
      | error r => rfl

theorem Outcome.rejections_ofCandidates (sources : List DeclarationSource) :
    (ofCandidates catalog options sources).rejections =
      sources.filterMap (·.rejection? catalog options) := by
  induction sources with
  | nil => rfl
  | cons source sources ih =>
      rw [ofCandidates, List.foldr_cons, List.filterMap_cons, ← ih, DeclarationSource.rejection?]
      cases source.plan catalog options with
      | ok p => rfl
      | error r => rfl

/-- The outcome lists what planning makes of the declarations, of each on its own, in their order.
-/
structure Outcome.Judges (o : Outcome) (catalog : CapabilityCatalog) (options : PlanningOptions)
    (ds : List Declaration) : Prop where
  plans : o.plans = ds.filterMap (Declaration.plan? catalog options)
  rejections : o.rejections = ds.filterMap fun d => d.source.rejection? catalog options

theorem find?_filterMap_of_mem {α β : Type} {f : α → Option β} {name : α → String}
    {key : β → String} (hkey : ∀ a b, f a = some b → key b = name a) {as : List α}
    (hnodup : (as.map name).Nodup) {a : α} (ha : a ∈ as) :
    (as.filterMap f).find? (fun b => key b == name a) = f a := by
  induction as with
  | nil => cases ha
  | cons a' as ih =>
      rw [List.map_cons, List.nodup_cons, List.mem_map] at hnodup
      obtain ⟨hnew, hnodup⟩ := hnodup
      rw [List.filterMap_cons]
      rcases List.mem_cons.mp ha with rfl | ha
      · cases hf : f a with
        | some b => exact List.find?_cons_of_pos (by simp [hkey a b hf])
        | none =>
            rw [List.find?_eq_none]
            intro b hb
            obtain ⟨a', ha', hfa'⟩ := List.mem_filterMap.mp hb
            rw [beq_iff_eq, hkey a' b hfa']
            exact fun heq => hnew ⟨a', ha', heq⟩
      · have hne : name a' ≠ name a := fun heq => hnew ⟨a, ha, heq.symm⟩
        cases hf : f a' with
        | none => exact ih hnodup ha
        | some b =>
            rw [List.find?_cons_of_neg (by simpa [hkey a' b hf] using hne)]
            exact ih hnodup ha

theorem filter_filterMap_ne {α β : Type} {f : α → Option β} {name : α → String} {key : β → String}
    (hkey : ∀ a b, f a = some b → key b = name a) (x : String) (as : List α) :
    (as.filterMap f).filter (fun b => key b ≠ x) = (as.filter fun a => name a ≠ x).filterMap f := by
  rw [List.filter_filterMap, List.filterMap_filter]
  refine List.filterMap_congr fun a _ => ?_
  cases hf : f a with
  | none => simp
  | some b => simp [Option.filter, hkey a b hf]

namespace Outcome

/-- What is left of an outcome if all is left out that it says of one model. -/
def without (o : Outcome) (model : String) : Outcome where
  plans := o.plans.filter (·.model ≠ model)
  rejections := o.rejections.filter (·.model ≠ model)

theorem plan?_without {model name : String} (hn : name ≠ model) (o : Outcome) :
    (o.without model).plan? name = o.plan? name := by
  rw [plan?, plan?, without, List.find?_filter]
  congr 1
  funext p
  by_cases hp : p.model = name <;> simp [hp, hn]

theorem rejection?_without {model name : String} (hn : name ≠ model) (o : Outcome) :
    (o.without model).rejection? name = o.rejection? name := by
  rw [rejection?, rejection?, without, List.find?_filter]
  congr 1
  funext r
  by_cases hr : r.model = name <;> simp [hr, hn]

end Outcome

namespace Outcome.Judges

variable {o : Outcome} {ds : List Declaration} {d : Declaration}

theorem plan?_eq (hj : o.Judges catalog options ds) (hnodup : (ds.map (·.name)).Nodup)
    (hd : d ∈ ds) : o.plan? d.name = d.plan? catalog options := by
  rw [plan?, hj.plans]
  exact find?_filterMap_of_mem (fun _ _ hp => (Declaration.plan?_eq_some hp).1) hnodup hd

theorem rejection?_eq (hj : o.Judges catalog options ds) (hnodup : (ds.map (·.name)).Nodup)
    (hd : d ∈ ds) : o.rejection? d.name = d.source.rejection? catalog options := by
  rw [rejection?, hj.rejections]
  exact find?_filterMap_of_mem (fun _ _ hr => Declaration.model_of_rejection hr) hnodup hd

theorem without (hj : o.Judges catalog options ds) (name : String) :
    (o.without name).Judges catalog options (ds.filter (·.name ≠ name)) where
  plans := by
    rw [Outcome.without, hj.plans]
    exact filter_filterMap_ne (fun _ _ hp => (Declaration.plan?_eq_some hp).1) name ds
  rejections := by
    rw [Outcome.without, hj.rejections]
    exact filter_filterMap_ne (fun _ _ hr => Declaration.model_of_rejection hr) name ds

theorem eq_of_plan_eq {o' : Outcome} {catalog' : CapabilityCatalog}
    (hj : o.Judges catalog options ds) (hj' : o'.Judges catalog' options ds)
    (hplan : ∀ d ∈ ds, d.source.plan catalog' options = d.source.plan catalog options) :
    o' = o := by
  obtain ⟨plans, rejections⟩ := o
  obtain ⟨plans', rejections'⟩ := o'
  obtain ⟨rfl, rfl⟩ := hj
  obtain ⟨rfl, rfl⟩ := hj'
  rw [Outcome.mk.injEq]
  constructor
  · refine List.filterMap_congr fun d hd => ?_
    rw [Declaration.plan?, Declaration.plan?, hplan d hd]
  · refine List.filterMap_congr fun d hd => ?_
    rw [DeclarationSource.rejection?, DeclarationSource.rejection?, hplan d hd]

end Outcome.Judges

namespace Universe

variable {m : Manifest} {u : Universe}

theorem annotated_eq (hu : ofManifest m = .ok u) : u.annotated = m.types.filter (·.annotated) := by
  obtain ⟨_, rfl⟩ := ofManifest_ok_iff.mp hu
  rfl

theorem exists_judgement (hb : CapabilityCatalog.build u.host = .ok catalog)
    (options : PlanningOptions) :
    ∃ o, u.plan options = .ok o ∧ o.Judges catalog options u.annotated := by
  refine ⟨.ofCandidates catalog options (u.annotated.map (·.source)), ?_, ?_, ?_⟩
  · rw [plan, TypeHost.plan, hb]
    rfl
  · rw [Outcome.plans_ofCandidates, List.filterMap_map]
    rfl
  · rw [Outcome.rejections_ofCandidates, List.filterMap_map]
    rfl

theorem exists_plan (hu : ofManifest m = .ok u) (options : PlanningOptions) :
    ∃ catalog o, u.plan options = .ok o ∧
      o.plans = u.annotated.filterMap (Declaration.plan? catalog options) := by
  obtain ⟨catalog, hbuild, _⟩ := exists_catalog hu
  obtain ⟨o, ho, hj⟩ := exists_judgement hbuild options
  exact ⟨catalog, o, ho, hj.plans⟩

theorem pairwise_annotated (hu : ofManifest m = .ok u) :
    u.annotated.Pairwise fun d e => d.name ≠ e.name := by
  obtain ⟨hnodup, rfl⟩ := ofManifest_ok_iff.mp hu
  exact (List.pairwise_map.mp hnodup).filter _

theorem nodup_annotated (hu : ofManifest m = .ok u) : (u.annotated.map (·.name)).Nodup :=
  List.pairwise_map.mpr (pairwise_annotated hu)

theorem pairwise_plans (hu : ofManifest m = .ok u) {plans : List Plan}
    (hplans : plans = u.annotated.filterMap (Declaration.plan? catalog options)) :
    plans.Pairwise fun p q => p.model ≠ q.model := by
  rw [hplans, List.pairwise_filterMap]
  refine (pairwise_annotated hu).imp fun {d e} hne p hp q hq => ?_
  rwa [(Declaration.plan?_eq_some hp).1, (Declaration.plan?_eq_some hq).1]

theorem exists_declaration_of_plan (hu : ofManifest m = .ok u) {plans : List Plan}
    (hplans : plans = u.annotated.filterMap (Declaration.plan? catalog options)) (hp : p ∈ plans) :
    ∃ d ∈ m.types, d.annotated = true ∧ p.model = d.name ∧ p.package = d.packageName ∧
      p.companion = Naming.companionName (simpleNames p.package p.model) := by
  obtain ⟨_, rfl⟩ := ofManifest_ok_iff.mp hu
  rw [hplans] at hp
  obtain ⟨d, hd, hplan⟩ := List.mem_filterMap.mp hp
  obtain ⟨hmem, hannotated⟩ := List.mem_filter.mp hd
  exact ⟨d, hmem, hannotated, Declaration.plan?_eq_some hplan⟩

end Universe

end Companion
