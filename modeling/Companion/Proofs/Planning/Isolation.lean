import Companion.Proofs.Planning.Run

namespace Companion

namespace TypeHost

/-- The platform types that capabilities depend on, in the order in which they are resolved. -/
def markers : List String :=
  [Platform.parcelable, Platform.serializable, Platform.arrayList, Platform.sparseArray]

def resolveAll (host : TypeHost) : List String → Except SymbolError Unit
  | [] => .ok ()
  | name :: names => do
    let _ ← host.wellKnown name
    host.resolveAll names

variable {host : TypeHost} {e : SymbolError}

theorem resolveAll_eq_ok_iff {names : List String} :
    host.resolveAll names = .ok () ↔ ∀ name ∈ names, ∃ t, host.wellKnown name = .ok t := by
  induction names with
  | nil => simp [resolveAll]
  | cons name names ih =>
      rw [resolveAll, List.forall_mem_cons, ← ih]
      cases host.wellKnown name with
      | ok t => exact ⟨fun h => ⟨⟨t, rfl⟩, h⟩, fun h => h.2⟩
      | error e => exact ⟨nofun, nofun⟩

theorem resolveAll_eq_error_iff {names : List String} :
    host.resolveAll names = .error e ↔
      ∃ before name after, names = before ++ name :: after ∧
        (∀ n ∈ before, ∃ t, host.wellKnown n = .ok t) ∧ host.wellKnown name = .error e := by
  induction names with
  | nil => simp [resolveAll]
  | cons name names ih =>
      simp only [resolveAll, List.cons_eq_append_iff]
      cases hname : host.wellKnown name with
      | error e' =>
          simp only [bind, Except.bind, Except.error.injEq]
          constructor
          · rintro rfl
            exact ⟨[], name, names, .inl ⟨rfl, rfl⟩, nofun, hname⟩
          · rintro ⟨before, name', after, ⟨rfl, hsplit⟩ | ⟨ns, rfl, -⟩, hbefore, he⟩
            · obtain ⟨rfl, rfl⟩ := List.cons.inj hsplit
              rw [hname] at he
              exact Except.error.inj he
            · -- nothing that is resolved stands before a type that is not
              obtain ⟨t, ht⟩ := hbefore name List.mem_cons_self
              rw [hname] at ht
              cases ht
      | ok t =>
          simp only [bind, Except.bind, ih]
          constructor
          · rintro ⟨before, name', after, rfl, hbefore, he⟩
            exact ⟨name :: before, name', after, .inr ⟨before, rfl, rfl⟩,
              List.forall_mem_cons.mpr ⟨⟨t, hname⟩, hbefore⟩, he⟩
          · rintro ⟨before, name', after, ⟨rfl, hsplit⟩ | ⟨ns, rfl, rfl⟩, hbefore, he⟩
            · obtain ⟨rfl, -⟩ := List.cons.inj hsplit
              rw [hname] at he
              cases he
            · exact ⟨ns, name', after, rfl, (List.forall_mem_cons.mp hbefore).2, he⟩

theorem build_eq_error_iff_resolveAll :
    CapabilityCatalog.build host = .error e ↔ host.resolveAll markers = .error e := by
  simp only [CapabilityCatalog.build, markers, resolveAll, bind, Except.bind]
  cases host.wellKnown Platform.parcelable with
  | error e' => simp only [Except.error.injEq]
  | ok transferable =>
      cases host.wellKnown Platform.serializable with
      | error e' => simp only [Except.error.injEq]
      | ok serializable =>
          cases host.wellKnown Platform.arrayList with
          | error e' => simp only [Except.error.injEq]
          | ok list =>
              cases host.wellKnown Platform.sparseArray with
              | error e' => simp only [Except.error.injEq]
              | ok sparse => simp only [pure, Except.pure, reduceCtorEq]

theorem exists_build_of_markers (h : ∀ name ∈ markers, ∃ t, host.wellKnown name = .ok t) :
    ∃ catalog, CapabilityCatalog.build host = .ok catalog := by
  cases hb : CapabilityCatalog.build host with
  | ok catalog => exact ⟨catalog, rfl⟩
  | error e =>
      have he := build_eq_error_iff_resolveAll.mp hb
      rw [resolveAll_eq_ok_iff.mpr h] at he
      cases he

theorem plan_eq_error_iff {options : PlanningOptions} {candidates : List DeclarationSource} :
    host.plan options candidates = .error e ↔ CapabilityCatalog.build host = .error e := by
  simp only [plan, bind, Except.bind]
  cases CapabilityCatalog.build host with
  | ok catalog => simp only [pure, Except.pure, reduceCtorEq]
  | error e' => simp only [Except.error.injEq]

theorem plan_of_build {catalog : CapabilityCatalog}
    (hb : CapabilityCatalog.build host = .ok catalog) (options : PlanningOptions)
    (candidates : List DeclarationSource) :
    host.plan options candidates = .ok (.ofCandidates catalog options candidates) := by
  rw [plan, hb]
  rfl

end TypeHost

namespace Outcome

instance : Append Outcome where
  append o o' := ⟨o.plans ++ o'.plans, o.rejections ++ o'.rejections⟩

def single : Except Rejection Plan → Outcome
  | .ok p => { plans := [p] }
  | .error r => { rejections := [r] }

theorem plans_append (o o' : Outcome) : (o ++ o').plans = o.plans ++ o'.plans := rfl

theorem rejections_append (o o' : Outcome) : (o ++ o').rejections = o.rejections ++ o'.rejections :=
  rfl

theorem prepend_eq_append (verdict : Except Rejection Plan) (o : Outcome) :
    o.prepend verdict = single verdict ++ o := by
  cases verdict <;> rfl

theorem append_assoc (o₁ o₂ o₃ : Outcome) : o₁ ++ o₂ ++ o₃ = o₁ ++ (o₂ ++ o₃) := by
  obtain ⟨p₁, r₁⟩ := o₁
  obtain ⟨p₂, r₂⟩ := o₂
  obtain ⟨p₃, r₃⟩ := o₃
  exact congrArg₂ Outcome.mk (List.append_assoc p₁ p₂ p₃) (List.append_assoc r₁ r₂ r₃)

variable {catalog : CapabilityCatalog} {options : PlanningOptions}

theorem ofCandidates_cons (s : DeclarationSource) (ss : List DeclarationSource) :
    ofCandidates catalog options (s :: ss) =
      single (s.plan catalog options) ++ ofCandidates catalog options ss :=
  prepend_eq_append _ _

theorem ofCandidates_singleton (s : DeclarationSource) :
    ofCandidates catalog options [s] = single (s.plan catalog options) := by
  rw [ofCandidates_cons]
  cases s.plan catalog options <;> rfl

theorem ofCandidates_append (xs ys : List DeclarationSource) :
    ofCandidates catalog options (xs ++ ys) =
      ofCandidates catalog options xs ++ ofCandidates catalog options ys := by
  induction xs with
  | nil => rfl
  | cons x xs ih => rw [List.cons_append, ofCandidates_cons, ofCandidates_cons, ih, append_assoc]

theorem length_ofCandidates (ss : List DeclarationSource) :
    (ofCandidates catalog options ss).plans.length +
      (ofCandidates catalog options ss).rejections.length = ss.length := by
  induction ss with
  | nil => rfl
  | cons s ss ih =>
      rw [ofCandidates_cons, plans_append, rejections_append, List.length_append,
        List.length_append, List.length_cons, ← ih]
      cases s.plan catalog options with
      | ok p => simp only [single, List.length_singleton, List.length_nil]; omega
      | error r => simp only [single, List.length_singleton, List.length_nil]; omega

end Outcome

namespace TypeHost

/-- A run fails only where the host does not resolve a marker, and tells the first of them. In every
other run each candidate, whatever fails in it, gives the entry that it gives alone: plans and
rejections stand in the order of the candidates, one for each, the outcome of two batches is that of
the one beside that of the other, and a candidate that is added, taken out or broken leaves the
entries before and after it as they are. The host of a manifest resolves all markers. -/
theorem candidates_are_isolated (host : TypeHost) :
    (∀ options candidates e, host.plan options candidates = .error e ↔
      ∃ before name after, markers = before ++ name :: after ∧
        (∀ n ∈ before, ∃ t, host.wellKnown n = .ok t) ∧ host.wellKnown name = .error e) ∧
    ((∀ name ∈ markers, ∃ t, host.wellKnown name = .ok t) →
      ∃ catalog, CapabilityCatalog.build host = .ok catalog ∧
        ∀ options, ∃ run : List DeclarationSource → Outcome,
          (∀ candidates, host.plan options candidates = .ok (run candidates)) ∧
          (∀ candidates,
            (run candidates).plans =
              candidates.filterMap (fun s => (s.plan catalog options).toOption) ∧
            (run candidates).rejections = candidates.filterMap (·.rejection? catalog options) ∧
            (run candidates).plans.length + (run candidates).rejections.length =
              candidates.length) ∧
          (∀ s, run [s] = .single (s.plan catalog options)) ∧
          (∀ xs ys, run (xs ++ ys) = run xs ++ run ys) ∧
          ∀ xs s ys, run (xs ++ s :: ys) = run xs ++ .single (s.plan catalog options) ++ run ys) ∧
    ∀ m u, Universe.ofManifest m = .ok u →
      ∀ options candidates, ∃ o, u.host.plan options candidates = .ok o := by
  refine ⟨fun options candidates e => ?_, fun hmarkers => ?_, fun m u hu options candidates => ?_⟩
  · rw [plan_eq_error_iff, build_eq_error_iff_resolveAll, resolveAll_eq_error_iff]
  · -- with the catalog built, the run is a function of the candidates that maps each on its own
    obtain ⟨catalog, hb⟩ := exists_build_of_markers hmarkers
    refine ⟨catalog, hb, fun options => ⟨.ofCandidates catalog options, plan_of_build hb options,
      fun candidates => ⟨Outcome.plans_ofCandidates candidates,
        Outcome.rejections_ofCandidates candidates, Outcome.length_ofCandidates candidates⟩,
      Outcome.ofCandidates_singleton, Outcome.ofCandidates_append, fun xs s ys => ?_⟩⟩
    rw [Outcome.ofCandidates_append, Outcome.ofCandidates_cons, Outcome.append_assoc]
  · obtain ⟨catalog, hb, -⟩ := Universe.exists_catalog hu
    exact ⟨_, plan_of_build hb options candidates⟩

def bare : TypeHost where
  isAssignable := fun _ _ => false
  wellKnown := fun name => .ok (.declared name [])
  knownTypes := []
  typeParameters := fun _ => []
  view := fun _ _ => none

def crashing : DeclarationSource :=
  { Declaration.source { name := "a.Bad" } with methods := .error (.crash ⟨some "corrupted"⟩) }

def silent : DeclarationSource :=
  { Declaration.source { name := "a.Mute" } with
    constructors := .error (.failure (.query "unavailable")) }

theorem plain_class_is_isolated :
    (∀ name ∈ markers, ∃ t, bare.wellKnown name = .ok t) ∧
      ∃ o, bare.plan {} [crashing, Declaration.source { name := "a.Plain" }, silent] = .ok o ∧
        o.plans.map (·.companion) = ["BundlerPlain"] ∧
        o.rejections.map (fun r => (r.model, r.stage, r.objections)) =
          [("a.Bad", .discovered, [.internal "corrupted"]),
            ("a.Mute", .fieldsCollected, [.internal "symbol table query failed: unavailable"])] ∧
    ∃ u o', Universe.ofManifest { types := [{ name := "a.Plain" }] } = .ok u ∧
      u.host.plan {} [crashing] = .ok o' := by
  have hmarkers : ∀ name ∈ markers, ∃ t, bare.wellKnown name = .ok t :=
    fun name _ => ⟨.declared name [], rfl⟩
  obtain ⟨-, hruns, hloaded⟩ := candidates_are_isolated bare
  obtain ⟨catalog, hb, hrun⟩ := hruns hmarkers
  obtain rfl : (⟨[]⟩ : CapabilityCatalog) = catalog := Except.ok.inj hb
  obtain ⟨run, hplan, hentries, -⟩ := hrun {}
  obtain ⟨hplans, hrejections, -⟩ :=
    hentries [crashing, Declaration.source { name := "a.Plain" }, silent]
  obtain ⟨o', ho'⟩ := hloaded { types := [{ name := "a.Plain" }] } _ rfl {} [crashing]
  refine ⟨hmarkers, _, hplan _, ?_, ?_, _, o', rfl, ho'⟩
  · rw [hplans]
    rfl
  · rw [hrejections]
    rfl

end TypeHost

end Companion
