import Companion.Proofs.Planning.Run
import Mathlib.Data.List.TakeWhile

namespace Companion

theorem flatten_splitDots (s : List Char) : (splitDots s).flatten = s.filter (· ≠ '.') := by
  induction s with
  | nil => rfl
  | cons c s ih =>
      rw [splitDots]
      by_cases hc : c = '.'
      · rw [if_pos hc, List.flatten_cons, List.nil_append, ih,
          List.filter_cons_of_neg (by simp [hc])]
      · rw [if_neg hc, List.filter_cons_of_pos (by simp [hc]), ← ih]
        cases splitDots s with
        | nil => rfl
        | cons w ws => rfl

theorem toList_companionName (package name : String) :
    (Naming.companionName (simpleNames package name)).toList =
      "Bundler".toList ++ (localName package.toList name.toList).filter (· ≠ '.') := by
  rw [Naming.companionName, String.toList_append, String.toList_join, simpleNames,
    List.flatMap_map, ← flatten_splitDots]
  simp only [String.toList_ofList, List.flatMap_id']

theorem exists_last_dot {s : List Char} (hs : '.' ∈ s) :
    ∃ a x, s = a ++ '.' :: x ∧ '.' ∉ x := by
  obtain ⟨x, a, hsplit, hx⟩ := List.eq_append_cons_of_mem (List.mem_reverse.mpr hs)
  refine ⟨a.reverse, x.reverse, ?_, by simpa using hx⟩
  rw [← List.reverse_reverse s, hsplit]
  simp

namespace Declaration

theorem beforeLastDot_of_notMem {s : List Char} (hs : '.' ∉ s) : beforeLastDot s = [] := by
  have hall : s.reverse.dropWhile (· != '.') = [] := by
    rw [List.dropWhile_eq_nil_iff]
    intro c hc
    simpa using fun h : c = '.' => hs (h ▸ List.mem_reverse.mp hc)
  rw [beforeLastDot, hall]
  rfl

theorem beforeLastDot_append (a : List Char) {x : List Char} (hx : '.' ∉ x) :
    beforeLastDot (a ++ '.' :: x) = a := by
  have hall : ∀ c ∈ x.reverse, (c != '.') = true := by
    intro c hc
    simpa using fun h : c = '.' => hx (h ▸ List.mem_reverse.mp hc)
  rw [beforeLastDot, List.reverse_append, List.reverse_cons, List.append_assoc,
    List.dropWhile_append_of_pos hall]
  simp

end Declaration

open Declaration

theorem eq_of_append_dot_eq {a b x y : List Char} (hx : '.' ∉ x) (hy : '.' ∉ y)
    (h : a ++ '.' :: x = b ++ '.' :: y) : a = b ∧ x = y := by
  have hab := congrArg beforeLastDot h
  rw [beforeLastDot_append a hx, beforeLastDot_append b hy] at hab
  subst hab
  exact ⟨rfl, by simpa using h⟩

theorem localName_append {a : List Char} (ha : a ≠ []) (x : List Char) :
    localName a (a ++ '.' :: x) = x := by
  have hprefix : (a ++ ['.']).isPrefixOf (a ++ '.' :: x) = true := by
    rw [List.isPrefixOf_iff_prefix]
    exact ⟨x, by simp⟩
  rw [localName, if_neg (by simpa using ha), if_pos hprefix, List.append_cons]
  simp

theorem eq_of_beforeLastDot {s : List Char} (hs : s.head? ≠ some '.') :
    s = if beforeLastDot s = [] then (localName (beforeLastDot s) s).filter (· ≠ '.')
      else beforeLastDot s ++ '.' :: (localName (beforeLastDot s) s).filter (· ≠ '.') := by
  have hkeep : ∀ {x : List Char}, '.' ∉ x → x.filter (· ≠ '.') = x := by
    intro x hx
    rw [List.filter_eq_self]
    intro c hc
    simpa using fun h : c = '.' => hx (h ▸ hc)
  by_cases hdot : '.' ∈ s
  · obtain ⟨a, x, rfl, hx⟩ := exists_last_dot hdot
    have ha : a ≠ [] := by
      rintro rfl
      exact hs rfl
    rw [beforeLastDot_append a hx, localName_append ha, if_neg ha, hkeep hx]
  · rw [beforeLastDot_of_notMem hdot, if_pos rfl, localName, List.isEmpty_nil, if_pos rfl,
      hkeep hdot]

namespace Plan

/-- The name of the model inside its package, with the dots left out. -/
def localText (p : Plan) : List Char :=
  (localName p.package.toList p.model.toList).filter (· ≠ '.')

def NamesCompanion (p : Plan) : Prop :=
  p.companion = Naming.companionName (simpleNames p.package p.model)

variable {p q : Plan}

theorem NamesCompanion.toList_companion (hp : p.NamesCompanion) :
    p.companion.toList = "Bundler".toList ++ p.localText := by
  rw [hp, toList_companionName, localText]

theorem NamesCompanion.dot_notMem (hp : p.NamesCompanion) : '.' ∉ p.companion.toList := by
  rw [hp.toList_companion, localText]
  simp

theorem companionName_of_package_eq (hp : p.package = "") : p.companionName = p.companion := by
  rw [companionName, if_pos (String.isEmpty_iff.mpr hp)]

theorem toList_companionName_of_ne (hp : p.package ≠ "") :
    p.companionName.toList = p.package.toList ++ '.' :: p.companion.toList := by
  rw [companionName, if_neg fun h => hp (String.isEmpty_iff.mp h)]
  simp

theorem NamesCompanion.companionName_ne (hp : p.NamesCompanion) (hpackage : p.package = "")
    (hq : q.package ≠ "") : p.companionName ≠ q.companionName := by
  intro heq
  have hdot : '.' ∈ q.companionName.toList := by
    rw [toList_companionName_of_ne hq]
    simp
  rw [← heq, companionName_of_package_eq hpackage] at hdot
  exact hp.dot_notMem hdot

theorem NamesCompanion.companionName_eq_iff_companion (hp : p.NamesCompanion)
    (hq : q.NamesCompanion) :
    p.companionName = q.companionName ↔ p.package = q.package ∧ p.companion = q.companion := by
  constructor
  · intro heq
    by_cases hpp : p.package = "" <;> by_cases hqq : q.package = ""
    · rw [companionName_of_package_eq hpp, companionName_of_package_eq hqq] at heq
      exact ⟨hpp.trans hqq.symm, heq⟩
    · exact absurd heq (hp.companionName_ne hpp hqq)
    · exact absurd heq.symm (hq.companionName_ne hqq hpp)
    · have hlist := congrArg String.toList heq
      rw [toList_companionName_of_ne hpp, toList_companionName_of_ne hqq] at hlist
      obtain ⟨hpackage, hcompanion⟩ := eq_of_append_dot_eq hp.dot_notMem hq.dot_notMem hlist
      exact ⟨String.toList_inj.mp hpackage, String.toList_inj.mp hcompanion⟩
  · rintro ⟨hpackage, hcompanion⟩
    rw [companionName, companionName, hpackage, hcompanion]

theorem NamesCompanion.companionName_eq_iff (hp : p.NamesCompanion) (hq : q.NamesCompanion) :
    p.companionName = q.companionName ↔ p.package = q.package ∧ p.localText = q.localText := by
  have hcompanion : p.companion = q.companion ↔ p.localText = q.localText := by
    rw [← String.toList_inj, hp.toList_companion, hq.toList_companion, List.append_cancel_left_eq]
  rw [hp.companionName_eq_iff_companion hq, hcompanion]

structure DefaultPackage (p : Plan) : Prop where
  package : p.package.toList = Declaration.beforeLastDot p.model.toList
  noDot : p.model.toList.head? ≠ some '.'

theorem defaultPackage_of_eq {d : Declaration} (hmodel : p.model = d.name)
    (hpackage : p.package = d.packageName)
    (hd : d.package = none ∧ d.name.toList.head? ≠ some '.') :
    p.DefaultPackage where
  package := by
    rw [hpackage, Declaration.packageName, hd.1, Option.getD_none, String.toList_ofList, hmodel]
  noDot := hmodel ▸ hd.2

theorem DefaultPackage.model_eq (hp : p.DefaultPackage) : p.model.toList =
    if p.package.toList = [] then p.localText else p.package.toList ++ '.' :: p.localText := by
  rw [localText, hp.package]
  exact eq_of_beforeLastDot hp.noDot

theorem DefaultPackage.model_inj (hp : p.DefaultPackage) (hq : q.DefaultPackage)
    (hpackage : p.package = q.package) (hlocal : p.localText = q.localText) :
    p.model = q.model := by
  rw [← String.toList_inj, hp.model_eq, hq.model_eq, hpackage, hlocal]

end Plan

namespace Universe

variable {m : Manifest} {u : Universe}

/-- Two accepted models have one companion exactly if their packages agree, and their names inside
the packages up to dots. Models that give no package of their own never share one, unless a name
begins with a dot. -/
theorem exists_plan_sharing (hu : ofManifest m = .ok u) (options : PlanningOptions) :
    ∃ o, u.plan options = .ok o ∧ (o.plans.map (·.model)).Nodup ∧
      (∀ p ∈ o.plans, ∀ q ∈ o.plans,
        p.companionName = q.companionName ↔ p.package = q.package ∧ p.localText = q.localText) ∧
      ((o.plans.map (·.companionName)).Nodup ↔
        o.plans.Pairwise fun p q => ¬(p.package = q.package ∧ p.localText = q.localText)) ∧
      ((∀ d ∈ m.types, d.annotated = true →
          d.package = none ∧ d.name.toList.head? ≠ some '.') →
        (o.plans.map (·.companionName)).Nodup) := by
  obtain ⟨catalog, o, ho, hplans⟩ := exists_plan hu options
  have hmodels := pairwise_plans hu hplans
  have hsharing : ∀ p ∈ o.plans, ∀ q ∈ o.plans,
      p.companionName = q.companionName ↔ p.package = q.package ∧ p.localText = q.localText := by
    have hnamed : ∀ p ∈ o.plans, p.NamesCompanion := by
      intro p hp
      obtain ⟨_, _, _, _, _, hcompanion⟩ := exists_declaration_of_plan hu hplans hp
      exact hcompanion
    exact fun p hp q hq => (hnamed p hp).companionName_eq_iff (hnamed q hq)
  have hdistinct : (o.plans.map (·.companionName)).Nodup ↔
      o.plans.Pairwise fun p q => ¬(p.package = q.package ∧ p.localText = q.localText) := by
    rw [List.Nodup, List.pairwise_map]
    exact List.Pairwise.iff_of_mem fun {p q} hp hq => not_congr (hsharing p hp q hq)
  refine ⟨o, ho, List.pairwise_map.mpr hmodels, hsharing, hdistinct, fun hdefault => ?_⟩
  rw [hdistinct]
  -- without a package the name can be put together again from the companion's
  have hplain : ∀ p ∈ o.plans, p.DefaultPackage := by
    intro p hp
    obtain ⟨d, hd, hannotated, hmodel, hpackage, _⟩ := exists_declaration_of_plan hu hplans hp
    exact Plan.defaultPackage_of_eq hmodel hpackage (hdefault d hd hannotated)
  exact hmodels.imp_of_mem fun {p q} hp hq hne hsame =>
    hne ((hplain p hp).model_inj (hplain q hq) hsame.1 hsame.2)

def items : Manifest :=
  { types := [{ name := "a.Item", annotated := true }, { name := "b.Item", annotated := true },
      { name := "a.Items", annotated := true }] }

theorem items_have_companions :
    ∃ u o, ofManifest items = .ok u ∧ u.plan {} = .ok o ∧
      (∀ d ∈ items.types, d.annotated = true →
        d.package = none ∧ d.name.toList.head? ≠ some '.') ∧
      (o.plans.map (·.companionName)).Nodup := by
  have hu : ofManifest items = .ok ⟨items.types.foldl declare Hierarchy.platform, items.types⟩ :=
    ofManifest_ok_iff.mpr ⟨by decide, rfl⟩
  have hdefault : ∀ d ∈ items.types, d.annotated = true →
      d.package = none ∧ d.name.toList.head? ≠ some '.' := by decide
  obtain ⟨o, ho, _, _, _, hplain⟩ := exists_plan_sharing hu {}
  exact ⟨_, o, hu, ho, hdefault, hplain hdefault⟩

/-- A nested class, and a class beside the one around it whose name runs the two names together. -/
def nested : Manifest :=
  { types := [{ name := "a.B.C", package := some "a", annotated := true },
      { name := "a.BC", annotated := true }] }

theorem nested_class_shares_companion :
    ¬∀ m u options o, ofManifest m = .ok u → u.plan options = .ok o →
      (o.plans.map (·.companionName)).Nodup := by
  intro hall
  have hu : ofManifest nested = .ok ⟨nested.types.foldl declare Hierarchy.platform, nested.types⟩ :=
    ofManifest_ok_iff.mpr ⟨by decide, rfl⟩
  obtain ⟨catalog, o, ho, hplans⟩ := exists_plan hu {}
  have hnodup := hall nested _ {} o hu ho
  have hnames : o.plans.map (·.companionName) = ["a.BundlerBC", "a.BundlerBC"] := by
    rw [hplans]
    rfl
  rw [hnames] at hnodup
  exact absurd hnodup (by decide)

end Universe

end Companion
