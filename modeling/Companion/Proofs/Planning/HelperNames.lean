import Companion.Proofs.Planning.Run
import Companion.Proofs.Text.UpperCase
import Mathlib.Tactic.FinCases

namespace Companion.Naming

open Text

variable {c d : Char} {w rest : List Char} {x y : String}

theorem length_le_flatMap_wordChar (w : List Char) : w.length ≤ (w.flatMap wordChar).length := by
  have hone : ∀ c, 1 ≤ (wordChar c).length := by
    intro c
    have hpos := List.length_pos_iff.mpr (toUppercase_ne_nil c)
    rw [wordChar]
    split
    · rw [List.length_cons]
      omega
    · exact hpos
  induction w with
  | nil => simp
  | cons c w ih =>
      have hc := hone c
      rw [List.flatMap_cons, List.length_append, List.length_cons]
      omega

theorem flatMap_wordChar_eq_iff (hw : ∀ x ∈ w, isUppercase x = false → toUppercase x = [x]) :
    w.flatMap wordChar = w ↔ w.any isUppercase = false := by
  induction w with
  | nil => simp
  | cons c w ih =>
      obtain ⟨hc, hw⟩ := List.forall_mem_cons.mp hw
      rw [List.flatMap_cons, List.any_cons, wordChar]
      cases hup : isUppercase c with
      | false => simpa [hc hup] using ih hw
      | true =>
          have hpos := List.length_pos_iff.mpr (toUppercase_ne_nil c)
          have hle := length_le_flatMap_wordChar w
          simp only [if_true, Bool.true_or, Bool.true_eq_false, iff_false]
          intro heq
          have hlength := congrArg List.length heq
          simp only [List.cons_append, List.length_cons, List.length_append] at hlength
          omega

theorem upperCamel_cons (hx : x.toList = c :: rest) :
    (upperCamel x).toList = toUppercase c ++ rest := by
  rw [upperCamel, hx, String.toList_ofList]

theorem upperUnderscore_cons (hx : x.toList = c :: rest) :
    (upperUnderscore x).toList = toUppercase c ++ rest.flatMap wordChar := by
  rw [upperUnderscore, hx, String.toList_ofList]

theorem containerKey_eq_iff :
    containerKey x = containerKey y ↔ upperUnderscore x = upperUnderscore y :=
  String.append_right_inj "ARG_"

/-- The upper-case form of the first character of `y` has, after that of the first character of `x`,
the characters with which `x` goes on, and a capital among them. -/
def Anticipates (y x : String) : Prop :=
  ∃ c d w rest, x.toList = c :: (w ++ rest) ∧ y.toList = d :: rest ∧
    toUppercase d = toUppercase c ++ w ∧ w.any isUppercase = true

theorem mem_tail_of_mem (hd : toUppercase d = toUppercase c ++ w) {e : Char} (he : e ∈ w) :
    e ∈ (toUppercase d).tail := by
  rw [hd, List.tail_append_of_ne_nil (toUppercase_ne_nil c)]
  exact List.mem_append_right _ he

theorem upperUnderscore_eq_iff (hx : x.toList = c :: (w ++ rest)) (hy : y.toList = d :: rest)
    (hd : toUppercase d = toUppercase c ++ w) :
    upperUnderscore x = upperUnderscore y ↔ w.any isUppercase = false := by
  have hw : ∀ e ∈ w, isUppercase e = false → toUppercase e = [e] := fun e he =>
    toUppercase_of_mem_tail (mem_tail_of_mem hd he)
  rw [← flatMap_wordChar_eq_iff hw, ← String.toList_inj, upperUnderscore_cons hx,
    upperUnderscore_cons hy, hd, List.flatMap_append, List.append_assoc,
    List.append_cancel_left_eq, List.append_cancel_right_eq]

theorem Anticipates.upperCamel_eq (h : Anticipates y x) : upperCamel x = upperCamel y := by
  obtain ⟨c, d, w, rest, hx, hy, hd, _⟩ := h
  rw [← String.toList_inj, upperCamel_cons hx, upperCamel_cons hy, hd, List.append_assoc]

theorem Anticipates.upperUnderscore_ne (h : Anticipates y x) :
    upperUnderscore x ≠ upperUnderscore y := by
  obtain ⟨c, d, w, rest, hx, hy, hd, hcapital⟩ := h
  rw [Ne, upperUnderscore_eq_iff hx hy hd, hcapital]
  exact Bool.noConfusion

theorem Anticipates.two_le_length (h : Anticipates y x) :
    ∃ d, y.toList.head? = some d ∧ 2 ≤ (toUppercase d).length := by
  obtain ⟨c, d, w, rest, _, hy, hd, hcapital⟩ := h
  have hc := List.length_pos_iff.mpr (toUppercase_ne_nil c)
  have hw : 0 < w.length := by
    cases w with
    | nil => cases hcapital
    | cons e w => simp
  refine ⟨d, by rw [hy, List.head?_cons], ?_⟩
  rw [hd, List.length_append]
  omega

theorem anticipates_of_ne (hx : x.toList = c :: (w ++ rest)) (hy : y.toList = d :: rest)
    (hd : toUppercase d = toUppercase c ++ w) (hne : upperUnderscore x ≠ upperUnderscore y) :
    Anticipates y x := by
  rw [Ne, upperUnderscore_eq_iff hx hy hd, Bool.not_eq_false] at hne
  exact ⟨c, d, w, rest, hx, hy, hd, hne⟩

theorem toList_eq_nil_of_upperCamel_eq (hx : x.toList = []) (heq : upperCamel x = upperCamel y) :
    y.toList = [] := by
  cases hy : y.toList with
  | nil => rfl
  | cons d ds =>
      have hlist := congrArg String.toList heq
      rw [upperCamel_cons hy, upperCamel, hx] at hlist
      exact absurd (List.append_eq_nil_iff.mp hlist.symm).1 (toUppercase_ne_nil d)

/-- Names that differ as keys and not as helpers are those of which one anticipates the other. -/
theorem upperCamel_eq_and_ne_iff :
    upperCamel x = upperCamel y ∧ upperUnderscore x ≠ upperUnderscore y ↔
      Anticipates x y ∨ Anticipates y x := by
  constructor
  · rintro ⟨hcamel, hkey⟩
    have hempty : ¬(x.toList = [] ∧ y.toList = []) := fun h => by
      rw [String.toList_inj.mp (h.1.trans h.2.symm)] at hkey
      exact hkey rfl
    cases hx : x.toList with
    | nil => exact absurd ⟨hx, toList_eq_nil_of_upperCamel_eq hx hcamel⟩ hempty
    | cons c cs =>
        cases hy : y.toList with
        | nil => exact absurd ⟨toList_eq_nil_of_upperCamel_eq hy hcamel.symm, hy⟩ hempty
        | cons d ds =>
            have hlist := congrArg String.toList hcamel
            rw [upperCamel_cons hx, upperCamel_cons hy] at hlist
            -- the longer one of the two upper-case forms takes from the other name's rest
            rcases List.append_eq_append_iff.mp hlist with ⟨w, hd, rfl⟩ | ⟨w, hc, rfl⟩
            · exact .inr (anticipates_of_ne hx hy hd hkey)
            · exact .inl (anticipates_of_ne hy hx hc hkey.symm)
  · rintro (h | h)
    · exact ⟨h.upperCamel_eq.symm, h.upperUnderscore_ne.symm⟩
    · exact ⟨h.upperCamel_eq, h.upperUnderscore_ne⟩

theorem getHelperName_eq_and_containerKey_ne_iff (x y : String) :
    getHelperName x = getHelperName y ∧ containerKey x ≠ containerKey y ↔
      Anticipates x y ∨ Anticipates y x := by
  rw [getHelperName, getHelperName, String.append_right_inj, Ne, containerKey_eq_iff]
  exact upperCamel_eq_and_ne_iff

end Companion.Naming

namespace Companion.Model

open Naming

variable {source : DeclarationSource} {catalog : CapabilityCatalog} {options : PlanningOptions}
  {m : Model}

theorem nodup_containerKeys (hm : ofSource source catalog options = .ok m)
    (hk : options.checkKeyCollisions = true) : (m.plan.fields.map (·.containerKey)).Nodup := by
  obtain ⟨_, _, _, _, _, _, _, _, _, _, hcheck, _⟩ := ofSource_ok_iff.mp hm
  obtain ⟨hpassed, hkeys, _⟩ := check_ok_iff.mp hcheck
  have hdistinct := hkeys hk
  rw [← map_field_of_checkFields hpassed, List.map_map] at hdistinct
  rw [plan, List.map_map]
  exact hdistinct

theorem nodup_verbNames_iff {fields : List FieldPlan}
    (hkeys : fields.Pairwise fun f g => containerKey f.name ≠ containerKey g.name)
    (verb : String) :
    (fields.map fun f => verb ++ upperCamel f.name).Nodup ↔
      ∀ f ∈ fields, ∀ g ∈ fields, ¬Anticipates f.name g.name := by
  constructor
  · intro hnodup f hf g hg h
    have hsame : f = g := List.inj_on_of_nodup_map hnodup hf hg
      ((String.append_right_inj verb).mpr h.upperCamel_eq.symm)
    rw [hsame] at h
    exact h.upperUnderscore_ne rfl
  · intro hfree
    rw [List.Nodup, List.pairwise_map]
    refine hkeys.imp_of_mem fun {f g} hf hg hne heq => ?_
    rw [Ne, containerKey_eq_iff] at hne
    rw [String.append_right_inj] at heq
    rcases upperCamel_eq_and_ne_iff.mp ⟨heq, hne⟩ with h | h
    · exact hfree f hf g hg h
    · exact hfree g hg f hf h

theorem names_of_mem_plan {f : FieldPlan} (hf : f ∈ m.plan.fields) :
    f.containerKey = containerKey f.name ∧ f.getHelper = getHelperName f.name ∧
      f.putHelper = putHelperName f.name := by
  obtain ⟨mf, _, rfl⟩ := List.mem_map.mp hf
  exact ⟨rfl, rfl, rfl⟩

theorem exists_verb {names : List String}
    (hn : names ∈ [m.plan.fields.map (·.getHelper), m.plan.fields.map (·.putHelper),
      m.plan.fields.map (getterName ·.name), m.plan.fields.map (setterName ·.name)]) :
    ∃ verb, names = m.plan.fields.map fun f => verb ++ upperCamel f.name := by
  have hget : m.plan.fields.map (·.getHelper) = m.plan.fields.map (getHelperName ·.name) :=
    List.map_congr_left fun f hf => (names_of_mem_plan hf).2.1
  have hput : m.plan.fields.map (·.putHelper) = m.plan.fields.map (putHelperName ·.name) :=
    List.map_congr_left fun f hf => (names_of_mem_plan hf).2.2
  rw [hget, hput] at hn
  fin_cases hn
  · exact ⟨"get", rfl⟩
  · exact ⟨"put", rfl⟩
  · exact ⟨"get", rfl⟩
  · exact ⟨"set", rfl⟩

/-- With the check for shared keys, the names generated from the fields of an accepted model are
distinct exactly if no field anticipates another, and always if every first character has an
upper-case form of one character. -/
theorem distinct_helpers_of_ofSource (hm : ofSource source catalog options = .ok m)
    (hk : options.checkKeyCollisions = true) :
    (∀ x y, getHelperName x = getHelperName y ∧ containerKey x ≠ containerKey y ↔
      Anticipates x y ∨ Anticipates y x) ∧
    ∀ names ∈ [m.plan.fields.map (·.getHelper), m.plan.fields.map (·.putHelper),
        m.plan.fields.map (getterName ·.name), m.plan.fields.map (setterName ·.name)],
      (names.Nodup ↔ ∀ f ∈ m.plan.fields, ∀ g ∈ m.plan.fields, ¬Anticipates f.name g.name) ∧
      ((∀ f ∈ m.plan.fields, ∀ c, f.name.toList.head? = some c →
        (Text.toUppercase c).length = 1) → names.Nodup) := by
  have hkeys : m.plan.fields.Pairwise fun f g => containerKey f.name ≠ containerKey g.name := by
    refine (List.pairwise_map.mp (nodup_containerKeys hm hk)).imp_of_mem fun hf hg hne => ?_
    rwa [(names_of_mem_plan hf).1, (names_of_mem_plan hg).1] at hne
  refine ⟨getHelperName_eq_and_containerKey_ne_iff, fun names hn => ?_⟩
  obtain ⟨verb, rfl⟩ := exists_verb hn
  have hiff := nodup_verbNames_iff hkeys verb
  refine ⟨hiff, fun hone => hiff.mpr fun f hf g hg h => ?_⟩
  obtain ⟨c, hc, htwo⟩ := h.two_le_length
  rw [hone f hf c hc] at htwo
  exact absurd htwo (by decide)

theorem account_has_distinct_helpers :
    ∃ m, ofSource account.source {} {} = .ok m ∧ ({} : PlanningOptions).checkKeyCollisions = true ∧
      m.plan.fields.map (·.name) = ["id", "total"] ∧ (m.plan.fields.map (·.getHelper)).Nodup := by
  obtain ⟨m, hm, hnames⟩ : ∃ m, ofSource account.source {} {} = .ok m ∧
      m.plan.fields.map (·.name) = ["id", "total"] := ⟨_, rfl, rfl⟩
  refine ⟨m, hm, rfl, hnames, ?_⟩
  refine ((distinct_helpers_of_ofSource hm rfl).2 _ List.mem_cons_self).2 fun f hf c hc => ?_
  have hname : f.name ∈ ["id", "total"] := hnames ▸ List.mem_map_of_mem hf
  rcases List.mem_pair.mp hname with hid | htotal
  · rw [hid] at hc
    obtain rfl : 'i' = c := Option.some.inj hc
    rfl
  · rw [htotal] at hc
    obtain rfl : 't' = c := Option.some.inj hc
    rfl

end Companion.Model

namespace Companion.Universe

/-- The upper-case form of `ß` is `SS`, so that both fields have the helper `getSSx`. -/
def twins : Manifest :=
  { types := [{
      name := "a.Twins"
      annotated := true
      fields := [{ name := "ßx", type := .primitive .int, visibility := .publicMember },
        { name := "sSx", type := .primitive .int, visibility := .publicMember }] }] }

theorem sharp_s_shares_helper :
    (¬∀ m u options o, ofManifest m = .ok u → options.checkKeyCollisions = true →
      u.plan options = .ok o → ∀ p ∈ o.plans, (p.fields.map (·.getHelper)).Nodup) ∧
    ¬∀ x y, Naming.containerKey x ≠ Naming.containerKey y →
      Naming.getHelperName x ≠ Naming.getHelperName y := by
  constructor
  · intro hall
    have hu : ofManifest twins = .ok ⟨twins.types.foldl declare Hierarchy.platform, twins.types⟩ :=
      ofManifest_ok_iff.mpr ⟨by decide, rfl⟩
    obtain ⟨catalog, o, ho, hplans⟩ := exists_plan hu {}
    have hhelpers : o.plans.map (·.fields.map (·.getHelper)) = [["getSSx", "getSSx"]] := by
      rw [hplans]
      rfl
    obtain ⟨p, hp, heq⟩ := List.map_eq_singleton_iff.mp hhelpers
    have hnodup := hall twins _ {} o hu rfl ho p (hp ▸ List.mem_cons_self)
    rw [heq] at hnodup
    exact absurd hnodup (by decide)
  · intro hall
    exact hall "ßx" "sSx" (by decide +kernel) (by decide +kernel)

end Companion.Universe
