import Companion.Proofs.Planning.HelperNames
import Companion.Proofs.Planning.SharedKeys

namespace Companion.Naming

open Text

variable {c : Char} {cs : List Char} {x y : String}

def beginsSmall (part : Char → Bool) (name : String) : Bool :=
  match name.toList with
  | [] => false
  | c :: cs => c.isLower && cs.all part

def isPlain : String → Bool := beginsSmall fun c => c.isAlphanum || c == '_'

def isLowerCamel : String → Bool := beginsSmall Char.isAlphanum

def snakeChar (c : Char) : List Char := if c.isUpper then ['_', c.toLower] else [c]

def snake (name : String) : String := String.ofList (name.toList.flatMap snakeChar)

def ofSnake : List Char → List Char
  | [] => []
  | [c] => [c]
  | c :: d :: rest => if c = '_' then d.toUpper :: ofSnake rest else c :: ofSnake (d :: rest)

def ofContainerKey (key : String) : String :=
  String.ofList (ofSnake ((key.toList.drop "ARG_".length).map Char.toLower))

theorem exists_of_beginsSmall {part : Char → Bool} (hx : beginsSmall part x = true) :
    ∃ c cs, x.toList = c :: cs ∧ c.isLower = true ∧ ∀ d ∈ cs, part d = true := by
  rw [beginsSmall] at hx
  split at hx
  · cases hx
  · next c cs hlist =>
    rw [Bool.and_eq_true, List.all_eq_true] at hx
    exact ⟨c, cs, hlist, hx⟩

theorem isPlain_of_isLowerCamel (hx : isLowerCamel x = true) : isPlain x = true := by
  obtain ⟨c, cs, hlist, hc, hcs⟩ := exists_of_beginsSmall hx
  rw [isPlain, beginsSmall, hlist, Bool.and_eq_true, List.all_eq_true]
  exact ⟨hc, fun d hd => by rw [hcs d hd, Bool.true_or]⟩

section Ascii

theorem toNat_lt_of_isAlphanum (hc : c.isAlphanum = true) : c.toNat < 128 := by
  suffices hle : c.val ≤ 'z'.val from
    Nat.lt_of_le_of_lt (UInt32.le_iff_toNat_le.mp hle) (by decide)
  rcases (Bool.or_eq_true _ _).mp hc with halpha | hdigit
  · rcases (Bool.or_eq_true _ _).mp halpha with hupper | hlower
    · exact UInt32.le_trans (of_decide_eq_true hupper).2 (by decide)
    · exact of_decide_eq_true ((Bool.and_eq_true _ _).mp hlower).2
  · exact UInt32.le_trans (of_decide_eq_true ((Bool.and_eq_true _ _).mp hdigit).2) (by decide)

theorem isAlphanum_of_isLower (hc : c.isLower = true) : c.isAlphanum = true :=
  (Bool.or_eq_true _ _).mpr (.inl ((Bool.or_eq_true _ _).mpr (.inr hc)))

theorem isAlphanum_of_isUpper (hc : c.isUpper = true) : c.isAlphanum = true :=
  (Bool.or_eq_true _ _).mpr (.inl ((Bool.or_eq_true _ _).mpr (.inl hc)))

theorem wordChar_of_ascii (hc : c.toNat < 128) : wordChar c = (snakeChar c).map Char.toUpper :=
  of_ascii (P := fun c => wordChar c = (snakeChar c).map Char.toUpper) (by decide +kernel) hc

theorem map_toLower_toUpper_snakeChar (hc : c.toNat < 128) :
    ((snakeChar c).map Char.toUpper).map Char.toLower = snakeChar c :=
  of_ascii (P := fun c => ((snakeChar c).map Char.toUpper).map Char.toLower = snakeChar c)
    (by decide +kernel) hc

theorem toUpper_toLower_of_isUpper (hc : c.isUpper = true) : c.toLower.toUpper = c :=
  of_ascii (P := fun c => c.isUpper = true → c.toLower.toUpper = c) (by decide +kernel)
    (toNat_lt_of_isAlphanum (isAlphanum_of_isUpper hc)) hc

end Ascii

section Snake

theorem toNat_lt_of_isPlain (hx : isPlain x = true) : ∀ d ∈ x.toList, d.toNat < 128 := by
  obtain ⟨c, cs, hlist, hc, hcs⟩ := exists_of_beginsSmall hx
  rw [hlist, List.forall_mem_cons]
  refine ⟨toNat_lt_of_isAlphanum (isAlphanum_of_isLower hc), fun d hd => ?_⟩
  rcases Bool.or_eq_true _ _ ▸ hcs d hd with halpha | hunderscore
  · exact toNat_lt_of_isAlphanum halpha
  · rw [beq_iff_eq.mp hunderscore]
    decide

theorem snakeChar_of_isLower (hc : c.isLower = true) : snakeChar c = [c] :=
  of_ascii (P := fun c => c.isLower = true → snakeChar c = [c]) (by decide +kernel)
    (toNat_lt_of_isAlphanum (isAlphanum_of_isLower hc)) hc

/-- The key of a plain name is its spelling in snake case, with a capital for each small letter. -/
theorem toList_upperUnderscore (hx : isPlain x = true) :
    (upperUnderscore x).toList = (snake x).toList.map Char.toUpper := by
  have hascii := toNat_lt_of_isPlain hx
  obtain ⟨c, cs, hlist, hc, -⟩ := exists_of_beginsSmall hx
  rw [hlist, List.forall_mem_cons] at hascii
  have hwords : cs.flatMap wordChar = cs.flatMap fun d => (snakeChar d).map Char.toUpper :=
    List.flatMap_congr fun d hd => wordChar_of_ascii (hascii.2 d hd)
  rw [upperUnderscore_cons hlist, snake, String.toList_ofList, hlist, List.flatMap_cons,
    snakeChar_of_isLower hc, List.map_append, List.map_singleton, toUppercase_of_ascii hascii.1,
    hwords, List.map_flatMap]

theorem map_toLower_upperUnderscore (hx : isPlain x = true) :
    (upperUnderscore x).toList.map Char.toLower = (snake x).toList := by
  have hsnake : ∀ d ∈ x.toList, ((snakeChar d).map Char.toUpper).map Char.toLower = snakeChar d :=
    fun d hd => map_toLower_toUpper_snakeChar (toNat_lt_of_isPlain hx d hd)
  rw [toList_upperUnderscore hx, snake, String.toList_ofList, List.map_flatMap, List.map_flatMap]
  exact List.flatMap_congr hsnake

theorem containerKey_eq_iff_snake (hx : isPlain x = true) (hy : isPlain y = true) :
    containerKey x = containerKey y ↔ snake x = snake y := by
  rw [containerKey_eq_iff, ← String.toList_inj, ← String.toList_inj]
  constructor
  · intro h
    rw [← map_toLower_upperUnderscore hx, ← map_toLower_upperUnderscore hy, h]
  · intro h
    rw [toList_upperUnderscore hx, toList_upperUnderscore hy, h]

end Snake

section LowerCamel

theorem ofSnake_cons (hc : c ≠ '_') (rest : List Char) :
    ofSnake (c :: rest) = c :: ofSnake rest := by
  cases rest with
  | nil => rfl
  | cons d rest => rw [ofSnake, if_neg hc]

theorem ofSnake_snakeChar_append (hc : c.isAlphanum = true) (rest : List Char) :
    ofSnake (snakeChar c ++ rest) = c :: ofSnake rest := by
  rw [snakeChar]
  split
  · next hupper =>
    rw [List.cons_append, List.singleton_append, ofSnake, if_pos rfl,
      toUpper_toLower_of_isUpper hupper]
  · -- what begins a word in snake case is no letter and no digit
    have hne : c ≠ '_' := by
      rintro rfl
      cases hc
    rw [List.singleton_append, ofSnake_cons hne]

theorem ofSnake_flatMap (hcs : ∀ c ∈ cs, c.isAlphanum = true) :
    ofSnake (cs.flatMap snakeChar) = cs := by
  induction cs with
  | nil => rfl
  | cons c cs ih =>
      obtain ⟨hc, hcs⟩ := List.forall_mem_cons.mp hcs
      rw [List.flatMap_cons, ofSnake_snakeChar_append hc, ih hcs]

theorem isAlphanum_of_isLowerCamel (hx : isLowerCamel x = true) :
    ∀ d ∈ x.toList, d.isAlphanum = true := by
  obtain ⟨c, cs, hlist, hc, hcs⟩ := exists_of_beginsSmall hx
  rw [hlist, List.forall_mem_cons]
  exact ⟨isAlphanum_of_isLower hc, hcs⟩

theorem ofContainerKey_containerKey (hx : isLowerCamel x = true) :
    ofContainerKey (containerKey x) = x := by
  have hkey : (containerKey x).toList.drop "ARG_".length = (upperUnderscore x).toList := by
    rw [containerKey, String.toList_append]
    rfl
  rw [ofContainerKey, hkey, map_toLower_upperUnderscore (isPlain_of_isLowerCamel hx), snake,
    String.toList_ofList, ofSnake_flatMap (isAlphanum_of_isLowerCamel hx), String.ofList_toList]

theorem containerKey_inj (hx : isLowerCamel x = true) (hy : isLowerCamel y = true) :
    containerKey x = containerKey y ↔ x = y := by
  refine ⟨fun h => ?_, congrArg containerKey⟩
  rw [← ofContainerKey_containerKey hx, h, ofContainerKey_containerKey hy]

theorem nodup_containerKeys_of_names {fields : List Field}
    (hcamel : ∀ f ∈ fields, isLowerCamel f.name = true) (hnames : (fields.map (·.name)).Nodup) :
    (fields.map fun f => containerKey f.name).Nodup := by
  rw [List.Nodup, List.pairwise_map] at hnames ⊢
  exact hnames.imp_of_mem fun hf hg hne hkey =>
    hne ((containerKey_inj (hcamel _ hf) (hcamel _ hg)).mp hkey)

end LowerCamel

end Companion.Naming

namespace Companion.Model

open Naming

variable {source : DeclarationSource} {catalog : CapabilityCatalog} {fields : List Field}

theorem check_of_nodup (hkeys : (fields.map fun f => containerKey f.name).Nodup)
    (ctx : FieldContext) (diagnostics : Diagnostics) (name : String) (c : Constructor) :
    check ctx ⟨diagnostics, true⟩ name fields c = check ctx ⟨diagnostics, false⟩ name fields c := by
  have hnone : keyCollisions [] fields = [] :=
    keyCollisions_eq_nil_iff.mpr ⟨hkeys, List.disjoint_nil_right _⟩
  simp only [check, hnone, PlanningOptions.collectsAll, ite_self]

theorem Profile.judge_of_nodup {p : Profile}
    (hkeys : (p.fields.map fun f => containerKey f.name).Nodup) (diagnostics : Diagnostics)
    (package : Except Crash String) :
    p.judge catalog ⟨diagnostics, true⟩ package = p.judge catalog ⟨diagnostics, false⟩ package := by
  have hchecked : p.checked catalog ⟨diagnostics, true⟩ = p.checked catalog ⟨diagnostics, false⟩ :=
    check_of_nodup hkeys _ diagnostics p.name p.constructor
  have hmodel : p.model catalog ⟨diagnostics, true⟩ = p.model catalog ⟨diagnostics, false⟩ := by
    funext package
    rw [model, model, hchecked]
  rw [judge, judge, hchecked, hmodel]

theorem ofSource_of_nodup (hfields : source.fields = .ok fields)
    (hkeys : (fields.map fun f => containerKey f.name).Nodup) (diagnostics : Diagnostics) :
    ofSource source catalog ⟨diagnostics, true⟩ = ofSource source catalog ⟨diagnostics, false⟩ := by
  cases hp : profile source with
  | error i => rw [ofSource_of_profile_error hp, ofSource_of_profile_error hp]
  | ok p =>
      obtain ⟨-, -, hpfields, -⟩ := profile_ok_iff.mp hp
      obtain rfl : p.fields = fields := Except.ok.inj (hpfields.symm.trans hfields)
      rw [ofSource_of_profile hp, ofSource_of_profile hp, Profile.judge_of_nodup hkeys]

theorem isSharedKey_of_collecting {r : Rejection}
    (hr : ofSource source catalog ⟨.allFailures, false⟩ = .error (.rejection r)) :
    ∀ o ∈ r.objections, o.isSharedKey = false := by
  intro o ho
  cases hp : profile source with
  | ok p =>
      rw [ofSource_of_profile hp, Profile.judge_eq_rejection_iff] at hr
      obtain ⟨-, -, hobjections⟩ := hr
      rw [hobjections, Profile.filter_checked, List.mem_filter] at ho
      simpa using ho.2
  | error i =>
      rw [ofSource_of_profile_error hp] at hr
      cases hr
      obtain ⟨name, -, hpreliminary⟩ := exists_preliminary_of_profile hp
      rw [Rejection.objections, hpreliminary.alone, List.mem_singleton] at ho
      rw [ho]
      exact Objection.isSharedKey_of_isPreliminary hpreliminary.preliminary

theorem isSharedKey_of_permitting {diagnostics : Diagnostics} {r : Rejection}
    (hr : ofSource source catalog ⟨diagnostics, false⟩ = .error (.rejection r)) :
    ∀ o ∈ r.objections, o.isSharedKey = false := by
  cases diagnostics with
  | allFailures => exact isSharedKey_of_collecting hr
  | firstFailure =>
      rw [ofSource_firstFailure, mapError_error_iff] at hr
      obtain ⟨i, hall, hfirst⟩ := hr
      cases i with
      | crash c => cases hfirst
      | rejection all =>
          cases hfirst
          intro o ho
          rw [List.mem_singleton.mp ho]
          exact isSharedKey_of_collecting hall all.first List.mem_cons_self

/-- Names in lower camel case are told apart by their keys and can be read from them, so the check
of the keys changes no verdict on a class whose fields have different names of this form, and no
rejection of it speaks of shared keys. Plain names share a key exactly if they are one name in snake
case. -/
theorem keys_of_plain_names :
    (∀ x y, isLowerCamel x = true → isLowerCamel y = true →
      (containerKey x = containerKey y ↔ x = y)) ∧
    (∀ x, isLowerCamel x = true → ofContainerKey (containerKey x) = x) ∧
    (∀ (source : DeclarationSource) (catalog : CapabilityCatalog) (diagnostics : Diagnostics)
      (fields : List Field), source.fields = .ok fields →
      (∀ f ∈ fields, isLowerCamel f.name = true) → (fields.map (·.name)).Nodup →
      ofSource source catalog ⟨diagnostics, true⟩ = ofSource source catalog ⟨diagnostics, false⟩ ∧
      ∀ r, ofSource source catalog ⟨diagnostics, true⟩ = .error (.rejection r) →
        ∀ o ∈ r.objections, o.isSharedKey = false) ∧
    ∀ x y, isPlain x = true → isPlain y = true →
      (containerKey x = containerKey y ↔ snake x = snake y) := by
  refine ⟨fun x y => containerKey_inj, fun x => ofContainerKey_containerKey, ?_,
    fun x y => containerKey_eq_iff_snake⟩
  intro source catalog diagnostics fields hfields hcamel hnames
  have hsame : ofSource source catalog ⟨diagnostics, true⟩ =
      ofSource source catalog ⟨diagnostics, false⟩ :=
    ofSource_of_nodup hfields (nodup_containerKeys_of_names hcamel hnames) diagnostics
  exact ⟨hsame, fun r hr => isSharedKey_of_permitting (hsame ▸ hr)⟩

/-- A class whose fields differ in the case of a letter, and one of which has no operation. -/
def roster : Declaration where
  name := "a.Roster"
  fields := [
    { name := "userId", type := .primitive .int, visibility := .publicMember },
    { name := "userID", type := .primitive .int, visibility := .publicMember },
    { name := "user2", type := .declared "java.lang.Object" [], visibility := .publicMember }]

def rosterRejection : Rejection where
  model := "a.Roster"
  stage := .constructorResolved
  first := .noOperation "user2" (.declared "java.lang.Object" [])

theorem roster_has_keys_of_its_own :
    isLowerCamel "userId" = true ∧ isLowerCamel "userID" = true ∧
    containerKey "userId" ≠ containerKey "userID" ∧
    ofContainerKey (containerKey "userID") = "userID" ∧
    (∀ f ∈ roster.fields, isLowerCamel f.name = true) ∧ (roster.fields.map (·.name)).Nodup ∧
    ofSource roster.source {} ⟨.allFailures, false⟩ = .error (.rejection rosterRejection) ∧
    (∀ o ∈ rosterRejection.objections, o.isSharedKey = false) ∧
    isPlain "userId" = true ∧ isPlain "user_id" = true ∧
    containerKey "userId" = containerKey "user_id" := by
  obtain ⟨hinj, hread, hverdict, hsnake⟩ := keys_of_plain_names
  have hid : isLowerCamel "userId" = true := by decide
  have hID : isLowerCamel "userID" = true := by decide
  have hcamel : ∀ f ∈ roster.fields, isLowerCamel f.name = true := by decide
  have hnames : (roster.fields.map (·.name)).Nodup := by decide
  have hplain : isPlain "userId" = true := by decide
  have hplain' : isPlain "user_id" = true := by decide
  have hrejected : ofSource roster.source {} ⟨.allFailures, true⟩ =
      .error (.rejection rosterRejection) := rfl
  obtain ⟨hsame, hfree⟩ := hverdict roster.source {} .allFailures roster.fields rfl hcamel hnames
  exact ⟨hid, hID, (hinj _ _ hid hID).not.mpr (by decide), hread _ hID, hcamel, hnames,
    hsame ▸ hrejected, hfree _ hrejected, hplain, hplain',
    (hsnake _ _ hplain hplain').mpr (by decide)⟩

end Companion.Model
