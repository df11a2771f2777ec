import Companion.Proofs.Hierarchy.Assignable
import Companion.Proofs.Hierarchy.Clauses
import Mathlib.Algebra.Order.Ring.Nat
import Mathlib.Data.List.Nodup
import Mathlib.Logic.Relation
import Mathlib.Tactic.Common

namespace Companion.Hierarchy

open HostType Relation

variable {h : Hierarchy} {target : String} {t : HostType}

/-- A search under way: the types still to be looked at, and the names expanded before. -/
structure Walk where
  pending : List HostType
  visited : List String := []

namespace Walk

def start (t : HostType) : Walk := { pending := [t] }

def answer? (target : String) : Walk → Option (Option HostType)
  | ⟨[], _⟩ => some none
  | ⟨t :: _, _⟩ => if t.rawName? = some target then some (some t) else none

inductive Step (h : Hierarchy) (target : String) : Walk → Option String → Walk → Prop
  | notClass {t rest seen} : ¬t.IsClass → Step h target ⟨t :: rest, seen⟩ none ⟨rest, seen⟩
  | unknown {name as rest seen} : name ≠ target → h.find? name = none →
      Step h target ⟨.declared name as :: rest, seen⟩ none ⟨rest, seen⟩
  | visited {name as rest seen} : name ≠ target → name ∈ seen →
      Step h target ⟨.declared name as :: rest, seen⟩ none ⟨rest, seen⟩
  | expand {name as rest seen e} : name ≠ target → h.find? name = some e → name ∉ seen →
      Step h target ⟨.declared name as :: rest, seen⟩ (some name)
        ⟨e.supertypesOf as ++ rest, name :: seen⟩

inductive Run (h : Hierarchy) (target : String) : Walk → List String → Walk → Prop
  | refl (w) : Run h target w [] w
  | head {w n w' names w''} : Step h target w n w' → Run h target w' names w'' →
      Run h target w (n.toList ++ names) w''

variable {w w' : Walk} {n : Option String} {names : List String}

theorem Step.search_eq (hs : Step h target w n w') :
    h.search target w.pending w.visited = h.search target w'.pending w'.visited := by
  cases hs with
  | notClass ht => exact search_notClass ht
  | unknown hn hf => exact search_unknown hn hf
  | visited hn hs => exact search_seen hn hs
  | expand hn hf hs => exact search_known hn hf hs

theorem Step.visited_eq (hs : Step h target w n w') : w'.visited = n.toList ++ w.visited := by
  cases hs with
  | notClass | unknown | visited | expand => rfl

theorem Step.fresh (hs : Step h target w n w') : ∀ name ∈ n, name ∈ h.names ∧ name ∉ w.visited := by
  cases hs with
  | notClass | unknown | visited => exact nofun
  | expand hn hf hs =>
      intro name hname
      cases hname
      exact ⟨List.mem_map_of_mem (mem_of_find? hf), hs⟩

theorem Step.decreases (hs : Step h target w n w') :
    Prod.Lex (· < ·) (· < ·) (h.unseen w'.visited, w'.pending.length)
      (h.unseen w.visited, w.pending.length) := by
  cases hs with
  | notClass | unknown | visited => exact .right _ (Nat.lt_succ_self _)
  | expand hn hf hs => exact .left _ _ (unseen_cons_lt hf hs)

theorem wellFounded_step (h : Hierarchy) (target : String) :
    WellFounded fun w' w => ∃ n, Step h target w n w' :=
  Subrelation.wf (fun ⟨_, hs⟩ => hs.decreases)
    (InvImage.wf (fun w : Walk => (h.unseen w.visited, w.pending.length))
      (Prod.lex Nat.lt_wfRel Nat.lt_wfRel).wf)

theorem exists_step (hw : w.answer? target = none) : ∃ n w', Step h target w n w' := by
  obtain ⟨_ | ⟨t, rest⟩, seen⟩ := w
  · cases hw
  · cases t with
    | declared name as =>
        have hn : name ≠ target := by simpa [answer?, rawName?] using hw
        by_cases hs : name ∈ seen
        · exact ⟨_, _, .visited hn hs⟩
        · cases hf : h.find? name with
          | none => exact ⟨_, _, .unknown hn hf⟩
          | some e => exact ⟨_, _, .expand hn hf hs⟩
    | primitive | array | wildcard | wildcardExtends | var =>
        exact ⟨_, _, .notClass (not_isClass_of_ne (by simp))⟩

theorem search_of_answer? {v : Option HostType} (hw : w.answer? target = some v) :
    h.search target w.pending w.visited = v := by
  obtain ⟨_ | ⟨t, rest⟩, seen⟩ := w
  · cases hw
    exact search_nil h target seen
  · rw [answer?] at hw
    split at hw
    · next hn =>
      cases hw
      obtain ⟨m, as, rfl⟩ := (isClass_of_rawName? hn).eq_declared
      cases hn
      exact search_target h target as rest seen
    · cases hw

theorem Run.search_eq (hr : Run h target w names w') :
    h.search target w.pending w.visited = h.search target w'.pending w'.visited := by
  induction hr with
  | refl => rfl
  | head hs _ ih => exact hs.search_eq.trans ih

theorem exists_run (h : Hierarchy) (target : String) (w : Walk) :
    ∃ names w', Run h target w names w' ∧
      w'.answer? target = some (h.search target w.pending w.visited) := by
  induction w using (wellFounded_step h target).induction with
  | _ w ih =>
  cases hw : w.answer? target with
  | some v => exact ⟨[], w, .refl w, by rw [hw, search_of_answer? hw]⟩
  | none =>
      obtain ⟨n, w', hs⟩ := exists_step (h := h) hw
      obtain ⟨names, w'', hr, hanswer⟩ := ih w' ⟨n, hs⟩
      exact ⟨_, w'', .head hs hr, by rw [hanswer, hs.search_eq]⟩

theorem Run.visited_eq (hr : Run h target w names w') :
    w'.visited = names.reverse ++ w.visited := by
  induction hr with
  | refl => rfl
  | @head w n w' names w'' hs _ ih =>
      rw [ih, hs.visited_eq, List.reverse_append, List.append_assoc]
      cases n with
      | none => rfl
      | some name => rfl

theorem Run.nodup_visited (hr : Run h target w names w') (hw : w.visited.Nodup) :
    w'.visited.Nodup := by
  induction hr with
  | refl => exact hw
  | @head w n w' names w'' hs _ ih =>
      refine ih ?_
      rw [hs.visited_eq]
      cases n with
      | none => exact hw
      | some name => exact List.nodup_cons.mpr ⟨(hs.fresh name rfl).2, hw⟩

theorem Run.known (hr : Run h target w names w') : names ⊆ h.names := by
  induction hr with
  | refl => exact List.nil_subset _
  | head hs _ ih =>
      refine List.append_subset.mpr ⟨fun name hname => ?_, ih⟩
      exact (hs.fresh name (Option.mem_toList.mp hname)).1

theorem Run.nodup (hr : Run h target (start t) names w) : names.Nodup := by
  have hvisited := hr.nodup_visited List.nodup_nil
  rw [hr.visited_eq] at hvisited
  simpa [start] using hvisited

theorem view_eq_iff_run {v : Option HostType} :
    (∃ names w, Run h target (start t) names w ∧ w.answer? target = some v) ↔
      h.view t target = v := by
  constructor
  · rintro ⟨names, w, hr, hw⟩
    exact hr.search_eq.trans (search_of_answer? hw)
  · rintro rfl
    exact exists_run h target (start t)

end Walk

inductive Question where
  | assigns (t target : HostType)
  | fits (arg slot : HostType)

def answer (h : Hierarchy) : Question → Bool
  | .assigns t u => h.isAssignable t u
  | .fits a s => h.holds a s

/-- Whether a type is assignable to another, if the questions that come up are put to `ask`. -/
def assignsBy (h : Hierarchy) (ask : Question → Bool) (t target : HostType) : Bool :=
  if t = target then true
  else
    match t, target with
    | .primitive _, _ => false
    | _, .primitive _ => false
    | .array _, .declared name args =>
      name == Platform.object && args.isEmpty || name == Platform.serializable
        || name == Platform.cloneable
    | .declared n as, .declared name args =>
      name == Platform.object && args.isEmpty ||
        match h.view (.declared n as) name with
        | none => false
        | some v => args.isEmpty || v.args.isEmpty ||
            v.args.length == args.length && (v.args.zip args).all fun p => ask (.fits p.1 p.2)
    | .wildcardExtends upper, .declared name args =>
      name == Platform.object && args.isEmpty || ask (.assigns upper (.declared name args))
    | _, .declared name args => name == Platform.object && args.isEmpty
    | .array c, .array d => ask (.assigns c d)
    | .wildcardExtends upper, target => ask (.assigns upper target)
    | _, _ => false

def fitsBy (ask : Question → Bool) (arg slot : HostType) : Bool :=
  match slot with
  | .wildcard => true
  | .wildcardExtends bound =>
    match arg with
    | .wildcardExtends upper => ask (.assigns upper bound)
    | .wildcard => bound.rawName? == some Platform.object
    | arg => ask (.assigns arg bound)
  | slot => arg == slot

def answerBy (h : Hierarchy) (ask : Question → Bool) : Question → Bool
  | .assigns t target => h.assignsBy ask t target
  | .fits arg slot => fitsBy ask arg slot

/-- The second question may come up while the first one is answered. -/
inductive Asks (h : Hierarchy) : Question → Question → Prop
  | component (c d) : Asks h (.assigns (.array c) (.array d)) (.assigns c d)
  | upper (u target) : Asks h (.assigns (.wildcardExtends u) target) (.assigns u target)
  | argument {n as name bs v a s} : h.view (.declared n as) name = some v → (a, s) ∈ v.args.zip bs →
      Asks h (.assigns (.declared n as) (.declared name bs)) (.fits a s)
  | bounds (u bound) :
      Asks h (.fits (.wildcardExtends u) (.wildcardExtends bound)) (.assigns u bound)
  | bound (a bound) : Asks h (.fits a (.wildcardExtends bound)) (.assigns a bound)

variable {q q' : Question} {f g : Question → Bool}

noncomputable def Question.size : Question → Nat × Nat
  | .assigns t target => (sizeOf target, sizeOf t)
  | .fits arg slot => (sizeOf slot, sizeOf arg)

theorem Asks.decreases (hq : h.Asks q q') : Prod.Lex (· < ·) (· < ·) q'.size q.size := by
  cases hq with
  | component c d => exact .left _ _ (by simp)
  | upper u target => exact .right _ (by simp)
  | argument _ hmem =>
      have hslot := List.sizeOf_lt_of_mem (List.of_mem_zip hmem).2
      exact .left _ _ (by simp only [declared.sizeOf_spec]; omega)
  | bounds u bound => exact .left _ _ (by simp)
  | bound a bound => exact .left _ _ (by simp)

theorem wellFounded_asks (h : Hierarchy) : WellFounded fun q' q => h.Asks q q' :=
  Subrelation.wf Asks.decreases
    (InvImage.wf Question.size (Prod.lex Nat.lt_wfRel Nat.lt_wfRel).wf)

theorem holdsAll_eq_all (as bs : List HostType) :
    h.holdsAll as bs = (as.length == bs.length && (as.zip bs).all fun p => h.holds p.1 p.2) := by
  induction as generalizing bs with
  | nil => cases bs <;> simp [holdsAll]
  | cons a as ih =>
      cases bs with
      | nil => simp [holdsAll]
      | cons b bs =>
          rw [holdsAll, ih, List.zip_cons_cons, List.all_cons]
          simp [Bool.and_left_comm]

theorem isAssignable_eq_assignsBy (h : Hierarchy) (t target : HostType) :
    h.isAssignable t target = h.assignsBy h.answer t target := by
  rw [isAssignable.eq_def, assignsBy.eq_def]
  refine if_congr Iff.rfl rfl ?_
  cases t with
  | declared n as =>
      cases target with
      | declared name bs =>
          simp only [holdsAll_eq_all]
          rfl
      | primitive | array | wildcard | wildcardExtends | var => rfl
  | primitive | array | wildcard | wildcardExtends | var => cases target <;> rfl

theorem holds_eq_fitsBy (h : Hierarchy) (arg slot : HostType) :
    h.holds arg slot = fitsBy h.answer arg slot := by
  rw [holds.eq_def, fitsBy.eq_def]
  cases slot with
  | wildcardExtends bound => cases arg <;> rfl
  | primitive | declared | array | wildcard | var => rfl

theorem answer_eq (h : Hierarchy) (q : Question) : h.answer q = h.answerBy h.answer q := by
  cases q with
  | assigns t target => exact isAssignable_eq_assignsBy h t target
  | fits arg slot => exact holds_eq_fitsBy h arg slot

theorem assignsBy_congr {t target : HostType}
    (hfg : ∀ q, h.Asks (.assigns t target) q → f q = g q) :
    h.assignsBy f t target = h.assignsBy g t target := by
  rw [assignsBy.eq_def, assignsBy.eq_def]
  refine if_congr Iff.rfl rfl ?_
  cases t with
  | declared n as =>
      cases target with
      | declared name bs =>
          cases hv : h.view (.declared n as) name with
          | none => simp only [hv]
          | some v =>
              have hargs : ((v.args.zip bs).all fun p => f (.fits p.1 p.2)) =
                  (v.args.zip bs).all fun p => g (.fits p.1 p.2) := by
                rw [Bool.eq_iff_iff, List.all_eq_true, List.all_eq_true]
                exact forall₂_congr fun p hp => by rw [hfg _ (.argument hv hp)]
              simp only [hv, hargs]
      | primitive | array | wildcard | wildcardExtends | var => rfl
  | array c =>
      cases target with
      | array d => exact hfg _ (.component c d)
      | primitive | declared | wildcard | wildcardExtends | var => rfl
  | wildcardExtends u =>
      have hupper := hfg _ (.upper u target)
      cases target with
      | primitive => rfl
      | declared => simp only [hupper]
      | array | wildcard | wildcardExtends | var => exact hupper
  | primitive | wildcard | var => cases target <;> rfl

theorem fitsBy_congr {arg slot : HostType} (hfg : ∀ q, h.Asks (.fits arg slot) q → f q = g q) :
    fitsBy f arg slot = fitsBy g arg slot := by
  cases slot with
  | wildcardExtends bound =>
      cases arg with
      | wildcardExtends u => exact hfg _ (.bounds u bound)
      | wildcard => rfl
      | primitive | declared | array | var => exact hfg _ (.bound _ bound)
  | primitive | declared | array | wildcard | var => rfl

theorem answerBy_congr (hfg : ∀ q', h.Asks q q' → f q' = g q') :
    h.answerBy f q = h.answerBy g q := by
  cases q with
  | assigns t target => exact assignsBy_congr hfg
  | fits arg slot => exact fitsBy_congr hfg

theorem eq_answer_iff : (∀ q, f q = h.answerBy f q) ↔ f = h.answer := by
  constructor
  · intro hf
    funext q
    induction q using (wellFounded_asks h).induction with
    | _ q ih => rw [hf, answer_eq, answerBy_congr ih]
  · rintro rfl
    exact answer_eq h

/-- Two generic types of which each is declared to be the other one, with greater arguments. -/
def spiral : List TypeClause := [
  { name := "a.Coil", params := ["T"],
    supertypes := [.declared "a.Turn" [.declared "a.Coil" [.declared "a.Coil" [.var "T"]]]] },
  { name := "a.Turn", params := ["T"],
    supertypes := [.declared "a.Coil" [.declared "a.Turn" [.var "T"]]] }]

def coils : Nat → HostType → HostType
  | 0, t => t
  | n + 1, t => .declared "a.Coil" [coils n t]

def turns : Nat → HostType → HostType
  | 0, t => t
  | n + 1, t => .declared "a.Turn" [.wildcardExtends (turns n t)]

theorem find?_coil : (ofClauses spiral).find? "a.Coil" = some ⟨["T"],
    [.declared "a.Turn" [.declared "a.Coil" [.declared "a.Coil" [.var "T"]]]]⟩ := by
  decide +kernel

theorem find?_turn : (ofClauses spiral).find? "a.Turn" = some ⟨["T"],
    [.declared "a.Coil" [.declared "a.Turn" [.var "T"]]]⟩ := by
  decide +kernel

theorem view_coil (t : HostType) :
    (ofClauses spiral).view (.declared "a.Coil" [t]) "a.Turn" =
      some (.declared "a.Turn" [coils 2 t]) := by
  rw [view, search_known (by decide) find?_coil List.not_mem_nil]
  exact search_target _ "a.Turn" [coils 2 t] [] _

/-- Each bound of the target makes the type on the left greater by one. -/
theorem asks_greater (k n : Nat) (t u : HostType) :
    ReflTransGen (ofClauses spiral).Asks (.assigns (coils (n + 1) t) (turns k u))
      (.assigns (coils (n + 1 + k) t) u) := by
  induction k generalizing n with
  | zero => exact .refl
  | succ k ih =>
      have hargument : (ofClauses spiral).Asks (.assigns (coils (n + 1) t) (turns (k + 1) u))
          (.fits (coils (n + 2) t) (.wildcardExtends (turns k u))) :=
        .argument (view_coil (coils n t)) List.mem_cons_self
      have hbound := Asks.bound (h := ofClauses spiral) (coils (n + 2) t) (turns k u)
      have hk : n + 1 + (k + 1) = n + 1 + 1 + k := by omega
      rw [hk]
      exact .head hargument (.head hbound (ih (n + 1)))

theorem add_sizeOf_coils_le (k n : Nat) (t : HostType) :
    k + sizeOf (coils n t) ≤ sizeOf (coils (n + k) t) := by
  induction k with
  | zero => rw [Nat.zero_add, Nat.add_zero]
  | succ k ih =>
      rw [← Nat.add_assoc, coils]
      simp only [declared.sizeOf_spec, List.cons.sizeOf_spec]
      omega

/-- Type questions end on every hierarchy. A search makes no endless sequence of steps, expands
known names only and none of them twice, and the view is what it has found in the end. No endless
sequence of questions comes up from asking whether a type is assignable to another one, so that the
rules by which such questions are answered from further ones have one solution; yet the type on the
left may grow on the way by any amount. -/
theorem type_questions_end :
    (∀ (h : Hierarchy) (target : String),
      (WellFounded fun w' w => ∃ n, Walk.Step h target w n w') ∧
      ∀ t, (∀ names w, Walk.Run h target (.start t) names w → names.Nodup ∧ names ⊆ h.names) ∧
        ∀ v, (∃ names w, Walk.Run h target (.start t) names w ∧ w.answer? target = some v) ↔
          h.view t target = v) ∧
    (∀ h : Hierarchy, (WellFounded fun q' q => h.Asks q q') ∧
      ∀ f, (∀ q, f q = h.answerBy f q) ↔ f = h.answer) ∧
    ∃ cs t, ∀ k, ∃ u t' u', ReflTransGen (ofClauses cs).Asks (.assigns t u) (.assigns t' u') ∧
      k + sizeOf t ≤ sizeOf t' := by
  refine ⟨fun h target => ⟨Walk.wellFounded_step h target, fun t => ⟨?_, ?_⟩⟩,
    fun h => ⟨wellFounded_asks h, fun f => eq_answer_iff⟩, spiral, coils 1 .wildcard, fun k => ?_⟩
  · exact fun names w hr => ⟨hr.nodup, hr.known⟩
  · exact fun v => Walk.view_eq_iff_run
  · exact ⟨turns k .wildcard, coils (1 + k) .wildcard, .wildcard,
      asks_greater k 0 .wildcard .wildcard, add_sizeOf_coils_le k 1 .wildcard⟩

theorem spiral_search_ends :
    Walk.Run (ofClauses spiral) "a.Missing" (.start (.declared "a.Coil" [.wildcard]))
      ["a.Coil", "a.Turn"] ⟨[], ["a.Turn", "a.Coil"]⟩ ∧
    ["a.Coil", "a.Turn"].Nodup ∧
    (ofClauses spiral).view (.declared "a.Coil" [.wildcard]) "a.Missing" = none := by
  have hrun : Walk.Run (ofClauses spiral) "a.Missing" (.start (.declared "a.Coil" [.wildcard]))
      ["a.Coil", "a.Turn"] ⟨[], ["a.Turn", "a.Coil"]⟩ :=
    .head (.expand (by decide) find?_coil (by decide)) <|
      .head (.expand (by decide) find?_turn (by decide)) <|
        .head (.visited (by decide) (by decide)) (.refl _)
  obtain ⟨hends, _⟩ := type_questions_end
  obtain ⟨_, hsearch⟩ := hends (ofClauses spiral) "a.Missing"
  obtain ⟨hnames, hview⟩ := hsearch (.declared "a.Coil" [.wildcard])
  exact ⟨hrun, (hnames _ _ hrun).1, (hview none).mp ⟨_, _, hrun, rfl⟩⟩

end Companion.Hierarchy
