import Companion.Proofs.Hierarchy.Assignable
import Mathlib.Data.List.Forall2

namespace Companion.Hierarchy

open HostType

def Fits (r : HostType → HostType → Prop) (arg : HostType) : HostType → Prop
  | .wildcard => True
  | .wildcardExtends bound =>
    match arg with
    | .wildcardExtends upper => r upper bound
    | .wildcard => bound.rawName? = some Platform.object
    | arg => r arg bound
  | slot => arg = slot

/-- One ground for assigning a type to another, if the parts of both are compared by `r`. -/
inductive Ground (h : Hierarchy) (r : HostType → HostType → Prop) : HostType → HostType → Prop
  | same (t) : Ground h r t t
  | object {t} : t.isPrimitive = false → Ground h r t (.declared Platform.object [])
  | arrayClass {c name bs} : name = Platform.serializable ∨ name = Platform.cloneable →
      Ground h r (.array c) (.declared name bs)
  | covariant {c d} : r c d → Ground h r (.array c) (.array d)
  | bounded {upper u} : u.isPrimitive = false → r upper u → Ground h r (.wildcardExtends upper) u
  | viewed {n as name bs v} : h.view (.declared n as) name = some v →
      bs = [] ∨ v.args = [] ∨ List.Forall₂ (Fits r) v.args bs →
      Ground h r (.declared n as) (.declared name bs)

variable {h : Hierarchy} {r r' : HostType → HostType → Prop} {t u : HostType}
  {as bs : List HostType}

theorem Fits.refl (hr : ∀ t, r t t) (a : HostType) : Fits r a a := by
  cases a with
  | wildcard => exact trivial
  | wildcardExtends upper => exact hr upper
  | primitive | declared | array | var => rfl

theorem forall₂_fits_imp (himp : ∀ t bound, .wildcardExtends bound ∈ bs → r t bound → r' t bound)
    (hfits : List.Forall₂ (Fits r) as bs) : List.Forall₂ (Fits r') as bs := by
  induction hfits with
  | nil => exact .nil
  | @cons a slot as bs ha has ih =>
      refine .cons ?_ (ih fun t bound hb => himp t bound (List.mem_cons_of_mem _ hb))
      cases slot with
      | wildcardExtends bound =>
          have hbound := fun t => himp t bound List.mem_cons_self
          cases a with
          | wildcard => exact ha
          | primitive | declared | array | wildcardExtends | var => exact hbound _ ha
      | primitive | declared | array | wildcard | var => exact ha

theorem holds_iff (a slot : HostType) :
    h.holds a slot = true ↔ Fits (fun t u => h.isAssignable t u = true) a slot := by
  cases slot with
  | wildcard => simp [holds, Fits]
  | wildcardExtends bound => cases a <;> simp [holds, Fits]
  | primitive | declared | array | var => simp [holds, Fits]

theorem holdsAll_iff (slots : List HostType) :
    h.holdsAll as slots = true ↔
      List.Forall₂ (Fits fun t u => h.isAssignable t u = true) as slots := by
  induction as generalizing slots with
  | nil => cases slots <;> simp [holdsAll]
  | cons a as ih => cases slots <;> simp [holdsAll, holds_iff, ih]

theorem isAssignable_of_ground (hg : Ground h (fun t u => h.isAssignable t u = true) t u) :
    h.isAssignable t u = true := by
  rw [isAssignable.eq_def]
  split
  · rfl
  · next hne =>
    cases hg with
    | same => exact absurd rfl hne
    | object ht =>
        cases t with
        | primitive p => cases ht
        | declared | array | wildcard | wildcardExtends | var => simp
    | arrayClass hn => simpa [or_assoc] using .inr hn
    | covariant hc => exact hc
    | bounded hu hw =>
        cases u with
        | primitive p => cases hu
        | declared name bs => simp [hw]
        | array | wildcard | wildcardExtends | var => exact hw
    | viewed hv hargs => simpa [hv, holdsAll_iff, or_assoc] using .inr hargs

theorem ground_of_isAssignable (ha : h.isAssignable t u = true) :
    Ground h (fun t u => h.isAssignable t u = true) t u := by
  -- the root class takes all but primitives, which is asked in each case once more
  by_cases heq : t = u
  · rw [heq]
    exact .same u
  have hobject : ∀ {name bs}, (name == Platform.object && bs.isEmpty) = true →
      t.isPrimitive = false →
      Ground h (fun t u => h.isAssignable t u = true) t (.declared name bs) := by
    intro name bs hn ht
    obtain ⟨rfl, rfl⟩ : name = Platform.object ∧ bs = [] := by simpa using hn
    exact .object ht
  rw [isAssignable.eq_def, if_neg heq] at ha
  split at ha
  · cases ha
  · cases ha
  · next c name bs =>
    rw [Bool.or_assoc, Bool.or_eq_true] at ha
    refine ha.elim (hobject · rfl) fun hn => .arrayClass ?_
    simpa using hn
  · next n as name bs =>
    rw [Bool.or_eq_true] at ha
    refine ha.elim (hobject · rfl) fun hview => ?_
    cases hv : h.view (.declared n as) name with
    | none => simp [hv] at hview
    | some v => exact .viewed hv (by simpa [hv, holdsAll_iff, or_assoc] using hview)
  · next upper name bs =>
    rw [Bool.or_eq_true] at ha
    exact ha.elim (hobject · rfl) fun hupper => .bounded rfl hupper
  · next name bs hp _ _ _ =>
    exact hobject ha (by cases t with | primitive p => exact absurd rfl (hp p) | _ => rfl)
  · next c d => exact .covariant ha
  · next upper hp _ =>
    exact .bounded (by cases u with | primitive q => exact absurd rfl (hp q) | _ => rfl) ha
  · cases ha

/-- What every ground keeps holds of all types of which one is assignable to the other. The view of
a class may have larger arguments than the class, so the induction is on the target, and on the
source as long as the target stays. -/
theorem assignable_induction {motive : HostType → HostType → Prop}
    (step : ∀ t u, Ground h motive t u → motive t u) {t u : HostType}
    (ha : h.isAssignable t u = true) : motive t u := by
  apply step
  cases ground_of_isAssignable ha with
  | same => exact .same t
  | object ht => exact .object ht
  | arrayClass hn => exact .arrayClass hn
  | covariant hc => exact .covariant (assignable_induction step hc)
  | bounded hu hw => exact .bounded hu (assignable_induction step hw)
  | viewed hv hargs =>
      refine .viewed hv (hargs.imp_right fun hargs => hargs.imp_right fun hargs => ?_)
      exact forall₂_fits_imp (fun t bound hb hbound => assignable_induction step hbound) hargs
termination_by (sizeOf u, sizeOf t)
decreasing_by
  all_goals subst_vars
  · exact Prod.Lex.left _ _ (by simp)
  · exact Prod.Lex.right _ (by simp)
  · have hslot := List.sizeOf_lt_of_mem hb
    simp only [wildcardExtends.sizeOf_spec] at hslot
    exact Prod.Lex.left _ _ (by simp only [declared.sizeOf_spec]; omega)

end Companion.Hierarchy
