import Companion.HostType.Basic
import Mathlib.Data.List.Nodup

namespace Companion.HostType

variable {b r : Bindings} {params : List String} {as : List HostType}

def IsClass (t : HostType) : Prop := t.rawName?.isSome = true

instance : DecidablePred IsClass := fun t => inferInstanceAs (Decidable (t.rawName?.isSome = true))

theorem isClass_declared (n : String) (as : List HostType) : (declared n as).IsClass := rfl

theorem IsClass.eq_declared {t : HostType} (h : t.IsClass) : ∃ n as, t = .declared n as := by
  cases t with
  | declared n as => exact ⟨n, as, rfl⟩
  | primitive | array | wildcard | wildcardExtends | var => cases h

theorem isClass_of_rawName? {t : HostType} {n : String} (hn : t.rawName? = some n) : t.IsClass := by
  rw [IsClass, hn, Option.isSome_some]

theorem not_isClass_of_ne {t : HostType} (hne : ∀ n as, t ≠ .declared n as) : ¬t.IsClass := by
  intro h
  obtain ⟨n, as, ht⟩ := h.eq_declared
  exact hne n as ht

mutual

def vars : HostType → List String
  | .var n => [n]
  | .declared _ as => varsAll as
  | .array c => vars c
  | .wildcardExtends u => vars u
  | .wildcard | .primitive _ => []

def varsAll : List HostType → List String
  | [] => []
  | a :: as => vars a ++ varsAll as

end

def MentionsOnly (t : HostType) (params : List String) : Prop := ∀ v ∈ t.vars, v ∈ params

instance (t : HostType) (params : List String) : Decidable (t.MentionsOnly params) :=
  inferInstanceAs (Decidable (∀ v ∈ t.vars, v ∈ params))

theorem varsAll_eq_flatMap (as : List HostType) : varsAll as = as.flatMap vars := by
  induction as with
  | nil => rfl
  | cons a as ih => simp [varsAll, ih]

@[simp] theorem substitute_declared (b : Bindings) (n : String) (as : List HostType) :
    (declared n as).substitute b = .declared n (as.map (substitute b)) := by
  rw [substitute, substituteAll_eq_map]

theorem IsClass.rawName?_substitute {t : HostType} (h : t.IsClass) (b : Bindings) :
    (t.substitute b).rawName? = t.rawName? := by
  obtain ⟨n, as, rfl⟩ := h.eq_declared
  rw [substitute_declared]
  rfl

@[simp] theorem rawName?_erasure (t : HostType) : t.erasure.rawName? = t.rawName? := by
  cases t <;> rfl

theorem IsClass.substitute_erasure {t : HostType} (h : t.IsClass) (b : Bindings) :
    t.erasure.substitute b = t.erasure := by
  obtain ⟨n, as, rfl⟩ := h.eq_declared
  simp [erasure]

theorem substitute_congr (t : HostType) (h : ∀ v ∈ t.vars, b.lookup v = r.lookup v) :
    t.substitute b = t.substitute r := by
  induction t with
  | primitive | wildcard => rfl
  | var n => rw [substitute, substitute, h n (by simp [vars])]
  | array c ih => rw [substitute, substitute, ih h]
  | wildcardExtends u ih => rw [substitute, substitute, ih h]
  | declared n as ih =>
      rw [substitute_declared, substitute_declared]
      congr 1
      refine List.map_congr_left fun a ha => ih a ha fun v hv => h v ?_
      simp only [vars, varsAll_eq_flatMap, List.mem_flatMap]
      exact ⟨a, ha, hv⟩

theorem substitute_comp (s r : Bindings) (t : HostType) :
    (t.substitute s).substitute r =
      t.substitute (s.map (fun p => (p.1, p.2.substitute r)) ++ r) := by
  induction t with
  | primitive | wildcard => rfl
  | array c ih => simp only [substitute, ih]
  | wildcardExtends u ih => simp only [substitute, ih]
  | declared n as ih =>
      simp only [substitute_declared, List.map_map, declared.injEq, true_and]
      exact List.map_congr_left ih
  | var n =>
      induction s with
      | nil => rfl
      | cons p s ih =>
          obtain ⟨m, image⟩ := p
          simp only [substitute, List.map_cons, List.cons_append, List.lookup_cons] at ih ⊢
          cases n == m with
          | true => rfl
          | false => exact ih

theorem isSome_lookup_of_mem {s : Bindings} {v : String} (hv : v ∈ s.map (·.1)) :
    (s.lookup v).isSome = true := by
  obtain ⟨p, hp, rfl⟩ := List.mem_map.mp hv
  rw [List.lookup_isSome_iff]
  exact ⟨p, hp, beq_self_eq_true p.1⟩

theorem map_fst_zip_params (hl : as.length = params.length) :
    (params.zip as).map (·.1) = params := List.map_fst_zip (Nat.le_of_eq hl.symm)

theorem isSome_lookup_zip {v : String} (hl : as.length = params.length) (hv : v ∈ params) :
    ((params.zip as).lookup v).isSome = true :=
  isSome_lookup_of_mem ((map_fst_zip_params hl).symm ▸ hv)

theorem MentionsOnly.substitute_comp {s : Bindings} {t : HostType}
    (ht : t.MentionsOnly (s.map (·.1))) (r : Bindings) :
    (t.substitute s).substitute r = t.substitute (s.map fun p => (p.1, p.2.substitute r)) := by
  rw [HostType.substitute_comp]
  refine substitute_congr t fun v hv => ?_
  have hbound : v ∈ (s.map fun p => (p.1, p.2.substitute r)).map (·.1) := by
    rw [List.map_map]
    exact ht v hv
  obtain ⟨image, himage⟩ := Option.isSome_iff_exists.mp (isSome_lookup_of_mem hbound)
  rw [List.lookup_append, himage, Option.some_or]

/-- Instantiating parameters and then substituting is instantiating them by the substituted
arguments, for a type without variables of its own. -/
theorem MentionsOnly.substitute_zip {t : HostType} (ht : t.MentionsOnly params)
    (hl : as.length = params.length) (r : Bindings) :
    (t.substitute (params.zip as)).substitute r =
      t.substitute (params.zip (as.map (substitute r))) := by
  have himages : (params.zip as).map (fun p => (p.1, p.2.substitute r)) =
      params.zip (as.map (substitute r)) := List.zip_map_right.symm
  rw [MentionsOnly.substitute_comp ((map_fst_zip_params hl).symm ▸ ht), himages]

theorem map_substitute_zip_var (hd : params.Nodup) (hl : as.length = params.length) :
    (params.map var).map (substitute (params.zip as)) = as := by
  induction params generalizing as with
  | nil => exact (List.length_eq_zero_iff.mp hl).symm
  | cons p ps ih =>
      obtain _ | ⟨a, as⟩ := as
      · simp at hl
      obtain ⟨hp, hps⟩ := List.nodup_cons.mp hd
      have htail : ps.map (substitute ((p, a) :: ps.zip as) ∘ var) =
          ps.map (substitute (ps.zip as) ∘ var) := by
        refine List.map_congr_left fun q hq => ?_
        have hne : (q == p) = false := by simpa using fun he : q = p => hp (he ▸ hq)
        simp only [Function.comp_apply, substitute, List.lookup_cons, hne]
      simp only [List.zip_cons_cons, List.map_cons, List.map_map, List.cons.injEq]
      refine ⟨by simp [substitute], ?_⟩
      rw [htail, ← List.map_map]
      exact ih hps (by simpa using hl)

/-- Only the parameters themselves are instantiated to all arguments in order, if these are
different and no variables. -/
theorem eq_of_map_substitute_zip_var {names : List String} (hl : as.length = params.length)
    (hd : as.Nodup) (hv : ∀ v, var v ∉ as)
    (heq : (names.map var).map (substitute (params.zip as)) = as) : names = params := by
  have hlength : names.length = as.length := by simpa using congrArg List.length heq
  refine List.ext_getElem (hlength.trans hl) fun i hi hp => ?_
  have hia : i < as.length := hlength ▸ hi
  have himage : (var names[i]).substitute (params.zip as) = as[i] := by
    have hget := List.getElem_of_eq heq (i := i) (by simpa using hi)
    simpa using hget
  rw [substitute] at himage
  cases hlook : (params.zip as).lookup names[i] with
  | none =>
      rw [hlook, Option.getD_none] at himage
      exact absurd (himage ▸ List.getElem_mem hia) (hv names[i])
  | some image =>
      rw [hlook, Option.getD_some] at himage
      obtain ⟨before, after, hsplit, _⟩ := List.lookup_eq_some_iff.mp hlook
      have hmem : (names[i], image) ∈ params.zip as := by simp [hsplit]
      obtain ⟨j, hj, hpair⟩ := List.mem_iff_getElem.mp hmem
      rw [List.getElem_zip, Prod.mk.injEq] at hpair
      -- the arguments are different, so the one that is found tells its place
      obtain rfl : j = i := (List.Nodup.getElem_inj_iff hd).mp (hpair.2.trans himage)
      exact hpair.1.symm

end Companion.HostType
