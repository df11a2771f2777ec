import Companion.Proofs.Hierarchy.Clauses
import Companion.Proofs.Text.ByteOrder
import Mathlib.Data.List.Induction
import Mathlib.Data.List.Sort
import Mathlib.Tactic.Common

namespace Companion

section EraseDups

variable {α : Type} [DecidableEq α]

theorem eraseDups_concat (as : List α) (a : α) :
    (as ++ [a]).eraseDups = if a ∈ as then as.eraseDups else as.eraseDups ++ [a] := by
  rw [List.eraseDups_append]
  split
  · next ha => simp [List.removeAll, ha]
  · next ha => simp [List.removeAll, ha, List.eraseDups_cons]

theorem nodup_eraseDups (as : List α) : as.eraseDups.Nodup := by
  induction as using List.reverseRecOn with
  | nil => exact List.nodup_nil
  | append_singleton as a ih =>
      rw [eraseDups_concat]
      split
      · exact ih
      · next ha =>
        rw [← List.concat_eq_append]
        exact ih.concat (mt List.mem_eraseDups.mp ha)

end EraseDups

namespace TypeEntry

theorem addSupertypes_eraseDups (known ts : List HostType) :
    addSupertypes known.eraseDups ts = (known ++ ts).eraseDups := by
  induction ts generalizing known with
  | nil => rw [addSupertypes, List.append_nil]
  | cons t ts ih =>
      have hfirst : (if t ∈ known.eraseDups then known.eraseDups else known.eraseDups ++ [t]) =
          (known ++ [t]).eraseDups := by
        simp only [eraseDups_concat, List.mem_eraseDups]
      rw [addSupertypes, hfirst, ih, List.append_assoc, List.singleton_append]

/-- What clauses of one name add up to: all their supertypes, and the parameters that were given
last. -/
def ofClauses (cs : List TypeClause) : TypeEntry where
  params := ((cs.map (·.params)).filter (· ≠ [])).getLastD []
  supertypes := (cs.flatMap (·.supertypes)).eraseDups

theorem ofClauses_concat (cs : List TypeClause) (c : TypeClause) :
    ofClauses (cs ++ [c]) = (ofClauses cs).extend c.params c.supertypes := by
  have hsupertypes : ((cs ++ [c]).flatMap (·.supertypes)).eraseDups =
      addSupertypes (cs.flatMap (·.supertypes)).eraseDups c.supertypes := by
    rw [addSupertypes_eraseDups, List.flatMap_append, List.flatMap_singleton]
  simp only [ofClauses, extend, hsupertypes, mk.injEq, and_true]
  rw [List.map_append, List.filter_append, List.map_singleton]
  cases hc : c.params with
  | nil => simp
  | cons p ps => simp

theorem addSupertypes_of_subset {known ts : List HostType} (hts : ts ⊆ known) :
    addSupertypes known ts = known := by
  induction ts with
  | nil => rfl
  | cons t ts ih =>
      obtain ⟨ht, hts⟩ := List.cons_subset.mp hts
      rw [addSupertypes, if_pos ht, ih hts]

theorem mem_supertypes_ofClauses {cs : List TypeClause} {t : HostType} :
    t ∈ (ofClauses cs).supertypes ↔ ∃ c ∈ cs, t ∈ c.supertypes := by
  rw [ofClauses, List.mem_eraseDups, List.mem_flatMap]

end TypeEntry

namespace Hierarchy

variable {h h' : Hierarchy} {name : String} {c d : TypeClause} {cs cs' : List TypeClause}

theorem mem_names_iff : name ∈ h.names ↔ h.contains name = true := by
  rw [names, contains, find?, List.lookup_isSome_iff, List.mem_map]
  exact exists_congr fun p => and_congr_right fun _ => by rw [beq_iff_eq, eq_comm]

theorem Ascending.entries_eq (hs : h.Ascending) :
    h.entries = h.names.map fun name => (name, h.entry name) := by
  obtain ⟨es⟩ := h
  induction es with
  | nil => rfl
  | cons p es ih =>
      obtain ⟨k, e⟩ := p
      obtain ⟨hk, htail⟩ := List.pairwise_cons.mp hs
      have hrest : ∀ name ∈ names ⟨es⟩,
          (name, entry ⟨(k, e) :: es⟩ name) = (name, entry ⟨es⟩ name) := by
        intro name hn
        rw [entry, entry, find?, List.lookup_cons, beq_false_of_ne (hk name hn).ne']
        rfl
      have hfirst : entry ⟨(k, e) :: es⟩ k = e := by
        rw [entry, find?, List.lookup_cons, beq_self_eq_true]
        rfl
      have hnames : names ⟨(k, e) :: es⟩ = k :: names ⟨es⟩ := rfl
      rw [hnames, List.map_cons, hfirst, List.map_congr_left hrest, ← ih htail]

theorem Ascending.ext (hs : h.Ascending) (hs' : h'.Ascending)
    (hc : ∀ name, h.contains name = true ↔ h'.contains name = true)
    (he : ∀ name, h.entry name = h'.entry name) : h = h' := by
  have hnames : h.names = h'.names :=
    List.Pairwise.eq_of_mem_iff hs hs' fun name => by rw [mem_names_iff, mem_names_iff, hc]
  have hentries : h.entries = h'.entries := by
    rw [hs.entries_eq, hs'.entries_eq, hnames]
    simp only [he]
  cases h
  cases h'
  congr

theorem ascending_ofClauses (cs : List TypeClause) : (ofClauses cs).Ascending :=
  ascending_foldl (fun _ _ hs => hs.declare _ _ _) cs ascending_empty

theorem ofClauses_append (cs more : List TypeClause) :
    ofClauses (cs ++ more) = more.foldl declareClause (ofClauses cs) := List.foldl_append

theorem ofClauses_concat (cs : List TypeClause) (c : TypeClause) :
    ofClauses (cs ++ [c]) = (ofClauses cs).declareClause c := ofClauses_append cs [c]

theorem contains_ofClauses (cs : List TypeClause) (name : String) :
    (ofClauses cs).contains name = true ↔ ∃ c ∈ cs, c.name = name := by
  induction cs using List.reverseRecOn with
  | nil => simp [ofClauses, contains, find?, empty]
  | append_singleton cs c ih =>
      rw [ofClauses_concat, declareClause, contains_declare, Bool.or_eq_true, beq_iff_eq, ih]
      simp only [List.mem_append, List.mem_singleton, or_and_right, exists_or, exists_eq_left]
      rw [or_comm, eq_comm]

theorem entry_ofClauses (cs : List TypeClause) (name : String) :
    (ofClauses cs).entry name = .ofClauses (cs.filter (·.name = name)) := by
  induction cs using List.reverseRecOn with
  | nil => rfl
  | append_singleton cs c ih =>
      rw [ofClauses_concat, declareClause, entry_declare (ascending_ofClauses cs), ih,
        List.filter_append]
      by_cases hc : c.name = name
      · simp [hc, TypeEntry.ofClauses_concat]
      · simp [hc, Ne.symm hc]

theorem ofClauses_eq_of_filter
    (hf : ∀ name, cs.filter (·.name = name) = cs'.filter (·.name = name)) :
    ofClauses cs = ofClauses cs' := by
  refine (ascending_ofClauses cs).ext (ascending_ofClauses cs') (fun name => ?_) fun name => ?_
  · have hmem : ∀ c, c ∈ cs ∧ c.name = name ↔ c ∈ cs' ∧ c.name = name := fun c => by
      simpa using congrArg (c ∈ ·) (hf name)
    simp only [contains_ofClauses, hmem]
  · rw [entry_ofClauses, entry_ofClauses, hf]

theorem typeParameters_declare_self (hs : h.Ascending) (key : String) (params : List String)
    (supertypes : List HostType) : (h.declare key params supertypes).typeParameters key =
      if params = [] then h.typeParameters key else params := by
  rw [typeParameters_eq, typeParameters_eq, entry_declare hs, if_pos rfl]
  simp only [TypeEntry.extend, List.isEmpty_iff]

theorem declareClause_eq_self_iff (hc : c ∈ cs) : (ofClauses cs).declareClause c = ofClauses cs ↔
    c.params = [] ∨ (ofClauses cs).typeParameters c.name = c.params := by
  have hs := ascending_ofClauses cs
  constructor
  · intro heq
    have hparams := typeParameters_declare_self hs c.name c.params c.supertypes
    rw [← declareClause, heq] at hparams
    by_cases hnil : c.params = []
    · exact .inl hnil
    · exact .inr (hparams.trans (if_neg hnil))
  · intro hparams
    refine (hs.declare _ _ _).ext hs (fun name => ?_) fun name => ?_
    · rw [contains_declare, Bool.or_eq_true, beq_iff_eq, contains_ofClauses]
      exact or_iff_right_of_imp fun heq => ⟨c, hc, heq.symm⟩
    · rw [entry_declare hs]
      split
      · next heq =>
        subst heq
        have hsub : c.supertypes ⊆ ((ofClauses cs).entry c.name).supertypes := fun t ht => by
          rw [entry_ofClauses, TypeEntry.mem_supertypes_ofClauses]
          exact ⟨c, List.mem_filter.mpr ⟨hc, decide_eq_true rfl⟩, ht⟩
        rw [TypeEntry.extend, TypeEntry.addSupertypes_of_subset hsub]
        rw [typeParameters_eq] at hparams
        rcases hparams with hnil | heq
        · simp [hnil]
        · simp [← heq]
      · rfl

theorem ofClauses_swap (hne : c.name ≠ d.name) (before after : List TypeClause) :
    ofClauses (before ++ c :: d :: after) = ofClauses (before ++ d :: c :: after) := by
  rw [ofClauses_append, ofClauses_append]
  simp only [List.foldl_cons, declareClause, declare_comm hne]

theorem ofClauses_twice (before after : List TypeClause) (c : TypeClause) :
    ofClauses (before ++ c :: c :: after) = ofClauses (before ++ c :: after) := by
  have honce := ofClauses_concat before c
  have hagain : (ofClauses (before ++ [c])).declareClause c = ofClauses (before ++ [c]) := by
    rw [declareClause_eq_self_iff (List.mem_append_right before List.mem_cons_self), honce,
      declareClause, typeParameters_declare_self (ascending_ofClauses before)]
    by_cases hnil : c.params = []
    · exact .inl hnil
    · exact .inr (if_neg hnil)
  rw [ofClauses_append, ofClauses_append]
  simp only [List.foldl_cons, ← honce, hagain]

/-- Of each name a hierarchy holds what the clauses of that name gave: all their supertypes, each
once and where it came first, and the parameters that were given last. Nothing else counts, so
clauses of different names may change places, and a clause given again at once changes nothing; one
given again later changes nothing either, unless its name has other parameters by then. -/
theorem record_of_clauses (cs : List TypeClause) :
    (∀ name, (ofClauses cs).contains name = true ↔ ∃ c ∈ cs, c.name = name) ∧
    (∀ name, (ofClauses cs).directSupertypes name =
        ((cs.filter (·.name = name)).flatMap (·.supertypes)).eraseDups ∧
      ((ofClauses cs).directSupertypes name).Nodup) ∧
    (∀ name, (ofClauses cs).typeParameters name =
      (((cs.filter (·.name = name)).map (·.params)).filter (· ≠ [])).getLastD []) ∧
    (∀ name, name ∈ (ofClauses cs).names ↔ (ofClauses cs).contains name = true) ∧
    (ofClauses cs).names.Pairwise (fun a b => Text.utf8 a < Text.utf8 b) ∧
    (ofClauses cs).names.Nodup ∧
    (∀ cs', (∀ name, cs.filter (·.name = name) = cs'.filter (·.name = name)) →
      ofClauses cs = ofClauses cs') ∧
    (∀ before after c d, c.name ≠ d.name →
      ofClauses (before ++ c :: d :: after) = ofClauses (before ++ d :: c :: after)) ∧
    (∀ before after c, ofClauses (before ++ c :: c :: after) = ofClauses (before ++ c :: after)) ∧
    ∀ c ∈ cs, ((ofClauses cs).declareClause c = ofClauses cs ↔
      c.params = [] ∨ (ofClauses cs).typeParameters c.name = c.params) := by
  have hsupertypes : ∀ name, (ofClauses cs).directSupertypes name =
      ((cs.filter (·.name = name)).flatMap (·.supertypes)).eraseDups := fun name => by
    rw [directSupertypes_eq, entry_ofClauses, TypeEntry.ofClauses]
  refine ⟨contains_ofClauses cs, fun name => ⟨hsupertypes name, ?_⟩, fun name => ?_,
    fun name => mem_names_iff, ?_, (ascending_ofClauses cs).nodup,
    fun cs' hf => ofClauses_eq_of_filter hf, fun before after c d hne => ofClauses_swap hne _ _,
    ofClauses_twice, fun c hc => declareClause_eq_self_iff hc⟩
  · rw [hsupertypes]
    exact nodup_eraseDups _
  · rw [typeParameters_eq, entry_ofClauses, TypeEntry.ofClauses]
  · exact (ascending_ofClauses cs).imp Text.utf8_lt_iff.mpr

/-- A class with two clauses, which name its parameter differently and repeat a supertype, and
another class between them. -/
def spool : List TypeClause := [
  { name := "a.Spool", params := ["T"],
    supertypes := [.declared "a.Reel" [.var "T"], .declared "a.Reel" [.var "T"]] },
  { name := "a.Étui", supertypes := [.declared "a.Case" []] },
  { name := "a.Spool", params := ["U"],
    supertypes := [.declared "a.Case" [], .declared "a.Reel" [.var "T"]] }]

theorem spool_is_recorded :
    (ofClauses spool).names = ["a.Spool", "a.Étui"] ∧
    (ofClauses spool).directSupertypes "a.Spool" =
      [.declared "a.Reel" [.var "T"], .declared "a.Case" []] ∧
    (ofClauses spool).typeParameters "a.Spool" = ["U"] ∧
    spool[0].name ≠ spool[1].name ∧
    ofClauses [spool[1], spool[0], spool[2]] = ofClauses spool ∧
    (ofClauses spool).declareClause spool[2] = ofClauses spool ∧
    (ofClauses spool).declareClause spool[0] ≠ ofClauses spool := by
  obtain ⟨_, hsupertypes, hparams, _, _, _, _, hswap, _, hagain⟩ := record_of_clauses spool
  have hlast : (ofClauses spool).typeParameters "a.Spool" = ["U"] :=
    (hparams "a.Spool").trans (by decide)
  refine ⟨by decide, (hsupertypes "a.Spool").1.trans (by decide), hlast, by decide,
    (hswap [] [spool[2]] spool[0] spool[1] (by decide)).symm,
    (hagain spool[2] (by decide)).mpr (.inr hlast), ?_⟩
  rw [ne_eq, hagain spool[0] (by decide)]
  decide

end Hierarchy

end Companion
