import Companion.Hierarchy.Basic
import Companion.Vocabulary.Platform

namespace Companion.Hierarchy

def unseen (h : Hierarchy) (seen : List String) : Nat :=
  (h.entries.filter fun p => p.1 ∉ seen).length

theorem mem_of_find? {h : Hierarchy} {name : String} {e : TypeEntry}
    (hf : h.find? name = some e) : (name, e) ∈ h.entries := by
  obtain ⟨ps⟩ := h
  induction ps with
  | nil => cases hf
  | cons p ps ih =>
    obtain ⟨k, e'⟩ := p
    change List.lookup name ((k, e') :: ps) = some e at hf
    rw [List.lookup_cons] at hf
    split at hf
    · next heq =>
      cases hf
      simp [eq_of_beq heq]
    · exact List.mem_cons_of_mem _ (ih hf)

theorem unseen_cons_lt {h : Hierarchy} {name : String} {e : TypeEntry} {seen : List String}
    (hf : h.find? name = some e) (hn : name ∉ seen) : h.unseen (name :: seen) < h.unseen seen := by
  have hmem := mem_of_find? hf
  simp only [unseen, ← List.countP_eq_length_filter]
  generalize h.entries = ps at hmem
  induction ps with
  | nil => cases hmem
  | cons p ps ih =>
    rw [List.countP_cons, List.countP_cons]
    rcases List.mem_cons.mp hmem with rfl | hps
    · refine Nat.add_lt_add_of_le_of_lt (List.countP_mono_left ?_) ?_
      · simp +contextual
      · simp [hn]
    · refine Nat.add_lt_add_of_lt_of_le (ih hps) ?_
      by_cases hs : p.1 ∈ seen <;> by_cases hp : p.1 = name <;> simp [hs, hp]

/-- The first type named `target` that a depth-first search meets which starts with the given types
and goes on with the supertypes of each type whose name was not visited before. -/
def search (h : Hierarchy) (target : String) : List HostType → List String → Option HostType
  | [], _ => none
  | .declared name args :: rest, seen =>
    if name = target then some (.declared name args)
    else
      match _hf : h.find? name with
      | none => search h target rest seen
      | some e =>
        if _hs : name ∈ seen then search h target rest seen
        else search h target (e.supertypesOf args ++ rest) (name :: seen)
  | _ :: rest, seen => search h target rest seen
termination_by pending seen => (h.unseen seen, pending.length)
decreasing_by
  · exact Prod.Lex.right _ (Nat.lt_succ_self _)
  · exact Prod.Lex.right _ (Nat.lt_succ_self _)
  · exact Prod.Lex.left _ _ (unseen_cons_lt _hf _hs)
  · exact Prod.Lex.right _ (Nat.lt_succ_self _)

def view (h : Hierarchy) (t : HostType) (target : String) : Option HostType :=
  h.search target [t] []

/-- The subtype relation on names; every name is below the root class. -/
def isSubtype (h : Hierarchy) (sub sup : String) : Bool :=
  sup == Platform.object || (h.view (.declared sub []) sup).isSome

end Companion.Hierarchy
