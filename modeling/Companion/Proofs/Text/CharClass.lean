import Companion.Text.CharClass
import Mathlib.Data.List.TakeWhile
import Mathlib.Tactic.Common

namespace Companion.Text

variable {c : Char} {b r s : List Char}

def Blanks (b : List Char) : Prop := ∀ c ∈ b, isBlank c = true

instance : Decidable (Blanks b) := List.decidableBAll _ b

theorem exists_blanks (s : List Char) : ∃ b, Blanks b ∧ s = b ++ skipBlanks s :=
  ⟨s.takeWhile isBlank, fun _ hc => List.mem_takeWhile_imp hc,
    (List.takeWhile_append_dropWhile ..).symm⟩

theorem skipBlanks_append (hb : Blanks b) : skipBlanks (b ++ s) = skipBlanks s :=
  List.dropWhile_append_of_pos hb

theorem skipBlanks_cons (hc : isBlank c = false) : skipBlanks (c :: s) = c :: s :=
  List.dropWhile_cons_of_neg (Bool.not_eq_true _ ▸ hc)

theorem skipBlanks_eq_nil_iff : skipBlanks s = [] ↔ Blanks s := List.dropWhile_eq_nil_iff

def CharRun.codes (r : CharRun) : List Nat :=
  List.range' r.first ((r.last - r.first) / r.stride + 1) r.stride

theorem CharRun.mem_codes {r : CharRun} {n : Nat} (h : r.contains n = true) : n ∈ r.codes := by
  simp only [CharRun.contains, Bool.and_eq_true, decide_eq_true_eq, beq_iff_eq] at h
  obtain ⟨⟨hfirst, hlast⟩, hstride⟩ := h
  have hsteps : r.stride * ((n - r.first) / r.stride) = n - r.first :=
    Nat.mul_div_cancel' (Nat.dvd_of_mod_eq_zero hstride)
  have hbound : (n - r.first) / r.stride ≤ (r.last - r.first) / r.stride :=
    Nat.div_le_div_right (Nat.sub_le_sub_right hlast r.first)
  rw [CharRun.codes, List.mem_range']
  exact ⟨(n - r.first) / r.stride, Nat.lt_succ_of_le hbound, by omega⟩

theorem mem_codes_of_inRuns {n : Nat} {runs : List CharRun} (h : inRuns n runs = true) :
    n ∈ runs.flatMap CharRun.codes := by
  induction runs with
  | nil => cases h
  | cons r rest ih =>
      rw [List.flatMap_cons, List.mem_append]
      rw [inRuns] at h
      split at h
      · cases h
      · rw [Bool.or_eq_true] at h
        exact h.imp CharRun.mem_codes ih

theorem isAlphanumeric_eq_false_of_isBlank (h : isBlank c = true) : isAlphanumeric c = false := by
  have hcodes : ∀ n ∈ blankRuns.flatMap CharRun.codes,
      (inRuns n alphabeticRuns || inRuns n numericRuns) = false := by decide +kernel
  exact hcodes c.toNat (mem_codes_of_inRuns h)

end Companion.Text
