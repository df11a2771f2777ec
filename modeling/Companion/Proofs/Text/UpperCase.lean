import Companion.Text.UpperCase
import Mathlib.Tactic.Common

namespace Companion.Text

variable {c x : Char}

theorem toUppercase_of_lookup {codes : List Nat} (h : expandingCases.lookup c.toNat = some codes) :
    toUppercase c = codes.map Char.ofNat := by
  rw [toUppercase, h]

theorem toUppercase_cases (c : Char) :
    (∃ d, toUppercase c = [d]) ∨ ∃ p ∈ expandingCases, toUppercase c = p.2.map Char.ofNat := by
  cases h : expandingCases.lookup c.toNat with
  | some codes =>
      obtain ⟨before, after, hsplit, _⟩ := List.lookup_eq_some_iff.mp h
      exact .inr ⟨(c.toNat, codes), by simp [hsplit], toUppercase_of_lookup h⟩
  | none =>
      left
      rw [toUppercase, h]
      cases findCaseRun c.toNat caseRuns with
      | some r => exact ⟨_, rfl⟩
      | none => exact ⟨c, rfl⟩

theorem toUppercase_ne_nil (c : Char) : toUppercase c ≠ [] := by
  have hcodes : ∀ p ∈ expandingCases, p.2 ≠ [] := by decide +kernel
  rcases toUppercase_cases c with ⟨d, hd⟩ | ⟨p, hp, hc⟩
  · rw [hd]
    exact List.cons_ne_nil d []
  · rw [hc, Ne, List.map_eq_nil_iff]
    exact hcodes p hp

theorem toUppercase_of_mem_tail (hx : x ∈ (toUppercase c).tail) (hlow : isUppercase x = false) :
    toUppercase x = [x] := by
  have hcodes : ∀ p ∈ expandingCases, ∀ n ∈ p.2.tail, isUppercase (Char.ofNat n) = false →
      toUppercase (Char.ofNat n) = [Char.ofNat n] := by decide +kernel
  rcases toUppercase_cases c with ⟨d, hd⟩ | ⟨p, hp, hc⟩
  · rw [hd] at hx
    cases hx
  · rw [hc, ← List.map_tail] at hx
    obtain ⟨n, hn, rfl⟩ := List.mem_map.mp hx
    exact hcodes p hp n hn hlow

theorem of_ascii {P : Char → Prop} (hall : ∀ n < 128, P (Char.ofNat n)) (hc : c.toNat < 128) :
    P c :=
  Char.ofNat_toNat c ▸ hall c.toNat hc

theorem toUppercase_of_ascii (hc : c.toNat < 128) : toUppercase c = [c.toUpper] :=
  of_ascii (P := fun c => toUppercase c = [c.toUpper]) (by decide +kernel) hc

end Companion.Text
