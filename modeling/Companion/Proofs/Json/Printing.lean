import Companion.Proofs.Json.Grammar
import Mathlib.Tactic.IntervalCases

namespace Companion.Json

theorem skipBlanks_replicate (n : Nat) (s : List Char) :
    skipBlanks (List.replicate n ' ' ++ s) = skipBlanks s := by
  induction n with
  | zero => rfl
  | succ n ih => exact ih

@[simp] theorem skipBlanks_lineStart (level : Nat) (s : List Char) :
    skipBlanks ((lineStart level).toList ++ s) = skipBlanks s := by
  have hline : (lineStart level).toList = '\n' :: List.replicate (2 * level) ' ' := by
    rw [lineStart, String.toList_append, String.toList_ofList, String.toList_ofList]
    rfl
  rw [hline]
  exact skipBlanks_replicate (2 * level) s

theorem skipBlanks_space (s : List Char) : skipBlanks (' ' :: s) = skipBlanks s := rfl

section Strings

theorem exists_controlDigits {n : Nat} (h : n < 0x20) :
    ∃ d₁ d₂, (if n < 0x10 then "0" else "").toList ++ (Text.hexadecimal n).toList = [d₁, d₂] ∧
      hex4? '0' '0' d₁ d₂ = some n := by
  rw [Text.hexadecimal, String.toList_ofList]
  interval_cases n <;> exact ⟨_, _, rfl, rfl⟩

theorem surrogate_eq_false_of_lt {n : Nat} (h : n < 0x20) :
    isLowSurrogate n = false ∧ isHighSurrogate n = false := by
  simp only [isLowSurrogate, isHighSurrogate, Bool.and_eq_false_iff, decide_eq_false_iff_not]
  omega

theorem spellsChar_control {c : Char} (hc : c.toNat < 0x20) (r : List Char) :
    SpellsChar c (("\\u00" ++ (if c.toNat < 0x10 then "0" else "") ++
      Text.hexadecimal c.toNat).toList ++ r) r := by
  obtain ⟨d₁, d₂, hdigits, hcode⟩ := exists_controlDigits hc
  obtain ⟨hlow, hhigh⟩ := surrogate_eq_false_of_lt hc
  have h := @SpellsChar.code _ _ _ _ _ r hcode hlow hhigh
  rw [Char.ofNat_toNat] at h
  rw [String.toList_append, String.toList_append, List.append_assoc "\\u00".toList, hdigits]
  exact h

theorem spellsChar_escapedChar (c : Char) (r : List Char) :
    SpellsChar c ((escapedChar c).toList ++ r) r := by
  unfold escapedChar
  split
  case h_8 hquote hslash _ _ _ _ _ =>
    by_cases hc : c.toNat < 0x20
    · rw [if_pos hc]
      exact spellsChar_control hc r
    · rw [if_neg hc, String.toList_singleton]
      exact .plain hquote hslash (Nat.le_of_not_lt hc)
  all_goals exact .letter rfl

theorem spellsChars_escaped (cs r : List Char) :
    SpellsChars cs (cs.flatMap (fun c => (escapedChar c).toList) ++ '\"' :: r) r := by
  induction cs with
  | nil => exact .nil
  | cons c cs ih =>
      rw [List.flatMap_cons, List.append_assoc]
      exact .cons (spellsChar_escapedChar c _) ih

theorem toList_quotedString (t : String) (r : List Char) :
    (quotedString t).toList ++ r =
      '\"' :: (t.toList.flatMap (fun c => (escapedChar c).toList) ++ '\"' :: r) := by
  simp only [quotedString, String.toList_append, String.toList_join, List.flatMap_map,
    List.append_assoc]
  rfl

theorem spells_quotedString (t : String) (r : List Char) :
    Spells (.string t) ((quotedString t).toList ++ r) r := by
  rw [toList_quotedString]
  exact .string (spellsChars_escaped t.toList r)

theorem spellsKey_quotedString (level : Nat) (k : String) (r : List Char) :
    SpellsKey k ((lineStart level).toList ++ ((quotedString k).toList ++ ':' :: r)) r := by
  refine ⟨?_, spellsChars_escaped k.toList (':' :: r), skipBlanks_of_not_blank (by decide)⟩
  rw [skipBlanks_lineStart, toList_quotedString]
  exact skipBlanks_of_not_blank (by decide)

end Strings

section Lines

variable (level : Nat) (v : Json) (k : String) (r : List Char)

theorem toList_pretty_array (vs : List Json) :
    (pretty level (.array (v :: vs))).toList ++ r =
      '[' :: ((lineStart (level + 1)).toList ++ ((pretty (level + 1) v).toList ++
        ((prettyItems (level + 1) vs).toList ++ ((lineStart level).toList ++ ']' :: r)))) := by
  rw [pretty]
  simp only [String.toList_append, List.append_assoc]
  rfl

theorem toList_prettyItems_cons (vs : List Json) :
    (prettyItems level (v :: vs)).toList ++ r =
      ',' :: ((lineStart level).toList ++ ((pretty level v).toList ++
        ((prettyItems level vs).toList ++ r))) := by
  rw [prettyItems]
  simp only [String.toList_append, List.append_assoc]
  rfl

theorem toList_pretty_object (ms : List (String × Json)) :
    (pretty level (.object ((k, v) :: ms))).toList ++ r =
      '\x7b' :: ((lineStart (level + 1)).toList ++ ((quotedString k).toList ++
        ':' :: ' ' :: ((pretty (level + 1) v).toList ++ ((prettyMembers (level + 1) ms).toList ++
          ((lineStart level).toList ++ '\x7d' :: r))))) := by
  rw [pretty]
  simp only [String.toList_append, List.append_assoc]
  rfl

theorem toList_prettyMembers_cons (ms : List (String × Json)) :
    (prettyMembers level ((k, v) :: ms)).toList ++ r =
      ',' :: ((lineStart level).toList ++ ((quotedString k).toList ++
        ':' :: ' ' :: ((pretty level v).toList ++ ((prettyMembers level ms).toList ++ r)))) := by
  rw [prettyMembers]
  simp only [String.toList_append, List.append_assoc]
  rfl

end Lines

mutual

theorem spells_pretty (level : Nat) : ∀ (v : Json) (r : List Char),
    Spells v ((pretty level v).toList ++ r) r
  | .null, _ => by
    rw [pretty]
    exact .null
  | .bool true, _ => by
    rw [pretty]
    exact .yes
  | .bool false, _ => by
    rw [pretty]
    exact .no
  | .number n, r => by
    rw [pretty, Nat.toList_repr]
    exact .number rfl
  | .string t, r => by
    rw [pretty]
    exact spells_quotedString t r
  | .array [], _ => by
    rw [pretty]
    exact .emptyArray (skipBlanks_of_not_blank rfl)
  | .array (v :: vs), r => by
    have hv := spells_pretty (level + 1) v
    rw [toList_pretty_array]
    refine .array (spellsItems_pretty (level + 1) level vs ?_)
    rw [skipBlanks_lineStart, (hv _).skipBlanks_eq]
    exact hv _
  | .object [], _ => by
    rw [pretty]
    exact .emptyObject (skipBlanks_of_not_blank rfl)
  | .object ((k, v) :: ms), r => by
    have hv := spells_pretty (level + 1) v
    rw [toList_pretty_object]
    refine .object (spellsMembers_pretty (level + 1) level ms
      (spellsKey_quotedString (level + 1) k _) ?_)
    rw [skipBlanks_space, (hv _).skipBlanks_eq]
    exact hv _

theorem spellsItems_pretty (level outer : Nat) : ∀ (vs : List Json) {v : Json} {s r : List Char},
    Spells v (skipBlanks s)
      ((prettyItems level vs).toList ++ ((lineStart outer).toList ++ ']' :: r)) →
    SpellsItems (v :: vs) s r
  | [], _, _, _, h => by
    refine .last h ?_
    rw [prettyItems]
    exact (skipBlanks_lineStart outer _).trans (skipBlanks_of_not_blank rfl)
  | w :: ws, _, _, _, h => by
    have hw := spells_pretty level w
    rw [toList_prettyItems_cons] at h
    refine .cons h (skipBlanks_of_not_blank rfl) (spellsItems_pretty level outer ws ?_)
    rw [skipBlanks_lineStart, (hw _).skipBlanks_eq]
    exact hw _

theorem spellsMembers_pretty (level outer : Nat) : ∀ (ms : List (String × Json)) {k : String}
    {v : Json} {s t r : List Char}, SpellsKey k s t →
    Spells v (skipBlanks t)
      ((prettyMembers level ms).toList ++ ((lineStart outer).toList ++ '\x7d' :: r)) →
    SpellsMembers ((k, v) :: ms) s r
  | [], _, _, _, _, _, hk, h => by
    refine .last hk h ?_
    rw [prettyMembers]
    exact (skipBlanks_lineStart outer _).trans (skipBlanks_of_not_blank rfl)
  | (k, w) :: ms, _, _, _, _, _, hk, h => by
    have hw := spells_pretty level w
    rw [toList_prettyMembers_cons] at h
    refine .cons hk h (skipBlanks_of_not_blank rfl)
      (spellsMembers_pretty level outer ms (spellsKey_quotedString level k _) ?_)
    rw [skipBlanks_space, (hw _).skipBlanks_eq]
    exact hw _

end

/-- What is printed for a value is a document of it, also when blanks follow. -/
theorem document_text_append (v : Json) {blanks : String} (hb : skipBlanks blanks.toList = []) :
    Document v (v.text ++ blanks) := by
  have h := spells_pretty 0 v blanks.toList
  refine ⟨blanks.toList, ?_, hb⟩
  rwa [text, String.toList_append, h.skipBlanks_eq]

theorem document_text (v : Json) : Document v v.text := by
  have h := @document_text_append v "" rfl
  rwa [String.append_empty] at h

end Companion.Json
