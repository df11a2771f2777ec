import Companion.Proofs.HostType.Reading
import Mathlib.Tactic.Common

namespace Companion.HostType

open Text

/-- At every depth: names of declared types are identifiers joined by dots, and one identifier
without arguments is neither a keyword nor the name of a type variable; type variables have such
names; no array has a bounded wildcard as its component. -/
inductive WellFormed : HostType → Prop
  | primitive (p) : WellFormed (.primitive p)
  | declared {as} (n : DottedName)
      (hplain : as = [] → n.others = [] → ¬Keyword n.text ∧ ¬VariableName n.chars)
      (h : ∀ a ∈ as, WellFormed a) : WellFormed (.declared n.text as)
  | array {c} (h : WellFormed c) (hc : ∀ u, c ≠ .wildcardExtends u) : WellFormed (.array c)
  | wildcard : WellFormed .wildcard
  | wildcardExtends {u} (h : WellFormed u) : WellFormed (.wildcardExtends u)
  | var {w : List Char} (h : VariableName w) : WellFormed (.var (String.ofList w))

variable {v w : List Char} {ks ls : List Token} {t : HostType} {as : List HostType}

theorem WellFormed.innermost (h : WellFormed t) : Innermost t := by
  induction h with
  | primitive p => exact .primitive p
  | declared n hplain h ih => exact .declared ih
  | array h hc ih => exact .array ih hc
  | wildcard => exact .wildcard
  | wildcardExtends h ih => exact .wildcardExtends ih
  | var h => exact .var _

theorem wellFormed_of_spells (hi : Innermost t) (h : Spells ks t) : WellFormed t := by
  induction hi generalizing ks with
  | primitive p => exact .primitive p
  | declared hargs ih =>
      cases h with
      | name hn =>
          cases hn with
          | @simple i hk hv =>
              rw [← DottedName.text_singleton] at hk ⊢
              rw [← DottedName.chars_singleton] at hv
              exact .declared _ (fun _ _ => ⟨hk, hv⟩) nofun
          | dotted hothers => exact .declared _ (fun _ hnone => absurd hnone hothers) nofun
      | parameterized hs =>
          obtain ⟨hne, hall⟩ := hs.forall_spells
          refine .declared _ (fun hnil => absurd hnil hne) fun a ha => ?_
          obtain ⟨ls, hls⟩ := hall a ha
          exact ih a ha hls
  | array hc hne ih =>
      cases h with
      | name hn => cases hn
      | array hspells => exact .array (ih hspells) hne
  | wildcard => exact .wildcard
  | wildcardExtends hu ih =>
      cases h with
      | name hn => cases hn
      | wildcardExtends hspells => exact .wildcardExtends (ih hspells)
  | var n =>
      cases h with
      | name hn =>
          cases hn with
          | var hk hv => exact .var hv

/-- The text consists of the tokens wherever it stands, blanks in front of it apart. -/
def Renders (ks : List Token) (w : List Char) : Prop :=
  ∀ b r, Blanks b → Begins ks (b ++ (w ++ r)) r

theorem Renders.token (k : Token) : Renders [k] k.chars := by
  intro b r hb
  rw [← List.append_assoc]
  exact .cons hb .nil

theorem Renders.append (h : Renders ks v) (h' : Renders ls w) : Renders (ks ++ ls) (v ++ w) := by
  intro b r hb
  rw [List.append_assoc]
  exact begins_append_iff.mpr ⟨w ++ r, h b _ hb, h' [] r (List.forall_mem_nil _)⟩

theorem Renders.space_cons (h : Renders ks w) : Renders ks (' ' :: w) := by
  intro b r hb
  have hspace : Blanks [' '] := by decide
  rw [List.cons_append, List.append_cons]
  exact h (b ++ [' ']) r (List.forall_mem_append.mpr ⟨hb, hspace⟩)

theorem Renders.written (h : Renders ks w) : Written ks w := by
  have hks := h [] [] (List.forall_mem_nil _)
  rw [List.nil_append, List.append_nil] at hks
  exact ⟨[], hks, List.forall_mem_nil _⟩

theorem renders_name (n : DottedName) : Renders n.tokens n.chars := by
  obtain ⟨i, is⟩ := n
  induction is generalizing i with
  | nil =>
      rw [DottedName.chars_singleton]
      exact .token (.ident i)
  | cons j js ih => exact (Renders.token (.ident i)).append ((Renders.token .dot).append (ih j))

def SpelledBy (t : HostType) (w : List Char) : Prop := ∃ ks, Spells ks t ∧ Renders ks w

theorem spelledBy_keyword (p : Primitive) : SpelledBy (.primitive p) p.keyword.toList := by
  obtain ⟨i, hi⟩ : ∃ i : Identifier, i.chars = p.keyword.toList := by
    cases p <;> exact ⟨⟨_, _, by decide, List.all_eq_true.mp (by decide)⟩, rfl⟩
  have hname : p.keyword = i.text := by rw [Identifier.text, hi, String.ofList_toList]
  rw [← hi, ← DottedName.chars_singleton]
  exact ⟨_, .name (.primitive p hname), renders_name _⟩

theorem toNat_mem_range' {c d e : Char} (h : d ≤ c ∧ c ≤ e) :
    c.toNat ∈ List.range' d.toNat (e.toNat + 1 - d.toNat) := by
  simp only [Char.le_def, UInt32.le_iff_toNat_le] at h
  obtain ⟨hlow, hhigh⟩ : d.toNat ≤ c.toNat ∧ c.toNat ≤ e.toNat := h
  rw [List.mem_range'_1]
  omega

theorem isIdentStart_of_upper {c : Char} (h : 'A' ≤ c ∧ c ≤ 'Z') : isIdentStart c = true := by
  have hletters : ∀ n ∈ List.range' 'A'.toNat 26, inRuns n alphabeticRuns = true := by decide
  rw [isIdentStart, isAlphabetic, hletters _ (toNat_mem_range' h)]
  rfl

theorem isIdentPart_of_digit {c : Char} (h : '0' ≤ c ∧ c ≤ '9') : isIdentPart c = true := by
  have hdigits : ∀ n ∈ List.range' '0'.toNat 10, inRuns n numericRuns = true := by decide
  rw [isIdentPart, isAlphanumeric, isNumeric, hdigits _ (toNat_mem_range' h), Bool.or_true]
  rfl

theorem spelledBy_var (h : VariableName w) : SpelledBy (.var (String.ofList w)) w := by
  obtain ⟨i, rfl⟩ : ∃ i : Identifier, i.chars = w := by
    obtain ⟨c, ds, rfl, hc, hds⟩ := h
    exact ⟨⟨c, ds, isIdentStart_of_upper hc, fun d hd => isIdentPart_of_digit (hds d hd)⟩, rfl⟩
  refine ⟨_, .name (.var h.not_keyword h), ?_⟩
  have hname := renders_name ⟨i, []⟩
  rwa [DottedName.chars_singleton] at hname

theorem spelledBy_args {a : HostType} (h : ∀ x ∈ a :: as, SpelledBy x x.text.toList) :
    ∃ ks, SpellsArgs ks (a :: as) ∧ Renders ks (a.text ++ textRest as).toList := by
  induction as generalizing a with
  | nil =>
      obtain ⟨ks, hspells, hrenders⟩ := h a (by simp)
      refine ⟨ks, .last hspells, ?_⟩
      rwa [textRest, String.append_empty]
  | cons x xs ih =>
      obtain ⟨ks, hspells, hrenders⟩ := h a (by simp)
      obtain ⟨ls, hothers, hlater⟩ := ih fun y hy => h y (List.mem_cons_of_mem a hy)
      refine ⟨ks ++ .comma :: ls, .cons hspells hothers, ?_⟩
      have hcomma := (Renders.token .comma).append hlater.space_cons
      have htext : (a.text ++ textRest (x :: xs)).toList =
          a.text.toList ++ (Token.comma.chars ++ ' ' :: (x.text ++ textRest xs).toList) := by
        rw [textRest]
        simp only [String.toList_append, List.append_assoc]
        rfl
      rw [htext]
      exact hrenders.append hcomma

theorem spelledBy_text (h : WellFormed t) : SpelledBy t t.text.toList := by
  induction h with
  | primitive p => exact spelledBy_keyword p
  | @declared as n hplain h ih =>
      cases as with
      | nil =>
          have htext : (text (.declared n.text [])).toList = n.chars := String.toList_ofList
          rw [htext]
          exact ⟨_, .name (.declared (hplain rfl)), renders_name n⟩
      | cons a as =>
          obtain ⟨ks, hspells, hrenders⟩ := spelledBy_args ih
          refine ⟨_, .parameterized hspells, ?_⟩
          have htext : (text (.declared n.text (a :: as))).toList =
              n.chars ++ (Token.openAngle.chars ++
                ((a.text ++ textRest as).toList ++ Token.closeAngle.chars)) := by
            rw [text, DottedName.text]
            simp only [String.toList_append, String.toList_ofList, List.append_assoc]
            rfl
          rw [htext]
          exact (renders_name n).append
            ((Renders.token .openAngle).append (hrenders.append (.token .closeAngle)))
  | @array c h hc ih =>
      obtain ⟨ks, hspells, hrenders⟩ := ih
      refine ⟨_, .array hspells, ?_⟩
      rw [text, String.toList_append]
      exact hrenders.append ((Renders.token .openBracket).append (.token .closeBracket))
  | wildcard => exact ⟨_, .wildcard, .token .question⟩
  | @wildcardExtends u h ih =>
      obtain ⟨ks, hspells, hrenders⟩ := ih
      refine ⟨_, .wildcardExtends hspells, ?_⟩
      rw [text, String.toList_append]
      exact (Renders.token .question).append
        ((Renders.token .extendsWord).space_cons.append hrenders.space_cons)
  | var h =>
      rw [text, String.toList_ofList]
      exact spelledBy_var h

theorem wellFormed_of_parse {input : String} (h : parse input = .ok t) : WellFormed t := by
  obtain ⟨ks, -, hspells, hinner⟩ := parse_eq_ok_iff.mp h
  exact wellFormed_of_spells hinner hspells

theorem parse_text (h : WellFormed t) : parse t.text = .ok t := by
  obtain ⟨ks, hspells, hrenders⟩ := spelledBy_text h
  exact parse_eq_ok_iff.mpr ⟨ks, hrenders.written, hspells, h.innermost⟩

/-- A type is read again from its spelling exactly if it is well-formed. What is read from any text
is well-formed, and so it is read again from its own spelling. -/
theorem parse_text_iff_wellFormed (t : HostType) :
    (parse t.text = .ok t ↔ WellFormed t) ∧
    ∀ input, parse input = .ok t → WellFormed t ∧ parse t.text = .ok t := by
  refine ⟨⟨wellFormed_of_parse, parse_text⟩, ?_⟩
  intro input h
  have hwell := wellFormed_of_parse h
  exact ⟨hwell, parse_text hwell⟩

theorem dense_argument_is_read_again :
    parse "List<?extendsT[]>" = .ok (.declared "List" [.wildcardExtends (.array (.var "T"))]) ∧
      parse "List<? extends T[]>" = .ok (.declared "List" [.wildcardExtends (.array (.var "T"))]) ∧
      parse "? extends T[]" ≠ .ok (.array (.wildcardExtends (.var "T"))) := by
  have hread : parse "List<?extendsT[]>" =
      .ok (.declared "List" [.wildcardExtends (.array (.var "T"))]) := by decide +kernel
  have htext : text (.declared "List" [.wildcardExtends (.array (.var "T"))]) =
      "List<? extends T[]>" := by decide
  have hbrackets : text (.array (.wildcardExtends (.var "T"))) = "? extends T[]" := by decide
  have hwell : ¬WellFormed (.array (.wildcardExtends (.var "T"))) := by
    intro h
    cases h with
    | array h hc => exact hc _ rfl
  refine ⟨hread, ?_, ?_⟩
  · rw [← htext]
    exact ((parse_text_iff_wellFormed _).2 _ hread).2
  · rw [← hbrackets, Ne, (parse_text_iff_wellFormed _).1]
    exact hwell

end Companion.HostType
