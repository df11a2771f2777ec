import Companion.HostType.Parser
import Companion.Proofs.Text.CharClass

namespace Companion.HostType

open Text

structure Identifier where
  first : Char
  others : List Char
  isStart : isIdentStart first = true
  isPart : ∀ c ∈ others, isIdentPart c = true

namespace Identifier

def chars (i : Identifier) : List Char := i.first :: i.others

def text (i : Identifier) : String := String.ofList i.chars

end Identifier

structure DottedName where
  first : Identifier
  others : List Identifier

inductive Token where
  | ident (i : Identifier)
  | dot | comma | openAngle | closeAngle | openBracket | closeBracket | question | extendsWord

def Token.chars : Token → List Char
  | ident i => i.chars
  | dot => ['.']
  | comma => [',']
  | openAngle => ['<']
  | closeAngle => ['>']
  | openBracket => ['[']
  | closeBracket => [']']
  | question => ['?']
  | extendsWord => "extends".toList

namespace DottedName

def chars (n : DottedName) : List Char := n.first.chars ++ n.others.flatMap fun i => '.' :: i.chars

def text (n : DottedName) : String := String.ofList n.chars

def tokens (n : DottedName) : List Token :=
  .ident n.first :: n.others.flatMap fun i => [.dot, .ident i]

theorem chars_singleton (i : Identifier) : chars ⟨i, []⟩ = i.chars := List.append_nil i.chars

theorem text_singleton (i : Identifier) : text ⟨i, []⟩ = i.text :=
  congrArg String.ofList (chars_singleton i)

theorem chars_cons (i j : Identifier) (js : List Identifier) :
    chars ⟨i, j :: js⟩ = i.chars ++ '.' :: chars ⟨j, js⟩ := rfl

theorem tokens_cons (i j : Identifier) (js : List Identifier) :
    tokens ⟨i, j :: js⟩ = [.ident i] ++ .dot :: tokens ⟨j, js⟩ := rfl

end DottedName

/-- A text that begins with tokens, blanks in front of each apart, and goes on with a rest. -/
inductive Begins : List Token → List Char → List Char → Prop
  | nil {s} : Begins [] s s
  | cons {k ks b s r} (hb : Blanks b) (h : Begins ks s r) : Begins (k :: ks) (b ++ k.chars ++ s) r

def Written (ks : List Token) (s : List Char) : Prop := ∃ b, Begins ks s b ∧ Blanks b

def VariableName (s : List Char) : Prop :=
  ∃ c ds, s = c :: ds ∧ ('A' ≤ c ∧ c ≤ 'Z') ∧ ∀ d ∈ ds, '0' ≤ d ∧ d ≤ '9'

def Keyword (name : String) : Prop := ∃ p : Primitive, p.keyword = name

/-- The type that a name without arguments denotes. Without dots it is a keyword, else a type
variable, else a declared type; with dots it is that of a declared type. -/
inductive Denotes : DottedName → HostType → Prop
  | primitive {i} (p : Primitive) (h : p.keyword = i.text) : Denotes ⟨i, []⟩ (.primitive p)
  | var {i} (hk : ¬Keyword i.text) (hv : VariableName i.chars) : Denotes ⟨i, []⟩ (.var i.text)
  | simple {i} (hk : ¬Keyword i.text) (hv : ¬VariableName i.chars) :
      Denotes ⟨i, []⟩ (.declared i.text [])
  | dotted {n} (h : n.others ≠ []) : Denotes n (.declared n.text [])

mutual

/-- The tokens spell a type. Where a spelling is ambiguous each reading is one of these. -/
inductive Spells : List Token → HostType → Prop
  | name {n t} (h : Denotes n t) : Spells n.tokens t
  | parameterized {n : DottedName} {ks as} (h : SpellsArgs ks as) :
      Spells (n.tokens ++ .openAngle :: (ks ++ [.closeAngle])) (.declared n.text as)
  | wildcard : Spells [.question] .wildcard
  | wildcardExtends {ks u} (h : Spells ks u) :
      Spells (.question :: .extendsWord :: ks) (.wildcardExtends u)
  | array {ks c} (h : Spells ks c) : Spells (ks ++ [.openBracket, .closeBracket]) (.array c)

inductive SpellsArgs : List Token → List HostType → Prop
  | last {ks a} (h : Spells ks a) : SpellsArgs ks [a]
  | cons {ks ls a as} (h : Spells ks a) (hs : SpellsArgs ls as) :
      SpellsArgs (ks ++ .comma :: ls) (a :: as)

end

/-- Each pair of brackets belongs to the innermost type that it follows: none makes an array of a
bounded wildcard, whose bound it follows as well. -/
inductive Innermost : HostType → Prop
  | primitive (p) : Innermost (.primitive p)
  | declared {n as} (h : ∀ a ∈ as, Innermost a) : Innermost (.declared n as)
  | array {c} (h : Innermost c) (hc : ∀ u, c ≠ .wildcardExtends u) : Innermost (.array c)
  | wildcard : Innermost .wildcard
  | wildcardExtends {u} (h : Innermost u) : Innermost (.wildcardExtends u)
  | var (n) : Innermost (.var n)

section Characters

variable {c : Char}

theorem isIdentPart_of_isIdentStart (h : isIdentStart c = true) : isIdentPart c = true := by
  rw [isIdentStart, Bool.or_assoc, Bool.or_eq_true] at h
  rw [isIdentPart, isAlphanumeric, Bool.or_assoc, Bool.or_eq_true, Bool.or_eq_true]
  exact h.imp_left .inl

theorem isIdentPart_eq_false_of_isBlank (h : isBlank c = true) : isIdentPart c = false := by
  have hmark : ∀ d, isBlank d = false → (c == d) = false := by
    rintro d hd
    rw [beq_eq_false_iff_ne]
    rintro rfl
    rw [h] at hd
    cases hd
  rw [isIdentPart, isAlphanumeric_eq_false_of_isBlank h, hmark '_' (by decide),
    hmark '$' (by decide)]
  rfl

theorem isBlank_eq_false_of_isIdentPart (h : isIdentPart c = true) : isBlank c = false := by
  cases hb : isBlank c with
  | false => rfl
  | true => rw [isIdentPart_eq_false_of_isBlank hb] at h; cases h

def marks : List Char := ['.', ',', '<', '>', '[', ']', '?']

theorem isIdentPart_eq_false_of_mem_marks (h : c ∈ marks) : isIdentPart c = false := by
  have hmarks : marks.all (fun d => !isIdentPart d) = true := by decide +kernel
  exact (Bool.not_eq_true' _).mp (List.all_eq_true.mp hmarks c h)

end Characters

section Names

variable {n : DottedName} {t : HostType}

theorem keyword_iff {name : String} : Keyword name ↔ (Primitive.ofKeyword? name).isSome := by
  constructor
  · rintro ⟨p, rfl⟩
    rw [Primitive.ofKeyword?_keyword]
    rfl
  · intro h
    obtain ⟨p, hp⟩ := Option.isSome_iff_exists.mp h
    exact ⟨p, Primitive.keyword_of_ofKeyword? hp⟩

theorem isVariableName_iff {w : List Char} : isVariableName w = true ↔ VariableName w := by
  cases w with
  | nil => simp [isVariableName, VariableName]
  | cons c ds => simp [isVariableName, VariableName]

theorem not_variableName_keyword (p : Primitive) : ¬VariableName p.keyword.toList := by
  rw [← isVariableName_iff]
  cases p <;> decide

theorem VariableName.not_keyword {w : List Char} (h : VariableName w) :
    ¬Keyword (String.ofList w) := by
  rintro ⟨p, hp⟩
  apply not_variableName_keyword p
  rw [hp, String.toList_ofList]
  exact h

theorem dot_notMem_chars (i : Identifier) : '.' ∉ i.chars := by
  have hdot : isIdentPart '.' = false := isIdentPart_eq_false_of_mem_marks (by decide)
  rw [Identifier.chars, List.mem_cons, not_or]
  constructor
  · intro h
    have hstart := isIdentPart_of_isIdentStart i.isStart
    rw [← h, hdot] at hstart
    cases hstart
  · intro h
    have hpart := i.isPart '.' h
    rw [hdot] at hpart
    cases hpart

theorem ofKeyword?_eq_none_iff {name : String} :
    Primitive.ofKeyword? name = none ↔ ¬Keyword name := by
  rw [keyword_iff, Option.not_isSome_iff_eq_none]

theorem ofName_chars (i : Identifier) :
    ofName (DottedName.chars ⟨i, []⟩) =
      match Primitive.ofKeyword? i.text with
      | some p => .primitive p
      | none => if isVariableName i.chars then .var i.text else .declared i.text [] := by
  rw [DottedName.chars_singleton, ofName, if_neg (dot_notMem_chars i)]
  rfl

theorem ofName_chars_cons (i j : Identifier) (js : List Identifier) :
    ofName (DottedName.chars ⟨i, j :: js⟩) = .declared (DottedName.text ⟨i, j :: js⟩) [] := by
  have hdot : '.' ∈ DottedName.chars ⟨i, j :: js⟩ := by simp [DottedName.chars_cons]
  rw [ofName, if_pos hdot]
  rfl

theorem denotes_ofName (n : DottedName) : Denotes n (ofName n.chars) := by
  obtain ⟨i, is⟩ := n
  cases is with
  | nil =>
      rw [ofName_chars]
      cases hp : Primitive.ofKeyword? i.text with
      | some p => exact .primitive p (Primitive.keyword_of_ofKeyword? hp)
      | none =>
          have hk := ofKeyword?_eq_none_iff.mp hp
          by_cases hv : isVariableName i.chars = true
          · rw [if_pos hv]
            exact .var hk (isVariableName_iff.mp hv)
          · rw [if_neg hv]
            exact .simple hk fun h => hv (isVariableName_iff.mpr h)
  | cons j js =>
      rw [ofName_chars_cons]
      exact .dotted (List.cons_ne_nil j js)

theorem ofName_of_denotes (h : Denotes n t) : ofName n.chars = t := by
  cases h with
  | primitive p hp => rw [ofName_chars, ← hp, Primitive.ofKeyword?_keyword]
  | var hk hv =>
      rw [ofName_chars, ofKeyword?_eq_none_iff.mpr hk, if_pos (isVariableName_iff.mpr hv)]
  | simple hk hv =>
      rw [ofName_chars, ofKeyword?_eq_none_iff.mpr hk,
        if_neg fun hname => hv (isVariableName_iff.mp hname)]
  | dotted hothers =>
      obtain ⟨i, is⟩ := n
      cases is with
      | nil => exact absurd rfl hothers
      | cons j js => exact ofName_chars_cons i j js

theorem Denotes.declared
    (hplain : n.others = [] → ¬Keyword n.text ∧ ¬VariableName n.chars) :
    Denotes n (.declared n.text []) := by
  obtain ⟨i, is⟩ := n
  cases is with
  | nil =>
      obtain ⟨hk, hv⟩ := hplain rfl
      rw [DottedName.text_singleton] at hk ⊢
      rw [DottedName.chars_singleton] at hv
      exact .simple hk hv
  | cons j js => exact .dotted (List.cons_ne_nil j js)

theorem Denotes.innermost (h : Denotes n t) : Innermost t := by
  cases h with
  | primitive p => exact .primitive p
  | var => exact .var _
  | simple | dotted => exact .declared nofun

end Names

section Brackets

variable {ks : List Token} {t : HostType}

theorem exists_innermost_array (hi : Innermost t) (h : Spells ks t) :
    ∃ t', Spells (ks ++ [.openBracket, .closeBracket]) t' ∧ Innermost t' := by
  induction hi generalizing ks with
  | wildcardExtends hu ih =>
      cases h with
      | name hn => cases hn
      | wildcardExtends hspells =>
          -- the brackets go to the bound, however deep it is bounded itself
          obtain ⟨u, hu, hinner⟩ := ih hspells
          exact ⟨.wildcardExtends u, .wildcardExtends hu, .wildcardExtends hinner⟩
  | primitive p => exact ⟨_, .array h, .array (.primitive p) nofun⟩
  | declared hargs => exact ⟨_, .array h, .array (.declared hargs) nofun⟩
  | array hc hne => exact ⟨_, .array h, .array (.array hc hne) nofun⟩
  | wildcard => exact ⟨_, .array h, .array .wildcard nofun⟩
  | var n => exact ⟨_, .array h, .array (.var n) nofun⟩

mutual

theorem exists_innermost : ∀ {ks : List Token} {t : HostType}, Spells ks t →
    ∃ t', Spells ks t' ∧ Innermost t'
  | _, t, .name h => ⟨t, .name h, h.innermost⟩
  | _, _, .parameterized h =>
      have ⟨_, has, hinner⟩ := exists_innermost_args h
      ⟨_, .parameterized has, .declared hinner⟩
  | _, _, .wildcard => ⟨_, .wildcard, .wildcard⟩
  | _, _, .wildcardExtends h =>
      have ⟨_, hu, hinner⟩ := exists_innermost h
      ⟨_, .wildcardExtends hu, .wildcardExtends hinner⟩
  | _, _, .array h =>
      have ⟨_, hc, hinner⟩ := exists_innermost h
      exists_innermost_array hinner hc

theorem exists_innermost_args : ∀ {ks : List Token} {as : List HostType}, SpellsArgs ks as →
    ∃ as', SpellsArgs ks as' ∧ ∀ a ∈ as', Innermost a
  | _, _, .last h =>
      have ⟨_, ha, hinner⟩ := exists_innermost h
      ⟨_, .last ha, List.forall_mem_singleton.mpr hinner⟩
  | _, _, .cons h hs =>
      have ⟨_, ha, hinner⟩ := exists_innermost h
      have ⟨_, has, hothers⟩ := exists_innermost_args hs
      ⟨_, .cons ha has, List.forall_mem_cons.mpr ⟨hinner, hothers⟩⟩

end

theorem SpellsArgs.forall_spells : ∀ {ks : List Token} {as : List HostType}, SpellsArgs ks as →
    as ≠ [] ∧ ∀ a ∈ as, ∃ ls, Spells ls a
  | _, _, .last h => ⟨by simp, by simpa using ⟨_, h⟩⟩
  | _, _, .cons h hs => ⟨by simp, List.forall_mem_cons.mpr ⟨⟨_, h⟩, hs.forall_spells.2⟩⟩

end Brackets

end Companion.HostType
