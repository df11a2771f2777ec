import Companion.Json.Token
import Companion.Json.Value
import Mathlib.Data.List.DropRight
import Mathlib.Tactic.Common

namespace Companion.Json

/-- A character inside a string stands for itself or is escaped: by a letter, by the four digits of
its code, or by the digits of two surrogates. -/
inductive SpellsChar : Char → List Char → List Char → Prop
  | plain {c : Char} {r : List Char} (hquote : c ≠ '\"') (hslash : c ≠ '\\')
      (hcontrol : 0x20 ≤ c.toNat) : SpellsChar c (c :: r) r
  | letter {e c : Char} {r : List Char} (h : simpleEscape? e = some c) :
      SpellsChar c ('\\' :: e :: r) r
  | code {d₁ d₂ d₃ d₄ : Char} {n : Nat} {r : List Char} (h : hex4? d₁ d₂ d₃ d₄ = some n)
      (hlow : isLowSurrogate n = false) (hhigh : isHighSurrogate n = false) :
      SpellsChar (Char.ofNat n) ('\\' :: 'u' :: d₁ :: d₂ :: d₃ :: d₄ :: r) r
  | pair {d₁ d₂ d₃ d₄ e₁ e₂ e₃ e₄ : Char} {n m : Nat} {r : List Char}
      (hn : hex4? d₁ d₂ d₃ d₄ = some n) (hhigh : isHighSurrogate n = true)
      (hm : hex4? e₁ e₂ e₃ e₄ = some m) (hlow : isLowSurrogate m = true) :
      SpellsChar (Char.ofNat (0x10000 + (n - 0xD800) * 0x400 + (m - 0xDC00)))
        ('\\' :: 'u' :: d₁ :: d₂ :: d₃ :: d₄ :: '\\' :: 'u' :: e₁ :: e₂ :: e₃ :: e₄ :: r) r

inductive SpellsChars : List Char → List Char → List Char → Prop
  | nil {r : List Char} : SpellsChars [] ('\"' :: r) r
  | cons {c : Char} {cs s t r : List Char} (hc : SpellsChar c s t) (hcs : SpellsChars cs t r) :
      SpellsChars (c :: cs) s r

inductive SpellsKey (k : String) (s r : List Char) : Prop
  | mk {t u : List Char} (hopen : skipBlanks s = '\"' :: t) (hk : SpellsChars k.toList t u)
      (hcolon : skipBlanks u = ':' :: r) : SpellsKey k s r

mutual

inductive Spells : Json → List Char → List Char → Prop
  | null {r : List Char} : Spells .null ('n' :: 'u' :: 'l' :: 'l' :: r) r
  | yes {r : List Char} : Spells (.bool true) ('t' :: 'r' :: 'u' :: 'e' :: r) r
  | no {r : List Char} : Spells (.bool false) ('f' :: 'a' :: 'l' :: 's' :: 'e' :: r) r
  | number {n : Nat} {s r : List Char} (h : s = Nat.toDigits 10 n ++ r) : Spells (.number n) s r
  | string {t : String} {s r : List Char} (h : SpellsChars t.toList s r) :
      Spells (.string t) ('\"' :: s) r
  | emptyArray {s r : List Char} (h : skipBlanks s = ']' :: r) : Spells (.array []) ('[' :: s) r
  | array {vs : List Json} {s r : List Char} (h : SpellsItems vs s r) :
      Spells (.array vs) ('[' :: s) r
  | emptyObject {s r : List Char} (h : skipBlanks s = '\x7d' :: r) :
      Spells (.object []) ('\x7b' :: s) r
  | object {ms : List (String × Json)} {s r : List Char} (h : SpellsMembers ms s r) :
      Spells (.object ms) ('\x7b' :: s) r

inductive SpellsItems : List Json → List Char → List Char → Prop
  | last {v : Json} {s t r : List Char} (hv : Spells v (skipBlanks s) t)
      (hclose : skipBlanks t = ']' :: r) : SpellsItems [v] s r
  | cons {v : Json} {vs : List Json} {s t u r : List Char} (hv : Spells v (skipBlanks s) t)
      (hcomma : skipBlanks t = ',' :: u) (hvs : SpellsItems vs u r) : SpellsItems (v :: vs) s r

inductive SpellsMembers : List (String × Json) → List Char → List Char → Prop
  | last {k : String} {v : Json} {s t u r : List Char} (hk : SpellsKey k s t)
      (hv : Spells v (skipBlanks t) u) (hclose : skipBlanks u = '\x7d' :: r) :
      SpellsMembers [(k, v)] s r
  | cons {k : String} {v : Json} {ms : List (String × Json)} {s t u w r : List Char}
      (hk : SpellsKey k s t) (hv : Spells v (skipBlanks t) u) (hcomma : skipBlanks u = ',' :: w)
      (hms : SpellsMembers ms w r) : SpellsMembers ((k, v) :: ms) s r

end

/-- A document that holds one value, and blanks around it. -/
def Document (v : Json) (source : String) : Prop :=
  ∃ r, Spells v (skipBlanks source.toList) r ∧ skipBlanks r = []

theorem skipBlanks_of_not_blank {c : Char} {s : List Char} (h : isBlank c = false) :
    skipBlanks (c :: s) = c :: s := List.dropWhile_cons_of_neg (by simp [h])

@[simp] theorem skipBlanks_skipBlanks (s : List Char) : skipBlanks (skipBlanks s) = skipBlanks s :=
  List.dropWhile_idempotent isBlank s

section Digits

theorem isDigit_of_mem_toDigits {n : Nat} {c : Char} (h : c ∈ Nat.toDigits 10 n) :
    isDigit c = true := by
  have hc := Nat.isDigit_of_mem_toDigits (by decide) (by decide) h
  simpa only [isDigit, Char.isDigit, Char.le_def, UInt32.le_iff_toNat_le] using hc

theorem exists_digit_of_toDigits {n : Nat} {s r : List Char} (h : s = Nat.toDigits 10 n ++ r) :
    ∃ c t, s = c :: t ∧ isDigit c = true := by
  obtain ⟨c, ds, hds⟩ := List.exists_cons_of_ne_nil (@Nat.toDigits_ne_nil n 10)
  exact ⟨c, ds ++ r, by rw [h, hds]; rfl, isDigit_of_mem_toDigits (hds ▸ List.mem_cons_self)⟩

theorem cons_ne_toDigits {n : Nat} {c : Char} {s r : List Char} (hc : isDigit c = false) :
    c :: s ≠ Nat.toDigits 10 n ++ r := by
  intro h
  obtain ⟨d, t, hd, hdigit⟩ := exists_digit_of_toDigits h
  obtain ⟨rfl, -⟩ := List.cons.inj hd
  rw [hc] at hdigit
  cases hdigit

theorem isBlank_eq_false_of_isDigit {c : Char} (h : isDigit c = true) : isBlank c = false := by
  by_contra hb
  rw [Bool.not_eq_false, isBlank] at hb
  simp only [Bool.or_eq_true, beq_iff_eq] at hb
  rcases hb with ((rfl | rfl) | rfl) | rfl <;> exact absurd h (by decide)

end Digits

theorem Spells.skipBlanks_eq {v : Json} {s r : List Char} (h : Spells v s r) :
    skipBlanks s = s := by
  cases h with
  | number h =>
      obtain ⟨c, t, rfl, hc⟩ := exists_digit_of_toDigits h
      exact skipBlanks_of_not_blank (isBlank_eq_false_of_isDigit hc)
  | _ => exact skipBlanks_of_not_blank (by decide)

section Lengths

theorem SpellsChar.length_lt {c : Char} {s r : List Char} (h : SpellsChar c s r) :
    r.length < s.length := by
  cases h <;> simp only [List.length_cons] <;> omega

theorem SpellsChars.length_lt {cs s r : List Char} (h : SpellsChars cs s r) :
    r.length < s.length := by
  induction h with
  | nil => exact Nat.lt_succ_self _
  | cons hc _ ih => exact Nat.lt_trans ih hc.length_lt

theorem length_lt_of_skipBlanks {c : Char} {s r : List Char} (h : skipBlanks s = c :: r) :
    r.length < s.length := by
  have hs := length_skipBlanks_le s
  rwa [h, List.length_cons] at hs

theorem SpellsKey.length_lt {k : String} {s r : List Char} (h : SpellsKey k s r) :
    r.length < s.length := by
  obtain ⟨hopen, hk, hcolon⟩ := h
  have hs := length_lt_of_skipBlanks hopen
  have ht := hk.length_lt
  have hu := length_lt_of_skipBlanks hcolon
  omega

mutual

theorem Spells.length_le : ∀ {v : Json} {s r : List Char}, Spells v s r → r.length ≤ s.length
  | _, _, _, .null | _, _, _, .yes | _, _, _, .no => by simp only [List.length_cons]; omega
  | _, _, _, .number h => by rw [h, List.length_append]; omega
  | _, _, _, .string h => Nat.le_succ_of_le (Nat.le_of_lt h.length_lt)
  | _, _, _, .emptyArray h | _, _, _, .emptyObject h =>
    Nat.le_succ_of_le (Nat.le_of_lt (length_lt_of_skipBlanks h))
  | _, _, _, .array h => Nat.le_succ_of_le (Nat.le_of_add_left_le h.length_le)
  | _, _, _, .object h => Nat.le_succ_of_le (Nat.le_of_add_left_le h.length_le)

theorem SpellsItems.length_le : ∀ {vs : List Json} {s r : List Char}, SpellsItems vs s r →
    vs.length + r.length ≤ s.length
  | _, s, _, .last hv hclose => by
    have hs := length_skipBlanks_le s
    have hv := hv.length_le
    have ht := length_lt_of_skipBlanks hclose
    simp only [List.length_cons, List.length_nil]
    omega
  | _, s, _, .cons hv hcomma hvs => by
    have hs := length_skipBlanks_le s
    have hv := hv.length_le
    have ht := length_lt_of_skipBlanks hcomma
    have hvs := hvs.length_le
    simp only [List.length_cons]
    omega

theorem SpellsMembers.length_le : ∀ {ms : List (String × Json)} {s r : List Char},
    SpellsMembers ms s r → ms.length + r.length ≤ s.length
  | _, _, _, @SpellsMembers.last _ _ _ t _ _ hk hv hclose => by
    have ht := length_skipBlanks_le t
    have hk := hk.length_lt
    have hv := hv.length_le
    have hu := length_lt_of_skipBlanks hclose
    simp only [List.length_cons, List.length_nil]
    omega
  | _, _, _, @SpellsMembers.cons _ _ _ _ t _ _ _ hk hv hcomma hms => by
    have ht := length_skipBlanks_le t
    have hk := hk.length_lt
    have hv := hv.length_le
    have hu := length_lt_of_skipBlanks hcomma
    have hms := hms.length_le
    simp only [List.length_cons]
    omega

end

end Lengths

end Companion.Json
