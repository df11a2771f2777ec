import Companion.Proofs.HostType.Grammar
import Mathlib.Tactic.Common

namespace Companion.HostType

open Text

variable {c : Char} {k : Token} {ks ls : List Token} {m r s w : List Char} {t : HostType}

theorem Token.exists_chars (k : Token) : ∃ c cs, k.chars = c :: cs ∧ isBlank c = false := by
  cases k with
  | ident i =>
      exact ⟨i.first, i.others, rfl,
        isBlank_eq_false_of_isIdentPart (isIdentPart_of_isIdentStart i.isStart)⟩
  | extendsWord => exact ⟨'e', _, rfl, by decide⟩
  | dot | comma | openAngle | closeAngle | openBracket | closeBracket | question =>
      exact ⟨_, _, rfl, by decide⟩

theorem skipBlanks_chars_append (k : Token) (s : List Char) :
    skipBlanks (k.chars ++ s) = k.chars ++ s := by
  obtain ⟨c, cs, hk, hc⟩ := k.exists_chars
  rw [hk]
  exact skipBlanks_cons hc

theorem begins_nil_iff : Begins [] s r ↔ s = r := by
  constructor
  · intro h
    cases h
    rfl
  · rintro rfl
    exact .nil

theorem begins_cons_iff :
    Begins (k :: ks) s r ↔ ∃ m, skipBlanks s = k.chars ++ m ∧ Begins ks m r := by
  constructor
  · intro h
    cases h with
    | @cons _ _ b m _ hb h =>
        refine ⟨m, ?_, h⟩
        rw [List.append_assoc, skipBlanks_append hb, skipBlanks_chars_append]
  · rintro ⟨m, hs, h⟩
    obtain ⟨b, hb, heq⟩ := exists_blanks s
    rw [heq, hs, ← List.append_assoc]
    exact .cons hb h

theorem begins_singleton_iff : Begins [k] s r ↔ skipBlanks s = k.chars ++ r := by
  simp only [begins_cons_iff, begins_nil_iff, exists_eq_right]

theorem begins_append_iff :
    Begins (ks ++ ls) s r ↔ ∃ m, Begins ks s m ∧ Begins ls m r := by
  induction ks generalizing s with
  | nil => simp [begins_nil_iff]
  | cons k ks ih =>
      simp only [List.cons_append, begins_cons_iff, ih]
      constructor
      · rintro ⟨l, hl, m, hks, hls⟩
        exact ⟨m, ⟨l, hl, hks⟩, hls⟩
      · rintro ⟨m, ⟨l, hl, hks⟩, hls⟩
        exact ⟨l, hl, m, hks, hls⟩

theorem length_of_begins (h : Begins ks s r) : r.length + ks.length ≤ s.length := by
  induction h with
  | nil => simp
  | @cons k ks b s r hb h ih =>
      obtain ⟨c, cs, hk, -⟩ := k.exists_chars
      simp only [hk, List.length_append, List.length_cons]
      omega

theorem eat?_eq_some_iff : eat? c s = some r ↔ skipBlanks s = c :: r := by
  rw [eat?]
  cases hs : skipBlanks s with
  | nil => simp
  | cons d m => by_cases hd : d = c <;> simp [hd]

theorem begins_cons_iff_eat? (hk : k.chars = [c]) :
    Begins (k :: ks) s r ↔ ∃ m, eat? c s = some m ∧ Begins ks m r := by
  simp only [begins_cons_iff, hk, List.singleton_append, eat?_eq_some_iff]

def next? (s : List Char) : Option Char := (skipBlanks s).head?

theorem eat?_eq_none_iff : eat? c s = none ↔ next? s ≠ some c := by
  rw [eat?, next?]
  cases hs : skipBlanks s with
  | nil => simp
  | cons d m => by_cases hd : d = c <;> simp [hd]

theorem next?_of_eat? (h : eat? c s = some r) : next? s = some c := by
  rw [next?, eat?_eq_some_iff.mp h]
  rfl

theorem eat?_eq_none_of_some {d : Char} (h : eat? c s = some r) (hd : c ≠ d) : eat? d s = none := by
  rw [eat?_eq_none_iff, next?_of_eat? h]
  exact fun hcd => hd (Option.some.inj hcd)

theorem next?_of_begins_cons (h : Begins (k :: ks) s r) : next? s = k.chars.head? := by
  obtain ⟨m, hs, -⟩ := begins_cons_iff.mp h
  obtain ⟨c, cs, hk, -⟩ := k.exists_chars
  rw [next?, hs, hk]
  rfl

theorem eatWord?_eq_some_iff : eatWord? w s = some r ↔ skipBlanks s = w ++ r := by
  rw [eatWord?]
  constructor
  · intro h
    split at h
    · next hw =>
      obtain ⟨m, hm⟩ := List.isPrefixOf_iff_prefix.mp hw
      cases h
      rw [← hm, List.drop_left]
    · cases h
  · intro h
    rw [h, if_pos (List.isPrefixOf_iff_prefix.mpr (List.prefix_append w r)), List.drop_left]

def NameEnds (s : List Char) : Prop := ∀ c ∈ next? s, isIdentPart c = false ∧ c ≠ '.'

theorem NameEnds.eat?_dot (h : NameEnds s) : eat? '.' s = none :=
  eat?_eq_none_iff.mpr fun hdot => (h '.' hdot).2 rfl

theorem isIdentPart_head_of_next? (h : ∀ c ∈ next? s, isIdentPart c = false) :
    ∀ c ∈ s.head?, isIdentPart c = false := by
  cases s with
  | nil => nofun
  | cons d m =>
      intro c hc
      cases hc
      cases hd : isBlank d with
      | true => exact isIdentPart_eq_false_of_isBlank hd
      | false => exact h d (by rw [next?, skipBlanks_cons hd]; rfl)

theorem Identifier.takeWhile_append (i : Identifier) (hr : ∀ c ∈ r.head?, isIdentPart c = false) :
    (i.others ++ r).takeWhile isIdentPart = i.others := by
  rw [List.takeWhile_append_of_pos i.isPart]
  cases r with
  | nil => simp
  | cons c r => simp [hr c rfl]

theorem Identifier.dropWhile_append (i : Identifier) (hr : ∀ c ∈ r.head?, isIdentPart c = false) :
    (i.others ++ r).dropWhile isIdentPart = r := by
  rw [List.dropWhile_append_of_pos i.isPart]
  cases r with
  | nil => rfl
  | cons c r => simp [hr c rfl]

theorem scanIdent_of_begins {i : Identifier} (h : Begins [.ident i] s r)
    (hr : ∀ c ∈ r.head?, isIdentPart c = false) : scanIdent s = .ok (i.chars, r) := by
  have hs : skipBlanks s = i.first :: (i.others ++ r) := begins_singleton_iff.mp h
  rw [scanIdent, hs]
  simp only [i.isStart, if_true, i.takeWhile_append hr, i.dropWhile_append hr, Identifier.chars]

theorem begins_of_scanIdent (h : scanIdent s = .ok (w, r)) :
    ∃ i : Identifier, w = i.chars ∧ Begins [.ident i] s r := by
  rw [scanIdent] at h
  cases hs : skipBlanks s with
  | nil => rw [hs] at h; cases h
  | cons c m =>
      cases hc : isIdentStart c with
      | false => simp [hs, hc] at h
      | true =>
          simp only [hs, hc, if_true, Except.ok.injEq, Prod.mk.injEq] at h
          obtain ⟨rfl, rfl⟩ := h
          refine ⟨⟨c, m.takeWhile isIdentPart, hc, fun _ hd => List.mem_takeWhile_imp hd⟩, rfl, ?_⟩
          rw [begins_singleton_iff, hs]
          exact congrArg (c :: ·) (List.takeWhile_append_dropWhile ..).symm

theorem scanName_of_ident (hi : scanIdent s = .ok (w, r)) :
    scanName s =
      match eat? '.' r with
      | none => .ok (w, r)
      | some m =>
        match scanName m with
        | .error e => .error e
        | .ok (w', r') => .ok (w ++ '.' :: w', r') := by
  rw [scanName]
  split
  · next e he =>
    rw [hi] at he
    cases he
  · next w' r' he =>
    rw [hi] at he
    cases he
    cases eat? '.' r <;> rfl

theorem scanName_of_begins {n : DottedName} (h : Begins n.tokens s r) (hr : NameEnds r) :
    scanName s = .ok (n.chars, r) := by
  obtain ⟨i, is⟩ := n
  induction is generalizing i s with
  | nil =>
      have hi := scanIdent_of_begins h (isIdentPart_head_of_next? fun c hc => (hr c hc).1)
      rw [scanName_of_ident hi, hr.eat?_dot]
      simp [DottedName.chars]
  | cons j js ih =>
      rw [DottedName.tokens_cons] at h
      obtain ⟨m, hfirst, hothers⟩ := begins_append_iff.mp h
      have hnext : next? m = some '.' := next?_of_begins_cons hothers
      have hi := scanIdent_of_begins hfirst (isIdentPart_head_of_next? fun c hc => by
        rw [hnext] at hc
        cases hc
        exact isIdentPart_eq_false_of_mem_marks (by decide))
      obtain ⟨l, hdot, hlater⟩ := (begins_cons_iff_eat? rfl).mp hothers
      rw [scanName_of_ident hi, hdot]
      simp only [ih j hlater, DottedName.chars_cons]

theorem begins_of_scanName (h : scanName s = .ok (w, r)) :
    ∃ n : DottedName, w = n.chars ∧ Begins n.tokens s r := by
  fun_induction scanName s generalizing w with
  | case1 s e hi => cases h
  | case2 s w' m hi hd =>
      cases h
      obtain ⟨i, rfl, hfirst⟩ := begins_of_scanIdent hi
      exact ⟨⟨i, []⟩, by simp [DottedName.chars], hfirst⟩
  | case3 s w' m hi m' hd e he ih => cases h
  | case4 s w' m hi m' hd w'' r' hr ih =>
      cases h
      obtain ⟨i, rfl, hfirst⟩ := begins_of_scanIdent hi
      obtain ⟨⟨j, js⟩, rfl, hothers⟩ := ih hr
      refine ⟨⟨i, j :: js⟩, rfl, ?_⟩
      rw [DottedName.tokens_cons]
      exact begins_append_iff.mpr ⟨m, hfirst, (begins_cons_iff_eat? rfl).mpr ⟨m', hd, hothers⟩⟩

/-- What can follow a type inside a longer text: an argument, the end of the arguments, brackets. -/
def TypeEnds (s : List Char) : Prop := ∀ c ∈ next? s, c = ',' ∨ c = '>' ∨ c = '['

theorem TypeEnds.nameEnds (h : TypeEnds s) : NameEnds s := by
  intro c hc
  rcases h c hc with rfl | rfl | rfl <;>
    exact ⟨isIdentPart_eq_false_of_mem_marks (by decide), by decide⟩

theorem nameEnds_of_openAngle (h : next? s = some '<') : NameEnds s := by
  intro c hc
  rw [h] at hc
  cases hc
  exact ⟨isIdentPart_eq_false_of_mem_marks (by decide), by decide⟩

theorem TypeEnds.eat?_openAngle (h : TypeEnds s) : eat? '<' s = none :=
  eat?_eq_none_iff.mpr fun hs => absurd (h '<' hs) (by decide)

theorem TypeEnds.eatWord?_extends (h : TypeEnds s) : eatWord? "extends".toList s = none := by
  cases hs : eatWord? "extends".toList s with
  | none => rfl
  | some m =>
      have hnext : next? s = some 'e' := by
        rw [next?, eatWord?_eq_some_iff.mp hs]
        rfl
      exact absurd (h 'e' hnext) (by decide)

theorem scanBrackets_of_none (h : eat? '[' s = none) : scanBrackets t s = .ok (t, s) := by
  rw [scanBrackets]
  split
  · rfl
  · next m hm =>
    rw [h] at hm
    cases hm

theorem scanBrackets_of_some (h : eat? '[' s = some m) (h' : eat? ']' m = some r) :
    scanBrackets t s = scanBrackets (.array t) r := by
  rw [scanBrackets]
  split
  · next hm =>
    rw [h] at hm
    cases hm
  · next l hl =>
    rw [h] at hl
    cases hl
    split
    · next hr =>
      rw [h'] at hr
      cases hr
    · next l hl =>
      rw [h'] at hl
      cases hl
      rfl

end Companion.HostType
