import Companion.Json.Reader
import Companion.Proofs.Json.Grammar
import Mathlib.Tactic.IntervalCases

namespace Companion.Json

/-- What follows a value does not continue a number. -/
def ValueEnds (r : List Char) : Prop := ∀ c t, r = c :: t → isDigit c = false

theorem valueEnds_of_skipBlanks {s : List Char} (h : ValueEnds (skipBlanks s)) : ValueEnds s := by
  rintro c t rfl
  by_cases hb : isBlank c = true
  · by_contra hc
    rw [isBlank_eq_false_of_isDigit (Bool.not_eq_false _ ▸ hc)] at hb
    cases hb
  · exact h c t (skipBlanks_of_not_blank (Bool.not_eq_true _ ▸ hb))

theorem valueEnds_of_separator {c : Char} {s r : List Char} (h : skipBlanks s = c :: r)
    (hc : isDigit c = false) : ValueEnds s := by
  refine valueEnds_of_skipBlanks fun d t hd => ?_
  obtain ⟨rfl, -⟩ := List.cons.inj (h.symm.trans hd)
  exact hc

theorem valueEnds_of_end {s : List Char} (h : skipBlanks s = []) : ValueEnds s := by
  refine valueEnds_of_skipBlanks fun c t hc => ?_
  rw [h] at hc
  cases hc

/-- Whatever text spells the value, the reader makes the same of it. -/
def Reads {α : Type} (read : Reader α) (v : Json) (a : α) : Prop :=
  ∀ s u r, skipBlanks s = u → Spells v u r → ValueEnds r → read s = .ok (a, r)

section Heads

variable {v : Json} {u r : List Char}

theorem Spells.exists_head (h : Spells v u r) : ∃ c t, u = c :: t ∧ c ≠ ']' := by
  cases h with
  | number h =>
      obtain ⟨c, t, hu, hc⟩ := exists_digit_of_toDigits h
      refine ⟨c, t, hu, ?_⟩
      rintro rfl
      cases hc
  | _ => exact ⟨_, _, rfl, by decide⟩

theorem SpellsItems.exists_first {vs : List Json} {s r : List Char} (h : SpellsItems vs s r) :
    ∃ v t, Spells v (skipBlanks s) t := by
  cases h with
  | last hv | cons hv => exact ⟨_, _, hv⟩

theorem SpellsItems.ne_close {vs : List Json} {s r t : List Char} (h : SpellsItems vs s r) :
    skipBlanks s ≠ ']' :: t := by
  obtain ⟨v, u, hv⟩ := h.exists_first
  obtain ⟨c, w, hc, hclose⟩ := hv.exists_head
  rw [hc]
  exact fun heq => hclose (List.cons.inj heq).1

theorem SpellsMembers.ne_close {ms : List (String × Json)} {s r t : List Char}
    (h : SpellsMembers ms s r) : skipBlanks s ≠ '\x7d' :: t := by
  cases h with
  | last hk | cons hk =>
      obtain ⟨hopen, -, -⟩ := hk
      rw [hopen]
      exact fun heq => absurd (List.cons.inj heq).1 (by decide)

theorem Spells.eq_null (h : Spells v ('n' :: u) r) : v = .null := by
  cases h with
  | null => rfl
  | number h => exact absurd h (cons_ne_toDigits rfl)

end Heads

section Strings

theorem isLowSurrogate_of_isHighSurrogate {n : Nat} (h : isHighSurrogate n = true) :
    isLowSurrogate n = false := by
  simp only [isHighSurrogate, Bool.and_eq_true, decide_eq_true_eq] at h
  simp only [isLowSurrogate, Bool.and_eq_false_iff, decide_eq_false_iff_not]
  omega

theorem escape_of_spellsChar {c : Char} {s r : List Char} (h : SpellsChar c ('\\' :: s) r) :
    escape s = .ok (c, r) := by
  cases h with
  | plain _ hslash _ => exact absurd rfl hslash
  | @letter e _ _ h =>
      have hu : e ≠ 'u' := by
        rintro rfl
        cases h
      rw [escape, h]
      exact hu
  | code h hlow hhigh =>
      simp only [escape, unicodeEscape, hex4, h, hlow, hhigh, bind, Except.bind]
      rfl
  | pair hn hhigh hm hlow =>
      have hn' := isLowSurrogate_of_isHighSurrogate hhigh
      simp only [escape, unicodeEscape, pairEscape, hex4, hn, hn', hhigh, hm, hlow, bind,
        Except.bind]
      rfl

theorem stringBody_of_spellsChar {c : Char} {cs s t r : List Char} (hc : SpellsChar c s t)
    (h : stringBody t = .ok (cs, r)) : stringBody s = .ok (c :: cs, r) := by
  by_cases hs : ∃ s', s = '\\' :: s'
  · obtain ⟨s', rfl⟩ := hs
    have he := escape_of_spellsChar hc
    rw [stringBody]
    split
    · rename_i e he'
      rw [he] at he'
      cases he'
    · rename_i he'
      rw [he] at he'
      cases he'
      rw [h]
  · cases hc with
    | plain hquote hslash hcontrol =>
        rw [stringBody, if_neg (Nat.not_lt_of_le hcontrol), h]
        · exact hquote
        · exact hslash
    | _ => exact absurd ⟨_, rfl⟩ hs

theorem stringBody_of_spells {cs s r : List Char} (h : SpellsChars cs s r) :
    stringBody s = .ok (cs, r) := by
  induction h with
  | nil => rw [stringBody]
  | cons hc _ ih => exact stringBody_of_spellsChar hc ih

theorem stringRest_of_spells {t : String} {s r : List Char} (h : SpellsChars t.toList s r) :
    stringRest s = .ok (t, r) := by
  rw [stringRest, stringBody_of_spells h]
  simp only [String.ofList_toList]

end Strings

section Values

variable {α β : Type} {read : Reader α} {v : Json} {a : α}

theorem reads_text (t : String) : Reads readText (.string t) t := by
  intro s u r hs h _
  cases h with
  | string h =>
      unfold readText
      rw [hs]
      exact stringRest_of_spells h

theorem reads_bool (b : Bool) : Reads readBool (.bool b) b := by
  intro s u r hs h _
  unfold readBool
  rw [hs]
  cases h <;> rfl

theorem reads_parsed {parse : String → Except String α} {t : String} (h : parse t = .ok a) :
    Reads (readParsed parse) (.string t) a := by
  intro s u r hs ht hr
  unfold readParsed
  rw [reads_text t s u r hs ht hr]
  simp only [bind, Except.bind]
  rw [h]
  rfl

def readVia (read : Reader α) (f : α → Option β) : Reader β := fun s => do
  let (a, r) ← read s
  match f a with
  | some b => return (b, r)
  | none => .error .malformed

theorem reads_via {f : α → Option β} {b : β} (h : Reads read v a) (hf : f a = some b) :
    Reads (readVia read f) v b := by
  intro s u r hs hv hr
  unfold readVia
  rw [h s u r hs hv hr]
  simp only [bind, Except.bind]
  rw [hf]
  rfl

theorem reads_choice {choices : List (String × α)} {name : String}
    (h : choices.lookup name = some a) : Reads (readChoice choices) (.string name) a := by
  intro s u r hs ht _
  cases ht with
  | string ht =>
      unfold readChoice
      rw [hs]
      simp only [stringRest_of_spells ht, h, bind, Except.bind]
      rfl

theorem reads_none : Reads (readOptional read) .null none := by
  intro s u r hs h _
  cases h
  unfold readOptional
  rw [hs]
  rfl

theorem reads_some (h : Reads read v a) (hv : v ≠ .null) :
    Reads (readOptional read) v (some a) := by
  intro s u r hs hspells hr
  unfold readOptional
  rw [hs]
  split
  · exact absurd hspells.eq_null hv
  · rw [h u u r (hs ▸ skipBlanks_skipBlanks s) hspells hr]
    rfl

theorem readDocument_of_reads (h : Reads read v a) {source : String} (hd : Document v source) :
    readDocument read source = .ok a := by
  obtain ⟨r, hspells, hr⟩ := hd
  unfold readDocument
  rw [h _ _ r rfl hspells (valueEnds_of_end hr)]
  change (if (skipBlanks r).isEmpty then _ else _) = _
  rw [hr]
  rfl

end Values

section Numbers

theorem takeWhile_toDigits {n : Nat} {r : List Char} (hr : ValueEnds r) :
    (Nat.toDigits 10 n ++ r).takeWhile isDigit = Nat.toDigits 10 n := by
  rw [List.takeWhile_append_of_pos fun c hc => isDigit_of_mem_toDigits hc]
  cases r with
  | nil => rw [List.takeWhile_nil, List.append_nil]
  | cons c t =>
      rw [List.takeWhile_cons_of_neg (by rw [hr c t rfl]; exact Bool.false_ne_true),
        List.append_nil]

theorem dropWhile_toDigits {n : Nat} {r : List Char} (hr : ValueEnds r) :
    (Nat.toDigits 10 n ++ r).dropWhile isDigit = r := by
  have h := @List.takeWhile_append_dropWhile _ isDigit (Nat.toDigits 10 n ++ r)
  rw [takeWhile_toDigits hr] at h
  exact List.append_cancel_left h

theorem toDigits_ne_zero_cons {n : Nat} (hn : 0 < n) (t : List Char) :
    Nat.toDigits 10 n ≠ '0' :: t := by
  induction n using Nat.strong_induction_on generalizing t with
  | _ n ih =>
      by_cases hlt : n < 10
      · rw [Nat.toDigits_of_lt_base hlt]
        intro h
        have hdigit := (List.cons.inj h).1
        interval_cases n <;> cases hdigit
      · rw [Nat.toDigits_of_base_le (by decide) (Nat.le_of_not_lt hlt)]
        obtain ⟨c, ds, hds⟩ := List.exists_cons_of_ne_nil (@Nat.toDigits_ne_nil (n / 10) 10)
        intro h
        rw [hds, List.cons_append] at h
        obtain ⟨rfl, -⟩ := List.cons.inj h
        exact ih (n / 10) (by omega) (by omega) ds hds

def readNat : Reader Nat := fun s =>
  (wholeDigits .truncated (skipBlanks s)).map fun p => (natOfDigits 0 p.1, p.2)

theorem wholeDigits_toDigits (p : Problem) {n : Nat} {r : List Char} (hr : ValueEnds r) :
    wholeDigits p (Nat.toDigits 10 n ++ r) = .ok (Nat.toDigits 10 n, r) := by
  by_cases hn : n = 0
  · subst hn
    cases r with
    | nil => rfl
    | cons c t =>
        change (if isDigit c = true then _ else _) = _
        rw [hr c t rfl]
        rfl
  · obtain ⟨c, ds, hds⟩ := List.exists_cons_of_ne_nil (@Nat.toDigits_ne_nil n 10)
    have hc : isDigit c = true := isDigit_of_mem_toDigits (hds ▸ List.mem_cons_self)
    have hzero : c ≠ '0' := by
      rintro rfl
      exact toDigits_ne_zero_cons (Nat.pos_of_ne_zero hn) ds hds
    have hwhole : wholeDigits p (c :: (ds ++ r)) = digits p (c :: (ds ++ r)) := by
      rw [wholeDigits]
      exact fun _ heq => hzero (List.cons.inj heq).1
    have htake := @takeWhile_toDigits n r hr
    have hdrop := @dropWhile_toDigits n r hr
    rw [hds, List.cons_append] at htake hdrop
    rw [hds, List.cons_append, hwhole, digits, if_pos hc, htake, hdrop]

theorem natOfDigits_toDigits (n : Nat) : natOfDigits 0 (Nat.toDigits 10 n) = n := by
  have h := @Nat.ofDigitChars_ten_toDigits n
  rw [Nat.ofDigitChars_eq_foldl] at h
  simpa only [natOfDigits, Nat.mul_comm] using h

theorem reads_nat (n : Nat) : Reads readNat (.number n) n := by
  intro s u r hs h hr
  cases h with
  | number h =>
      unfold readNat
      rw [hs, h, wholeDigits_toDigits .truncated hr]
      change Except.ok (natOfDigits 0 (Nat.toDigits 10 n), r) = _
      rw [natOfDigits_toDigits]

end Numbers

section Lists

variable {α : Type} {read : Reader α} {toJson : α → Json}

theorem nextElement_true {v : Json} {s t : List Char} (h : Spells v (skipBlanks s) t) :
    nextElement true s = .ok (some (skipBlanks s)) := by
  obtain ⟨c, u, hc, hclose⟩ := h.exists_head
  simp [nextElement, hc]

theorem nextElement_false {v : Json} {s u t : List Char} (hs : skipBlanks s = ',' :: u)
    (h : Spells v (skipBlanks u) t) : nextElement false s = .ok (some (skipBlanks u)) := by
  obtain ⟨c, w, hc, hclose⟩ := h.exists_head
  simp [nextElement, hs, hc, hclose]

theorem nextElement_close {first : Bool} {s r : List Char} (hs : skipBlanks s = ']' :: r) :
    nextElement first s = .ok none := by
  unfold nextElement
  rw [hs]
  rfl

theorem readElements_succ {n : Nat} {first : Bool} {a : α} {as : List α} {w s r t : List Char}
    (hw : nextElement first w = .ok (some s)) (ha : read s = .ok (a, r))
    (has : readElements read n false r = .ok (as, t)) :
    readElements read (n + 1) first w = .ok (a :: as, t) := by
  rw [readElements]
  simp only [hw, ha, has, bind, Except.bind]
  rfl

theorem readElements_close {n : Nat} {first : Bool} {s r : List Char}
    (hs : skipBlanks s = ']' :: r) : readElements read (n + 1) first s = .ok ([], s) := by
  rw [readElements, nextElement_close hs]
  rfl

theorem readElements_of_spells {a : α} {as : List α}
    (hread : ∀ b ∈ a :: as, Reads read (toJson b) b) {n : Nat} {first : Bool}
    {w s r : List Char} (hw : nextElement first w = .ok (some (skipBlanks s)))
    (h : SpellsItems ((a :: as).map toJson) s r) :
    ∃ t, readElements read (n + as.length + 2) first w = .ok (a :: as, t) ∧
      skipBlanks t = ']' :: r := by
  have ha := fun t => hread a List.mem_cons_self (skipBlanks s) (skipBlanks s) t
    (skipBlanks_skipBlanks s)
  induction as generalizing a first w s with
  | nil =>
      cases h with
      | @last _ _ t _ hv hclose =>
          exact ⟨t, readElements_succ hw (ha t hv (valueEnds_of_separator hclose rfl))
            (readElements_close hclose), hclose⟩
      | cons _ _ hvs => cases hvs
  | cons b bs ih =>
      cases h with
      | @cons _ _ _ t u _ hv hcomma hvs =>
          obtain ⟨_, _, hfirst⟩ := hvs.exists_first
          have hb := nextElement_false hcomma hfirst
          obtain ⟨t', ht', hclose⟩ := ih (fun c hc => hread c (List.mem_cons_of_mem a hc)) hb hvs
            fun t => hread b (by simp) (skipBlanks u) (skipBlanks u) t (skipBlanks_skipBlanks u)
          exact ⟨t', readElements_succ hw (ha t hv (valueEnds_of_separator hcomma rfl)) ht', hclose⟩

theorem closing_of_skipBlanks {c : Char} {s r : List Char} (h : skipBlanks s = c :: r) :
    closing c s = .ok r := by
  rw [closing, h]
  exact if_pos rfl

theorem reads_list {as : List α} (hread : ∀ a ∈ as, Reads read (toJson a) a) :
    Reads (readList read) (.array (as.map toJson)) as := by
  intro s u r hs h _
  have hloop : ∀ w t, u = '[' :: w → readElements read (w.length + 1) true w = .ok (as, t) →
      skipBlanks t = ']' :: r → readList read s = .ok (as, r) := by
    intro w t hw ht hclose
    unfold readList
    rw [hs, hw]
    simp only [ht, closing_of_skipBlanks hclose, bind, Except.bind]
    rfl
  cases as with
  | nil =>
      cases h with
      | @emptyArray w _ hclose => exact hloop w w rfl (readElements_close hclose) hclose
      | array h => cases h
  | cons a as =>
      cases h with
      | @array _ w _ h =>
          have hlength := h.length_le
          rw [List.length_map, List.length_cons] at hlength
          obtain ⟨_, _, hfirst⟩ := h.exists_first
          -- each item takes a character, so the length of the text is fuel enough
          obtain ⟨t, ht, hclose⟩ := @readElements_of_spells _ _ _ a as hread
            (w.length - as.length - 1) true w w r (nextElement_true hfirst) h
          refine hloop w t rfl ?_ hclose
          rwa [show w.length + 1 = w.length - as.length - 1 + as.length + 2 by omega]

end Lists

end Companion.Json
