import Companion.Proofs.Json.Reading

namespace Companion.Json

section Tokens

variable {s : List Char}

theorem SpellsChars.unique {cs ds r q : List Char} (h : SpellsChars cs s r)
    (h' : SpellsChars ds s q) : cs = ds ∧ r = q :=
  Prod.mk.inj (Except.ok.inj ((stringBody_of_spells h).symm.trans (stringBody_of_spells h')))

theorem SpellsKey.unique {k l : String} {r q : List Char} (h : SpellsKey k s r)
    (h' : SpellsKey l s q) : k = l ∧ r = q := by
  obtain ⟨hopen, hk, hcolon⟩ := h
  obtain ⟨hopen', hl, hcolon'⟩ := h'
  obtain ⟨-, rfl⟩ := List.cons.inj (hopen.symm.trans hopen')
  obtain ⟨hkl, rfl⟩ := hk.unique hl
  exact ⟨String.toList_inj.mp hkl, (List.cons.inj (hcolon.symm.trans hcolon')).2⟩

theorem toDigits_append_inj {n m : Nat} {r q : List Char} (hr : ValueEnds r) (hq : ValueEnds q)
    (h : Nat.toDigits 10 n ++ r = Nat.toDigits 10 m ++ q) : n = m ∧ r = q := by
  have hdigits : Nat.toDigits 10 n = Nat.toDigits 10 m := by
    rw [← takeWhile_toDigits hr, h, takeWhile_toDigits hq]
  constructor
  · rw [← Nat.ofDigitChars_ten_toDigits (n := n), hdigits, Nat.ofDigitChars_ten_toDigits]
  · rw [hdigits] at h
    exact List.append_cancel_left h

end Tokens

mutual

theorem Spells.unique : ∀ {v : Json} {s r : List Char}, Spells v s r → ∀ {w : Json} {q : List Char},
    Spells w s q → ValueEnds r → ValueEnds q → v = w ∧ r = q
  | _, _, _, .null, _, _, h', _, _ => by
    -- the first character excludes all but numbers, whose text is given by an equation
    cases h' with
    | null => exact ⟨rfl, rfl⟩
    | number h' => exact absurd h' (cons_ne_toDigits rfl)
  | _, _, _, .yes, _, _, h', _, _ => by
    cases h' with
    | yes => exact ⟨rfl, rfl⟩
    | number h' => exact absurd h' (cons_ne_toDigits rfl)
  | _, _, _, .no, _, _, h', _, _ => by
    cases h' with
    | no => exact ⟨rfl, rfl⟩
    | number h' => exact absurd h' (cons_ne_toDigits rfl)
  | _, _, _, .number h, _, _, h', hr, hq => by
    cases h' with
    | number h' =>
        obtain ⟨rfl, rfl⟩ := toDigits_append_inj hr hq (h.symm.trans h')
        exact ⟨rfl, rfl⟩
    | _ => exact absurd h (cons_ne_toDigits rfl)
  | _, _, _, .string h, _, _, h', _, _ => by
    cases h' with
    | string h' =>
        obtain ⟨ht, rfl⟩ := h.unique h'
        exact ⟨congrArg Json.string (String.toList_inj.mp ht), rfl⟩
    | number h' => exact absurd h' (cons_ne_toDigits rfl)
  | _, _, _, .emptyArray h, _, _, h', _, _ => by
    cases h' with
    | emptyArray h' => exact ⟨rfl, (List.cons.inj (h.symm.trans h')).2⟩
    | array h' => exact absurd h h'.ne_close
    | number h' => exact absurd h' (cons_ne_toDigits rfl)
  | _, _, _, .array h, _, _, h', _, _ => by
    cases h' with
    | emptyArray h' => exact absurd h' h.ne_close
    | array h' =>
        obtain ⟨rfl, rfl⟩ := h.unique h'
        exact ⟨rfl, rfl⟩
    | number h' => exact absurd h' (cons_ne_toDigits rfl)
  | _, _, _, .emptyObject h, _, _, h', _, _ => by
    cases h' with
    | emptyObject h' => exact ⟨rfl, (List.cons.inj (h.symm.trans h')).2⟩
    | object h' => exact absurd h h'.ne_close
    | number h' => exact absurd h' (cons_ne_toDigits rfl)
  | _, _, _, .object h, _, _, h', _, _ => by
    cases h' with
    | emptyObject h' => exact absurd h' h.ne_close
    | object h' =>
        obtain ⟨rfl, rfl⟩ := h.unique h'
        exact ⟨rfl, rfl⟩
    | number h' => exact absurd h' (cons_ne_toDigits rfl)

theorem SpellsItems.unique : ∀ {vs : List Json} {s r : List Char}, SpellsItems vs s r →
    ∀ {ws : List Json} {q : List Char}, SpellsItems ws s q → vs = ws ∧ r = q
  | _, _, _, .last hv hclose, _, _, h' => by
    have hends := valueEnds_of_separator hclose rfl
    cases h' with
    | last hw hclose' =>
        obtain ⟨rfl, rfl⟩ := hv.unique hw hends (valueEnds_of_separator hclose' rfl)
        exact ⟨rfl, (List.cons.inj (hclose.symm.trans hclose')).2⟩
    | cons hw hcomma' _ =>
        obtain ⟨-, rfl⟩ := hv.unique hw hends (valueEnds_of_separator hcomma' rfl)
        cases hclose.symm.trans hcomma'
  | _, _, _, .cons hv hcomma hvs, _, _, h' => by
    have hends := valueEnds_of_separator hcomma rfl
    cases h' with
    | last hw hclose' =>
        obtain ⟨-, rfl⟩ := hv.unique hw hends (valueEnds_of_separator hclose' rfl)
        cases hcomma.symm.trans hclose'
    | cons hw hcomma' hws =>
        obtain ⟨rfl, rfl⟩ := hv.unique hw hends (valueEnds_of_separator hcomma' rfl)
        obtain ⟨-, rfl⟩ := List.cons.inj (hcomma.symm.trans hcomma')
        obtain ⟨rfl, rfl⟩ := hvs.unique hws
        exact ⟨rfl, rfl⟩

theorem SpellsMembers.unique : ∀ {ms : List (String × Json)} {s r : List Char},
    SpellsMembers ms s r → ∀ {ns : List (String × Json)} {q : List Char}, SpellsMembers ns s q →
    ms = ns ∧ r = q
  | _, _, _, .last hk hv hclose, _, _, h' => by
    have hends := valueEnds_of_separator hclose rfl
    cases h' with
    | last hl hw hclose' =>
        obtain ⟨rfl, rfl⟩ := hk.unique hl
        obtain ⟨rfl, rfl⟩ := hv.unique hw hends (valueEnds_of_separator hclose' rfl)
        exact ⟨rfl, (List.cons.inj (hclose.symm.trans hclose')).2⟩
    | cons hl hw hcomma' _ =>
        obtain ⟨-, rfl⟩ := hk.unique hl
        obtain ⟨-, rfl⟩ := hv.unique hw hends (valueEnds_of_separator hcomma' rfl)
        cases hclose.symm.trans hcomma'
  | _, _, _, .cons hk hv hcomma hms, _, _, h' => by
    have hends := valueEnds_of_separator hcomma rfl
    cases h' with
    | last hl hw hclose' =>
        obtain ⟨-, rfl⟩ := hk.unique hl
        obtain ⟨-, rfl⟩ := hv.unique hw hends (valueEnds_of_separator hclose' rfl)
        cases hcomma.symm.trans hclose'
    | cons hl hw hcomma' hns =>
        obtain ⟨rfl, rfl⟩ := hk.unique hl
        obtain ⟨rfl, rfl⟩ := hv.unique hw hends (valueEnds_of_separator hcomma' rfl)
        obtain ⟨-, rfl⟩ := List.cons.inj (hcomma.symm.trans hcomma')
        obtain ⟨rfl, rfl⟩ := hms.unique hns
        exact ⟨rfl, rfl⟩

end

theorem Document.unique {v w : Json} {source : String} (h : Document v source)
    (h' : Document w source) : v = w := by
  obtain ⟨r, hv, hr⟩ := h
  obtain ⟨q, hw, hq⟩ := h'
  exact (hv.unique hw (valueEnds_of_end hr) (valueEnds_of_end hq)).1

end Companion.Json
