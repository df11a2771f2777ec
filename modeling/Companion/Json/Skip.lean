import Companion.Json.Token

namespace Companion.Json

theorem length_of_digits {p : Problem} {s d r : List Char} (h : digits p s = .ok (d, r)) :
    r.length < s.length := by
  unfold digits at h
  split at h
  · cases h
  · next c t =>
    split at h
    · next hc =>
      cases h
      have := (List.dropWhile_sublist isDigit (l := t)).length_le
      simp [hc]
      omega
    · cases h

theorem length_of_wholeDigits {p : Problem} {s d r : List Char}
    (h : wholeDigits p s = .ok (d, r)) : r.length < s.length := by
  unfold wholeDigits at h
  split at h
  · split at h
    · split at h
      · cases h
      · cases h; simp
    · cases h; simp
  · exact length_of_digits h

theorem length_of_fractionPart {p : Problem} {s r : List Char} {f : Option (List Char)}
    (h : fractionPart p s = .ok (f, r)) : r.length ≤ s.length := by
  unfold fractionPart at h
  split at h
  · next t =>
    cases ht : digits p t with
    | error e => simp [ht, Except.map] at h
    | ok q =>
      have := length_of_digits (d := q.1) (r := q.2) ht
      simp only [ht, Except.map, Except.ok.injEq, Prod.mk.injEq] at h
      rw [← h.2, List.length_cons]
      omega
  · cases h; exact Nat.le_refl _

theorem length_exponentSign_le (s : List Char) : (exponentSign s).2.length ≤ s.length := by
  unfold exponentSign
  split <;> simp

theorem length_of_exponentPart {p : Problem} {s r : List Char} {e : Option (Bool × List Char)}
    (h : exponentPart p s = .ok (e, r)) : r.length ≤ s.length := by
  unfold exponentPart at h
  split at h
  · next c t =>
    split at h
    · have hs := length_exponentSign_le t
      cases ht : digits p (exponentSign t).2 with
      | error e => simp [ht, Except.map] at h
      | ok q =>
        have := length_of_digits (d := q.1) (r := q.2) ht
        simp only [ht, Except.map, Except.ok.injEq, Prod.mk.injEq] at h
        rw [← h.2, List.length_cons]
        omega
    · cases h; exact Nat.le_refl _
  · cases h; exact Nat.le_refl _

theorem length_of_numeral {p : Problem} {s r : List Char} {n : Numeral}
    (h : numeral p s = .ok (n, r)) : r.length < s.length := by
  unfold numeral at h
  cases h₁ : wholeDigits p s with
  | error e => simp [h₁, bind, Except.bind] at h
  | ok q₁ =>
    simp only [h₁, bind, Except.bind] at h
    cases h₂ : fractionPart p q₁.2 with
    | error e => simp [h₂] at h
    | ok q₂ =>
      simp only [h₂] at h
      cases h₃ : exponentPart p q₂.2 with
      | error e => simp [h₃] at h
      | ok q₃ =>
        simp only [h₃, pure, Except.pure, Except.ok.injEq, Prod.mk.injEq] at h
        have l₁ := length_of_wholeDigits (d := q₁.1) (r := q₁.2) h₁
        have l₂ := length_of_fractionPart (f := q₂.1) (r := q₂.2) h₂
        have l₃ := length_of_exponentPart (e := q₃.1) (r := q₃.2) h₃
        rw [← h.2]
        omega

def skipScalar (s : List Char) : Except Problem (List Char) :=
  match s with
  | 'n' :: r => word "ull".toList r
  | 't' :: r => word "rue".toList r
  | 'f' :: r => word "alse".toList r
  | '\"' :: r => skipString r
  | '-' :: r => (numeral .malformed r).map (·.2)
  | c :: r => if isDigit c then (numeral .malformed (c :: r)).map (·.2) else .error .malformed
  | [] => .error .truncated

theorem length_of_skipString {s r : List Char} (h : skipString s = .ok r) :
    r.length < s.length := by
  fun_induction skipString s with
  | case1 => cases h
  | case2 r => cases h; exact Nat.lt_succ_self _
  | case3 => cases h
  | case4 t t' ht ih => exact Nat.lt_succ_of_lt (Nat.lt_trans (ih h) (length_of_skipEscape ht))
  | case5 => cases h
  | case6 c t _ _ _ ih => exact Nat.lt_succ_of_lt (ih h)

theorem length_of_map_numeral {s r : List Char} {p : Problem}
    (h : (numeral p s).map (·.2) = .ok r) : r.length < s.length := by
  cases hs : numeral p s with
  | error e => simp [hs, Except.map] at h
  | ok q =>
    have := length_of_numeral (n := q.1) (r := q.2) hs
    simp only [hs, Except.map, Except.ok.injEq] at h
    rw [← h]
    exact this

theorem length_of_skipScalar {s r : List Char} (h : skipScalar s = .ok r) :
    r.length < s.length := by
  unfold skipScalar at h
  split at h
  · exact Nat.lt_succ_of_le (length_of_word h)
  · exact Nat.lt_succ_of_le (length_of_word h)
  · exact Nat.lt_succ_of_le (length_of_word h)
  · exact Nat.lt_succ_of_lt (length_of_skipString h)
  · exact Nat.lt_succ_of_lt (length_of_map_numeral h)
  · split at h
    · exact length_of_map_numeral h
    · cases h
  · cases h

inductive Frame where
  | array | object
  deriving DecidableEq, Repr

def Frame.closing : Frame → Char
  | array => ']'
  | object => '\x7d'

/-- What an enclosing frame expects next. -/
inductive Awaited where
  | value
  /-- The first value or member of the innermost frame, or its end. -/
  | content
  | member
  | separator

def skipKey (s : List Char) : Except Problem (List Char) :=
  match s with
  | [] => .error .truncated
  | '\"' :: r =>
    match skipString r with
    | .error e => .error e
    | .ok r' =>
      match skipBlanks r' with
      | ':' :: r'' => .ok r''
      | _ :: _ => .error .malformed
      | [] => .error .truncated
  | _ :: _ => .error .malformed

theorem length_of_skipKey {s r : List Char} (h : skipKey s = .ok r) : r.length < s.length := by
  unfold skipKey at h
  split at h
  · cases h
  · next t =>
    split at h
    · cases h
    · next t' ht' =>
      have := length_of_skipString ht'
      have hb := length_skipBlanks_le t'
      split at h
      · next t'' heq =>
        cases h
        rw [heq, List.length_cons] at hb
        rw [List.length_cons]
        omega
      · cases h
      · cases h
  · cases h

/-- Passes over what the open frames, innermost first, still lack. -/
def skipFrames (frames : List Frame) (awaited : Awaited) (s : List Char) :
    Except Problem (List Char) :=
  match awaited, frames with
  | .separator, [] => .ok s
  | .separator, f :: fs =>
    match _hs : skipBlanks s with
    | [] => .error .truncated
    | c :: r =>
      if c = f.closing then skipFrames fs .separator r
      else if c = ',' then
        match f with
        | .array => skipFrames (f :: fs) .value r
        | .object => skipFrames (f :: fs) .member r
      else .error .malformed
  | .content, f :: fs =>
    match _hs : skipBlanks s with
    | [] => .error .truncated
    | c :: r =>
      if c = f.closing then skipFrames fs .separator r
      else
        match f with
        | .array => skipFrames (f :: fs) .value (c :: r)
        | .object => skipFrames (f :: fs) .member (c :: r)
  | .member, frames =>
    match _hk : skipKey (skipBlanks s) with
    | .error e => .error e
    | .ok r => skipFrames frames .value r
  | _, frames =>
    match _hs : skipBlanks s with
    | [] => .error .truncated
    | '[' :: r => skipFrames (.array :: frames) .content r
    | '\x7b' :: r => skipFrames (.object :: frames) .content r
    | c :: r =>
      match _hr : skipScalar (c :: r) with
      | .error e => .error e
      | .ok r' => skipFrames frames .separator r'
termination_by 2 * s.length + match awaited with | .content => 1 | _ => 0
decreasing_by
  all_goals have hb := length_skipBlanks_le s
  all_goals try rw [_hs, List.length_cons] at hb
  · omega
  · omega
  · omega
  · omega
  · rw [List.length_cons]
    omega
  · rw [List.length_cons]
    omega
  · have := length_of_skipKey _hk
    omega
  · omega
  · omega
  · have := length_of_skipScalar _hr
    rw [List.length_cons] at this
    omega

/-- Passes over a value that nobody asks for: the numbers in it may have any size, and its strings
lone surrogates. -/
def skipValue (s : List Char) : Except Problem (List Char) := skipFrames [] .value s

end Companion.Json
