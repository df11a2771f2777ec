import Companion.Decimal
import Companion.Json.Problem

namespace Companion.Json

/-- A reader takes a value from the front of a text and leaves the text after it. -/
abbrev Reader (α : Type) := List Char → Except Problem (α × List Char)

def isBlank (c : Char) : Bool := c == ' ' || c == '\t' || c == '\n' || c == '\r'

def skipBlanks (s : List Char) : List Char := s.dropWhile isBlank

theorem length_skipBlanks_le (s : List Char) : (skipBlanks s).length ≤ s.length :=
  (List.dropWhile_sublist isBlank).length_le

def word : List Char → List Char → Except Problem (List Char)
  | [], s => .ok s
  | _ :: _, [] => .error .truncated
  | w :: ws, c :: s => if c = w then word ws s else .error .malformed

theorem length_of_word {w s r : List Char} (h : word w s = .ok r) : r.length ≤ s.length := by
  fun_induction word w s with
  | case1 s => cases h; exact Nat.le_refl _
  | case2 => cases h
  | case3 ws c s ih => exact Nat.le_succ_of_le (ih h)
  | case4 => cases h

def hexDigit? (c : Char) : Option Nat :=
  if '0' ≤ c ∧ c ≤ '9' then some (c.toNat - '0'.toNat)
  else if 'a' ≤ c ∧ c ≤ 'f' then some (c.toNat - 'a'.toNat + 10)
  else if 'A' ≤ c ∧ c ≤ 'F' then some (c.toNat - 'A'.toNat + 10)
  else none

def hex4? (a b c d : Char) : Option Nat := do
  return (((← hexDigit? a) * 16 + (← hexDigit? b)) * 16 + (← hexDigit? c)) * 16 + (← hexDigit? d)

/-- Why four digits could not be taken: the text ends within four bytes, or has something else. -/
def hexProblem (s : List Char) : Problem :=
  if (String.ofList s).utf8ByteSize < 4 then .truncated else .malformed

def hex4 (s : List Char) : Except Problem (Nat × List Char) :=
  match s with
  | a :: b :: c :: d :: r =>
    match hex4? a b c d with
    | some n => .ok (n, r)
    | none => .error .malformed
  | _ => .error (hexProblem s)

theorem length_of_hex4 {s r : List Char} {n : Nat} (h : hex4 s = .ok (n, r)) :
    r.length < s.length := by
  unfold hex4 at h
  split at h
  · split at h
    · cases h; simp only [List.length_cons]; omega
    · cases h
  · cases h

def isHighSurrogate (n : Nat) : Bool := 0xD800 ≤ n && n ≤ 0xDBFF

def isLowSurrogate (n : Nat) : Bool := 0xDC00 ≤ n && n ≤ 0xDFFF

def pairEscape : List Char → Except Problem (List Char)
  | [] => .error .truncated
  | '\\' :: [] => .error .truncated
  | '\\' :: 'u' :: r => .ok r
  | _ => .error .malformed

theorem length_of_pairEscape {s r : List Char} (h : pairEscape s = .ok r) :
    r.length < s.length := by
  unfold pairEscape at h
  split at h
  · cases h
  · cases h
  · cases h; exact Nat.lt_succ_of_lt (Nat.lt_succ_self _)
  · cases h

def unicodeEscape (s : List Char) : Except Problem (Char × List Char) := do
  let (n, r) ← hex4 s
  if isLowSurrogate n then .error .malformed
  else if isHighSurrogate n then
    let r ← pairEscape r
    let (m, r) ← hex4 r
    if isLowSurrogate m then
      .ok (Char.ofNat (0x10000 + (n - 0xD800) * 0x400 + (m - 0xDC00)), r)
    else .error .malformed
  else .ok (Char.ofNat n, r)

def simpleEscape? : Char → Option Char
  | '\"' => some '\"'
  | '\\' => some '\\'
  | '/' => some '/'
  | 'b' => some '\x08'
  | 'f' => some '\x0c'
  | 'n' => some '\n'
  | 'r' => some '\r'
  | 't' => some '\t'
  | _ => none

def escape (s : List Char) : Except Problem (Char × List Char) :=
  match s with
  | [] => .error .truncated
  | 'u' :: r => unicodeEscape r
  | c :: r =>
    match simpleEscape? c with
    | some d => .ok (d, r)
    | none => .error .malformed

theorem length_of_unicodeEscape {s r : List Char} {c : Char}
    (h : unicodeEscape s = .ok (c, r)) : r.length < s.length := by
  unfold unicodeEscape at h
  cases h₁ : hex4 s with
  | error e => simp [h₁, bind, Except.bind] at h
  | ok p =>
    obtain ⟨n, r₁⟩ := p
    have l₁ := length_of_hex4 h₁
    simp only [h₁, bind, Except.bind] at h
    split at h
    · cases h
    · split at h
      · cases h₂ : pairEscape r₁ with
        | error e => simp [h₂] at h
        | ok r₂ =>
          have l₂ := length_of_pairEscape h₂
          simp only [h₂] at h
          cases h₃ : hex4 r₂ with
          | error e => simp [h₃] at h
          | ok q =>
            obtain ⟨m, r₃⟩ := q
            have l₃ := length_of_hex4 h₃
            simp only [h₃] at h
            split at h
            · simp only [Except.ok.injEq, Prod.mk.injEq] at h
              rw [← h.2]
              omega
            · cases h
      · simp only [Except.ok.injEq, Prod.mk.injEq] at h
        rw [← h.2]
        exact l₁

theorem length_of_escape {s r : List Char} {c : Char} (h : escape s = .ok (c, r)) :
    r.length < s.length := by
  unfold escape at h
  split at h
  · cases h
  · exact Nat.lt_succ_of_lt (length_of_unicodeEscape h)
  · split at h
    · cases h; exact Nat.lt_succ_self _
    · cases h

def stringBody (s : List Char) : Except Problem (List Char × List Char) :=
  match s with
  | [] => .error .truncated
  | '\"' :: r => .ok ([], r)
  | '\\' :: r =>
    match _h : escape r with
    | .error e => .error e
    | .ok (c, r') =>
      match stringBody r' with
      | .error e => .error e
      | .ok (cs, r'') => .ok (c :: cs, r'')
  | c :: r =>
    if c.toNat < 0x20 then .error .malformed
    else
      match stringBody r with
      | .error e => .error e
      | .ok (cs, r') => .ok (c :: cs, r')
termination_by s.length
decreasing_by
  · exact Nat.lt_succ_of_lt (length_of_escape _h)
  · exact Nat.lt_succ_self _

def stringRest : Reader String := fun s =>
  match stringBody s with
  | .error e => .error e
  | .ok (cs, r) => .ok (String.ofList cs, r)

def skipEscape (s : List Char) : Except Problem (List Char) :=
  match s with
  | [] => .error .truncated
  | 'u' :: r => (hex4 r).map (·.2)
  | c :: r => if (simpleEscape? c).isSome then .ok r else .error .malformed

theorem length_of_skipEscape {s r : List Char} (h : skipEscape s = .ok r) :
    r.length < s.length := by
  unfold skipEscape at h
  split at h
  · cases h
  · next t =>
    cases ht : hex4 t with
    | error e => simp [ht, Except.map] at h
    | ok p =>
      have := length_of_hex4 (n := p.1) (r := p.2) ht
      simp only [ht, Except.map, Except.ok.injEq] at h
      subst h
      exact Nat.lt_succ_of_lt this
  · split at h
    · cases h; exact Nat.lt_succ_self _
    · cases h

def skipString (s : List Char) : Except Problem (List Char) :=
  match s with
  | [] => .error .truncated
  | '\"' :: r => .ok r
  | '\\' :: r =>
    match _h : skipEscape r with
    | .error e => .error e
    | .ok r' => skipString r'
  | c :: r => if c.toNat < 0x20 then .error .malformed else skipString r
termination_by s.length
decreasing_by
  · exact Nat.lt_succ_of_lt (length_of_skipEscape _h)
  · exact Nat.lt_succ_self _

def isDigit (c : Char) : Bool := '0' ≤ c && c ≤ '9'

structure Numeral where
  whole : List Char
  fraction : Option (List Char) := none
  /-- Whether the exponent is positive, and its digits. -/
  exponent : Option (Bool × List Char) := none

def digits (atEnd : Problem) (s : List Char) : Except Problem (List Char × List Char) :=
  match s with
  | [] => .error atEnd
  | c :: _ =>
    if isDigit c then .ok (s.takeWhile isDigit, s.dropWhile isDigit) else .error .malformed

def wholeDigits (atEnd : Problem) (s : List Char) : Except Problem (List Char × List Char) :=
  match s with
  | '0' :: r =>
    match r with
    | d :: _ => if isDigit d then .error .malformed else .ok (['0'], r)
    | [] => .ok (['0'], r)
  | _ => digits atEnd s

def fractionPart (atEnd : Problem) (s : List Char) :
    Except Problem (Option (List Char) × List Char) :=
  match s with
  | '.' :: r => (digits atEnd r).map fun p => (some p.1, p.2)
  | _ => .ok (none, s)

def exponentSign : List Char → Bool × List Char
  | '+' :: r => (true, r)
  | '-' :: r => (false, r)
  | r => (true, r)

def exponentPart (atEnd : Problem) (s : List Char) :
    Except Problem (Option (Bool × List Char) × List Char) :=
  match s with
  | c :: r =>
    if c = 'e' ∨ c = 'E' then
      let (positive, r') := exponentSign r
      (digits atEnd r').map fun p => (some (positive, p.1), p.2)
    else .ok (none, s)
  | [] => .ok (none, [])

def numeral (atEnd : Problem) (s : List Char) : Except Problem (Numeral × List Char) := do
  let (whole, r) ← wholeDigits atEnd s
  let (fraction, r) ← fractionPart atEnd r
  let (exponent, r) ← exponentPart atEnd r
  return ({ whole, fraction, exponent }, r)

def natOfDigits (n : Nat) (ds : List Char) : Nat :=
  ds.foldl (fun n c => n * 10 + (c.toNat - '0'.toNat)) n

/-- The digits taken into a significand of 64 bits, and those left over. -/
def fillSignificand (n : Nat) : List Char → Nat × List Char
  | [] => (n, [])
  | c :: cs =>
    let n' := n * 10 + (c.toNat - '0'.toNat)
    if n' < Nat.pow 2 64 then fillSignificand n' cs else (n, c :: cs)

def powerOfTen (e : Nat) : Float := Float.ofScientific 1 false e

def scale : Nat → Float → Int → Option Float
  | 0, x, _ => some x
  | fuel + 1, x, e =>
    if e.natAbs ≤ 308 then
      if 0 ≤ e then
        let y := x * powerOfTen e.toNat
        if y.isInf then none else some y
      else some (x / powerOfTen e.natAbs)
    else if x == 0 then some x
    else if 0 ≤ e then none
    else scale fuel (x / powerOfTen 308) (e + 308)

/-- What a number stands for: an integer of at most 64 bits, or else a floating-point number, for
which at most the first nineteen or twenty digits count. Numbers out of range have no value. -/
def Numeral.found? (n : Numeral) (negative : Bool) : Option Found :=
  let (whole, spare) := fillSignificand 0 n.whole
  let integral : Option Int :=
    if n.fraction.isSome || n.exponent.isSome || !spare.isEmpty then none
    else if !negative then some whole
    else if 0 < whole ∧ whole ≤ Nat.pow 2 63 then some (-whole)
    else none
  match integral with
  | some i => some (.integer i)
  | none =>
    let (significand, unused) := fillSignificand whole (n.fraction.getD [])
    let shift : Int := spare.length - ((n.fraction.getD []).length - unused.length : Nat)
    let size (x : Float) : Found := .real (Decimal.floatText (if negative then -x else x))
    match n.exponent with
    | none => (scale 8 significand.toFloat shift).map size
    | some (positive, ds) =>
      let e := natOfDigits 0 ds
      if Nat.pow 2 31 ≤ e then
        if significand ≠ 0 ∧ positive then none else some (size 0)
      else (scale 8 significand.toFloat (if positive then shift + e else shift - e)).map size

end Companion.Json
