namespace Companion

/-- The decimal `digits * 10 ^ exponent`. -/
structure Decimal where
  digits : Nat
  exponent : Int
  deriving DecidableEq, Repr

namespace Decimal

structure Ratio where
  numerator : Nat
  denominator : Nat

def Ratio.scale2 (n : Nat) (e : Int) : Ratio :=
  if 0 ≤ e then ⟨n * Nat.pow 2 e.toNat, 1⟩ else ⟨n, Nat.pow 2 (-e).toNat⟩

def Ratio.scale10 (n : Nat) (e : Int) : Ratio :=
  if 0 ≤ e then ⟨n * Nat.pow 10 e.toNat, 1⟩ else ⟨n, Nat.pow 10 (-e).toNat⟩

def Ratio.lt (a b : Ratio) : Bool := a.numerator * b.denominator < b.numerator * a.denominator

def Ratio.le (a b : Ratio) : Bool := a.numerator * b.denominator ≤ b.numerator * a.denominator

def digitCount (n : Nat) : Nat := if n = 0 then 0 else (Nat.toDigits 10 n).length

def Ratio.leading (r : Ratio) : Int :=
  let whole := r.numerator / r.denominator
  if whole = 0 then
    1 - digitCount ((r.denominator + r.numerator - 1) / r.numerator - 1)
  else digitCount whole

/-- The reals that round to a number: all between the ends, and the ends if they are included. -/
structure Interval where
  low : Ratio
  high : Ratio
  closed : Bool

def Interval.contains (i : Interval) (r : Ratio) : Bool :=
  if i.closed then i.low.le r && r.le i.high else i.low.lt r && r.lt i.high

/-- The reals that round to `m * 2 ^ q`. Below the least mantissa of a binade the spacing halves. -/
def roundingInterval (m : Nat) (q : Int) : Interval where
  low :=
    if m = Nat.pow 2 52 ∧ -1074 < q then .scale2 (4 * m - 1) (q - 2)
    else .scale2 (2 * m - 1) (q - 1)
  high := .scale2 (2 * m + 1) (q - 1)
  closed := m % 2 == 0

def Ratio.floorAt (r : Ratio) (e : Int) : Nat :=
  if 0 ≤ e then r.numerator / (r.denominator * Nat.pow 10 e.toNat)
  else r.numerator * Nat.pow 10 (-e).toNat / r.denominator

/-- Of the two neighbours of `r` on the grid of step `10 ^ e`, the nearer one inside the interval; a
tie goes to the even one. -/
def nearestOnGrid? (r : Ratio) (i : Interval) (e : Int) : Option Nat :=
  let lo := r.floorAt e
  let hi := lo + 1
  match i.contains (.scale10 lo e), i.contains (.scale10 hi e) with
  | false, false => none
  | true, false => some lo
  | false, true => some hi
  | true, true =>
    let middle := Ratio.scale10 (10 * lo + 5) (e - 1)
    if r.lt middle then some lo
    else if middle.lt r then some hi
    else if lo % 2 = 0 then some lo else some hi

def trim : Nat → Decimal → Decimal
  | 0, d => d
  | n + 1, d =>
    if d.digits ≠ 0 ∧ d.digits % 10 = 0 then trim n ⟨d.digits / 10, d.exponent + 1⟩ else d

def shortestFrom (r : Ratio) (i : Interval) (leading : Int) : (count remaining : Nat) → Decimal
  | count, 0 => ⟨r.floorAt (leading - count), leading - count⟩
  | count, remaining + 1 =>
    match nearestOnGrid? r i (leading - count) with
    | some digits => trim 20 ⟨digits, leading - count⟩
    | none => shortestFrom r i leading (count + 1) remaining

/-- The shortest decimal that reads back as `m * 2 ^ q`, for a positive `m`. -/
def shortest (m : Nat) (q : Int) : Decimal :=
  let r := Ratio.scale2 m q
  shortestFrom r (roundingInterval m q) r.leading 1 17

def zeros (n : Nat) : String := String.ofList (List.replicate n '0')

def exponentText (e : Int) : String := (if 0 ≤ e then "e+" else "e-") ++ Nat.repr e.natAbs

/-- Positional from `10 ^ -5` up to `10 ^ 16`, and with an exponent elsewhere. -/
def text (d : Decimal) : String :=
  let digits := Nat.repr d.digits
  let point := digits.length + d.exponent
  if 0 ≤ d.exponent ∧ point ≤ 16 then digits ++ zeros d.exponent.toNat ++ ".0"
  else if 0 < point ∧ point ≤ 16 then
    String.ofList (digits.toList.take point.toNat) ++ "." ++
      String.ofList (digits.toList.drop point.toNat)
  else if -5 < point ∧ point ≤ 0 then "0." ++ zeros (-point).toNat ++ digits
  else
    let rest := digits.toList.drop 1
    String.ofList (digits.toList.take 1) ++
      (if rest.isEmpty then "" else "." ++ String.ofList rest) ++ exponentText (point - 1)

/-- The text of a finite number; the sign of zero shows. -/
def floatText (x : Float) : String :=
  let bits : Nat := x.toBits.toNat
  let fraction : Nat := bits % Nat.pow 2 52
  let biased : Nat := bits / Nat.pow 2 52 % Nat.pow 2 11
  let m : Nat := if biased = 0 then fraction else fraction + Nat.pow 2 52
  let q : Int := if biased = 0 then -1074 else (biased : Int) - 1075
  (if bits / Nat.pow 2 63 = 1 then "-" else "") ++ if m = 0 then "0.0" else (shortest m q).text

end Decimal

end Companion
