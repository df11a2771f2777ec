import Companion.HostType.Basic
import Companion.Text.CharClass

namespace Companion.HostType

open Text

inductive Expectation where
  | identifier | closingBracket | closingAngle | endOfText
  deriving DecidableEq, Repr

def Expectation.text : Expectation → String
  | identifier => "expected identifier"
  | closingBracket => "expected `]`"
  | closingAngle => "expected `>`"
  | endOfText => "unexpected trailing input"

structure SpellingError where
  input : String
  /-- The place where reading stopped, in bytes of UTF-8. -/
  offset : Nat
  reason : Expectation
  deriving DecidableEq, Repr

def SpellingError.message (e : SpellingError) : String :=
  "invalid type `" ++ e.input ++ "` at offset " ++ toString e.offset ++ ": " ++ e.reason.text

/-- Where and why a scan stopped: `rest` is the text not yet read, leading blanks apart. -/
structure Stop where
  reason : Expectation
  rest : List Char
  deriving Repr

abbrev Scan (α : Type) := Except Stop (α × List Char)

def eat? (c : Char) (s : List Char) : Option (List Char) :=
  match skipBlanks s with
  | d :: r => if d = c then some r else none
  | [] => none

theorem length_of_eat? {c : Char} {s r : List Char} (h : eat? c s = some r) :
    r.length < s.length := by
  have hs := length_skipBlanks_le s
  unfold eat? at h
  split at h
  · next d t ht =>
    rw [ht, List.length_cons] at hs
    split at h
    · cases h; omega
    · cases h
  · cases h

def eatWord? (w s : List Char) : Option (List Char) :=
  let t := skipBlanks s
  if w.isPrefixOf t then some (t.drop w.length) else none

def isIdentStart (c : Char) : Bool := isAlphabetic c || c == '_' || c == '$'

def isIdentPart (c : Char) : Bool := isAlphanumeric c || c == '_' || c == '$'

def scanIdent (s : List Char) : Scan (List Char) :=
  match skipBlanks s with
  | c :: r =>
    if isIdentStart c then .ok (c :: r.takeWhile isIdentPart, r.dropWhile isIdentPart)
    else .error ⟨.identifier, c :: r⟩
  | [] => .error ⟨.identifier, []⟩

theorem length_of_scanIdent {s w r : List Char} (h : scanIdent s = .ok (w, r)) :
    r.length < s.length := by
  have hs := length_skipBlanks_le s
  unfold scanIdent at h
  split at h
  · next c t ht =>
    rw [ht, List.length_cons] at hs
    split at h
    · cases h
      have := (List.dropWhile_sublist isIdentPart (l := t)).length_le
      omega
    · cases h
  · cases h

def scanName (s : List Char) : Scan (List Char) :=
  match _h : scanIdent s with
  | .error e => .error e
  | .ok (w, r) =>
    match _hd : eat? '.' r with
    | none => .ok (w, r)
    | some r' =>
      match scanName r' with
      | .error e => .error e
      | .ok (w', r'') => .ok (w ++ '.' :: w', r'')
termination_by s.length
decreasing_by
  have := length_of_scanIdent _h
  have := length_of_eat? _hd
  omega

def isVariableName : List Char → Bool
  | c :: r => ('A' ≤ c && c ≤ 'Z') && r.all fun d => '0' ≤ d && d ≤ '9'
  | [] => false

def ofName (w : List Char) : HostType :=
  let name := String.ofList w
  if '.' ∈ w then .declared name []
  else
    match Primitive.ofKeyword? name with
    | some p => .primitive p
    | none => if isVariableName w then .var name else .declared name []

def scanBrackets (t : HostType) (s : List Char) : Scan HostType :=
  match _h : eat? '[' s with
  | none => .ok (t, s)
  | some r =>
    match _hr : eat? ']' r with
    | none => .error ⟨.closingBracket, skipBlanks r⟩
    | some r' => scanBrackets (.array t) r'
termination_by s.length
decreasing_by
  have := length_of_eat? _h
  have := length_of_eat? _hr
  omega

mutual

/-- Reads a type:

    type := base ("[" "]")*
    base := "?" ("extends" type)? | ident ("." ident)* ("<" type ("," type)* ">")?

with blanks before, between and after the tokens. The number bounds the depth of the recursion;
twice the length of the text is never exhausted. -/
def scanType : Nat → List Char → Scan HostType
  | 0, s => .error ⟨.identifier, s⟩
  | n + 1, s =>
    match eat? '?' s with
    | some r =>
      match eatWord? "extends".toList r with
      | some r' =>
        match scanType n r' with
        | .error e => .error e
        | .ok (u, r'') => scanBrackets (.wildcardExtends u) r''
      | none => scanBrackets .wildcard r
    | none =>
      match scanName s with
      | .error e => .error e
      | .ok (w, r) =>
        match eat? '<' r with
        | none => scanBrackets (ofName w) r
        | some r' =>
          match scanArgs n r' with
          | .error e => .error e
          | .ok (as, r'') => scanBrackets (.declared (String.ofList w) as) r''

def scanArgs : Nat → List Char → Scan (List HostType)
  | 0, s => .error ⟨.identifier, s⟩
  | n + 1, s =>
    match scanType n s with
    | .error e => .error e
    | .ok (a, r) =>
      match eat? ',' r with
      | some r' =>
        match scanArgs n r' with
        | .error e => .error e
        | .ok (as, r'') => .ok (a :: as, r'')
      | none =>
        match eat? '>' r with
        | some r' => .ok ([a], r')
        | none => .error ⟨.closingAngle, skipBlanks r⟩

end

def byteLength : List Char → Nat
  | [] => 0
  | c :: s => c.utf8Size + byteLength s

def scanWhole (s : List Char) : Except Stop HostType :=
  match scanType (2 * s.length + 1) s with
  | .error e => .error e
  | .ok (t, r) =>
    match skipBlanks r with
    | [] => .ok t
    | c :: r' => .error ⟨.endOfText, c :: r'⟩

def parse (input : String) : Except SpellingError HostType :=
  match scanWhole input.toList with
  | .ok t => .ok t
  | .error e => .error ⟨input, byteLength input.toList - byteLength e.rest, e.reason⟩

end Companion.HostType
